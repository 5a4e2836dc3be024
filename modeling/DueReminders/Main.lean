import DueReminders.Mail.Relay
import DueReminders.Program
import Std.Time.DateTime.Timestamp

/-! The command. Settings come from the environment and templates from their folder. It has no
network of its own, so every site stays silent and no relay is reached. -/
namespace DueReminders.Command

def readVariables : IO Variables := do
  let entries ← (Program.logVariable :: Variables.names).filterMapM fun name => do
    return (← IO.getEnv name).map (name, ·)
  return .ofList entries

/-- The present instant of universal time. -/
def now : IO DateTime := do
  let since := (← Std.Time.Timestamp.now).toNanosecondsSinceUnixEpoch.toInt
  let nano := (since % 1000000000).toNat
  let start : Option DateTime := (Date.ofCivil? ⟨1970, 1, 1⟩).map .atMidnight
  let moment? := start.bind fun start => start.addSeconds? (since / 1000000000)
  match moment?.bind fun moment =>
      let time := moment.time
      (ClockTime.ofParts? time.hour time.minute time.secondOfMinute nano).map (⟨moment.date, ·⟩) with
  | some moment => return moment
  | none => throw (.userError "the clock is outside the calendar")

def plant (tree : FileTree) (path : Path) (content : ByteArray) : FileTree :=
  let step (reached : FileTree × Place) (name : String) : FileTree × Place :=
    let (tree, place) := reached
    if name = ".." then (tree, place.dropLast) else (tree.put place .folder, place ++ [name])
  let (tree, place) := path.names.foldl step (tree, [])
  tree.put place (.file content)

/-- The tree with a file of the disk, when there is one. -/
def takeFile (tree : FileTree) (path : String) : IO FileTree := do
  match ← (IO.FS.readBinFile path).toBaseIO with
  | .ok content => return plant tree (.ofText path) content
  | .error _ => return tree

def readFiles (given : Variables) : IO FileTree := do
  let current := (← IO.currentDir).toString
  let folder :=
    match Settings.read given with
    | .ok settings => Path.join current settings.templateFolder
    | .error _ => current
  let tree : FileTree := ⟨(Path.ofText current).names, []⟩
  [Templates.digestFile, Templates.itemFile].foldlM
    (fun tree name => takeFile tree (Path.join folder name)) tree

def writeFiles (before after : FileTree) : IO Unit :=
  after.entries.forM fun (place, entry) => do
    if before.lookup? place ≠ some entry then
      let path := "/" ++ "/".intercalate place
      match entry with
      | .folder => IO.FS.createDirAll path
      | .file content => IO.FS.writeBinFile path content

end DueReminders.Command

open DueReminders Command in
/-- Run once; the exit code tells whether all went well. -/
def main : IO UInt32 := do
  let given ← readVariables
  let now ← now
  let random ← IO.getRandomBytes 16
  let id := RunId.ofBits (random.foldl (fun bits byte => bits <<< 8 ||| byte.toBitVec.setWidth 128) 0)
  let files ← readFiles given
  let site : Site.Transport Unit := fun _ => pure .silence
  let relay : Relay Unit := fun _ => pure (.error .unreachable)
  let (ended, after) := Program.run given now id site (.ofRelay relay) ⟨(), (), files⟩
  writeFiles files after.files
  for entry in ended.log.filter (Program.logFilter given).admits do
    IO.println (entry.line now)
  IO.eprint ended.complaint
  return .ofNat ended.exitCode
