/-! Names that tell runs apart: 128 bits in groups of hexadecimal digits, marked as random. -/
namespace DueReminders

structure RunId where
  bits : BitVec 128
  deriving DecidableEq

namespace RunId

/-- The name of a random number; four bits tell the version and two the variant. -/
def ofBits (random : BitVec 128) : RunId :=
  let version := (random &&& ~~~(0xF000#128 <<< 64)) ||| (0x4000#128 <<< 64)
  ⟨(version &&& ~~~(0xC000#128 <<< 48)) ||| (0x8000#128 <<< 48)⟩

def digit (id : RunId) (place : Nat) : Char :=
  Nat.digitChar (id.bits.toNat / Nat.pow 16 (31 - place) % 16)

/-- Groups of 8, 4, 4, 4 and 12 digits with hyphens between them. -/
def chars (id : RunId) : List Char :=
  let group (start length : Nat) : List Char := (List.range' start length).map id.digit
  ['-'].intercalate [group 0 8, group 8 4, group 12 4, group 16 4, group 20 12]

def text (id : RunId) : String := String.ofList id.chars

end RunId
end DueReminders
