import DueReminders.Url.Basic

/-! Reading URLs, alone or relative to a base. -/
namespace DueReminders.Url

def isTabOrNewline (c : Char) : Bool := c == '\t' || c == '\n' || c == '\r'

/-- The text without controls and spaces around it, and without tabs and line ends inside. -/
def tidy (text : List Char) : List Char :=
  let isEdge (c : Char) : Bool := c.toNat ≤ 0x20
  ((text.dropWhile isEdge).reverse.dropWhile isEdge).reverse.filter (!isTabOrNewline ·)

def isSchemeCharacter (c : Char) : Bool := c.isAlphanum || c == '+' || c == '-' || c == '.'

/-- The scheme in small letters and the text after its colon. -/
def takeScheme? (text : List Char) : Option (List Char × List Char) :=
  match text.head?, text.dropWhile isSchemeCharacter with
  | some first, ':' :: rest =>
    if first.isAlpha then some ((text.takeWhile isSchemeCharacter).map Char.toLower, rest) else none
  | _, _ => none

def isSlash (c : Char) : Bool := c == '/' || c == '\\'

/-- A slash as the scheme knows it: special schemes take a backslash for one. -/
def SchemeKind.isSlash (kind : SchemeKind) (c : Char) : Bool :=
  c == '/' || (c == '\\' && kind.isSpecial)

/-- The text before the query or fragment, and the rest. -/
def beforeQuery (text : List Char) : List Char × List Char :=
  (text.takeWhile fun c => c != '?' && c != '#', text.dropWhile fun c => c != '?' && c != '#')

/-- Query and fragment of a text that starts with either or is empty. -/
def readTail (kind : SchemeKind) (text : List Char) : Option (List Char) × Option (List Char) :=
  let plain := if kind.isSpecial then specialQueryPlain else queryPlain
  let fragment (rest : List Char) : Option (List Char) :=
    match rest with
    | '#' :: rest => some (percentEncode fragmentPlain rest)
    | _ => none
  match text with
  | '?' :: rest =>
    (some (percentEncode plain (rest.takeWhile (· != '#'))), fragment (rest.dropWhile (· != '#')))
  | rest => (none, fragment rest)

def splitSlashes (kind : SchemeKind) : List Char → List (List Char)
  | [] => [[]]
  | c :: rest =>
    if kind.isSlash c then [] :: splitSlashes kind rest
    else
      match splitSlashes kind rest with
      | [] => [[c]]
      | head :: tail => (c :: head) :: tail

/-- A segment that stands for its own folder, also with the dot encoded. -/
def isSingleDot (segment : List Char) : Bool :=
  [".", "%2e"].any fun dot => dot.toList == segment.map Char.toLower

/-- A segment that stands for the folder above. -/
def isDoubleDot (segment : List Char) : Bool :=
  ["..", ".%2e", "%2e.", "%2e%2e"].any fun dots => dots.toList == segment.map Char.toLower

/-- A letter with a colon, or with a bar that stands for one. -/
def isDrive : List Char → Bool
  | [letter, mark] => letter.isAlpha && (mark == ':' || mark == '|')
  | _ => false

def isNormalDrive (segment : List Char) : Bool := isDrive segment && segment.getLast? == some ':'

/-- The segments entered so far, the last one first. -/
abbrev Trail := List (List Char)

/-- Leave a folder; the drive of a file stays. -/
def leave (kind : SchemeKind) (trail : Trail) : Trail :=
  match kind, trail with
  | .file, last :: above => if isNormalDrive last then trail else above
  | _, _ => trail.tail

/-- Enter one segment after another. Dots at the end leave an empty name. -/
def enter (kind : SchemeKind) (trail : Trail) : List (List Char) → Trail
  | [] => trail
  | raw :: rest =>
    let segment := percentEncode pathPlain raw
    if isDoubleDot segment then
      let left := leave kind trail
      if rest.isEmpty then [] :: left else enter kind left rest
    else if isSingleDot segment then
      if rest.isEmpty then [] :: trail else enter kind trail rest
    else if kind = .file ∧ trail = [] ∧ isDrive segment then
      enter kind [segment.take 1 ++ [':']] rest
    else enter kind (segment :: trail) rest

/-- The segments of a path below others. A file's path does not begin with empty names. -/
def resolvePath (kind : SchemeKind) (trail : Trail) (text : List Char) : List (List Char) :=
  let entered := (enter kind trail (splitSlashes kind text)).reverse
  if kind = .file then
    match entered.dropWhile List.isEmpty with
    | [] => [[]]
    | solid => solid
  else entered

def readPath (kind : SchemeKind) (text : List Char) : List (List Char) :=
  match text with
  | [] => if kind.isSpecial then [[]] else []
  | c :: rest => resolvePath kind [] (if kind.isSlash c then rest else c :: rest)

def splitUserInfo (text : List Char) : Option (List Char) × List Char :=
  let host := (text.reverse.takeWhile (· != '@')).reverse
  if text.contains '@' then (some (text.take (text.length - host.length - 1)), host) else (none, host)

/-- The host and the port with its colon; a colon in brackets belongs to the host. -/
def splitPort : Bool → List Char → List Char × List Char
  | _, [] => ([], [])
  | bracketed, c :: rest =>
    if c = ':' ∧ ¬bracketed then ([], c :: rest)
    else
      let (host, port) := splitPort (if c = '[' then true else if c = ']' then false else bracketed) rest
      (c :: host, port)

/-- A port of at most 65535, up to a slash; the default port of the scheme is left out. -/
def readPort (scheme text : List Char) : Except UrlError (Option Nat × List Char) :=
  let digits := text.takeWhile Char.isDigit
  let rest := text.dropWhile Char.isDigit
  if 65535 < Number.ofDigits digits then .error .port
  else if ¬rest.isEmpty ∧ ¬rest.head?.any isSlash then .error .port
  else if digits.isEmpty ∨ defaultPort? scheme = some (Number.ofDigits digits) then .ok (none, rest)
  else .ok (some (Number.ofDigits digits), rest)

/-- The URL after the two slashes of its authority. -/
def readAuthority (scheme : List Char) (text : List Char) : Except UrlError Url := do
  let kind := SchemeKind.ofScheme scheme
  let ends (c : Char) : Bool := kind.isSlash c || c == '?' || c == '#'
  let inside := text.takeWhile (!ends ·)
  let outside := text.dropWhile (!ends ·)
  let (userInfo, place) := splitUserInfo inside
  if userInfo = some [] ∧ place.isEmpty ∧ ¬outside.isEmpty then throw .emptyHost
  let info := userInfo.getD []
  let user := percentEncode userInfoPlain (info.takeWhile (· != ':'))
  let password := percentEncode userInfoPlain ((info.dropWhile (· != ':')).drop 1)
  let (name, port) := splitPort false place
  if kind = .special ∧ name.isEmpty then throw .emptyHost
  let host ← if kind.isSpecial then Host.read name else Host.readOpaque name
  if host.isEmpty ∧ (kind.isSpecial ∨ ¬port.isEmpty) then throw .emptyHost
  let (port, more) ←
    match port with
    | _ :: digits => readPort scheme digits
    | [] => pure (none, [])
  if host.isEmpty ∧ (¬user.isEmpty ∨ ¬password.isEmpty) then throw .emptyHost
  let (path, tail) := beforeQuery (more ++ outside)
  let (query, fragment) := readTail kind tail
  return ⟨scheme, some ⟨user, password, host, port⟩, .segments (readPath kind path), query, fragment⟩

def withPath (url : Url) (names : List (List Char)) (tail : List Char) : Url :=
  let (query, fragment) := readTail url.kind tail
  { url with path := .segments names, query, fragment }

/-- A text relative to a base with a path of segments. -/
def readRelative (base : Url) (text : List Char) : Except UrlError Url :=
  let kind := base.kind
  match text with
  | [] => .ok base.withoutFragment
  | '?' :: _ =>
    let (query, fragment) := readTail kind text
    .ok { base with query, fragment }
  | '#' :: rest => .ok { base with fragment := some (percentEncode fragmentPlain rest) }
  | first :: rest =>
    if isSlash first ∧ rest.head?.any isSlash then
      match text with
      | '/' :: '/' :: after => readAuthority base.scheme after
      | _ => readAuthority base.scheme (text.dropWhile isSlash)
    else if isSlash first then
      let (path, tail) := beforeQuery rest
      .ok (base.withPath (resolvePath kind [] path) tail)
    else
      let (path, tail) := beforeQuery text
      .ok (base.withPath (resolvePath kind (leave kind base.segments.reverse) path) tail)

def fileScheme : List Char := ['f', 'i', 'l', 'e']

def fileAt (host : Host) (names : List (List Char)) (tail : List Char) : Url :=
  let (query, fragment) := readTail .file tail
  ⟨fileScheme, some ⟨[], [], host, none⟩, .segments names, query, fragment⟩

def startsWithDrive (text : List Char) : Bool :=
  isDrive (text.take 2) && (text.drop 2).head?.all fun c => isSlash c || c == '?' || c == '#'

/-- A file after its scheme; the base, if there is one, is a file as well. -/
def readFile (base : Option Url) (text : List Char) : Except UrlError Url := do
  let nowhere : Host := .domain []
  match text with
  | first :: second :: rest =>
    if isSlash first ∧ isSlash second then
      let ends (c : Char) : Bool := isSlash c || c == '?' || c == '#'
      let name := rest.takeWhile (!ends ·)
      let (path, tail) := beforeQuery (rest.dropWhile (!ends ·))
      if isDrive name then
        let (path, tail) := beforeQuery rest
        return fileAt nowhere (resolvePath .file [] path) tail
      if name.isEmpty then
        return fileAt nowhere (readPath .file path) tail
      let host ← Host.read name
      let names := readPath .file path
      if host = .domain "localhost".toList ∨ names.head?.any isNormalDrive then
        return fileAt nowhere names tail
      return fileAt host names tail
  | _ => pure ()
  match text with
  | first :: rest =>
    if isSlash first then
      let (path, tail) := beforeQuery rest
      match base with
      | some base =>
        if startsWithDrive rest then
          return fileAt nowhere (resolvePath .file [] path) tail
        match base.segments with
        | drive :: _ =>
          if isNormalDrive drive then
            return fileAt nowhere (resolvePath .file [drive] path) tail
          return fileAt (base.host?.getD nowhere) (resolvePath .file [] path) tail
        | [] => return fileAt (base.host?.getD nowhere) (resolvePath .file [] path) tail
      | none => return fileAt nowhere (resolvePath .file [] path) tail
  | [] => pure ()
  match base with
  | none =>
    let (path, tail) := beforeQuery text
    return fileAt nowhere (resolvePath .file [] path) tail
  | some base =>
    if startsWithDrive text then
      let (path, tail) := beforeQuery text
      return fileAt nowhere (resolvePath .file [] path) tail
    readRelative base text

/-- The URL of another scheme after its colon. -/
def readOther (scheme : List Char) (text : List Char) : Except UrlError Url :=
  match text with
  | '/' :: '/' :: rest => readAuthority scheme rest
  | '/' :: rest =>
    let (path, tail) := beforeQuery rest
    let (query, fragment) := readTail .other tail
    .ok ⟨scheme, none, .segments (resolvePath .other [] path), query, fragment⟩
  | _ =>
    let (path, tail) := beforeQuery text
    let (query, fragment) := readTail .other tail
    .ok ⟨scheme, none, .text (percentEncode isPrintable path), query, fragment⟩

def readTidy (base : Option Url) (text : List Char) : Except UrlError Url :=
  match takeScheme? text with
  | some (scheme, rest) =>
    match SchemeKind.ofScheme scheme with
    | .file => readFile (base.filter fun base => base.kind == .file) rest
    | .other => readOther scheme rest
    | .special =>
      match base with
      | some base =>
        if base.scheme = scheme ∧ (rest.takeWhile isSlash).length < 2 then
          readRelative base rest
        else readAuthority scheme (rest.dropWhile isSlash)
      | none => readAuthority scheme (rest.dropWhile isSlash)
  | none =>
    match base with
    | none => .error .noBase
    | some base =>
      match text with
      | '#' :: rest => .ok { base with fragment := some (percentEncode fragmentPlain rest) }
      | _ =>
        if base.isOpaque then .error .opaqueBase
        else if base.kind = .file then readFile (some base) text
        else readRelative base text

def read (text : String) : Except UrlError Url := readTidy none (tidy text.toList)

/-- The URL a text stands for on a page with this URL. -/
def join (base : Url) (text : String) : Except UrlError Url := readTidy (some base) (tidy text.toList)

end DueReminders.Url
