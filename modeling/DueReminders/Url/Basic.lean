import DueReminders.Url.Host

/-! URLs by their parts. A few special schemes always have a host and a path; other URLs may lack a
host, or have an opaque path that nothing can be relative to. -/
namespace DueReminders

namespace Url

/-- How the parts of a URL are read, which depends on its scheme. -/
inductive SchemeKind where
  | file
  | special
  | other
  deriving DecidableEq, Repr

def SchemeKind.ofScheme (scheme : List Char) : SchemeKind :=
  if scheme = "file".toList then .file
  else if ["http", "https", "ws", "wss", "ftp"].any fun name => name.toList == scheme then .special
  else .other

def SchemeKind.isSpecial (kind : SchemeKind) : Bool := kind != .other

def defaultPort? (scheme : List Char) : Option Nat :=
  [("http", 80), ("ws", 80), ("https", 443), ("wss", 443), ("ftp", 21)].lookup (String.ofList scheme)

/-- Who and where: user, password, host and port. -/
structure Authority where
  user : List Char
  password : List Char
  host : Host
  port : Option Nat
  deriving DecidableEq, Repr

/-- A path of segments, each with a slash before it, or a text without structure. -/
inductive UrlPath where
  | segments (names : List (List Char))
  | text (content : List Char)
  deriving DecidableEq, Repr

end Url

structure Url where
  scheme : List Char
  authority : Option Url.Authority
  path : Url.UrlPath
  query : Option (List Char)
  fragment : Option (List Char)
  deriving DecidableEq, Repr

namespace Url

def kind (url : Url) : SchemeKind := .ofScheme url.scheme

def isOpaque (url : Url) : Bool := url.path matches .text _

/-- The segments of the path; an opaque path has none. -/
def segments (url : Url) : List (List Char) :=
  match url.path with
  | .segments names => names
  | .text _ => []

def host? (url : Url) : Option Host := url.authority.map Authority.host

def withoutFragment (url : Url) : Url := { url with fragment := none }

def withoutUserInfo (url : Url) : Url :=
  { url with
    authority := url.authority.map fun authority => { authority with user := [], password := [] } }

def Authority.write (authority : Authority) : List Char :=
  let password := if authority.password.isEmpty then [] else ':' :: authority.password
  let userInfo := authority.user ++ password
  let port :=
    match authority.port with
    | some port => ':' :: Number.digits port
    | none => []
  (if userInfo.isEmpty then [] else userInfo ++ ['@']) ++ authority.host.write ++ port

def writeSegments (names : List (List Char)) : List Char := names.flatMap fun name => '/' :: name

/-- The text of a URL. A dot keeps a path that begins with two slashes apart from a host. -/
def write (url : Url) : List Char :=
  let authority :=
    match url.authority, url.path with
    | some authority, _ => '/' :: '/' :: authority.write
    | none, .segments ([] :: _ :: _) => ['/', '.']
    | none, _ => []
  let path :=
    match url.path with
    | .segments names => writeSegments names
    | .text content => content
  let query :=
    match url.query with
    | some query => '?' :: query
    | none => []
  let fragment :=
    match url.fragment with
    | some fragment => '#' :: fragment
    | none => []
  url.scheme ++ ':' :: authority ++ path ++ query ++ fragment

def text (url : Url) : String := String.ofList url.write

end Url
end DueReminders
