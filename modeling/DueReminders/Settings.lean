import DueReminders.Classify
import DueReminders.Number.Integer
import DueReminders.Zone.Registry

/-! The settings of a run, read from named texts such as environment variables. A blank text counts
as missing. -/
namespace DueReminders

/-- Who the site and the relay are told we are. -/
inductive Credentials where
  | anonymous
  | basic (user password : String)
  | bearer (token : String)
  deriving DecidableEq, Repr

/-- The mail relay and how to log in to it. -/
structure RelaySettings where
  server : String
  port : Nat
  secure : Bool
  username : Option String
  password : Option String
  deriving DecidableEq, Repr

structure Settings where
  siteUrl : String
  listTitle : String
  credentials : Credentials
  maxItems : Nat
  criteria : Criteria
  assigneeField : String
  sender : String
  copyTo : Option String
  operator : String
  subject : String
  failureSubject : String
  relay : RelaySettings
  templateFolder : String
  archiveFolder : Option String
  zone : Zone

/-- Why settings were refused. -/
inductive SettingsError where
  | missing (key : String)
  | notInteger (key : String) (cause : Number.IntegerRefusal)
  | daysOutOfRange (days : Int)
  | notBoolean (key : String) (content : String)
  | unknownZone
  deriving DecidableEq, Repr

/-- Overdue days are accepted up to this number. -/
def maxOverdueDays : Int := 36500

def SettingsError.message : SettingsError → String
  | .missing key => key ++ ": environment variable not found"
  | .notInteger key cause => key ++ ": " ++ cause.message
  | .daysOutOfRange days =>
    "WAY_OVERDUE_DELTA: expected 0 to " ++ String.ofList (Number.signed maxOverdueDays) ++ " days, got "
      ++ String.ofList (Number.signed days)
  | .notBoolean key content => key ++ ": expected a boolean, got \x27" ++ content ++ "\x27"
  | .unknownZone => "TIME_ZONE: failed to parse timezone"

/-- The named texts settings are read from. -/
abbrev Variables := String → Option String

namespace Variables

def names : List String :=
  ["SITE_URL", "LIST_TITLE", "SP_BEARER_TOKEN", "SP_USERNAME", "SP_PASSWORD", "SP_DOMAIN", "MAX_ITEMS",
    "FILTER_FIELD_NAME", "FILTER_FIELD_VALUE", "DUE_DATE_FIELD_NAME", "MODIFIED_FIELD_NAME",
    "ASSIGNED_TO_FIELD_NAME", "WAY_OVERDUE_DELTA", "FROM_EMAIL", "CC_EMAIL", "ERROR_TO", "EMAIL_SUBJECT",
    "ERROR_EMAIL_SUBJECT", "SMTP_SERVER", "SMTP_PORT", "SMTP_SSL", "SMTP_USERNAME", "SMTP_PASSWORD",
    "TEMPLATE_DIR", "ARCHIVE_DIR", "TIME_ZONE"]

def ofList (entries : List (String × String)) : Variables := fun key => entries.lookup key

def withoutBlanks (given : Variables) : Variables := fun key =>
  (given key).filter fun content => !Text.isBlankText content

def required (given : Variables) (key : String) : Except SettingsError String :=
  match given key with
  | some content => .ok content
  | none => .error (.missing key)

/-- A whole number with blanks around it allowed. -/
def integer (given : Variables) (key : String) (range : Number.IntegerRange) (default : Int) :
    Except SettingsError Int :=
  match given key with
  | some content => (range.read (Text.trim content.toList)).mapError (.notInteger key)
  | none => .ok default

/-- One of a few words for yes and no, in any ASCII case; missing means no. -/
def boolean (given : Variables) (key : String) : Except SettingsError Bool :=
  match given key with
  | none => .ok false
  | some content =>
    let word := String.ofList ((Text.trim content.toList).map Char.toLower)
    if word ∈ ["true", "1", "yes"] then .ok true
    else if word ∈ ["false", "0", "no"] then .ok false
    else .error (.notBoolean key word)

def overdueDays (given : Variables) : Except SettingsError Int := do
  let days ← given.integer "WAY_OVERDUE_DELTA" .signed64 7
  if 0 ≤ days ∧ days ≤ maxOverdueDays then .ok days else .error (.daysOutOfRange days)

/-- A zone by its exact name; universal time when missing. -/
def zone (given : Variables) : Except SettingsError Zone :=
  match given "TIME_ZONE" with
  | none => .ok (Zone.universal "UTC")
  | some name =>
    match Zone.named? name with
    | some zone => .ok zone
    | none => .error .unknownZone

/-- A token comes before a user, and a user may belong to a domain. -/
def credentials (given : Variables) : Credentials :=
  match given "SP_BEARER_TOKEN", given "SP_USERNAME" with
  | some token, _ => .bearer token
  | none, some user =>
    .basic
      (match given "SP_DOMAIN" with
        | some domain => domain ++ "\\" ++ user
        | none => user)
      ((given "SP_PASSWORD").getD "")
  | none, none => .anonymous

end Variables

namespace Settings

/-- Settings from variables none of which is blank. The first problem in this order is reported. -/
def readSolid (given : Variables) : Except SettingsError Settings := do
  let orDefault (key default : String) : String := (given key).getD default
  let siteUrl ← given.required "SITE_URL"
  let listTitle ← given.required "LIST_TITLE"
  let maxItems ← given.integer "MAX_ITEMS" .word32 100
  let overdueDays ← given.overdueDays
  let sender ← given.required "FROM_EMAIL"
  let operator ← given.required "ERROR_TO"
  let server ← given.required "SMTP_SERVER"
  let port ← given.integer "SMTP_PORT" .word16 25
  let secure ← given.boolean "SMTP_SSL"
  let zone ← given.zone
  return {
    siteUrl
    listTitle
    credentials := given.credentials
    maxItems := maxItems.toNat
    criteria := {
      filterField := orDefault "FILTER_FIELD_NAME" "Status"
      filterValue := orDefault "FILTER_FIELD_VALUE" "Completed"
      dueField := orDefault "DUE_DATE_FIELD_NAME" "DueDate"
      modifiedField := orDefault "MODIFIED_FIELD_NAME" "Modified"
      overdueDays }
    assigneeField := orDefault "ASSIGNED_TO_FIELD_NAME" "AssignedTo"
    sender
    copyTo := given "CC_EMAIL"
    operator
    subject := orDefault "EMAIL_SUBJECT" "Task reminders for \x7b0\x7d"
    failureSubject := orDefault "ERROR_EMAIL_SUBJECT" "Task reminder run failed on \x7b0\x7d"
    relay := {
      server
      port := port.toNat
      secure
      username := given "SMTP_USERNAME"
      password := given "SMTP_PASSWORD" }
    templateFolder := orDefault "TEMPLATE_DIR" "."
    archiveFolder := given "ARCHIVE_DIR"
    zone }

/-- Read the settings; blank variables count as missing. -/
def read (given : Variables) : Except SettingsError Settings := readSolid given.withoutBlanks

end Settings
end DueReminders
