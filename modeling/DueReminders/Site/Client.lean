import DueReminders.Row
import DueReminders.Run.Source
import DueReminders.Settings
import DueReminders.Site.Endpoint
import DueReminders.Site.Status

/-! The list site as a source of items. Requests go through a transport, which may answer each of
them in any way or not at all. -/
namespace DueReminders.Site

structure Request where
  url : Url
  credentials : Credentials
  deriving DecidableEq, Repr

/-- What came back for a request. -/
inductive Reply where
  /-- No answer arrived. -/
  | silence
  /-- A status, and the text of the body unless it broke off. -/
  | answer (status : Nat) (body : Option String)
  deriving DecidableEq, Repr

abbrev Transport (σ : Type) := Request → StateM σ Reply

/-- Why no request could be sent. -/
inductive RequestFault where
  | malformed
  | unsupported (url : Url)
  | unanswered (url : Url)
  deriving DecidableEq, Repr

def RequestFault.message : RequestFault → String
  | .malformed => "builder error"
  | .unsupported url => "builder error for url (" ++ url.text ++ ")"
  | .unanswered url => "error sending request for url (" ++ url.text ++ ")"

def RequestFault.toFailure (fault : RequestFault) : Failure := ⟨.request, fault.message⟩

def isHeaderCharacter (c : Char) : Bool := c == '\t' || (0x20 ≤ c.toNat && c.toNat != 0x7F)

def fitsHeader : Credentials → Bool
  | .bearer token => token.toList.all isHeaderCharacter
  | _ => true

/-- The request for an address. User and password in the address are not sent with it. -/
def Request.make (credentials : Credentials) (address : String) : Except RequestFault Request :=
  match Url.read address with
  | .error _ => .error .malformed
  | .ok url =>
    let plain := url.withoutUserInfo
    if url.host?.all Url.Host.isEmpty then .error (.unsupported url)
    else if ¬fitsHeader credentials then .error .malformed
    else if url.scheme ≠ "http".toList ∧ url.scheme ≠ "https".toList then .error (.unsupported plain)
    else .ok ⟨plain, credentials⟩

/-- An answer that is no success, or one that cannot be decoded. -/
def undecodable (address : String) : Failure :=
  ⟨.listData, "GET " ++ address ++ ": error decoding response body"⟩

def rejected (address : String) (status : Nat) (body : Option String) : Failure :=
  ⟨.site, "GET " ++ address ++ " returned " ++ statusLine status ++ ": " ++
    body.getD "<failed to read body>"⟩

def fetch {σ α : Type} (credentials : Credentials) (transport : Transport σ) (address : String)
    (decode : Json → Option α) : Call σ α := do
  let request ← liftM ((Request.make credentials address).mapError RequestFault.toFailure)
  match ← liftM (transport request) with
  | .silence => throw (RequestFault.unanswered request.url).toFailure
  | .answer status body =>
    if isSuccess status then
      match (body.bind Json.read?).bind decode with
      | some value => return value
      | none => throw (undecodable address)
    else throw (rejected address status body)

/-- The only member looked for; an array of one element may stand for the object. -/
def member? (name : String) : Json → Option (Option Json)
  | .object members => some (members.lookup name)
  | .array [value] => some (some value)
  | _ => none

def optionalText? (name : String) (answer : Json) : Option (Option String) :=
  match member? name answer with
  | some none | some (some .null) => some none
  | some (some (.text content)) => some (some content)
  | _ => none

def requiredText? (name : String) (answer : Json) : Option String :=
  ((member? name answer).join).bind Json.text?

def row? : Json → Option Row
  | .object members => some members
  | _ => none

def rows? (answer : Json) : Option (List Row) :=
  match (member? "value" answer).join with
  | some (.array values) => values.mapM row?
  | _ => none

variable {σ : Type} (settings : Settings) (transport : Transport σ)

/-- Ask the site for its title, to see that it answers. -/
def connect : Call σ (Option String) :=
  fetch settings.credentials transport (titleUrl settings.siteUrl) (optionalText? "Title")

/-- The list of the settings as a source of items. -/
def source : ItemSource σ where
  editFormUrl := do
    let form ← fetch settings.credentials transport (formUrl settings.siteUrl settings.listTitle)
      (requiredText? "DefaultEditFormUrl")
    liftM ((Site.editFormUrl settings.siteUrl form).mapError UrlError.toFailure)
  fetchItems := do
    let rows ← fetch settings.credentials transport
      (itemsUrl settings.siteUrl settings.listTitle settings.maxItems settings.assigneeField) rows?
    return Row.items settings.zone rows
  resolveEmail user := do
    let email ← fetch settings.credentials transport (userUrl settings.siteUrl user)
      (optionalText? "EMail")
    return email.filter fun email => !Text.isBlankText email

end DueReminders.Site
