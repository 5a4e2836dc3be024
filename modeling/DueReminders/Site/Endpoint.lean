import DueReminders.Failure
import DueReminders.Text.Search
import DueReminders.Url.Reading

/-! Addresses of the list site's interface. The title of the list stands between quotes: quotes in
it are doubled, and everything but ASCII letters and digits is percent-encoded. -/
namespace DueReminders.Site

def root (site : String) : List Char := (site.toList.reverse.dropWhile (· == '/')).reverse

def quotedTitle (title : String) : List Char :=
  Text.replaceAll ['\x27'] ['\x27', '\x27'] title.toList

def listUrl (site title : String) : String :=
  String.ofList (root site ++ "/_api/web/lists/GetByTitle(\x27".toList ++
    Url.percentEncode Url.isAlphanumeric (quotedTitle title) ++ "\x27)".toList)

/-- The items of the list up to a limit, with the assignee's id and name. -/
def itemsUrl (site title : String) (limit : Nat) (assignee : String) : String :=
  listUrl site title ++ "/items?$top=" ++ String.ofList (Number.digits limit) ++ "&$select=*," ++
    assignee ++ "/Id," ++ assignee ++ "/Title&$expand=" ++ assignee

def userUrl (site : String) (user : Int) : String :=
  String.ofList (root site) ++ "/_api/web/SiteUserInfoList/items(" ++
    String.ofList (Number.signed user) ++ ")?$select=EMail"

def titleUrl (site : String) : String := String.ofList (root site) ++ "/_api/web?$select=Title"

def formUrl (site title : String) : String := listUrl site title ++ "?$select=DefaultEditFormUrl"

/-- The form that edits an item, from its address relative to the site. -/
def editFormUrl (site form : String) : Except UrlError String := do
  let base ← Url.read site
  let url ← base.join form
  return url.text

end DueReminders.Site

/-- A broken address comes from the settings. -/
def DueReminders.UrlError.toFailure (error : DueReminders.UrlError) : DueReminders.Failure :=
  ⟨.configuration, "invalid URL: " ++ error.message⟩
