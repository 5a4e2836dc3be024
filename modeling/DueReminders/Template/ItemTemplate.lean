import DueReminders.Item
import DueReminders.Template.Block

/-! The template of one item. Every `@{key}` is replaced by what the item shows for the key; a key
reaches to the next closing brace, and an opening without one stays as it is. -/
namespace DueReminders

/-- Characters of a body shown at most. -/
def shortBodyLimit : Nat := 300

/-- The text without its tags. A tag reaches from `<` to the next `>`; the flag tells that the text
starts inside one. -/
def dropTags : Bool → List Char → List Char
  | _, [] => []
  | true, c :: rest => dropTags (c != '>') rest
  | false, c :: rest =>
    if c = '<' then (if rest.contains '>' then dropTags true rest else c :: rest)
    else c :: dropTags false rest

def stripMarkup (text : List Char) : List Char := dropTags false text

/-- Cut a text to the limit, with dots after it when something was cut off. -/
def shorten (text : List Char) : List Char :=
  if shortBodyLimit < text.length then text.take shortBodyLimit ++ ['.', '.', '.'] else text

/-- The start of the item's body, without markup. -/
def Item.shortBody (item : Item) : List Char := shorten (stripMarkup (item.raw "Body").toList)

namespace Template

/-- A part of an item template: a character that stays, or a key to be replaced. -/
inductive Piece where
  | plain (c : Char)
  | key (name : List Char)
  deriving DecidableEq, Repr

/-- Read a template. While a key is open its characters are collected in reverse. -/
def piecesFrom : Option (List Char) → List Char → List Piece
  | _, [] => []
  | some name, c :: rest =>
    if c = '}' then .key name.reverse :: piecesFrom none rest else piecesFrom (some (c :: name)) rest
  | none, '@' :: '{' :: rest =>
    if rest.contains '}' then piecesFrom (some []) rest else ('@' :: '{' :: rest).map .plain
  | none, c :: rest => .plain c :: piecesFrom none rest

def pieces (template : List Char) : List Piece := piecesFrom none template

/-- What an item shows for a key. The edit link and the short body come before fields of those
names, and an unknown key is named in the output. -/
def itemText (item : Item) (editUrl : String) (name : List Char) : List Char :=
  let key := String.ofList name
  if key = "EditUrl" then editUrl.toList ++ "?ID=".toList ++ Number.signed item.id
  else if key = "ShortBody" then item.shortBody
  else
    match item.get? key with
    | some field => field.shown.toList
    | none => "Unknown key:".toList ++ name

def Piece.render (item : Item) (editUrl : String) : Piece → List Char
  | .plain c => [c]
  | .key name => itemText item editUrl name

def renderItem (template : List Char) (editUrl : String) (item : Item) : List Char :=
  (pieces template).flatMap (Piece.render item editUrl)

def renderItems (template : List Char) (editUrl : String) (items : List Item) : List Char :=
  items.flatMap (renderItem template editUrl)

end Template
end DueReminders
