import NotePlot.Value.Basic
import NotePlot.Failure
import NotePlot.Value.Written
import NotePlot.Text.Basic
import NotePlot.Clause.Condition
import NotePlot.Note.Basic
/-! Selections: which notes a query is about, by their folders, their tags, and conditions. -/
namespace NotePlot

namespace Folder

/-- A folder's path without slashes at its end. -/
def bare (folder : List Char) : List Char := (folder.reverse.dropWhile (· = '/')).reverse

/-- The folder "." holds everything, any other one itself and what lies under it. -/
def covers (folder path : String) : Bool :=
  folder = "." ||
    let root := bare folder.toList
    path.toList == root || (root ++ ['/']).isPrefixOf path.toList

/-- No folders at all admit everything. -/
def admits (folders : List String) (path : String) : Bool :=
  folders.isEmpty || folders.any (covers · path)

/-- Looks for a folder with the path in it; a member before it that is no text is a failure. -/
def anyCovers (path : String) : List Value → Outcome Bool
  | [] => .ok false
  | .scalar (.text folder) :: rest =>
    if covers folder path then .ok true else anyCovers path rest
  | _ :: _ => .error .partMissing

/-- Folders as a setting names them; an unset one admits everything. -/
def admitsBy (setting : Value) (path : String) : Outcome Bool :=
  if !setting.isSet then .ok true
  else match setting.members? with
    | some folders => anyCovers path folders
    | none => .error .wrongKind

theorem anyCovers_texts (path : String) (folders : List String) :
    anyCovers path (folders.map Value.text) = .ok (folders.any (covers · path)) := by
  induction folders with
  | nil => rfl
  | cons f fs ih =>
    simp only [List.map_cons, Value.text, anyCovers, List.any_cons]
    split <;> simp_all

theorem admitsBy_texts (path : String) (folders : List String) :
    admitsBy (Value.texts folders) path = .ok (admits folders path) := by
  cases folders with
  | nil => rfl
  | cons f fs => exact anyCovers_texts path (f :: fs)

end Folder

namespace Tag

open Text

/-- A tag without blanks at its ends, and then without hash signs at its beginning. -/
def normal (cs : List Char) : List Char := (trim cs).dropWhile (· = '#')

/-- The texts of the items that are not null. -/
def texts : List Value → Outcome (List (List Char))
  | [] => .ok []
  | v :: rest =>
    if v.isNull then texts rest
    else do
      let s ← v.display
      return s.toList :: (← texts rest)

/-- Tags as written: the items of a collection, or the words of any other value. -/
def written (v : Value) : Outcome (List (List Char)) :=
  match v.opened with
  | .scalar .null => .ok []
  | .list xs | .tuple xs | .set xs => texts xs
  | _ => do return words (← v.display).toList

/-- The tags of a note, in their normal form; one of hash signs alone is none. -/
def ofNote (props : Properties) : Outcome (List (List Char)) := do
  return ((← written (props.get "tags")).map normal).filter (!·.isEmpty)

/-- Looks for a wanted tag among those of a note. -/
def anyAmong (tags : List (List Char)) : List Value → Outcome Bool
  | [] => .ok false
  | v :: rest => do
    let s ← v.display
    if tags.contains (normal s.toList) then return true
    anyAmong tags rest

/-- No wanted tags at all admit every note. -/
def admits (wanted : List Value) (props : Properties) : Outcome Bool := do
  if wanted.isEmpty then return true
  let tags ← ofNote props
  if tags.isEmpty then return false
  anyAmong tags wanted

end Tag

/-- A note is selected if it lies in one of the folders, has one of the tags, and meets all
conditions. -/
structure Selection where
  folders : Value
  tags : List Value
  conditions : List Condition

namespace Selection

/-- Conditions are tried in order, up to the first that does not hold. -/
def allHold (props : Properties) : List Condition → Outcome Bool
  | [] => .ok true
  | c :: rest => do
    if ← c.holds props then allHold props rest else return false

def admits (sel : Selection) (note : Note) : Outcome Bool := do
  if !(← Folder.admitsBy sel.folders note.path) then return false
  if !(← Tag.admits sel.tags note.properties) then return false
  allHold note.properties sel.conditions

/-- The selected notes in their order. -/
def filter (sel : Selection) : List Note → Outcome (List Note)
  | [] => .ok []
  | note :: rest => do
    let isSelected ← sel.admits note
    let later ← sel.filter rest
    return if isSelected then note :: later else later

end Selection
end NotePlot
