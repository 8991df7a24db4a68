import ScenarioDesk.Text.Quoted

/-!
File paths. A path is a root and the names below it; empty names and single dots are dropped when a
path is read, a double dot is kept, since what it leads to depends on the disk.
-/

namespace ScenarioDesk

/-- Where a path starts: at the working directory, at the root, or at the root that two slashes
name. -/
inductive PathRoot where
  | relative
  | root
  | doubleRoot
  deriving DecidableEq, Repr

/-- A path in normal form. -/
structure Path where
  root : PathRoot := .relative
  names : List Text
  deriving DecidableEq, Repr

namespace Path

/-- The slashes that a root is written with. -/
def rootText : PathRoot → Text
  | .relative => []
  | .root => "/"
  | .doubleRoot => "//"

/-- The root that a text begins with. Three or more slashes count as one. -/
def rootOf (text : Text) : PathRoot :=
  match (text.takeWhile (· = .char '/')).length with
  | 0 => .relative
  | 2 => .doubleRoot
  | _ => .root

/-- The name that stands for the directory it lies in. -/
def here : Text := "."

/-- The name that stands for the directory above. -/
def above : Text := ".."

/-- The names between the slashes of a text. -/
def namesOf (text : Text) : List Text :=
  let (first, others) := Text.split '/' text
  (first :: others).filter fun name => name ≠ [] ∧ name ≠ here

/-- The path that a text names. -/
def ofText (text : Text) : Path := ⟨rootOf text, namesOf text⟩

/-- The text of a path. The empty relative path is a dot. -/
def text (path : Path) : Text :=
  if path.root = .relative ∧ path.names = [] then here
  else rootText path.root ++ Text.join ['/'] path.names

/-- The last name, or nothing for a path without names. -/
def name (path : Path) : Text := path.names.getLastD []

/-- The path without its last name. -/
def parent (path : Path) : Path := { path with names := path.names.dropLast }

/-- A path with another one below it. One with a root of its own replaces it. -/
def append (base path : Path) : Path :=
  match path.root with
  | .relative => { base with names := base.names ++ path.names }
  | _ => path

/-- A path with what a text names below it. -/
def below (base : Path) (text : Text) : Path := base.append (ofText text)

/-- A sibling: the same path with another last name. -/
def withName (path : Path) (name : Text) : Path :=
  { path with names := path.names.dropLast ++ [name] }

/-- The ending of a name from its last dot on, unless that dot is its first or last character. -/
def suffixOf (name : Text) : Text :=
  let ending := Text.afterLast '.' name
  let stem := name.length - ending.length - 1
  if ending.length < name.length ∧ ending ≠ [] ∧ 0 < stem then '.' :: ending else []

/-- A zero character, which no file name can hold, occurs in the path. -/
def hasNul (path : Path) : Bool := path.names.any fun name => name.contains '\x00'

end Path

end ScenarioDesk
