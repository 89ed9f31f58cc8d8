import ConvLab.Bench.Host

/-!
# Folders

A folder of files held in memory, and how a path is followed in it.  A path is relative to the
folder; what lies outside the folder is taken to be folders without anything in them.

* `Folder.resolve` — the place that a path leads to;
* `Folder.readFile` — the text of the file there.
-/

namespace ConvLab

/-- What stands at a place of a folder. -/
inductive Node where
  | file (content : ByteArray)
  | folder

/-- The places of a folder that hold something, each given by the names that lead to it. -/
structure Folder where
  items : List (List String × Node)

namespace Folder

def empty : Folder := ⟨[]⟩

def insert (f : Folder) (path : String) (node : Node) : Folder :=
  ⟨f.items ++ [((path.splitOn "/").filter fun name => name ≠ "" ∧ name ≠ ".", node)]⟩

/-- What stands at a place.  Whatever leads to an item is a folder. -/
def node? (f : Folder) (place : List String) : Option Node :=
  match f.items.find? (·.1 = place) with
  | some (_, node) => some node
  | none => if place = [] ∨ f.items.any (place.isPrefixOf ·.1) then some .folder else none

/-- A place that a path leads to. -/
inductive Place where
  /-- Outside the folder. -/
  | outside
  /-- Inside it, given by the names that lead there. -/
  | inside (place : List String)

/-- The place that one name of a path leads to. -/
def step (f : Folder) (place : Place) (name : String) : Except FileError Place :=
  match place with
  | .outside => if name = "" ∨ name = "." ∨ name = ".." then .ok .outside else .error .missing
  | .inside names =>
      match f.node? names with
      | none => .error .missing
      | some (.file _) => .error .throughFile
      | some .folder =>
          if name = "" ∨ name = "." then .ok place
          else if name = ".." then
            .ok (if names.isEmpty then .outside else .inside names.dropLast)
          else if (f.node? (names ++ [name])).isSome then .ok (.inside (names ++ [name]))
          else .error .missing

def resolve (f : Folder) (path : String) : Except FileError Place :=
  let start : Place := if path.startsWith "/" then .outside else .inside []
  (path.splitOn "/").foldlM f.step start

def readFile (f : Folder) (path : String) : Except FileError String := do
  if path.toList.contains '\x00' then
    throw .nulInPath
  if path = "" then
    throw .missing
  match ← f.resolve path with
  | .outside => throw .isFolder
  | .inside names =>
      match f.node? names with
      | none => throw .missing
      | some .folder => throw .isFolder
      | some (.file content) =>
          match String.fromUTF8? content with
          | some text => return text
          | none => throw .noText

end Folder

end ConvLab
