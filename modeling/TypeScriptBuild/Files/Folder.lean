import TypeScriptBuild.Dictionary
import TypeScriptBuild.Files.Store

/-!
# Folders

Files in a tree of folders, found by paths in the manner of POSIX. A path is a list of names between
slashes: an empty name and `.` stay where they are, `..` goes one folder up, and each of them needs
a folder to stand in, so that a path with a slash at its end names no file. The tree is the working
directory; nothing is known of what lies around it.

* `Entry`: a file or a folder, with `Entry.place` to put one into the tree.
* `Entry.find`: the entry at a path.
* `Entry.read`, `Entry.holds`: the questions of a resolution.
-/

namespace TypeScriptBuild

/-- A file with its bytes, or a folder with its entries by name. -/
inductive Entry where
  | file (bytes : ByteArray)
  | folder (entries : List (String × Entry))
  deriving Inhabited

/-- Why a path leads to no text. -/
inductive Obstruction where
  | noEntry
  | notFolder
  | isFolder
  | notText
  deriving DecidableEq, Repr

/-- An obstruction in words. -/
def Obstruction.cause : Obstruction → String
  | .noEntry => "No such file or directory (os error 2)"
  | .notFolder => "Not a directory (os error 20)"
  | .isFolder => "Is a directory (os error 21)"
  | .notText => "stream did not contain valid UTF-8"

namespace Entry

/-- The names of a path. -/
def names (path : String) : List String :=
  (path.toList.splitOn '/').map String.ofList

/-- The entries of a folder; a file has none. -/
def entries : Entry → List (String × Entry)
  | .file _ => []
  | .folder es => es

/-- The tree with an entry put at a place below it, where missing folders are made. -/
def placeAt (new : Entry) : List String → Entry → Entry
  | [], old =>
    match new, old with
    | .folder [], .folder es => .folder es
    | new, _ => new
  | name :: names, tree =>
    let below := (tree.entries.lookup name).getD (.folder [])
    .folder (Dictionary.insert name (placeAt new names below) tree.entries)

/-- A tree and a place in it after one more name of a path. Every place on the way becomes a folder,
also one that is left again, and at the top there is no way up. -/
def passTo (tree : Entry) (here : List String) (name : String) : Entry × List String :=
  if name = "" ∨ name = "." then (tree, here)
  else
    let here := if name = ".." then here.dropLast else here ++ [name]
    (placeAt (.folder []) here tree, here)

/-- The tree with an entry put at a path. -/
def place (tree : Entry) (path : String) (new : Entry) : Entry :=
  let (tree, here) := (names path).foldl (fun state name => passTo state.1 state.2 name) (tree, [])
  placeAt new here tree

/-- One name of a path followed from an entry, which stands on the folders around it. -/
def step (stack : List Entry) (name : String) : Except Obstruction (List Entry) :=
  match stack with
  | .folder es :: around =>
    if name = "" ∨ name = "." then .ok stack
    else if name = ".." then .ok (if around.isEmpty then [.folder []] else around)
    else match es.lookup name with
      | some e => .ok (e :: stack)
      | none => .error .noEntry
  | .file _ :: _ => .error .notFolder
  | [] => .error .noEntry

/-- The entry at a path; a path that begins with a slash leads out of the tree. -/
def find (tree : Entry) (path : String) : Except Obstruction Entry :=
  if path = "" then .error .noEntry
  else do
    let start := if path.toList.head? = some '/' then .folder [] else tree
    match ← (names path).foldlM step [start] with
    | e :: _ => .ok e
    | [] => .error .noEntry

/-- Whether there is a file or a folder at a path. -/
def holds (tree : Entry) : Probe := fun path =>
  match tree.find path with
  | .ok _ => true
  | .error _ => false

/-- The text of the file at a path. -/
def text (tree : Entry) (path : String) : Except Obstruction String := do
  match ← tree.find path with
  | .folder _ => .error .isFolder
  | .file bytes =>
    match String.fromUTF8? bytes with
    | some s => .ok s
    | none => .error .notText

/-- The node of the file at a path. -/
def read (tree : Entry) : Reader := fun path =>
  match tree.text path with
  | .ok source => readSource path source
  | .error obstruction => .error (.io path obstruction.cause)

end Entry

end TypeScriptBuild
