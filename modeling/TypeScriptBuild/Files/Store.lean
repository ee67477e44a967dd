import TypeScriptBuild.Error
import TypeScriptBuild.Node

/-!
# Files

A resolution reads files and asks whether files exist. Both are questions about paths, answered by
functions, so that what a resolution depends on is what it asks.

* `Reader`: the node of the file at a path, or why there is none.
* `Probe`: whether there is a file at a path.
* `readSource`: the node of a file whose text is known.
* `Obstacle`, `Content`: what a file holds.
* `Store`: the files, with `Store.write` and `Store.delete`.
* `Store.read`, `Store.holds`: the questions of a resolution.
-/

namespace TypeScriptBuild

/-- The node of the file at a path, or why there is none. -/
abbrev Reader := String → Except Error Node

/-- Whether there is a file at a path. -/
abbrev Probe := String → Bool

/-- The node of the file at `path`, whose text is `source`. -/
def readSource (path source : String) : Except Error Node :=
  match Xml.Document.read source with
  | .ok document => .ok (.ofDocument document)
  | .error fault => .error (.xml path fault)

/-!
## File stores

Files kept in memory. Paths are plain texts: two ways to write a path are two paths. A file holds
its text or is already a node, or it resists reading.
-/

/-- Why a file of a store cannot be read. -/
inductive Obstacle where
  | notFound
  | permissionDenied
  | invalidData
  deriving DecidableEq, Repr, Inhabited

/-- An obstacle in words. -/
def Obstacle.cause : Obstacle → String
  | .notFound => "entity not found"
  | .permissionDenied => "permission denied"
  | .invalidData => "invalid data"

/-- What a file of a store holds. -/
inductive Content where
  | source (text : String)
  | parsed (file : Node)
  | blocked (obstacle : Obstacle)
  deriving Inhabited

/-- Files by their paths. -/
abbrev Store := List (String × Content)

namespace Store

/-- The store with a file written; an earlier one at the path is replaced. -/
def write (store : Store) (path : String) (content : Content) : Store :=
  Dictionary.insert path content store

/-- The store without the file at a path. -/
def delete (store : Store) (path : String) : Store :=
  store.filter fun file => file.1 != path

/-- Whether there is a file at a path, whatever it holds. -/
def holds (store : Store) : Probe := fun path =>
  (store.lookup path).isSome

/-- The node of the file at a path. -/
def read (store : Store) : Reader := fun path =>
  match store.lookup path with
  | none => .error (.io path Obstacle.notFound.cause)
  | some (.source text) => readSource path text
  | some (.parsed file) => .ok file
  | some (.blocked obstacle) => .error (.io path obstacle.cause)

/-! ### Stores that agree on a path -/

variable {store store' : Store} {path : String}

theorem read_congr (h : store'.lookup path = store.lookup path) :
    store'.read path = store.read path := by
  rw [read, read, h]

theorem holds_congr (h : store'.lookup path = store.lookup path) :
    store'.holds path = store.holds path := by
  rw [holds, holds, h]

/-- A file that is deleted takes no other with it. -/
theorem lookup_delete_of_ne {other : String} (h : other ≠ path) (store : Store) :
    (store.delete path).lookup other = store.lookup other := by
  induction store with
  | nil => rfl
  | cons file store ih =>
    obtain ⟨name, content⟩ := file
    by_cases hname : name = path
    · have hne : (other == name) = false := by simpa [hname] using h
      rw [List.lookup_cons, hne]
      rw [← ih, delete, delete, List.filter_cons_of_neg (by simpa using hname)]
    · rw [delete, List.filter_cons_of_pos (by simpa using hname), List.lookup_cons,
        List.lookup_cons]
      cases other == name with
      | true => rfl
      | false => exact ih

end Store

end TypeScriptBuild
