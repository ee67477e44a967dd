import TypeScriptBuild.Condition
import TypeScriptBuild.Error

/-!
# The search for the defaults file

The path that a template stands for is tried with the declared version of Visual Studio first and
then with one major version after the other, from the newest downwards, until a path exists. No path
is tried behind the first that exists, however far the versions reach.

The search is a dialogue: it asks whether a path exists and goes on by the answer. Who answers, and
what is kept of it, is left open, so that its result and its questions come from the same search.

* `Template`: a path with references.
* `Variables`: the values of the two known variables.
* `Template.render`: a path with the known references replaced.
* `Bounds`: epoch, least major version and year; `Bounds.Fits`: the difference takes 32 bits.
* `Bounds.highest`, `Bounds.count`: the newest major version, and how many there are.
* `Bounds.highest?`: the newest major version where arithmetic is checked.
* `versionText`: a major version as it stands in a path.
* `Bounds.candidates`: the versions, newest first.
* `Template.search`: the search with its questions.
* `Template.locate`: the first path that exists; `Template.locateChecked`: the same where arithmetic
  is checked.
* `Template.probed`: the paths that are tried, in order.
* `Template.places`: all the paths that may have to be tried.
-/

namespace TypeScriptBuild

/-!
## Path templates

A project imports its defaults file by a path that refers to variables. Two of them are known when
the file is looked for; a reference to any other stays as it is.
-/

/-- The values of the variables that a template may refer to. -/
structure Variables where
  visualStudioVersion : String
  extensionsPath : String
  deriving DecidableEq, Repr, Inhabited

/-- A path with references to variables, as it is written. -/
structure Template where
  raw : String
  deriving DecidableEq, Repr, Inhabited

/-- What stands in a path for a fragment of its template. -/
def Fragment.render (vars : Variables) : Fragment → String
  | .literal s => s
  | .reference name =>
    if name = "VisualStudioVersion" then vars.visualStudioVersion
    else if name = "MSBuildExtensionsPath32" then vars.extensionsPath
    else (Fragment.reference name).written

namespace Template

/-- The fragments of a template. -/
def fragments (t : Template) : List Fragment :=
  Fragment.split t.raw

/-- Whether there is no template at all. -/
def isEmpty (t : Template) : Bool :=
  t.raw == ""

theorem isEmpty_iff {t : Template} : t.isEmpty = true ↔ t.raw = "" := by
  rw [isEmpty, beq_iff_eq]

theorem isEmpty_eq_false_iff {t : Template} : t.isEmpty = false ↔ t.raw ≠ "" := by
  rw [isEmpty, beq_eq_false_iff_ne]

/-- The path that a template stands for, given the values of the known variables. What they bring
in is not looked at again. -/
def render (t : Template) (vars : Variables) : String :=
  String.join (t.fragments.map (Fragment.render vars))

end Template

/-!
## Candidate versions

The version of Visual Studio in a path is often not the one that a project declares. The versions
to try instead are bounded by the calendar: the newest major version is the year less a fixed epoch,
and there is a least one. All three are numbers of 32 bits, and so is the difference: if it does
not fit, the subtraction either wraps around or, where arithmetic is checked, has no result.
-/

/-- What bounds the versions to try: the epoch of major versions, the least of them and the year.
There is no clock here, so that a year that nobody gives is a fixed one. -/
structure Bounds where
  epoch : Int := 1995
  minimum : Int := 10
  year : Int := 2025
  deriving DecidableEq, Repr, Inhabited

/-- A major version as it stands in a path. -/
def versionText (major : Int) : String :=
  toString major ++ ".0"

namespace Bounds

/-- The year less the epoch takes 32 bits. -/
def Fits (b : Bounds) : Prop :=
  -0x80000000 ≤ b.year - b.epoch ∧ b.year - b.epoch < 0x80000000

instance (b : Bounds) : Decidable b.Fits :=
  inferInstanceAs (Decidable (_ ∧ _))

/-- The newest major version: the year less the epoch, in 32 bits. -/
def highest (b : Bounds) : Int :=
  (b.year - b.epoch).bmod 0x100000000

/-- The newest major version where arithmetic is checked. -/
def highest? (b : Bounds) : Option Int :=
  if b.Fits then some (b.year - b.epoch) else none

/-- How many major versions there are from the least to `newest`. -/
def countUpTo (b : Bounds) (newest : Int) : Nat :=
  (newest - b.minimum + 1).toNat

/-- How many major versions there are from the least to the newest. -/
def count (b : Bounds) : Nat :=
  b.countUpTo b.highest

/-- The `n` major versions from `newest` downwards. -/
def descending (newest : Int) : Nat → List Int
  | 0 => []
  | n + 1 => newest :: descending (newest - 1) n

/-- The versions to try, newest first. -/
def candidates (b : Bounds) : List String :=
  (descending b.highest b.count).map versionText

/-- A difference that fits does not wrap. -/
theorem highest_of_fits {b : Bounds} (h : b.Fits) : b.highest = b.year - b.epoch :=
  Int.bmod_eq_of_le_mul_two (by have := h.1; omega) (by have := h.2; omega)

/-- Checked arithmetic has the same result, or none. -/
theorem highest?_eq (b : Bounds) : b.highest? = if b.Fits then some b.highest else none := by
  rw [highest?]
  split
  · next h => rw [highest_of_fits h]
  · rfl

end Bounds

/-! ## The search -/

namespace Template

/-- The path that a template stands for with a major version in place of the declared one. -/
def renderMajor (t : Template) (vars : Variables) (major : Int) : String :=
  t.render { vars with visualStudioVersion := versionText major }

/-- The outcome of a search, by the path that it has found. -/
def outcome (t : Template) (found : Option String) : Except Error String :=
  match found with
  | some path => .ok path
  | none => .error (.defaultsNotFound t.raw)

@[simp] theorem outcome_some (t : Template) (path : String) : t.outcome (some path) = .ok path :=
  rfl

@[simp] theorem outcome_none (t : Template) :
    t.outcome none = .error (.defaultsNotFound t.raw) :=
  rfl

section Questions

variable {m : Type → Type} [Monad m]

/-- The search through the `n` major versions from `newest` downwards, where `ask` tells if a path
exists. -/
def searchFrom (t : Template) (vars : Variables) (ask : String → m Bool) (newest : Int) :
    Nat → m (Option String)
  | 0 => pure none
  | n + 1 => do
    let path := t.renderMajor vars newest
    if ← ask path then pure (some path) else searchFrom t vars ask (newest - 1) n

/-- The search for the file that a template stands for, up to a newest major version, which is
wanted only if there is no file for the declared one. -/
def searchUpTo (t : Template) (vars : Variables) (bounds : Bounds) (newest : m Int)
    (ask : String → m Bool) : m (Except Error String) :=
  if t.isEmpty then pure (t.outcome none)
  else do
    let declared := t.render vars
    if ← ask declared then pure (t.outcome (some declared))
    else do
      let newest ← newest
      t.outcome <$> searchFrom t vars ask newest (bounds.countUpTo newest)

/-- The search for the file that a template stands for. -/
def search (t : Template) (vars : Variables) (bounds : Bounds) (ask : String → m Bool) :
    m (Except Error String) :=
  t.searchUpTo vars bounds (pure bounds.highest) ask

end Questions

/-- An answer, with a note of the question behind the earlier ones. -/
def noted (present : String → Bool) (path : String) : StateM (List String) Bool := do
  modify (· ++ [path])
  return present path

/-- The path of the file that a template stands for. -/
def locate (t : Template) (vars : Variables) (bounds : Bounds) (present : String → Bool) :
    Except Error String :=
  Id.run (t.search vars bounds fun path => pure (present path))

/-- The path of the file that a template stands for where arithmetic is checked. There is no answer
if the newest major version is wanted and has no number. -/
def locateChecked (t : Template) (vars : Variables) (bounds : Bounds) (present : String → Bool) :
    Option (Except Error String) :=
  t.searchUpTo vars bounds bounds.highest? fun path => some (present path)

/-- The paths that are tried on the way, the one that is found among them. -/
def probed (t : Template) (vars : Variables) (bounds : Bounds) (present : String → Bool) :
    List String :=
  ((t.search vars bounds (noted present)).run []).2

/-- All the paths that may have to be tried, in order. -/
def places (t : Template) (vars : Variables) (bounds : Bounds) : List String :=
  if t.isEmpty then []
  else t.render vars ::
    bounds.candidates.map fun version => t.render { vars with visualStudioVersion := version }

end Template

end TypeScriptBuild
