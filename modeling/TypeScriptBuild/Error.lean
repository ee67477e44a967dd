import TypeScriptBuild.Xml.Token

/-!
# Errors

What can go wrong between a project file and its settings. Only an error about the project file
itself reaches the caller of a resolution; one about a defaults file is made up for.

* `Defect`: what a file that reads well can still lack.
* `Error`: the errors, with `Error.message`.
-/

namespace TypeScriptBuild

/-- What a file that reads well can still lack. -/
inductive Defect where
  | noProject
  | noPropertyGroup
  deriving DecidableEq, Repr

/-- A defect in words. -/
def Defect.message : Defect → String
  | .noProject => "missing <Project> root"
  | .noPropertyGroup => "no <PropertyGroup>"

/-- What can go wrong with a file. -/
inductive Error where
  /-- A file cannot be read, for a cause in the words of the system. -/
  | io (path cause : String)
  /-- A file is no well-formed document. -/
  | xml (path : String) (fault : Xml.Fault)
  /-- The project file cannot be read. -/
  | projectNotFound (path cause : String)
  /-- The project file lacks something. -/
  | projectMalformed (path : String) (defect : Defect)
  /-- No defaults file is where the project looks for it. -/
  | defaultsNotFound (template : String)
  /-- A defaults file lacks something. -/
  | defaultsMalformed (path : String) (defect : Defect)
  deriving DecidableEq, Repr

/-- An error in words. -/
def Error.message : Error → String
  | .io path cause => "IO error: " ++ path ++ ": " ++ cause
  | .xml path _ => "XML error: " ++ path
  | .projectNotFound path cause => "Project file not found: " ++ path ++ ": " ++ cause
  | .projectMalformed path defect => "Malformed project " ++ path ++ ": " ++ defect.message
  | .defaultsNotFound template => "No TypeScript defaults file found for '" ++ template ++ "'"
  | .defaultsMalformed path defect =>
    "Malformed defaults file " ++ path ++ ": " ++ defect.message

/-!
## Computations that can fail

Reading a condition and resolving a project go through stages, each of which can fail. A run of
stages succeeds if every stage does, and what has become of an error does not count for that.
-/

variable {ε ε' α β : Type}

/-- One stage after another succeeds if the first does and the second does on its result. -/
theorem bind_eq_ok_iff {x : Except ε α} {f : α → Except ε β} {b : β} :
    x >>= f = .ok b ↔ ∃ a, x = .ok a ∧ f a = .ok b := by
  cases x <;> simp [bind, Except.bind]

theorem mapError_eq_ok_iff {x : Except ε α} {f : ε → ε'} {a : α} :
    x.mapError f = .ok a ↔ x = .ok a := by
  cases x with
  | error e => exact iff_of_false (by rintro ⟨⟩) (by rintro ⟨⟩)
  | ok a' =>
    constructor
    · rintro ⟨⟩
      rfl
    · rintro ⟨⟩
      rfl

end TypeScriptBuild
