import TypeScriptBuild.Error
import TypeScriptBuild.Node
import TypeScriptBuild.Setting.Compiler
import TypeScriptBuild.Version

/-!
# Defaults

What holds for a setting that a project leaves unset. A defaults file that comes with the compiler
gives the values of certain settings; where it is silent, or where there is none, a table derived
from the compiler's version stands in.

* `Defaults.settings`: the settings that have a default.
* `Defaults.baseline`: the table for a version.
* `Defaults.ofGroup`: the table overlaid with a property group.
* `Defaults.ofFile`: the defaults that a defaults file gives.
* `Defaults.group?`: the group of a defaults file that counts, and `Defaults.ofFile_eq_ok_iff`:
  which files are used, and for what.
* `Defaults.value?_baseline`, `Defaults.value?_ofGroup`: the value of a setting in the table, and
  that of the group or else of the table.
-/

namespace TypeScriptBuild.Defaults

/-- The settings that have a default. -/
def settings : List Setting :=
  [.target, .compileOnSaveEnabled, .noImplicitAny, .moduleKind, .removeComments, .outFile, .outDir,
    .generatesDeclarations, .sourceMap, .mapRoot, .sourceRoot, .noEmitOnError]

/-- The default of a setting for a version: the target is newer from 1.5.0 on, no output is written
on errors from 1.4.0 on, and all else is empty or off. -/
def baselineValue (v : Version) : Setting → Value
  | .target => .text (if v < ⟨1, 5, 0, [], []⟩ then "ES3" else "ES5")
  | .noEmitOnError => .flag (decide (⟨1, 4, 0, [], []⟩ ≤ v))
  | s => if s.kind = .flag then .flag false else .text ""

/-- The table of defaults for a version. -/
def baseline (v : Version) : Assignment :=
  ⟨fun s => if s ∈ settings then some (baselineValue v s) else none⟩

/-- A text that a defaults file gives for a setting, as a flag where the setting is one. -/
def given (s : Setting) (text : String) : Value :=
  if s.kind = .flag then .flag (Value.toFlag (.text text)) else .text text

/-- The table of defaults for a version, overlaid with what a property group gives. -/
def ofGroup (group : Node) (v : Version) : Assignment :=
  ⟨fun s =>
    if s ∈ settings then
      match group.childText? s.tag with
      | some text => some (given s text)
      | none => (baseline v).value? s
    else none⟩

/-- The defaults that a defaults file gives: its first property group alone is looked at. -/
def ofFile (file : Node) (path : String) (v : Version) : Except Error Assignment :=
  match file.child? "Project" with
  | none => .error (.defaultsMalformed path .noProject)
  | some project =>
    match project.child? "PropertyGroup" with
    | none => .error (.defaultsMalformed path .noPropertyGroup)
    | some group => .ok (ofGroup group v)

/-! ## What a defaults file offers -/

/-- The property group of a defaults file that counts: the first of its project. -/
def group? (file : Node) : Option Node :=
  (file.child? "Project").bind fun project => project.child? "PropertyGroup"

theorem ofFile_eq_ok_iff {file : Node} {path : String} {v : Version} {a : Assignment} :
    ofFile file path v = .ok a ↔ ∃ group, group? file = some group ∧ a = ofGroup group v := by
  rw [ofFile, group?]
  cases file.child? "Project" with
  | none => simp
  | some project =>
    rw [Option.bind_some]
    cases hg : project.child? "PropertyGroup" <;> simp [hg, eq_comm]

theorem value?_baseline {s : Setting} (v : Version) (hs : s ∈ settings) :
    (baseline v).value? s = some (baselineValue v s) :=
  if_pos hs

theorem value?_baseline_of_not_mem {s : Setting} (v : Version) (hs : s ∉ settings) :
    (baseline v).value? s = none :=
  if_neg hs

theorem value?_ofGroup {s : Setting} (group : Node) (v : Version) (hs : s ∈ settings) :
    (ofGroup group v).value? s =
      ((group.childText? s.tag).map (given s)).or ((baseline v).value? s) := by
  rw [ofGroup]
  simp only [if_pos hs]
  cases group.childText? s.tag <;> rfl

theorem value?_ofGroup_of_not_mem {s : Setting} (group : Node) (v : Version)
    (hs : s ∉ settings) : (ofGroup group v).value? s = none :=
  if_neg hs

end TypeScriptBuild.Defaults
