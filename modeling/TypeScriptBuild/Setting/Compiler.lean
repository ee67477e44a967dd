import TypeScriptBuild.Setting.Assignment
import TypeScriptBuild.Text.Basic

/-!
# Compiler settings

What the compiler is run with: a concrete value for every setting, of the type that its kind asks
for. They come about by filling the gaps of one assignment from another and understanding each
value by the kind of its setting.

* `Kind.Carrier`: the type of a kind's values.
* `Value.toFlag`, `Value.toText`, `Kind.coerce`: a given value understood.
* `CompilerSettings`: the values.
* `CompilerSettings.merge`: an assignment completed from defaults.
-/

namespace TypeScriptBuild

open Text

/-- The type of the values of a kind. -/
abbrev Kind.Carrier : Kind → Type
  | .text => String
  | .flag => Bool
  | .path => String

instance (k : Kind) : DecidableEq k.Carrier :=
  match k with
  | .text => inferInstanceAs (DecidableEq String)
  | .flag => inferInstanceAs (DecidableEq Bool)
  | .path => inferInstanceAs (DecidableEq String)

/-- A given value as a flag: a text is on if it is the word `true`, in any case of its letters. -/
def Value.toFlag : Value → Bool
  | .text s => s.toList.map Char.toLower == ['t', 'r', 'u', 'e']
  | .flag b => b

/-- A given value as a text. -/
def Value.toText : Value → String
  | .text s => s
  | .flag true => "true"
  | .flag false => "false"

/-- A given value understood by kind; what is unset is empty or off. -/
def Kind.coerce : (k : Kind) → Option Value → k.Carrier
  | .text, v => (v.map Value.toText).getD ""
  | .flag, v => (v.map Value.toFlag).getD false
  | .path, v => withSlashes ((v.map Value.toText).getD "")

/-- A concrete value as a given one. -/
def Value.ofCarrier : (k : Kind) → k.Carrier → Value
  | .text, s => .text s
  | .flag, b => .flag b
  | .path, s => .text s

/-- A concrete value for every setting. -/
@[ext] structure CompilerSettings where
  value : (s : Setting) → s.kind.Carrier

namespace CompilerSettings

/-- Two collections are equal if they agree on every setting of the list of all. -/
theorem eq_iff (c d : CompilerSettings) : c = d ↔ ∀ s ∈ Setting.all, c.value s = d.value s :=
  ⟨fun h _ _ => h ▸ rfl, fun h => CompilerSettings.ext (funext fun s => h s (Setting.mem_all s))⟩

instance : DecidableEq CompilerSettings := fun c d => decidable_of_iff _ (eq_iff c d).symm

/-- The settings that an assignment amounts to. -/
def ofAssignment (a : Assignment) : CompilerSettings :=
  ⟨fun s => s.kind.coerce (a.value? s)⟩

/-- The assignment in which every setting has its concrete value. -/
def toAssignment (c : CompilerSettings) : Assignment :=
  ⟨fun s => some (.ofCarrier s.kind (c.value s))⟩

/-- What was resolved, with defaults for what is unset. -/
def merge (resolved defaults : Assignment) : CompilerSettings :=
  ofAssignment (resolved.filledFrom defaults)

/-- A merged setting is understood from what was resolved for it, or else from its default. -/
theorem value_merge (resolved defaults : Assignment) (s : Setting) :
    (merge resolved defaults).value s =
      s.kind.coerce ((resolved.value? s).or (defaults.value? s)) := by
  rw [← Assignment.value?_filledFrom]
  rfl

end CompilerSettings

end TypeScriptBuild
