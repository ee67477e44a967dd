import TypeScriptBuild.Defaults

/-!
# Merging settings

The compiler is given texts and truth values, made out of values that a project or a defaults file
gives, or out of nothing at all. `Kind.StandsFor` says when a concrete value is the right one for a
given value, kind by kind and without the functions that compute it.

Merging lays what was resolved over the defaults, setting by setting: a value that was resolved
hides the default, also if it is empty or off, and what neither gives is empty or off. A result is
stable: taken for resolved values it hides every default, and each of its values is already of the
form that its setting asks for.

* `Kind.standsFor_coerce`: coercion computes the right value; `CompilerSettings.standsFor_merge`: so
  does merging two assignments, for the value that counts.
* `Defaults.standsFor_given`: a flag of a defaults file is understood early and one of a project
  late, which comes to the same.
* `Kind.coerce_ofCarrier_coerce`: a concrete value that is given again is understood as itself.
* `CompilerSettings.merge_overlays`: the right value for every setting, and a stable result.
-/

namespace TypeScriptBuild

/-! ## What a concrete value stands for -/

/-- The text of a given value, empty if there is none. -/
def plainText : Option Value → String
  | none => ""
  | some (.text t) => t
  | some (.flag b) => toString b

/-- That a concrete value is the right one for a given value, or for none: a flag is on for the
truth value and for the word `true` in any case of its ASCII letters, a text is as it is given, and
a path is the text with a slash for each backslash. -/
def Kind.StandsFor : (k : Kind) → k.Carrier → Option Value → Prop
  | .text, x, v => x = plainText v
  | .flag, b, v => b = true ↔ v = some (.flag true) ∨ ∃ t, v = some (.text t) ∧ t.toLower = "true"
  | .path, x, v => x.toList = (plainText v).toList.map fun c => if c = '\\' then '/' else c

theorem getD_toText_eq_plainText (v : Option Value) :
    (v.map Value.toText).getD "" = plainText v := by
  match v with
  | none => rfl
  | some (.text t) => rfl
  | some (.flag true) => rfl
  | some (.flag false) => rfl

theorem Value.toFlag_text_iff (t : String) :
    Value.toFlag (.text t) = true ↔ t.toLower = "true" := by
  have hlower : t.toLower = t.map Char.toLower := rfl
  rw [Value.toFlag, beq_iff_eq, hlower, ← String.toList_inj, String.toList_map]
  rfl

theorem getD_toFlag_iff (v : Option Value) :
    (v.map Value.toFlag).getD false = true ↔
      v = some (.flag true) ∨ ∃ t, v = some (.text t) ∧ t.toLower = "true" := by
  match v with
  | none => simp
  | some (.flag b) => simp [Value.toFlag]
  | some (.text t) => simp [Value.toFlag_text_iff]

/-- **Coercion gives the value that stands for the given one.** -/
theorem Kind.standsFor_coerce (k : Kind) (v : Option Value) : k.StandsFor (k.coerce v) v := by
  cases k with
  | text => exact getD_toText_eq_plainText v
  | flag => exact getD_toFlag_iff v
  | path =>
    change (Text.withSlashes ((v.map Value.toText).getD "")).toList = _
    rw [getD_toText_eq_plainText, Text.withSlashes, String.toList_map]

/-- A merged setting stands for the value that is resolved, or else for its default. -/
theorem CompilerSettings.standsFor_merge (resolved defaults : Assignment) (s : Setting) :
    s.kind.StandsFor ((CompilerSettings.merge resolved defaults).value s)
      ((resolved.value? s).or (defaults.value? s)) := by
  rw [value_merge]
  exact s.kind.standsFor_coerce _

/-- **Early and late coercion agree**: the right value for a text as a defaults file understands it
is the right value for the text. -/
theorem Defaults.standsFor_given (s : Setting) (t : String) (x : s.kind.Carrier) :
    s.kind.StandsFor x (some (Defaults.given s t)) ↔ s.kind.StandsFor x (some (.text t)) := by
  unfold Defaults.given
  revert x
  cases s.kind with
  | text => exact fun _ => Iff.rfl
  | path => exact fun _ => Iff.rfl
  | flag =>
    intro x
    rw [if_pos rfl, Kind.StandsFor, Kind.StandsFor, ← getD_toFlag_iff, ← getD_toFlag_iff]
    exact Iff.rfl

/-! ## Merging as an overlay -/

/-- A coerced value, given again, is understood as itself. A path has no backslash left. -/
theorem Kind.coerce_ofCarrier_coerce (k : Kind) (v : Option Value) :
    k.coerce (some (.ofCarrier k (k.coerce v))) = k.coerce v := by
  cases k with
  | text => rfl
  | flag => rfl
  | path => exact Text.withSlashes_withSlashes _

namespace CompilerSettings

/-- The settings that an assignment amounts to are those of the assignment that they make up. -/
theorem ofAssignment_toAssignment (a : Assignment) :
    ofAssignment (ofAssignment a).toAssignment = ofAssignment a :=
  CompilerSettings.ext (funext fun s => s.kind.coerce_ofCarrier_coerce (a.value? s))

/-- Where every setting is set there is no gap for a default. -/
theorem filledFrom_toAssignment (c : CompilerSettings) (defaults : Assignment) :
    c.toAssignment.filledFrom defaults = c.toAssignment := by
  refine Assignment.ext (funext fun s => ?_)
  rw [Assignment.value?_filledFrom]
  exact Option.some_or

/-- A result that is merged again, over any defaults, stays as it is. -/
theorem merge_toAssignment (a defaults : Assignment) :
    merge (ofAssignment a).toAssignment defaults = ofAssignment a := by
  rw [merge, filledFrom_toAssignment, ofAssignment_toAssignment]

/-- **Merging is a stable overlay**: every setting has the right value for what was resolved, if
anything was, and for its default otherwise; and a result merged over any defaults is itself. -/
theorem merge_overlays (resolved defaults : Assignment) :
    (∀ s : Setting, s.kind.StandsFor ((merge resolved defaults).value s)
      (match resolved.value? s with
        | some v => some v
        | none => defaults.value? s)) ∧
    ∀ others : Assignment,
      merge (merge resolved defaults).toAssignment others = merge resolved defaults := by
  refine ⟨fun s => ?_, fun others => merge_toAssignment _ others⟩
  have h := standsFor_merge resolved defaults s
  cases hv : resolved.value? s with
  | some v => rwa [hv, Option.some_or] at h
  | none => rwa [hv, Option.none_or] at h

/-- Values that are resolved: a flag as a word, an empty text for another, and a path. -/
def resolvedTrial : Assignment :=
  .ofEntries [(.sourceMap, .text "tRUE"), (.noLib, .text ""), (.outDir, .text "a\\b")]

/-- Defaults, one of which is hidden, with a truth value for a path. -/
def defaultsTrial : Assignment :=
  .ofEntries [(.noLib, .flag true), (.removeComments, .flag true), (.mapRoot, .flag false)]

/-- Flags and paths that are resolved, that are filled in, and that are hidden; a text that neither
gives; and the result merged once more. -/
theorem merge_overlays_trial :
    let merged := merge resolvedTrial defaultsTrial
    ((merged.value .sourceMap : Bool) = true ∧ (merged.value .noLib : Bool) = false ∧
      (merged.value .removeComments : Bool) = true ∧ (merged.value .outDir : String) = "a/b" ∧
      (merged.value .mapRoot : String) = "false" ∧ (merged.value .target : String) = "") ∧
    merge merged.toAssignment defaultsTrial = merged := by
  intro merged
  obtain ⟨hvalue, hstable⟩ := merge_overlays resolvedTrial defaultsTrial
  have hsourceMap : Kind.StandsFor .flag _ (some (.text "tRUE")) := hvalue .sourceMap
  have hnoLib : Kind.StandsFor .flag _ (some (.text "")) := hvalue .noLib
  have hremoveComments : Kind.StandsFor .flag _ (some (.flag true)) := hvalue .removeComments
  have houtDir : Kind.StandsFor .path _ (some (.text "a\\b")) := hvalue .outDir
  have hmapRoot : Kind.StandsFor .path _ (some (.flag false)) := hvalue .mapRoot
  have htarget : Kind.StandsFor .text _ none := hvalue .target
  refine ⟨⟨hsourceMap.2 (.inr ⟨_, rfl, by decide +kernel⟩), ?_, hremoveComments.2 (.inl rfl),
    String.toList_inj.1 (houtDir.trans (by decide +kernel)),
    String.toList_inj.1 (hmapRoot.trans (by decide +kernel)), htarget⟩, hstable defaultsTrial⟩
  refine Bool.eq_false_iff.2 fun h => ?_
  rcases hnoLib.1 h with h | ⟨t, ht, htrue⟩
  · cases h
  · cases ht
    exact absurd htrue (by decide +kernel)

end CompilerSettings

end TypeScriptBuild
