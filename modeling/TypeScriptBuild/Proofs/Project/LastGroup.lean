import Mathlib.Data.List.Forall2
import TypeScriptBuild.Project

/-!
# The last group that gives a property

The value of a property is computed by going through the property groups with a running value.
The result needs no running value to be described: it is read from one group, the last one that
applies to the selection and has the element.

* `Project.gives` says that a group takes part, `Project.lastGiver?` is the last such group, and
  `Project.given?` is the text that it gives.
* `Project.property_eq`: a property is what is given, or else the value it started from.
* `Project.property_congr`, `Project.settings_congr`: two projects whose groups do the same one by
  one have the same properties and the same settings.
-/

namespace TypeScriptBuild.Project

/-- Whether a property group has the element of a property and applies to a selection. -/
def gives (selection : Selection) (tag : String) (group : Node) : Bool :=
  applies selection group && (group.child? tag).isSome

/-- The last property group, in document order, that gives a property to a selection. -/
def lastGiver? (p : Project) (selection : Selection) (tag : String) : Option Node :=
  (p.groups.filter (gives selection tag)).getLast?

/-- The text that a project gives for a property: that of the first element in the last group. -/
def given? (p : Project) (selection : Selection) (tag : String) : Option String :=
  (p.lastGiver? selection tag).bind fun group => group.childText? tag

variable {selection : Selection} {tag : String} {group : Node}

theorem gives_eq_true_iff :
    gives selection tag group = true ↔
      applies selection group = true ∧ ∃ text, group.childText? tag = some text := by
  rw [gives, Bool.and_eq_true, Option.isSome_iff_exists, Node.childText?]
  cases group.child? tag <;> simp

theorem override_of_gives (h : gives selection tag group = true) (current : Option String) :
    override selection tag current group = group.childText? tag := by
  obtain ⟨ha, text, ht⟩ := gives_eq_true_iff.1 h
  rw [override, if_pos ha, ht, Option.some_or]

theorem override_of_not_gives (h : gives selection tag group = false) (current : Option String) :
    override selection tag current group = current := by
  rw [override]
  cases ha : applies selection group with
  | false => rfl
  | true =>
    have hc : group.child? tag = none := by simpa [gives, ha] using h
    rw [if_pos rfl, Node.childText?, hc, Option.map_none, Option.none_or]

/-- Going through a list of groups ends with the text of the last one that gives the property. -/
theorem foldl_override (groups : List Node) (current : Option String) :
    groups.foldl (override selection tag) current =
      ((groups.filter (gives selection tag)).getLast?.bind fun g => g.childText? tag).or
        current := by
  induction groups generalizing current with
  | nil => rfl
  | cons group groups ih =>
    rw [List.foldl_cons, ih]
    cases hg : gives selection tag group with
    | false => rw [override_of_not_gives hg, List.filter_cons_of_neg (by simp [hg])]
    | true =>
      obtain ⟨-, text, ht⟩ := gives_eq_true_iff.1 hg
      rw [override_of_gives hg, List.filter_cons_of_pos hg, List.getLast?_cons]
      -- a group behind this one hides it, because whatever gives a property has a text for it
      cases hl : (groups.filter (gives selection tag)).getLast? with
      | none => rw [Option.bind_none, Option.none_or, Option.getD_none, Option.bind_some, ht,
          Option.some_or]
      | some last =>
        have hlast := (List.mem_filter.1 (List.mem_of_getLast? hl)).2
        obtain ⟨-, text', ht'⟩ := gives_eq_true_iff.1 hlast
        rw [Option.getD_some, Option.bind_some, ht', Option.some_or, Option.some_or]

/-- **A property is what the last group gives**, or the value it started from if none does. -/
theorem property_eq (p : Project) (tag : String) (selection : Selection)
    (otherwise : Option String) :
    p.property tag selection otherwise = (p.given? selection tag).or otherwise :=
  foldl_override p.groups otherwise

theorem value?_settings (p : Project) (selection : Selection) (s : Setting) :
    (p.settings selection).value? s = (p.given? selection s.tag).map .text := by
  change (p.property s.tag selection none).map Value.text = _
  rw [property_eq, Option.or_none]

/-! ## Two projects -/

variable {p p' : Project}

/-- Two property groups that do the same to the running value of every property. -/
def ActAlike (selection : Selection) (group group' : Node) : Prop :=
  ∀ tag current, override selection tag current group' = override selection tag current group

theorem property_congr (h : List.Forall₂ (ActAlike selection) p.groups p'.groups) (tag : String)
    (otherwise : Option String) :
    p'.property tag selection otherwise = p.property tag selection otherwise := by
  rw [property, property]
  generalize p.groups = groups, p'.groups = groups' at h
  induction h generalizing otherwise with
  | nil => rfl
  | cons hg _ ih => rw [List.foldl_cons, List.foldl_cons, hg, ih]

theorem settings_congr (h : List.Forall₂ (ActAlike selection) p.groups p'.groups) :
    p'.settings selection = p.settings selection := by
  refine Assignment.ext (funext fun s => ?_)
  exact congrArg (Option.map Value.text) (property_congr h s.tag none)

end TypeScriptBuild.Project
