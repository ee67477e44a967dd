import Mathlib.Data.List.Induction
import TypeScriptBuild.Dictionary
import TypeScriptBuild.Project

/-!
# Declared targets by first occurrence

The configurations and platforms that a project declares are noted in one run over all bindings of
its property groups, each in the list of its name. What the run ends with needs no run to be
described: of the values bound to a name, one after the other, the first occurrence of each that
is not empty.

* `Project.Binds`, `Project.Bound`: what the condition of one group binds, and what the conditions
  of several groups bind, in document order.
* `DeclaredTargets.firstOccurrences`: the values that are not empty, each at its first occurrence.
* `Project.Declares`: a list of the values bound to a name, with no value twice, none empty and none
  left out.
* `Project.declaredTargets_declares`: the lists of a project are such, and groups that follow add to
  their ends only.
-/

namespace TypeScriptBuild

namespace DeclaredTargets

open Dictionary (valuesAt valuesAt_append)

variable {values more : List String} {value : String}

/-! ## Noting values -/

/-- The values that are not empty, each where it occurs first. -/
def firstOccurrences (values : List String) : List String :=
  (values.filter (· ≠ "")).eraseDups

theorem mem_firstOccurrences :
    value ∈ firstOccurrences values ↔ value ≠ "" ∧ value ∈ values := by
  rw [firstOccurrences, List.mem_eraseDups, List.mem_filter, decide_eq_true_eq, and_comm]

theorem isPrefix_firstOccurrences_append (values more : List String) :
    firstOccurrences values <+: firstOccurrences (values ++ more) := by
  rw [firstOccurrences, firstOccurrences, List.filter_append, List.eraseDups_append]
  exact List.prefix_append _ _

theorem firstOccurrences_concat_of_known (h : value = "" ∨ value ∈ values) :
    firstOccurrences (values ++ [value]) = firstOccurrences values := by
  rw [firstOccurrences, firstOccurrences, List.filter_append, List.eraseDups_append]
  rcases h with rfl | hmem
  · simp
  · by_cases hempty : value = "" <;> simp [hempty, hmem, List.removeAll]

theorem firstOccurrences_concat_of_new (hempty : value ≠ "") (hnew : value ∉ values) :
    firstOccurrences (values ++ [value]) = firstOccurrences values ++ [value] := by
  rw [firstOccurrences, firstOccurrences, List.filter_append, List.eraseDups_append]
  simp [hempty, hnew, List.removeAll, List.eraseDups_cons]

/-- One step: noting a value gives the first occurrences of all values so far and this one. -/
theorem note_firstOccurrences (values : List String) (value : String) :
    note (firstOccurrences values) value = firstOccurrences (values ++ [value]) := by
  rw [note]
  split
  · rename_i hknown
    rw [firstOccurrences_concat_of_known (hknown.imp_right fun h => (mem_firstOccurrences.1 h).2)]
  · rename_i hnew
    obtain ⟨hempty, hnot⟩ := not_or.1 hnew
    rw [firstOccurrences_concat_of_new hempty fun h => hnot (mem_firstOccurrences.2 ⟨hempty, h⟩)]

/-- The whole run: noting values one by one gives their first occurrences. -/
theorem foldl_note (values : List String) : values.foldl note [] = firstOccurrences values := by
  induction values using List.reverseRecOn with
  | nil => rfl
  | append_singleton values value ih =>
    rw [List.foldl_append, List.foldl_cons, List.foldl_nil, ih, note_firstOccurrences]

theorem nodup_note (h : values.Nodup) (value : String) : (note values value).Nodup := by
  rw [note]
  split
  · exact h
  · rename_i hnew
    obtain ⟨-, hnot⟩ := not_or.1 hnew
    refine List.nodup_append.2 ⟨h, List.pairwise_singleton _ value, fun a ha b hb => ?_⟩
    rintro rfl
    exact hnot (List.mem_singleton.1 hb ▸ ha)

theorem nodup_firstOccurrences (values : List String) : (firstOccurrences values).Nodup := by
  induction values using List.reverseRecOn with
  | nil => exact List.nodup_nil
  | append_singleton values value ih =>
    rw [← note_firstOccurrences]
    exact nodup_note ih value

/-! ## Two lists -/

/-- One step: a binding is noted in the list of its name, and in no other. -/
theorem bind_eq (t : DeclaredTargets) (binding : String × String) :
    t.bind binding = ⟨(valuesAt "Configuration" [binding]).foldl note t.configurations,
      (valuesAt "Platform" [binding]).foldl note t.platforms⟩ := by
  obtain ⟨name, value⟩ := binding
  rw [bind]
  by_cases hc : name = "Configuration"
  · subst hc
    rfl
  · by_cases hp : name = "Platform"
    · subst hp
      rfl
    · simp [valuesAt, hc, hp]

/-- The whole run notes the values of either name apart. -/
theorem foldl_bind (bindings : List (String × String)) (t : DeclaredTargets) :
    bindings.foldl bind t = ⟨(valuesAt "Configuration" bindings).foldl note t.configurations,
      (valuesAt "Platform" bindings).foldl note t.platforms⟩ := by
  induction bindings generalizing t with
  | nil => rfl
  | cons binding bindings ih =>
    have hcons (name : String) : valuesAt name (binding :: bindings) =
        valuesAt name [binding] ++ valuesAt name bindings :=
      valuesAt_append name [binding] bindings
    rw [List.foldl_cons, ih, bind_eq, hcons, hcons, List.foldl_append, List.foldl_append]

end DeclaredTargets

namespace Project

open DeclaredTargets
open Dictionary (valuesAt valuesAt_append mem_valuesAt)

/-! ## What groups bind -/

/-- A property group binds variables by its condition: it has one, which is a comparison that binds
them. -/
def Binds (group : Node) (bindings : List (String × String)) : Prop :=
  ∃ condition comparison, group.attribute? "Condition" = some condition ∧
    Comparison.read condition = .ok comparison ∧ comparison.bindings? = some bindings

/-- What property groups bind, one after the other, where some may bind nothing. -/
inductive Bound : List Node → List (String × String) → Prop
  | nil : Bound [] []
  | binds {group : Node} {groups : List Node} {own rest : List (String × String)}
    (h : Binds group own) (hrest : Bound groups rest) : Bound (group :: groups) (own ++ rest)
  | other {group : Node} {groups : List Node} {rest : List (String × String)}
    (h : ∀ own, ¬ Binds group own) (hrest : Bound groups rest) : Bound (group :: groups) rest

variable {group : Node} {groups : List Node} {bindings : List (String × String)}

theorem groupBindings_of_binds (h : Binds group bindings) : groupBindings group = bindings := by
  obtain ⟨condition, comparison, hcondition, hread, hbindings⟩ := h
  rw [groupBindings, hcondition, Option.map_some, hread]
  change comparison.bindings?.getD [] = bindings
  rw [hbindings, Option.getD_some]

theorem groupBindings_of_not_binds (h : ∀ bindings, ¬ Binds group bindings) :
    groupBindings group = [] := by
  rw [groupBindings]
  cases hcondition : group.attribute? "Condition" with
  | none => rfl
  | some condition =>
    cases hread : Comparison.read condition with
    | error e => rw [Option.map_some, hread]
    | ok comparison =>
      cases hbindings : comparison.bindings? with
      | none => simp [hread, hbindings]
      | some own => exact absurd ⟨condition, comparison, hcondition, hread, hbindings⟩ (h own)

theorem bound_iff : Bound groups bindings ↔ groups.flatMap groupBindings = bindings := by
  constructor
  · intro h
    induction h with
    | nil => rfl
    | binds hown _ ih => rw [List.flatMap_cons, groupBindings_of_binds hown, ih]
    | other hnone _ ih =>
      rw [List.flatMap_cons, groupBindings_of_not_binds hnone, List.nil_append, ih]
  · rintro rfl
    induction groups with
    | nil => exact .nil
    | cons group groups ih =>
      rw [List.flatMap_cons]
      by_cases h : ∃ own, Binds group own
      · obtain ⟨own, hown⟩ := h
        exact groupBindings_of_binds hown ▸ .binds hown ih
      · have hnone := not_exists.1 h
        exact groupBindings_of_not_binds hnone ▸ .other hnone ih

/-- What is bound is bound by one of the groups. -/
theorem Bound.mem_iff (h : Bound groups bindings) (b : String × String) :
    b ∈ bindings ↔ ∃ group ∈ groups, ∃ own, Binds group own ∧ b ∈ own := by
  rw [← bound_iff.1 h, List.mem_flatMap]
  refine exists_congr fun group => and_congr_right fun _ => ?_
  by_cases hbinds : ∃ own, Binds group own
  · obtain ⟨own, hown⟩ := hbinds
    rw [groupBindings_of_binds hown]
    refine ⟨fun hb => ⟨own, hown, hb⟩, ?_⟩
    rintro ⟨own', hown', hb⟩
    rwa [← groupBindings_of_binds hown, groupBindings_of_binds hown']
  · rw [groupBindings_of_not_binds (not_exists.1 hbinds)]
    exact iff_of_false (by simp) fun ⟨own, hown, _⟩ => hbinds ⟨own, hown⟩

/-! ## The lists of a project -/

/-- The values that a project declares for a name: those bound to it by its property groups, each
where it occurs first and none empty. -/
structure Declares (p : Project) (name : String) (listed : List String) : Prop where
  first : ∃ bindings, Bound p.groups bindings ∧
    listed = firstOccurrences (valuesAt name bindings)
  nodup : listed.Nodup
  mem_iff : ∀ value, value ∈ listed ↔
    value ≠ "" ∧ ∃ group ∈ p.groups, ∃ bindings, Binds group bindings ∧ (name, value) ∈ bindings

theorem declares_of_bound {p : Project} (h : Bound p.groups bindings) (name : String) :
    Declares p name (firstOccurrences (valuesAt name bindings)) where
  first := ⟨bindings, h, rfl⟩
  nodup := nodup_firstOccurrences _
  mem_iff value := by rw [mem_firstOccurrences, mem_valuesAt, h.mem_iff]

theorem declaredTargets_eq {p : Project} (h : Bound p.groups bindings) :
    p.declaredTargets = ⟨firstOccurrences (valuesAt "Configuration" bindings),
      firstOccurrences (valuesAt "Platform" bindings)⟩ := by
  rw [declaredTargets, bound_iff.1 h, foldl_bind, foldl_note, foldl_note]

/-- **The declared targets of a project** are the names that its property groups bind, once each and
in the order of first occurrence. Property groups behind them only add to the ends of the lists. -/
theorem declaredTargets_declares (p : Project) :
    Declares p "Configuration" p.declaredTargets.configurations ∧
    Declares p "Platform" p.declaredTargets.platforms ∧
    ∀ p' : Project, p.groups <+: p'.groups →
      p.declaredTargets.configurations <+: p'.declaredTargets.configurations ∧
        p.declaredTargets.platforms <+: p'.declaredTargets.platforms := by
  have h : Bound p.groups (p.groups.flatMap groupBindings) := bound_iff.2 rfl
  rw [declaredTargets_eq h]
  refine ⟨declares_of_bound h _, declares_of_bound h _, fun p' hbehind => ?_⟩
  obtain ⟨more, hmore⟩ := hbehind
  have h' : Bound p'.groups (p.groups.flatMap groupBindings ++ more.flatMap groupBindings) := by
    rw [bound_iff, ← hmore, List.flatMap_append]
  rw [declaredTargets_eq h', valuesAt_append, valuesAt_append]
  exact ⟨isPrefix_firstOccurrences_append _ _, isPrefix_firstOccurrences_append _ _⟩

/-- A project with a property group under each condition, or under none. -/
def projectUnder (conditions : List (Option String)) : Project :=
  let group (condition : Option String) : Node :=
    { attributes := (condition.map fun c => ("Condition", c)).toList }
  { children := [("PropertyGroup", .many (conditions.map group))] }

/-- A pair, an empty name, no condition and a name that is bound already. -/
def trialConditions : List (Option String) :=
  [some "'$(Configuration)|$(Platform)'=='Release|x64'", some "'$(Configuration)'==''", none,
    some "'$(Configuration)'=='Release'"]

/-- The name and the platform of the pair are listed. They stand first in the lists of every project
that has more groups behind these. -/
theorem declaredTargets_declares_trial :
    let p := projectUnder trialConditions
    let p' := projectUnder (trialConditions ++ [some "'$(Platform)'=='x86'"])
    Declares p "Configuration" ["Release"] ∧ Declares p "Platform" ["x64"] ∧
      ["Release"] <+: p'.declaredTargets.configurations ∧
        ["x64"] <+: p'.declaredTargets.platforms := by
  intro p p'
  obtain ⟨hconfigurations, hplatforms, hbehind⟩ := declaredTargets_declares p
  have htargets : p.declaredTargets = ⟨["Release"], ["x64"]⟩ := by decide +kernel
  have hgroups : p.groups <+: p'.groups :=
    ⟨(projectUnder [some "'$(Platform)'=='x86'"]).groups, by decide +kernel⟩
  rw [htargets] at hconfigurations hplatforms hbehind
  exact ⟨hconfigurations, hplatforms, hbehind p' hgroups⟩

end Project

end TypeScriptBuild
