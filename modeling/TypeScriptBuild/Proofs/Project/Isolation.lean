import TypeScriptBuild.Proofs.Condition.Spelling
import TypeScriptBuild.Proofs.Project.LastGroup

/-!
# Configurations do not see each other

What a project says under the conditions of one configuration is said for that configuration alone.
Whatever the groups hold that a configuration selects, on whichever platform, the settings and
properties of every other configuration stay as they are. No bar may stand in the two names: a
configuration `A|B` and a configuration `A` have conditions in common.

* `Project.SameBut`: two property groups that may differ only for one configuration.
* `Project.settings_isolated`: no other configuration sees the difference.
-/

namespace TypeScriptBuild.Project

/-- A property group stands under a condition that applies to a configuration on some platform. -/
def SelectedFor (configuration : String) (group : Node) : Prop :=
  ∃ platform condition, group.attribute? "Condition" = some condition ∧
    Selection.accepts ⟨configuration, platform⟩ condition = true

/-- Two property groups under the same condition, or both under none, that are the same unless the
condition applies to a configuration. -/
structure SameBut (configuration : String) (group group' : Node) : Prop where
  condition : group'.attribute? "Condition" = group.attribute? "Condition"
  same : ¬ SelectedFor configuration group → group' = group

variable {configuration : String} {selection : Selection} {group group' : Node}

/-- What applies to one configuration does not apply to another one. -/
theorem applies_eq_false (hbar : '|' ∉ configuration.toList)
    (hbar' : '|' ∉ selection.configuration.toList) (hne : selection.configuration ≠ configuration)
    (h : SelectedFor configuration group) : applies selection group = false := by
  obtain ⟨platform, condition, hcondition, haccepts⟩ := h
  rw [applies, hcondition]
  by_contra happlies
  have happlies : selection.accepts condition = true := by simpa using happlies
  exact hne (Selection.configuration_eq_of_accepts hbar' hbar happlies haccepts)

theorem applies_congr (h : group'.attribute? "Condition" = group.attribute? "Condition") :
    applies selection group' = applies selection group := by
  rw [applies, applies, h]

theorem override_of_not_applies (h : applies selection group = false) (tag : String)
    (current : Option String) : override selection tag current group = current := by
  rw [override, h]
  rfl

/-- Where two groups may differ they are passed over. -/
theorem SameBut.actAlike (hbar : '|' ∉ configuration.toList)
    (hbar' : '|' ∉ selection.configuration.toList) (hne : selection.configuration ≠ configuration)
    (h : SameBut configuration group group') : ActAlike selection group group' := by
  intro tag current
  -- the condition decides: it applies to the one configuration, or the groups are the same
  by_cases hs : SelectedFor configuration group
  · have hoff := applies_eq_false hbar hbar' hne hs
    have hoff' : applies selection group' = false := (applies_congr h.condition).trans hoff
    rw [override_of_not_applies hoff, override_of_not_applies hoff']
  · rw [h.same hs]

/-- **Settings of one configuration never leak into another**: two projects whose groups differ for
one configuration alone give every other configuration the same settings and properties. -/
theorem settings_isolated {p p' : Project} (configuration : String)
    (hbar : '|' ∉ configuration.toList)
    (h : List.Forall₂ (SameBut configuration) p.groups p'.groups) (selection : Selection)
    (hbar' : '|' ∉ selection.configuration.toList)
    (hne : selection.configuration ≠ configuration) :
    p'.settings selection = p.settings selection ∧
      ∀ tag otherwise, p'.property tag selection otherwise = p.property tag selection otherwise := by
  have halike := h.imp fun _ _ hg => hg.actAlike hbar hbar' hne
  exact ⟨settings_congr halike, property_congr halike⟩

/-- A project with a target for the configuration `Debug` on one platform and another one for
`Release`. -/
def trialTargets (debug release : String) : Project :=
  let element (target : String) : Node := { text := some target }
  let group (condition target : String) : Node :=
    (({} : Node).setAttribute "Condition" condition).push "TypeScriptTarget" (element target)
  (({} : Node).push "PropertyGroup"
      (group "'$(Configuration)' == 'Release'" release)).push "PropertyGroup"
    (group "'$(Configuration)|$(Platform)' == 'Debug|x86'" debug)

/-- The two projects differ for `Debug`, behind the group for `Release`. -/
theorem settings_isolated_trial :
    let p := trialTargets "ES3" "ES5"
    let p' := trialTargets "ES6" "ES5"
    p'.property "TypeScriptTarget" ⟨"Debug", "x86"⟩ none ≠
        p.property "TypeScriptTarget" ⟨"Debug", "x86"⟩ none ∧
      p'.settings ⟨"Release", "x86"⟩ = p.settings ⟨"Release", "x86"⟩ ∧
      p'.property "TypeScriptTarget" ⟨"Release", "x86"⟩ none = some "ES5" := by
  intro p p'
  have hgroups : List.Forall₂ (SameBut "Debug") p.groups p'.groups := by
    refine .cons ⟨rfl, fun _ => rfl⟩ (.cons ⟨rfl, fun hno => absurd ?_ hno⟩ .nil)
    exact ⟨"x86", _, rfl, by decide +kernel⟩
  have h := settings_isolated "Debug" (by decide) hgroups ⟨"Release", "x86"⟩ (by decide) (by decide)
  refine ⟨by decide +kernel, h.1, ?_⟩
  rw [h.2]
  decide +kernel

end TypeScriptBuild.Project
