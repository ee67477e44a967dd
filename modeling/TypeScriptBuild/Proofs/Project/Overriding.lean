import TypeScriptBuild.Proofs.Project.LastGroup

/-!
# Later groups override earlier ones

The value of a property is what the last property group says for it, of those that apply to the
selection and have the element. Whether they stand under a condition makes no difference to which
of them is the last, and an element without text says the empty text, which overrides too. What
does not apply or has no such element might as well not be there.

* `Project.Says`, `Project.SaysLast`: what one group says, and what the last of several says.
* `Project.Thinned`: groups of which some that say nothing are left out.
* `Project.property_is_last_said`: a property is what is said last; earlier groups give a start
  value to later ones, and groups that say nothing do not count.
-/

namespace TypeScriptBuild.Project

/-- A property group says a text for a property: it stands under no condition, or under one that
accepts the selection, and the text is that of the first of its elements of that name, and empty if
that element has none. -/
def Says (selection : Selection) (tag : String) (group : Node) (text : String) : Prop :=
  (∀ condition, group.attribute? "Condition" = some condition →
    selection.accepts condition = true) ∧
  ∃ element others, group.under tag = element :: others ∧ element.text.getD "" = text

/-- A text is what the last of some property groups says, of those that say anything. -/
def SaysLast (selection : Selection) (tag : String) (groups : List Node) (text : String) : Prop :=
  ∃ front group back, groups = front ++ group :: back ∧ Says selection tag group text ∧
    ∀ group' ∈ back, ∀ text', ¬ Says selection tag group' text'

/-- Property groups of which some are left out that say nothing for a property. -/
inductive Thinned (selection : Selection) (tag : String) : List Node → List Node → Prop
  | nil : Thinned selection tag [] []
  | keep (group : Node) {groups groups' : List Node} (h : Thinned selection tag groups groups') :
    Thinned selection tag (group :: groups) (group :: groups')
  | drop {group : Node} {groups groups' : List Node}
    (hsilent : ∀ text, ¬ Says selection tag group text) (h : Thinned selection tag groups groups') :
    Thinned selection tag (group :: groups) groups'

variable {selection : Selection} {tag text : String} {group : Node} {groups groups' : List Node}

/-! ## One group -/

theorem applies_iff :
    applies selection group = true ↔
      ∀ condition, group.attribute? "Condition" = some condition →
        selection.accepts condition = true := by
  rw [applies]
  cases group.attribute? "Condition" with
  | none => simp
  | some condition => simp

theorem childText?_eq_some_iff :
    group.childText? tag = some text ↔
      ∃ element others, group.under tag = element :: others ∧ element.text.getD "" = text := by
  cases hu : group.under tag with
  | nil => simp [Node.childText?_of_under_nil hu]
  | cons element others => simp [Node.childText?_of_under_cons hu, Node.textOrEmpty]

theorem says_iff :
    Says selection tag group text ↔
      applies selection group = true ∧ group.childText? tag = some text := by
  rw [applies_iff, childText?_eq_some_iff, Says]

theorem gives_iff_exists :
    gives selection tag group = true ↔ ∃ text, Says selection tag group text := by
  simp only [gives_eq_true_iff, says_iff, exists_and_left]

theorem gives_eq_false_iff :
    gives selection tag group = false ↔ ∀ text, ¬ Says selection tag group text := by
  rw [← Bool.not_eq_true, gives_iff_exists, not_exists]

/-! ## The last group -/

/-- The last of a list that passes a test, with those behind it. -/
theorem getLast?_filter_eq_some_iff {α : Type} {p : α → Bool} {as : List α} {a : α} :
    (as.filter p).getLast? = some a ↔
      p a = true ∧ ∃ front back, as = front ++ a :: back ∧ ∀ b ∈ back, p b = false := by
  rw [List.getLast?_filter, List.find?_eq_some_iff_append]
  refine and_congr_right fun _ => ⟨?_, ?_⟩
  · rintro ⟨back, front, has, hback⟩
    refine ⟨front.reverse, back.reverse, ?_, fun b hb => ?_⟩
    · rw [← List.reverse_reverse as, has]
      simp
    · simpa using hback b (List.mem_reverse.1 hb)
  · rintro ⟨front, back, rfl, hback⟩
    refine ⟨back.reverse, front.reverse, by simp, fun b hb => ?_⟩
    simpa using hback b (List.mem_reverse.1 hb)

/-- **What a project gives for a property** is what its last group says. -/
theorem given?_eq_some_iff {p : Project} :
    p.given? selection tag = some text ↔ SaysLast selection tag p.groups text := by
  simp only [given?, lastGiver?, Option.bind_eq_some_iff, getLast?_filter_eq_some_iff,
    gives_eq_false_iff]
  constructor
  · rintro ⟨group, ⟨hgives, front, back, hgroups, hback⟩, htext⟩
    have hsays := says_iff.2 ⟨(gives_eq_true_iff.1 hgives).1, htext⟩
    exact ⟨front, group, back, hgroups, hsays, hback⟩
  · rintro ⟨front, group, back, hgroups, hsays, hback⟩
    exact ⟨group, ⟨gives_iff_exists.2 ⟨text, hsays⟩, front, back, hgroups, hback⟩,
      (says_iff.1 hsays).2⟩

/-- Nothing is given if no group says anything, and only then. -/
theorem given?_eq_none_iff {p : Project} :
    p.given? selection tag = none ↔
      ∀ group ∈ p.groups, ∀ text, ¬ Says selection tag group text := by
  simp only [← gives_eq_false_iff, given?]
  cases hlast : p.lastGiver? selection tag with
  | none =>
    have hnil := List.filter_eq_nil_iff.1 (List.getLast?_eq_none_iff.1 hlast)
    simpa using hnil
  | some last =>
    obtain ⟨hgives, front, back, hgroups, -⟩ := getLast?_filter_eq_some_iff.1 hlast
    obtain ⟨-, text, htext⟩ := gives_eq_true_iff.1 hgives
    have hmem : last ∈ p.groups := hgroups ▸ List.mem_append_right front List.mem_cons_self
    refine iff_of_false (by simp [htext]) fun hsilent => ?_
    rw [hsilent last hmem] at hgives
    cases hgives

/-! ## Several lists of groups -/

/-- Groups further in front give the start value for those behind them. -/
theorem property_of_groups_append {p front back : Project}
    (h : p.groups = front.groups ++ back.groups) (otherwise : Option String) :
    p.property tag selection otherwise =
      back.property tag selection (front.property tag selection otherwise) := by
  rw [property, h, List.foldl_append]
  rfl

/-- Groups that say nothing leave the running value as it is. -/
theorem Thinned.foldl_override_eq (h : Thinned selection tag groups groups')
    (current : Option String) :
    groups'.foldl (override selection tag) current =
      groups.foldl (override selection tag) current := by
  induction h generalizing current with
  | nil => rfl
  | keep group _ ih => exact ih (override selection tag current group)
  | drop hsilent _ ih =>
    rw [List.foldl_cons, override_of_not_gives (gives_eq_false_iff.2 hsilent), ih]

/-- **A property is what is said last for it**, or the value it starts from if nothing is said. So
the groups of a project in two parts are gone through one part after the other, and a project says
the same without groups that say nothing. -/
theorem property_is_last_said (selection : Selection) (tag : String) :
    (∀ (p : Project) (otherwise : Option String),
      (∃ text, SaysLast selection tag p.groups text ∧
        p.property tag selection otherwise = some text) ∨
      (∀ group ∈ p.groups, ∀ text, ¬ Says selection tag group text) ∧
        p.property tag selection otherwise = otherwise) ∧
    (∀ (p front back : Project) (otherwise : Option String),
      p.groups = front.groups ++ back.groups →
        p.property tag selection otherwise =
          back.property tag selection (front.property tag selection otherwise)) ∧
    ∀ (p p' : Project) (otherwise : Option String),
      Thinned selection tag p.groups p'.groups →
        p'.property tag selection otherwise = p.property tag selection otherwise := by
  refine ⟨fun p otherwise => ?_, fun _ _ _ otherwise h => property_of_groups_append h otherwise,
    fun _ _ otherwise h => h.foldl_override_eq otherwise⟩
  rw [property_eq]
  cases hgiven : p.given? selection tag with
  | some text => exact .inl ⟨text, given?_eq_some_iff.1 hgiven, Option.some_or⟩
  | none => exact .inr ⟨given?_eq_none_iff.1 hgiven, Option.none_or⟩

/-- A project with an unconditional group, one for `Debug` whose first element has no text, one for
`Release` and a last one that lacks the element. -/
def trialOverriding : Project :=
  let element (text : Option String) : Node := { text := text }
  let group (tag : String) (elements : List Node) (condition : Option String) : Node :=
    { attributes := (condition.map fun c => ("Condition", c)).toList,
      children := [(tag, .many elements)] }
  { children := [("PropertyGroup", .many
      [group "OutDir" [element "bin"] none,
        group "OutDir" [element none, element "obj"] (some "'$(Configuration)' == 'Debug'"),
        group "OutDir" [element "dist"] (some "'$(Configuration)' == 'Release'"),
        group "Target" [element "ES5"] none])] }

/-- The empty text of the group for `Debug` overrides. The groups behind it may be left out, and the
first two give it to them as a start value. -/
theorem property_is_last_said_trial :
    let part (groups : List Node) : Project := { children := [("PropertyGroup", .many groups)] }
    let front := part (trialOverriding.groups.take 2)
    let back := part (trialOverriding.groups.drop 2)
    let selection : Selection := ⟨"Debug", "x86"⟩
    SaysLast selection "OutDir" trialOverriding.groups "" ∧
      back.property "OutDir" selection (front.property "OutDir" selection (some "out")) = some "" ∧
      front.property "OutDir" selection (some "out") = some "" := by
  intro part front back selection
  obtain ⟨hlast, happend, hthin⟩ := property_is_last_said selection "OutDir"
  have hvalue : trialOverriding.property "OutDir" selection (some "out") = some "" := by
    decide +kernel
  have hsilent : ∀ group ∈ back.groups, ∀ text, ¬ Says selection "OutDir" group text := by
    have hgives : ∀ group ∈ back.groups, gives selection "OutDir" group = false := by
      decide +kernel
    exact fun group hgroup => gives_eq_false_iff.1 (hgives group hgroup)
  have hthinned : Thinned selection "OutDir" trialOverriding.groups front.groups := by
    refine .keep _ (.keep _ (.drop (hsilent _ ?_) (.drop (hsilent _ ?_) .nil))) <;> decide +kernel
  refine ⟨?_, ?_, ?_⟩
  · rcases hlast trialOverriding (some "out") with ⟨text, hsaid, htext⟩ | ⟨-, hstart⟩
    · rw [hvalue] at htext
      exact Option.some.inj htext ▸ hsaid
    · rw [hvalue] at hstart
      exact absurd hstart (by decide)
  · rw [← happend trialOverriding front back (some "out") (by decide +kernel), hvalue]
  · rw [hthin trialOverriding front (some "out") hthinned, hvalue]

end TypeScriptBuild.Project
