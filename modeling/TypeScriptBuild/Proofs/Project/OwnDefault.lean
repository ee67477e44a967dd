import TypeScriptBuild.Project
import TypeScriptBuild.Proofs.Condition.Guard

/-!
# The project's own defaults

A project's own default of a property is read from one property group: the first one whose first
element of that name stands under the condition that the property is still unset.

* `Project.GivesDefault`: a group gives a default by an element.
* `Project.FirstDefault`: the text of the first default that a project gives.
* `Project.ownDefault?_congr`: of a group only the first element of that name counts.
* `Project.ownDefault?_reads_guards`: the project's own default in terms of the texts of the
  conditions.
-/

namespace TypeScriptBuild.Project

/-- A property group gives a default of a property by its first element of that name, if that stands
under a guard. -/
def GivesDefault (name : String) (group element : Node) : Prop :=
  group.child? name = some element ∧
    ∃ condition, element.attribute? "Condition" = some condition ∧ UnsetGuard name condition

/-- The text of the first default that a project gives for a property. -/
def FirstDefault (p : Project) (name text : String) : Prop :=
  ∃ front group back element, p.groups = front ++ group :: back ∧
    (∀ group' ∈ front, ∀ element', ¬ GivesDefault name group' element') ∧
      GivesDefault name group element ∧ element.textOrEmpty = text

variable {p : Project} {name text : String} {group element : Node}

/-- An element counts as guarded exactly if its condition is written as a guard. -/
theorem isGuarded_iff (hname : Referable name) :
    isGuarded name element = true ↔
      ∃ condition, element.attribute? "Condition" = some condition ∧
        UnsetGuard name condition := by
  rw [isGuarded]
  cases element.attribute? "Condition" with
  | none => simp
  | some condition =>
    rw [Option.map_some]
    simp only [Option.some.injEq, exists_eq_left', unsetGuard_iff hname]
    cases Comparison.read condition <;> simp

/-- A group takes part exactly if it gives a default. -/
theorem any_isGuarded_iff (hname : Referable name) :
    (group.child? name).any (isGuarded name) = true ↔
      ∃ element, GivesDefault name group element := by
  rw [Option.any_eq_true]
  exact exists_congr fun element => and_congr_right fun _ => isGuarded_iff hname

theorem not_any_isGuarded_iff (hname : Referable name) :
    (group.child? name).any (isGuarded name) = false ↔
      ∀ element, ¬ GivesDefault name group element := by
  rw [← Bool.not_eq_true, any_isGuarded_iff hname, not_exists]

/-- The project's own default, read from the first group that gives one. -/
theorem ownDefault?_eq (p : Project) (name : String) :
    p.ownDefault? name =
      (p.groups.find? fun group => (group.child? name).any (isGuarded name)).bind fun group =>
        group.childText? name := by
  rw [ownDefault?, List.find?_filterMap, Option.map_bind]
  rfl

theorem GivesDefault.childText?_eq (h : GivesDefault name group element) :
    group.childText? name = some element.textOrEmpty := by
  rw [Node.childText?, h.1, Option.map_some]

/-- **The project's own default is the first default that it gives.** -/
theorem ownDefault?_eq_some_iff (hname : Referable name) :
    p.ownDefault? name = some text ↔ p.FirstDefault name text := by
  rw [ownDefault?_eq, Option.bind_eq_some_iff]
  constructor
  · rintro ⟨group, hfind, htext⟩
    obtain ⟨hgives, front, back, hgroups, hfront⟩ := List.find?_eq_some_iff_append.1 hfind
    obtain ⟨element, helement⟩ := (any_isGuarded_iff hname).1 hgives
    rw [helement.childText?_eq] at htext
    refine ⟨front, group, back, element, hgroups, fun group' hg => ?_, helement,
      Option.some.inj htext⟩
    exact (not_any_isGuarded_iff hname).1 (by simpa only [Bool.not_eq_true'] using hfront group' hg)
  · rintro ⟨front, group, back, element, hgroups, hfront, helement, rfl⟩
    refine ⟨group, List.find?_eq_some_iff_append.2
      ⟨(any_isGuarded_iff hname).2 ⟨element, helement⟩, front, back, hgroups, fun group' hg => ?_⟩,
      helement.childText?_eq⟩
    rw [(not_any_isGuarded_iff hname).2 (hfront group' hg)]
    rfl

/-- **There is none if no group gives one**, and only then. -/
theorem ownDefault?_eq_none_iff (hname : Referable name) :
    p.ownDefault? name = none ↔
      ∀ group ∈ p.groups, ∀ element, ¬ GivesDefault name group element := by
  rw [ownDefault?, Option.map_eq_none_iff, List.find?_eq_none]
  constructor
  · intro h group hg element hgives
    exact h element (List.mem_filterMap.2 ⟨group, hg, hgives.1⟩) ((isGuarded_iff hname).2 hgives.2)
  · intro h element hmem hguard
    obtain ⟨group, hg, hchild⟩ := List.mem_filterMap.1 hmem
    exact h group hg element ⟨hchild, (isGuarded_iff hname).1 hguard⟩

/-- Of a group only the first element of a property counts for its default: neither the condition of
the group nor its other elements. -/
theorem ownDefault?_congr {p' : Project}
    (h : p'.groups.map (fun group => group.child? name) =
      p.groups.map fun group => group.child? name) :
    p'.ownDefault? name = p.ownDefault? name := by
  have hmap (groups : List Node) : (groups.filterMap fun group => group.child? name) =
      (groups.map fun group => group.child? name).filterMap id := by
    rw [List.filterMap_map]
    rfl
  rw [ownDefault?, ownDefault?, hmap, hmap, h]

/-- **The project's own default of a property is the text of its first guarded element**, where a
guard is told by the text of its condition: it is the default of the first group whose first element
of that name has one, and there is none without such a group. The groups' own conditions and their
other elements do not matter to it. A guard is an equation, of one comparison, and guards one
property only. -/
theorem ownDefault?_reads_guards (hname : Referable name) (p : Project) :
    (∀ text, p.ownDefault? name = some text ↔ p.FirstDefault name text) ∧
    (p.ownDefault? name = none ↔
      ∀ group ∈ p.groups, ∀ element, ¬ GivesDefault name group element) ∧
    (∀ p' : Project, (p'.groups.map fun group => group.child? name) =
        (p.groups.map fun group => group.child? name) → p'.ownDefault? name = p.ownDefault? name) ∧
    (∀ condition, UnsetGuard name condition →
      (∃ c, Comparison.read condition = .ok c ∧ c.operator = .equal) ∧
      ∀ name', Referable name' → name' ≠ name → ¬ UnsetGuard name' condition) ∧
    ∀ (l l' : Comparison.Layout) (joint : String), ¬ UnsetGuard name (l.text ++ joint ++ l'.text) :=
  ⟨fun _ => ownDefault?_eq_some_iff hname, ownDefault?_eq_none_iff hname,
    fun _ => ownDefault?_congr,
    fun _ h => ⟨h.read_equal hname, fun _ hname' hne h' => hne (h'.name_unique hname' hname h)⟩,
    not_unsetGuard_join hname⟩

/-- A project whose first group gives `Configuration` with no guard, and then with one. Its second
group has the guard of the platform there, and its third group stands under a condition itself and
has a guard that is spaced out and not closed. -/
def trialDefaults : Project :=
  let element (condition text : String) : Node :=
    { attributes := [("Condition", condition)], text := some text }
  let group (condition : String) (elements : List Node) : Node :=
    { attributes := [("Condition", condition)], children := [("Configuration", .many elements)] }
  { children := [("PropertyGroup", .many
      [group "" [{ text := some "Release" }, element "'$(Configuration)'==''" "Retail"],
        group "" [element "'$(Platform)' == ''" "Profile"],
        group "false" [element " '\t$(Configuration' == ' ' " "Debug"]])] }

/-- The third group gives the default. -/
theorem ownDefault?_reads_guards_trial :
    Referable "Configuration" ∧ trialDefaults.FirstDefault "Configuration" "Debug" := by
  have hname : Referable "Configuration" := ⟨by decide, by decide⟩
  obtain ⟨hsome, -⟩ := ownDefault?_reads_guards hname trialDefaults
  exact ⟨hname, (hsome "Debug").1 (by decide +kernel)⟩

end TypeScriptBuild.Project
