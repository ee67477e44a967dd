import TypeScriptBuild.Defaults
import TypeScriptBuild.Project
import TypeScriptBuild.Proofs.Node.Interchange
import TypeScriptBuild.Proofs.Project.LastGroup

/-!
# Projects that cannot be told apart

Whatever is read from a project or from a defaults file is read through the questions that a node
answers. So interchangeable projects say the same, and interchangeable defaults files give the same
defaults or are refused alike.

* `Project.SaysAlike`: two projects of which everything that is read is equal.
* `Project.saysAlike_of_interchangeable`: interchangeable projects are such.
* `Defaults.ofFile_eq_of_interchangeable`: the defaults out of a file.
-/

namespace TypeScriptBuild

open Node (Interchangeable)

/-! ## Lists of interchangeable nodes -/

section Lists

variable {ns ns' : List Node}

theorem map_eq_of_interchangeable {β : Type} {f : Node → β}
    (h : List.Forall₂ Interchangeable ns ns')
    (hf : ∀ n n', Interchangeable n n' → f n' = f n) : ns'.map f = ns.map f := by
  induction h with
  | nil => rfl
  | cons hn _ ih => rw [List.map_cons, List.map_cons, hf _ _ hn, ih]

theorem filterMap_eq_of_interchangeable {β : Type} {f : Node → Option β}
    (h : List.Forall₂ Interchangeable ns ns')
    (hf : ∀ n n', Interchangeable n n' → f n' = f n) : ns'.filterMap f = ns.filterMap f := by
  have hmap := congrArg (List.filterMap id) (map_eq_of_interchangeable h hf)
  rwa [List.filterMap_map, List.filterMap_map, Function.id_comp] at hmap

theorem flatMap_eq_of_interchangeable {β : Type} {f : Node → List β}
    (h : List.Forall₂ Interchangeable ns ns')
    (hf : ∀ n n', Interchangeable n n' → f n' = f n) : ns'.flatMap f = ns.flatMap f := by
  rw [List.flatMap_def, List.flatMap_def, map_eq_of_interchangeable h hf]

/-- The first nodes of a kind are both missing or interchangeable. -/
theorem find?_rel_of_interchangeable {p : Node → Bool} (h : List.Forall₂ Interchangeable ns ns')
    (hp : ∀ n n', Interchangeable n n' → p n' = p n) :
    Option.Rel Interchangeable (ns.find? p) (ns'.find? p) := by
  induction h with
  | nil => exact .none
  | @cons n n' ns ns' hn _ ih =>
    rw [List.find?_cons, List.find?_cons, hp _ _ hn]
    cases p n with
    | true => exact .some hn
    | false => exact ih

end Lists

namespace Project

/-- Two projects of which everything that is read is equal. -/
structure SaysAlike (p p' : Project) : Prop where
  property : ∀ tag selection otherwise,
    p'.property tag selection otherwise = p.property tag selection otherwise
  settings : ∀ selection, p'.settings selection = p.settings selection
  ownDefault? : ∀ name, p'.ownDefault? name = p.ownDefault? name
  imports : p'.imports = p.imports
  defaultsPath : p'.defaultsPath = p.defaultsPath
  compileFiles : p'.compileFiles = p.compileFiles
  declaredTargets : p'.declaredTargets = p.declaredTargets

variable {p p' : Project} {n n' : Node}

/-! ## Properties -/

theorem applies_eq_of_interchangeable (h : Interchangeable n n') (selection : Selection) :
    applies selection n' = applies selection n := by
  rw [applies, applies, h.attribute?_eq]

theorem actAlike_of_interchangeable (h : Interchangeable n n') (selection : Selection) :
    ActAlike selection n n' := by
  intro tag current
  rw [override, override, applies_eq_of_interchangeable h, h.childText?_eq]

theorem groups_interchangeable (h : Interchangeable p p') :
    List.Forall₂ Interchangeable p.groups p'.groups :=
  h.seenAlike.under "PropertyGroup"

theorem actAlike_groups (h : Interchangeable p p') (selection : Selection) :
    List.Forall₂ (ActAlike selection) p.groups p'.groups :=
  (groups_interchangeable h).imp fun _ _ hn => actAlike_of_interchangeable hn selection

theorem isGuarded_eq_of_interchangeable (h : Interchangeable n n') (name : String) :
    isGuarded name n' = isGuarded name n := by
  rw [isGuarded, isGuarded, h.attribute?_eq]

theorem ownDefault?_eq_of_interchangeable (h : Interchangeable p p') (name : String) :
    p'.ownDefault? name = p.ownDefault? name := by
  have helements : List.Forall₂ Interchangeable (p.groups.filterMap fun g => g.child? name)
      (p'.groups.filterMap fun g => g.child? name) :=
    List.rel_filterMap (fun _ _ hn => hn.child?_rel name) (groups_interchangeable h)
  have hfound := find?_rel_of_interchangeable helements fun _ _ hn =>
    isGuarded_eq_of_interchangeable hn name
  exact Interchangeable.map_eq_of_rel hfound fun _ _ hn => hn.textOrEmpty_eq

/-! ## Imports, items and targets -/

theorem imports_eq_of_interchangeable (h : Interchangeable p p') : p'.imports = p.imports := by
  refine filterMap_eq_of_interchangeable (h.seenAlike.under "Import") fun n n' hn => ?_
  rw [hn.seenAlike.attributes, hn.attribute?_eq, hn.attribute?_eq]

theorem compileFiles_eq_of_interchangeable (h : Interchangeable p p') :
    p'.compileFiles = p.compileFiles := by
  refine flatMap_eq_of_interchangeable (h.seenAlike.under "ItemGroup") fun g g' hg => ?_
  refine filterMap_eq_of_interchangeable (hg.seenAlike.under "TypeScriptCompile") fun n n' hn => ?_
  rw [hn.attribute?_eq]

theorem groupBindings_eq_of_interchangeable (h : Interchangeable n n') :
    groupBindings n' = groupBindings n := by
  rw [groupBindings, groupBindings, h.attribute?_eq]

theorem declaredTargets_eq_of_interchangeable (h : Interchangeable p p') :
    p'.declaredTargets = p.declaredTargets := by
  have hbindings := flatMap_eq_of_interchangeable (groups_interchangeable h) fun _ _ hn =>
    groupBindings_eq_of_interchangeable hn
  rw [declaredTargets, declaredTargets, hbindings]

/-- **Interchangeable projects say the same.** -/
theorem saysAlike_of_interchangeable (h : Interchangeable p p') : SaysAlike p p' where
  property tag selection otherwise := property_congr (actAlike_groups h selection) tag otherwise
  settings selection := settings_congr (actAlike_groups h selection)
  ownDefault? := ownDefault?_eq_of_interchangeable h
  imports := imports_eq_of_interchangeable h
  defaultsPath := by rw [defaultsPath, defaultsPath, imports_eq_of_interchangeable h]
  compileFiles := compileFiles_eq_of_interchangeable h
  declaredTargets := declaredTargets_eq_of_interchangeable h

theorem SaysAlike.ownDefault (h : SaysAlike p p') (name : String) :
    p'.ownDefault name = p.ownDefault name := by
  rw [Project.ownDefault, Project.ownDefault, h.ownDefault?]

end Project

namespace Defaults

variable {file file' : Node}

theorem ofGroup_eq_of_interchangeable {group group' : Node} (h : Interchangeable group group')
    (v : Version) : ofGroup group' v = ofGroup group v := by
  rw [ofGroup, ofGroup]
  simp only [h.childText?_eq]

/-- **Interchangeable defaults files give the same defaults**, or lack the same. -/
theorem ofFile_eq_of_interchangeable (h : Interchangeable file file') (path : String)
    (v : Version) : ofFile file' path v = ofFile file path v := by
  have hroot := h.child?_rel "Project"
  rw [ofFile, ofFile]
  generalize file.child? "Project" = root, file'.child? "Project" = root' at hroot
  cases hroot with
  | none => rfl
  | @some p p' hp =>
    have hgroup := hp.child?_rel "PropertyGroup"
    dsimp only
    generalize p.child? "PropertyGroup" = group, p'.child? "PropertyGroup" = group' at hgroup
    cases hgroup with
    | none => rfl
    | some hg => exact congrArg Except.ok (ofGroup_eq_of_interchangeable hg v)

end Defaults

end TypeScriptBuild
