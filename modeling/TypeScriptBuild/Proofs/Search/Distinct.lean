import Mathlib.Data.List.Nodup
import TypeScriptBuild.Proofs.Search.Dialogue
import TypeScriptBuild.Text.Basic

/-!
# What a path tells of its version

A template may refer to the version of Visual Studio at any number of places, between texts of any
kind. However they are arranged, two versions give two paths: a longer version makes a longer path,
and versions of one length stand at the same places in it. So a path that is found tells the version
that it was found for, and the search does not come twice to the path of a major version. A template
without such a reference has one path only, and there the versions to try are of no use.

* `eq_of_join_map_eq`: a text in pieces, none shorter than its counterpart, tells the pieces.
* `Template.RefersToVersion`, `Template.render_inj`: when two versions have one path.
* `Bounds.nodup_candidates`: the versions to try are distinct.
* `Template.alternatives`: the paths that are tried behind the declared one.
* `Template.path_tells_version`: what a path tells of its version, and what follows for the search.
-/

namespace TypeScriptBuild

/-! ## Texts in pieces -/

section Pieces

variable {α : Type} {f g : α → String} {l : List α}

theorem length_join_map_le (hle : ∀ a ∈ l, (f a).length ≤ (g a).length) :
    (String.join (l.map f)).length ≤ (String.join (l.map g)).length := by
  induction l with
  | nil => exact Nat.le_refl _
  | cons a l ih =>
    simp only [List.map_cons, String.join_cons, String.length_append]
    exact Nat.add_le_add (hle a List.mem_cons_self)
      (ih fun b hb => hle b (List.mem_cons_of_mem a hb))

/-- **A text tells its pieces**, if none of them is longer than its counterpart. -/
theorem eq_of_join_map_eq (hle : ∀ a ∈ l, (f a).length ≤ (g a).length)
    (h : String.join (l.map f) = String.join (l.map g)) : ∀ a ∈ l, f a = g a := by
  induction l with
  | nil => exact fun a ha => absurd ha List.not_mem_nil
  | cons a l ih =>
    have hle' := List.forall_mem_cons.1 hle
    simp only [List.map_cons, String.join_cons] at h
    -- no other piece makes up for one that is shorter, so the first pieces have one length
    have hlength := congrArg String.length h
    rw [String.length_append, String.length_append] at hlength
    have htail := length_join_map_le hle'.2
    have hchars := congrArg String.toList h
    rw [String.toList_append, String.toList_append] at hchars
    obtain ⟨hhead, hrest⟩ := List.append_inj hchars (by
      rw [String.length_toList, String.length_toList]
      exact Nat.le_antisymm hle'.1 (by omega))
    exact List.forall_mem_cons.2
      ⟨String.toList_inj.1 hhead, ih hle'.2 (String.toList_inj.1 hrest)⟩

end Pieces

/-! ## The versions to try -/

theorem versionText_injective : Function.Injective versionText := by
  intro v w h
  rw [versionText, versionText, String.append_left_inj] at h
  exact Text.eq_of_repr_eq h

namespace Bounds

theorem nodup_descending (newest : Int) (n : Nat) : (descending newest n).Nodup := by
  rw [descending_eq_map_range]
  refine List.nodup_range.map fun i j h => ?_
  have : newest - (i : Int) = newest - (j : Int) := h
  omega

/-- **The versions to try are distinct.** -/
theorem nodup_candidates (b : Bounds) : b.candidates.Nodup :=
  (nodup_descending b.highest b.count).map versionText_injective

end Bounds

namespace Template

/-! ## The path of a version -/

/-- Whether a template refers to the version of Visual Studio. -/
def RefersToVersion (t : Template) : Prop :=
  .reference "VisualStudioVersion" ∈ t.fragments

instance (t : Template) : Decidable t.RefersToVersion :=
  inferInstanceAs (Decidable (_ ∈ t.fragments))

variable {t : Template} {vars vars' : Variables} {bounds : Bounds} {present : String → Bool}

theorem render_version (vars : Variables) :
    Fragment.render vars (.reference "VisualStudioVersion") = vars.visualStudioVersion :=
  rfl

/-- All other fragments stand in the path alike, whatever the version. -/
theorem render_fragment_congr (hpath : vars.extensionsPath = vars'.extensionsPath) {f : Fragment}
    (hf : f ≠ .reference "VisualStudioVersion") : f.render vars = f.render vars' := by
  cases f with
  | literal s => rfl
  | reference name =>
    have hname : name ≠ "VisualStudioVersion" := fun h => hf (congrArg Fragment.reference h)
    rw [Fragment.render, Fragment.render, if_neg hname, if_neg hname, hpath]

theorem length_render_fragment_le (hpath : vars.extensionsPath = vars'.extensionsPath)
    (hle : vars.visualStudioVersion.length ≤ vars'.visualStudioVersion.length) (f : Fragment) :
    (f.render vars).length ≤ (f.render vars').length := by
  by_cases hf : f = .reference "VisualStudioVersion"
  · rw [hf, render_version, render_version]
    exact hle
  · exact Nat.le_of_eq (congrArg String.length (render_fragment_congr hpath hf))

/-- A path tells the version, among versions that are not shorter. -/
theorem version_eq_of_render_eq (h : t.RefersToVersion)
    (hpath : vars.extensionsPath = vars'.extensionsPath)
    (hle : vars.visualStudioVersion.length ≤ vars'.visualStudioVersion.length)
    (heq : t.render vars = t.render vars') :
    vars.visualStudioVersion = vars'.visualStudioVersion := by
  have hfragments : ∀ f ∈ t.fragments, f.render vars = f.render vars' :=
    eq_of_join_map_eq (fun f _ => length_render_fragment_le hpath hle f) heq
  have hversion := hfragments _ h
  rwa [render_version, render_version] at hversion

/-- **Two versions have one path only if they are equal.** -/
theorem render_inj (h : t.RefersToVersion) (hpath : vars.extensionsPath = vars'.extensionsPath) :
    t.render vars = t.render vars' ↔ vars.visualStudioVersion = vars'.visualStudioVersion := by
  constructor
  · intro heq
    -- the one of the two that is not longer is compared with the other
    rcases Nat.le_total vars.visualStudioVersion.length vars'.visualStudioVersion.length with
      hle | hle
    · exact version_eq_of_render_eq h hpath hle heq
    · exact (version_eq_of_render_eq h hpath.symm hle heq.symm).symm
  · intro hversion
    have hvars : vars = vars' := by
      cases vars
      cases vars'
      rw [Variables.mk.injEq]
      exact ⟨hversion, hpath⟩
    rw [hvars]

theorem render_with_inj (h : t.RefersToVersion) (vars : Variables) (version other : String) :
    t.render { vars with visualStudioVersion := version } =
      t.render { vars with visualStudioVersion := other } ↔ version = other :=
  render_inj h rfl

/-- Without a reference to the version there is one path. -/
theorem render_congr (h : ¬ t.RefersToVersion)
    (hpath : vars.extensionsPath = vars'.extensionsPath) : t.render vars = t.render vars' := by
  rw [render, render]
  refine congrArg String.join (List.map_congr_left fun f hf => render_fragment_congr hpath ?_)
  rintro rfl
  exact h hf

theorem RefersToVersion.isEmpty_eq_false (h : t.RefersToVersion) : t.isEmpty = false := by
  rw [isEmpty_eq_false_iff]
  intro hraw
  rw [RefersToVersion, fragments, hraw] at h
  cases h

/-! ## The paths behind the declared one -/

/-- The paths with the versions to try in place of the declared one. -/
def alternatives (t : Template) (vars : Variables) (bounds : Bounds) : List String :=
  bounds.candidates.map fun version => t.render { vars with visualStudioVersion := version }

theorem places_eq_cons (h : t.isEmpty = false) :
    t.places vars bounds = t.render vars :: t.alternatives vars bounds := by
  rw [places, if_neg (by simp [h])]
  rfl

/-- What is tried behind the declared path is a front of the alternatives. -/
theorem exists_probed_eq_cons (h : t.isEmpty = false) :
    ∃ asked, t.probed vars bounds present = t.render vars :: asked ∧
      asked <+: t.alternatives vars bounds := by
  rw [probed_eq_untilFirst, places_eq_cons h]
  cases hd : present (t.render vars) with
  | true => exact ⟨[], untilFirst_cons_of_true hd _, List.nil_prefix⟩
  | false => exact ⟨_, untilFirst_cons_of_false hd _, isPrefix_untilFirst _ _⟩

theorem nodup_alternatives (h : t.RefersToVersion) : (t.alternatives vars bounds).Nodup :=
  (Bounds.nodup_candidates bounds).map fun version other => (render_with_inj h vars version other).1

theorem mem_alternatives_iff (h : t.RefersToVersion) :
    t.render vars ∈ t.alternatives vars bounds ↔
      vars.visualStudioVersion ∈ bounds.candidates := by
  rw [alternatives, List.mem_map]
  constructor
  · rintro ⟨version, hversion, heq⟩
    rwa [← (render_with_inj h vars version vars.visualStudioVersion).1 heq]
  · exact fun hversion => ⟨_, hversion, rfl⟩

/-- **A path that is found tells its version**, the declared one or one of those to try. -/
theorem exists_version_of_located (h : t.RefersToVersion) {path : String}
    (hfound : t.locate vars bounds present = .ok path) :
    ∃ version ∈ vars.visualStudioVersion :: bounds.candidates,
      ∀ other, t.render { vars with visualStudioVersion := other } = path ↔ other = version := by
  have hmem := List.mem_of_find?_eq_some ((locate_eq_ok_iff t vars bounds present).1 hfound)
  rw [places_eq_cons h.isEmpty_eq_false] at hmem
  rcases List.mem_cons.1 hmem with rfl | hmem
  · exact ⟨_, List.mem_cons_self, fun other => render_with_inj h vars other _⟩
  · obtain ⟨version, hversion, rfl⟩ := List.mem_map.1 hmem
    exact ⟨version, List.mem_cons_of_mem _ hversion, fun other => render_with_inj h vars other _⟩

/-- Without a reference to the version the search succeeds with the declared path or not at all. -/
theorem locate_eq_ok_iff_declared (hraw : t.raw ≠ "") (h : ¬ t.RefersToVersion) {path : String} :
    t.locate vars bounds present = .ok path ↔
      present (t.render vars) = true ∧ path = t.render vars := by
  rw [locate_eq_ok_iff_preferred]
  constructor
  · rintro ⟨-, hpreferred⟩
    cases hpreferred with
    | declared hd => exact ⟨hd, rfl⟩
    | @newest v hd _ _ hv _ =>
      have hsame : t.renderMajor vars v = t.render vars := render_congr h rfl
      rw [hsame, hd] at hv
      cases hv
  · rintro ⟨hd, rfl⟩
    exact ⟨hraw, .declared hd⟩

/-- **A path tells its version.** A template that refers to the version has one path for two
versions only if they are equal. So the paths behind the declared one are distinct, and behind the
first question none of them is asked for twice; the declared path is one of them exactly if its
version is one to try; and a path that is found belongs to one version alone. Any other template has
one path for all versions, and the search succeeds, with that path, exactly if it exists. -/
theorem path_tells_version (t : Template) :
    (t.RefersToVersion →
      (∀ vars vars' : Variables, vars.extensionsPath = vars'.extensionsPath →
        (t.render vars = t.render vars' ↔
          vars.visualStudioVersion = vars'.visualStudioVersion)) ∧
      ∀ (vars : Variables) (bounds : Bounds),
        (t.alternatives vars bounds).Nodup ∧
        (t.render vars ∈ t.alternatives vars bounds ↔
          vars.visualStudioVersion ∈ bounds.candidates) ∧
        ∀ present : String → Bool,
          (∃ asked, t.probed vars bounds present = t.render vars :: asked ∧
            asked <+: t.alternatives vars bounds ∧ asked.Nodup) ∧
          ∀ path, t.locate vars bounds present = .ok path →
            ∃ version ∈ vars.visualStudioVersion :: bounds.candidates, ∀ other,
              t.render { vars with visualStudioVersion := other } = path ↔ other = version) ∧
    (t.raw ≠ "" → ¬ t.RefersToVersion →
      (∀ vars vars' : Variables, vars.extensionsPath = vars'.extensionsPath →
        t.render vars = t.render vars') ∧
      ∀ (vars : Variables) (bounds : Bounds) (present : String → Bool) (path : String),
        t.locate vars bounds present = .ok path ↔
          present (t.render vars) = true ∧ path = t.render vars) := by
  refine ⟨fun h => ⟨fun vars vars' => render_inj h, fun vars bounds => ?_⟩, fun hraw h => ?_⟩
  · refine ⟨nodup_alternatives h, mem_alternatives_iff h, fun present => ⟨?_, fun path => ?_⟩⟩
    · obtain ⟨asked, hprobed, hfront⟩ := exists_probed_eq_cons h.isEmpty_eq_false
      exact ⟨asked, hprobed, hfront, (nodup_alternatives h).sublist hfront.sublist⟩
    · exact exists_version_of_located h
  · exact ⟨fun vars vars' => render_congr h,
      fun vars bounds present path => locate_eq_ok_iff_declared hraw h⟩

/-- A template that refers to the version twice and whose path is found for a version below zero,
and one that does not refer to it and whose path does not exist. -/
theorem path_tells_version_trial :
    let t : Template := ⟨"v$(VisualStudioVersion)/$(X)$(VisualStudioVersion)"⟩
    let u : Template := ⟨"v1/$(X)"⟩
    let vars : Variables := ⟨"1.0", "p"⟩
    let longer : Variables := ⟨"1.00", "p"⟩
    let bounds : Bounds := ⟨2000, -1, 2001⟩
    let present : String → Bool := fun path => path == "v-1.0/$(X)-1.0"
    t.RefersToVersion ∧ vars.extensionsPath = longer.extensionsPath ∧
      t.render vars ≠ t.render longer ∧ (t.alternatives vars bounds).Nodup ∧
      t.render vars ∈ t.alternatives vars bounds ∧
      t.locate vars bounds present = .ok "v-1.0/$(X)-1.0" ∧
      (∃ version, ∀ other, t.render { vars with visualStudioVersion := other } = "v-1.0/$(X)-1.0" ↔
        other = version) ∧
      u.raw ≠ "" ∧ ¬ u.RefersToVersion ∧ u.render vars = u.render longer ∧
      ∀ path, u.locate vars bounds present ≠ .ok path := by
  intro t u vars longer bounds present
  have ht : t.RefersToVersion := by decide +kernel
  have hu : ¬ u.RefersToVersion := by decide +kernel
  have hraw : u.raw ≠ "" := by decide
  have hfound : t.locate vars bounds present = .ok "v-1.0/$(X)-1.0" := by decide +kernel
  obtain ⟨hrender, hsearch⟩ := (path_tells_version t).1 ht
  obtain ⟨hnodup, hdeclared, hprobed⟩ := hsearch vars bounds
  obtain ⟨hsame, hlocate⟩ := (path_tells_version u).2 hraw hu
  obtain ⟨version, -, hversion⟩ := (hprobed present).2 _ hfound
  refine ⟨ht, rfl, ?_, hnodup, hdeclared.2 (by decide +kernel), hfound, ⟨version, hversion⟩, hraw,
    hu, hsame vars longer rfl, fun path h => ?_⟩
  · exact fun heq => absurd ((hrender vars longer rfl).1 heq) (by decide)
  · exact absurd ((hlocate vars bounds present path).1 h).1 (by decide +kernel)

end Template

end TypeScriptBuild
