import TypeScriptBuild.Proofs.Search.FirstPlace

/-!
# What the search asks

A search asks whether one path exists, and whether the next one does only if it does not. If
whoever answers notes the questions, they come out of the run together with the result. They are the
front of a list that is known beforehand, up to the first path that exists.

* `FirstHit`: the front of a list up to the first member with a property.
* `Template.queue`: the paths in question, by the numbers of their versions.
* `Template.Searched`: what is asked, and the result.
* `Template.Preferred`: the path that is preferred among those that exist.
* `Template.search_asks_until_hit`: this is asked, and that path is found.
-/

namespace TypeScriptBuild

/-! ## The front of a list up to a hit -/

section Search

variable {α : Type} {f : α → Bool} {l asked : List α} {found : Option α}

/-- `asked` is the shortest front of the list that ends in a hit, which is `found`, or the whole
list if there is no hit. -/
inductive FirstHit (f : α → Bool) : (l asked : List α) → (found : Option α) → Prop
  | hit {front back : List α} {a : α} (hfront : ∀ b ∈ front, f b = false) (ha : f a = true) :
    FirstHit f (front ++ a :: back) (front ++ [a]) (some a)
  | miss {l : List α} (h : ∀ b ∈ l, f b = false) : FirstHit f l l none

theorem untilFirst_append (l : List α) :
    ∀ {front : List α}, (∀ b ∈ front, f b = false) →
      untilFirst f (front ++ l) = front ++ untilFirst f l
  | [], _ => rfl
  | a :: front, h => by
    rw [List.cons_append, untilFirst_cons_of_false (h a List.mem_cons_self),
      untilFirst_append l fun b hb => h b (List.mem_cons_of_mem a hb)]
    rfl

theorem FirstHit.cons {a : α} (ha : f a = false) (h : FirstHit f l asked found) :
    FirstHit f (a :: l) (a :: asked) found := by
  cases h with
  | @hit front back b hfront hb =>
    exact @FirstHit.hit α f (a :: front) back b (List.forall_mem_cons.2 ⟨ha, hfront⟩) hb
  | miss h => exact .miss (List.forall_mem_cons.2 ⟨ha, h⟩)

theorem firstHit_untilFirst (f : α → Bool) :
    ∀ l : List α, FirstHit f l (untilFirst f l) (l.find? f)
  | [] => .miss fun _ hb => absurd hb List.not_mem_nil
  | a :: l => by
    cases ha : f a with
    | true =>
      rw [untilFirst_cons_of_true ha, List.find?_cons_of_pos ha]
      exact @FirstHit.hit α f [] l a (fun _ hb => absurd hb List.not_mem_nil) ha
    | false =>
      rw [untilFirst_cons_of_false ha, List.find?_cons_of_neg (by simp [ha])]
      exact (firstHit_untilFirst f l).cons ha

/-- **A search looks at the front up to the first hit**, and finds it. -/
theorem firstHit_iff : FirstHit f l asked found ↔ untilFirst f l = asked ∧ l.find? f = found := by
  constructor
  · intro h
    cases h with
    | @hit front back a hfront ha =>
      have hnone : front.find? f = none := List.find?_eq_none.2 fun b hb => by simp [hfront b hb]
      rw [untilFirst_append _ hfront, untilFirst_cons_of_true ha, List.find?_append, hnone,
        Option.none_or, List.find?_cons_of_pos ha]
      exact ⟨rfl, rfl⟩
    | miss h =>
      have hfront := untilFirst_append [] h
      rw [untilFirst, List.append_nil] at hfront
      exact ⟨hfront, List.find?_eq_none.2 fun b hb => by simp [h b hb]⟩
  · rintro ⟨rfl, rfl⟩
    exact firstHit_untilFirst f l

end Search

/-! ## Numbers downwards -/

namespace Bounds

theorem descending_eq_map_range (n : Nat) : ∀ newest : Int,
    descending newest n = (List.range n).map fun i : Nat => newest - (i : Int) := by
  induction n with
  | zero => intro _; rfl
  | succ n ih =>
    intro newest
    rw [descending, ih (newest - 1), List.range_succ_eq_map, List.map_cons, List.map_map]
    congr 1
    · simp
    · refine List.map_congr_left fun i _ => ?_
      simp only [Function.comp_apply]
      omega

/-- **Of the major versions with a property the newest is found.** -/
theorem find?_descending_eq_some_iff {f : Int → Bool} {v : Int} (n : Nat) : ∀ newest : Int,
    (descending newest n).find? f = some v ↔
      f v = true ∧ newest - n < v ∧ v ≤ newest ∧ ∀ u, v < u → u ≤ newest → f u = false := by
  induction n with
  | zero =>
    intro newest
    refine iff_of_false (by simp [descending]) ?_
    rintro ⟨-, hleast, hnewest, -⟩
    omega
  | succ n ih =>
    intro newest
    rw [descending]
    cases h : f newest with
    | true =>
      rw [List.find?_cons_of_pos h, Option.some.injEq]
      constructor
      · rintro rfl
        exact ⟨h, by omega, Int.le_refl _, fun u _ _ => by omega⟩
      · rintro ⟨-, -, hnewest, habove⟩
        rcases Int.lt_or_eq_of_le hnewest with hlt | heq
        · rw [habove newest hlt (Int.le_refl _)] at h
          cases h
        · exact heq.symm
    | false =>
      rw [List.find?_cons_of_neg (by simp [h]), ih (newest - 1)]
      refine and_congr_right fun hv => ?_
      have hne : v ≠ newest := by
        rintro rfl
        rw [h] at hv
        cases hv
      constructor
      · rintro ⟨hleast, hnewest, habove⟩
        refine ⟨by omega, by omega, fun u hlt hle => ?_⟩
        by_cases hu : u = newest
        · rw [hu]
          exact h
        · exact habove u hlt (by omega)
      · rintro ⟨hleast, hnewest, habove⟩
        exact ⟨by omega, by omega, fun u hlt hle => habove u hlt (by omega)⟩

end Bounds

/-! ## The paths in question -/

namespace Template

variable (t : Template) (vars : Variables) (bounds : Bounds) (present : String → Bool)

/-- The paths in question: the path with the declared version, and those with the major versions
from the newest to the least. -/
def queue (bounds : Bounds) : List String :=
  t.render vars ::
    (List.range (bounds.highest - bounds.minimum + 1).toNat).map fun i : Nat =>
      t.render { vars with visualStudioVersion := toString (bounds.highest - i) ++ ".0" }

theorem places_eq_queue (h : t.isEmpty = false) : t.places vars bounds = t.queue vars bounds := by
  rw [places_of_not_isEmpty t vars bounds h, Bounds.descending_eq_map_range, List.map_map]
  rfl

/-- What is asked in a search, and its result. -/
inductive Searched : (asked : List String) → (result : Except Error String) → Prop
  | noTemplate (h : t.raw = "") : Searched [] (.error (.defaultsNotFound t.raw))
  | found {asked : List String} {path : String} (h : t.raw ≠ "")
    (hit : FirstHit present (t.queue vars bounds) asked (some path)) : Searched asked (.ok path)
  | missing {asked : List String} (h : t.raw ≠ "")
    (miss : FirstHit present (t.queue vars bounds) asked none) :
    Searched asked (.error (.defaultsNotFound t.raw))

variable {t vars bounds present}

theorem searched_iff {asked : List String} {result : Except Error String} :
    t.Searched vars bounds present asked result ↔
      t.probed vars bounds present = asked ∧ t.locate vars bounds present = result := by
  rw [probed_eq_untilFirst, locate_eq]
  by_cases ht : t.raw = ""
  · rw [places_of_isEmpty t vars bounds (isEmpty_iff.2 ht)]
    constructor
    · intro h
      cases h with
      | noTemplate h => exact ⟨rfl, rfl⟩
      | found h hit => exact absurd ht h
      | missing h miss => exact absurd ht h
    · rintro ⟨rfl, rfl⟩
      exact .noTemplate ht
  · rw [places_eq_queue t vars bounds (isEmpty_eq_false_iff.2 ht)]
    constructor
    · intro h
      cases h with
      | noTemplate h => exact absurd h ht
      | found h hit =>
        obtain ⟨hasked, hfound⟩ := firstHit_iff.1 hit
        exact ⟨hasked, by rw [hfound, outcome_some]⟩
      | missing h miss =>
        obtain ⟨hasked, hfound⟩ := firstHit_iff.1 miss
        exact ⟨hasked, by rw [hfound, outcome_none]⟩
    · rintro ⟨hasked, rfl⟩
      cases hfound : (t.queue vars bounds).find? present with
      | some path => exact .found ht (firstHit_iff.2 ⟨hasked, hfound⟩)
      | none => exact .missing ht (firstHit_iff.2 ⟨hasked, hfound⟩)

variable (t vars bounds present) in
/-- The path that is preferred among those that exist: with the declared version, or else with the
newest major version within the bounds. -/
inductive Preferred : String → Prop
  | declared (h : present (t.render vars) = true) : Preferred (t.render vars)
  | newest {v : Int} (hdeclared : present (t.render vars) = false) (hleast : bounds.minimum ≤ v)
    (hnewest : v ≤ bounds.highest) (hv : present (t.renderMajor vars v) = true)
    (habove : ∀ u, v < u → u ≤ bounds.highest → present (t.renderMajor vars u) = false) :
    Preferred (t.renderMajor vars v)

theorem locate_eq_ok_iff_preferred {path : String} :
    t.locate vars bounds present = .ok path ↔ t.raw ≠ "" ∧ t.Preferred vars bounds present path := by
  rw [locate_eq_ok_iff]
  by_cases ht : t.raw = ""
  · rw [places_of_isEmpty t vars bounds (isEmpty_iff.2 ht)]
    simp [ht]
  · rw [places_of_not_isEmpty t vars bounds (isEmpty_eq_false_iff.2 ht)]
    cases hd : present (t.render vars) with
    | true =>
      rw [List.find?_cons_of_pos hd, Option.some.injEq]
      constructor
      · rintro rfl
        exact ⟨ht, .declared hd⟩
      · rintro ⟨-, h⟩
        cases h with
        | declared h => rfl
        | newest hdeclared =>
          rw [hd] at hdeclared
          cases hdeclared
    | false =>
      have hcount : ∀ {v}, v ≤ bounds.highest →
          (bounds.highest - bounds.count < v ↔ bounds.minimum ≤ v) := by
        intro v hv
        rw [Bounds.count, Bounds.countUpTo]
        omega
      rw [List.find?_cons_of_neg (by simp [hd]), List.find?_map, Option.map_eq_some_iff]
      simp only [Bounds.find?_descending_eq_some_iff]
      constructor
      · rintro ⟨v, ⟨hv, hleast, hnewest, habove⟩, rfl⟩
        exact ⟨ht, .newest hd ((hcount hnewest).1 hleast) hnewest hv habove⟩
      · rintro ⟨-, h⟩
        cases h with
        | declared h =>
          rw [hd] at h
          cases h
        | newest hdeclared hleast hnewest hv habove =>
          exact ⟨_, ⟨hv, (hcount hnewest).2 hleast, hnewest, habove⟩, rfl⟩

theorem length_probed_le :
    ((t.probed vars bounds present).length : Int) ≤
      1 + max 0 (bounds.highest - bounds.minimum + 1) := by
  rw [probed_eq_untilFirst]
  have hle := (isPrefix_untilFirst present (t.places vars bounds)).length_le
  cases ht : t.isEmpty with
  | true =>
    rw [places_of_isEmpty t vars bounds ht, List.length_nil] at hle
    rw [places_of_isEmpty t vars bounds ht]
    omega
  | false =>
    rw [places_eq_queue t vars bounds ht] at hle ⊢
    rw [queue, List.length_cons, List.length_map, List.length_range] at hle
    rw [queue]
    omega

/-- **The search asks one path after the other until one exists**, and finds that path. A run that
is noted gives the result and the questions: none if there is no template, else those of the queue
up to the first hit. So a path is found exactly if it is preferred among those that exist, and there
are no more questions than one for the declared version and one for each major version in the
bounds. The newest major version is the year less the epoch if that fits, and then checked arithmetic
makes no difference. -/
theorem search_asks_until_hit (t : Template) (vars : Variables) (bounds : Bounds)
    (present : String → Bool) :
    (bounds.Fits → bounds.highest = bounds.year - bounds.epoch ∧
      t.locateChecked vars bounds present = some (t.locate vars bounds present)) ∧
    (t.search vars bounds (noted present)).run [] =
      (t.locate vars bounds present, t.probed vars bounds present) ∧
    (∀ asked result, t.Searched vars bounds present asked result ↔
      t.probed vars bounds present = asked ∧ t.locate vars bounds present = result) ∧
    (∀ path, t.locate vars bounds present = .ok path ↔
      t.raw ≠ "" ∧ t.Preferred vars bounds present path) ∧
    ((t.probed vars bounds present).length : Int) ≤
      1 + max 0 (bounds.highest - bounds.minimum + 1) := by
  refine ⟨fun h => ⟨Bounds.highest_of_fits h, locateChecked_of_fits t vars bounds present h⟩, ?_,
    fun _ _ => searched_iff, fun _ => locate_eq_ok_iff_preferred, length_probed_le⟩
  rw [run_search_noted, probed_eq_untilFirst]
  rfl

/-- Only versions 14 and 10 are installed: the declared version comes first, then the major versions
from the year's downwards, and nothing is asked below the hit. -/
theorem search_asks_until_hit_trial :
    let t : Template := ⟨"$(VisualStudioVersion)"⟩
    let vars : Variables := ⟨"12.0", ""⟩
    let bounds : Bounds := ⟨2000, 10, 2016⟩
    let present := fun path => ["14.0", "10.0"].contains path
    bounds.highest = 16 ∧ t.probed vars bounds present = ["12.0", "16.0", "15.0", "14.0"] ∧
      t.locateChecked vars bounds present = some (.ok "14.0") := by
  intro t vars bounds present
  obtain ⟨hfits, -, hsearched, -, -⟩ := search_asks_until_hit t vars bounds present
  obtain ⟨hhighest, hchecked⟩ := hfits (by decide)
  have hit : FirstHit present (t.queue vars bounds) ["12.0", "16.0", "15.0", "14.0"] (some "14.0") :=
    firstHit_iff.2 (by decide +kernel)
  obtain ⟨hasked, hfound⟩ := (hsearched _ _).1 (.found (by decide) hit)
  exact ⟨hhighest, hasked, by rw [hchecked, hfound]⟩

end Template

end TypeScriptBuild
