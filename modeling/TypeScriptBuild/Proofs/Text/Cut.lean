import Mathlib.Data.List.Basic
import Mathlib.Data.List.TakeWhile
import TypeScriptBuild.Text.Basic

/-!
# Where a text is cut

Readers cut a text in two places: in front of the first character that is no blank, and at the
first occurrence of a mark. Either cut can be made in one way only.

* `append_cons_inj_of_not_mem`: the cut at the first occurrence of a mark.
* `dropBlanks_eq_iff`, `append_inj_of_blank`: the cut behind the leading blanks.
* `trim_eq_iff`: the cut at both ends.
* `mem_of_mem_intercalate`, `mem_intercalate_of_mem`: what stands in such a text.
* `intercalate_append`, `exists_intercalate_append`: its pieces in front of a place.
* `append_cons_inj_of_not_mem_behind`: the cut at the last mark.
-/

namespace TypeScriptBuild.Text

/-- What stands in a text of characters of one kind is of that kind. -/
theorem not_mem_of_forall {f : Char → Bool} {c : Char} {s : List Char} (h : ∀ d ∈ s, f d = true)
    (hc : f c = false) : c ∉ s := by
  intro hm
  rw [h c hm] at hc
  cases hc

/-- A text is cut at the first occurrence of a mark in one way. -/
theorem append_cons_inj_of_not_mem {mark : Char} {x y s t : List Char} (hx : mark ∉ x)
    (hy : mark ∉ y) (h : x ++ mark :: s = y ++ mark :: t) : x = y ∧ s = t := by
  induction x generalizing y with
  | nil =>
    cases y with
    | nil => exact ⟨rfl, (List.cons.inj h).2⟩
    | cons d y => exact absurd (List.cons.inj h).1 fun e => hy (e ▸ List.mem_cons_self)
  | cons c x ih =>
    cases y with
    | nil => exact absurd (List.cons.inj h).1 fun e => hx (e ▸ List.mem_cons_self)
    | cons d y =>
      obtain ⟨rfl, hrest⟩ := List.cons.inj h
      obtain ⟨rfl, hst⟩ := ih (fun hm => hx (List.mem_cons_of_mem c hm))
        (fun hm => hy (List.mem_cons_of_mem c hm)) hrest
      exact ⟨rfl, hst⟩

/-! ## Leading blanks -/

/-- A text does not begin with a blank: it is empty or begins with another character. -/
def Bare (s : List Char) : Prop :=
  ∀ c ∈ s.head?, isBlank c = false

theorem bare_cons {c : Char} (h : isBlank c = false) (s : List Char) : Bare (c :: s) := by
  intro d hd
  cases hd
  exact h

theorem bare_dropBlanks (s : List Char) : Bare (dropBlanks s) := by
  intro c hc
  obtain ⟨r, hr⟩ := List.head?_eq_some_iff.1 hc
  exact dropBlanks_eq_cons hr

theorem dropBlanks_of_bare {s : List Char} (h : Bare s) : dropBlanks s = s := by
  cases s with
  | nil => rfl
  | cons c s => exact List.dropWhile_cons_of_neg (by simp [h c rfl])

theorem dropBlanks_append {w : List Char} (h : ∀ c ∈ w, isBlank c = true) (s : List Char) :
    dropBlanks (w ++ s) = dropBlanks s :=
  List.dropWhile_append_of_pos h

/-- **Dropping the leading blanks** leaves the part of a text that does not begin with one. -/
theorem dropBlanks_eq_iff {s t : List Char} :
    dropBlanks s = t ↔ Bare t ∧ ∃ w, (∀ c ∈ w, isBlank c = true) ∧ s = w ++ t := by
  constructor
  · rintro rfl
    refine ⟨bare_dropBlanks s, s.takeWhile isBlank, fun c hc => List.mem_takeWhile_imp hc, ?_⟩
    exact List.takeWhile_append_dropWhile.symm
  · rintro ⟨ht, w, hw, rfl⟩
    rw [dropBlanks_append hw, dropBlanks_of_bare ht]

theorem blank_of_allBlank {w : String} (h : allBlank w = true) :
    ∀ c ∈ w.toList, isBlank c = true :=
  List.all_eq_true.1 h

/-- What is dropped from a text stands in front of it as a text of blanks. -/
theorem exists_allBlank_append {s t : List Char} (h : dropBlanks s = t) :
    ∃ w : String, allBlank w = true ∧ s = w.toList ++ t := by
  obtain ⟨-, w, hw, hs⟩ := dropBlanks_eq_iff.1 h
  exact ⟨.ofList w, List.all_eq_true.2 (by simpa using hw), by simpa using hs⟩

/-- A text is cut behind its leading blanks in one way. -/
theorem append_inj_of_blank {w v s t : List Char} (hw : ∀ c ∈ w, isBlank c = true)
    (hv : ∀ c ∈ v, isBlank c = true) (hs : Bare s) (ht : Bare t) (h : w ++ s = v ++ t) :
    w = v ∧ s = t := by
  have hst : s = t := by
    rw [← dropBlanks_of_bare hs, ← dropBlanks_append hw, h, dropBlanks_append hv,
      dropBlanks_of_bare ht]
  subst hst
  exact ⟨List.append_cancel_right h, rfl⟩

/-! ## Blanks at both ends -/

/-- `t` stands in `s` between blanks, and neither begins nor ends with one. -/
structure Trimmed (s t : List Char) : Prop where
  bare : Bare t
  bare_reverse : Bare t.reverse
  around : ∃ w v, (∀ c ∈ w, isBlank c = true) ∧ (∀ c ∈ v, isBlank c = true) ∧ s = w ++ t ++ v

theorem bare_append {s t : List Char} (hs : s ≠ []) : Bare (s ++ t) ↔ Bare s := by
  cases s with
  | nil => exact absurd rfl hs
  | cons c s => exact Iff.rfl

/-- **Trimming a text** leaves the part between its outermost blanks. -/
theorem trim_eq_iff {s t : List Char} : trim s = t ↔ Trimmed s t := by
  constructor
  · rintro rfl
    obtain ⟨hbare, w, hw, hs⟩ := dropBlanks_eq_iff.1 (Eq.refl (dropBlanks s))
    obtain ⟨hbare', v, hv, hr⟩ := dropBlanks_eq_iff.1 (Eq.refl (dropBlanks (dropBlanks s).reverse))
    have hd : dropBlanks s = trim s ++ v.reverse := by
      rw [trim, ← List.reverse_append, ← hr, List.reverse_reverse]
    have hv' : ∀ c ∈ v.reverse, isBlank c = true := fun c hc => hv c (List.mem_reverse.1 hc)
    refine ⟨?_, ?_, w, v.reverse, hw, hv', ?_⟩
    · by_cases hne : trim s = []
      · rw [hne]
        exact fun c hc => absurd hc (by simp)
      · rw [hd] at hbare
        exact (bare_append hne).1 hbare
    · rw [trim, List.reverse_reverse]
      exact hbare'
    · rw [List.append_assoc, ← hd]
      exact hs
  · rintro ⟨hbare, hbare', w, v, hw, hv, rfl⟩
    have hv' : ∀ c ∈ v.reverse, isBlank c = true := fun c hc => hv c (List.mem_reverse.1 hc)
    rw [trim, List.append_assoc, dropBlanks_append hw]
    by_cases hne : t = []
    · have hnil : dropBlanks v = [] := List.dropWhile_eq_nil_iff.2 hv
      rw [hne, List.nil_append, hnil]
      rfl
    · rw [dropBlanks_of_bare ((bare_append hne).2 hbare), List.reverse_append,
        dropBlanks_append hv', dropBlanks_of_bare hbare', List.reverse_reverse]

theorem trim_eq_self {s : List Char} (h : ∀ c ∈ s, isBlank c = false) : trim s = s := by
  refine trim_eq_iff.2 ⟨fun c hc => h c (List.mem_of_mem_head? hc), fun c hc => ?_, [], [], ?_⟩
  · exact h c (List.mem_reverse.1 (List.mem_of_mem_head? hc))
  · simp

/-! ## Blanks anywhere -/

/-- A text that holds no blank. -/
def Solid (s : String) : Prop :=
  ∀ c ∈ s.toList, isBlank c = false

-- Over all of Mathlib the characters are a finite type, and `decide` would run through them all.
instance (s : String) : Decidable (Solid s) :=
  decidable_of_iff (s.toList.all (fun c => !isBlank c) = true) (by simp [Solid])

theorem solid_append_iff {s t : String} : Solid (s ++ t) ↔ Solid s ∧ Solid t := by
  rw [Solid, String.toList_append, List.forall_mem_append]
  exact Iff.rfl

theorem filter_dropBlanks (s : List Char) :
    (dropBlanks s).filter (fun c => !isBlank c) = s.filter fun c => !isBlank c := by
  obtain ⟨-, w, hw, hs⟩ := dropBlanks_eq_iff.1 (Eq.refl (dropBlanks s))
  have hnone : w.filter (fun c => !isBlank c) = [] :=
    List.filter_eq_nil_iff.2 fun c hc => by simp [hw c hc]
  calc (dropBlanks s).filter (fun c => !isBlank c)
      = (w ++ dropBlanks s).filter fun c => !isBlank c := by
        rw [List.filter_append, hnone, List.nil_append]
    _ = s.filter fun c => !isBlank c := by rw [← hs]

/-- To trim a text is to leave out some of its blanks and nothing else. -/
theorem filter_trim (s : List Char) :
    (trim s).filter (fun c => !isBlank c) = s.filter fun c => !isBlank c := by
  rw [trim, List.filter_reverse, filter_dropBlanks, List.filter_reverse, List.reverse_reverse,
    filter_dropBlanks]

/-!
## Pieces between marks

The numbers and the identifiers of a version stand between dots. Such a text is put together with
`List.intercalate` and taken apart with `List.splitOn`; here is what its readers need besides the
library's lemmas on these two.
-/

variable {sep : List Char}

theorem mem_of_mem_intercalate {c : Char} {ls : List (List Char)} (h : c ∈ sep.intercalate ls) :
    c ∈ sep ∨ ∃ l ∈ ls, c ∈ l := by
  induction ls with
  | nil => cases h
  | cons l ls ih =>
    by_cases hls : ls = []
    · rw [hls, List.intercalate_singleton] at h
      exact Or.inr ⟨l, List.mem_cons_self, h⟩
    · rw [List.intercalate_cons_of_ne_nil hls, List.mem_append, List.mem_append] at h
      rcases h with (h | h) | h
      · exact Or.inr ⟨l, List.mem_cons_self, h⟩
      · exact Or.inl h
      · rcases ih h with h | ⟨l', hl', h⟩
        · exact Or.inl h
        · exact Or.inr ⟨l', List.mem_cons_of_mem l hl', h⟩

theorem mem_intercalate_of_mem {c : Char} {l : List Char} {ls : List (List Char)} (hl : l ∈ ls)
    (hc : c ∈ l) : c ∈ sep.intercalate ls := by
  induction ls with
  | nil => exact absurd hl List.not_mem_nil
  | cons l' ls ih =>
    by_cases hls : ls = []
    · rw [hls] at hl ⊢
      rw [List.intercalate_singleton, ← List.mem_singleton.1 hl]
      exact hc
    · rw [List.intercalate_cons_of_ne_nil hls]
      rcases List.mem_cons.1 hl with rfl | hl
      · exact List.mem_append_left _ (List.mem_append_left _ hc)
      · exact List.mem_append_right _ (ih hl)

theorem intercalate_append {ls ms : List (List Char)} (hls : ls ≠ []) (hms : ms ≠ []) :
    sep.intercalate (ls ++ ms) = sep.intercalate ls ++ sep ++ sep.intercalate ms := by
  induction ls with
  | nil => exact absurd rfl hls
  | cons l ls ih =>
    by_cases h : ls = []
    · rw [h, List.singleton_append, List.intercalate_cons_of_ne_nil hms, List.intercalate_singleton]
    · rw [List.cons_append, List.intercalate_cons_of_ne_nil (by simp [h]), ih h,
        List.intercalate_cons_of_ne_nil h]
      simp only [List.append_assoc]

/-- Up to a place inside a piece stand the pieces in front and the part of the piece in front. -/
theorem exists_intercalate_append (sep : List Char) (front back : List (List Char))
    (l r : List Char) :
    ∃ rest, sep.intercalate (front ++ (l ++ r) :: back) =
      sep.intercalate (front ++ [l]) ++ (r ++ rest) := by
  have hback : ∃ rest, sep.intercalate ((l ++ r) :: back) = l ++ (r ++ rest) := by
    by_cases h : back = []
    · exact ⟨[], by rw [h, List.intercalate_singleton, List.append_nil]⟩
    · refine ⟨sep ++ sep.intercalate back, ?_⟩
      rw [List.intercalate_cons_of_ne_nil h]
      simp only [List.append_assoc]
  obtain ⟨rest, hrest⟩ := hback
  refine ⟨rest, ?_⟩
  by_cases h : front = []
  · rw [h, List.nil_append, List.nil_append, List.intercalate_singleton, hrest]
  · rw [intercalate_append h (List.cons_ne_nil _ _), intercalate_append h (List.cons_ne_nil _ _),
      hrest, List.intercalate_singleton]
    simp only [List.append_assoc]

/-- A text is cut at the last occurrence of a mark in one way. -/
theorem append_cons_inj_of_not_mem_behind {mark : Char} {x y s t : List Char} (hs : mark ∉ s)
    (ht : mark ∉ t) (h : x ++ mark :: s = y ++ mark :: t) : x = y ∧ s = t := by
  have hr : s.reverse ++ mark :: x.reverse = t.reverse ++ mark :: y.reverse := by
    simpa using congrArg List.reverse h
  obtain ⟨hst, hxy⟩ := append_cons_inj_of_not_mem (by simpa using hs) (by simpa using ht) hr
  exact ⟨List.reverse_inj.1 hxy, List.reverse_inj.1 hst⟩

end TypeScriptBuild.Text
