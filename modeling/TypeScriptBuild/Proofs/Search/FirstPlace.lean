import TypeScriptBuild.Search

/-!
# The first place that exists

The search for the defaults file counts major versions downwards. Seen from outside there is a
list of places, fixed by the template, the declared version and the bounds, and the search goes
through it until the answer is yes, whoever answers. Its result, its result where arithmetic is
checked, and its questions are three readings of this.

* `untilFirst f l` is the part of `l` that a search for `f` has to look at: all of `l` up to and
  including the first member with `f` (`find?_congr_untilFirst`: what lies behind it does not
  count).
* `Template.search_eq_findM?`: the search goes through `Template.places`.
* `Template.locate_eq`: it answers with the first place that exists.
* `Template.locateChecked_eq_some_iff`: where arithmetic is checked it does so too, or stops.
* `Template.probed_eq_untilFirst`: it asks for the places up to the first that exists, and for no
  other.
-/

namespace TypeScriptBuild

/-! ## The part of a list that a search looks at -/

section Search

variable {α : Type} {f g : α → Bool}

/-- The members of a list up to and including the first one with `f`; all of them if there is
none. -/
def untilFirst (f : α → Bool) : List α → List α
  | [] => []
  | a :: l => if f a then [a] else a :: untilFirst f l

theorem untilFirst_cons_of_true {a : α} (h : f a = true) (l : List α) :
    untilFirst f (a :: l) = [a] := by
  simp [untilFirst, h]

theorem untilFirst_cons_of_false {a : α} (h : f a = false) (l : List α) :
    untilFirst f (a :: l) = a :: untilFirst f l := by
  simp [untilFirst, h]

/-- It is a front of the list. -/
theorem isPrefix_untilFirst (f : α → Bool) : ∀ l : List α, untilFirst f l <+: l
  | [] => List.prefix_rfl
  | a :: l => by
    cases ha : f a with
    | true =>
      rw [untilFirst_cons_of_true ha]
      exact List.prefix_append [a] l
    | false =>
      rw [untilFirst_cons_of_false ha]
      exact (List.prefix_cons_inj a).2 (isPrefix_untilFirst f l)

/-- What is found has been looked at. -/
theorem mem_untilFirst_of_find? {a : α} : ∀ {l : List α}, l.find? f = some a → a ∈ untilFirst f l
  | [], h => by cases h
  | b :: l, h => by
    cases hb : f b with
    | true =>
      rw [List.find?_cons_of_pos hb, Option.some.injEq] at h
      rw [untilFirst_cons_of_true hb, h]
      exact List.mem_singleton_self a
    | false =>
      rw [List.find?_cons_of_neg (by simp [hb])] at h
      rw [untilFirst_cons_of_false hb]
      exact List.mem_cons_of_mem b (mem_untilFirst_of_find? h)

/-- **A search depends on what it looks at**: two tests that agree up to the first success of one
of them find the same. -/
theorem find?_congr_untilFirst :
    ∀ {l : List α}, (∀ a ∈ untilFirst f l, f a = g a) → l.find? f = l.find? g
  | [], _ => rfl
  | a :: l, h => by
    cases ha : f a with
    | true =>
      have hg : g a = true := by
        rw [untilFirst_cons_of_true ha] at h
        rw [← h a (List.mem_singleton_self a), ha]
      rw [List.find?_cons_of_pos ha, List.find?_cons_of_pos hg]
    | false =>
      rw [untilFirst_cons_of_false ha] at h
      have hg : g a = false := by rw [← h a List.mem_cons_self, ha]
      have hl : l.find? f = l.find? g :=
        find?_congr_untilFirst fun b hb => h b (List.mem_cons_of_mem a hb)
      rw [List.find?_cons_of_neg (by simp [ha]), List.find?_cons_of_neg (by simp [hg]), hl]

end Search

/-! ## The places -/

namespace Template

theorem places_of_isEmpty (t : Template) (vars : Variables) (bounds : Bounds)
    (h : t.isEmpty = true) : t.places vars bounds = [] := by
  rw [places, if_pos h]

theorem places_of_not_isEmpty (t : Template) (vars : Variables) (bounds : Bounds)
    (h : t.isEmpty = false) :
    t.places vars bounds = t.render vars ::
      (Bounds.descending bounds.highest bounds.count).map (t.renderMajor vars) := by
  rw [places, h, Bounds.candidates, List.map_map]
  rfl

/-! ## The search, whoever answers -/

section Questions

variable {m : Type → Type} [Monad m]

theorem searchFrom_eq_findM? (t : Template) (vars : Variables) (ask : String → m Bool) (n : Nat) :
    ∀ newest : Int, t.searchFrom vars ask newest n =
      ((Bounds.descending newest n).map (t.renderMajor vars)).findM? ask := by
  induction n with
  | zero => intro _; rfl
  | succ n ih =>
    intro newest
    rw [searchFrom, Bounds.descending, List.map_cons, List.findM?]
    refine bind_congr fun answer => ?_
    cases answer with
    | true => rfl
    | false => exact ih (newest - 1)

/-- **The search goes through the places** until the answer is yes. -/
theorem search_eq_findM? [LawfulMonad m] (t : Template) (vars : Variables) (bounds : Bounds)
    (ask : String → m Bool) :
    t.search vars bounds ask = t.outcome <$> (t.places vars bounds).findM? ask := by
  rw [search, searchUpTo]
  cases h : t.isEmpty with
  | true =>
    rw [places_of_isEmpty t vars bounds h, List.findM?, map_pure]
    rfl
  | false =>
    rw [places_of_not_isEmpty t vars bounds h, List.findM?, map_bind]
    refine bind_congr fun answer => ?_
    cases answer with
    | true => exact (map_pure _ _).symm
    | false =>
      exact (pure_bind _ _).trans (congrArg _ (searchFrom_eq_findM? t vars ask _ _))

end Questions

/-! ## Its result and its questions -/

variable (t : Template) (vars : Variables) (bounds : Bounds) (present : String → Bool)

/-- **The search answers with the first place that exists**, and fails if there is none. -/
theorem locate_eq :
    t.locate vars bounds present = t.outcome ((t.places vars bounds).find? present) := by
  rw [locate, search_eq_findM?, Id.run_map, List.idRun_findM?]
  rfl

theorem locate_eq_ok_iff {path : String} :
    t.locate vars bounds present = .ok path ↔
      (t.places vars bounds).find? present = some path := by
  rw [locate_eq]
  cases (t.places vars bounds).find? present <;> simp

/-- Where the difference fits, checked arithmetic makes no difference. -/
theorem locateChecked_of_fits (h : bounds.Fits) :
    t.locateChecked vars bounds present = some (t.locate vars bounds present) := by
  have hsearch : t.locateChecked vars bounds present =
      t.search vars bounds fun path => some (present path) := by
    rw [locateChecked, Bounds.highest?_eq, if_pos h]
    rfl
  rw [hsearch, search_eq_findM?, locate_eq]
  exact congrArg (Option.map t.outcome) (List.findM?_pure present _)

/-- **Where arithmetic is checked** the search has the same result, or it stops, because the newest
major version is wanted and does not fit. -/
theorem locateChecked_eq_some_iff {result : Except Error String} :
    t.locateChecked vars bounds present = some result ↔
      (t.isEmpty = true ∨ present (t.render vars) = true ∨ bounds.Fits) ∧
        t.locate vars bounds present = result := by
  by_cases hfits : bounds.Fits
  · simp [locateChecked_of_fits t vars bounds present hfits, hfits]
  · rw [locate, search, locateChecked, searchUpTo, searchUpTo, Bounds.highest?, if_neg hfits]
    cases t.isEmpty with
    | true => simp
    | false => cases hd : present (t.render vars) <;> simp [hd, hfits]

theorem run_noted_bind {α : Type} (path : String) (next : Bool → StateM (List String) α)
    (asked : List String) :
    (noted present path >>= next).run asked = (next (present path)).run (asked ++ [path]) :=
  rfl

/-- What is noted of a search in a list is the part that it looks at. -/
theorem run_findM?_noted (l : List String) : ∀ asked : List String,
    (l.findM? (noted present)).run asked = (l.find? present, asked ++ untilFirst present l) := by
  induction l with
  | nil =>
    intro asked
    rw [untilFirst, List.append_nil]
    rfl
  | cons path l ih =>
    intro asked
    rw [List.findM?, run_noted_bind]
    cases h : present path with
    | true =>
      rw [untilFirst_cons_of_true h, List.find?_cons_of_pos h]
      rfl
    | false =>
      rw [untilFirst_cons_of_false h, List.find?_cons_of_neg (by simp [h])]
      refine (ih _).trans ?_
      rw [List.append_assoc]
      rfl

/-- **A run that is noted**: its result, and its questions. -/
theorem run_search_noted (asked : List String) :
    (t.search vars bounds (noted present)).run asked =
      (t.locate vars bounds present, asked ++ untilFirst present (t.places vars bounds)) := by
  rw [search_eq_findM?, StateT.run_map, run_findM?_noted, locate_eq]
  rfl

/-- **The places asked for** are those up to the first that exists. -/
theorem probed_eq_untilFirst :
    t.probed vars bounds present = untilFirst present (t.places vars bounds) := by
  rw [probed, run_search_noted]
  rfl

end Template

end TypeScriptBuild
