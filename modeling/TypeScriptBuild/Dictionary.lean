/-!
# Dictionaries

Finite maps whose keys are texts, as lists of entries in the order of their keys. With one list
for each map, two maps that hold the same entries are equal.

* `insert`: a map with one more entry, or one replaced.
* `Ordered`: the keys rise strictly; `ordered_insert` says that an insertion keeps this.
* `lookup_insert_self`, `lookup_insert_of_ne`: what a look-up finds after an insertion.
* `eq_of_lookup`: two maps in order are equal if every look-up finds the same in both.
* `Dictionary.valuesAt`: the values for a key, in order.
* `Dictionary.lookup_insertAll`: of entries that are inserted one after the other, the last one for
  a key counts.
-/

namespace TypeScriptBuild.Dictionary

variable {α : Type}

/-- The map in which `key` holds `value`, its other entries as before. -/
def insert (key : String) (value : α) : List (String × α) → List (String × α)
  | [] => [(key, value)]
  | (k, v) :: entries =>
    if key < k then (key, value) :: (k, v) :: entries
    else if key = k then (key, value) :: entries
    else (k, v) :: insert key value entries

/-- The keys rise strictly. -/
def Ordered (entries : List (String × α)) : Prop :=
  entries.Pairwise fun a b => a.1 < b.1

/-- The keys of a map after an insertion are its own and the inserted one. -/
theorem mem_insert {key : String} {value : α} {entries : List (String × α)} {e : String × α}
    (h : e ∈ insert key value entries) : e = (key, value) ∨ e ∈ entries := by
  induction entries with
  | nil => exact Or.inl (List.mem_singleton.1 h)
  | cons d entries ih =>
    obtain ⟨k, v⟩ := d
    unfold insert at h
    split at h
    · exact List.mem_cons.1 h
    · split at h
      · exact (List.mem_cons.1 h).imp_right (List.mem_cons_of_mem _)
      · rcases List.mem_cons.1 h with rfl | h
        · exact Or.inr List.mem_cons_self
        · exact (ih h).imp_right (List.mem_cons_of_mem _)

/-- An insertion keeps the order of the keys. -/
theorem ordered_insert (key : String) (value : α) {entries : List (String × α)}
    (h : Ordered entries) : Ordered (insert key value entries) := by
  induction entries with
  | nil => exact List.pairwise_singleton _ _
  | cons d entries ih =>
    obtain ⟨k, v⟩ := d
    obtain ⟨hk, hrest⟩ := List.pairwise_cons.1 h
    unfold insert
    split
    · rename_i hlt
      refine List.pairwise_cons.2 ⟨fun e he => ?_, h⟩
      rcases List.mem_cons.1 he with rfl | he
      · exact hlt
      · exact String.lt_trans hlt (hk e he)
    · rename_i hnlt
      split
      · rename_i heq
        subst heq
        exact List.pairwise_cons.2 ⟨hk, hrest⟩
      · rename_i hne
        refine List.pairwise_cons.2 ⟨fun e he => ?_, ih hrest⟩
        rcases mem_insert he with rfl | he
        · exact Std.lt_of_le_of_ne (String.not_lt.1 hnlt) (Ne.symm hne)
        · exact hk e he

@[simp] theorem lookup_insert_self (key : String) (value : α) (entries : List (String × α)) :
    (insert key value entries).lookup key = some value := by
  induction entries with
  | nil => simp [insert]
  | cons e entries ih =>
    obtain ⟨k, v⟩ := e
    unfold insert
    split
    · simp
    · split
      · simp
      · rename_i hne
        rw [List.lookup_cons, show (key == k) = false by simpa using hne]
        exact ih

theorem lookup_insert_of_ne {key other : String} (h : other ≠ key) (value : α)
    (entries : List (String × α)) :
    (insert key value entries).lookup other = entries.lookup other := by
  have hne : (other == key) = false := by simpa using h
  induction entries with
  | nil => simp [insert, List.lookup_cons, hne]
  | cons e entries ih =>
    obtain ⟨k, v⟩ := e
    unfold insert
    split
    · rw [List.lookup_cons, hne]
    · split
      · rename_i hk
        subst hk
        simp only [List.lookup_cons, hne]
      · simp only [List.lookup_cons, ih]

theorem lookup_eq_none_of_lt {key : String} {entries : List (String × α)}
    (h : ∀ e ∈ entries, key < e.1) : entries.lookup key = none := by
  rw [List.lookup_eq_none_iff]
  intro e he
  refine bne_iff_ne.2 fun heq => ?_
  exact String.lt_irrefl key (heq ▸ h e he)

/-- A key that is found in a map does not stand in front of the first key of that map. -/
theorem not_lt_of_lookup {k k' : String} {v v' : α} {es es' : List (String × α)}
    (h' : Ordered ((k', v') :: es'))
    (heq : ((k, v) :: es).lookup k = ((k', v') :: es').lookup k) : ¬ k < k' := by
  intro hlt
  have hnone : ((k', v') :: es').lookup k = none := by
    refine lookup_eq_none_of_lt fun e he => ?_
    rcases List.mem_cons.1 he with rfl | he
    · exact hlt
    · exact String.lt_trans hlt ((List.pairwise_cons.1 h').1 e he)
  rw [hnone, List.lookup_cons_self] at heq
  cases heq

/-- Two maps in order are equal if every look-up finds the same in both. -/
theorem eq_of_lookup {es es' : List (String × α)} (h : Ordered es) (h' : Ordered es')
    (heq : ∀ key, es.lookup key = es'.lookup key) : es = es' := by
  induction es generalizing es' with
  | nil =>
    cases es' with
    | nil => rfl
    | cons e' es' =>
      obtain ⟨k', v'⟩ := e'
      exact absurd (heq k') (by simp)
  | cons e es ih =>
    obtain ⟨k, v⟩ := e
    cases es' with
    | nil => exact absurd (heq k) (by simp)
    | cons e' es' =>
      obtain ⟨k', v'⟩ := e'
      -- neither first key stands in front of the other, as it would then be missing there
      have hk : k = k' := by
        rcases Std.lt_trichotomy k k' with hlt | rfl | hgt
        · exact absurd hlt (not_lt_of_lookup h' (heq k))
        · rfl
        · exact absurd hgt (not_lt_of_lookup h (heq k').symm)
      subst hk
      have hv : v = v' := by simpa using heq k
      subst hv
      obtain ⟨hes, hrest⟩ := List.pairwise_cons.1 h
      obtain ⟨hes', hrest'⟩ := List.pairwise_cons.1 h'
      rw [ih hrest hrest' fun key => ?_]
      by_cases hkey : key = k
      · rw [hkey, lookup_eq_none_of_lt hes, lookup_eq_none_of_lt hes']
      · have := heq key
        rwa [List.lookup_cons, List.lookup_cons, show (key == k) = false by simpa using hkey]
          at this

/-!
## Entries by their keys

A list of entries may have several values for a key. Read key by key it gives for each the list of
its values, and two lists of entries that differ only in how the keys are interleaved give the same.
-/

variable {β : Type} {key : String}

/-- The values that entries have for a key, in their order. -/
def valuesAt (key : String) (entries : List (String × α)) : List α :=
  (entries.filter fun e => e.1 = key).map Prod.snd

@[simp] theorem valuesAt_cons_self (key : String) (a : α) (entries : List (String × α)) :
    valuesAt key ((key, a) :: entries) = a :: valuesAt key entries := by
  simp [valuesAt]

theorem valuesAt_cons_of_ne {e : String × α} (h : e.1 ≠ key) (entries : List (String × α)) :
    valuesAt key (e :: entries) = valuesAt key entries := by
  simp [valuesAt, h]

theorem valuesAt_append (key : String) (entries more : List (String × α)) :
    valuesAt key (entries ++ more) = valuesAt key entries ++ valuesAt key more := by
  rw [valuesAt, List.filter_append, List.map_append]
  rfl

theorem mem_valuesAt {a : α} {entries : List (String × α)} :
    a ∈ valuesAt key entries ↔ (key, a) ∈ entries := by
  simp [valuesAt]

theorem mem_of_lookup {a : α} {entries : List (String × α)} (h : entries.lookup key = some a) :
    (key, a) ∈ entries := by
  obtain ⟨front, back, rfl, -⟩ := List.lookup_eq_some_iff.1 h
  exact List.mem_append_right front List.mem_cons_self

/-! ### Inserting entries -/

/-- A map with more entries, inserted one after the other. -/
def insertAll (entries map : List (String × α)) : List (String × α) :=
  entries.foldl (fun m e => insert e.1 e.2 m) map

theorem insert_ne_nil (key : String) (a : α) (map : List (String × α)) :
    insert key a map ≠ [] := by
  cases map with
  | nil => simp [insert]
  | cons e map =>
    rw [insert]
    split
    · simp
    · split <;> simp

/-- A map is empty only if it was and nothing is inserted. -/
theorem insertAll_eq_nil_iff {entries map : List (String × α)} :
    insertAll entries map = [] ↔ entries = [] ∧ map = [] := by
  induction entries generalizing map with
  | nil => simp [insertAll]
  | cons e entries ih => exact ih.trans (by simp [insert_ne_nil])

theorem ordered_insertAll (entries : List (String × α)) {map : List (String × α)}
    (h : Ordered map) : Ordered (insertAll entries map) := by
  induction entries generalizing map with
  | nil => exact h
  | cons e entries ih => exact ih (ordered_insert e.1 e.2 h)

/-- The last entry for a key counts, and without one what the map holds. -/
theorem lookup_insertAll (entries map : List (String × α)) (key : String) :
    (insertAll entries map).lookup key = (valuesAt key entries).getLast?.or (map.lookup key) := by
  induction entries generalizing map with
  | nil => rfl
  | cons e entries ih =>
    obtain ⟨k, a⟩ := e
    change (insertAll entries (insert k a map)).lookup key = _
    rw [ih]
    by_cases hk : k = key
    · subst hk
      rw [lookup_insert_self, valuesAt_cons_self, List.getLast?_cons]
      cases (valuesAt k entries).getLast? <;> rfl
    · rw [lookup_insert_of_ne (Ne.symm hk), valuesAt_cons_of_ne hk]

end TypeScriptBuild.Dictionary
