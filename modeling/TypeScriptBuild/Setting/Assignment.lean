import TypeScriptBuild.Setting.Basic

/-!
# Assignments

Settings that are given by a project, by a defaults file or by the table of defaults: some settings
have a value, the others are unset. An empty text and a flag that is off are values.

* `Value`: a text or a truth value.
* `Assignment`: the value of each setting, if it has one; equality is decidable.
* `Assignment.set`, `Assignment.ofEntries`, `Assignment.filledFrom`: assignments built up.
* `Assignment.entries`: the settings that are set, in order.
* `Assignment.value?_filledFrom`: filling the gaps one by one gives each setting its own value, or
  else the other one.
-/

namespace TypeScriptBuild

/-- The value of a setting as it is given. -/
inductive Value where
  | text (s : String)
  | flag (b : Bool)
  deriving DecidableEq, Repr, Inhabited

/-- Values for some of the settings. -/
@[ext] structure Assignment where
  value? : Setting → Option Value

namespace Assignment

/-- Two assignments are equal if they agree on every setting of the list of all. -/
theorem eq_iff (a b : Assignment) : a = b ↔ ∀ s ∈ Setting.all, a.value? s = b.value? s :=
  ⟨fun h _ _ => h ▸ rfl, fun h => Assignment.ext (funext fun s => h s (Setting.mem_all s))⟩

instance : DecidableEq Assignment := fun a b => decidable_of_iff _ (eq_iff a b).symm

/-- Nothing is set. -/
def empty : Assignment :=
  ⟨fun _ => none⟩

instance : Inhabited Assignment := ⟨empty⟩

/-- Whether a setting has a value. -/
def isSet (a : Assignment) (s : Setting) : Bool :=
  (a.value? s).isSome

/-- The assignment in which `s` has the value `v`, and every other setting is as before. -/
def set (a : Assignment) (s : Setting) (v : Value) : Assignment :=
  ⟨fun t => if t = s then some v else a.value? t⟩

/-- The settings that are set and their values, in order. -/
def entries (a : Assignment) : List (Setting × Value) :=
  Setting.all.filterMap fun s => (a.value? s).map fun v => (s, v)

/-- The values of a list, of which a later one replaces an earlier one for the same setting. -/
def ofEntries (es : List (Setting × Value)) : Assignment :=
  es.foldl (fun a e => a.set e.1 e.2) empty

/-- The assignment with one more value, unless its setting has one already. -/
def fill (a : Assignment) (e : Setting × Value) : Assignment :=
  if a.isSet e.1 then a else a.set e.1 e.2

/-- The assignment with its gaps filled, one after the other, by the values of `b`. -/
def filledFrom (a b : Assignment) : Assignment :=
  b.entries.foldl fill a

@[simp] theorem value?_set_self (a : Assignment) (s : Setting) (v : Value) :
    (a.set s v).value? s = some v := by
  simp [set]

theorem value?_set_of_ne {s t : Setting} (h : t ≠ s) (a : Assignment) (v : Value) :
    (a.set s v).value? t = a.value? t := by
  simp [set, h]

/-! ## Filling gaps -/

/-- A setting is found among the values of some settings exactly if it is one of them and set. -/
theorem lookup_filterMap (a : Assignment) (s : Setting) (settings : List Setting) :
    (settings.filterMap fun t => (a.value? t).map fun v => (t, v)).lookup s =
      if s ∈ settings then a.value? s else none := by
  induction settings with
  | nil => rfl
  | cons t settings ih =>
    by_cases hst : s = t
    · subst hst
      cases hv : a.value? s with
      | none => simp [hv, ih]
      | some v => simp [hv]
    · have hne : (s == t) = false := by simpa using hst
      cases hv : a.value? t with
      | none => simp [hv, ih, hst]
      | some v => simp [hv, ih, hst, List.lookup_cons, hne]

/-- The entries of an assignment hold what is set. -/
theorem lookup_entries (a : Assignment) (s : Setting) : a.entries.lookup s = a.value? s := by
  rw [entries, lookup_filterMap, if_pos (Setting.mem_all s)]

/-- One more value counts for its own setting, and there only in a gap. -/
theorem value?_fill (a : Assignment) (e : Setting × Value) (s : Setting) :
    (a.fill e).value? s = (a.value? s).or (if s = e.1 then some e.2 else none) := by
  rw [fill, isSet]
  cases he : a.value? e.1 with
  | some v =>
    by_cases hs : s = e.1
    · subst hs
      simp [he]
    · simp [hs]
  | none =>
    by_cases hs : s = e.1
    · subst hs
      simp [he]
    · simp [value?_set_of_ne hs, hs]

/-- Of the values that are filled in one by one, the first one for a setting counts in a gap. -/
theorem value?_foldl_fill (es : List (Setting × Value)) (a : Assignment) (s : Setting) :
    (es.foldl fill a).value? s = (a.value? s).or (es.lookup s) := by
  induction es generalizing a with
  | nil => rw [List.foldl_nil, List.lookup_nil, Option.or_none]
  | cons e es ih =>
    rw [List.foldl_cons, ih, value?_fill, Option.or_assoc]
    congr 1
    by_cases hs : s = e.1
    · rw [if_pos hs, Option.some_or, hs, List.lookup_cons_self]
    · have hne : (s == e.1) = false := by simpa using hs
      rw [if_neg hs, Option.none_or, List.lookup_cons, hne]

/-- Each setting has its own value, or else the one it is filled from. -/
theorem value?_filledFrom (a b : Assignment) (s : Setting) :
    (a.filledFrom b).value? s = (a.value? s).or (b.value? s) := by
  rw [filledFrom, value?_foldl_fill, lookup_entries]

end Assignment

end TypeScriptBuild
