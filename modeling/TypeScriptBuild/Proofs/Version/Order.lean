import Mathlib.Data.List.Lex
import TypeScriptBuild.Version

/-!
# How versions are ordered

The numbers of two versions decide first. Where they are the same, a version with pre-release
identifiers comes before the one without, whatever stands in the build identifiers. So whether a
version has come as far as a release can be told from its numbers and from whether it has
pre-release identifiers.

* `Version.numbers`: the numbers of a version, as a list; lists are compared from the left.
* `Version.Reaches`: a version is a release or comes behind it.
* `Version.release_le_iff`, `Version.lt_release_iff`: the order against a release.
* `Version.Reaches.mono`: what a version reaches, every later version does.
-/

namespace TypeScriptBuild.Version

/-- The three numbers of a version, the most significant one first. -/
def numbers (v : Version) : List ℕ :=
  [v.major.toNat, v.minor.toNat, v.patch.toNat]

/-- A version has come as far as the release of some numbers: its own numbers are greater, or they
are those numbers and it has no pre-release identifiers. -/
def Reaches (v : Version) (ns : List ℕ) : Prop :=
  ns < v.numbers ∨ v.numbers = ns ∧ v.pre = []

instance (v : Version) (ns : List ℕ) : Decidable (v.Reaches ns) :=
  inferInstanceAs (Decidable (_ ∨ _))

variable {v w : Version} {ns : List ℕ}

/-! ## Numbers first -/

theorem compare_nats_eq_lt_iff {ms ns : List ℕ} : compare ms ns = .lt ↔ ms < ns := by
  induction ms generalizing ns with
  | nil => cases ns <;> simp
  | cons m ms ih =>
    cases ns with
    | nil => simp
    | cons n ns =>
      rw [List.compare_cons_cons, Ordering.then_eq_lt, List.cons_lt_cons_iff, ih,
        Nat.compare_eq_lt, Nat.compare_eq_eq]

/-- The order of two versions whose numbers are the same. -/
def compareIdentified (v w : Version) : Ordering :=
  (comparePre v.pre w.pre).then (compareLists v.build w.build)

theorem compare_eq (v w : Version) :
    compare v w = (compare v.numbers w.numbers).then (compareIdentified v w) := by
  have hnumbers : compare v.numbers w.numbers = (compare v.major w.major).then
      ((compare v.minor w.minor).then (compare v.patch w.patch)) := by
    simp only [numbers, List.compare_cons_cons, List.compare_nil_nil, Ordering.then_eq,
      UInt64.compare_eq_toNat_compare_toNat]
  rw [hnumbers, Ordering.then_assoc, Ordering.then_assoc]
  rfl

theorem lt_iff : v < w ↔
    v.numbers < w.numbers ∨ v.numbers = w.numbers ∧ compareIdentified v w = .lt := by
  change compare v w = .lt ↔ _
  rw [compare_eq, Ordering.then_eq_lt, compare_nats_eq_lt_iff, Std.LawfulEqOrd.compare_eq_iff_eq]

theorem le_iff : v ≤ w ↔
    v.numbers < w.numbers ∨ v.numbers = w.numbers ∧ (compareIdentified v w).isLE = true := by
  change (compare v w).isLE = true ↔ _
  rw [compare_eq, Ordering.isLE_then_iff_or, compare_nats_eq_lt_iff,
    Std.LawfulEqOrd.compare_eq_iff_eq]

/-! ## Against a release -/

theorem not_reaches_iff :
    ¬ v.Reaches ns ↔ v.numbers < ns ∨ v.numbers = ns ∧ v.pre ≠ [] := by
  rw [Reaches]
  rcases lt_trichotomy v.numbers ns with h | h | h
  · simp [h, h.ne, h.not_gt]
  · simp [h]
  · simp [h, h.ne', h.not_gt]

/-- Build identifiers never bring a version in front of one without any. -/
theorem compareLists_nil_ne_lt (build : List String) : compareLists build [] ≠ .lt := by
  cases build <;> simp [compareLists]

theorem isLE_compareLists_nil (build : List String) : (compareLists [] build).isLE = true := by
  cases build <;> rfl

/-- **A version comes before a release exactly if it has not reached it.** -/
theorem lt_release_iff : v < w.release ↔ ¬ v.Reaches w.numbers := by
  -- with the same numbers the pre-release identifiers decide, as having no build identifiers is least
  have hsame : compareIdentified v w.release = .lt ↔ v.pre ≠ [] := by
    change (comparePre v.pre []).then (compareLists v.build []) = .lt ↔ _
    cases hpre : v.pre with
    | nil => simpa [comparePre] using compareLists_nil_ne_lt v.build
    | cons id ids => simp [comparePre]
  rw [lt_iff, hsame, not_reaches_iff]
  exact Iff.rfl

/-- **A release comes before the versions that have reached it**, or is one of them. -/
theorem release_le_iff : w.release ≤ v ↔ v.Reaches w.numbers := by
  have hsame : (compareIdentified w.release v).isLE = true ↔ v.pre = [] := by
    change ((comparePre [] v.pre).then (compareLists [] v.build)).isLE = true ↔ _
    cases hpre : v.pre with
    | nil => simpa [comparePre] using isLE_compareLists_nil v.build
    | cons id ids => simp [comparePre]
  rw [le_iff, hsame, Reaches, eq_comm (a := v.numbers)]
  exact Iff.rfl

/-! ## Along the order -/

/-- Of two versions with the same numbers the later one has no pre-release identifiers if the
earlier one has none. -/
theorem pre_eq_nil_of_le (h : (compareIdentified v w).isLE = true) (hv : v.pre = []) :
    w.pre = [] := by
  rw [compareIdentified, hv] at h
  cases hw : w.pre with
  | nil => rfl
  | cons id ids => simp [hw, comparePre] at h

/-- **What a version has reached, every later version has reached too.** -/
theorem Reaches.mono (hv : v.Reaches ns) (h : v ≤ w) : w.Reaches ns := by
  rcases le_iff.1 h with hlt | ⟨heq, hle⟩
  · rcases hv with hv | ⟨rfl, -⟩
    · exact Or.inl (hv.trans hlt)
    · exact Or.inl hlt
  · rcases hv with hv | ⟨hv, hpre⟩
    · exact Or.inl (heq ▸ hv)
    · exact Or.inr ⟨heq ▸ hv, pre_eq_nil_of_le hle hpre⟩

end TypeScriptBuild.Version
