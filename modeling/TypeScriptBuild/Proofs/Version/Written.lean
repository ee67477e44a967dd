import TypeScriptBuild.Proofs.Text.Cut
import TypeScriptBuild.Version

/-!
# The written form of a release

A release, three numbers with neither pre-release nor build, is written as three numerals between
dots. Such a text holds digits and dots alone, and each numeral is the plain one of its number.

* `Version.number?_digits`: a numeral is read as its number.
* `Version.toList_toText_release`: the text of a release; `Version.isDigit_or_dot_of_mem`: its
  characters.
* `Version.splitOn_toText_release`: it comes apart into its numerals.
-/

namespace TypeScriptBuild

open Text

namespace Version

/-! ## Numerals -/

/-- The numeral of one of the numbers of a version. -/
def digits (x : UInt64) : List Char := Nat.toDigits 10 x.toNat

theorem isDigit_of_mem_digits {x : UInt64} {c : Char} (h : c ∈ digits x) : c.isDigit = true :=
  Nat.isDigit_of_mem_toDigits (by decide) (by decide) h

theorem not_mem_digits {x : UInt64} {c : Char} (h : c.isDigit = false) : c ∉ digits x :=
  not_mem_of_forall (fun _ => isDigit_of_mem_digits) h

/-- Only the numeral of zero begins with a zero. -/
theorem head?_toDigits_ne_zero : ∀ {n : Nat}, 0 < n → (Nat.toDigits 10 n).head? ≠ some '0' := by
  intro n
  induction n using Nat.strongRecOn with
  | ind n ih =>
    intro hn
    by_cases hlt : n < 10
    · rw [Nat.toDigits_of_lt_base hlt]
      have : n.digitChar ≠ '0' := by rw [ne_eq, Nat.digitChar_eq_zero]; omega
      simpa using this
    · have hhead := ih (n / 10) (by omega) (by omega)
      rw [Nat.toDigits_of_base_le (by decide) (by omega)]
      cases h : Nat.toDigits 10 (n / 10) with
      | nil => exact absurd h Nat.toDigits_ne_nil
      | cons c cs =>
        rw [h] at hhead
        exact hhead

theorem isPlain_digits (x : UInt64) : isPlain (digits x) = true := by
  rcases Nat.eq_zero_or_pos x.toNat with h | h
  · rw [digits, h]
    rfl
  · have := head?_toDigits_ne_zero h
    simp [isPlain, digits, this]

theorem number?_digits (x : UInt64) : number? (digits x) = some x := by
  have hd : decimal? (digits x) = some x.toNat := decimal?_toDigits x.toNat
  rw [number?, if_pos (isPlain_digits x), hd, Option.bind_some, dif_pos x.toNat_lt,
    UInt64.ofNatLT_toNat]

/-! ## Releases -/

theorem toList_toText_release (v : Version) :
    v.release.toText.toList = ['.'].intercalate [digits v.major, digits v.minor, digits v.patch] := by
  simp [toText, release, introduced, digits, Nat.toString_eq_repr]

/-- A release is written with digits and dots. -/
theorem isDigit_or_dot_of_mem {v : Version} {c : Char} (h : c ∈ v.release.toText.toList) :
    c.isDigit = true ∨ c = '.' := by
  rw [toList_toText_release] at h
  simp only [List.intercalate_cons_cons, List.intercalate_singleton, List.mem_append,
    List.mem_singleton, or_assoc] at h
  rcases h with h | h | h | h | h
  · exact Or.inl (isDigit_of_mem_digits h)
  · exact Or.inr h
  · exact Or.inl (isDigit_of_mem_digits h)
  · exact Or.inr h
  · exact Or.inl (isDigit_of_mem_digits h)

theorem not_mem_toText_release (v : Version) {c : Char} (hd : c.isDigit = false) (hc : c ≠ '.') :
    c ∉ v.release.toText.toList := by
  intro h
  rcases isDigit_or_dot_of_mem h with hd' | hc'
  · rw [hd] at hd'
    exact Bool.false_ne_true hd'
  · exact hc hc'

theorem splitOn_toText_release (v : Version) :
    v.release.toText.toList.splitOn '.' = [digits v.major, digits v.minor, digits v.patch] := by
  rw [toList_toText_release]
  refine List.splitOn_intercalate '.' (fun l hl hdot => ?_) (by simp)
  have hdigits : ∃ x, l = digits x := by
    simp only [List.mem_cons, List.not_mem_nil, or_false] at hl
    rcases hl with rfl | rfl | rfl <;> exact ⟨_, rfl⟩
  obtain ⟨x, rfl⟩ := hdigits
  exact not_mem_digits (by decide) hdot

theorem toText_release_ne_empty (v : Version) : v.release.toText ≠ "" := by
  intro h
  have hl := congrArg List.length (congrArg String.toList h)
  rw [toList_toText_release] at hl
  simp at hl

theorem toNat_of_isDigit {c : Char} (h : c.isDigit = true) : 48 ≤ c.toNat ∧ c.toNat ≤ 57 :=
  Char.isDigit_iff_toNat.1 h

theorem isBlank_of_isDigit {c : Char} (h : c.isDigit = true) : isBlank c = false := by
  obtain ⟨h0, h9⟩ := toNat_of_isDigit h
  simp [isBlank]
  omega

theorem isBlank_of_mem_toText_release {v : Version} {c : Char} (h : c ∈ v.release.toText.toList) :
    isBlank c = false := by
  rcases isDigit_or_dot_of_mem h with hd | rfl
  · exact isBlank_of_isDigit hd
  · rfl

end Version

end TypeScriptBuild
