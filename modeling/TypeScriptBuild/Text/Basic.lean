/-!
# Texts

What the readers of conditions, versions, paths and documents need of texts: which characters are
blank, where a marker occurs first, which number a run of digits denotes, and which slashes a path
is written with.

* `isBlank`: the blank characters.
* `dropBlanks`, `trim`: a text without the blanks in front of it, or at both of its ends.
* `allBlank`: a text of blanks alone.
* `cutAt`: the text in front of the first occurrence and the text behind it.
* `occursIn`: whether there is an occurrence at all.
* `cutAt_append`: the two parts of a cut and the marker make up the text.
* `occursIn_iff`: an occurrence is one as an infix of the text.
* `decimal?`: a non-empty run of the digits `0` to `9`, most significant first.
* `hexadecimal?`: the same in base sixteen, with letters in either case.
* `decimal?_toDigits`: a number written in decimal reads back.
* `eq_of_repr_eq`: a whole number is told by its numeral.
* `withSlashes`: every backslash replaced.
-/

namespace TypeScriptBuild.Text

/-!
## Blank characters

A character is *blank* if it has the Unicode property `White_Space`. Conditions, version texts
and the indentation of project files are all read up to blanks in this sense, so the property is
a table of its own and not the smaller class of the standard library.
-/

/-- The characters with the Unicode property `White_Space`. -/
def isBlank (c : Char) : Bool :=
  let n := c.toNat
  (0x09 ≤ n && n ≤ 0x0D) || n == 0x20 || n == 0x85 || n == 0xA0 || n == 0x1680 ||
    (0x2000 ≤ n && n ≤ 0x200A) || n == 0x2028 || n == 0x2029 || n == 0x202F || n == 0x205F ||
    n == 0x3000

/-- The text without the blanks in front of it. -/
def dropBlanks (s : List Char) : List Char :=
  s.dropWhile isBlank

/-- The text without the blanks at both of its ends. -/
def trim (s : List Char) : List Char :=
  (dropBlanks (dropBlanks s).reverse).reverse

/-- A text that holds no character but blanks; the empty text is one. -/
def allBlank (s : String) : Bool :=
  s.toList.all isBlank

/-- What follows the leading blanks does not begin with a blank. -/
theorem dropBlanks_eq_cons {s r : List Char} {c : Char} (h : dropBlanks s = c :: r) :
    isBlank c = false := by
  induction s with
  | nil => cases h
  | cons d s ih =>
    unfold dropBlanks at h ih
    rw [List.dropWhile_cons] at h
    split at h
    · exact ih h
    · injection h with hd _
      subst hd
      simp_all

/-!
## The first occurrence of a marker

Markup ends at the first place where its closing marker stands, and an import is recognised by
a file name somewhere in its path. Both questions are about the first occurrence of one text in
another.
-/

/-- The text in front of the first occurrence of `marker`, and the text behind it. -/
def cutAt (marker : List Char) : List Char → Option (List Char × List Char)
  | [] => if marker.isEmpty then some ([], []) else none
  | c :: cs =>
    if marker.isPrefixOf (c :: cs) then some ([], (c :: cs).drop marker.length)
    else (cutAt marker cs).map fun cut => (c :: cut.1, cut.2)

/-- Whether `marker` stands somewhere in the text. -/
def occursIn (marker text : String) : Bool :=
  (cutAt marker.toList text.toList).isSome

/-- A cut loses nothing: its parts stand around the marker. -/
theorem cutAt_append {marker s before after : List Char}
    (h : cutAt marker s = some (before, after)) : s = before ++ marker ++ after := by
  induction s generalizing before after with
  | nil =>
    unfold cutAt at h
    split at h
    · obtain ⟨rfl, rfl⟩ : [] = before ∧ [] = after := by simpa using h
      simp_all
    · cases h
  | cons c cs ih =>
    unfold cutAt at h
    split at h
    · rename_i hp
      obtain ⟨rfl, rfl⟩ : [] = before ∧ (c :: cs).drop marker.length = after := by simpa using h
      obtain ⟨t, ht⟩ := List.isPrefixOf_iff_prefix.1 hp
      rw [← ht]
      simp
    · obtain ⟨cut, hcut, hc⟩ := Option.map_eq_some_iff.1 h
      obtain ⟨rfl, rfl⟩ : c :: cut.1 = before ∧ cut.2 = after := by simpa using hc
      rw [show cs = cut.1 ++ marker ++ cut.2 from ih hcut]
      rfl

theorem isSome_cutAt_iff {marker s : List Char} :
    (cutAt marker s).isSome = true ↔ marker <:+: s := by
  induction s with
  | nil =>
    rw [cutAt, List.infix_nil, ← List.isEmpty_iff]
    cases marker.isEmpty <;> simp
  | cons c cs ih =>
    rw [cutAt, List.infix_cons_iff, ← List.isPrefixOf_iff_prefix]
    cases hp : marker.isPrefixOf (c :: cs) with
    | true => simp
    | false => simpa using ih

/-- A marker occurs in a text exactly if it is an infix of it. -/
theorem occursIn_iff {marker text : String} :
    occursIn marker text = true ↔ marker.toList <:+: text.toList :=
  isSome_cutAt_iff

/-!
## Numerals

Runs of digits read as numbers. Version numbers and character references are written this way;
which numbers are too large is for the reader of each format to say.
-/

/-- The number that a non-empty run of decimal digits denotes. -/
def decimal? (s : List Char) : Option Nat :=
  if s ≠ [] ∧ s.all Char.isDigit then some (Nat.ofDigitChars 10 s 0) else none

/-- The value of a hexadecimal digit. -/
def hexDigit? (c : Char) : Option Nat :=
  if c.isDigit then some (c.toNat - '0'.toNat)
  else if 'a' ≤ c ∧ c ≤ 'f' then some (c.toNat - 'a'.toNat + 10)
  else if 'A' ≤ c ∧ c ≤ 'F' then some (c.toNat - 'A'.toNat + 10)
  else none

/-- The number that a non-empty run of hexadecimal digits denotes. -/
def hexadecimal? (s : List Char) : Option Nat :=
  if s = [] then none
  else s.foldlM (fun value c => (hexDigit? c).map (16 * value + ·)) 0

/-- A number written in decimal reads back as itself. -/
theorem decimal?_toDigits (n : Nat) : decimal? (Nat.toDigits 10 n) = some n := by
  have hd : (Nat.toDigits 10 n).all Char.isDigit = true := by
    rw [List.all_eq_true]
    exact fun c hc => Nat.isDigit_of_mem_toDigits (by decide) (by decide) hc
  have hne : Nat.toDigits 10 n ≠ [] := by
    intro h
    have := congrArg List.length h
    rw [Nat.toDigits_eq_if (by decide)] at this
    split at this <;> simp at this
  simp [decimal?, hd, hne, Nat.ofDigitChars_toDigits]

theorem eq_of_natRepr_eq {m n : Nat} (h : m.repr = n.repr) : m = n := by
  have hdigits : Nat.toDigits 10 m = Nat.toDigits 10 n := by
    rw [← Nat.toList_repr, ← Nat.toList_repr, h]
  have hread := decimal?_toDigits m
  rw [hdigits, decimal?_toDigits] at hread
  exact (Option.some.inj hread).symm

/-- A numeral has no sign. -/
theorem natRepr_ne_minus (m : Nat) (s : String) : m.repr ≠ "-" ++ s := by
  intro h
  have hminus : '-' ∈ Nat.toDigits 10 m := by
    rw [← Nat.toList_repr, h, String.toList_append]
    exact List.mem_append_left _ (List.mem_singleton_self _)
  exact absurd (Nat.isDigit_of_mem_toDigits (by decide) (by decide) hminus) (by decide)

/-- A whole number is told by its numeral. -/
theorem eq_of_repr_eq {v w : Int} (h : v.repr = w.repr) : v = w := by
  cases v with
  | ofNat m =>
    cases w with
    | ofNat n => exact congrArg Int.ofNat (eq_of_natRepr_eq h)
    | negSucc n => exact absurd h (natRepr_ne_minus m _)
  | negSucc m =>
    cases w with
    | ofNat n => exact absurd h.symm (natRepr_ne_minus n _)
    | negSucc n =>
      have hsucc := eq_of_natRepr_eq ((String.append_right_inj "-").1 h)
      exact congrArg Int.negSucc (Nat.succ.inj hsucc)

/-!
## Slashes

Project files write paths with backslashes; results write them with slashes.
-/

/-- The text with a slash for every backslash. -/
def withSlashes (s : String) : String :=
  s.map fun c => if c = '\\' then '/' else c

/-- No backslash is left, so that replacing them again changes nothing. -/
@[simp] theorem withSlashes_withSlashes (s : String) :
    withSlashes (withSlashes s) = withSlashes s := by
  apply String.ext
  simp only [withSlashes, String.toList_map, List.map_map]
  refine List.map_congr_left fun c _ => ?_
  by_cases h : c = '\\' <;> simp [h]

end TypeScriptBuild.Text
