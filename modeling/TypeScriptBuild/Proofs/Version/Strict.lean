import TypeScriptBuild.Proofs.Text.Cut
import TypeScriptBuild.Proofs.Version.Written

/-!
# What the strict reading accepts

Strictly, a version is written in one way: each number as its plain numeral and each identifier as
it is. So the strict reading accepts the written forms of the versions whose identifiers can be
written, and nothing else.

* `Version.Numeral`: the numerals of a version; `Version.numeral_iff` says that a number has one.
* `Version.WellFormed`: the versions whose identifiers can be written.
* `Version.read?_eq_some_iff`: reading strictly is the inverse of writing them.
-/

namespace TypeScriptBuild

open Text

namespace Version

variable {s t : List Char} {x : UInt64}

/-! ## Numerals -/

/-- A numeral of a number of 64 bits: decimal digits without superfluous zeros. -/
structure Numeral (s : List Char) (x : UInt64) : Prop where
  ne_nil : s ≠ []
  digit : ∀ c ∈ s, c.isDigit = true
  /-- A zero in front is the whole numeral. -/
  plain : s.head? = some '0' → s = ['0']
  value : Nat.ofDigitChars 10 s 0 = x.toNat

theorem digitChar_toNat_sub {c : Char} (h : c.isDigit = true) :
    Nat.digitChar (c.toNat - '0'.toNat) = c := by
  obtain ⟨h0, h9⟩ := toNat_of_isDigit h
  have hzero : '0'.toNat = 48 := rfl
  apply Char.toNat_inj.1
  rw [hzero, Nat.toNat_digitChar_of_lt_ten (by omega)]
  omega

/-- Digits behind the numeral of a positive number are read on from that number. -/
theorem toDigits_append {n : Nat} (hn : 0 < n) (hs : ∀ c ∈ s, c.isDigit = true) :
    Nat.toDigits 10 n ++ s = Nat.toDigits 10 (Nat.ofDigitChars 10 s n) := by
  induction s generalizing n with
  | nil => rw [List.append_nil, Nat.ofDigitChars_nil]
  | cons c s ih =>
    obtain ⟨hc, hs⟩ := List.forall_mem_cons.1 hs
    have hlt : c.toNat - '0'.toNat < 10 := by
      obtain ⟨h0, h9⟩ := toNat_of_isDigit hc
      have hzero : '0'.toNat = 48 := rfl
      omega
    calc Nat.toDigits 10 n ++ c :: s
        = (Nat.toDigits 10 n ++ Nat.toDigits 10 (c.toNat - '0'.toNat)) ++ s := by
          rw [Nat.toDigits_of_lt_base hlt, digitChar_toNat_sub hc, List.append_assoc,
            List.singleton_append]
      _ = Nat.toDigits 10 (10 * n + (c.toNat - '0'.toNat)) ++ s := by
          rw [Nat.toDigits_append_toDigits (by decide) hn hlt]
      _ = Nat.toDigits 10 (Nat.ofDigitChars 10 (c :: s) n) := by
          rw [ih (by omega) hs, Nat.ofDigitChars_cons]

/-- Digits without superfluous zeros are those of the number they denote. -/
theorem toDigits_ofDigitChars (hne : s ≠ []) (hs : ∀ c ∈ s, c.isDigit = true)
    (hplain : s.head? = some '0' → s = ['0']) :
    Nat.toDigits 10 (Nat.ofDigitChars 10 s 0) = s := by
  cases s with
  | nil => exact absurd rfl hne
  | cons c s =>
    by_cases hzero : c = '0'
    · rw [hplain (by rw [hzero, List.head?_cons])]
      decide
    · obtain ⟨hc, hs⟩ := List.forall_mem_cons.1 hs
      obtain ⟨h0, h9⟩ := toNat_of_isDigit hc
      have hz : '0'.toNat = 48 := rfl
      have hpos : 0 < c.toNat - '0'.toNat := by
        have hne : c.toNat ≠ '0'.toNat := fun e => hzero (Char.toNat_inj.1 e)
        omega
      rw [Nat.ofDigitChars_cons, Nat.mul_zero, Nat.zero_add, ← toDigits_append hpos hs,
        Nat.toDigits_of_lt_base (by omega), digitChar_toNat_sub hc, List.singleton_append]

/-- **A number has one numeral**, that of its decimal digits. -/
theorem numeral_iff : Numeral s x ↔ s = digits x := by
  constructor
  · intro h
    rw [digits, ← h.value, toDigits_ofDigitChars h.ne_nil h.digit h.plain]
  · rintro rfl
    refine ⟨Nat.toDigits_ne_nil, fun c hc => isDigit_of_mem_digits hc, fun hz => ?_, ?_⟩
    · rcases Nat.eq_zero_or_pos x.toNat with h0 | hpos
      · rw [digits, h0]
        rfl
      · exact absurd hz (head?_toDigits_ne_zero hpos)
    · exact Nat.ofDigitChars_toDigits (by decide) (by decide)

theorem number?_eq_some_iff : number? s = some x ↔ s = digits x := by
  constructor
  · intro h
    rw [number?] at h
    split at h
    · rename_i hplain
      obtain ⟨n, hn, h⟩ := Option.bind_eq_some_iff.1 h
      rw [decimal?] at hn
      split at hn
      · rename_i hs
        cases hn
        split at h
        · cases h
          refine numeral_iff.1 ⟨hs.1, List.all_eq_true.1 hs.2, fun hz => ?_, ?_⟩
          · have hlen : s.length = 1 := by simpa [isPlain, hz] using hplain
            obtain ⟨c, rfl⟩ := List.length_eq_one_iff.1 hlen
            cases hz
            rfl
          · exact UInt64.toNat_ofNatLT.symm
        · cases h
      · cases hn
    · cases h
  · rintro rfl
    exact number?_digits x

/-! ## Identifiers -/

/-- What can stand between the dots of a pre-release or a build. -/
structure Identifier (fits : List Char → Bool) (i : String) : Prop where
  ne_empty : i ≠ ""
  char : ∀ c ∈ i.toList, isIdentifierChar c = true
  fits : fits i.toList = true

theorem Identifier.not_mem {fits : List Char → Bool} {i : String} (h : Identifier fits i) {c : Char}
    (hc : isIdentifierChar c = false) : c ∉ i.toList :=
  not_mem_of_forall h.char hc

variable {fits : List Char → Bool} {ids : List String}

theorem identifiers?_eq_some_iff :
    identifiers? fits s = some ids ↔
      ids ≠ [] ∧ (∀ i ∈ ids, Identifier fits i) ∧ s = (".".intercalate ids).toList := by
  have hdot : ".".toList = ['.'] := rfl
  rw [String.toList_intercalate, hdot, identifiers?]
  constructor
  · intro h
    split at h
    · rename_i hall
      cases h
      refine ⟨by simp, fun i hi => ?_, ?_⟩
      · obtain ⟨l, hl, rfl⟩ := List.mem_map.1 hi
        obtain ⟨hne, hchar, hfits⟩ := of_decide_eq_true (List.all_eq_true.1 hall l hl)
        refine ⟨by simpa using hne, ?_, ?_⟩
        · simpa using hchar
        · simpa using hfits
      · rw [List.map_map,
          show String.toList ∘ String.ofList = id from funext fun _ => String.toList_ofList,
          List.map_id, List.intercalate_splitOn]
    · cases h
  · rintro ⟨hne, hids, rfl⟩
    have hsplit : (['.'].intercalate (ids.map String.toList)).splitOn '.' =
        ids.map String.toList := by
      refine List.splitOn_intercalate '.' (fun l hl => ?_) (by simpa using hne)
      obtain ⟨i, hi, rfl⟩ := List.mem_map.1 hl
      exact (hids i hi).not_mem (by decide)
    have hall : (ids.map String.toList).all
        (fun i => i ≠ [] ∧ i.all isIdentifierChar ∧ fits i) = true := by
      refine List.all_eq_true.2 fun l hl => decide_eq_true ?_
      obtain ⟨i, hi, rfl⟩ := List.mem_map.1 hl
      have h := hids i hi
      exact ⟨by simpa using h.ne_empty, List.all_eq_true.2 h.char, h.fits⟩
    rw [hsplit, if_pos hall, List.map_map,
      show String.ofList ∘ String.toList = id from funext fun _ => String.ofList_toList,
      List.map_id]

/-! ## Cuts -/

/-- What stands from a mark on, if the mark is there. -/
def behind (mark : Char) (rest : Option (List Char)) : List Char :=
  rest.elim [] (mark :: ·)

theorem cutAt_singleton_of_not_mem {mark : Char} (h : mark ∉ s) : cutAt [mark] s = none := by
  induction s with
  | nil => rfl
  | cons c s ih =>
    have hc : ¬ [mark].isPrefixOf (c :: s) = true := by
      simpa using fun e : mark = c => h (e ▸ List.mem_cons_self)
    rw [cutAt, if_neg hc, ih fun hm => h (List.mem_cons_of_mem c hm)]
    rfl

theorem cutOptional_of_not_mem {mark : Char} (h : mark ∉ s) : cutOptional mark s = (s, none) := by
  rw [cutOptional, cutAt_singleton_of_not_mem h]

theorem cutAt_singleton_append {mark : Char} (h : mark ∉ s) :
    cutAt [mark] (s ++ mark :: t) = some (s, t) := by
  induction s with
  | nil => simp [cutAt]
  | cons c s ih =>
    have hc : ¬ [mark].isPrefixOf (c :: (s ++ mark :: t)) = true := by
      simpa using fun e : mark = c => h (e ▸ List.mem_cons_self)
    rw [List.cons_append, cutAt, if_neg hc, ih fun hm => h (List.mem_cons_of_mem c hm)]
    rfl

theorem cutOptional_append_behind {mark : Char} (h : mark ∉ s) (rest : Option (List Char)) :
    cutOptional mark (s ++ behind mark rest) = (s, rest) := by
  cases rest with
  | none => rw [behind, Option.elim_none, List.append_nil, cutOptional_of_not_mem h]
  | some r => rw [behind, Option.elim_some, cutOptional, cutAt_singleton_append h]

/-- **A text is cut at the first mark**, if there is one. -/
theorem cutOptional_eq_iff {mark : Char} {rest : Option (List Char)} :
    cutOptional mark s = (t, rest) ↔ mark ∉ t ∧ s = t ++ behind mark rest := by
  constructor
  · intro h
    by_cases hm : mark ∈ s
    · obtain ⟨a, b, rfl, ha⟩ := List.eq_append_cons_of_mem hm
      have hcut := cutOptional_append_behind ha (some b)
      rw [behind, Option.elim_some, h] at hcut
      cases hcut
      exact ⟨ha, rfl⟩
    · rw [cutOptional_of_not_mem hm] at h
      cases h
      exact ⟨hm, (List.append_nil s).symm⟩
  · rintro ⟨ht, rfl⟩
    exact cutOptional_append_behind ht rest

theorem toList_introduced_nil (mark : String) : (introduced mark []).toList = [] :=
  String.toList_empty

theorem toList_introduced {mark : Char} (h : ids ≠ []) :
    (introduced (String.singleton mark) ids).toList = mark :: (".".intercalate ids).toList := by
  have hids : introduced (String.singleton mark) ids =
      String.singleton mark ++ ".".intercalate ids := by
    cases ids with
    | nil => exact absurd rfl h
    | cons i ids => rfl
  rw [hids, String.toList_append, String.toList_singleton, List.singleton_append]

/-- Identifiers are read as they stand behind their mark. -/
theorem optionalIdentifiers?_eq_some_iff (mark : Char) {rest : Option (List Char)} :
    optionalIdentifiers? fits rest = some ids ↔
      (∀ i ∈ ids, Identifier fits i) ∧
        behind mark rest = (introduced (String.singleton mark) ids).toList := by
  cases rest with
  | none =>
    constructor
    · intro h
      cases h
      exact ⟨fun i hi => absurd hi List.not_mem_nil, rfl⟩
    · rintro ⟨-, h⟩
      by_cases hne : ids = []
      · rw [hne]
        rfl
      · rw [toList_introduced hne] at h
        cases h
  | some r =>
    rw [optionalIdentifiers?, identifiers?_eq_some_iff]
    constructor
    · rintro ⟨hne, hids, rfl⟩
      exact ⟨hids, (toList_introduced hne).symm⟩
    · rintro ⟨hids, h⟩
      by_cases hne : ids = []
      · rw [hne] at h
        cases h
      · rw [toList_introduced hne] at h
        exact ⟨hne, hids, (List.cons.inj h).2⟩

theorem exists_behind_eq (mark : Char) (ids : List String) :
    ∃ rest, behind mark rest = (introduced (String.singleton mark) ids).toList := by
  by_cases hne : ids = []
  · rw [hne]
    exact ⟨none, (toList_introduced_nil _).symm⟩
  · exact ⟨some (".".intercalate ids).toList, (toList_introduced hne).symm⟩

theorem not_mem_introduced {mark c : Char} (hmark : c ≠ mark) (hdot : c ≠ '.')
    (hids : ∀ i ∈ ids, c ∉ i.toList) : c ∉ (introduced (String.singleton mark) ids).toList := by
  by_cases hne : ids = []
  · rw [hne, toList_introduced_nil]
    exact List.not_mem_nil
  · rw [toList_introduced hne, String.toList_intercalate]
    intro h
    rcases List.mem_cons.1 h with h | h
    · exact hmark h
    · rcases mem_of_mem_intercalate h with h | ⟨l, hl, h⟩
      · exact hdot (List.mem_singleton.1 h)
      · obtain ⟨i, hi, rfl⟩ := List.mem_map.1 hl
        exact hids i hi h

/-! ## Versions -/

/-- The identifiers of a version can be written; those of the pre-release hold no numeral with
superfluous zeros. -/
structure WellFormed (v : Version) : Prop where
  pre : ∀ i ∈ v.pre, Identifier isPlainPre i
  build : ∀ i ∈ v.build, Identifier (fun _ => true) i

theorem toList_toText (v : Version) :
    v.toText.toList = v.release.toText.toList ++ (introduced (String.singleton '-') v.pre).toList ++
      (introduced (String.singleton '+') v.build).toList := by
  have hminus : String.singleton '-' = "-" := rfl
  have hplus : String.singleton '+' = "+" := rfl
  rw [hminus, hplus, toList_toText_release]
  simp [toText, digits, Nat.toString_eq_repr]

/-- **Reading strictly is the inverse of writing** a version whose identifiers can be written. -/
theorem read?_eq_some_iff {v : Version} :
    read? s = some v ↔ v.WellFormed ∧ s = v.toText.toList := by
  rw [toList_toText]
  constructor
  · intro h
    rw [read?] at h
    rcases hbuild : cutOptional '+' s with ⟨front, build⟩
    rcases hpre : cutOptional '-' front with ⟨numbers, pre⟩
    rw [hbuild] at h
    dsimp only at h
    rw [hpre] at h
    dsimp only at h
    split at h
    · rename_i major minor patch hsplit
      simp only [Option.bind_eq_bind, Option.bind_eq_some_iff] at h
      obtain ⟨x, hx, y, hy, z, hz, ps, hps, bs, hbs, h⟩ := h
      cases h
      obtain ⟨hps, hps'⟩ := (optionalIdentifiers?_eq_some_iff '-').1 hps
      obtain ⟨hbs, hbs'⟩ := (optionalIdentifiers?_eq_some_iff '+').1 hbs
      obtain ⟨-, rfl⟩ := cutOptional_eq_iff.1 hbuild
      obtain ⟨-, rfl⟩ := cutOptional_eq_iff.1 hpre
      refine ⟨⟨hps, hbs⟩, ?_⟩
      rw [hps', hbs', toList_toText_release, ← number?_eq_some_iff.1 hx,
        ← number?_eq_some_iff.1 hy, ← number?_eq_some_iff.1 hz, ← hsplit, List.intercalate_splitOn]
    · cases h
  · rintro ⟨hv, hs⟩
    obtain ⟨pre, hpre⟩ := exists_behind_eq '-' v.pre
    obtain ⟨build, hbuild⟩ := exists_behind_eq '+' v.build
    have hps := (optionalIdentifiers?_eq_some_iff '-').2 ⟨hv.pre, hpre⟩
    have hbs := (optionalIdentifiers?_eq_some_iff '+').2 ⟨hv.build, hbuild⟩
    have hnumbers : ∀ c, c.isDigit = false → c ≠ '.' → c ∉ v.release.toText.toList :=
      fun c => not_mem_toText_release v
    have hfront : '+' ∉ v.release.toText.toList ++ behind '-' pre := by
      rw [hpre, List.mem_append, not_or]
      refine ⟨hnumbers '+' (by decide) (by decide), not_mem_introduced (by decide) (by decide) ?_⟩
      exact fun i hi => (hv.pre i hi).not_mem (by decide)
    rw [hs, ← hpre, ← hbuild, read?, cutOptional_append_behind hfront]
    dsimp only
    rw [cutOptional_append_behind (hnumbers '-' (by decide) (by decide))]
    dsimp only
    rw [splitOn_toText_release]
    simp only [number?_digits, hps, hbs]
    rfl

/-- A release is written without identifiers. -/
theorem read?_toText_release (v : Version) : read? v.release.toText.toList = some v.release := by
  have hnone : ∀ {fits : List Char → Bool}, ∀ i ∈ ([] : List String), Identifier fits i :=
    fun i hi => absurd hi List.not_mem_nil
  exact read?_eq_some_iff.2 ⟨⟨hnone, hnone⟩, rfl⟩

end Version
end TypeScriptBuild
