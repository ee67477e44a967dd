import TypeScriptBuild.Proofs.Version.Strict

/-!
# What the texts of versions stand for

A text stands for a version if the core that is left of it, without the blanks around it, its marks
and all from the first hyphen on, is one to three plain numerals between dots, of which only three
may have a build behind them. Every other text stands for 1.6.2. The reading
comes to this by another way: it tries the core as a strict version, and again with one and with
two zeros behind it, whatever the reason for the failure.

* `Version.Denotes`: the cores that denote a release; `Version.padded?_eq_some_iff`: the trials with
  zeros behind a core accept these and no other.
* `Version.Core`: the core of a text; `Version.core_eq_iff`: it is what is read.
* `Version.StandsFor`: the version that a text stands for.
* `Version.normalize_toText_release`: a written release stands for itself.
* `Version.normalize_eq_iff_standsFor`: reading gives the version that a text stands for.
-/

namespace TypeScriptBuild

open Text

namespace Version

variable {b d s t : List Char} {v : Version} {x : UInt64}

/-! ## Numerals between dots -/

/-- A run of letters and digits. -/
structure Run (run : String) : Prop where
  ne_empty : run ≠ ""
  char : ∀ c ∈ run.toList, c.isAlphanum = true

theorem Run.not_mem {run : String} (h : Run run) {c : Char} (hc : c.isAlphanum = false) :
    c ∉ run.toList :=
  not_mem_of_forall h.char hc

theorem Run.of_not_hyphen {run : String} (hne : run ≠ "")
    (hchar : ∀ c ∈ run.toList, isIdentifierChar c = true) (h : '-' ∉ run.toList) : Run run := by
  refine ⟨hne, fun c hc => ?_⟩
  have hor := hchar c hc
  rw [isIdentifierChar, Bool.or_eq_true, beq_iff_eq] at hor
  exact hor.resolve_right fun e => h (e ▸ hc)

/-- A release that is written with one to three numerals, or with three and a build. -/
inductive Denotes : List Char → Version → Prop
  | one {d₁ : List Char} {x : UInt64} (h₁ : Numeral d₁ x) : Denotes d₁ ⟨x, 0, 0, [], []⟩
  | two {d₁ d₂ : List Char} {x y : UInt64} (h₁ : Numeral d₁ x) (h₂ : Numeral d₂ y) :
    Denotes (d₁ ++ '.' :: d₂) ⟨x, y, 0, [], []⟩
  | three {d₁ d₂ d₃ : List Char} {x y z : UInt64} (h₁ : Numeral d₁ x) (h₂ : Numeral d₂ y)
    (h₃ : Numeral d₃ z) : Denotes (d₁ ++ '.' :: (d₂ ++ '.' :: d₃)) ⟨x, y, z, [], []⟩
  /-- The build is made of runs of letters and digits between dots. -/
  | built {d₁ d₂ d₃ : List Char} {x y z : UInt64} {runs : List String} (h₁ : Numeral d₁ x)
    (h₂ : Numeral d₂ y) (h₃ : Numeral d₃ z) (hruns : runs ≠ [])
    (hrun : ∀ run ∈ runs, Run run) :
    Denotes (d₁ ++ '.' :: (d₂ ++ '.' :: (d₃ ++ '+' :: (".".intercalate runs).toList)))
      ⟨x, y, z, [], []⟩

theorem numeral_digits (x : UInt64) : Numeral (digits x) x :=
  numeral_iff.2 rfl

theorem Numeral.not_mem (h : Numeral d x) {c : Char} (hc : c.isDigit = false) : c ∉ d :=
  not_mem_of_forall h.digit hc

theorem eq_zero_of_numeral (h : Numeral ['0'] x) : x = 0 := by
  have hvalue : 0 = x.toNat := h.value
  exact UInt64.toNat_inj.1 hvalue.symm

/-- Three numerals and what stands behind them. -/
theorem toText_release_append (v : Version) (s : List Char) :
    v.release.toText.toList ++ s =
      digits v.major ++ '.' :: (digits v.minor ++ '.' :: (digits v.patch ++ s)) := by
  rw [toList_toText_release]
  simp

theorem denotes_release (v : Version) : Denotes v.release.toText.toList v.release := by
  have h := toText_release_append v []
  rw [List.append_nil, List.append_nil] at h
  rw [h]
  exact .three (numeral_digits v.major) (numeral_digits v.minor) (numeral_digits v.patch)

theorem denotes_built (v : Version) {runs : List String} (hruns : runs ≠ [])
    (hrun : ∀ run ∈ runs, Run run) :
    Denotes (v.release.toText.toList ++ '+' :: (".".intercalate runs).toList) v.release := by
  rw [toText_release_append]
  exact .built (numeral_digits v.major) (numeral_digits v.minor) (numeral_digits v.patch) hruns hrun

/-- What stands between dots is determined by the whole. -/
theorem intercalate_dot_inj {is js : List String} (hi : ∀ i ∈ is, '.' ∉ i.toList)
    (hj : ∀ j ∈ js, '.' ∉ j.toList) (hi' : is ≠ []) (hj' : js ≠ [])
    (h : (".".intercalate is).toList = (".".intercalate js).toList) : is = js := by
  have hsplit : ∀ ks : List String, (∀ k ∈ ks, '.' ∉ k.toList) → ks ≠ [] →
      (".".intercalate ks).toList.splitOn '.' = ks.map String.toList := by
    intro ks hk hk'
    rw [String.toList_intercalate]
    refine List.splitOn_intercalate '.' (fun l hl => ?_) (by simpa using hk')
    obtain ⟨k, hk'', rfl⟩ := List.mem_map.1 hl
    exact hk k hk''
  have hmap : is.map String.toList = js.map String.toList := by
    rw [← hsplit is hi hi', h, hsplit js hj hj']
  exact List.map_injective_iff.2 (fun _ _ e => String.toList_inj.1 e) hmap

/-- A build in a core that denotes a release is made of runs. -/
theorem run_of_denotes {is : List String} {w : Version} (hne : is ≠ [])
    (hdot : ∀ i ∈ is, '.' ∉ i.toList)
    (h : Denotes (v.release.toText.toList ++ '+' :: (".".intercalate is).toList) w) :
    ∀ i ∈ is, Run i := by
  have hplus : '+' ∈ v.release.toText.toList ++ '+' :: (".".intercalate is).toList := by simp
  generalize hs : v.release.toText.toList ++ '+' :: (".".intercalate is).toList = s at h hplus
  have hdigit : '+'.isDigit = false := by decide
  cases h with
  | one h₁ => exact absurd hplus (h₁.not_mem hdigit)
  | two h₁ h₂ => simp [h₁.not_mem hdigit, h₂.not_mem hdigit] at hplus
  | three h₁ h₂ h₃ => simp [h₁.not_mem hdigit, h₂.not_mem hdigit, h₃.not_mem hdigit] at hplus
  | built h₁ h₂ h₃ hruns hrun =>
    rename_i d₁ d₂ d₃ x y z runs
    have hfront : '+' ∉ d₁ ++ '.' :: (d₂ ++ '.' :: d₃) := by
      simp [h₁.not_mem hdigit, h₂.not_mem hdigit, h₃.not_mem hdigit]
    obtain ⟨-, htext⟩ := append_cons_inj_of_not_mem
      (not_mem_toText_release v hdigit (by decide)) hfront (s := (".".intercalate is).toList)
      (t := (".".intercalate runs).toList) (by simpa using hs)
    rw [intercalate_dot_inj hdot (fun run hmem => (hrun run hmem).not_mem (by decide)) hne hruns
      htext]
    exact hrun

/-! ## Trials with zeros behind -/

/-- What is read strictly denotes its release, if no hyphen stands in it. -/
theorem denotes_of_read? (hb : '-' ∉ b) (h : read? b = some v) : Denotes b v.release := by
  obtain ⟨hv, hs⟩ := read?_eq_some_iff.1 h
  rw [hs, toList_toText] at hb ⊢
  have hpre : v.pre = [] := by
    by_contra hne
    rw [toList_introduced hne] at hb
    exact hb (by simp)
  rw [hpre, toList_introduced_nil, List.append_nil] at hb ⊢
  by_cases hbuild : v.build = []
  · rw [hbuild, toList_introduced_nil, List.append_nil]
    exact denotes_release v
  · rw [toList_introduced hbuild] at hb ⊢
    refine denotes_built v hbuild fun run hrun => ?_
    have hid := hv.build run hrun
    refine .of_not_hyphen hid.ne_empty hid.char fun hhyphen => hb ?_
    rw [String.toList_intercalate]
    refine List.mem_append_right _ (List.mem_cons_of_mem _ ?_)
    exact mem_intercalate_of_mem (List.mem_map_of_mem hrun) hhyphen

theorem toList_intercalate_concat {front : List String} (h : front ≠ []) (last : String) :
    (".".intercalate (front ++ [last])).toList =
      (".".intercalate front).toList ++ '.' :: last.toList := by
  rw [String.toList_intercalate, String.toList_intercalate, List.map_append,
    intercalate_append (by simpa using h) (by simp)]
  simp

/-- **A zero behind a core adds nothing**: a core denotes what it does with a zero behind it. -/
theorem denotes_of_append_zero (h : Denotes (b ++ ['.', '0']) v) : Denotes b v := by
  generalize hs : b ++ ['.', '0'] = s at h
  have hzero : '.' ∉ ['0'] := by decide
  cases h with
  | one h₁ =>
    refine absurd ?_ (h₁.not_mem (show '.'.isDigit = false by decide))
    rw [← hs]
    simp
  | two h₁ h₂ =>
    obtain ⟨rfl, h⟩ := append_cons_inj_of_not_mem_behind hzero (h₂.not_mem (by decide)) hs
    rw [← h] at h₂
    rw [eq_zero_of_numeral h₂]
    exact .one h₁
  | three h₁ h₂ h₃ =>
    rw [← List.cons_append, ← List.append_assoc] at hs
    obtain ⟨rfl, h⟩ := append_cons_inj_of_not_mem_behind hzero (h₃.not_mem (by decide)) hs
    rw [← h] at h₃
    rw [eq_zero_of_numeral h₃]
    exact .two h₁ h₂
  | built h₁ h₂ h₃ hruns hrun =>
    rename_i d₁ d₂ d₃ x y z runs
    obtain ⟨front, last, rfl⟩ := (List.eq_nil_or_concat' runs).resolve_left hruns
    have hlast : '.' ∉ last.toList := (hrun last (by simp)).not_mem (by decide)
    by_cases hfront : front = []
    · -- the one run of the build would be cut in two
      subst hfront
      have hbehind : '.' ∉ d₃ ++ '+' :: last.toList := by
        simp [h₃.not_mem (show '.'.isDigit = false by decide), hlast]
      obtain ⟨-, h⟩ := append_cons_inj_of_not_mem_behind hzero hbehind
        (y := d₁ ++ '.' :: d₂) (by simpa using hs)
      have hplus : '+' ∈ ['0'] := by
        rw [h]
        simp
      exact absurd hplus (by decide)
    · rw [toList_intercalate_concat hfront] at hs
      obtain ⟨rfl, -⟩ := append_cons_inj_of_not_mem_behind hzero hlast
        (y := d₁ ++ '.' :: (d₂ ++ '.' :: (d₃ ++ '+' :: (".".intercalate front).toList)))
        (by simpa using hs)
      exact .built h₁ h₂ h₃ hfront fun run hmem => hrun run (List.mem_append_left _ hmem)

theorem read?_of_numerals {d₁ d₂ d₃ : List Char} {x y z : UInt64} (h₁ : Numeral d₁ x)
    (h₂ : Numeral d₂ y) (h₃ : Numeral d₃ z) :
    read? (d₁ ++ '.' :: (d₂ ++ '.' :: d₃)) = some ⟨x, y, z, [], []⟩ := by
  have h := toText_release_append ⟨x, y, z, [], []⟩ []
  rw [List.append_nil, List.append_nil] at h
  rw [numeral_iff.1 h₁, numeral_iff.1 h₂, numeral_iff.1 h₃, ← h]
  exact read?_toText_release ⟨x, y, z, [], []⟩

theorem read?_of_built {d₁ d₂ d₃ : List Char} {x y z : UInt64} {runs : List String}
    (h₁ : Numeral d₁ x) (h₂ : Numeral d₂ y) (h₃ : Numeral d₃ z) (hruns : runs ≠ [])
    (hrun : ∀ run ∈ runs, Run run) :
    read? (d₁ ++ '.' :: (d₂ ++ '.' :: (d₃ ++ '+' :: (".".intercalate runs).toList))) =
      some ⟨x, y, z, [], runs⟩ := by
  refine read?_eq_some_iff.2 ⟨⟨fun i hi => absurd hi List.not_mem_nil, fun i hi => ?_⟩, ?_⟩
  · refine ⟨(hrun i hi).ne_empty, fun c hc => ?_, rfl⟩
    rw [isIdentifierChar, (hrun i hi).char c hc, Bool.true_or]
  · have htext := toList_toText ⟨x, y, z, [], runs⟩
    rw [toList_introduced_nil, List.append_nil, toList_introduced hruns,
      toText_release_append] at htext
    rw [numeral_iff.1 h₁, numeral_iff.1 h₂, numeral_iff.1 h₃]
    exact htext.symm

/-- Two dots at least stand in what is read strictly. -/
theorem two_le_count_of_read? (h : read? s = some v) : 2 ≤ s.count '.' := by
  obtain ⟨-, hs⟩ := read?_eq_some_iff.1 h
  rw [hs, toList_toText, List.append_assoc, toText_release_append]
  simp only [List.count_append, List.count_cons_self]
  omega

theorem read?_eq_none_of_count (h : s.count '.' < 2) : read? s = none := by
  cases hr : read? s with
  | none => rfl
  | some v =>
    have := two_le_count_of_read? hr
    omega

/-- The release that is read strictly from a core, or else from the core with a zero behind it, or
else with two. -/
def padded? (b : List Char) : Option Version :=
  ([b, b ++ ['.', '0'], b ++ ['.', '0', '.', '0']].findSome? read?).map release

theorem padded?_of_read? (h : read? b = some v) : padded? b = some v.release := by
  rw [padded?, List.findSome?_cons, h]
  rfl

/-- A core that denotes a release is read in one of the trials: the ones before it fail for want of
a dot. -/
theorem padded?_of_denotes (h : Denotes b v) : padded? b = some v := by
  have hzero : Numeral ['0'] 0 := numeral_iff.2 (by decide)
  have hcount : ∀ {d : List Char} {x : UInt64}, Numeral d x → d.count '.' = 0 :=
    fun h => List.count_eq_zero.2 (h.not_mem (by decide))
  cases h with
  | one h₁ =>
    rename_i x
    have hnone : read? b = none := read?_eq_none_of_count (by rw [hcount h₁]; decide)
    have hnone' : read? (b ++ ['.', '0']) = none := by
      refine read?_eq_none_of_count ?_
      rw [List.count_append, hcount h₁]
      decide
    have hread : read? (b ++ ['.', '0', '.', '0']) = some ⟨x, 0, 0, [], []⟩ := by
      have hzeros : ['.', '0', '.', '0'] = '.' :: (['0'] ++ '.' :: ['0']) := rfl
      rw [hzeros]
      exact read?_of_numerals h₁ hzero hzero
    rw [padded?, List.findSome?_cons, hnone]
    dsimp only
    rw [List.findSome?_cons, hnone']
    dsimp only
    rw [List.findSome?_cons, hread]
    rfl
  | two h₁ h₂ =>
    rename_i d₁ d₂ x y
    have hnone : read? (d₁ ++ '.' :: d₂) = none := by
      refine read?_eq_none_of_count ?_
      rw [List.count_append, List.count_cons_self, hcount h₁, hcount h₂]
      decide
    have hread : read? (d₁ ++ '.' :: d₂ ++ ['.', '0']) = some ⟨x, y, 0, [], []⟩ := by
      rw [List.append_assoc]
      exact read?_of_numerals h₁ h₂ hzero
    rw [padded?, List.findSome?_cons, hnone]
    dsimp only
    rw [List.findSome?_cons, hread]
    rfl
  | three h₁ h₂ h₃ => exact padded?_of_read? (read?_of_numerals h₁ h₂ h₃)
  | built h₁ h₂ h₃ hruns hrun => exact padded?_of_read? (read?_of_built h₁ h₂ h₃ hruns hrun)

/-- **The trials accept the cores that denote a release**, and no other. -/
theorem padded?_eq_some_iff (hb : '-' ∉ b) : padded? b = some v ↔ Denotes b v := by
  constructor
  · intro h
    obtain ⟨w, hw, rfl⟩ := Option.map_eq_some_iff.1 h
    obtain ⟨t, ht, hread⟩ := List.exists_of_findSome?_eq_some hw
    have hhyphen : ∀ r : List Char, '-' ∉ r → '-' ∉ b ++ r := by
      intro r hr
      simp [hb, hr]
    simp only [List.mem_cons, List.not_mem_nil, or_false] at ht
    rcases ht with rfl | rfl | rfl
    · exact denotes_of_read? hb hread
    · exact denotes_of_append_zero (denotes_of_read? (hhyphen _ (by decide)) hread)
    · refine denotes_of_append_zero (denotes_of_append_zero ?_)
      rw [List.append_assoc]
      exact denotes_of_read? (hhyphen _ (by decide)) hread
  · exact padded?_of_denotes

/-! ## Cores -/

/-- The marks in front of a text: an equals sign, then a `v`, each of them at most once and wherever
it can stand. -/
inductive Marks : List Char → List Char → Prop
  | none {s : List Char} (he : s.head? ≠ some '=') (hv : s.head? ≠ some 'v') : Marks [] s
  | equals {s : List Char} (hv : s.head? ≠ some 'v') : Marks ['='] s
  | vee (s : List Char) : Marks ['v'] s
  | both (s : List Char) : Marks ['=', 'v'] s

/-- `b` stands in `t` behind the marks, up to the first hyphen. -/
structure Core (t b : List Char) : Prop where
  hyphen : '-' ∉ b
  parts : ∃ marks rest, t = marks ++ (b ++ rest) ∧ Marks marks (b ++ rest) ∧
    ∀ c ∈ rest.head?, c = '-'

theorem dropMark_cons_self (mark : Char) (s : List Char) : dropMark mark (mark :: s) = s :=
  if_pos rfl

theorem dropMark_of_head?_ne {mark : Char} (h : s.head? ≠ some mark) : dropMark mark s = s := by
  cases s with
  | nil => rfl
  | cons c s => exact if_neg fun e : c = mark => h (congrArg some e)

theorem dropMark_of_marks {m : List Char} (h : Marks m s) :
    dropMark 'v' (dropMark '=' (m ++ s)) = s := by
  cases h with
  | none he hv => rw [List.nil_append, dropMark_of_head?_ne he, dropMark_of_head?_ne hv]
  | equals hv => rw [List.singleton_append, dropMark_cons_self, dropMark_of_head?_ne hv]
  | vee s => rfl
  | both s => rfl

theorem exists_marks (t : List Char) : ∃ m, t = m ++ dropMark 'v' (dropMark '=' t) ∧
    Marks m (dropMark 'v' (dropMark '=' t)) := by
  have key : ∃ m s, t = m ++ s ∧ Marks m s := by
    by_cases he : t.head? = some '='
    · obtain ⟨r, rfl⟩ := List.head?_eq_some_iff.1 he
      by_cases hv : r.head? = some 'v'
      · obtain ⟨s, rfl⟩ := List.head?_eq_some_iff.1 hv
        exact ⟨['=', 'v'], s, rfl, .both s⟩
      · exact ⟨['='], r, rfl, .equals hv⟩
    · by_cases hv : t.head? = some 'v'
      · obtain ⟨s, rfl⟩ := List.head?_eq_some_iff.1 hv
        exact ⟨['v'], s, rfl, .vee s⟩
      · exact ⟨[], t, rfl, .none he hv⟩
  obtain ⟨m, s, rfl, h⟩ := key
  rw [dropMark_of_marks h]
  exact ⟨m, rfl, h⟩

/-- A release begins with a digit, so that it has no marks in front. -/
theorem marks_release_append (v : Version) (s : List Char) :
    Marks [] (v.release.toText.toList ++ s) := by
  rw [toText_release_append]
  cases hd : digits v.major with
  | nil => exact absurd hd Nat.toDigits_ne_nil
  | cons c cs =>
    have hc : c.isDigit = true := isDigit_of_mem_digits (hd ▸ List.mem_cons_self)
    refine .none ?_ ?_ <;>
    · rw [List.cons_append, List.head?_cons, ne_eq, Option.some.injEq]
      rintro rfl
      exact absurd hc (by decide)

/-- **The core of a text** is what is read of it. -/
theorem core_eq_iff : core t = b ↔ Core t b := by
  constructor
  · rintro rfl
    obtain ⟨m, hm, hmarks⟩ := exists_marks t
    set r := dropMark 'v' (dropMark '=' t) with hr
    have hcut : core t ++ r.dropWhile (· != '-') = r := List.takeWhile_append_dropWhile
    refine ⟨fun h => ?_, m, r.dropWhile (· != '-'), ?_, ?_, fun c hc => ?_⟩
    · simpa using List.mem_takeWhile_imp h
    · rw [hcut]
      exact hm
    · rw [hcut]
      exact hmarks
    · have hne := List.head?_dropWhile_not (· != '-') r
      rw [Option.mem_def.1 hc] at hne
      simpa using hne
  · rintro ⟨hb, m, rest, rfl, hmarks, hrest⟩
    have hne : ∀ c ∈ b, (c != '-') = true := fun c hc => bne_iff_ne.2 fun e => hb (e ▸ hc)
    rw [core, dropMark_of_marks hmarks, List.takeWhile_append_of_pos hne]
    cases rest with
    | nil => exact List.append_nil b
    | cons c rest =>
      rw [hrest c rfl]
      exact List.append_nil b

/-! ## Texts -/

/-- The version that a text stands for: the release that it denotes, or else 1.6.2. -/
inductive StandsFor : Option String → Version → Prop
  | missing : StandsFor none ⟨1, 6, 2, [], []⟩
  /-- The text is all blanks. -/
  | blank {s : String} (hs : Trimmed s.toList []) : StandsFor (some s) ⟨1, 6, 2, [], []⟩
  | release {s : String} {t b : List Char} {v : Version} (hs : Trimmed s.toList t) (ht : t ≠ [])
    (hb : Core t b) (hv : Denotes b v) : StandsFor (some s) v
  /-- No release is denoted. -/
  | other {s : String} {t b : List Char} (hs : Trimmed s.toList t) (ht : t ≠ []) (hb : Core t b)
    (hv : ∀ v, ¬ Denotes b v) : StandsFor (some s) ⟨1, 6, 2, [], []⟩

theorem normalize_of_trim_ne_nil {s : String} (h : trim s.toList ≠ []) :
    normalize (some s) = (padded? (core (trim s.toList))).getD assumed := by
  rw [normalize, Option.getD_some]
  split
  · exact absurd ‹_› h
  · rw [padded?]
    dsimp only
    split
    · rename_i hread
      rw [hread]
      rfl
    · rename_i hread
      rw [hread]
      rfl

theorem standsFor_normalize (raw : Option String) : StandsFor raw (normalize raw) := by
  cases raw with
  | none => exact .missing
  | some s =>
    have hs := trim_eq_iff.1 (Eq.refl (trim s.toList))
    by_cases ht : trim s.toList = []
    · rw [normalize, Option.getD_some, ht]
      rw [ht] at hs
      exact .blank hs
    · have hb := core_eq_iff.1 (Eq.refl (core (trim s.toList)))
      rw [normalize_of_trim_ne_nil ht]
      cases hv : padded? (core (trim s.toList)) with
      | some v => exact .release hs ht hb ((padded?_eq_some_iff hb.hyphen).1 hv)
      | none =>
        refine .other hs ht hb fun v hdenotes => ?_
        rw [padded?_of_denotes hdenotes] at hv
        cases hv

theorem normalize_of_standsFor {raw : Option String} (h : StandsFor raw v) :
    normalize raw = v := by
  cases h with
  | missing => rfl
  | blank hs =>
    rw [normalize, Option.getD_some, trim_eq_iff.2 hs]
    rfl
  | release hs ht hb hv =>
    rw [← trim_eq_iff.2 hs] at ht hb
    rw [normalize_of_trim_ne_nil ht, core_eq_iff.2 hb, padded?_of_denotes hv, Option.getD_some]
  | other hs ht hb hv =>
    rename_i s t b
    rw [← trim_eq_iff.2 hs] at ht hb
    have hnone : padded? b = none :=
      Option.eq_none_iff_forall_ne_some.2 fun v h => hv v ((padded?_eq_some_iff hb.hyphen).1 h)
    rw [normalize_of_trim_ne_nil ht, core_eq_iff.2 hb, hnone, Option.getD_none, assumed_eq]

/-- **Reading gives a written release back.** -/
theorem normalize_toText_release (v : Version) : normalize (some v.release.toText) = v.release := by
  have htrim : Trimmed v.release.toText.toList v.release.toText.toList :=
    trim_eq_iff.1 (trim_eq_self fun c hc => isBlank_of_mem_toText_release hc)
  have hcore : Core v.release.toText.toList v.release.toText.toList := by
    refine ⟨not_mem_toText_release v (by decide) (by decide), [], [], by simp, ?_, by simp⟩
    exact marks_release_append v []
  refine normalize_of_standsFor (.release htrim ?_ hcore (denotes_release v))
  simpa using toText_release_ne_empty v

/-- What people write stands for a release. -/
theorem release_normalize (raw : Option String) : (normalize raw).release = normalize raw := by
  unfold normalize
  split
  · rfl
  · dsimp only
    split <;> rfl

/-- **A text stands for one version, which is what is read.** So reading gives a written release
back, and what is read once is not changed by writing and reading it again. -/
theorem normalize_eq_iff_standsFor :
    (∀ raw v, normalize raw = v ↔ StandsFor raw v) ∧
    (∀ major minor patch : UInt64,
      normalize (some (Version.toText ⟨major, minor, patch, [], []⟩)) =
        ⟨major, minor, patch, [], []⟩) ∧
    ∀ raw, normalize (some (normalize raw).toText) = normalize raw := by
  refine ⟨fun raw v => ⟨?_, normalize_of_standsFor⟩, fun major minor patch => ?_, fun raw => ?_⟩
  · rintro rfl
    exact standsFor_normalize raw
  · exact normalize_toText_release ⟨major, minor, patch, [], []⟩
  · have h := normalize_toText_release (normalize raw)
    rw [release_normalize] at h
    exact h

/-- No text, a text of blanks and one that denotes no release stand for 1.6.2; one with marks in
front, two numbers and a pre-release stands for its release. -/
theorem normalize_eq_iff_standsFor_trial :
    normalize none = ⟨1, 6, 2, [], []⟩ ∧
      normalize (some "\t\u00a0") = ⟨1, 6, 2, [], []⟩ ∧
      normalize (some "1+b") = ⟨1, 6, 2, [], []⟩ ∧
      StandsFor (some " =v1.2-rc ") ⟨1, 2, 0, [], []⟩ := by
  obtain ⟨hiff, -, -⟩ := normalize_eq_iff_standsFor
  have hblank : Trimmed "\t\u00a0".toList [] := trim_eq_iff.1 (by decide +kernel)
  have htext : Trimmed "1+b".toList "1+b".toList := trim_eq_iff.1 (by decide +kernel)
  have hcore : Core "1+b".toList "1+b".toList := core_eq_iff.1 (by decide +kernel)
  -- a zero behind a build does not complete it
  have hnone : padded? "1+b".toList = none := by decide +kernel
  refine ⟨(hiff _ _).2 .missing, (hiff _ _).2 (.blank hblank), (hiff _ _).2 ?_,
    (hiff _ _).1 (by decide +kernel)⟩
  refine .other htext (by decide) hcore fun v hv => ?_
  rw [padded?_of_denotes hv] at hnone
  cases hnone

end Version

end TypeScriptBuild
