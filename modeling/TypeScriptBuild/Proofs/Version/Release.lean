import TypeScriptBuild.Proofs.Version.Normal

/-!
# The release of a strict version

Whoever writes a version strictly, with pre-release and build, gets its release, with one
exception. All from the first hyphen on is cut off, and a hyphen may also stand in a build. If it
begins an identifier there, the cut leaves a mark or a dot with nothing behind it; what is left is
no version, and the one that is assumed takes its place.

* `Version.CutShort`: the exception.
* `Version.HyphenAt`: a version whose first hyphen stands in its build;
  `Version.HyphenAt.normalize_toText`: what such a version is read as.
* `Version.normalize_of_read?`: what a strict version is read as.
* `Version.normalize_hyphenBuild_ne`: a version that is cut short.
-/

namespace TypeScriptBuild

open Text

namespace Version

variable {b rest s : List Char} {v w : Version}

/-- The first hyphen in the identifiers begins one of them. -/
def HyphenLed (ids : List String) : Prop :=
  ∃ i ∈ ids.find? fun i => decide ('-' ∈ i.toList), i.toList.head? = some '-'

instance (ids : List String) : Decidable (HyphenLed ids) :=
  inferInstanceAs (Decidable (∃ i ∈ ids.find? _, _))

/-- The first hyphen of a version stands in its build and begins an identifier. -/
def CutShort (v : Version) : Prop :=
  v.pre = [] ∧ HyphenLed v.build

instance (v : Version) : Decidable v.CutShort :=
  inferInstanceAs (Decidable (_ ∧ _))

/-! ## Nothing but the cut -/

theorem toNat_of_isAlphanum {c : Char} (h : c.isAlphanum = true) :
    (65 ≤ c.toNat ∧ c.toNat ≤ 90) ∨ (97 ≤ c.toNat ∧ c.toNat ≤ 122) ∨
      (48 ≤ c.toNat ∧ c.toNat ≤ 57) := by
  have hcases : (c.isUpper || c.isLower || c.isDigit) = true := h
  rw [Bool.or_eq_true, Bool.or_eq_true] at hcases
  rcases hcases with (hupper | hlower) | hdigit
  · exact Or.inl (of_decide_eq_true hupper)
  · have hrange : (decide (97 ≤ c.toNat) && decide (c.toNat ≤ 122)) = true := hlower
    rw [Bool.and_eq_true, decide_eq_true_iff, decide_eq_true_iff] at hrange
    exact Or.inr (Or.inl hrange)
  · exact Or.inr (Or.inr (toNat_of_isDigit hdigit))

theorem isBlank_of_isIdentifierChar {c : Char} (h : isIdentifierChar c = true) :
    isBlank c = false := by
  rw [isIdentifierChar, Bool.or_eq_true, beq_iff_eq] at h
  rcases h with h | rfl
  · have hrange := toNat_of_isAlphanum h
    simp [isBlank]
    omega
  · decide

theorem isBlank_of_mem_toText (hv : v.WellFormed) {c : Char} (hc : c ∈ v.toText.toList) :
    isBlank c = false := by
  rw [Bool.eq_false_iff]
  intro hblank
  have hne : ∀ d, isBlank d = false → c ≠ d := by
    rintro d hd rfl
    rw [hd] at hblank
    cases hblank
  have hids : ∀ {fits : List Char → Bool} {i : String}, Identifier fits i → c ∉ i.toList := by
    intro fits i hi hm
    rw [isBlank_of_isIdentifierChar (hi.char c hm)] at hblank
    cases hblank
  rw [toList_toText, List.mem_append, List.mem_append] at hc
  rcases hc with (hc | hc) | hc
  · exact hne c (isBlank_of_mem_toText_release hc) rfl
  · exact not_mem_introduced (hne '-' (by decide)) (hne '.' (by decide))
      (fun i hi => hids (hv.pre i hi)) hc
  · exact not_mem_introduced (hne '+' (by decide)) (hne '.' (by decide))
      (fun i hi => hids (hv.build i hi)) hc

theorem toText_eq_append (v : Version) : ∃ s, v.toText.toList = v.release.toText.toList ++ s := by
  rw [toList_toText, List.append_assoc]
  exact ⟨_, rfl⟩

/-- The texts of versions are cut at their first hyphen and nowhere else. -/
theorem normalize_toText (hv : v.WellFormed) (htext : v.toText.toList = b ++ rest) (hb : '-' ∉ b)
    (hrest : ∀ c ∈ rest.head?, c = '-') : normalize (some v.toText) = (padded? b).getD assumed := by
  have htrim : trim v.toText.toList = v.toText.toList :=
    trim_eq_self fun c hc => isBlank_of_mem_toText hv hc
  have hne : trim v.toText.toList ≠ [] := by
    obtain ⟨s, hs⟩ := toText_eq_append v
    rw [htrim, hs, toText_release_append]
    simp
  have hcore : core v.toText.toList = b := by
    refine core_eq_iff.2 ⟨hb, [], rest, htext, ?_, hrest⟩
    obtain ⟨s, hs⟩ := toText_eq_append v
    rw [← htext, hs]
    exact marks_release_append v s
  rw [normalize_of_trim_ne_nil hne, htrim, hcore]

/-! ## Where the cut falls -/

/-- The cut falls behind the release, and the build goes with the pre-release. -/
theorem normalize_toText_of_pre (hv : v.WellFormed) (hpre : v.pre ≠ []) :
    normalize (some v.toText) = v.release := by
  have htext := toList_toText v
  rw [List.append_assoc] at htext
  have hhyphen : '-' ∉ v.release.toText.toList :=
    not_mem_toText_release v (by decide) (by decide)
  rw [normalize_toText hv htext hhyphen ?_, padded?_of_denotes (denotes_release v),
    Option.getD_some]
  rw [toList_introduced hpre]
  intro c hc
  exact (Option.some.inj hc).symm

theorem not_mem_toText (hpre : v.pre = []) (h : ∀ i ∈ v.build, '-' ∉ i.toList) :
    '-' ∉ v.toText.toList := by
  rw [toList_toText, hpre, toList_introduced_nil, List.append_nil, List.mem_append, not_or]
  exact ⟨not_mem_toText_release v (by decide) (by decide),
    not_mem_introduced (by decide) (by decide) h⟩

/-- Nothing is cut. -/
theorem normalize_toText_of_not_mem (hv : v.WellFormed) (h : '-' ∉ v.toText.toList) :
    normalize (some v.toText) = v.release := by
  have hread : read? v.toText.toList = some v := read?_eq_some_iff.2 ⟨hv, rfl⟩
  rw [normalize_toText hv (List.append_nil _).symm h fun c hc => absurd hc (by simp),
    padded?_of_read? hread, Option.getD_some]

theorem not_cutShort (h : ∀ i ∈ v.build, '-' ∉ i.toList) : ¬ v.CutShort := by
  rintro ⟨-, i, hi, -⟩
  rw [Option.mem_def, List.find?_eq_some_iff_append, decide_eq_true_iff] at hi
  obtain ⟨hhyphen, front, back, hbuild, -⟩ := hi
  exact h i (by simp [hbuild]) hhyphen

/-! ## A cut in the build -/

/-- A release with runs in place of a build. -/
def releaseWith (v : Version) (runs : List String) : List Char :=
  v.release.toText.toList ++ '+' :: (".".intercalate runs).toList

theorem not_mem_releaseWith {runs : List String} (hne : runs ≠ [])
    (h : ∀ run ∈ runs, '-' ∉ run.toList) : '-' ∉ releaseWith v runs := by
  rw [releaseWith, ← toList_introduced hne, List.mem_append, not_or]
  exact ⟨not_mem_toText_release v (by decide) (by decide),
    not_mem_introduced (by decide) (by decide) h⟩

/-- Runs that are identifiers are a build. -/
theorem padded?_releaseWith {runs : List String} (hne : runs ≠ []) (hrun : ∀ run ∈ runs, Run run) :
    padded? (releaseWith v runs) = some v.release :=
  padded?_of_denotes (denotes_built v hne hrun)

/-- A run without characters makes the build unreadable. -/
theorem padded?_releaseWith_of_empty {runs : List String} (hempty : "" ∈ runs)
    (hhyphen : '-' ∉ releaseWith v runs)
    (hchar : ∀ run ∈ runs, ∀ c ∈ run.toList, isIdentifierChar c = true) :
    padded? (releaseWith v runs) = none := by
  refine Option.eq_none_iff_forall_ne_some.2 fun u hu => ?_
  have hdot : ∀ run ∈ runs, '.' ∉ run.toList := fun run hrun hm =>
    absurd (hchar run hrun '.' hm) (by decide)
  have hrun := run_of_denotes (List.ne_nil_of_mem hempty) hdot ((padded?_eq_some_iff hhyphen).1 hu)
  exact (hrun "" hempty).ne_empty rfl

/-- The first hyphen of a version stands in its build, behind the part `l` of an identifier. -/
structure HyphenAt (v : Version) (front back : List String) (l r : List Char) : Prop where
  wellFormed : v.WellFormed
  pre : v.pre = []
  build : v.build = front ++ String.ofList (l ++ '-' :: r) :: back
  front : ∀ i ∈ front, '-' ∉ i.toList
  part : '-' ∉ l

theorem exists_hyphenAt (hv : v.WellFormed) (hpre : v.pre = [])
    (h : ¬ ∀ i ∈ v.build, '-' ∉ i.toList) : ∃ front back l r, HyphenAt v front back l r := by
  cases hfind : v.build.find? fun i => decide ('-' ∈ i.toList) with
  | none => exact absurd (by simpa using hfind) h
  | some i =>
    obtain ⟨hi, front, back, hbuild, hfront⟩ := List.find?_eq_some_iff_append.1 hfind
    obtain ⟨l, r, hlr, hl⟩ := List.eq_append_cons_of_mem (of_decide_eq_true hi)
    exact ⟨front, back, l, r, hv, hpre, by rw [hbuild, ← hlr, String.ofList_toList],
      by simpa using hfront, hl⟩

namespace HyphenAt

variable {front back : List String} {l r : List Char}

theorem not_mem_run (h : HyphenAt v front back l r) :
    ∀ run ∈ front ++ [String.ofList l], '-' ∉ run.toList := by
  intro run hrun
  rcases List.mem_append.1 hrun with hrun | hrun
  · exact h.front run hrun
  · rw [List.mem_singleton.1 hrun, String.toList_ofList]
    exact h.part

/-- What the cut leaves of the build has the characters of the build. -/
theorem char (h : HyphenAt v front back l r) :
    ∀ run ∈ front ++ [String.ofList l], ∀ c ∈ run.toList, isIdentifierChar c = true := by
  have hids := h.wellFormed.build
  rw [h.build] at hids
  intro run hrun c hc
  rcases List.mem_append.1 hrun with hrun | hrun
  · exact (hids run (List.mem_append_left _ hrun)).char c hc
  · rw [List.mem_singleton.1 hrun, String.toList_ofList] at hc
    refine (hids _ (List.mem_append_right _ List.mem_cons_self)).char c ?_
    rw [String.toList_ofList]
    exact List.mem_append_left _ hc

/-- The runs in front of the hyphen are identifiers, if the last of them has a character. -/
theorem run (h : HyphenAt v front back l r) (hl : l ≠ []) :
    ∀ run ∈ front ++ [String.ofList l], Run run := by
  intro run hrun
  refine .of_not_hyphen ?_ (h.char run hrun) (h.not_mem_run run hrun)
  rcases List.mem_append.1 hrun with hrun | hrun
  · exact (h.wellFormed.build run (by rw [h.build]; exact List.mem_append_left _ hrun)).ne_empty
  · rw [List.mem_singleton.1 hrun]
    simpa using hl

/-- A version is cut short if nothing of an identifier stands in front of its first hyphen. -/
theorem cutShort_iff (h : HyphenAt v front back l r) : v.CutShort ↔ l = [] := by
  have hfind : v.build.find? (fun i => decide ('-' ∈ i.toList)) =
      some (String.ofList (l ++ '-' :: r)) :=
    List.find?_eq_some_iff_append.2 ⟨by simp, front, back, h.build, by simpa using h.front⟩
  rw [CutShort, HyphenLed, hfind]
  cases l with
  | nil => simp [h.pre]
  | cons c l =>
    have hc : c ≠ '-' := fun e => h.part (e ▸ List.mem_cons_self)
    simp [hc]

theorem exists_toList_toText (h : HyphenAt v front back l r) :
    ∃ rest, v.toText.toList = releaseWith v (front ++ [String.ofList l]) ++ '-' :: rest := by
  have hne : v.build ≠ [] := by simp [h.build]
  obtain ⟨rest, hrest⟩ := exists_intercalate_append ['.'] (front.map String.toList)
    (back.map String.toList) l ('-' :: r)
  refine ⟨r ++ rest, ?_⟩
  rw [toList_toText, h.pre, toList_introduced_nil, List.append_nil, toList_introduced hne,
    releaseWith, String.toList_intercalate, String.toList_intercalate, h.build, List.map_append,
    List.map_cons, String.toList_ofList, List.map_append, List.map_singleton, String.toList_ofList]
  exact (congrArg _ (congrArg _ hrest)).trans (by simp)

/-- **The cut falls into the build**: the release is read unless nothing is left of the identifier
that is cut. -/
theorem normalize_toText (h : HyphenAt v front back l r) :
    normalize (some v.toText) = if l = [] then assumed else v.release := by
  obtain ⟨rest, htext⟩ := h.exists_toList_toText
  have hhyphen := not_mem_releaseWith (v := v) (by simp) h.not_mem_run
  rw [Version.normalize_toText h.wellFormed htext hhyphen fun c hc => (Option.some.inj hc).symm]
  split
  · next hl =>
    rw [padded?_releaseWith_of_empty (by simp [hl]) hhyphen h.char, Option.getD_none]
  · next hl => rw [padded?_releaseWith (by simp) (h.run hl), Option.getD_some]

end HyphenAt

/-- **A strict version is read as its release**, unless it is cut short: then it is read as the
version that is assumed, which is 1.6.2. -/
theorem normalize_of_read? (s : String) (w : Version) (h : read? s.toList = some w) :
    normalize (some s) = if w.CutShort then ⟨1, 6, 2, [], []⟩ else w.release := by
  obtain ⟨hw, hs⟩ := read?_eq_some_iff.1 h
  obtain rfl := String.toList_inj.1 hs
  by_cases hpre : w.pre = []
  · by_cases hbuild : ∀ i ∈ w.build, '-' ∉ i.toList
    · rw [if_neg (not_cutShort hbuild)]
      exact normalize_toText_of_not_mem hw (not_mem_toText hpre hbuild)
    · obtain ⟨front, back, l, r, hat⟩ := exists_hyphenAt hw hpre hbuild
      rw [hat.normalize_toText, assumed_eq]
      simp only [hat.cutShort_iff]
  · rw [if_neg fun hcut => hpre hcut.1]
    exact normalize_toText_of_pre hw hpre

/-- A build that begins with a hyphen. -/
def hyphenBuild : Version :=
  ⟨1, 2, 3, [], ["-"]⟩

/-- **The exception**: a version is read as another one. -/
theorem normalize_hyphenBuild_ne :
    read? "1.2.3+-".toList = some hyphenBuild ∧
      normalize (some "1.2.3+-") = ⟨1, 6, 2, [], []⟩ ∧
      normalize (some "1.2.3+-") ≠ hyphenBuild.release := by
  decide +kernel

/-- A version with a pre-release keeps its numbers wherever hyphens stand in its build, and so does
one with a hyphen inside an identifier in front of one that begins with a hyphen. Without that, it
is cut short. -/
theorem normalize_of_read?_hyphens :
    (read? "1.2.3--+-".toList = some ⟨1, 2, 3, ["-"], ["-"]⟩ ∧
        normalize (some "1.2.3--+-") = ⟨1, 2, 3, [], []⟩) ∧
      (read? "1.2.3+a-.-".toList = some ⟨1, 2, 3, [], ["a-", "-"]⟩ ∧
        normalize (some "1.2.3+a-.-") = ⟨1, 2, 3, [], []⟩) ∧
      (read? "1.2.3+a.-".toList = some ⟨1, 2, 3, [], ["a", "-"]⟩ ∧
        normalize (some "1.2.3+a.-") = ⟨1, 6, 2, [], []⟩) := by
  have hpre : read? "1.2.3--+-".toList = some ⟨1, 2, 3, ["-"], ["-"]⟩ := by decide +kernel
  have hinside : read? "1.2.3+a-.-".toList = some ⟨1, 2, 3, [], ["a-", "-"]⟩ := by decide +kernel
  have hfront : read? "1.2.3+a.-".toList = some ⟨1, 2, 3, [], ["a", "-"]⟩ := by decide +kernel
  refine ⟨⟨hpre, ?_⟩, ⟨hinside, ?_⟩, ⟨hfront, ?_⟩⟩
  · exact (normalize_of_read? _ _ hpre).trans (by decide +kernel)
  · exact (normalize_of_read? _ _ hinside).trans (by decide +kernel)
  · exact (normalize_of_read? _ _ hfront).trans (by decide +kernel)

end Version

end TypeScriptBuild
