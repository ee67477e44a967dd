import TypeScriptBuild.Proofs.Condition.Layout
import TypeScriptBuild.Proofs.Fragment

/-!
# Guards

A project guards the default of a property by a condition that asks if the property is still unset.
Such a guard compares a single reference to the property with nothing, but for blanks, and can be
told from its text: `UnsetGuard` is every way to write one.

* `Comparison.significant_eq_nil_iff`, `Comparison.significant_eq_reference_iff`: what a side of a
  comparison looks like that is nothing, or a single reference, but for blanks.
* `UnsetGuard`: the texts of guards.
* `unsetGuard_iff`: they are the conditions that are read as guards.
* `UnsetGuard.name_unique`, `UnsetGuard.read_equal`, `not_unsetGuard_join`: what is no guard.
-/

namespace TypeScriptBuild

open Text
open Fragment (Markless Scan ofText)

namespace Comparison

variable {fs gs : List Fragment} {s lit : List Char} {name : String}

/-! ## What is left but for blanks -/

theorem significant_append (fs gs : List Fragment) :
    significant (fs ++ gs) = significant fs ++ significant gs :=
  List.filter_append ..

theorem significant_reference_cons (name : String) (fs : List Fragment) :
    significant (.reference name :: fs) = .reference name :: significant fs :=
  List.filter_cons_of_pos rfl

theorem significant_ofText_eq_nil_iff :
    significant (ofText lit) = [] ↔ ∀ c ∈ lit, isBlank c = true := by
  by_cases hne : lit = []
  · simp [ofText, hne, significant]
  · simp [ofText, if_neg hne, significant, Fragment.isPadding, allBlank]

theorem reference_not_mem_significant_ofText (lit : List Char) (name : String) :
    .reference name ∉ significant (ofText lit) := by
  intro h
  have hmem := (List.mem_filter.1 h).1
  rw [ofText] at hmem
  split at hmem <;> simp at hmem

/-- A text of blanks opens no reference. -/
theorem markless_of_blank (h : ∀ c ∈ s, isBlank c = true) : Markless s := by
  intro hmark
  have hdollar := h '$' (hmark.subset List.mem_cons_self)
  cases hdollar

theorem not_blank_of_mark {s t : List Char} : ¬ ∀ c ∈ s ++ '$' :: t, isBlank c = true := by
  intro h
  have hdollar := h '$' (List.mem_append_right _ List.mem_cons_self)
  cases hdollar

/-- **A side of a comparison is nothing but for blanks** exactly if its text is blank. -/
theorem significant_eq_nil_iff (h : Scan s fs) :
    significant fs = [] ↔ ∀ c ∈ s, isBlank c = true := by
  cases h with
  | text hlit => exact significant_ofText_eq_nil_iff
  | unclosed hlit hname =>
    refine iff_of_false ?_ not_blank_of_mark
    rw [significant_append, significant_reference_cons]
    simp
  | closed hlit hname hrest =>
    refine iff_of_false ?_ not_blank_of_mark
    rw [significant_append, significant_reference_cons]
    simp

/-- What may stand behind the name in a text that is a single reference but for blanks: the closing
parenthesis and blanks, or nothing, if the reference is not closed. -/
inductive ReferenceEnd : List Char → Prop
  | closed {w : List Char} (hw : ∀ c ∈ w, isBlank c = true) : ReferenceEnd (')' :: w)
  | unclosed : ReferenceEnd []

theorem ReferenceEnd.apostrophe_not_mem (h : ReferenceEnd s) : '\'' ∉ s := by
  cases h with
  | closed hw => simpa using not_mem_of_forall hw (by decide)
  | unclosed => exact List.not_mem_nil

theorem append_eq_reference_iff {lit name' : List Char} :
    significant (ofText lit ++ .reference (.ofList name') :: gs) = [.reference name] ↔
      (∀ c ∈ lit, isBlank c = true) ∧ name' = name.toList ∧ significant gs = [] := by
  rw [significant_append, significant_reference_cons, List.append_eq_singleton_iff,
    significant_ofText_eq_nil_iff]
  constructor
  · rintro (⟨hlit, hcons⟩ | ⟨-, hcons⟩)
    · obtain ⟨hname, hgs⟩ := List.cons.inj hcons
      refine ⟨hlit, ?_, hgs⟩
      rw [← Fragment.reference.inj hname, String.toList_ofList]
    · cases hcons
  · rintro ⟨hlit, rfl, hgs⟩
    refine Or.inl ⟨hlit, ?_⟩
    rw [hgs, String.ofList_toList]

/-- **A side of a comparison is a single reference but for blanks** exactly if its text has blanks,
the reference and blanks again, if it is closed. -/
theorem significant_eq_reference_iff (h : Scan s fs) (hname : ')' ∉ name.toList) :
    significant fs = [.reference name] ↔
      ∃ w tail, (∀ c ∈ w, isBlank c = true) ∧ ReferenceEnd tail ∧
        s = w ++ '$' :: '(' :: (name.toList ++ tail) := by
  constructor
  · intro hfs
    cases h with
    | text hlit =>
      refine absurd ?_ (reference_not_mem_significant_ofText s name)
      rw [hfs]
      exact List.mem_cons_self
    | @unclosed lit name' hlit hname' =>
      obtain ⟨hblank, rfl, -⟩ := append_eq_reference_iff.1 hfs
      exact ⟨lit, [], hblank, .unclosed, by rw [List.append_nil]⟩
    | @closed lit name' rest gs hlit hname' hrest =>
      obtain ⟨hblank, rfl, hgs⟩ := append_eq_reference_iff.1 hfs
      exact ⟨lit, ')' :: rest, hblank, .closed ((significant_eq_nil_iff hrest).1 hgs), rfl⟩
  · rintro ⟨w, tail, hw, htail, rfl⟩
    cases htail with
    | unclosed =>
      have hscan := Scan.unclosed (markless_of_blank hw) hname
      rw [List.append_nil] at h
      rw [← Fragment.splitText_of_scan h, Fragment.splitText_of_scan hscan]
      exact append_eq_reference_iff.2 ⟨hw, rfl, rfl⟩
    | @closed v hv =>
      have hrest : Scan v (ofText v) := .text (markless_of_blank hv)
      have hscan := Scan.closed (markless_of_blank hw) hname hrest
      rw [← Fragment.splitText_of_scan h, Fragment.splitText_of_scan hscan]
      exact append_eq_reference_iff.2 ⟨hw, rfl, significant_ofText_eq_nil_iff.2 hv⟩

theorem isUnsetCheck_iff {c : Comparison} :
    c.isUnsetCheck name = true ↔
      c.operator = .equal ∧ significant c.right = [] ∧ significant c.left = [.reference name] := by
  simp only [isUnsetCheck, Bool.and_eq_true, beq_iff_eq, and_assoc]

end Comparison

/-! ## The texts of guards -/

/-- A name that a condition can refer to: an apostrophe would end the text that holds the reference,
and a parenthesis the reference. -/
structure Referable (name : String) : Prop where
  apostrophe : '\'' ∉ name.toList
  parenthesis : ')' ∉ name.toList

/-- **A guard** asks if the property `name` is still unset: on the left of the equality sign stands
a reference to it, on the right nothing, and blanks stand anywhere around these. -/
def UnsetGuard (name condition : String) : Prop :=
  ∃ lead inner tail before after value trail : String,
    allBlank lead = true ∧ allBlank inner = true ∧ Comparison.ReferenceEnd tail.toList ∧
      allBlank before = true ∧ allBlank after = true ∧ allBlank value = true ∧
      allBlank trail = true ∧
      condition = lead ++ "'" ++ inner ++ "$(" ++ name ++ tail ++ "'" ++ before ++ "==" ++ after ++
        "'" ++ value ++ "'" ++ trail

variable {name condition : String}

theorem apostrophe_not_mem_of_allBlank {w : String} (h : allBlank w = true) : '\'' ∉ w.toList :=
  not_mem_of_forall (blank_of_allBlank h) (by decide)

/-- The comparison that a condition denotes is a guard by the texts of its two sides. -/
theorem Comparison.Layout.isUnsetCheck_comparison_iff {l : Comparison.Layout}
    (hname : Referable name) :
    l.comparison.isUnsetCheck name = true ↔
      l.operator = .equal ∧ allBlank l.right = true ∧
        ∃ inner tail : String, allBlank inner = true ∧ ReferenceEnd tail.toList ∧
          l.left = inner ++ "$(" ++ name ++ tail := by
  have hscan (text : String) : Scan text.toList (Fragment.split text) :=
    Fragment.scan_iff_split_eq.2 rfl
  have hright := Comparison.significant_eq_nil_iff (hscan l.right)
  have hleft := Comparison.significant_eq_reference_iff (hscan l.left) hname.parenthesis
  rw [Comparison.isUnsetCheck_iff, comparison]
  dsimp only
  rw [hright, hleft]
  refine and_congr_right fun _ => and_congr (List.all_eq_true (p := isBlank)).symm ⟨?_, ?_⟩
  · rintro ⟨w, tail, hw, htail, htext⟩
    refine ⟨.ofList w, .ofList tail, List.all_eq_true.2 (by simpa using hw), ?_, ?_⟩
    · rw [String.toList_ofList]
      exact htail
    · rw [← String.toList_inj, htext]
      simp
  · rintro ⟨inner, tail, hinner, htail, htext⟩
    refine ⟨inner.toList, tail.toList, blank_of_allBlank hinner, htail, ?_⟩
    rw [htext]
    simp

/-- **A guard is laid out** as a comparison whose parts say so. -/
theorem unsetGuard_iff_layout (hname : Referable name) :
    UnsetGuard name condition ↔
      ∃ l : Comparison.Layout, l.text = condition ∧ l.comparison.isUnsetCheck name = true := by
  constructor
  · rintro ⟨lead, inner, tail, before, after, value, trail, hlead, hinner, htail, hbefore, hafter,
      hvalue, htrail, rfl⟩
    let l : Comparison.Layout :=
      { lead, left := inner ++ "$(" ++ name ++ tail, before, operator := .equal, after
        right := value, trail, lead_blank := hlead, before_blank := hbefore, after_blank := hafter
        trail_blank := htrail
        left_plain := by
          simp [apostrophe_not_mem_of_allBlank hinner, hname.apostrophe, htail.apostrophe_not_mem]
        right_plain := apostrophe_not_mem_of_allBlank hvalue }
    refine ⟨l, ?_, (Comparison.Layout.isUnsetCheck_comparison_iff hname).2
      ⟨rfl, hvalue, inner, tail, hinner, htail, rfl⟩⟩
    simp [l, Comparison.Layout.text, Operator.written, String.append_assoc]
  · rintro ⟨l, rfl, hcheck⟩
    obtain ⟨hop, hvalue, inner, tail, hinner, htail, hleft⟩ :=
      (Comparison.Layout.isUnsetCheck_comparison_iff hname).1 hcheck
    refine ⟨l.lead, inner, tail, l.before, l.after, l.right, l.trail, l.lead_blank, hinner, htail,
      l.before_blank, l.after_blank, hvalue, l.trail_blank, ?_⟩
    rw [Comparison.Layout.text, hop, hleft]
    simp only [Operator.written, String.append_assoc]

/-- **The conditions that are read as guards** are those that are written as guards. -/
theorem unsetGuard_iff (hname : Referable name) :
    UnsetGuard name condition ↔
      ∃ c, Comparison.read condition = .ok c ∧ c.isUnsetCheck name = true := by
  rw [unsetGuard_iff_layout hname]
  constructor
  · rintro ⟨l, rfl, hcheck⟩
    exact ⟨l.comparison, Comparison.read_eq_ok_iff.2 l.readChars_text, hcheck⟩
  · rintro ⟨c, hread, hcheck⟩
    obtain ⟨l, htext, rfl⟩ :=
      Comparison.Layout.exists_of_readChars (Comparison.read_eq_ok_iff.1 hread)
    exact ⟨l, htext, hcheck⟩

/-! ## What is no guard -/

/-- A condition guards one property at most. -/
theorem UnsetGuard.name_unique {name' : String} (hname : Referable name) (hname' : Referable name')
    (h : UnsetGuard name condition) (h' : UnsetGuard name' condition) : name = name' := by
  obtain ⟨c, hread, hcheck⟩ := (unsetGuard_iff hname).1 h
  obtain ⟨c', hread', hcheck'⟩ := (unsetGuard_iff hname').1 h'
  obtain rfl : c = c' := Except.ok.inj (hread.symm.trans hread')
  obtain ⟨-, -, hleft⟩ := Comparison.isUnsetCheck_iff.1 hcheck
  obtain ⟨-, -, hleft'⟩ := Comparison.isUnsetCheck_iff.1 hcheck'
  simpa using hleft.symm.trans hleft'

/-- A guard is a comparison, and one for equality. -/
theorem UnsetGuard.read_equal (hname : Referable name) (h : UnsetGuard name condition) :
    ∃ c, Comparison.read condition = .ok c ∧ c.operator = .equal := by
  obtain ⟨c, hread, hcheck⟩ := (unsetGuard_iff hname).1 h
  exact ⟨c, hread, (Comparison.isUnsetCheck_iff.1 hcheck).1⟩

/-- Every comparison is written with four apostrophes. -/
theorem Comparison.Layout.count_apostrophe (l : Comparison.Layout) :
    l.text.toList.count '\'' = 4 := by
  have hop : '\'' ∉ l.operator.written.toList := by
    cases l.operator <;> decide
  rw [l.toList_text, behindLeft, behindOperator]
  simp only [List.count_append, List.count_cons_self,
    List.count_eq_zero.2 (apostrophe_not_mem_of_allBlank l.lead_blank),
    List.count_eq_zero.2 (apostrophe_not_mem_of_allBlank l.before_blank),
    List.count_eq_zero.2 (apostrophe_not_mem_of_allBlank l.after_blank),
    List.count_eq_zero.2 (apostrophe_not_mem_of_allBlank l.trail_blank),
    List.count_eq_zero.2 l.left_plain, List.count_eq_zero.2 l.right_plain,
    List.count_eq_zero.2 hop]

/-- Two comparisons do not make a guard, whatever joins them. -/
theorem not_unsetGuard_join (hname : Referable name) (l l' : Comparison.Layout) (joint : String) :
    ¬ UnsetGuard name (l.text ++ joint ++ l'.text) := by
  intro h
  obtain ⟨m, hm, -⟩ := (unsetGuard_iff_layout hname).1 h
  have hcount := m.count_apostrophe
  rw [hm] at hcount
  simp only [String.toList_append, List.count_append, l.count_apostrophe,
    l'.count_apostrophe] at hcount
  omega

end TypeScriptBuild
