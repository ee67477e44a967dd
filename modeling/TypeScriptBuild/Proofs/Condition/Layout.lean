import TypeScriptBuild.Condition
import TypeScriptBuild.Error
import TypeScriptBuild.Proofs.Text.Cut

/-!
# How comparisons are laid out

A condition that denotes a comparison is a quoted text, an operator and a quoted text, with blanks
before, between and behind them (`Comparison.Layout`). The quoted texts may hold anything but an
apostrophe: operators and blanks inside them are theirs.

* `Comparison.readQuoted_eq_ok_iff`, `Comparison.readOperator_eq_ok_iff`,
  `Comparison.readChars_eq_ok_iff`: what the stages of reading accept.
* `Comparison.Layout.text_injective`: a condition has one layout at most.
* `Comparison.read_eq_ok_iff_layout`: it is read exactly if it has one, and then as the layout says.
-/

namespace TypeScriptBuild

open Text

/-- An operator as it is written. -/
def Operator.written : Operator → String
  | .equal => "=="
  | .notEqual => "!="

namespace Comparison

variable {s t rest : List Char}

/-! ## The stages of reading -/

/-- A quoted text runs from an apostrophe to the next one. -/
theorem readQuoted_eq_ok_iff :
    readQuoted s = .ok (t, rest) ↔ '\'' ∉ t ∧ s = '\'' :: (t ++ '\'' :: rest) := by
  constructor
  · intro h
    unfold readQuoted at h
    split at h
    · rename_i cs
      split at h
      · rename_i c rest' hdrop
        cases h
        have hc : c = '\'' := by
          have := List.head?_dropWhile_not (· != '\'') cs
          rw [hdrop] at this
          simpa using this
        subst hc
        refine ⟨fun hm => ?_, ?_⟩
        · simpa using List.mem_takeWhile_imp hm
        · rw [← hdrop, List.takeWhile_append_dropWhile]
      · cases h
    · cases h
  · rintro ⟨ht, rfl⟩
    have hne : ∀ c ∈ t, (c != '\'') = true := fun c hc =>
      bne_iff_ne.2 fun e => ht (e ▸ hc)
    have hdrop : (t ++ '\'' :: rest).dropWhile (· != '\'') = '\'' :: rest := by
      rw [List.dropWhile_append_of_pos hne]
      rfl
    have htake : (t ++ '\'' :: rest).takeWhile (· != '\'') = t := by
      rw [List.takeWhile_append_of_pos hne]
      simp
    rw [readQuoted, hdrop]
    dsimp only
    rw [htake]

theorem readOperator_eq_ok_iff {operator : Operator} :
    readOperator s = .ok (operator, rest) ↔ s = operator.written.toList ++ rest := by
  constructor
  · intro h
    unfold readOperator at h
    split at h <;> cases h <;> rfl
  · rintro rfl
    cases operator <;> rfl

/-- Where one operator is written no other is. -/
theorem written_append_inj {operator operator' : Operator} {t : List Char}
    (h : operator.written.toList ++ s = operator'.written.toList ++ t) :
    operator = operator' ∧ s = t := by
  have hread := readOperator_eq_ok_iff.2 h
  rw [readOperator_eq_ok_iff.2 rfl] at hread
  cases hread
  exact ⟨rfl, rfl⟩

/-- **A comparison is read** in four stages, each behind the blanks in front of it. -/
theorem readChars_eq_ok_iff {c : Comparison} :
    readChars s = .ok c ↔
      ∃ left s₁ operator s₂ right s₃,
        readQuoted (dropBlanks s) = .ok (left, s₁) ∧
        readOperator (dropBlanks s₁) = .ok (operator, s₂) ∧
        readQuoted (dropBlanks s₂) = .ok (right, s₃) ∧ dropBlanks s₃ = [] ∧
        c = ⟨Fragment.split (.ofList left), operator, Fragment.split (.ofList right)⟩ := by
  rw [readChars]
  constructor
  · intro h
    obtain ⟨⟨left, s₁⟩, h₁, h⟩ := bind_eq_ok_iff.1 h
    obtain ⟨⟨operator, s₂⟩, h₂, h⟩ := bind_eq_ok_iff.1 h
    obtain ⟨⟨right, s₃⟩, h₃, h⟩ := bind_eq_ok_iff.1 h
    dsimp only at h₂ h₃ h
    split at h
    · rename_i h₄
      cases h
      exact ⟨left, s₁, operator, s₂, right, s₃, h₁, h₂, h₃, h₄, rfl⟩
    · cases h
  · rintro ⟨left, s₁, operator, s₂, right, s₃, h₁, h₂, h₃, h₄, rfl⟩
    refine bind_eq_ok_iff.2 ⟨_, h₁, bind_eq_ok_iff.2 ⟨_, h₂, bind_eq_ok_iff.2 ⟨_, h₃, ?_⟩⟩⟩
    dsimp only
    rw [h₄]

theorem read_eq_ok_iff {condition : String} {c : Comparison} :
    Comparison.read condition = .ok c ↔ readChars condition.toList = .ok c := by
  rw [Comparison.read]
  exact mapError_eq_ok_iff

/-! ## Layouts -/

/-- The parts of a condition that denotes a comparison. -/
structure Layout where
  /-- The blanks in front. -/
  lead : String
  /-- The text between the first two apostrophes. -/
  left : String
  /-- The blanks in front of the operator. -/
  before : String
  operator : Operator
  /-- The blanks behind the operator. -/
  after : String
  /-- The text between the last two apostrophes. -/
  right : String
  /-- The blanks at the end. -/
  trail : String
  lead_blank : allBlank lead = true
  before_blank : allBlank before = true
  after_blank : allBlank after = true
  trail_blank : allBlank trail = true
  left_plain : '\'' ∉ left.toList
  right_plain : '\'' ∉ right.toList

namespace Layout

/-- The condition that is laid out so. -/
def text (l : Layout) : String :=
  l.lead ++ "'" ++ l.left ++ "'" ++ l.before ++ l.operator.written ++ l.after ++ "'" ++ l.right ++
    "'" ++ l.trail

/-- The comparison that is laid out so: the fragments of the quoted texts and the operator. -/
def comparison (l : Layout) : Comparison :=
  ⟨Fragment.split l.left, l.operator, Fragment.split l.right⟩

/-- What stands behind the operator. -/
def behindOperator (l : Layout) : List Char :=
  l.after.toList ++ '\'' :: (l.right.toList ++ '\'' :: l.trail.toList)

/-- What stands behind the first quoted text. -/
def behindLeft (l : Layout) : List Char :=
  l.before.toList ++ (l.operator.written.toList ++ l.behindOperator)

theorem toList_text (l : Layout) :
    l.text.toList = l.lead.toList ++ '\'' :: (l.left.toList ++ '\'' :: l.behindLeft) := by
  simp [text, behindLeft, behindOperator]

theorem bare_quote (s : List Char) : Bare ('\'' :: s) :=
  bare_cons (by decide) s

theorem bare_written (operator : Operator) (s : List Char) :
    Bare (operator.written.toList ++ s) := by
  cases operator <;> exact bare_cons (by decide) _

/-- **A layout is read** as what it says. -/
theorem readChars_text (l : Layout) : readChars l.text.toList = .ok l.comparison := by
  rw [readChars_eq_ok_iff, toList_text]
  refine ⟨l.left.toList, l.behindLeft, l.operator, l.behindOperator, l.right.toList,
    l.trail.toList, ?_, ?_, ?_, ?_, ?_⟩
  · rw [dropBlanks_append (blank_of_allBlank l.lead_blank), dropBlanks_of_bare (bare_quote _)]
    exact readQuoted_eq_ok_iff.2 ⟨l.left_plain, rfl⟩
  · rw [behindLeft, dropBlanks_append (blank_of_allBlank l.before_blank),
      dropBlanks_of_bare (bare_written _ _)]
    exact readOperator_eq_ok_iff.2 rfl
  · rw [behindOperator, dropBlanks_append (blank_of_allBlank l.after_blank),
      dropBlanks_of_bare (bare_quote _)]
    exact readQuoted_eq_ok_iff.2 ⟨l.right_plain, rfl⟩
  · exact List.dropWhile_eq_nil_iff.2 (blank_of_allBlank l.trail_blank)
  · rw [String.ofList_toList, String.ofList_toList, comparison]

/-- **What is read has a layout.** -/
theorem exists_of_readChars {condition : String} {c : Comparison}
    (h : readChars condition.toList = .ok c) :
    ∃ l : Layout, l.text = condition ∧ l.comparison = c := by
  obtain ⟨left, s₁, operator, s₂, right, s₃, h₁, h₂, h₃, h₄, rfl⟩ := readChars_eq_ok_iff.1 h
  obtain ⟨hleft, h₁⟩ := readQuoted_eq_ok_iff.1 h₁
  obtain ⟨hright, h₃⟩ := readQuoted_eq_ok_iff.1 h₃
  obtain ⟨lead, hlead, hs⟩ := exists_allBlank_append h₁
  obtain ⟨before, hbefore, rfl⟩ := exists_allBlank_append (readOperator_eq_ok_iff.1 h₂)
  obtain ⟨after, hafter, rfl⟩ := exists_allBlank_append h₃
  obtain ⟨trail, htrail, rfl⟩ := exists_allBlank_append h₄
  let l : Layout :=
    { lead, left := .ofList left, before, operator, after, right := .ofList right, trail
      lead_blank := hlead, before_blank := hbefore, after_blank := hafter, trail_blank := htrail
      left_plain := by simpa using hleft, right_plain := by simpa using hright }
  refine ⟨l, String.toList_inj.1 ?_, rfl⟩
  rw [hs, toList_text]
  simp [l, behindLeft, behindOperator]

/-- **A condition has one layout at most**: from the left, each part ends where the next one can
begin, and nowhere else. -/
theorem text_injective : Function.Injective Layout.text := by
  intro l l' h
  have h := congrArg String.toList h
  rw [toList_text, toList_text] at h
  obtain ⟨hlead, h⟩ := append_inj_of_blank (blank_of_allBlank l.lead_blank)
    (blank_of_allBlank l'.lead_blank) (bare_quote _) (bare_quote _) h
  obtain ⟨hleft, h⟩ := append_cons_inj_of_not_mem l.left_plain l'.left_plain (List.cons.inj h).2
  obtain ⟨hbefore, h⟩ := append_inj_of_blank (blank_of_allBlank l.before_blank)
    (blank_of_allBlank l'.before_blank) (bare_written _ _) (bare_written _ _) h
  obtain ⟨hoperator, h⟩ := written_append_inj h
  obtain ⟨hafter, h⟩ := append_inj_of_blank (blank_of_allBlank l.after_blank)
    (blank_of_allBlank l'.after_blank) (bare_quote _) (bare_quote _) h
  obtain ⟨hright, htrail⟩ :=
    append_cons_inj_of_not_mem l.right_plain l'.right_plain (List.cons.inj h).2
  rw [String.toList_inj] at hlead hleft hbefore hafter hright htrail
  -- the other parts of a layout are proofs
  cases l
  cases l'
  simp_all

end Layout

/-- **A condition denotes a comparison exactly if it is laid out as one**, and then the one of its
layout. No condition has two layouts. -/
theorem read_eq_ok_iff_layout :
    (∀ condition c, Comparison.read condition = .ok c ↔
      ∃ l : Layout, l.text = condition ∧ l.comparison = c) ∧
    Function.Injective Layout.text := by
  refine ⟨fun condition c => ?_, Layout.text_injective⟩
  rw [read_eq_ok_iff]
  constructor
  · exact Layout.exists_of_readChars
  · rintro ⟨l, rfl, rfl⟩
    exact l.readChars_text

/-- Operators and blanks inside the quoted texts, and blanks of several kinds around them. -/
example : Comparison.read "\t' == '\n!='$(A)!= '" =
    .ok ⟨[.literal " == "], .notEqual, [.reference "A", .literal "!= "]⟩ := by
  rfl

end Comparison

end TypeScriptBuild
