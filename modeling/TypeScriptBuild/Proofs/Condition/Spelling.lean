import TypeScriptBuild.Condition
import TypeScriptBuild.Proofs.Text.Cut

/-!
# How selections are spelled

Two conditions select a configuration on a platform: one names the configuration alone and one names
both, with a bar between them. No text is a spelling of both kinds, whatever stands in the names,
and a text names one configuration only, as long as no bar stands in its name.

* `Selection.accepts_iff`: a condition applies exactly if it is one of the two, its blanks left out.
* `Selection.spelledAlone_injective`, `Selection.spelledPair_inj`,
  `Selection.spelledAlone_ne_spelledPair`: what two spellings can have in common.
* `Selection.configuration_eq_of_accepts`: a condition applies to one configuration only.
* `Selection.accepts_spelledAlone_iff`, `Selection.accepts_spelledPair_iff`: a selection is selected
  by its own spellings exactly if no blank stands in the names.
-/

namespace TypeScriptBuild

open Text

/-! ## Conditions without their blanks -/

namespace Condition

theorem withoutBlanks_append (s t : String) :
    withoutBlanks (s ++ t) = withoutBlanks s ++ withoutBlanks t := by
  rw [withoutBlanks, String.toList_append, List.filter_append, String.ofList_append, withoutBlanks,
    withoutBlanks]

theorem withoutBlanks_of_allBlank {w : String} (h : allBlank w = true) : withoutBlanks w = "" := by
  have hnone : w.toList.filter (fun c => !isBlank c) = [] := by
    rw [List.filter_eq_nil_iff]
    intro c hc
    simp [blank_of_allBlank h c hc]
  rw [withoutBlanks, hnone]

theorem withoutBlanks_eq_self_iff {s : String} : withoutBlanks s = s ↔ Solid s := by
  rw [← String.toList_inj, withoutBlanks, String.toList_ofList, List.filter_eq_self]
  simp only [Solid, Bool.not_eq_true']

@[simp] theorem withoutBlanks_quote : withoutBlanks "'" = "'" := by
  decide +kernel

@[simp] theorem withoutBlanks_bar : withoutBlanks "|" = "|" := by
  decide +kernel

end Condition

/-! ## The two spellings -/

namespace Selection

/-- The condition that selects by the configuration alone. -/
def spelledAlone (configuration : String) : String :=
  "'$(Configuration)'=='" ++ configuration ++ "'"

/-- The condition that selects by the configuration and the platform. -/
def spelledPair (configuration platform : String) : String :=
  "'$(Configuration)|$(Platform)'=='" ++ configuration ++ "|" ++ platform ++ "'"

/-- **A condition applies** exactly if it is one of the two spellings, its blanks left out. -/
theorem accepts_iff {s : Selection} {condition : String} :
    s.accepts condition = true ↔
      Condition.withoutBlanks condition = spelledAlone s.configuration ∨
        Condition.withoutBlanks condition = spelledPair s.configuration s.platform := by
  rw [accepts, List.contains_iff_mem, spellings, List.mem_cons, List.mem_singleton]
  exact Iff.rfl

theorem spelledAlone_injective : Function.Injective spelledAlone := by
  intro x y h
  unfold spelledAlone at h
  rwa [String.append_left_inj, String.append_right_inj] at h

/-- The first bar ends the configuration, so that it has to be the one between the names. -/
theorem spelledPair_inj {x y a b : String} (hx : '|' ∉ x.toList) (hy : '|' ∉ y.toList)
    (h : spelledPair x a = spelledPair y b) : x = y ∧ a = b := by
  unfold spelledPair at h
  rw [String.append_left_inj] at h
  simp only [String.append_assoc, String.append_right_inj] at h
  have hnames : x.toList ++ '|' :: a.toList = y.toList ++ '|' :: b.toList := by
    simpa using congrArg String.toList h
  obtain ⟨hxy, hab⟩ := append_cons_inj_of_not_mem hx hy hnames
  exact ⟨String.toList_inj.1 hxy, String.toList_inj.1 hab⟩

/-- The variables on the left tell the spellings apart before a name begins. -/
theorem spelledAlone_ne_spelledPair (x y a : String) : spelledAlone x ≠ spelledPair y a := by
  intro h
  unfold spelledAlone spelledPair at h
  have hlist := congrArg String.toList h
  simp at hlist

/-- **A condition applies to one configuration only**, whatever the platforms. -/
theorem configuration_eq_of_accepts {s t : Selection} {condition : String}
    (hs : '|' ∉ s.configuration.toList) (ht : '|' ∉ t.configuration.toList)
    (h : s.accepts condition = true) (h' : t.accepts condition = true) :
    s.configuration = t.configuration := by
  rcases accepts_iff.1 h with h | h <;> rcases accepts_iff.1 h' with h' | h'
  · exact spelledAlone_injective (h.symm.trans h')
  · exact absurd (h.symm.trans h') (spelledAlone_ne_spelledPair _ _ _)
  · exact absurd (h'.symm.trans h) (spelledAlone_ne_spelledPair _ _ _)
  · exact (spelledPair_inj hs ht (h.symm.trans h')).1

/-! ## Selections and their own spellings -/

theorem accepts_congr {s : Selection} {condition condition' : String}
    (h : Condition.withoutBlanks condition = Condition.withoutBlanks condition') :
    s.accepts condition = s.accepts condition' := by
  rw [accepts, accepts, h]

theorem withoutBlanks_spelledAlone (x : String) :
    Condition.withoutBlanks (spelledAlone x) = spelledAlone (Condition.withoutBlanks x) := by
  unfold spelledAlone
  have hfront : Condition.withoutBlanks "'$(Configuration)'=='" = "'$(Configuration)'=='" := by
    decide +kernel
  rw [Condition.withoutBlanks_append, Condition.withoutBlanks_append, hfront,
    Condition.withoutBlanks_quote]

theorem withoutBlanks_pairFront :
    Condition.withoutBlanks "'$(Configuration)|$(Platform)'=='" =
      "'$(Configuration)|$(Platform)'=='" := by
  decide +kernel

theorem withoutBlanks_spelledPair (x a : String) :
    Condition.withoutBlanks (spelledPair x a) =
      spelledPair (Condition.withoutBlanks x) (Condition.withoutBlanks a) := by
  unfold spelledPair
  simp only [Condition.withoutBlanks_append, withoutBlanks_pairFront,
    Condition.withoutBlanks_bar, Condition.withoutBlanks_quote]

/-- A blank in a name is left out of the condition but not of the spelling. -/
theorem accepts_spelledAlone_iff {s : Selection} :
    s.accepts (spelledAlone s.configuration) = true ↔ Solid s.configuration := by
  rw [accepts_iff, withoutBlanks_spelledAlone, spelledAlone_injective.eq_iff,
    Condition.withoutBlanks_eq_self_iff]
  exact or_iff_left (spelledAlone_ne_spelledPair _ _ _)

theorem solid_spelledPair_iff {x a : String} :
    Solid (spelledPair x a) ↔ Solid x ∧ Solid a := by
  unfold spelledPair
  have hfront := Condition.withoutBlanks_eq_self_iff.1 withoutBlanks_pairFront
  have hbar := Condition.withoutBlanks_eq_self_iff.1 Condition.withoutBlanks_bar
  have hquote := Condition.withoutBlanks_eq_self_iff.1 Condition.withoutBlanks_quote
  simp only [solid_append_iff, hfront, hbar, hquote, true_and, and_true]

theorem accepts_spelledPair_iff {s : Selection} :
    s.accepts (spelledPair s.configuration s.platform) = true ↔
      Solid s.configuration ∧ Solid s.platform := by
  rw [accepts_iff, Condition.withoutBlanks_eq_self_iff, solid_spelledPair_iff,
    withoutBlanks_spelledPair]
  exact or_iff_right (spelledAlone_ne_spelledPair _ _ _).symm

/-- With a bar in its name a configuration shares a condition with another one. -/
example : (⟨"A|B", "C"⟩ : Selection).accepts "'$(Configuration)|$(Platform)' == 'A|B|C'" = true ∧
    (⟨"A", "B|C"⟩ : Selection).accepts "'$(Configuration)|$(Platform)' == 'A|B|C'" = true := by
  decide +kernel

end Selection

end TypeScriptBuild
