import TypeScriptBuild.Project
import TypeScriptBuild.Proofs.Condition.Binding
import TypeScriptBuild.Proofs.Condition.Layout
import TypeScriptBuild.Proofs.Condition.Spelling
import TypeScriptBuild.Proofs.Fragment

/-!
# The two views of a condition

A condition is looked at in two ways. To list the targets of a project it is read as a comparison,
whose right side is cut at its bars and trimmed; to see if it applies to a selection its blanks are
left out, and it is compared with the spellings of the selection. The two views agree on a target
exactly if no blank stands inside its names: a target with such a name is listed, but the group that
declares it does not apply to it.

* `Comparison.literalText?_split`: only a text without references counts as a value.
* `Selection.Carries`: a selection is a target that is bound.
* `Comparison.accepts_iff_solid`: the condition that binds a target, and every group under it,
  applies to the target exactly if no blank stands in its names.
* `Comparison.spacedTarget_not_accepted`: a target to which its own condition does not apply.
-/

namespace TypeScriptBuild

open Text

namespace Comparison

/-! ## Values -/

/-- **Only a text without references counts as a value**, and it is not changed. -/
theorem literalText?_split {s : String} {t : List Char}
    (h : literalText? (Fragment.split s) = some t) : t = s.toList := by
  obtain ⟨hnone, rfl⟩ := literalText?_eq_some_iff.1 h
  have hscan : Fragment.Scan s.toList (Fragment.split s) := Fragment.scan_iff_split_eq.2 rfl
  generalize s.toList = cs at hscan
  generalize Fragment.split s = fs at hscan hnone
  cases hscan with
  | text hlit => exact Fragment.toList_writtenAll_ofText _
  | unclosed hlit hname => exact absurd (List.mem_append_right _ List.mem_cons_self) (hnone _)
  | closed hlit hname hrest => exact absurd (List.mem_append_right _ List.mem_cons_self) (hnone _)

/-- Trimming a value leaves out none of its characters but blanks. -/
theorem withoutBlanks_trim (piece : List Char) :
    Condition.withoutBlanks (.ofList (trim piece)) = Condition.withoutBlanks (.ofList piece) := by
  simp only [Condition.withoutBlanks, String.toList_ofList, filter_trim]

theorem withoutBlanks_of_values_singleton {text : String} {x : String}
    (h : values text.toList = [x]) :
    Condition.withoutBlanks text = Condition.withoutBlanks x := by
  obtain ⟨piece, hsplit, rfl⟩ := List.map_eq_singleton_iff.1 h
  have htext : ['|'].intercalate (text.toList.splitOn '|') = text.toList :=
    List.intercalate_splitOn '|'
  rw [hsplit, List.intercalate_singleton] at htext
  rw [withoutBlanks_trim, htext, String.ofList_toList]

theorem withoutBlanks_of_values_pair {text : String} {x y : String}
    (h : values text.toList = [x, y]) :
    Condition.withoutBlanks text =
      Condition.withoutBlanks x ++ "|" ++ Condition.withoutBlanks y := by
  obtain ⟨piece, pieces, hsplit, rfl, hrest⟩ := List.map_eq_cons_iff.1 h
  obtain ⟨piece', rfl, rfl⟩ := List.map_eq_singleton_iff.1 hrest
  have htext : ['|'].intercalate (text.toList.splitOn '|') = text.toList :=
    List.intercalate_splitOn '|'
  rw [hsplit, List.intercalate_cons_cons, List.intercalate_singleton] at htext
  have hpieces : text = .ofList piece ++ "|" ++ .ofList piece' := by
    rw [← String.toList_inj, ← htext]
    simp
  rw [withoutBlanks_trim, withoutBlanks_trim, hpieces, Condition.withoutBlanks_append,
    Condition.withoutBlanks_append, Condition.withoutBlanks_bar]

/-! ## Conditions that declare targets -/

namespace Layout

variable {l : Layout}

/-- A condition without its blanks: those around its parts and those in the quoted texts. -/
theorem withoutBlanks_text (l : Layout) :
    Condition.withoutBlanks l.text =
      "'" ++ Condition.withoutBlanks l.left ++ "'" ++ l.operator.written ++ "'" ++
        Condition.withoutBlanks l.right ++ "'" := by
  have hwritten : Condition.withoutBlanks l.operator.written = l.operator.written := by
    cases l.operator <;> decide +kernel
  simp only [text, Condition.withoutBlanks_append, Condition.withoutBlanks_quote, hwritten,
    Condition.withoutBlanks_of_allBlank l.lead_blank,
    Condition.withoutBlanks_of_allBlank l.before_blank,
    Condition.withoutBlanks_of_allBlank l.after_blank,
    Condition.withoutBlanks_of_allBlank l.trail_blank, String.append_empty, String.empty_append]

/-- On the left stands the configuration alone. -/
def NamesAlone (l : Layout) : Prop :=
  l.left = "$(Configuration)"

/-- On the left stand the configuration and the platform. -/
def NamesPair (l : Layout) : Prop :=
  l.left = "$(Configuration)|$(Platform)"

theorem names?_of_namesAlone (h : l.NamesAlone) :
    names? (significant l.comparison.left) = some ["Configuration"] := by
  rw [comparison, h]
  dsimp only
  decide +kernel

theorem names?_of_namesPair (h : l.NamesPair) :
    names? (significant l.comparison.left) = some ["Configuration", "Platform"] := by
  rw [comparison, h]
  dsimp only
  decide +kernel

/-- The text on the right has the values that are bound. -/
theorem values_of_bindings {ns : List String} {bs : List (String × String)}
    (hn : names? (significant l.comparison.left) = some ns)
    (h : l.comparison.bindings? = some bs) :
    l.operator = .equal ∧ ns.length = bs.length ∧ values l.right.toList = bs.map Prod.snd := by
  obtain ⟨hop, ns', text, hn', ht, -, hlen, rfl⟩ := bindings?_eq_some_iff.1 h
  cases hn.symm.trans hn'
  have htext : text = l.right.toList := literalText?_split ht
  subst htext
  refine ⟨hop, ?_, ?_⟩
  · rw [List.length_zip, ← hlen, Nat.min_self]
  · exact (List.map_snd_zip hlen.ge).symm

/-- A condition that binds the configuration alone is the spelling of it, up to blanks. -/
theorem withoutBlanks_text_alone {x : String} (hleft : l.NamesAlone)
    (h : l.comparison.bindings? = some [("Configuration", x)]) :
    Condition.withoutBlanks l.text = Condition.withoutBlanks (Selection.spelledAlone x) := by
  obtain ⟨hop, -, hvalues⟩ := values_of_bindings (names?_of_namesAlone hleft) h
  have hfront : "'" ++ Condition.withoutBlanks "$(Configuration)" ++ "'" ++
      Operator.equal.written ++ "'" = "'$(Configuration)'=='" := by
    decide +kernel
  rw [withoutBlanks_text, hop, hleft, hfront, withoutBlanks_of_values_singleton hvalues,
    Selection.withoutBlanks_spelledAlone]
  unfold Selection.spelledAlone
  rfl

/-- A condition that binds both is the spelling of both, up to blanks. -/
theorem withoutBlanks_text_pair {x y : String} (hleft : l.NamesPair)
    (h : l.comparison.bindings? = some [("Configuration", x), ("Platform", y)]) :
    Condition.withoutBlanks l.text = Condition.withoutBlanks (Selection.spelledPair x y) := by
  obtain ⟨hop, -, hvalues⟩ := values_of_bindings (names?_of_namesPair hleft) h
  have hfront : "'" ++ Condition.withoutBlanks "$(Configuration)|$(Platform)" ++ "'" ++
      Operator.equal.written ++ "'" = "'$(Configuration)|$(Platform)'=='" := by
    decide +kernel
  rw [withoutBlanks_text, hop, hleft, hfront, withoutBlanks_of_values_pair hvalues,
    Selection.withoutBlanks_spelledPair]
  unfold Selection.spelledPair
  simp only [String.append_assoc]

/-- As many names stand on the left as values are bound. -/
theorem namesAlone_of_bindings {x : String} (hleft : l.NamesAlone ∨ l.NamesPair)
    (h : l.comparison.bindings? = some [("Configuration", x)]) : l.NamesAlone := by
  refine hleft.resolve_right fun hpair => ?_
  have hlen := (values_of_bindings (names?_of_namesPair hpair) h).2.1
  cases hlen

theorem namesPair_of_bindings {x y : String} (hleft : l.NamesAlone ∨ l.NamesPair)
    (h : l.comparison.bindings? = some [("Configuration", x), ("Platform", y)]) : l.NamesPair := by
  refine hleft.resolve_left fun halone => ?_
  have hlen := (values_of_bindings (names?_of_namesAlone halone) h).2.1
  cases hlen

end Layout

end Comparison

/-- A selection has the values that are bound: that of the configuration, and that of the platform
where it is bound too. -/
inductive Selection.Carries (s : Selection) : List (String × String) → Prop
  | alone : Carries s [("Configuration", s.configuration)]
  | pair : Carries s [("Configuration", s.configuration), ("Platform", s.platform)]

namespace Comparison

/-- A target that a condition binds is selected by it exactly if its names hold no blank. -/
theorem Layout.accepts_text_iff {l : Layout} (hleft : l.NamesAlone ∨ l.NamesPair) {s : Selection}
    {bs : List (String × String)} (hs : s.Carries bs) (h : l.comparison.bindings? = some bs) :
    s.accepts l.text = true ↔ ∀ b ∈ bs, Solid b.2 := by
  cases hs with
  | alone =>
    have halone := namesAlone_of_bindings hleft h
    rw [Selection.accepts_congr (withoutBlanks_text_alone halone h),
      Selection.accepts_spelledAlone_iff, List.forall_mem_singleton]
  | pair =>
    have hpair := namesPair_of_bindings hleft h
    rw [Selection.accepts_congr (withoutBlanks_text_pair hpair h),
      Selection.accepts_spelledPair_iff, List.forall_mem_cons, List.forall_mem_singleton]

/-- A group that binds anything does so by its condition. -/
theorem bindings?_of_groupBindings {group : Node} {condition : String} {c : Comparison}
    (hgroup : group.attribute? "Condition" = some condition)
    (hread : Comparison.read condition = .ok c) {s : Selection} {bs : List (String × String)}
    (hs : s.Carries bs) (h : Project.groupBindings group = bs) : c.bindings? = some bs := by
  rw [Project.groupBindings, hgroup, Option.map_some, hread] at h
  dsimp only at h
  cases hb : c.bindings? with
  | some bs' =>
    rw [hb] at h
    exact congrArg some h
  | none =>
    rw [hb] at h
    subst h
    cases hs

/-- **A declared target is selected exactly if its names hold no blank**, by the condition and by
every group under it. The condition is one whose left side names the configuration, alone or with
the platform, and nothing else. -/
theorem accepts_iff_solid (condition : String) (c : Comparison)
    (hread : Comparison.read condition = .ok c) (l : Layout) (htext : l.text = condition)
    (hleft : l.left = "$(Configuration)" ∨ l.left = "$(Configuration)|$(Platform)")
    (s : Selection) (bs : List (String × String)) (hs : s.Carries bs) :
    (c.bindings? = some bs → (s.accepts condition = true ↔ ∀ b ∈ bs, Solid b.2)) ∧
    ∀ group : Node, group.attribute? "Condition" = some condition →
      Project.groupBindings group = bs →
        (Project.applies s group = true ↔ ∀ b ∈ bs, Solid b.2) := by
  subst htext
  have hc : l.comparison = c :=
    Except.ok.inj ((read_eq_ok_iff.2 l.readChars_text).symm.trans hread)
  subst hc
  refine ⟨l.accepts_text_iff hleft hs, fun group hgroup hbound => ?_⟩
  have hbindings := bindings?_of_groupBindings hgroup hread hs hbound
  rw [Project.applies, hgroup]
  exact l.accepts_text_iff hleft hs hbindings

/-- A target on a platform whose name holds a blank. -/
def spacedTarget : Layout where
  lead := ""
  left := "$(Configuration)|$(Platform)"
  before := " "
  operator := .equal
  after := " "
  right := "Debug|Any CPU"
  trail := ""
  lead_blank := rfl
  before_blank := rfl
  after_blank := rfl
  trail_blank := rfl
  left_plain := by decide
  right_plain := by decide

/-- It is bound but not selected: the blank is left out of the condition and not of the name. -/
theorem spacedTarget_not_accepted :
    spacedTarget.text = "'$(Configuration)|$(Platform)' == 'Debug|Any CPU'" ∧
      spacedTarget.left = "$(Configuration)|$(Platform)" ∧
      Comparison.read spacedTarget.text = .ok spacedTarget.comparison ∧
      spacedTarget.comparison.bindings? =
        some [("Configuration", "Debug"), ("Platform", "Any CPU")] ∧
      Selection.accepts ⟨"Debug", "Any CPU"⟩ spacedTarget.text = false := by
  decide +kernel

/-- A target with blanks around its names. -/
def paddedTarget : Layout :=
  { spacedTarget with
    lead := "\t"
    lead_blank := rfl
    right := " Debug | x86 "
    right_plain := by decide }

/-- The blanks around the names are left out of both, so that the target is selected. -/
theorem accepts_iff_solid_padded :
    let bs := [("Configuration", "Debug"), ("Platform", "x86")]
    let group := ({} : Node).setAttribute "Condition" paddedTarget.text
    Comparison.read paddedTarget.text = .ok paddedTarget.comparison ∧
      paddedTarget.comparison.bindings? = some bs ∧ Project.groupBindings group = bs ∧
      Selection.accepts ⟨"Debug", "x86"⟩ paddedTarget.text = true ∧
      Project.applies ⟨"Debug", "x86"⟩ group = true := by
  intro bs group
  have hread : Comparison.read paddedTarget.text = .ok paddedTarget.comparison := by decide +kernel
  have hbindings : paddedTarget.comparison.bindings? = some bs := by decide +kernel
  have hgroup : Project.groupBindings group = bs := by decide +kernel
  have hsolid : ∀ b ∈ bs, Solid b.2 := by decide +kernel
  have h := accepts_iff_solid paddedTarget.text paddedTarget.comparison hread paddedTarget rfl
    (Or.inr rfl) ⟨"Debug", "x86"⟩ bs .pair
  exact ⟨hread, hbindings, hgroup, (h.1 hbindings).2 hsolid, (h.2 group rfl hgroup).2 hsolid⟩

end Comparison

end TypeScriptBuild
