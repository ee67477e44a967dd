import Mathlib.Data.List.Chain
import TypeScriptBuild.Condition
import TypeScriptBuild.Proofs.Fragment

/-!
# What a comparison binds

An equation of variables between bars with values between bars binds each variable to its value. The
values are cut at every bar. The bars between the variables are only passed over: they may as well
be missing, doubled, in front of the first variable or behind the last.

* `Comparison.Equates`: an equation of names with as many pieces of text.
* `Comparison.Strewn`, `Comparison.Separated`: names with bars anywhere, and with one bar between
  neighbours; `Comparison.separated_iff` says when the former are the latter.
* `Comparison.bindings?_eq_some_iff_strewn`: what a comparison binds, and what it binds with its
  bars in place.
* `Comparison.unseparated_bound`: a comparison that binds variables without a bar between them.
-/

namespace TypeScriptBuild

open Text

/-- The name of a reference. -/
def Fragment.name? : Fragment → Option String
  | .literal _ => none
  | .reference name => some name

namespace Comparison

variable {c : Comparison} {fs : List Fragment} {ns : List String} {bs : List (String × String)}

/-- A literal text that separates its neighbours: a bar, with blanks around it or without. -/
def IsBar (s : String) : Prop :=
  trim s.toList = ['|']

/-- No literal text but bars. -/
def BarsOnly (fs : List Fragment) : Prop :=
  ∀ s, .literal s ∈ fs → IsBar s

theorem barsOnly_reference_cons {name : String} :
    BarsOnly (.reference name :: fs) ↔ BarsOnly fs := by
  simp [BarsOnly]

theorem barsOnly_literal_cons {s : String} :
    BarsOnly (.literal s :: fs) ↔ IsBar s ∧ BarsOnly fs := by
  simp only [BarsOnly, List.mem_cons, Fragment.literal.injEq]
  constructor
  · intro h
    exact ⟨h s (Or.inl rfl), fun t ht => h t (Or.inr ht)⟩
  · rintro ⟨hs, h⟩ t (rfl | ht)
    · exact hs
    · exact h t ht

/-! ## The parts of an equation -/

/-- **The names that are read** are those of the references, where no text but bars stands between
them. -/
theorem names?_eq_some_iff :
    names? fs = some ns ↔ fs.filterMap Fragment.name? = ns ∧ BarsOnly fs := by
  induction fs generalizing ns with
  | nil => simp [names?, BarsOnly]
  | cons f fs ih =>
    cases f with
    | reference name =>
      rw [barsOnly_reference_cons, List.filterMap_cons_some (f := Fragment.name?) rfl]
      simp only [names?, Option.map_eq_map, Option.map_eq_some_iff, ih]
      constructor
      · rintro ⟨ns', ⟨rfl, hbars⟩, rfl⟩
        exact ⟨rfl, hbars⟩
      · rintro ⟨rfl, hbars⟩
        exact ⟨_, ⟨rfl, hbars⟩, rfl⟩
    | literal s =>
      rw [barsOnly_literal_cons, List.filterMap_cons_none (f := Fragment.name?) rfl, names?]
      by_cases hbar : trim s.toList = ['|']
      · rw [if_pos hbar, ih]
        exact and_congr_right fun _ => ⟨fun h => ⟨hbar, h⟩, And.right⟩
      · rw [if_neg hbar]
        exact iff_of_false (by simp) fun h => hbar h.2.1

/-- **The text that is read** is all that is written, where there is no reference. -/
theorem literalText?_eq_some_iff {text : List Char} :
    literalText? fs = some text ↔
      (∀ name, .reference name ∉ fs) ∧ (Fragment.writtenAll fs).toList = text := by
  induction fs generalizing text with
  | nil => simp [literalText?, Fragment.writtenAll]
  | cons f fs ih =>
    cases f with
    | reference name =>
      exact iff_of_false (by simp [literalText?]) fun h => h.1 name List.mem_cons_self
    | literal s =>
      have hmem : ∀ name, Fragment.reference name ∈ .literal s :: fs ↔ .reference name ∈ fs := by
        simp
      simp only [literalText?, Option.map_eq_map, Option.map_eq_some_iff, ih, hmem,
        Fragment.toList_writtenAll_cons, Fragment.written]
      constructor
      · rintro ⟨text', ⟨hnone, rfl⟩, rfl⟩
        exact ⟨hnone, rfl⟩
      · rintro ⟨hnone, rfl⟩
        exact ⟨_, ⟨hnone, rfl⟩, rfl⟩

/-- **What a comparison binds**: the names on its left side, as many as there are values. -/
theorem bindings?_eq_some_iff :
    c.bindings? = some bs ↔
      c.operator = .equal ∧ ∃ ns text, names? (significant c.left) = some ns ∧
        literalText? c.right = some text ∧ ns ≠ [] ∧ ns.length = (values text).length ∧
        bs = ns.zip (values text) := by
  rw [bindings?]
  by_cases hop : c.operator = .equal
  · rw [if_pos hop]
    cases hn : names? (significant c.left) with
    | none => simp
    | some ns =>
      cases ht : literalText? c.right with
      | none => simp
      | some text => simp [hop, and_assoc, eq_comm]
  · simp [hop]

/-! ## Bars -/

/-- Names with bars anywhere around them, and no other text. -/
def Strewn (fs : List Fragment) (ns : List String) : Prop :=
  ns ≠ [] ∧ fs.filterMap Fragment.name? = ns ∧ BarsOnly fs

/-- Names with one bar between neighbours, and nothing else. -/
inductive Separated : List Fragment → List String → Prop
  | last (name : String) : Separated [.reference name] [name]
  | more {name bar : String} {fs : List Fragment} {ns : List String} (hbar : IsBar bar)
    (h : Separated fs ns) : Separated (.reference name :: .literal bar :: fs) (name :: ns)

/-- References and literal texts by turns, with a reference at either end. -/
structure Alternating (fs : List Fragment) : Prop where
  first : ∀ f ∈ fs.head?, f.isLiteral = false
  last : ∀ f ∈ fs.getLast?, f.isLiteral = false
  turns : fs.IsChain fun f g => f.isLiteral ≠ g.isLiteral

theorem alternating_singleton (name : String) : Alternating [.reference name] :=
  ⟨by simp [Fragment.isLiteral], by simp [Fragment.isLiteral], .singleton _⟩

theorem alternating_cons_cons {name bar : String} (hne : fs ≠ []) :
    Alternating (.reference name :: .literal bar :: fs) ↔ Alternating fs := by
  have hlast : (Fragment.reference name :: .literal bar :: fs).getLast? = fs.getLast? := by
    rw [List.getLast?_cons_cons, List.getLast?_cons_of_ne_nil hne]
  constructor
  · rintro ⟨-, hend, hturns⟩
    obtain ⟨hhead, hturns⟩ := List.isChain_cons.1 hturns.tail
    refine ⟨fun f hf => ?_, hlast ▸ hend, hturns⟩
    have := hhead f hf
    simpa [Fragment.isLiteral] using this.symm
  · rintro ⟨hfirst, hend, hturns⟩
    refine ⟨by simp [Fragment.isLiteral], hlast ▸ hend, ?_⟩
    refine List.isChain_cons_cons.2 ⟨by simp [Fragment.isLiteral], List.isChain_cons.2 ⟨?_, hturns⟩⟩
    intro f hf
    rw [hfirst f hf]
    simp [Fragment.isLiteral]

theorem Separated.ne_nil (h : Separated fs ns) : fs ≠ [] := by
  cases h <;> exact List.cons_ne_nil _ _

theorem Separated.strewn (h : Separated fs ns) : Strewn fs ns ∧ Alternating fs := by
  induction h with
  | last name =>
    exact ⟨⟨List.cons_ne_nil _ _, rfl, fun s hs => absurd hs (by simp)⟩, alternating_singleton name⟩
  | @more name bar fs ns hbar h ih =>
    obtain ⟨⟨-, rfl, hbars⟩, halt⟩ := ih
    refine ⟨⟨List.cons_ne_nil _ _, rfl, ?_⟩, (alternating_cons_cons h.ne_nil).2 halt⟩
    exact barsOnly_reference_cons.2 (barsOnly_literal_cons.2 ⟨hbar, hbars⟩)

/-- Where bars and names stand by turns, the names are separated. -/
theorem separated_of_alternating :
    ∀ {fs : List Fragment}, fs ≠ [] → BarsOnly fs → Alternating fs →
      Separated fs (fs.filterMap Fragment.name?)
  | [], hne, _, _ => absurd rfl hne
  | .literal _ :: _, _, _, halt => absurd (halt.first _ rfl) (by simp [Fragment.isLiteral])
  | [.reference name], _, _, _ => .last name
  | .reference _ :: .reference _ :: _, _, _, halt =>
    absurd rfl (List.isChain_cons_cons.1 halt.turns).1
  | [.reference _, .literal _], _, _, halt =>
    absurd (halt.last _ rfl) (by simp [Fragment.isLiteral])
  | .reference name :: .literal bar :: f :: fs, _, hbars, halt => by
    obtain ⟨hbar, hbars⟩ := barsOnly_literal_cons.1 (barsOnly_reference_cons.1 hbars)
    have hne : f :: fs ≠ [] := List.cons_ne_nil f fs
    exact .more hbar (separated_of_alternating hne hbars ((alternating_cons_cons hne).1 halt))

/-- **Names are separated** exactly if each bar is in its place. -/
theorem separated_iff : Separated fs ns ↔ Strewn fs ns ∧ Alternating fs := by
  refine ⟨Separated.strewn, ?_⟩
  rintro ⟨⟨hne, rfl, hbars⟩, halt⟩
  refine separated_of_alternating ?_ hbars halt
  rintro rfl
  exact hne rfl

/-! ## Equations -/

/-- A comparison equates names, laid out in a given shape, with the pieces of its right side between
bars, and these are their values. -/
def Equates (shape : List Fragment → List String → Prop) (c : Comparison)
    (bs : List (String × String)) : Prop :=
  c.operator = .equal ∧ ∃ ns pieces, shape (significant c.left) ns ∧
    (∀ name, .reference name ∉ c.right) ∧
    (Fragment.writtenAll c.right).toList.splitOn '|' = pieces ∧ ns.length = pieces.length ∧
    bs = ns.zip (pieces.map fun piece => .ofList (trim piece))

theorem bindings?_eq_some_iff_equates : c.bindings? = some bs ↔ Equates Strewn c bs := by
  rw [bindings?_eq_some_iff]
  refine and_congr_right fun _ => ⟨?_, ?_⟩
  · rintro ⟨ns, text, hnames, htext, hne, hlen, rfl⟩
    obtain ⟨hns, hbars⟩ := names?_eq_some_iff.1 hnames
    obtain ⟨hnone, rfl⟩ := literalText?_eq_some_iff.1 htext
    rw [values, List.length_map] at hlen
    exact ⟨ns, _, ⟨hne, hns, hbars⟩, hnone, rfl, hlen, rfl⟩
  · rintro ⟨ns, pieces, ⟨hne, hns, hbars⟩, hnone, rfl, hlen, rfl⟩
    refine ⟨ns, _, names?_eq_some_iff.2 ⟨hns, hbars⟩, literalText?_eq_some_iff.2 ⟨hnone, rfl⟩, hne,
      ?_, rfl⟩
    rw [values, List.length_map]
    exact hlen

/-- **What a comparison binds**: it is an equation of variables, with bars anywhere around them, and
as many pieces of literal text between bars, and each variable has the trimmed piece at its place.
Those among these comparisons whose variables are separated by their bars are the ones in which
variables and bars stand by turns. -/
theorem bindings?_eq_some_iff_strewn (c : Comparison) (bs : List (String × String)) :
    (c.bindings? = some bs ↔ Equates Strewn c bs) ∧
      (Equates Separated c bs ↔ c.bindings? = some bs ∧ Alternating (significant c.left)) := by
  refine ⟨bindings?_eq_some_iff_equates, ?_⟩
  rw [bindings?_eq_some_iff_equates]
  constructor
  · rintro ⟨hop, ns, pieces, hshape, hvalues⟩
    obtain ⟨hstrewn, halt⟩ := separated_iff.1 hshape
    exact ⟨⟨hop, ns, pieces, hstrewn, hvalues⟩, halt⟩
  · rintro ⟨⟨hop, ns, pieces, hstrewn, hvalues⟩, halt⟩
    exact ⟨hop, ns, pieces, separated_iff.2 ⟨hstrewn, halt⟩, hvalues⟩

/-- Two variables without a bar between them: the equation does not separate them, and still binds
them to the two values. -/
theorem unseparated_bound :
    let c : Comparison := ⟨[.reference "A", .reference "B"], .equal, [.literal "x|y"]⟩
    Comparison.read "'$(A)$(B)' == 'x|y'" = .ok c ∧
      c.bindings? = some [("A", "x"), ("B", "y")] ∧
      ¬ ∃ bs, Equates Separated c bs := by
  intro c
  refine ⟨by decide +kernel, by decide +kernel, ?_⟩
  rintro ⟨bs, -, ns, pieces, hshape, -⟩
  exact absurd rfl (List.isChain_cons_cons.1 (separated_iff.1 hshape).2.turns).1

end Comparison

end TypeScriptBuild
