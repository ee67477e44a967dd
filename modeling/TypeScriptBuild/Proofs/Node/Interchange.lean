import Mathlib.Data.List.Forall2
import Mathlib.Logic.Relation
import TypeScriptBuild.Node

/-!
# Nodes that cannot be told apart

A tag that occurs once holds its node alone, but it could as well hold a list of one; and a tag that
holds an empty list could as well be missing. Nodes that differ in such ways, at any depth and in
any number of places, are interchangeable. What can be asked of a node has answers that are the same
or again interchangeable.

* `Node.Recast`: one change of this kind, in one place; `Node.Interchangeable`: any number of them,
  in either direction.
* `Node.SeenAlike`: the same attributes and text, and interchangeable children under every tag.
* `Node.Recast.seenAlike`, `Node.Interchangeable.seenAlike`: one change keeps it, and so do many.
-/

namespace TypeScriptBuild

/-- One change in how the nodes under a tag are held, where `R` is a change of a node: a single one
becomes a list, or one of them is changed. -/
inductive Occurrences.Recast {α : Type} (R : α → α → Prop) :
    Occurrences α → Occurrences α → Prop
  | lone (a : α) : Recast R (.single a) (.many [a])
  | single {a b : α} (h : R a b) : Recast R (.single a) (.single b)
  | many {a b : α} (front back : List α) (h : R a b) :
    Recast R (.many (front ++ a :: back)) (.many (front ++ b :: back))

namespace Node

/-- One change in how a node holds its children, at any depth: under one of its tags, or a tag comes
in that holds nothing. -/
inductive Recast : Node → Node → Prop
  | held {attributes : List (String × String)} {text : Option String}
    (before after : List (String × Occurrences Node)) (tag : String) {o o' : Occurrences Node}
    (h : Occurrences.Recast Recast o o') :
    Recast ⟨attributes, text, before ++ (tag, o) :: after⟩
      ⟨attributes, text, before ++ (tag, o') :: after⟩
  | vacant {attributes : List (String × String)} {text : Option String}
    (before after : List (String × Occurrences Node)) (tag : String)
    (h : tag ∉ (before ++ after).map Prod.fst) :
    Recast ⟨attributes, text, before ++ after⟩
      ⟨attributes, text, before ++ (tag, .many []) :: after⟩

/-- Two nodes that differ in how children are held, at any depth and in any number of places. -/
def Interchangeable : Node → Node → Prop :=
  Relation.EqvGen Recast

/-- Two nodes that say the same of themselves and have interchangeable children under every tag. -/
structure SeenAlike (n n' : Node) : Prop where
  attributes : n'.attributes = n.attributes
  text : n'.text = n.text
  under : ∀ tag, List.Forall₂ Interchangeable (n.under tag) (n'.under tag)

variable {n n' : Node}

namespace Interchangeable

theorem refl (n : Node) : Interchangeable n n :=
  Relation.EqvGen.refl n

theorem of_recast (h : Recast n n') : Interchangeable n n' :=
  Relation.EqvGen.rel n n' h

theorem symm (h : Interchangeable n n') : Interchangeable n' n :=
  Relation.EqvGen.symm n n' h

theorem trans {n'' : Node} (h : Interchangeable n n') (h' : Interchangeable n' n'') :
    Interchangeable n n'' :=
  Relation.EqvGen.trans n n' n'' h h'

theorem forall₂_refl (ns : List Node) : List.Forall₂ Interchangeable ns ns :=
  List.forall₂_same.2 fun n _ => refl n

theorem forall₂_trans {ns ns' ns'' : List Node} (h : List.Forall₂ Interchangeable ns ns')
    (h' : List.Forall₂ Interchangeable ns' ns'') : List.Forall₂ Interchangeable ns ns'' := by
  induction h generalizing ns'' with
  | nil => exact h'
  | cons hn _ ih =>
    cases h' with
    | cons hn' hrest => exact .cons (hn.trans hn') (ih hrest)

end Interchangeable

/-! ## One change -/

theorem under_eq_getD (n : Node) (tag : String) :
    n.under tag = ((n.children.lookup tag).map Occurrences.toList).getD [] := by
  rw [under]
  cases n.children.lookup tag <;> rfl

theorem lookup_eq_none {entries : List (String × Occurrences Node)} {tag : String}
    (h : tag ∉ entries.map Prod.fst) : entries.lookup tag = none := by
  rw [List.lookup_eq_none_iff]
  intro e he
  exact bne_iff_ne.2 fun heq => h (heq ▸ List.mem_map_of_mem he)

/-- A change under a tag keeps its nodes, each in its place, but for one that may be changed. -/
theorem forall₂_of_recast {o o' : Occurrences Node} (h : Occurrences.Recast Recast o o') :
    List.Forall₂ Interchangeable o.toList o'.toList := by
  cases h with
  | lone a => exact Interchangeable.forall₂_refl [a]
  | single h => exact .cons (.of_recast h) .nil
  | many front back h =>
    refine List.rel_append (Interchangeable.forall₂_refl front) ?_
    exact .cons (.of_recast h) (Interchangeable.forall₂_refl back)

/-- **One change is not seen** by a question about the node itself. -/
theorem Recast.seenAlike (h : Recast n n') : SeenAlike n n' := by
  cases h with
  | held before after tag h =>
    refine ⟨rfl, rfl, fun other => ?_⟩
    simp only [under_eq_getD, List.lookup_append, List.lookup_cons]
    -- an entry further in front hides the one that is changed
    cases before.lookup other with
    | some o => exact Interchangeable.forall₂_refl _
    | none =>
      cases other == tag with
      | true => exact forall₂_of_recast h
      | false => exact Interchangeable.forall₂_refl _
  | vacant before after tag h =>
    refine ⟨rfl, rfl, fun other => ?_⟩
    simp only [under_eq_getD, List.lookup_append, List.lookup_cons]
    cases hother : other == tag with
    | false => exact Interchangeable.forall₂_refl _
    | true =>
      cases eq_of_beq hother
      rw [List.map_append, List.mem_append, not_or] at h
      -- without its entry the tag is missing, which says the same as the empty list
      rw [lookup_eq_none h.1, lookup_eq_none h.2]
      exact .nil

/-! ## Any number of changes -/

theorem SeenAlike.refl (n : Node) : SeenAlike n n :=
  ⟨rfl, rfl, fun _ => Interchangeable.forall₂_refl _⟩

theorem SeenAlike.symm (h : SeenAlike n n') : SeenAlike n' n :=
  ⟨h.attributes.symm, h.text.symm, fun tag =>
    ((h.under tag).imp fun _ _ hn => Interchangeable.symm hn).flip⟩

theorem SeenAlike.trans {n'' : Node} (h : SeenAlike n n') (h' : SeenAlike n' n'') :
    SeenAlike n n'' :=
  ⟨h'.attributes.trans h.attributes, h'.text.trans h.text, fun tag =>
    Interchangeable.forall₂_trans (h.under tag) (h'.under tag)⟩

/-- **Interchangeable nodes are seen alike**, and so are their children, as these are
interchangeable again. -/
theorem Interchangeable.seenAlike (h : Interchangeable n n') : SeenAlike n n' := by
  induction h with
  | rel n n' h => exact h.seenAlike
  | refl n => exact SeenAlike.refl n
  | symm n n' _ ih => exact ih.symm
  | trans n n' n'' _ _ ih ih' => exact ih.trans ih'

namespace Interchangeable

theorem attribute?_eq (h : Interchangeable n n') (name : String) :
    n'.attribute? name = n.attribute? name := by
  rw [attribute?, attribute?, h.seenAlike.attributes]

theorem textOrEmpty_eq (h : Interchangeable n n') : n'.textOrEmpty = n.textOrEmpty := by
  rw [textOrEmpty, textOrEmpty, h.seenAlike.text]

/-- The first children under a tag are both missing or interchangeable. -/
theorem child?_rel (h : Interchangeable n n') (tag : String) :
    Option.Rel Interchangeable (n.child? tag) (n'.child? tag) := by
  have hunder := h.seenAlike.under tag
  rw [child?, child?]
  generalize n.under tag = ns, n'.under tag = ns' at hunder
  cases hunder with
  | nil => exact .none
  | cons hc _ => exact .some hc

/-- What is read from the first child is read from an interchangeable one, or from none. -/
theorem map_eq_of_rel {α : Type} {found found' : Option Node} {f : Node → α}
    (h : Option.Rel Interchangeable found found')
    (hf : ∀ n n', Interchangeable n n' → f n' = f n) : found'.map f = found.map f := by
  cases h with
  | none => rfl
  | some hn => exact congrArg some (hf _ _ hn)

theorem childText?_eq (h : Interchangeable n n') (tag : String) :
    n'.childText? tag = n.childText? tag :=
  map_eq_of_rel (h.child?_rel tag) fun _ _ hc => hc.textOrEmpty_eq

end Interchangeable

end Node

end TypeScriptBuild
