import TypeScriptBuild.Proofs.Node.Canonical

/-!
# The history of a node

A node is made out of an empty one by edits, in any number and order: an attribute or the text is
set, or a child is pushed under a tag. Of the pushes it keeps, for each tag, the children in the
order in which they came, and nothing of how the tags, or the edits of other kinds, were interleaved
with them.

* `Node.Edit`, `Node.made`: the edits, and what they make; `Node.pushed` lists the children that
  they push.
* `Node.Holds`: a node has the pushed children, in one form; `Node.holds_edit` says that one more
  edit keeps this, and `Node.holds_made` that every history does.
* `Node.pushAll_eq_iff`: pushes make the same node exactly if they agree tag by tag.
* `Node.made_holds_pushed`: what a history leaves under the tags of a node.
-/

namespace TypeScriptBuild.Node

open Dictionary

/-- One edit of a node. -/
inductive Edit where
  | setAttribute (name value : String)
  | setText (text : String)
  | push (tag : String) (child : Node)

/-- A node after an edit. -/
def edit (n : Node) : Edit → Node
  | .setAttribute name value => n.setAttribute name value
  | .setText text => n.setText text
  | .push tag child => n.push tag child

/-- The node that edits make out of an empty one. -/
def made (edits : List Edit) : Node :=
  edits.foldl edit {}

/-- The child that an edit pushes, with its tag. -/
def Edit.pushed? : Edit → Option (String × Node)
  | .setAttribute _ _ => none
  | .setText _ => none
  | .push tag child => some (tag, child)

/-- The children that edits push, each with its tag. -/
def pushed (edits : List Edit) : List (String × Node) :=
  edits.filterMap Edit.pushed?

variable {n child : Node} {children children' : List (String × Node)} {tag other : String}

/-! ## One edit -/

/-- A node has the given children, each under its tag and in this order there; its tags stand in
order, and each of them holds its nodes in the one form for so many. -/
structure Holds (n : Node) (children : List (String × Node)) : Prop where
  ordered : Ordered n.children
  compact : ∀ e ∈ n.children, e.2.Compact
  under : ∀ tag, n.under tag = valuesAt tag children

theorem holds_empty : Holds {} [] :=
  ⟨.nil, fun _ he => absurd he List.not_mem_nil, fun _ => rfl⟩

/-- A push under one tag leaves what the others hold. -/
theorem lookup_children_push_of_ne (h : other ≠ tag) :
    (n.push tag child).children.lookup other = n.children.lookup other := by
  rw [lookup_children_push, if_neg h]

theorem under_push (n : Node) (tag : String) (child : Node) (other : String) :
    (n.push tag child).under other = n.under other ++ valuesAt other [(tag, child)] :=
  under_pushAll n [(tag, child)] other

/-- **One more edit keeps the children in place**, and puts the one that it pushes behind those of
its tag. -/
theorem holds_edit (h : n.Holds children) (e : Edit) :
    (n.edit e).Holds (children ++ e.pushed?.toList) := by
  cases e with
  -- what stands under the tags does not read the attributes or the text
  | setAttribute name value =>
    rw [Edit.pushed?, Option.toList_none, List.append_nil]
    exact ⟨h.ordered, h.compact, h.under⟩
  | setText text =>
    rw [Edit.pushed?, Option.toList_none, List.append_nil]
    exact ⟨h.ordered, h.compact, h.under⟩
  | push tag child =>
    refine ⟨ordered_insert tag _ h.ordered, ?_, fun other => ?_⟩
    · exact forall_children_push h.compact (.single child) (fun o ho => ho.add child) tag
    · rw [edit, under_push, h.under, valuesAt_append]
      rfl

/-! ## Every history -/

theorem holds_edits (h : n.Holds children) (edits : List Edit) :
    (edits.foldl edit n).Holds (children ++ pushed edits) := by
  induction edits generalizing n children with
  | nil => rwa [pushed, List.filterMap_nil, List.append_nil]
  | cons e edits ih =>
    have hpushed : pushed (e :: edits) = e.pushed?.toList ++ pushed edits := by cases e <;> rfl
    rw [hpushed, ← List.append_assoc]
    exact ih (holds_edit h e)

theorem holds_made (edits : List Edit) : (made edits).Holds (pushed edits) :=
  holds_edits holds_empty edits

theorem Holds.lookup_children (h : n.Holds children) (tag : String) :
    n.children.lookup tag = Occurrences.ofList? (valuesAt tag children) := by
  rw [lookup_children_eq_ofList? h.compact, h.under]

theorem Holds.child?_eq (h : n.Holds children) (tag : String) :
    n.child? tag = (valuesAt tag children).head? := by
  rw [child?, h.under]

/-- **Pushes make the same node exactly if they agree tag by tag.** -/
theorem pushAll_eq_iff (hn : Ordered n.children) :
    n.pushAll children = n.pushAll children' ↔
      ∀ tag, valuesAt tag children = valuesAt tag children' := by
  constructor
  · intro h tag
    have hunder := congrArg (fun node : Node => node.under tag) h
    simp only [under_pushAll] at hunder
    exact List.append_cancel_left hunder
  · exact pushAll_congr hn

/-- **A node holds what is pushed**, whatever its history: under each tag the children that were
pushed there, in that order, a single one alone and two or more in a list, and without any there is
no such tag. A push leaves the attributes, the text and all other tags as they are. Two sequences of
pushes to one node, whose tags stand in order as every history leaves them, make the same node
exactly if they agree tag by tag. -/
theorem made_holds_pushed :
    (∀ edits : List Edit, Ordered (made edits).children ∧ ∀ tag,
      (made edits).under tag = valuesAt tag (pushed edits) ∧
      (made edits).children.lookup tag = Occurrences.ofList? (valuesAt tag (pushed edits)) ∧
      (made edits).child? tag = (valuesAt tag (pushed edits)).head?) ∧
    (∀ (n : Node) (tag : String) (child : Node),
      (n.push tag child).attributes = n.attributes ∧ (n.push tag child).text = n.text ∧
      ∀ other, other ≠ tag →
        (n.push tag child).children.lookup other = n.children.lookup other) ∧
    ∀ n : Node, Ordered n.children → ∀ children children' : List (String × Node),
      n.pushAll children = n.pushAll children' ↔
        ∀ tag, valuesAt tag children = valuesAt tag children' := by
  refine ⟨fun edits => ?_, fun n tag child => ?_, fun n hn children children' => ?_⟩
  · have h := holds_made edits
    exact ⟨h.ordered, fun tag => ⟨h.under tag, h.lookup_children tag, h.child?_eq tag⟩⟩
  · exact ⟨rfl, rfl, fun other hne => lookup_children_push_of_ne hne⟩
  · exact pushAll_eq_iff hn

/-- Pushes under two tags may change places, and those under one may not. -/
theorem made_holds_pushed_trial :
    let b : Node := { text := some "b" }
    let c : Node := { text := some "c" }
    let n := made [.push "Import" b, .setText "t", .push "Item" c, .push "Import" c]
    Ordered n.children ∧ n.children.lookup "Import" = some (.many [b, c]) ∧
      n.children.lookup "Item" = some (.single c) ∧ n.child? "Import" = some b ∧
      "Import" ≠ "Item" ∧ (n.push "Item" b).children.lookup "Import" = some (.many [b, c]) ∧
      n.pushAll [("Import", b), ("Item", c)] = n.pushAll [("Item", c), ("Import", b)] ∧
      n.pushAll [("Import", b), ("Import", c)] ≠ n.pushAll [("Import", c), ("Import", b)] := by
  intro b c n
  obtain ⟨hmade, hpush, hpushes⟩ := made_holds_pushed
  obtain ⟨hn, hheld⟩ :=
    hmade [.push "Import" b, .setText "t", .push "Item" c, .push "Import" c]
  have himport : n.children.lookup "Import" = some (.many [b, c]) := (hheld "Import").2.1
  have hne : "Import" ≠ "Item" := by decide
  refine ⟨hn, himport, (hheld "Item").2.1, (hheld "Import").2.2, hne, ?_, ?_, ?_⟩
  · exact ((hpush n "Item" b).2.2 "Import" hne).trans himport
  · refine (hpushes n hn _ _).2 fun tag => ?_
    by_cases htag : "Import" = tag
    · subst htag
      rfl
    · rw [valuesAt_cons_of_ne htag]
      simp [valuesAt, List.filter_cons, htag]
  · intro heq
    have hvalues : [b, c] = [c, b] := (hpushes n hn _ _).1 heq "Import"
    exact absurd hvalues (by decide)

end TypeScriptBuild.Node
