import TypeScriptBuild.Dictionary
import TypeScriptBuild.Node

/-!
# Nodes that are built up

A node grows by its children, one after the other, each behind the others of its tag. However the
tags are interleaved, a tag ends with the children that were pushed under it, in their order, and
nothing else about the node depends on them.

* `Node.pushAll`: a node with more children.
* `Node.under_pushAll`: what stands under a tag.
* `Node.pushAll_congr`: children that agree tag by tag make the same node.
* `Node.assemble_eq_iff`: when two assembled nodes are equal.
-/

namespace TypeScriptBuild

open Dictionary

namespace Node

variable {n : Node} {children children' : List (String × Node)}

/-- A node with more children, pushed one after the other. -/
def pushAll (n : Node) (children : List (String × Node)) : Node :=
  children.foldl (fun n child => n.push child.1 child.2) n

theorem pushAll_cons (n : Node) (child : String × Node) (children : List (String × Node)) :
    n.pushAll (child :: children) = (n.push child.1 child.2).pushAll children :=
  rfl

@[simp] theorem attributes_pushAll (n : Node) (children : List (String × Node)) :
    (n.pushAll children).attributes = n.attributes := by
  induction children generalizing n with
  | nil => rfl
  | cons child children ih => exact ih (n.push child.1 child.2)

@[simp] theorem text_pushAll (n : Node) (children : List (String × Node)) :
    (n.pushAll children).text = n.text := by
  induction children generalizing n with
  | nil => rfl
  | cons child children ih => exact ih (n.push child.1 child.2)

theorem ordered_children_pushAll (h : Ordered n.children) (children : List (String × Node)) :
    Ordered (n.pushAll children).children := by
  induction children generalizing n with
  | nil => exact h
  | cons child children ih => exact ih (ordered_insert child.1 _ h)

/-- A tag has its earlier children and then those pushed under it. -/
theorem under_pushAll (n : Node) (children : List (String × Node)) (tag : String) :
    (n.pushAll children).under tag = n.under tag ++ valuesAt tag children := by
  induction children generalizing n with
  | nil => exact (List.append_nil _).symm
  | cons child children ih =>
    obtain ⟨t, c⟩ := child
    rw [pushAll_cons, ih]
    by_cases ht : t = tag
    · subst ht
      rw [under_push_self, valuesAt_cons_self, List.append_assoc]
      rfl
    · rw [under_push_of_ne (Ne.symm ht), valuesAt_cons_of_ne ht]

/-- What a tag holds with one more node behind what it holds already, if anything. -/
def hold (held : Option (Occurrences Node)) (child : Node) : Option (Occurrences Node) :=
  match held with
  | some o => some (o.add child)
  | none => some (.single child)

theorem lookup_children_push (n : Node) (tag : String) (child : Node) (other : String) :
    (n.push tag child).children.lookup other =
      if other = tag then hold (n.children.lookup tag) child else n.children.lookup other := by
  rw [push]
  by_cases h : other = tag
  · subst h
    rw [lookup_insert_self, if_pos rfl]
    cases n.children.lookup other <;> rfl
  · rw [lookup_insert_of_ne h, if_neg h]

/-- What a tag holds depends on the children pushed under it and on no others. -/
theorem lookup_children_pushAll (n : Node) (children : List (String × Node)) (tag : String) :
    (n.pushAll children).children.lookup tag =
      (valuesAt tag children).foldl hold (n.children.lookup tag) := by
  induction children generalizing n with
  | nil => rfl
  | cons child children ih =>
    obtain ⟨t, c⟩ := child
    rw [pushAll_cons, ih, lookup_children_push]
    by_cases ht : t = tag
    · subst ht
      rw [if_pos rfl, valuesAt_cons_self, List.foldl_cons]
    · rw [if_neg (Ne.symm ht), valuesAt_cons_of_ne ht]

theorem eq_of_fields {n n' : Node} (hattributes : n.attributes = n'.attributes)
    (htext : n.text = n'.text) (hchildren : n.children = n'.children) : n = n' := by
  cases n
  cases n'
  simp_all

/-- **Children that agree tag by tag make the same node**, however the tags are interleaved. -/
theorem pushAll_congr (hn : Ordered n.children)
    (h : ∀ tag, valuesAt tag children = valuesAt tag children') :
    n.pushAll children = n.pushAll children' := by
  refine eq_of_fields (by simp) (by simp) ?_
  refine eq_of_lookup (ordered_children_pushAll hn _) (ordered_children_pushAll hn _) fun tag => ?_
  rw [lookup_children_pushAll, lookup_children_pushAll, h]

/-! ## Assembled nodes -/

end Node

/-- An attribute as an entry under its local name. -/
def Xml.Attribute.entry (a : Xml.Attribute) : String × String :=
  (a.name.stem, a.value)

namespace Node

variable {attributes attributes' : List Xml.Attribute} {text text' : Option String}
  {children children' : List (String × Node)}

theorem foldl_setAttribute (attributes : List Xml.Attribute) (n : Node) :
    attributes.foldl (fun n a => n.setAttribute a.name.stem a.value) n =
      { n with attributes := insertAll (attributes.map Xml.Attribute.entry) n.attributes } := by
  induction attributes generalizing n with
  | nil =>
    cases n
    rfl
  | cons a attributes ih => exact ih (n.setAttribute a.name.stem a.value)

/-- An assembled node grows out of its attributes and its text. -/
theorem assemble_eq (attributes : List Xml.Attribute) (text : Option String)
    (children : List (String × Node)) :
    assemble attributes text children =
      pushAll ⟨insertAll (attributes.map Xml.Attribute.entry) [], text, []⟩ children := by
  rw [assemble, foldl_setAttribute]
  rfl

/-- The last attribute of a local name counts. -/
theorem attribute?_assemble (attributes : List Xml.Attribute) (text : Option String)
    (children : List (String × Node)) (name : String) :
    (assemble attributes text children).attribute? name =
      (valuesAt name (attributes.map Xml.Attribute.entry)).getLast? := by
  rw [attribute?, assemble_eq, attributes_pushAll, lookup_insertAll]
  exact Option.or_none

theorem text_assemble (attributes : List Xml.Attribute) (text : Option String)
    (children : List (String × Node)) : (assemble attributes text children).text = text := by
  rw [assemble_eq, text_pushAll]

theorem under_assemble (attributes : List Xml.Attribute) (text : Option String)
    (children : List (String × Node)) (tag : String) :
    (assemble attributes text children).under tag = valuesAt tag children := by
  rw [assemble_eq, under_pushAll]
  rfl

/-- **Assembled nodes are equal** exactly if every attribute, the text and the children under every
tag are. -/
theorem assemble_eq_iff :
    assemble attributes text children = assemble attributes' text' children' ↔
      (∀ name, (valuesAt name (attributes.map Xml.Attribute.entry)).getLast? =
        (valuesAt name (attributes'.map Xml.Attribute.entry)).getLast?) ∧
      text = text' ∧ ∀ tag, valuesAt tag children = valuesAt tag children' := by
  constructor
  · intro h
    refine ⟨fun name => ?_, ?_, fun tag => ?_⟩
    · rw [← attribute?_assemble attributes text children, h, attribute?_assemble]
    · rw [← text_assemble attributes text children, h, text_assemble]
    · rw [← under_assemble attributes text children, h, under_assemble]
  · rintro ⟨hattributes, rfl, hchildren⟩
    have hmap : insertAll (attributes.map Xml.Attribute.entry) [] =
        insertAll (attributes'.map Xml.Attribute.entry) [] := by
      refine eq_of_lookup (ordered_insertAll _ .nil) (ordered_insertAll _ .nil) fun name => ?_
      rw [lookup_insertAll, lookup_insertAll, hattributes]
    rw [assemble_eq, assemble_eq, hmap]
    exact pushAll_congr .nil hchildren

end Node

end TypeScriptBuild
