import TypeScriptBuild.Dictionary
import TypeScriptBuild.Text.Basic
import TypeScriptBuild.Xml.Reader

/-!
# Nodes

The view of an XML element from which settings are read. A node has attributes by local name, a
text, and its child nodes grouped by tag: a tag that occurs once holds a single node, a tag that
occurs more often the list of its nodes in document order. Readers of a tree never look at that
difference; they ask for the list of nodes under a tag.

A file is read as a node too: it has no attributes and no text, and its only child is the root
element, under the root element's tag.

* `Occurrences`, `Node`: the types, with decidable equality.
* `Node.under`: the children of a tag, in order; `Node.child?` is the first of them.
* `Node.attribute?`, `Node.textOrEmpty`, `Node.childText?`: what a node says.
* `Node.setAttribute`, `Node.setText`, `Node.push`: a node built up.
* `Xml.Item.effectiveText`: the text that a content amounts to.
* `Node.assemble`: a node from its attributes, text and children in document order.
* `Node.ofItems`: the children of a node, tagged, from a content.
* `Node.ofDocument`: the node of a file.
-/

namespace TypeScriptBuild

open Text

/-- What a tag holds: one node, or a list of them. -/
inductive Occurrences (α : Type) where
  | single (a : α)
  | many (as : List α)
  deriving Repr

/-- What a tag holds, as a list. -/
def Occurrences.toList {α : Type} : Occurrences α → List α
  | .single a => [a]
  | .many as => as

/-- One more at the end: the second occurrence turns a single one into a list. -/
def Occurrences.add {α : Type} : Occurrences α → α → Occurrences α
  | .single a, b => .many [a, b]
  | .many as, b => .many (as ++ [b])

@[simp] theorem Occurrences.toList_add {α : Type} (o : Occurrences α) (a : α) :
    (o.add a).toList = o.toList ++ [a] := by
  cases o <;> rfl

/-- An element's attributes, text and children; attributes and tags stand in order. -/
structure Node where
  attributes : List (String × String) := []
  text : Option String := none
  children : List (String × Occurrences Node) := []

namespace Node

instance : Inhabited Node := ⟨{}⟩

/-! ## Equality -/

mutual

/-- Whether two nodes are equal. -/
def same : Node → Node → Bool
  | ⟨a, t, c⟩, ⟨a', t', c'⟩ => a == a' && t == t' && sameEntries c c'
termination_by structural n => n

/-- Whether two lists of tags with their nodes are equal. -/
def sameEntries : List (String × Occurrences Node) → List (String × Occurrences Node) → Bool
  | [], [] => true
  | (k, o) :: es, (k', o') :: es' => k == k' && sameOccurrences o o' && sameEntries es es'
  | _, _ => false
termination_by structural es => es

/-- Whether two tags hold the same. -/
def sameOccurrences : Occurrences Node → Occurrences Node → Bool
  | .single n, .single n' => same n n'
  | .many ns, .many ns' => sameNodes ns ns'
  | _, _ => false
termination_by structural o => o

/-- Whether two lists of nodes are equal. -/
def sameNodes : List Node → List Node → Bool
  | [], [] => true
  | n :: ns, n' :: ns' => same n n' && sameNodes ns ns'
  | _, _ => false
termination_by structural ns => ns

end

mutual

theorem same_iff : ∀ n n' : Node, same n n' = true ↔ n = n'
  | ⟨a, t, c⟩, ⟨a', t', c'⟩ => by
    simp only [same, Bool.and_eq_true, beq_iff_eq, sameEntries_iff c c', Node.mk.injEq, and_assoc]

theorem sameEntries_iff : ∀ es es' : List (String × Occurrences Node),
    sameEntries es es' = true ↔ es = es'
  | [], [] => by simp [sameEntries]
  | [], _ :: _ => by simp [sameEntries]
  | _ :: _, [] => by simp [sameEntries]
  | (k, o) :: es, (k', o') :: es' => by
    simp only [sameEntries, Bool.and_eq_true, beq_iff_eq, sameOccurrences_iff o o',
      sameEntries_iff es es', List.cons.injEq, Prod.mk.injEq]

theorem sameOccurrences_iff : ∀ o o' : Occurrences Node, sameOccurrences o o' = true ↔ o = o'
  | .single n, .single n' => by
    simp only [sameOccurrences, same_iff n n', Occurrences.single.injEq]
  | .many ns, .many ns' => by
    simp only [sameOccurrences, sameNodes_iff ns ns', Occurrences.many.injEq]
  | .single _, .many _ => by simp [sameOccurrences]
  | .many _, .single _ => by simp [sameOccurrences]

theorem sameNodes_iff : ∀ ns ns' : List Node, sameNodes ns ns' = true ↔ ns = ns'
  | [], [] => by simp [sameNodes]
  | [], _ :: _ => by simp [sameNodes]
  | _ :: _, [] => by simp [sameNodes]
  | n :: ns, n' :: ns' => by
    simp only [sameNodes, Bool.and_eq_true, same_iff n n', sameNodes_iff ns ns', List.cons.injEq]

end

instance : DecidableEq Node := fun n n' => decidable_of_iff _ (same_iff n n')

/-! ## What a node says -/

/-- The children that stand under `tag`, in document order. -/
def under (n : Node) (tag : String) : List Node :=
  match n.children.lookup tag with
  | some o => o.toList
  | none => []

/-- The first child under `tag`. -/
def child? (n : Node) (tag : String) : Option Node :=
  (n.under tag).head?

/-- The value of an attribute. -/
def attribute? (n : Node) (name : String) : Option String :=
  n.attributes.lookup name

/-- The text; an element without one reads as empty. -/
def textOrEmpty (n : Node) : String :=
  n.text.getD ""

/-- The text of the first child under `tag`, if there is one. -/
def childText? (n : Node) (tag : String) : Option String :=
  (n.child? tag).map textOrEmpty

theorem childText?_of_under_nil {n : Node} {tag : String} (h : n.under tag = []) :
    n.childText? tag = none := by
  rw [childText?, child?, h]
  rfl

theorem childText?_of_under_cons {n : Node} {tag : String} {child : Node} {others : List Node}
    (h : n.under tag = child :: others) : n.childText? tag = some child.textOrEmpty := by
  rw [childText?, child?, h]
  rfl

/-! ## Building a node -/

/-- The node with an attribute set; an earlier value of it is replaced. -/
def setAttribute (n : Node) (name value : String) : Node :=
  { n with attributes := Dictionary.insert name value n.attributes }

/-- The node with its text set. -/
def setText (n : Node) (text : String) : Node :=
  { n with text := some text }

/-- The node with one more child under `tag`, behind the ones it has there. -/
def push (n : Node) (tag : String) (child : Node) : Node :=
  let held := match n.children.lookup tag with
    | some o => o.add child
    | none => .single child
  { n with children := Dictionary.insert tag held n.children }

@[simp] theorem under_push_self (n : Node) (tag : String) (child : Node) :
    (n.push tag child).under tag = n.under tag ++ [child] := by
  unfold push under
  rw [Dictionary.lookup_insert_self]
  cases n.children.lookup tag with
  | none => rfl
  | some o => exact Occurrences.toList_add o child

theorem under_push_of_ne {tag other : String} (h : other ≠ tag) (n : Node) (child : Node) :
    (n.push tag child).under other = n.under other := by
  unfold push under
  rw [Dictionary.lookup_insert_of_ne h]

end Node

/-!
## The node of a document

How an element is seen as a node. Attributes and tags are kept by their local names, the later of
two attributes with one local name standing. Comments and processing instructions leave no trace:
the text of a node is all the text directly inside the element, joined. Indentation is no text, so
blanks alone do not count beside child elements.
-/

/-- The text that a content amounts to, if any. -/
def Xml.Item.effectiveText (content : List Xml.Item) : Option String :=
  let joined := String.join (Xml.Item.texts content)
  if joined = "" then none
  else if Xml.Item.hasElement content && allBlank joined then none
  else some joined

namespace Node

/-- The node with the given attributes, text and children, each in document order. -/
def assemble (attributes : List Xml.Attribute) (text : Option String)
    (children : List (String × Node)) : Node :=
  let bare := attributes.foldl (fun n a => n.setAttribute a.name.stem a.value) { text := text }
  children.foldl (fun n child => n.push child.1 child.2) bare

mutual

/-- An element as a node under its tag; other content is no node. -/
def ofItem? : Xml.Item → Option (String × Node)
  | .element name attributes content =>
    some (name.stem, assemble attributes (Xml.Item.effectiveText content) (ofItems content))
  | _ => none

/-- The elements of a content as nodes under their tags, in document order. -/
def ofItems : List Xml.Item → List (String × Node)
  | [] => []
  | item :: items =>
    match ofItem? item with
    | some child => child :: ofItems items
    | none => ofItems items

end

/-- The node of a file, whose only child is the root element. -/
def ofDocument (d : Xml.Document) : Node :=
  ({} : Node).push d.name.stem
    (assemble d.attributes (Xml.Item.effectiveText d.content) (ofItems d.content))

end Node

end TypeScriptBuild
