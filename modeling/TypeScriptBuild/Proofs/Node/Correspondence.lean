import Mathlib.Data.List.Forall2
import TypeScriptBuild.Proofs.Node.Growth

/-!
# What of a document is kept

Of an element the node of a document keeps the last attribute of each local name, the text that the
element counts for, and its child elements name by name. Elements that agree in these correspond, at
every depth, and documents have the same node exactly if their root elements have the same local
name and correspond.

* `Xml.Item.CountsAs`: the text that an element's content counts for.
* `Xml.Document.Corresponds`: correspondence of elements.
* `Node.under_ofElement`, `Node.attribute?_ofElement`: what can be asked of the node of an element.
* `Node.ofElement_eq_iff`: elements give the same node exactly if they correspond.
* `Node.ofDocument_eq_iff`: when two documents have the same node.
-/

namespace TypeScriptBuild

open Text Dictionary

namespace Xml

/-! ## Elements and their texts -/

/-- A piece of content as an element, if it is one. -/
def Item.element? : Item → Option Document
  | .element name attributes content => some ⟨name, attributes, content⟩
  | _ => none

/-- A piece of content as a stretch of text, if it is one. -/
def Item.text? : Item → Option String
  | .text s => some s
  | _ => none

/-- The elements that stand directly in a content, in document order. -/
def Item.elements (content : List Item) : List Document :=
  content.filterMap Item.element?

/-- The elements of a local name that stand directly in a content, in document order. -/
def Item.elementsNamed (stem : String) (content : List Item) : List Document :=
  (elements content).filter fun e => e.name.stem = stem

/-- The value that counts among attributes for a local name, which is that of the last one. -/
def Attribute.lastValue? (stem : String) (attributes : List Attribute) : Option String :=
  (attributes.filter fun a => a.name.stem = stem).getLast?.map Attribute.value

/-- An element counts for a text: the text is all that stands directly in its content, joined; it is
not empty, and it is no indentation, which is blanks alone beside child elements. -/
structure Item.CountsAs (content : List Item) (text : String) : Prop where
  joined : String.join (content.filterMap Item.text?) = text
  ne_empty : text ≠ ""
  not_indentation : Item.elements content ≠ [] → ∃ c ∈ text.toList, isBlank c = false

/-- **Correspondence of elements**: the same values for the attributes of every local name, the same
text that counts, and child elements of every name that correspond one by one. -/
inductive Document.Corresponds : Document → Document → Prop
  | intro {d d' : Document}
    (attributes : ∀ stem,
      Attribute.lastValue? stem d.attributes = Attribute.lastValue? stem d'.attributes)
    (text : ∀ text, Item.CountsAs d.content text ↔ Item.CountsAs d'.content text)
    (elements : ∀ stem, List.Forall₂ Corresponds (Item.elementsNamed stem d.content)
      (Item.elementsNamed stem d'.content)) :
    Corresponds d d'

variable {content content' : List Item} {stem text : String}

@[simp] theorem Item.element?_element (name : Name) (attributes : List Attribute)
    (content : List Item) :
    (Item.element name attributes content).element? = some ⟨name, attributes, content⟩ :=
  rfl

@[simp] theorem Item.element?_text (s : String) : (Item.text s).element? = none :=
  rfl

@[simp] theorem Item.element?_comment (s : String) : (Item.comment s).element? = none :=
  rfl

@[simp] theorem Item.element?_instruction (target : String) :
    (Item.instruction target).element? = none :=
  rfl

theorem Item.elements_append (front back : List Item) :
    Item.elements (front ++ back) = Item.elements front ++ Item.elements back :=
  List.filterMap_append

theorem Item.elements_cons (item : Item) (content : List Item) :
    Item.elements (item :: content) = item.element?.toList ++ Item.elements content := by
  rw [elements, List.filterMap_cons]
  cases item.element? <;> rfl

theorem Item.mem_elements_of_mem_elementsNamed {e : Document}
    (h : e ∈ Item.elementsNamed stem content) : e ∈ Item.elements content :=
  (List.mem_filter.1 h).1

theorem Item.sizeOf_lt_of_mem_elements {e : Document} (h : e ∈ Item.elements content) :
    sizeOf e < sizeOf content := by
  obtain ⟨item, hitem, he⟩ := List.mem_filterMap.1 h
  cases item with
  | element name attributes content' =>
    cases Option.some.inj he
    have hlt := List.sizeOf_lt_of_mem hitem
    simp only [Item.element.sizeOf_spec] at hlt
    simpa only [Document.mk.sizeOf_spec] using hlt
  | text s => cases he
  | comment s => cases he
  | instruction target => cases he

/-- What passes from the child elements to each element holds of every element. -/
theorem Document.induction {motive : Document → Prop}
    (step : ∀ d, (∀ e ∈ Item.elements d.content, motive e) → motive d) (d : Document) : motive d :=
  step d fun e _ => Document.induction step e
termination_by sizeOf d
decreasing_by
  have := Item.sizeOf_lt_of_mem_elements ‹e ∈ Item.elements d.content›
  cases d
  simp only [Document.mk.sizeOf_spec] at this ⊢
  omega

/-! ## The text that counts -/

theorem Item.texts_eq (content : List Item) :
    Item.texts content = content.filterMap Item.text? := by
  induction content with
  | nil => rfl
  | cons item content ih =>
    cases item with
    | text s => exact congrArg (s :: ·) ih
    | element name attributes inner => exact ih
    | comment s => exact ih
    | instruction target => exact ih

theorem Item.hasElement_iff (content : List Item) :
    Item.hasElement content = true ↔ Item.elements content ≠ [] := by
  induction content with
  | nil => simp [Item.hasElement, Item.elements]
  | cons item content ih =>
    cases item with
    | element name attributes inner => simp [Item.hasElement, Item.elements, Item.element?]
    | text s => exact ih
    | comment s => exact ih
    | instruction target => exact ih

/-- **The effective text is the text that counts**, if one does. -/
theorem Item.effectiveText_eq_some_iff :
    Item.effectiveText content = some text ↔ Item.CountsAs content text := by
  have hblank : (∃ c ∈ text.toList, isBlank c = false) ↔ allBlank text = false := by
    simp [allBlank]
  have hkept : (Item.elements content ≠ [] → ∃ c ∈ text.toList, isBlank c = false) ↔
      (Item.hasElement content && allBlank text) = false := by
    rw [Bool.and_eq_false_iff, ← Bool.not_eq_true, hasElement_iff, hblank]
    exact imp_iff_not_or
  rw [effectiveText, texts_eq]
  constructor
  · intro h
    split at h
    · cases h
    · rename_i hne
      split at h
      · cases h
      · rename_i hno
        obtain rfl := Option.some.inj h
        exact ⟨rfl, hne, hkept.2 (by simpa using hno)⟩
  · rintro ⟨rfl, hne, hno⟩
    rw [if_neg hne, hkept.1 hno]
    rfl

theorem Item.effectiveText_eq_iff :
    Item.effectiveText content = Item.effectiveText content' ↔
      ∀ text, Item.CountsAs content text ↔ Item.CountsAs content' text := by
  simp only [← effectiveText_eq_some_iff]
  exact ⟨fun h text => by rw [h], Option.ext⟩

theorem Attribute.getLast?_valuesAt_entry (stem : String) (attributes : List Attribute) :
    (valuesAt stem (attributes.map Attribute.entry)).getLast? =
      Attribute.lastValue? stem attributes := by
  rw [valuesAt, List.filter_map, List.map_map, List.getLast?_map]
  rfl

end Xml

namespace Node

open Xml

variable {d d' : Document}

/-! ## The node of an element -/

/-- The node that an element is seen as. -/
def ofElement (d : Document) : Node :=
  assemble d.attributes (Item.effectiveText d.content) (ofItems d.content)

theorem ofDocument_eq (d : Document) : ofDocument d = ({} : Node).push d.name.stem (ofElement d) :=
  rfl

theorem ofItems_eq (content : List Item) :
    ofItems content = (Item.elements content).map fun e => (e.name.stem, ofElement e) := by
  induction content with
  | nil => rfl
  | cons item content ih =>
    cases item with
    | element name attributes inner =>
      exact congrArg ((name.stem, ofElement ⟨name, attributes, inner⟩) :: ·) ih
    | text s => exact ih
    | comment s => exact ih
    | instruction target => exact ih

/-- The children under a tag are the nodes of the elements of that name. -/
theorem valuesAt_ofItems (stem : String) (content : List Item) :
    valuesAt stem (ofItems content) = (Item.elementsNamed stem content).map ofElement := by
  rw [ofItems_eq, valuesAt, List.filter_map, List.map_map]
  rfl

/-- Under a tag stand the nodes of the child elements of that name, in document order. -/
theorem under_ofElement (d : Document) (tag : String) :
    (ofElement d).under tag = (Item.elementsNamed tag d.content).map ofElement := by
  rw [ofElement, under_assemble, valuesAt_ofItems]

theorem attribute?_ofElement (d : Document) (name : String) :
    (ofElement d).attribute? name = Attribute.lastValue? name d.attributes := by
  rw [ofElement, attribute?_assemble, Attribute.getLast?_valuesAt_entry]

theorem attributes_ofElement_eq_nil_iff (d : Document) :
    (ofElement d).attributes = [] ↔ d.attributes = [] := by
  rw [ofElement, assemble_eq, attributes_pushAll, insertAll_eq_nil_iff]
  simp

/-- Two lists correspond one by one exactly if they have the same nodes, where that is so of the
members of the first one. -/
theorem forall₂_iff_map_eq {R : Document → Document → Prop} {ds ds' : List Document}
    (h : ∀ e ∈ ds, ∀ e', R e e' ↔ ofElement e = ofElement e') :
    List.Forall₂ R ds ds' ↔ ds.map ofElement = ds'.map ofElement := by
  induction ds generalizing ds' with
  | nil =>
    cases ds' with
    | nil => simp
    | cons e' ds' => simp
  | cons e ds ih =>
    cases ds' with
    | nil => simp
    | cons e' ds' =>
      rw [List.forall₂_cons, h e List.mem_cons_self e',
        ih fun e he => h e (List.mem_cons_of_mem _ he)]
      simp

/-- **Elements give the same node exactly if they correspond.** -/
theorem ofElement_eq_iff : ofElement d = ofElement d' ↔ d.Corresponds d' := by
  induction d using Document.induction generalizing d' with
  | step d ih =>
    have helements (stem : String) :
        (valuesAt stem (ofItems d.content) = valuesAt stem (ofItems d'.content)) ↔
          List.Forall₂ Document.Corresponds (Item.elementsNamed stem d.content)
            (Item.elementsNamed stem d'.content) := by
      rw [valuesAt_ofItems, valuesAt_ofItems]
      refine (forall₂_iff_map_eq fun e he e' => ?_).symm
      exact (ih e (Item.mem_elements_of_mem_elementsNamed he)).symm
    rw [ofElement, ofElement, assemble_eq_iff]
    simp only [Attribute.getLast?_valuesAt_entry, Item.effectiveText_eq_iff, helements]
    constructor
    · rintro ⟨hattributes, htext, hchildren⟩
      exact .intro hattributes htext hchildren
    · rintro ⟨hattributes, htext, hchildren⟩
      exact ⟨hattributes, htext, hchildren⟩

/-- **Documents have the same node** exactly if their root elements have the same local name and
correspond. -/
theorem ofDocument_eq_iff :
    ofDocument d = ofDocument d' ↔ d.name.stem = d'.name.stem ∧ d.Corresponds d' := by
  have hchildren (d : Document) :
      (ofDocument d).children = [(d.name.stem, .single (ofElement d))] := rfl
  rw [← ofElement_eq_iff]
  constructor
  · intro h
    have hroot := congrArg Node.children h
    rw [hchildren, hchildren] at hroot
    simpa using hroot
  · rintro ⟨hstem, helement⟩
    rw [ofDocument_eq, ofDocument_eq, hstem, helement]

end Node

end TypeScriptBuild
