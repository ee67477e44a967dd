import Mathlib.Data.List.Forall2
import Mathlib.Logic.Relation
import TypeScriptBuild.Files.Store
import TypeScriptBuild.Proofs.Node.Correspondence

/-!
# Changes that leave no trace

A file may be written in many ways that come to the same node: with or without comments and
instructions, with its text in one stretch or in several, indented or not, and with elements of
different names in another order, at any depth.

* `Xml.Item.Retouched`: one such change.
* `Xml.Item.Retouched.keeps`: what it keeps of a content.
* `Node.ofDocument_traceless`: any number of them keep the node of a document.
-/

namespace TypeScriptBuild

open Text

namespace Xml

/-- One change of a content, at any depth, that leaves no trace. -/
inductive Item.Retouched : List Item → List Item → Prop
  /-- A comment comes in. -/
  | comment (front back : List Item) (s : String) :
    Retouched (front ++ back) (front ++ .comment s :: back)
  /-- A processing instruction comes in. -/
  | instruction (front back : List Item) (target : String) :
    Retouched (front ++ back) (front ++ .instruction target :: back)
  /-- A stretch of text is cut in two. -/
  | cut (front back : List Item) (s t : String) :
    Retouched (front ++ .text (s ++ t) :: back) (front ++ .text s :: .text t :: back)
  /-- Indentation comes in, where there are elements and no text but blanks. -/
  | indent (front back : List Item) (s : String) (helements : Item.elements (front ++ back) ≠ [])
    (hblank : ∀ t, .text t ∈ front ++ .text s :: back → allBlank t = true) :
    Retouched (front ++ back) (front ++ .text s :: back)
  /-- An element moves behind a piece of content that is no element of its name. -/
  | swap (front back : List Item) (name : Name) (attributes : List Attribute)
    (content : List Item) (item : Item)
    (hne : ∀ e, item.element? = some e → e.name.stem ≠ name.stem) :
    Retouched (front ++ .element name attributes content :: item :: back)
      (front ++ item :: .element name attributes content :: back)
  /-- The content of an element is changed. -/
  | inside (front back : List Item) (name : Name) (attributes : List Attribute)
    {content content' : List Item} (h : Retouched content content') :
    Retouched (front ++ .element name attributes content :: back)
      (front ++ .element name attributes content' :: back)

/-- Two contents that count for the same text and have the same nodes under every tag. -/
structure Item.SameNodes (content content' : List Item) : Prop where
  text : Item.effectiveText content' = Item.effectiveText content
  elements : ∀ stem, (Item.elementsNamed stem content').map Node.ofElement =
    (Item.elementsNamed stem content).map Node.ofElement

variable {content content' : List Item}

/-- All text that stands directly in a content, joined. -/
def Item.joined (content : List Item) : String :=
  String.join (content.filterMap Item.text?)

theorem Item.joined_append (front back : List Item) :
    Item.joined (front ++ back) = Item.joined front ++ Item.joined back := by
  rw [joined, List.filterMap_append, String.join_append]
  rfl

theorem Item.joined_cons (item : Item) (content : List Item) :
    Item.joined (item :: content) = item.text?.getD "" ++ Item.joined content := by
  rw [joined, List.filterMap_cons]
  cases item.text? with
  | none => exact String.empty_append.symm
  | some s => exact String.join_cons

/-- The effective text depends on the joined text and on whether there are elements. -/
theorem Item.effectiveText_congr (hjoined : Item.joined content' = Item.joined content)
    (helements : Item.elements content' = [] ↔ Item.elements content = []) :
    Item.effectiveText content' = Item.effectiveText content := by
  have h : Item.hasElement content' = Item.hasElement content := by
    rw [Bool.eq_iff_iff, hasElement_iff, hasElement_iff]
    exact not_congr helements
  rw [joined, joined] at hjoined
  rw [effectiveText, effectiveText, texts_eq, texts_eq, hjoined, h]

theorem allBlank_join {ss : List String} (h : ∀ s ∈ ss, allBlank s = true) :
    allBlank (String.join ss) = true := by
  rw [allBlank, String.toList_join, List.all_flatMap, List.all_eq_true]
  exact h

/-- Beside elements, blanks alone count for no text. -/
theorem Item.effectiveText_eq_none (helements : Item.elements content ≠ [])
    (hblank : ∀ t, .text t ∈ content → allBlank t = true) : Item.effectiveText content = none := by
  have hjoined : allBlank (String.join (content.filterMap Item.text?)) = true := by
    refine allBlank_join fun t ht => hblank t ?_
    obtain ⟨item, hitem, htext⟩ := List.mem_filterMap.1 ht
    cases item <;> cases htext
    exact hitem
  rw [effectiveText, texts_eq, (hasElement_iff content).2 helements, hjoined]
  simp

/-- Contents with the same elements and the same joined text keep everything. -/
theorem Item.SameNodes.of_eq (hjoined : Item.joined content' = Item.joined content)
    (helements : Item.elements content' = Item.elements content) :
    Item.SameNodes content content' where
  text := Item.effectiveText_congr hjoined (by rw [helements])
  elements stem := by rw [elementsNamed, elementsNamed, helements]

/-- Elements of the same name and attributes whose contents keep everything give the same node. -/
theorem Item.SameNodes.ofElement_eq (h : Item.SameNodes content content') (name : Name)
    (attributes : List Attribute) :
    Node.ofElement ⟨name, attributes, content'⟩ = Node.ofElement ⟨name, attributes, content⟩ := by
  rw [Node.ofElement, Node.ofElement, Node.assemble_eq_iff]
  refine ⟨fun _ => rfl, h.text, fun stem => ?_⟩
  rw [Node.valuesAt_ofItems, Node.valuesAt_ofItems, h.elements]

/-- **One change keeps the text and the nodes under every tag.** -/
theorem Item.Retouched.keeps (h : Item.Retouched content content') :
    Item.SameNodes content content' := by
  induction h with
  | comment front back s =>
    refine .of_eq ?_ ?_
    · simp [joined_append, joined_cons, text?]
    · simp [elements_append, elements_cons]
  | instruction front back target =>
    refine .of_eq ?_ ?_
    · simp [joined_append, joined_cons, text?]
    · simp [elements_append, elements_cons]
  | cut front back s t =>
    refine .of_eq ?_ ?_
    · simp [joined_append, joined_cons, text?, String.append_assoc]
    · simp [elements_append, elements_cons]
  | indent front back s helements hblank =>
    have hsame : Item.elements (front ++ .text s :: back) = Item.elements (front ++ back) := by
      simp [elements_append, elements_cons]
    refine ⟨?_, fun stem => by rw [elementsNamed, elementsNamed, hsame]⟩
    -- there is no text before and after, as elements stand beside blanks alone
    rw [effectiveText_eq_none (hsame ▸ helements) hblank, effectiveText_eq_none helements]
    intro t ht
    refine hblank t ?_
    rcases List.mem_append.1 ht with ht | ht
    · exact List.mem_append_left _ ht
    · exact List.mem_append_right _ (List.mem_cons_of_mem _ ht)
  | swap front back name attributes inner item hne =>
    refine ⟨effectiveText_congr ?_ ?_, fun stem => congrArg _ ?_⟩
    · simp [joined_append, joined_cons, text?]
    · simp [elements_append, elements_cons]
    · cases hitem : item.element? with
      | none => simp [elementsNamed, elements_append, elements_cons, hitem]
      | some e =>
        -- of two neighbours with different names at most one is kept under a name
        have hstem := hne e hitem
        by_cases hname : name.stem = stem
        · have he : e.name.stem ≠ stem := hname ▸ hstem
          simp [elementsNamed, elements_append, elements_cons, hitem, hname, he]
        · simp [elementsNamed, elements_append, elements_cons, hitem, List.filter_cons, hname]
  | inside front back name attributes h ih =>
    have hnode := ih.ofElement_eq name attributes
    refine ⟨effectiveText_congr ?_ ?_, fun stem => ?_⟩
    · simp [joined_append, joined_cons, text?]
    · simp [elements_append, elements_cons]
    · by_cases hname : name.stem = stem
      · simp [elementsNamed, elements_append, elements_cons, hname, hnode]
      · simp [elementsNamed, elements_append, elements_cons, hname]

end Xml

namespace Node

/-- A change that leaves no trace in a root element keeps the node of the document. -/
theorem ofDocument_eq_of_retouched {content content' : List Xml.Item}
    (h : Xml.Item.Retouched content content') (name : Xml.Name)
    (attributes : List Xml.Attribute) :
    ofDocument ⟨name, attributes, content'⟩ = ofDocument ⟨name, attributes, content⟩ := by
  rw [ofDocument_eq, ofDocument_eq, h.keeps.ofElement_eq]

theorem readSource_of_read {path source : String} {d : Xml.Document}
    (h : Xml.Document.read source = .ok d) : readSource path source = .ok (ofDocument d) := by
  rw [readSource, h]

/-- **Documents have the same node exactly if they correspond**, so texts of corresponding documents
are read as the same node; and any number of changes that leave no trace keep the node. -/
theorem ofDocument_traceless :
    (∀ d d' : Xml.Document,
      ofDocument d = ofDocument d' ↔ d.name.stem = d'.name.stem ∧ d.Corresponds d') ∧
    (∀ (path source source' : String) (d d' : Xml.Document),
      Xml.Document.read source = .ok d → Xml.Document.read source' = .ok d' →
      d.name.stem = d'.name.stem → d.Corresponds d' →
        ∃ n, readSource path source = .ok n ∧ readSource path source' = .ok n) ∧
    ∀ (name : Xml.Name) (attributes : List Xml.Attribute) (content content' : List Xml.Item),
      Relation.EqvGen Xml.Item.Retouched content content' →
        ofDocument ⟨name, attributes, content'⟩ = ofDocument ⟨name, attributes, content⟩ := by
  refine ⟨fun _ _ => ofDocument_eq_iff, ?_, fun name attributes content content' h => ?_⟩
  · intro path source source' d d' hread hread' hstem hcorresponds
    have hsame := ofDocument_eq_iff.2 ⟨hstem, hcorresponds⟩
    exact ⟨ofDocument d, readSource_of_read hread, hsame ▸ readSource_of_read hread'⟩
  · induction h with
    | rel content content' h => exact ofDocument_eq_of_retouched h name attributes
    | refl content => rfl
    | symm content content' _ ih => exact ih.symm
    | trans content content' content'' _ _ ih ih' => exact ih'.trans ih

/-- An element with a text in front of an element without content. -/
def trialPlain : List Xml.Item :=
  [.element ⟨none, "OutDir"⟩ [] [.text "a\\b"], .element ⟨none, "Target"⟩ [] []]

/-- The same content indented, with a comment and an instruction, with the other element in front
and the text cut in two. -/
def trialRetouched : List Xml.Item :=
  [.text "\n ", .comment "out", .element ⟨none, "Target"⟩ [] [],
    .element ⟨none, "OutDir"⟩ [] [.text "a", .text "\\b"], .instruction "pause"]

theorem retouched_trial : Relation.EqvGen Xml.Item.Retouched trialPlain trialRetouched := by
  have hswap := Xml.Item.Retouched.swap [] [] ⟨none, "OutDir"⟩ [] [.text "a\\b"]
    (.element ⟨none, "Target"⟩ [] []) (by simp)
  have hcut := Xml.Item.Retouched.inside [.element ⟨none, "Target"⟩ [] []] [] ⟨none, "OutDir"⟩ []
    (.cut [] [] "a" "\\b")
  refine .trans _ _ _ (.rel _ _ hswap) (.trans _ _ _ (.rel _ _ hcut) ?_)
  refine .trans _ _ _ (.rel _ _ (.instruction [_, _] [] "pause")) ?_
  refine .trans _ _ _ (.rel _ _ (.comment [] _ "out")) ?_
  refine .rel _ _ (.indent [] _ "\n " (by simp [Xml.Item.elements]) fun t ht => ?_)
  have ht : t = "\n " := by simpa using ht
  rw [ht]
  decide

theorem read_trialPlain :
    Xml.Document.read "<Group><OutDir>a\\b</OutDir><Target/></Group>" =
      .ok ⟨⟨none, "Group"⟩, [], trialPlain⟩ := by
  with_unfolding_all rfl

theorem read_trialRetouched :
    Xml.Document.read
        "<Group>\n <!--out--><Target/><OutDir>a<![CDATA[\\b]]></OutDir><?pause?></Group>" =
      .ok ⟨⟨none, "Group"⟩, [], trialRetouched⟩ := by
  with_unfolding_all rfl

/-- The texts of the two documents are read as the same node. -/
theorem ofDocument_traceless_trial :
    let d : Xml.Document := ⟨⟨none, "Group"⟩, [], trialPlain⟩
    let d' : Xml.Document := ⟨⟨none, "Group"⟩, [], trialRetouched⟩
    Relation.EqvGen Xml.Item.Retouched trialPlain trialRetouched ∧ d.Corresponds d' ∧
      ∃ n, readSource "" "<Group><OutDir>a\\b</OutDir><Target/></Group>" = .ok n ∧
        readSource ""
          "<Group>\n <!--out--><Target/><OutDir>a<![CDATA[\\b]]></OutDir><?pause?></Group>" =
            .ok n := by
  intro d d'
  obtain ⟨hiff, htexts, hkeeps⟩ := ofDocument_traceless
  have hsame : ofDocument d' = ofDocument d :=
    hkeeps ⟨none, "Group"⟩ [] trialPlain trialRetouched retouched_trial
  have hcorresponds : d.Corresponds d' := ((hiff d d').1 hsame.symm).2
  exact ⟨retouched_trial, hcorresponds,
    htexts "" _ _ d d' read_trialPlain read_trialRetouched rfl hcorresponds⟩

end Node

end TypeScriptBuild
