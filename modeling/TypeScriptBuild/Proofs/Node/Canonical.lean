import TypeScriptBuild.Proofs.Node.Correspondence

/-!
# Canonical nodes

A node could hold its children in several ways, and have a text that says nothing. The nodes of
documents are in one form only, at every depth: a tag holds a single node or a list of two at least,
a text is not empty, and it is no indentation beside children. So nodes of documents are equal
exactly if whatever can be asked of them, and of their children in turn, has equal answers.

* `Node.Canonical`: the form of a node, at every depth.
* `Node.forall_children_push`, `Node.forall_children_pushAll`: what one more child keeps of the
  tags, and what any number of them keep.
* `Node.ShowAlike`: two nodes that answer alike; `Node.Canonical.eq_iff_showAlike` says that
  canonical ones are then equal.
* `Node.ofDocument_canonical`: the nodes of documents are canonical.
-/

namespace TypeScriptBuild

open Text Dictionary

namespace Occurrences

variable {α : Type} {o : Occurrences α}

/-- What a tag holds, in the one form for so many nodes: alone if it is one, and in a list if there
are two or more. -/
inductive Compact : Occurrences α → Prop
  | single (a : α) : Compact (.single a)
  | many {as : List α} (h : 2 ≤ as.length) : Compact (.many as)

/-- What holds the nodes of a list in that form; nothing holds none. -/
def ofList? : List α → Option (Occurrences α)
  | [] => none
  | [a] => some (.single a)
  | as => some (.many as)

theorem Compact.add (h : o.Compact) (a : α) : (o.add a).Compact := by
  cases h with
  | single b => exact .many (Nat.le_refl 2)
  | many h => exact .many (by simp only [List.length_append]; omega)

/-- The nodes decide how they are held. -/
theorem Compact.ofList?_toList (h : o.Compact) : ofList? o.toList = some o := by
  cases h with
  | single a => rfl
  | @many as h =>
    match as, h with
    | _ :: _ :: _, _ => rfl

end Occurrences

namespace Node

/-- **Canonical nodes**: attributes and tags in order, every tag with its nodes in one form, a text
that is not empty and beside children is more than blanks, and canonical children. -/
inductive Canonical : Node → Prop
  | intro {n : Node} (attributes : Ordered n.attributes) (tags : Ordered n.children)
    (compact : ∀ e ∈ n.children, e.2.Compact) (text_ne_empty : n.text ≠ some "")
    (not_indentation : n.children ≠ [] → ∀ text, n.text = some text →
      ∃ c ∈ text.toList, isBlank c = false)
    (each : ∀ e ∈ n.children, ∀ c ∈ e.2.toList, Canonical c) : Canonical n

/-- Two nodes that show alike: every attribute, the text and the children under every tag are equal,
as far as they can be asked for. -/
inductive ShowAlike : Node → Node → Prop
  | intro {n n' : Node} (attributes : ∀ name, n.attribute? name = n'.attribute? name)
    (text : n.textOrEmpty = n'.textOrEmpty)
    (children : ∀ tag, List.Forall₂ ShowAlike (n.under tag) (n'.under tag)) : ShowAlike n n'

variable {n n' child : Node} {children : List (String × Node)} {tag : String}

/-! ## What is asked for -/

theorem mem_children_of_mem_under (h : child ∈ n.under tag) :
    ∃ e ∈ n.children, child ∈ e.2.toList := by
  rw [under] at h
  cases ho : n.children.lookup tag with
  | none => simp [ho] at h
  | some o =>
    rw [ho] at h
    exact ⟨(tag, o), mem_of_lookup ho, h⟩

/-- Where tags hold their nodes in one form, the nodes under a tag decide what it holds. -/
theorem lookup_children_eq_ofList? (h : ∀ e ∈ n.children, e.2.Compact) (tag : String) :
    n.children.lookup tag = Occurrences.ofList? (n.under tag) := by
  rw [under]
  cases ho : n.children.lookup tag with
  | none => rfl
  | some o => exact (h _ (mem_of_lookup ho)).ofList?_toList.symm

/-- A text that is not empty can be told from none. -/
theorem text_eq_ite (h : n.text ≠ some "") :
    n.text = if n.textOrEmpty = "" then none else some n.textOrEmpty := by
  rw [textOrEmpty]
  cases ht : n.text with
  | none => rfl
  | some text =>
    have hne : text ≠ "" := fun he => h (ht.trans (congrArg some he))
    rw [Option.getD_some, if_neg hne]

/-! ## Canonical nodes that show alike -/

theorem Canonical.of_mem_under (h : n.Canonical) (hc : child ∈ n.under tag) : child.Canonical := by
  obtain ⟨e, he, hmem⟩ := mem_children_of_mem_under hc
  cases h with
  | intro _ _ _ _ _ each => exact each e he child hmem

theorem Canonical.showAlike_refl (h : n.Canonical) : ShowAlike n n := by
  induction h with
  | intro _ _ _ _ _ _ ih =>
    refine .intro (fun _ => rfl) rfl fun tag => List.forall₂_same.2 fun c hc => ?_
    obtain ⟨e, he, hmem⟩ := mem_children_of_mem_under hc
    exact ih e he c hmem

theorem eq_of_forall₂ {α : Type} {R : α → α → Prop} {as bs : List α} (h : List.Forall₂ R as bs)
    (heq : ∀ a ∈ as, ∀ b ∈ bs, R a b → a = b) : as = bs := by
  induction h with
  | nil => rfl
  | cons hab _ ih =>
    rw [heq _ List.mem_cons_self _ List.mem_cons_self hab, ih fun a ha b hb =>
      heq a (List.mem_cons_of_mem _ ha) b (List.mem_cons_of_mem _ hb)]

theorem Canonical.eq_of_showAlike (h : n.Canonical) (h' : n'.Canonical) (halike : ShowAlike n n') :
    n = n' := by
  induction h generalizing n' with
  | @intro n attributes tags compact text_ne_empty _ _ ih =>
    have hcanonical := h'
    cases h' with
    | intro attributes' tags' compact' text_ne_empty' _ _ =>
      cases halike with
      | intro hattributes htext hchildren =>
        -- children that show alike are equal, so both nodes have the same lists under their tags;
        -- how a tag holds its list, and that there is no tag without one, is the canonical form
        have hunder (tag : String) : n.under tag = n'.under tag := by
          refine eq_of_forall₂ (hchildren tag) fun c hc c' hc' hcc => ?_
          obtain ⟨e, he, hmem⟩ := mem_children_of_mem_under hc
          exact ih e he c hmem (hcanonical.of_mem_under hc') hcc
        refine eq_of_fields (eq_of_lookup attributes attributes' hattributes) ?_
          (eq_of_lookup tags tags' fun tag => ?_)
        · rw [text_eq_ite text_ne_empty, text_eq_ite text_ne_empty', htext]
        · rw [lookup_children_eq_ofList? compact, lookup_children_eq_ofList? compact', hunder]

/-- **Canonical nodes are equal exactly if they show alike.** -/
theorem Canonical.eq_iff_showAlike (h : n.Canonical) (h' : n'.Canonical) :
    n = n' ↔ ShowAlike n n' := by
  constructor
  · rintro rfl
    exact h.showAlike_refl
  · exact h.eq_of_showAlike h'

/-! ## A node that is built up -/

variable {Q : Occurrences Node → Prop}

/-- What holds of a single child and is kept by one more is kept by a push, for every tag. -/
theorem forall_children_push (h : ∀ e ∈ n.children, Q e.2) (hsingle : Q (.single child))
    (hadd : ∀ o, Q o → Q (o.add child)) (tag : String) :
    ∀ e ∈ (n.push tag child).children, Q e.2 := by
  intro e he
  rcases mem_insert he with rfl | he
  · cases ho : n.children.lookup tag with
    | none => exact hsingle
    | some o => exact hadd o (h _ (mem_of_lookup ho))
  · exact h e he

theorem forall_children_pushAll (h : ∀ e ∈ n.children, Q e.2)
    (hsingle : ∀ child ∈ children, Q (.single child.2))
    (hadd : ∀ child ∈ children, ∀ o, Q o → Q (o.add child.2)) :
    ∀ e ∈ (n.pushAll children).children, Q e.2 := by
  induction children generalizing n with
  | nil => exact h
  | cons child children ih =>
    have hpush := forall_children_push h (hsingle child List.mem_cons_self)
      (hadd child List.mem_cons_self) child.1
    exact ih hpush (fun c hc => hsingle c (List.mem_cons_of_mem _ hc))
      fun c hc => hadd c (List.mem_cons_of_mem _ hc)

/-- A node to which canonical children are pushed, and which was in order without them, is
canonical. -/
theorem canonical_pushAll (hn : n.children = []) (hattributes : Ordered n.attributes)
    (htext : n.text ≠ some "")
    (hkept : children ≠ [] → ∀ text, n.text = some text → ∃ c ∈ text.toList, isBlank c = false)
    (h : ∀ child ∈ children, child.2.Canonical) : (n.pushAll children).Canonical := by
  have htags : Ordered n.children := hn ▸ List.Pairwise.nil
  have hheld : ∀ e ∈ (n.pushAll children).children,
      e.2.Compact ∧ ∀ c ∈ e.2.toList, c.Canonical := by
    refine forall_children_pushAll (Q := fun o => o.Compact ∧ ∀ c ∈ o.toList, c.Canonical)
      (by simp [hn]) (fun child hc => ⟨.single child.2, fun c hmem => ?_⟩)
      fun child hc o ho => ⟨ho.1.add child.2, ?_⟩
    · rw [List.mem_singleton.1 hmem]
      exact h child hc
    · rw [Occurrences.toList_add, List.forall_mem_append]
      exact ⟨ho.2, fun c hmem => List.mem_singleton.1 hmem ▸ h child hc⟩
  refine .intro ?_ (ordered_children_pushAll htags children) (fun e he => (hheld e he).1) ?_
    (fun hne text ht => ?_) fun e he => (hheld e he).2
  · rwa [attributes_pushAll]
  · rwa [text_pushAll]
  · rw [text_pushAll] at ht
    -- a node to which nothing is pushed has no children beside which its text could stand
    refine hkept (fun hnil => hne ?_) text ht
    rw [hnil]
    exact hn

/-! ## The nodes of documents -/

/-- **The node of an element is canonical.** -/
theorem canonical_ofElement (d : Xml.Document) : (ofElement d).Canonical := by
  induction d using Xml.Document.induction with
  | step d ih =>
    have hchildren : ∀ child ∈ ofItems d.content, child.2.Canonical := by
      rw [ofItems_eq]
      intro child hmem
      obtain ⟨e, he, rfl⟩ := List.mem_map.1 hmem
      exact ih e he
    have hcounts {text : String} (h : Xml.Item.effectiveText d.content = some text) :
        Xml.Item.CountsAs d.content text :=
      Xml.Item.effectiveText_eq_some_iff.1 h
    rw [ofElement, assemble_eq]
    refine canonical_pushAll rfl (ordered_insertAll _ .nil) (fun h => (hcounts h).ne_empty rfl)
      (fun hne text h => (hcounts h).not_indentation fun hnil => hne ?_) hchildren
    rw [ofItems_eq, hnil]
    rfl

/-- **The node of a document is canonical**, as its only child is. -/
theorem canonical_ofDocument (d : Xml.Document) : (ofDocument d).Canonical := by
  have h : ∀ child ∈ [(d.name.stem, ofElement d)], child.2.Canonical := by
    simpa using canonical_ofElement d
  exact canonical_pushAll (n := {}) rfl .nil (by simp) (fun _ text ht => by simp at ht) h

/-- **The nodes of documents are canonical**, and are equal exactly if they show alike. The node of
a document has nothing but its root element, which is held alone. -/
theorem ofDocument_canonical :
    (∀ d : Xml.Document, (ofDocument d).Canonical ∧ (ofDocument d).attributes = [] ∧
      (ofDocument d).text = none ∧
        ∃ tag root, (ofDocument d).children = [(tag, .single root)]) ∧
    ∀ d d' : Xml.Document,
      (ofDocument d == ofDocument d') = true ↔ ShowAlike (ofDocument d) (ofDocument d') := by
  refine ⟨fun d => ⟨canonical_ofDocument d, rfl, rfl, d.name.stem, ofElement d, rfl⟩,
    fun d d' => ?_⟩
  rw [beq_iff_eq]
  exact (canonical_ofDocument d).eq_iff_showAlike (canonical_ofDocument d')

end Node

end TypeScriptBuild
