import Mathlib.Data.List.Chain
import Mathlib.Data.List.Infix
import TypeScriptBuild.Condition

/-!
# Splitting and writing

A text is split in rounds: literal text up to the next mark, a name up to the next closing
parenthesis, and again from there. The fragments that come out are in a normal form, which says
that they could not be split in another way, and written one after the other they are the text
again. There is one exception: if the last reference is never closed, writing closes it.

* `Fragment.Scan`: the rounds; `Fragment.scan_iff_split_eq` says that they end and that the
  splitting has their result.
* `Fragment.Normal`: the normal form.
* `Fragment.Unclosed`: the texts whose last reference is never closed.
* `Fragment.split_canonical`: splitting and writing are inverse to each other, up to that
  parenthesis.
-/

namespace TypeScriptBuild.Fragment

variable {s lit name rest : List Char} {fs : List Fragment}

/-! ## Rounds -/

/-- A text in which no reference is opened. -/
def Markless (s : List Char) : Prop :=
  ¬ ['$', '('] <:+: s

/-- A literal text as a fragment, unless it is empty. -/
def ofText (lit : List Char) : List Fragment :=
  if lit = [] then [] else [.literal (.ofList lit)]

/-- The rounds of splitting a text. -/
inductive Scan : List Char → List Fragment → Prop
  /-- There is no mark any more. -/
  | text {lit : List Char} (hlit : Markless lit) : Scan lit (ofText lit)
  /-- The last reference runs to the end of the text. -/
  | unclosed {lit name : List Char} (hlit : Markless lit) (hname : ')' ∉ name) :
    Scan (lit ++ '$' :: '(' :: name) (ofText lit ++ [.reference (.ofList name)])
  /-- A reference is closed, and the next round begins behind it. -/
  | closed {lit name rest : List Char} {fs : List Fragment} (hlit : Markless lit)
    (hname : ')' ∉ name) (hrest : Scan rest fs) :
    Scan (lit ++ '$' :: '(' :: (name ++ ')' :: rest))
      (ofText lit ++ .reference (.ofList name) :: fs)

theorem markless_nil : Markless [] := by
  intro h
  cases List.infix_nil.1 h

theorem markless_cons_iff {c : Char} :
    Markless (c :: s) ↔ ¬ (c = '$' ∧ s.head? = some '(') ∧ Markless s := by
  have hprefix : ['$', '('] <+: c :: s ↔ c = '$' ∧ s.head? = some '(' := by
    rw [List.cons_prefix_cons, List.head?_eq_some_iff, eq_comm (a := '$')]
    refine and_congr_right fun _ => ⟨?_, ?_⟩
    · rintro ⟨t, rfl⟩
      exact ⟨t, rfl⟩
    · rintro ⟨t, rfl⟩
      exact ⟨t, rfl⟩
  rw [Markless, List.infix_cons_iff, not_or, hprefix]
  exact Iff.rfl

/-- A text is literal up to its first mark. -/
theorem markless_or_exists_mark (s : List Char) :
    Markless s ∨ ∃ lit rest, Markless lit ∧ s = lit ++ '$' :: '(' :: rest := by
  induction s with
  | nil => exact Or.inl markless_nil
  | cons c s ih =>
    by_cases hc : c = '$' ∧ s.head? = some '('
    · obtain ⟨rfl, hs⟩ := hc
      obtain ⟨rest, rfl⟩ := List.head?_eq_some_iff.1 hs
      exact Or.inr ⟨[], rest, markless_nil, rfl⟩
    · rcases ih with hs | ⟨lit, rest, hlit, rfl⟩
      · exact Or.inl (markless_cons_iff.2 ⟨hc, hs⟩)
      · refine Or.inr ⟨c :: lit, rest, markless_cons_iff.2 ⟨?_, hlit⟩, rfl⟩
        rintro ⟨hdollar, hhead⟩
        obtain ⟨t, rfl⟩ := List.head?_eq_some_iff.1 hhead
        exact hc ⟨hdollar, rfl⟩

/-- **The rounds end** on every text: each of them begins further behind. -/
theorem exists_scan (s : List Char) : ∃ fs, Scan s fs := by
  induction hn : s.length using Nat.strongRecOn generalizing s with
  | ind n ih =>
    rcases markless_or_exists_mark s with hs | ⟨lit, behind, hlit, rfl⟩
    · exact ⟨_, .text hs⟩
    · by_cases hclose : ')' ∈ behind
      · obtain ⟨name, rest, rfl, hname⟩ := List.eq_append_cons_of_mem hclose
        have hlt : rest.length < n := by
          simp only [List.length_append, List.length_cons] at hn
          omega
        obtain ⟨fs, hrest⟩ := ih rest.length hlt rest rfl
        exact ⟨_, .closed hlit hname hrest⟩
      · exact ⟨_, .unclosed hlit hclose⟩

/-! ## The characters one by one -/

theorem splitText_cons {c : Char} (h : ¬ (c = '$' ∧ s.head? = some '(')) (read : List Char) :
    splitText read (c :: s) = splitText (c :: read) s := by
  rw [splitText]
  rintro cs rfl rfl
  exact h ⟨rfl, rfl⟩

theorem pending_reverse (lit : List Char) : pending lit.reverse = ofText lit := by
  cases h : lit.reverse with
  | nil => rw [List.reverse_eq_nil_iff.1 h, ofText, if_pos rfl, pending]
  | cons c cs =>
    have hne : lit ≠ [] := by
      rintro rfl
      cases h
    have hpending : pending (c :: cs) = [.literal (.ofList (c :: cs).reverse)] := rfl
    rw [hpending, ← h, List.reverse_reverse, ofText, if_neg hne]

theorem splitText_of_markless (h : Markless lit) (read : List Char) :
    splitText read lit = pending (lit.reverse ++ read) := by
  induction lit generalizing read with
  | nil => rfl
  | cons c lit ih =>
    rw [splitText_cons (markless_cons_iff.1 h).1, ih (markless_cons_iff.1 h).2, List.reverse_cons,
      List.append_assoc]
    rfl

theorem splitText_append_mark (h : Markless lit) (read s : List Char) :
    splitText read (lit ++ '$' :: '(' :: s) = pending (lit.reverse ++ read) ++ splitName [] s := by
  induction lit generalizing read with
  | nil => rfl
  | cons c lit ih =>
    have hc : ¬ (c = '$' ∧ (lit ++ '$' :: '(' :: s).head? = some '(') := by
      rintro ⟨hc, hs⟩
      cases lit with
      | nil => cases hs
      | cons d lit => exact (markless_cons_iff.1 h).1 ⟨hc, hs⟩
    rw [List.cons_append, splitText_cons hc, ih (markless_cons_iff.1 h).2, List.reverse_cons,
      List.append_assoc]
    rfl

theorem splitName_cons {c : Char} (h : c ≠ ')') (read : List Char) :
    splitName read (c :: s) = splitName (c :: read) s := by
  rw [splitName]
  exact h

theorem splitName_of_not_mem (h : ')' ∉ name) (read : List Char) :
    splitName read name = [.reference (.ofList (read.reverse ++ name))] := by
  induction name generalizing read with
  | nil => rw [splitName, List.append_nil]
  | cons c name ih =>
    obtain ⟨hc, hname⟩ := not_or.1 (mt List.mem_cons.2 h)
    rw [splitName_cons (Ne.symm hc), ih hname, List.reverse_cons, List.append_assoc]
    rfl

theorem splitName_append_close (h : ')' ∉ name) (read s : List Char) :
    splitName read (name ++ ')' :: s) =
      .reference (.ofList (read.reverse ++ name)) :: splitText [] s := by
  induction name generalizing read with
  | nil => rw [List.nil_append, splitName, List.append_nil]
  | cons c name ih =>
    obtain ⟨hc, hname⟩ := not_or.1 (mt List.mem_cons.2 h)
    rw [List.cons_append, splitName_cons (Ne.symm hc), ih hname, List.reverse_cons,
      List.append_assoc]
    rfl

/-- **The splitting follows the rounds.** -/
theorem splitText_of_scan (h : Scan s fs) : splitText [] s = fs := by
  induction h with
  | text hlit => rw [splitText_of_markless hlit, List.append_nil, pending_reverse]
  | unclosed hlit hname =>
    rw [splitText_append_mark hlit, List.append_nil, pending_reverse, splitName_of_not_mem hname]
    rfl
  | closed hlit hname hrest ih =>
    rw [splitText_append_mark hlit, List.append_nil, pending_reverse, splitName_append_close hname,
      ih]
    rfl

theorem scan_iff_split_eq {s : String} : Scan s.toList fs ↔ split s = fs := by
  constructor
  · exact splitText_of_scan
  · rintro rfl
    obtain ⟨fs, h⟩ := exists_scan s.toList
    rw [split, splitText_of_scan h]
    exact h

/-! ## The normal form -/

/-- Whether a fragment is literal text. -/
def isLiteral : Fragment → Bool
  | .literal _ => true
  | .reference _ => false

/-- Fragments that could not be split in another way. -/
structure Normal (fs : List Fragment) : Prop where
  /-- A literal text is not empty and opens no reference. -/
  literal : ∀ s, .literal s ∈ fs → s ≠ "" ∧ Markless s.toList
  /-- A name does not close its reference. -/
  reference : ∀ name, .reference name ∈ fs → ')' ∉ name.toList
  /-- Of two neighbours one is a reference. -/
  apart : fs.IsChain fun f g => f.isLiteral = false ∨ g.isLiteral = false

theorem ofText_toList {s : String} (hs : s ≠ "") : ofText s.toList = [.literal s] := by
  rw [ofText, if_neg (by simpa using hs), String.ofList_toList]

theorem normal_nil : Normal [] :=
  ⟨fun _ h => absurd h List.not_mem_nil, fun _ h => absurd h List.not_mem_nil, .nil⟩

theorem normal_reference_cons {name : String} :
    Normal (.reference name :: fs) ↔ ')' ∉ name.toList ∧ Normal fs := by
  constructor
  · rintro ⟨hliteral, hreference, hapart⟩
    exact ⟨hreference name List.mem_cons_self, fun s hs => hliteral s (List.mem_cons_of_mem _ hs),
      fun n hn => hreference n (List.mem_cons_of_mem _ hn), hapart.tail⟩
  · rintro ⟨hname, hliteral, hreference, hapart⟩
    refine ⟨fun s hs => ?_, fun n hn => ?_, ?_⟩
    · rcases List.mem_cons.1 hs with hs | hs
      · cases hs
      · exact hliteral s hs
    · rcases List.mem_cons.1 hn with hn | hn
      · cases hn
        exact hname
      · exact hreference n hn
    · exact List.isChain_cons.2 ⟨fun g _ => Or.inl rfl, hapart⟩

/-- A literal text stands at the end or in front of a reference. -/
theorem normal_literal_cons {s : String} :
    Normal (.literal s :: fs) ↔
      (s ≠ "" ∧ Markless s.toList) ∧ (∀ f ∈ fs.head?, f.isLiteral = false) ∧ Normal fs := by
  constructor
  · rintro ⟨hliteral, hreference, hapart⟩
    obtain ⟨hhead, htail⟩ := List.isChain_cons.1 hapart
    exact ⟨hliteral s List.mem_cons_self, fun f hf => (hhead f hf).resolve_left (by simp [isLiteral]),
      fun t ht => hliteral t (List.mem_cons_of_mem _ ht),
      fun n hn => hreference n (List.mem_cons_of_mem _ hn), htail⟩
  · rintro ⟨hs, hhead, hliteral, hreference, hapart⟩
    refine ⟨fun t ht => ?_, fun n hn => ?_, ?_⟩
    · rcases List.mem_cons.1 ht with ht | ht
      · cases ht
        exact hs
      · exact hliteral t ht
    · rcases List.mem_cons.1 hn with hn | hn
      · cases hn
      · exact hreference n hn
    · exact List.isChain_cons.2 ⟨fun g hg => Or.inr (hhead g hg), hapart⟩

theorem normal_ofText_append (hlit : Markless lit) (hhead : ∀ f ∈ fs.head?, f.isLiteral = false)
    (hfs : Normal fs) : Normal (ofText lit ++ fs) := by
  by_cases hne : lit = []
  · rw [ofText, if_pos hne]
    exact hfs
  · rw [ofText, if_neg hne]
    exact normal_literal_cons.2 ⟨⟨by simpa using hne, by simpa using hlit⟩, hhead, hfs⟩

/-- **What comes out of the rounds is normal.** -/
theorem Scan.normal (h : Scan s fs) : Normal fs := by
  induction h with
  | text hlit =>
    have h := normal_ofText_append hlit (fun f hf => absurd hf (by simp)) normal_nil
    rwa [List.append_nil] at h
  | unclosed hlit hname =>
    refine normal_ofText_append hlit (fun f hf => ?_) (normal_reference_cons.2 ⟨?_, normal_nil⟩)
    · cases hf
      rfl
    · simpa using hname
  | closed hlit hname hrest ih =>
    refine normal_ofText_append hlit (fun f hf => ?_) (normal_reference_cons.2 ⟨?_, ih⟩)
    · cases hf
      rfl
    · simpa using hname

/-! ## Writing -/

theorem toList_writtenAll_cons (f : Fragment) (fs : List Fragment) :
    (writtenAll (f :: fs)).toList = f.written.toList ++ (writtenAll fs).toList := by
  simp [writtenAll, String.toList_join]

theorem toList_writtenAll_ofText_append (lit : List Char) (fs : List Fragment) :
    (writtenAll (ofText lit ++ fs)).toList = lit ++ (writtenAll fs).toList := by
  by_cases hne : lit = []
  · rw [ofText, if_pos hne, hne]
    rfl
  · rw [ofText, if_neg hne, List.singleton_append, toList_writtenAll_cons, written,
      String.toList_ofList]

theorem toList_writtenAll_ofText (lit : List Char) : (writtenAll (ofText lit)).toList = lit := by
  have hnil : (writtenAll []).toList = [] := rfl
  have h := toList_writtenAll_ofText_append lit []
  rwa [List.append_nil, hnil, List.append_nil] at h

theorem toList_writtenAll_reference_cons (name : String) (fs : List Fragment) :
    (writtenAll (.reference name :: fs)).toList =
      '$' :: '(' :: (name.toList ++ ')' :: (writtenAll fs).toList) := by
  rw [toList_writtenAll_cons, written]
  simp

/-- **What is written goes through the rounds** that give it back, if it is normal. -/
theorem scan_writtenAll : ∀ {fs : List Fragment}, Normal fs → Scan (writtenAll fs).toList fs
  | [], _ => .text markless_nil
  | .reference name :: fs, h => by
    obtain ⟨hname, hfs⟩ := normal_reference_cons.1 h
    have hscan := Scan.closed markless_nil hname (scan_writtenAll hfs)
    rw [String.ofList_toList] at hscan
    rw [toList_writtenAll_reference_cons]
    exact hscan
  | [.literal s], h => by
    obtain ⟨⟨hne, hmark⟩, -, -⟩ := normal_literal_cons.1 h
    rw [← ofText_toList hne, toList_writtenAll_ofText]
    exact .text hmark
  | .literal s :: .reference name :: fs, h => by
    obtain ⟨⟨hne, hmark⟩, -, h⟩ := normal_literal_cons.1 h
    obtain ⟨hname, hfs⟩ := normal_reference_cons.1 h
    have hscan := Scan.closed hmark hname (scan_writtenAll hfs)
    rw [String.ofList_toList, ofText_toList hne] at hscan
    rw [toList_writtenAll_cons, toList_writtenAll_reference_cons]
    exact hscan
  | .literal s :: .literal t :: fs, h => by
    obtain ⟨-, hhead, -⟩ := normal_literal_cons.1 h
    exact absurd (hhead _ rfl) (by simp [isLiteral])

/-- **A text whose last reference is never closed**, where each reference before it runs to the
first closing parenthesis behind its mark. -/
inductive Unclosed : List Char → Prop
  | last {lit name : List Char} (hlit : Markless lit) (hname : ')' ∉ name) :
    Unclosed (lit ++ '$' :: '(' :: name)
  | behind {lit name rest : List Char} (hlit : Markless lit) (hname : ')' ∉ name)
    (hrest : Unclosed rest) : Unclosed (lit ++ '$' :: '(' :: (name ++ ')' :: rest))

/-- Writing closes the last reference. -/
theorem Unclosed.toList_writtenAll (h : Unclosed s) :
    (writtenAll (splitText [] s)).toList = s ++ [')'] := by
  induction h with
  | last hlit hname =>
    rw [splitText_of_scan (.unclosed hlit hname), toList_writtenAll_ofText_append,
      toList_writtenAll_reference_cons, String.toList_ofList]
    simp [writtenAll]
  | @behind lit name rest hlit hname hrest ih =>
    obtain ⟨fs, hscan⟩ := exists_scan rest
    rw [splitText_of_scan hscan] at ih
    rw [splitText_of_scan (.closed hlit hname hscan), toList_writtenAll_ofText_append,
      toList_writtenAll_reference_cons, String.toList_ofList, ih]
    simp

/-- Writing gives back a text whose references are closed. -/
theorem Scan.toList_writtenAll (h : Scan s fs) (hs : ¬ Unclosed s) : (writtenAll fs).toList = s := by
  induction h with
  | text hlit => exact toList_writtenAll_ofText _
  | unclosed hlit hname => exact absurd (.last hlit hname) hs
  | closed hlit hname hrest ih =>
    rw [toList_writtenAll_ofText_append, toList_writtenAll_reference_cons, String.toList_ofList,
      ih fun hrest => hs (.behind hlit hname hrest)]

/-- **Splitting and writing are inverse to each other.** The rounds of splitting end on every text,
with fragments in normal form, and these make up the text when they are written, but for the
parenthesis that closes a last reference which was not closed. Fragments are given back by splitting
what they are written as exactly if they are normal. -/
theorem split_canonical :
    (∀ s : String, (∀ fs, Scan s.toList fs ↔ split s = fs) ∧ Normal (split s) ∧
      (writtenAll (split s) = s ++ ")" ↔ Unclosed s.toList) ∧
      (writtenAll (split s) = s ↔ ¬ Unclosed s.toList)) ∧
    ∀ fs, split (writtenAll fs) = fs ↔ Normal fs := by
  have hnormal : ∀ s, Normal (split s) := fun s => (scan_iff_split_eq.2 rfl).normal
  refine ⟨fun s => ⟨fun fs => scan_iff_split_eq, hnormal s, ?_⟩, fun fs => ⟨fun h => ?_, fun h => ?_⟩⟩
  · have hne : s ++ ")" ≠ s := by
      intro h
      have hlen := congrArg String.length h
      simp at hlen
    by_cases hs : Unclosed s.toList
    · have hclosed : writtenAll (split s) = s ++ ")" := by
        rw [← String.toList_inj, split, hs.toList_writtenAll, String.toList_append]
        rfl
      rw [hclosed]
      exact ⟨iff_of_true rfl hs, iff_of_false hne (not_not_intro hs)⟩
    · have hback : writtenAll (split s) = s :=
        String.toList_inj.1 ((scan_iff_split_eq.2 rfl).toList_writtenAll hs)
      rw [hback]
      exact ⟨iff_of_false (Ne.symm hne) hs, iff_of_true rfl hs⟩
  · rw [← h]
    exact hnormal _
  · exact scan_iff_split_eq.1 (scan_writtenAll h)

/-- A mark inside a reference is part of its name. -/
example : split "$$($(x)y$(" = [.literal "$", .reference "$(x", .literal "y", .reference ""] := by
  decide +kernel

end TypeScriptBuild.Fragment
