import TypeScriptBuild.Proofs.Condition.Layout
import TypeScriptBuild.Proofs.Text.Prompt

/-!
# Where a condition is refused

A condition that denotes no comparison is refused at the place where it stops being the beginning of
one. Each stage of reading is prompt, so that the whole is: in front of the place stands the longest
viable part of the condition, and the message names the character behind it, or the end, with its
place in bytes.

* `Comparison.prompt_readChars`: comparisons are read promptly.
* `Comparison.LongestViable`: the longest part in front of a condition that begins a comparison.
* `Refusal.Reports`: what is said about a place.
* `Comparison.refused_where_viability_ends`: a condition is refused behind its longest viable part,
  and the message says so.
-/

namespace TypeScriptBuild

open Text

namespace Comparison

variable {s t rest : List Char}

/-! ## The stages are prompt -/

theorem readQuoted_of_head?_ne (h : ∀ c ∈ s.head?, c ≠ '\'') : readQuoted s = .error s := by
  rw [readQuoted]
  rintro cs rfl
  exact h '\'' rfl rfl

theorem readQuoted_of_open (h : '\'' ∉ t) : readQuoted ('\'' :: t) = .error [] := by
  have hdrop : t.dropWhile (· != '\'') = [] :=
    List.dropWhile_eq_nil_iff.2 fun c hc => bne_iff_ne.2 fun e => h (e ▸ hc)
  rw [readQuoted, hdrop]

/-- A quoted text is refused where it does not begin, or at the end if it does not end. -/
theorem readQuoted_eq_error_iff :
    readQuoted s = .error rest ↔
      (rest = s ∧ ∀ c ∈ s.head?, c ≠ '\'') ∨ rest = [] ∧ ∃ t, '\'' ∉ t ∧ s = '\'' :: t := by
  constructor
  · intro h
    cases s with
    | nil =>
      cases h
      exact Or.inl ⟨rfl, by simp⟩
    | cons c t =>
      by_cases hc : c = '\''
      · subst hc
        by_cases ht : '\'' ∈ t
        · obtain ⟨inner, behind, rfl, hinner⟩ := List.eq_append_cons_of_mem ht
          rw [readQuoted_eq_ok_iff.2 ⟨hinner, rfl⟩] at h
          cases h
        · rw [readQuoted_of_open ht] at h
          cases h
          exact Or.inr ⟨rfl, t, ht, rfl⟩
      · have hhead : ∀ d ∈ (c :: t).head?, d ≠ '\'' := by simpa using hc
        rw [readQuoted_of_head?_ne hhead] at h
        cases h
        exact Or.inl ⟨rfl, hhead⟩
  · rintro (⟨rfl, hhead⟩ | ⟨rfl, t, ht, rfl⟩)
    · exact readQuoted_of_head?_ne hhead
    · exact readQuoted_of_open ht

theorem prompt_readQuoted : Prompt readQuoted := by
  intro s rest h
  rcases readQuoted_eq_error_iff.1 h with ⟨rfl, hhead⟩ | ⟨rfl, t, ht, rfl⟩
  · refine ⟨[], rfl, ⟨['\'', '\''], ([], []), rfl⟩, fun c hc more => ?_⟩
    refine readQuoted_of_head?_ne fun d hd => ?_
    cases hd
    exact hhead c hc
  · refine ⟨'\'' :: t, (List.append_nil _).symm, ⟨['\''], (t, []), ?_⟩, by simp⟩
    exact readQuoted_eq_ok_iff.2 ⟨ht, rfl⟩

theorem steady_readQuoted : Steady readQuoted := by
  intro s t rest h
  obtain ⟨ht, rfl⟩ := readQuoted_eq_ok_iff.1 h
  refine ⟨'\'' :: (t ++ ['\'']), by simp, fun more => readQuoted_eq_ok_iff.2 ⟨ht, ?_⟩⟩
  simp

theorem bare_of_readQuoted {x : List Char × List Char} (h : readQuoted s = .ok x) : Bare s := by
  obtain ⟨-, rfl⟩ := readQuoted_eq_ok_iff.1 h
  exact Layout.bare_quote _

/-- An operator is refused where it does not begin, or behind its first character. -/
theorem readOperator_eq_error_iff :
    readOperator s = .error rest ↔
      (rest = s ∧ ∀ c ∈ s.head?, c ≠ '=' ∧ c ≠ '!') ∨
        (s = '=' :: rest ∨ s = '!' :: rest) ∧ ∀ c ∈ rest.head?, c ≠ '=' := by
  constructor
  · intro h
    unfold readOperator at h
    split at h
    · cases h
    · cases h
    · rename_i hne
      cases h
      refine Or.inr ⟨Or.inl rfl, ?_⟩
      rintro c hc rfl
      obtain ⟨tail, rfl⟩ := List.head?_eq_some_iff.1 hc
      exact hne tail rfl
    · rename_i hne
      cases h
      refine Or.inr ⟨Or.inr rfl, ?_⟩
      rintro c hc rfl
      obtain ⟨tail, rfl⟩ := List.head?_eq_some_iff.1 hc
      exact hne tail rfl
    · rename_i hequal hnot
      cases h
      refine Or.inl ⟨rfl, fun c hc => ?_⟩
      obtain ⟨tail, rfl⟩ := List.head?_eq_some_iff.1 hc
      exact ⟨fun e => hequal tail (e ▸ rfl), fun e => hnot tail (e ▸ rfl)⟩
  · rintro (⟨rfl, hhead⟩ | ⟨rfl | rfl, hhead⟩)
    · cases rest with
      | nil => rfl
      | cons c t =>
        obtain ⟨hequal, hnot⟩ := hhead c rfl
        simp [readOperator, hequal, hnot]
    · cases rest with
      | nil => rfl
      | cons c t => simp [readOperator, hhead c rfl]
    · cases rest with
      | nil => rfl
      | cons c t => simp [readOperator, hhead c rfl]

theorem prompt_readOperator : Prompt readOperator := by
  intro s rest h
  rcases readOperator_eq_error_iff.1 h with ⟨rfl, hhead⟩ | ⟨rfl | rfl, hhead⟩
  · refine ⟨[], rfl, ⟨['=', '='], (.equal, []), rfl⟩, fun c hc more => ?_⟩
    exact readOperator_eq_error_iff.2 (Or.inl ⟨rfl, fun d hd => Option.some.inj hd ▸ hhead c hc⟩)
  · refine ⟨['='], rfl, ⟨['='], (.equal, []), rfl⟩, fun c hc more => ?_⟩
    exact readOperator_eq_error_iff.2
      (Or.inr ⟨Or.inl rfl, fun d hd => Option.some.inj hd ▸ hhead c hc⟩)
  · refine ⟨['!'], rfl, ⟨['='], (.notEqual, []), rfl⟩, fun c hc more => ?_⟩
    exact readOperator_eq_error_iff.2
      (Or.inr ⟨Or.inr rfl, fun d hd => Option.some.inj hd ▸ hhead c hc⟩)

theorem steady_readOperator : Steady readOperator := by
  intro s operator rest h
  rw [readOperator_eq_ok_iff.1 h]
  exact ⟨operator.written.toList, rfl, fun more => readOperator_eq_ok_iff.2 rfl⟩

theorem bare_of_readOperator {x : Operator × List Char} (h : readOperator s = .ok x) : Bare s := by
  rw [readOperator_eq_ok_iff.1 h]
  exact Layout.bare_written _ _

/-- **Comparisons are read promptly.** -/
theorem prompt_readChars : Prompt readChars := by
  have hquoted := prompt_readQuoted.behindBlanks fun _ _ => bare_of_readQuoted
  have hsteady := steady_readQuoted.behindBlanks fun _ _ => bare_of_readQuoted
  have hoperator := prompt_readOperator.behindBlanks fun _ _ => bare_of_readOperator
  have hsteady' := steady_readOperator.behindBlanks fun _ _ => bare_of_readOperator
  exact hquoted.bind hsteady fun left => hoperator.bind hsteady' fun operator =>
    hquoted.bind hsteady fun right =>
      prompt_blank (Comparison.mk (Fragment.split (.ofList left)) operator
        (Fragment.split (.ofList right)))

/-! ## The longest viable part -/

/-- A text that begins some condition that denotes a comparison. -/
def BeginsCondition (front : String) : Prop :=
  ∃ more c, Comparison.read (front ++ more) = .ok c

/-- The longest text in front of a condition that begins one that denotes a comparison. -/
structure LongestViable (condition front : String) : Prop where
  inFront : ∃ rest, condition = front ++ rest
  viable : BeginsCondition front
  longest : ∀ t, (∃ rest, condition = t ++ rest) → BeginsCondition t → t.length ≤ front.length

variable {condition front : String} {r : Refusal}

theorem beginsCondition_iff : BeginsCondition front ↔ Viable readChars front.toList := by
  constructor
  · rintro ⟨more, c, h⟩
    refine ⟨more.toList, c, ?_⟩
    rw [← String.toList_append]
    exact read_eq_ok_iff.1 h
  · rintro ⟨more, c, h⟩
    refine ⟨.ofList more, c, read_eq_ok_iff.2 ?_⟩
    rw [String.toList_append, String.toList_ofList]
    exact h

theorem read_eq_error_iff :
    Comparison.read condition = .error r ↔
      readChars condition.toList = .error r.rest ∧ condition.toList = r.viable ++ r.rest := by
  rw [Comparison.read]
  cases h : readChars condition.toList with
  | ok c => exact iff_of_false (by rintro ⟨⟩) (by rintro ⟨⟨⟩, -⟩)
  | error rest =>
    obtain ⟨viable, hviable, -⟩ := prompt_readChars _ _ h
    have hlen : condition.toList.length - rest.length = viable.length := by
      rw [hviable, List.length_append]
      omega
    have htake : condition.toList.take (condition.toList.length - rest.length) = viable := by
      rw [hlen, hviable, List.take_left]
    constructor
    · rintro ⟨⟩
      refine ⟨rfl, ?_⟩
      dsimp only
      rw [htake]
      exact hviable
    · rintro ⟨hrest, hsplit⟩
      cases hrest
      have hfront : r.viable = viable := List.append_cancel_right (hsplit.symm.trans hviable)
      simp only [Except.mapError, htake, ← hfront]

/-- **A condition is refused behind its longest viable part.** -/
theorem longestViable_of_read_eq_error (h : Comparison.read condition = .error r) :
    LongestViable condition (.ofList r.viable) ∧
      condition = .ofList r.viable ++ .ofList r.rest := by
  obtain ⟨hread, hsplit⟩ := read_eq_error_iff.1 h
  obtain ⟨front, hfront, hviable, hlongest⟩ := prompt_readChars.stuck_of_error hread
  have hsame : r.viable = front := List.append_cancel_right (hsplit.symm.trans hfront)
  have hcondition : condition = .ofList r.viable ++ .ofList r.rest := by
    rw [← String.toList_inj, hsplit]
    simp
  refine ⟨⟨⟨_, hcondition⟩, beginsCondition_iff.2 (by simpa [hsame] using hviable), ?_⟩, hcondition⟩
  rintro t ⟨rest, ht⟩ hbegins
  have hle := hlongest t.toList ⟨rest.toList, by rw [ht, String.toList_append]⟩
    (beginsCondition_iff.1 hbegins)
  rw [String.length_toList, ← hsame] at hle
  rw [String.length_ofList]
  exact hle

theorem LongestViable.unique {front' : String} (h : LongestViable condition front)
    (h' : LongestViable condition front') : front = front' := by
  obtain ⟨rest, hrest⟩ := h.inFront
  obtain ⟨rest', hrest'⟩ := h'.inFront
  have hlen : front.length = front'.length :=
    Nat.le_antisymm (h'.longest _ h.inFront h.viable) (h.longest _ h'.inFront h'.viable)
  have happend : front.toList ++ rest.toList = front'.toList ++ rest'.toList := by
    rw [← String.toList_append, ← String.toList_append, ← hrest, hrest']
  exact String.toList_inj.1 (List.append_inj happend (by simpa [String.length_toList] using hlen)).1

theorem exists_longestViable (condition : String) : ∃ front, LongestViable condition front := by
  cases h : Comparison.read condition with
  | error r => exact ⟨_, (longestViable_of_read_eq_error h).1⟩
  | ok c =>
    refine ⟨condition, ⟨"", (String.append_empty ..).symm⟩, ⟨"", c, ?_⟩, ?_⟩
    · rw [String.append_empty]
      exact h
    · rintro t ⟨rest, rfl⟩ -
      simp

end Comparison

/-! ## The message -/

/-- The message about what stands at a place of a condition, in bytes. -/
def Refusal.told (condition found : String) (start stop : Nat) : String :=
  "Failed to parse condition '" ++ condition ++ "': found " ++ found ++ " at " ++ toString start ++
    ".." ++ toString stop

/-- What is said about the place behind `front` in a condition: that the condition ends there, or
which character stands there. -/
inductive Refusal.Reports (condition front : String) : String → Prop
  | atEnd (h : condition = front) : Reports condition front
    (told condition "end of input" condition.utf8ByteSize condition.utf8ByteSize)
  | atCharacter {c : Char} {rest : String} (h : condition = front ++ (String.singleton c ++ rest)) :
    Reports condition front (told condition ("''" ++ shown c ++ "''") front.utf8ByteSize
      (front.utf8ByteSize + c.utf8Size))

theorem utf8ByteSize_ofList (s : List Char) : (String.ofList s).utf8ByteSize = bytes s := by
  induction s with
  | nil => rfl
  | cons c s ih =>
    rw [String.ofList_cons, String.utf8ByteSize_append, String.utf8ByteSize_singleton, ih, bytes]

theorem Refusal.message_nil (viable : List Char) :
    message ⟨viable, []⟩ = told (.ofList viable) "end of input" (bytes viable) (bytes viable) := by
  have hat : "end of input at " = "end of input" ++ " at " := by decide +kernel
  unfold message told
  simp only [List.append_nil, hat, String.append_assoc]

theorem Refusal.message_cons (viable : List Char) (c : Char) (rest : List Char) :
    message ⟨viable, c :: rest⟩ = told (.ofList (viable ++ c :: rest)) ("''" ++ shown c ++ "''")
      (bytes viable) (bytes viable + c.utf8Size) := by
  have hat : "'' at " = "''" ++ " at " := by decide +kernel
  unfold message told
  simp only [hat, String.append_assoc]

/-- **A message reports the place of its refusal.** -/
theorem Refusal.reports_message (r : Refusal) :
    Reports (.ofList r.viable ++ .ofList r.rest) (.ofList r.viable) r.message := by
  obtain ⟨viable, rest⟩ := r
  cases rest with
  | nil =>
    have hend : Reports (.ofList viable) (.ofList viable) _ := .atEnd rfl
    rw [utf8ByteSize_ofList] at hend
    rw [message_nil, String.ofList_nil, String.append_empty]
    exact hend
  | cons c tail =>
    rw [message_cons, String.ofList_append, String.ofList_cons, ← utf8ByteSize_ofList]
    exact .atCharacter rfl

theorem Refusal.Reports.unique {condition front message message' : String}
    (h : Reports condition front message) (h' : Reports condition front message') :
    message = message' := by
  cases h with
  | atEnd hend =>
    cases h' with
    | atEnd _ => rfl
    | atCharacter hmore =>
      have hlen := congrArg String.length (hend.symm.trans hmore)
      simp at hlen
  | atCharacter hmore =>
    cases h' with
    | atEnd hend =>
      have hlen := congrArg String.length (hend.symm.trans hmore)
      simp at hlen
    | atCharacter hmore' =>
      have hcons := congrArg String.toList (hmore.symm.trans hmore')
      simp only [String.toList_append, String.toList_singleton, List.append_cancel_left_eq,
        List.singleton_append, List.cons.injEq] at hcons
      rw [hcons.1]

/-- **A condition that denotes no comparison is refused where it stops being viable**: behind the
longest text in front of it that begins a condition which does. If this is the whole of it, the end
is reported, in bytes; if not, the character behind it is, with the bytes that it takes. -/
theorem Comparison.refused_where_viability_ends (condition message : String) :
    (∃! front, LongestViable condition front) ∧
      ((∃ r, Comparison.read condition = .error r ∧ r.message = message) ↔
        (∀ c, Comparison.read condition ≠ .ok c) ∧
          ∃ front, LongestViable condition front ∧ Refusal.Reports condition front message) := by
  obtain ⟨front, hfront⟩ := exists_longestViable condition
  refine ⟨⟨front, hfront, fun _ h => h.unique hfront⟩, ?_, ?_⟩
  · rintro ⟨r, hr, rfl⟩
    obtain ⟨hlongest, hcondition⟩ := longestViable_of_read_eq_error hr
    refine ⟨fun c hc => ?_, _, hlongest, ?_⟩
    · rw [hr] at hc
      cases hc
    · have hreports := r.reports_message
      rwa [← hcondition] at hreports
  · rintro ⟨hrefused, front', hfront', hreports⟩
    cases hr : Comparison.read condition with
    | ok c => exact absurd hr (hrefused c)
    | error r =>
      obtain ⟨hlongest, hcondition⟩ := longestViable_of_read_eq_error hr
      cases hfront'.unique hlongest
      have hmessage := r.reports_message
      rw [← hcondition] at hmessage
      exact ⟨r, rfl, hmessage.unique hreports⟩

/-- Conditions that are refused, and what is said: behind the first character of an operator only
the second one is viable; a character that cannot be printed is shown by its number, and an
apostrophe with a backslash in front of it; a quoted text may be open at the end. -/
def refusedTrials : List (String × String) :=
  [("'é' = 'b'", "Failed to parse condition ''é' = 'b'': found '' '' at 6..7"),
    ("'a'\u200b", "Failed to parse condition ''a'\u200b': found ''\\u\x7b200b\x7d'' at 3..6"),
    ("'a' == 'b''", "Failed to parse condition ''a' == 'b''': found ''\\''' at 10..11"),
    ("'a' != 'é", "Failed to parse condition ''a' != 'é': found end of input at 10..10")]

theorem Comparison.refused_where_viability_ends_trial :
    ∀ e ∈ refusedTrials, (Comparison.read e.1).mapError Refusal.message = .error e.2 ∧
      ∃ front, LongestViable e.1 front ∧ Refusal.Reports e.1 front e.2 := by
  have hrefused : ∀ e ∈ refusedTrials,
      (Comparison.read e.1).mapError Refusal.message = .error e.2 := by
    decide +kernel
  intro e he
  refine ⟨hrefused e he, ?_⟩
  have hread := hrefused e he
  cases hr : Comparison.read e.1 with
  | ok c =>
    rw [hr] at hread
    cases hread
  | error r =>
    rw [hr] at hread
    obtain ⟨-, hiff⟩ := refused_where_viability_ends e.1 e.2
    exact (hiff.1 ⟨r, hr, Except.error.inj hread⟩).2

end TypeScriptBuild
