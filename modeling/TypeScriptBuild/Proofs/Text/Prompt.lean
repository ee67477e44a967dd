import TypeScriptBuild.Proofs.Text.Cut

/-!
# Prompt readers

A reader that refuses a text says from where on. It is prompt if that is the first place where the
text cannot be continued to one that is read: what stands in front of it can, and with one more
character it cannot, whatever follows. A reader made of prompt stages is prompt itself, if each
stage takes the same off the front of a text whatever follows.

* `Viable`: a text that begins some text that is read.
* `Prompt`, `Steady`: readers that refuse promptly, and stages that do not look ahead.
* `Prompt.bind`, `Prompt.behindBlanks`: readers made of stages.
* `Prompt.stuck_of_error`: a prompt reader stops behind the longest front that is viable.
-/

namespace TypeScriptBuild.Text

variable {α β : Type}

/-- A text that begins some text that is read. -/
def Viable (read : List Char → Except (List Char) α) (front : List Char) : Prop :=
  ∃ more a, read (front ++ more) = .ok a

/-- A text is refused from `rest` on, behind a viable front, and it would be with any other
characters behind the first of them. -/
structure StuckAt (read : List Char → Except (List Char) α) (front rest : List Char) : Prop where
  viable : Viable read front
  stuck : ∀ c ∈ rest.head?, ∀ more, read (front ++ c :: more) = .error (c :: more)

/-- A reader refuses a text at the first character that rules it out. -/
def Prompt (read : List Char → Except (List Char) α) : Prop :=
  ∀ s rest, read s = .error rest → ∃ front, s = front ++ rest ∧ StuckAt read front rest

/-- A stage of a reader takes a value off the front of a text, whatever follows there. -/
def Steady (stage : List Char → Except (List Char) (α × List Char)) : Prop :=
  ∀ s a rest, stage s = .ok (a, rest) →
    ∃ front, s = front ++ rest ∧ ∀ more, stage (front ++ more) = .ok (a, more)

/-- A prompt reader reads something, since it has to continue what it refuses. -/
theorem Prompt.exists_ok {read : List Char → Except (List Char) α} (h : Prompt read) :
    ∃ s a, read s = .ok a := by
  cases hnil : read [] with
  | ok a => exact ⟨[], a, hnil⟩
  | error rest =>
    obtain ⟨front, -, ⟨more, a, ha⟩, -⟩ := h [] rest hnil
    exact ⟨front ++ more, a, ha⟩

/-! ## Stages -/

section Stages

variable {stage : List Char → Except (List Char) (α × List Char)}
  {next : α → List Char → Except (List Char) β} {front rest s : List Char} {a : α}

/-- Where a stage is stuck, its front can be continued to one that the stage takes whole. -/
theorem Steady.exists_taken (hsteady : Steady stage) (hs : stage (front ++ rest) = .error rest)
    (h : Viable stage front) :
    ∃ more a, ∀ behind, stage (front ++ (more ++ behind)) = .ok (a, behind) := by
  obtain ⟨more, ⟨a, left⟩, htaken⟩ := h
  obtain ⟨taken, hfront, hwhole⟩ := hsteady _ _ _ htaken
  rcases List.append_eq_append_iff.1 hfront with ⟨tail, rfl, -⟩ | ⟨tail, rfl, -⟩
  · refine ⟨tail, a, fun behind => ?_⟩
    rw [← List.append_assoc]
    exact hwhole behind
  · -- the stage would have taken a part of the front of the text that it refuses
    rw [List.append_assoc, hwhole] at hs
    cases hs

/-- The first stage is stuck, and so is the whole. -/
theorem StuckAt.bind_left (hsteady : Steady stage) (hnext : ∀ a, Prompt (next a))
    (hs : stage (front ++ rest) = .error rest) (h : StuckAt stage front rest) :
    StuckAt (fun s => stage s >>= fun x => next x.1 x.2) front rest := by
  refine ⟨?_, fun c hc more => ?_⟩
  · obtain ⟨more, a, htaken⟩ := hsteady.exists_taken hs h.viable
    obtain ⟨behind, b, hb⟩ := (hnext a).exists_ok
    refine ⟨more ++ behind, b, ?_⟩
    simp only [htaken]
    exact hb
  · simp only [h.stuck c hc more]
    rfl

/-- Behind the front that the first stage takes, the next one is stuck, and so is the whole. -/
theorem StuckAt.bind_right {taken : List Char}
    (htaken : ∀ more, stage (taken ++ more) = .ok (a, more)) (h : StuckAt (next a) front rest) :
    StuckAt (fun s => stage s >>= fun x => next x.1 x.2) (taken ++ front) rest := by
  refine ⟨?_, fun c hc more => ?_⟩
  · obtain ⟨more, b, hb⟩ := h.viable
    refine ⟨more, b, ?_⟩
    simp only [List.append_assoc, htaken]
    exact hb
  · simp only [List.append_assoc, htaken]
    exact h.stuck c hc more

/-- **One stage after another** is prompt if both are. -/
theorem Prompt.bind (hsteady : Steady stage) (hstage : Prompt stage)
    (hnext : ∀ a, Prompt (next a)) : Prompt fun s => stage s >>= fun x => next x.1 x.2 := by
  intro s rest h
  cases hs : stage s with
  | error rest' =>
    simp only [hs] at h
    cases h
    obtain ⟨front, rfl, hstuck⟩ := hstage s rest hs
    exact ⟨front, rfl, hstuck.bind_left hsteady hnext hs⟩
  | ok x =>
    obtain ⟨a, s'⟩ := x
    simp only [hs] at h
    obtain ⟨taken, rfl, htaken⟩ := hsteady s a s' hs
    obtain ⟨front, rfl, hstuck⟩ := hnext a s' rest h
    exact ⟨taken ++ front, (List.append_assoc ..).symm, hstuck.bind_right htaken⟩

end Stages

/-! ## Blanks in front -/

section Blanks

variable {read : List Char → Except (List Char) α}
  {stage : List Char → Except (List Char) (α × List Char)}

theorem bare_append_cons {front : List Char} {c : Char} {s : List Char} (h : Bare (front ++ c :: s))
    (t : List Char) : Bare (front ++ c :: t) := by
  cases front with
  | nil => exact bare_cons (h c rfl) t
  | cons d front => exact bare_cons (h d rfl) _

theorem dropBlanks_append_bare {w t : List Char} (hw : ∀ c ∈ w, isBlank c = true) (ht : Bare t) :
    dropBlanks (w ++ t) = t :=
  dropBlanks_eq_iff.2 ⟨ht, w, hw, rfl⟩

/-- **Blanks in front of a text** may be passed over by a reader of texts that begin with none. -/
theorem Prompt.behindBlanks (hread : Prompt read) (hbare : ∀ s a, read s = .ok a → Bare s) :
    Prompt fun s => read (dropBlanks s) := by
  intro s rest h
  obtain ⟨hs, w, hw, hsplit⟩ := dropBlanks_eq_iff.1 (Eq.refl (dropBlanks s))
  obtain ⟨front, hfront, ⟨more, a, ha⟩, hstuck⟩ := hread _ rest h
  refine ⟨w ++ front, ?_, ⟨more, a, ?_⟩, fun c hc tail => ?_⟩
  · rw [List.append_assoc, ← hfront, ← hsplit]
  · simp only [List.append_assoc, dropBlanks_append_bare hw (hbare _ _ ha)]
    exact ha
  · obtain ⟨tail', rfl⟩ := List.head?_eq_some_iff.1 hc
    rw [hfront] at hs
    simp only [List.append_assoc, dropBlanks_append_bare hw (bare_append_cons hs tail)]
    exact hstuck c hc tail

theorem Steady.behindBlanks (hstage : Steady stage) (hbare : ∀ s x, stage s = .ok x → Bare s) :
    Steady fun s => stage (dropBlanks s) := by
  intro s a rest h
  obtain ⟨-, w, hw, hsplit⟩ := dropBlanks_eq_iff.1 (Eq.refl (dropBlanks s))
  obtain ⟨front, hfront, htaken⟩ := hstage _ a rest h
  refine ⟨w ++ front, ?_, fun more => ?_⟩
  · rw [List.append_assoc, ← hfront, ← hsplit]
  · have hmore := htaken more
    simp only [List.append_assoc, dropBlanks_append_bare hw (hbare _ _ hmore)]
    exact hmore

/-- A reader that takes nothing but blanks is stuck at the first other character. -/
theorem prompt_blank (a : α) :
    Prompt fun s => match dropBlanks s with
      | [] => .ok a
      | rest => .error rest := by
  intro s rest h
  obtain ⟨hs, w, hw, hsplit⟩ := dropBlanks_eq_iff.1 (Eq.refl (dropBlanks s))
  dsimp only at h
  split at h
  · cases h
  · cases h
    refine ⟨w, hsplit, ⟨[], a, ?_⟩, fun c hc more => ?_⟩
    · have hnone : dropBlanks w = [] := List.dropWhile_eq_nil_iff.2 hw
      simp [hnone]
    · simp [dropBlanks_append_bare hw (bare_cons (hs c hc) more)]

end Blanks

/-! ## The longest viable front -/

/-- **A prompt reader stops behind the longest viable front** of the text that it refuses. -/
theorem Prompt.stuck_of_error {read : List Char → Except (List Char) α} (h : Prompt read)
    {s rest : List Char} (hs : read s = .error rest) :
    ∃ front, s = front ++ rest ∧ Viable read front ∧
      ∀ t, t <+: s → Viable read t → t.length ≤ front.length := by
  obtain ⟨front, rfl, hviable, hstuck⟩ := h s rest hs
  refine ⟨front, rfl, hviable, ?_⟩
  rintro t ⟨behind, ht⟩ ⟨more, a, ha⟩
  by_contra hlt
  rcases List.append_eq_append_iff.1 ht with ⟨tail, rfl, -⟩ | ⟨tail, rfl, hrest⟩
  · simp at hlt
  · cases tail with
    | nil => simp at hlt
    | cons c tail =>
      -- `t` goes on behind the front with the character at which the reader is stuck
      have hc : c ∈ rest.head? := by rw [hrest]; rfl
      rw [List.append_assoc, List.cons_append, hstuck c hc] at ha
      cases ha

end TypeScriptBuild.Text
