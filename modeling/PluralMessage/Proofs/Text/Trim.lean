import PluralMessage.Proofs.Text.Run

/-!
Cuts at blanks. A text with no blank at its ends is found again when blanks are put around it, and a
word is found again when blanks stand behind it.
-/
namespace PluralMessage.Text

/-- No blank stands at either end. -/
def Trimmed (s : List Char) : Prop :=
  Clear isBlank s ∧ Clear isBlank s.reverse

instance : DecidablePred Trimmed :=
  fun s => inferInstanceAs (Decidable (Clear isBlank s ∧ Clear isBlank s.reverse))

theorem trimLeft_of_clear {s : List Char} (h : Clear isBlank s) : trimLeft s = s := by
  have hdrop := dropWhile_run (List.forall_mem_nil _) h
  rwa [List.nil_append] at hdrop

theorem trimRight_append {s b : List Char} (hb : ∀ c ∈ b, isBlank c = true)
    (hs : Clear isBlank s.reverse) : trimRight (s ++ b) = s := by
  rw [trimRight, List.reverse_append, dropWhile_run (by simpa using hb) hs, List.reverse_reverse]

theorem trim_padded {s a b : List Char} (ha : ∀ c ∈ a, isBlank c = true)
    (hb : ∀ c ∈ b, isBlank c = true) (hs : Trimmed s) : trim (a ++ s ++ b) = s := by
  rw [trim, trimLeft, List.append_assoc, List.dropWhile_append_of_pos ha]
  cases s with
  | nil => rw [List.nil_append, ← List.append_nil b, dropWhile_run hb (clear_nil _)]; rfl
  | cons c s =>
      have hclear : Clear isBlank (c :: s ++ b) := clear_cons.2 (clear_cons.1 hs.1)
      rw [← trimLeft, trimLeft_of_clear hclear, trimRight_append hb hs.2]

/-- A character that is no blank stays in front. -/
theorem trim_cons {c : Char} (h : isBlank c = false) (s : List Char) :
    ∃ t, trim (c :: s) = c :: t := by
  rw [trim, trimLeft, List.dropWhile_cons_of_neg (by simp [h]), trimRight, List.reverse_cons,
    List.dropWhile_append]
  split
  · exact ⟨[], by simp [h]⟩
  · exact ⟨trimRight s, by simp [trimRight]⟩

theorem trim_of_trimmed {s : List Char} (h : Trimmed s) : trim s = s := by
  have hpad := trim_padded (List.forall_mem_nil _) (List.forall_mem_nil _) h
  rwa [List.nil_append, List.append_nil] at hpad

/-- Only the two ends count. -/
theorem trimmed_append {s t : List Char} (hs : Clear isBlank s) (hne : s ≠ [])
    (ht : Clear isBlank t.reverse) (hnet : t ≠ []) (middle : List Char) :
    Trimmed (s ++ (middle ++ t)) := by
  constructor
  · cases s with
    | nil => exact absurd rfl hne
    | cons c s => exact clear_cons.2 (clear_cons.1 hs)
  · rw [List.reverse_append, List.reverse_append]
    cases hr : t.reverse with
    | nil => exact absurd (List.reverse_eq_nil_iff.1 hr) hnet
    | cons c r => exact clear_cons.2 (clear_cons.1 (hr ▸ ht))

theorem trimmed_of_no_blank {s : List Char} (h : ∀ c ∈ s, isBlank c = false) : Trimmed s := by
  constructor
  · intro c hc
    exact h c (List.mem_of_mem_head? hc)
  · intro c hc
    exact h c (List.mem_reverse.1 (List.mem_of_mem_head? hc))

theorem trimRight_isPrefix (s : List Char) : trimRight s <+: s := by
  rw [trimRight, ← List.reverse_suffix, List.reverse_reverse]
  exact List.dropWhile_suffix _

theorem trimmed_trim (s : List Char) : Trimmed (trim s) := by
  constructor
  · exact Clear.of_isPrefix (clear_dropWhile _ s) (trimRight_isPrefix (trimLeft s))
  · rw [trim, trimRight, List.reverse_reverse]
    exact clear_dropWhile _ _

theorem afterFirstWord_isSuffix (s : List Char) : afterFirstWord s <:+ s :=
  (List.dropWhile_suffix _).trans (List.dropWhile_suffix _)

theorem trimmed_afterFirstWord {s : List Char} (h : Trimmed s) : Trimmed (afterFirstWord s) :=
  ⟨clear_dropWhile _ _, h.2.of_isPrefix (List.reverse_prefix.2 (afterFirstWord_isSuffix s))⟩

theorem firstWord_ne_nil {s : List Char} (h : Clear isBlank s) (hne : s ≠ []) :
    firstWord s ≠ [] := by
  cases s with
  | nil => exact absurd rfl hne
  | cons c s =>
      rw [firstWord, List.takeWhile_cons_of_pos (by simp [clear_cons.1 h])]
      exact List.cons_ne_nil _ _

theorem not_isBlank_of_mem_firstWord {s : List Char} {c : Char} (h : c ∈ firstWord s) :
    isBlank c = false := by
  simpa using List.all_eq_true.1 List.all_takeWhile c h

theorem trim_firstWord (s : List Char) : trim (firstWord s) = firstWord s :=
  trim_of_trimmed (trimmed_of_no_blank fun _ => not_isBlank_of_mem_firstWord)

/-- What follows a word without blanks: nothing, or a blank. -/
theorem firstWord_append {word rest : List Char} (hw : ∀ c ∈ word, isBlank c = false)
    (hr : Clear (fun c => !isBlank c) rest) : firstWord (word ++ rest) = word :=
  takeWhile_run (fun c hc => by simp [hw c hc]) hr

theorem afterFirstWord_append {word rest : List Char} (hw : ∀ c ∈ word, isBlank c = false)
    (hr : Clear (fun c => !isBlank c) rest) : afterFirstWord (word ++ rest) = trimLeft rest := by
  rw [afterFirstWord, dropWhile_run (fun c hc => by simp [hw c hc]) hr]

end PluralMessage.Text
