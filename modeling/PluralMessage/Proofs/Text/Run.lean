import PluralMessage.Text.Blank

/-!
Runs of characters of one class. Where a run ends is decided by the first character outside its
class, so a run and a rest that does not go on with it are found again in the text that they form.
-/
namespace PluralMessage.Text

/-- No character of the class stands in front of the text. -/
def Clear (p : Char → Bool) (s : List Char) : Prop :=
  ∀ c ∈ s.head?, p c = false

theorem clear_nil (p : Char → Bool) : Clear p [] := by
  intro c hc
  cases hc

theorem clear_cons {p : Char → Bool} {c : Char} {s : List Char} :
    Clear p (c :: s) ↔ p c = false := by
  simp [Clear]

instance (p : Char → Bool) : DecidablePred (Clear p)
  | [] => isTrue (clear_nil p)
  | _ :: _ => decidable_of_iff _ clear_cons.symm

theorem Clear.of_isPrefix {p : Char → Bool} {s t : List Char} (h : Clear p t) (hs : s <+: t) :
    Clear p s := by
  obtain ⟨rest, rfl⟩ := hs
  cases s with
  | nil => exact clear_nil p
  | cons c s => exact clear_cons.2 (clear_cons.1 h)

/-- A run in front of a text in which none may stand is empty. -/
theorem eq_nil_of_clear_append {p : Char → Bool} {run s : List Char} (h : Clear p (run ++ s))
    (hr : ∀ c ∈ run, p c = true) : run = [] := by
  cases run with
  | nil => rfl
  | cons c run =>
      have hc := clear_cons.1 h
      rw [hr c List.mem_cons_self] at hc
      cases hc

theorem clear_dropWhile (p : Char → Bool) (s : List Char) : Clear p (s.dropWhile p) := by
  induction s with
  | nil => exact clear_nil p
  | cons c s ih =>
      cases hc : p c with
      | true => rwa [List.dropWhile_cons_of_pos hc]
      | false =>
          rw [List.dropWhile_cons_of_neg (by simp [hc])]
          exact clear_cons.2 hc

theorem takeWhile_run {p : Char → Bool} {run s : List Char} (hr : ∀ c ∈ run, p c = true)
    (hs : Clear p s) : (run ++ s).takeWhile p = run := by
  rw [List.takeWhile_append_of_pos hr]
  cases s with
  | nil => simp
  | cons c s => rw [List.takeWhile_cons_of_neg (by simp [clear_cons.1 hs]), List.append_nil]

theorem dropWhile_run {p : Char → Bool} {run s : List Char} (hr : ∀ c ∈ run, p c = true)
    (hs : Clear p s) : (run ++ s).dropWhile p = s := by
  rw [List.dropWhile_append_of_pos hr]
  cases s with
  | nil => rfl
  | cons c s => exact List.dropWhile_cons_of_neg (by simp [clear_cons.1 hs])

theorem run_unique {p : Char → Bool} {a b s t : List Char} (ha : ∀ c ∈ a, p c = true)
    (hb : ∀ c ∈ b, p c = true) (hs : Clear p s) (ht : Clear p t) (h : a ++ s = b ++ t) :
    a = b ∧ s = t := by
  constructor
  · rw [← takeWhile_run ha hs, h, takeWhile_run hb ht]
  · rw [← dropWhile_run ha hs, h, dropWhile_run hb ht]

theorem isBlank_of_mem_takeWhile {s : List Char} {c : Char} (h : c ∈ s.takeWhile isBlank) :
    isBlank c = true :=
  List.all_eq_true.1 List.all_takeWhile c h

end PluralMessage.Text
