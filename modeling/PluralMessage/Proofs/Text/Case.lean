import PluralMessage.Text.Case

/-!
What upper case leaves as it is. A text is its own upper case if and only if each of its characters
is, and capitalizing its first word changes a text only through the first word character. A colon is
the upper case of nothing else.
-/
namespace PluralMessage.Text

theorem expansion_ne_nil : ∀ e ∈ upperExpansions, e.2 ≠ [] := by
  decide

theorem colon_notMem_expansion : ∀ e ∈ upperExpansions, ':'.toNat ∉ e.2 := by
  decide

theorem colon_lt_shifted :
    ∀ shift ∈ upperShifts, (':'.toNat : Int) < shift.first + shift.offset := by
  decide +kernel

theorem mem_of_lookup {codes : List Nat} {n : Nat} (h : upperExpansions.lookup n = some codes) :
    (n, codes) ∈ upperExpansions := by
  obtain ⟨before, after, hsplit, -⟩ := List.lookup_eq_some_iff.1 h
  rw [hsplit]
  exact List.mem_append_right _ List.mem_cons_self

theorem upperChar_ne_nil (c : Char) : upperChar c ≠ [] := by
  unfold upperChar
  split
  · rename_i codes h
    simpa using expansion_ne_nil _ (mem_of_lookup h)
  · exact List.cons_ne_nil _ _

theorem upper_cons (c : Char) (s : List Char) : upper (c :: s) = upperChar c ++ upper s :=
  List.flatMap_cons

theorem length_le_upper (s : List Char) : s.length ≤ (upper s).length := by
  induction s with
  | nil => exact Nat.zero_le _
  | cons c s ih =>
      have hc := List.length_pos_iff.2 (upperChar_ne_nil c)
      rw [upper_cons, List.length_append, List.length_cons]
      omega

theorem upper_eq_self_iff {s : List Char} : upper s = s ↔ ∀ c ∈ s, upperChar c = [c] := by
  induction s with
  | nil => simp [upper]
  | cons c s ih =>
      rw [upper_cons, List.forall_mem_cons, ← ih]
      constructor
      · intro h
        -- No upper case is shorter than its text, so that of `c` is one character.
        have hc := List.length_pos_iff.2 (upperChar_ne_nil c)
        have hs := length_le_upper s
        have hlength := congrArg List.length h
        rw [List.length_append, List.length_cons] at hlength
        obtain ⟨d, hd⟩ := List.length_eq_one_iff.1 (by omega : (upperChar c).length = 1)
        rw [hd, List.singleton_append, List.cons.injEq] at h
        exact ⟨by rw [hd, h.1], h.2⟩
      · rintro ⟨hc, hs⟩
        rw [hc, hs, List.singleton_append]

theorem capitalizeFirstWord_eq_self_iff {s : List Char} :
    capitalizeFirstWord s = s ↔ ∀ c ∈ s.find? isWord, upperChar c = [c] := by
  induction s with
  | nil => simp [capitalizeFirstWord]
  | cons c s ih =>
      rw [capitalizeFirstWord]
      cases hc : isWord c with
      | true =>
          have hcancel : upperChar c ++ s = [c] ++ s ↔ upperChar c = [c] := List.append_left_inj s
          rw [if_pos rfl, List.find?_cons_of_pos hc]
          simpa using hcancel
      | false =>
          rw [if_neg Bool.false_ne_true, List.find?_cons_of_neg (by simp [hc]), List.cons.injEq,
            ← ih]
          simp

theorem toNat_of_ofNat_eq_colon {n : Nat} (h : Char.ofNat n = ':') : n = ':'.toNat := by
  by_cases hvalid : n.isValidChar
  · rw [Char.ofNat, dif_pos hvalid] at h
    exact congrArg Char.toNat h
  · rw [Char.ofNat, dif_neg hvalid] at h
    exact absurd h (by decide)

theorem colon_notMem_upperChar {c : Char} (hc : c ≠ ':') : ':' ∉ upperChar c := by
  unfold upperChar
  split
  · rename_i codes h
    intro hmem
    obtain ⟨n, hn, hcolon⟩ := List.mem_map.1 hmem
    rw [toNat_of_ofNat_eq_colon hcolon] at hn
    exact colon_notMem_expansion _ (mem_of_lookup h) hn
  · intro hmem
    rw [List.mem_singleton] at hmem
    cases hshift : shiftBy? upperShifts c with
    | none =>
        rw [hshift, Option.getD_none] at hmem
        exact hc hmem.symm
    | some d =>
        rw [hshift, Option.getD_some] at hmem
        obtain ⟨shift, hfind, rfl⟩ := Option.map_eq_some_iff.1 hshift
        have hcovers := List.find?_some hfind
        have hlt := colon_lt_shifted shift (List.mem_of_find?_eq_some hfind)
        have hcolon := toNat_of_ofNat_eq_colon hmem.symm
        simp only [Shift.covers, Bool.and_eq_true, decide_eq_true_eq] at hcovers
        omega

theorem colon_notMem_upper {s : List Char} (h : ':' ∉ s) : ':' ∉ upper s := by
  intro hmem
  obtain ⟨c, hc, hcolon⟩ := List.mem_flatMap.1 hmem
  refine colon_notMem_upperChar ?_ hcolon
  rintro rfl
  exact h hc

theorem colon_notMem_capitalize {s : List Char} (h : ':' ∉ s) : ':' ∉ capitalize s := by
  cases s with
  | nil => exact List.not_mem_nil
  | cons c s =>
      simp only [List.mem_cons, not_or] at h
      rw [capitalize, List.mem_append]
      rintro (hmem | hmem)
      · exact colon_notMem_upperChar (Ne.symm h.1) hmem
      · exact h.2 hmem

end PluralMessage.Text
