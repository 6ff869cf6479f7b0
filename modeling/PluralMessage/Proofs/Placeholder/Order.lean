import PluralMessage.Placeholder

/-!
The order in which names are replaced. Items are put in order by the length of their names and by
nothing else, so those of one length keep their order; and this tells everything about the order.
-/
namespace PluralMessage.Placeholder

section
variable {α : Type} {name : α → List Char}

/-- The sort is stable: of the items with names of one length it changes nothing. -/
theorem filter_longestFirst (items : List α) (n : Nat) :
    (longestFirst name items).filter (fun a => (name a).length = n) =
      items.filter (fun a => (name a).length = n) := by
  have hsorted : (items.filter fun a => (name a).length = n).Pairwise
      fun a b => decide ((name b).length ≤ (name a).length) = true := by
    refine List.pairwise_of_forall_mem_list fun a ha b hb => ?_
    simp only [List.mem_filter, decide_eq_true_eq] at ha hb ⊢
    omega
  have hsub : (items.filter fun a => (name a).length = n).Sublist (longestFirst name items) :=
    List.sublist_mergeSort (notShorter_trans name) (notShorter_total name) hsorted
      List.filter_sublist
  have hfilter := hsub.filter fun a => decide ((name a).length = n)
  rw [List.filter_filter, funext fun a => Bool.and_self _] at hfilter
  exact (hfilter.eq_of_length ((longestFirst_perm name items).filter _).length_eq.symm).symm

theorem length_le_head {a b : α} {bs : List α}
    (h : (b :: bs).Pairwise fun a b => (name b).length ≤ (name a).length) (ha : a ∈ b :: bs) :
    (name a).length ≤ (name b).length := by
  rcases List.mem_cons.1 ha with rfl | ha
  · exact Nat.le_refl _
  · exact List.rel_of_pairwise_cons h ha

/-- Two lists with the longest names first are one if they have the same items for each length, in
the same order. -/
theorem eq_of_filter_eq {as bs : List α}
    (ha : as.Pairwise fun a b => (name b).length ≤ (name a).length)
    (hb : bs.Pairwise fun a b => (name b).length ≤ (name a).length)
    (h : ∀ n, as.filter (fun a => (name a).length = n) = bs.filter fun a => (name a).length = n) :
    as = bs := by
  induction as generalizing bs with
  | nil =>
      cases bs with
      | nil => rfl
      | cons b bs =>
          have hlength := h (name b).length
          simp at hlength
  | cons a as ih =>
      cases bs with
      | nil =>
          have hlength := h (name a).length
          simp at hlength
      | cons b bs =>
          have hmem : ∀ c, c ∈ a :: as ↔ c ∈ b :: bs := by
            intro c
            have hc := congrArg (c ∈ ·) (h (name c).length)
            simpa only [List.mem_filter, decide_true, and_true, eq_iff_iff] using hc
          have hlength : (name a).length = (name b).length :=
            Nat.le_antisymm (length_le_head hb ((hmem a).1 List.mem_cons_self))
              (length_le_head ha ((hmem b).2 List.mem_cons_self))
          have hhead := h (name a).length
          rw [List.filter_cons_of_pos (by simp), List.filter_cons_of_pos (by simp [hlength]),
            List.cons.injEq] at hhead
          obtain rfl := hhead.1
          rw [ih ha.of_cons hb.of_cons fun n => ?_]
          have hn := h n
          rw [List.filter_cons, List.filter_cons] at hn
          split at hn
          · exact (List.cons.inj hn).2
          · exact hn

variable (name) in
/-- Of the items of one length, a condition on the length keeps all or none. -/
theorem filter_filter_length (items : List α) {p : α → Bool} {m : Nat} {b : Bool}
    (h : ∀ a, (name a).length = m → p a = b) :
    (items.filter p).filter (fun a => (name a).length = m) =
      if b then items.filter (fun a => (name a).length = m) else [] := by
  rw [List.filter_filter]
  cases b with
  | true =>
      refine List.filter_congr fun a _ => ?_
      by_cases hm : (name a).length = m
      · rw [h a hm, Bool.and_true]
      · simp [hm]
  | false =>
      refine List.filter_eq_nil_iff.2 fun a _ ha => ?_
      simp only [Bool.and_eq_true, decide_eq_true_eq] at ha
      rw [h a ha.1] at ha
      exact absurd ha.2 Bool.false_ne_true

theorem pairwise_filter_length (items : List α) (n : Nat) :
    (items.filter fun a => (name a).length = n).Pairwise
      fun a b => (name b).length ≤ (name a).length := by
  refine List.pairwise_of_forall_mem_list fun a ha b hb => ?_
  simp only [List.mem_filter, decide_eq_true_eq] at ha hb
  omega

/-- The longer names, those of a length as they are, and the shorter names. -/
theorem longestFirst_eq_append (items : List α) (n : Nat) :
    longestFirst name items =
      longestFirst name (items.filter fun a => n < (name a).length) ++
        (items.filter (fun a => (name a).length = n) ++
          longestFirst name (items.filter fun a => (name a).length < n)) := by
  have hmem : ∀ {p : α → Bool} {a : α}, a ∈ longestFirst name (items.filter p) → p a = true :=
    fun ha => (List.mem_filter.1 ((longestFirst_perm name _).mem_iff.1 ha)).2
  refine eq_of_filter_eq (pairwise_longestFirst name items) ?_ fun m => ?_
  · refine List.pairwise_append.2 ⟨pairwise_longestFirst name _, List.pairwise_append.2
      ⟨pairwise_filter_length items n, pairwise_longestFirst name _, ?_⟩, ?_⟩
    · intro a ha b hb
      have ha := (List.mem_filter.1 ha).2
      have hb := hmem hb
      simp only [decide_eq_true_eq] at ha hb
      omega
    · intro a ha b hb
      have ha := hmem ha
      simp only [decide_eq_true_eq] at ha
      rcases List.mem_append.1 hb with hb | hb
      · have hb := (List.mem_filter.1 hb).2
        simp only [decide_eq_true_eq] at hb
        omega
      · have hb := hmem hb
        simp only [decide_eq_true_eq] at hb
        omega
  · have hlonger := filter_filter_length name items (p := fun a => n < (name a).length)
      (m := m) (b := n < m) fun a ha => by rw [ha]
    have hsame := filter_filter_length name items (p := fun a => (name a).length = n)
      (m := m) (b := m = n) fun a ha => by rw [ha]
    have hshorter := filter_filter_length name items (p := fun a => (name a).length < n)
      (m := m) (b := m < n) fun a ha => by rw [ha]
    simp only [List.filter_append, filter_longestFirst, hlonger, hsame, hshorter]
    rcases Nat.lt_trichotomy n m with h | rfl | h
    · simp [h, Nat.ne_of_gt h, Nat.not_lt_of_gt h]
    · simp
    · simp [h, Nat.ne_of_lt h, Nat.not_lt_of_gt h]

end
end PluralMessage.Placeholder
