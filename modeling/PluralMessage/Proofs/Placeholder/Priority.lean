import PluralMessage.Proofs.Placeholder.OnePass
import PluralMessage.Proofs.Placeholder.Order
import PluralMessage.Proofs.Placeholder.Spelling

/-!
The priority of names. They are put in order longest first, those of one length in the order in
which they were given, and there is one such order only. So where several names fit a text, those
that go on beyond others have their turn before them, whatever the case they are spelled in.
-/
namespace PluralMessage.Placeholder

/-- The names with the longest first, and those of each length in their order. -/
structure Ranked (names order : List (List Char)) : Prop where
  perm : order.Perm names
  longest : order.Pairwise fun a b => b.length ≤ a.length
  stable : ∀ n, order.filter (fun a => a.length = n) = names.filter fun a => a.length = n

theorem ranked_sortNames (names : List (List Char)) : Ranked names (sortNames names) where
  perm := longestFirst_perm id names
  longest := pairwise_longestFirst id names
  stable := filter_longestFirst names

theorem ranked_iff {names order : List (List Char)} :
    Ranked names order ↔ order = sortNames names := by
  have hsorted := ranked_sortNames names
  constructor
  · intro h
    refine eq_of_filter_eq h.longest hsorted.longest fun n => ?_
    exact (h.stable n).trans (hsorted.stable n).symm
  · rintro rfl
    exact hsorted

/-- The first name starts with the second, up to letter case, and goes on beyond it. -/
structure Extends (long short : List Char) : Prop where
  starts : startsWith short long = true
  beyond : ¬ SameName short long

theorem Extends.length_lt {long short : List Char} (h : Extends long short) :
    short.length < long.length := by
  refine Nat.lt_of_le_of_ne (length_le_of_startsWith h.starts) fun hlength => ?_
  exact h.beyond (sameName_of_startsWith hlength h.starts (startsWith_refl long))

namespace Ranked

variable {names order : List (List Char)}

theorem length_le (h : Ranked names order) {i j : Nat} (hij : i ≤ j) {a b : List Char}
    (ha : order[i]? = some a) (hb : order[j]? = some b) : b.length ≤ a.length := by
  obtain ⟨hi, rfl⟩ := List.getElem?_eq_some_iff.1 ha
  obtain ⟨hj, rfl⟩ := List.getElem?_eq_some_iff.1 hb
  rcases Nat.lt_or_eq_of_le hij with hlt | rfl
  · exact List.pairwise_iff_getElem.1 h.longest i j hi hj hlt
  · exact Nat.le_refl _

/-- So it is at all places of both names, which may have been given more than once. -/
theorem lt_of_extends (h : Ranked names order) {long short : List Char}
    (hextends : Extends long short) {i j : Nat} (hlong : order[i]? = some long)
    (hshort : order[j]? = some short) : i < j := by
  by_contra hji
  have hle := h.length_le (Nat.not_lt.1 hji) hshort hlong
  have hlt := hextends.length_lt
  omega

end Ranked

/-- Names that each have a value are replaced in the order of the sorted names. -/
theorem apply_eq_foldl_sortNames (names : List (List Char)) (value : List Char → List Char)
    (s : List Char) :
    apply s (names.map fun name => (name, value name)) =
      (sortNames names).foldl (fun s name => replace name (value name) s) s := by
  rw [apply_eq_passes, ← map_longestFirst Prod.fst _ fun _ _ => rfl, passes, List.foldl_map]
  rfl

/-- The sorted names are the names with the longest first, those of one length as they were given,
and there is no other such list. A name comes before all names that it extends, and the values are
filled in by one pass for each name, in this order. -/
theorem sortNames_ranks_longer_first (names : List (List Char)) :
    (∀ order, Ranked names order ↔ order = sortNames names) ∧
    (∀ long short, Extends long short → ∀ i j : Nat, (sortNames names)[i]? = some long →
      (sortNames names)[j]? = some short → i < j) ∧
    ∀ (value : List Char → List Char) (s : List Char),
      apply s (names.map fun name => (name, value name)) =
        (sortNames names).foldl (fun s name => replace name (value name) s) s := by
  refine ⟨fun order => ranked_iff, ?_, apply_eq_foldl_sortNames names⟩
  intro long short hextends i j hlong hshort
  exact (ranked_sortNames names).lt_of_extends hextends hlong hshort

/-- A name that extends two others, which are one name in two spellings. -/
def travels : List (List Char) :=
  ["count".toList, "Day".toList, "COUNTRIES".toList, "day".toList, "COUNT".toList]

def travelsSorted : List (List Char) :=
  ["COUNTRIES".toList, "count".toList, "COUNT".toList, "Day".toList, "day".toList]

theorem sortNames_ranks_longer_first_travels :
    Extends "COUNTRIES".toList "COUNT".toList ∧
      (sortNames travels)[0]? = some "COUNTRIES".toList ∧
      (sortNames travels)[2]? = some "COUNT".toList ∧ 0 < 2 ∧ Ranked travels travelsSorted ∧
      apply ":Day :countries".toList (travels.map fun name => (name, name.reverse)) =
        "YaD SEIRTNUOC".toList := by
  have hsorted : travelsSorted = sortNames travels := by
    rw [sortNames, longestFirst_eq_append travels 5, longestFirst,
      List.mergeSort_of_pairwise (by decide), longestFirst, List.mergeSort_of_pairwise (by decide)]
    decide
  have hextends : Extends "COUNTRIES".toList "COUNT".toList := ⟨by decide, by decide⟩
  have hlong : (sortNames travels)[0]? = some "COUNTRIES".toList := by
    rw [← hsorted]
    rfl
  have hshort : (sortNames travels)[2]? = some "COUNT".toList := by
    rw [← hsorted]
    rfl
  obtain ⟨hranked, hfirst, hpasses⟩ := sortNames_ranks_longer_first travels
  refine ⟨hextends, hlong, hshort, hfirst _ _ hextends 0 2 hlong hshort,
    (hranked travelsSorted).2 hsorted, ?_⟩
  rw [hpasses, ← hsorted]
  decide

end PluralMessage.Placeholder
