import PluralMessage.Proofs.Template.Pieces
import PluralMessage.Selection

/-!
The search for a rule. It goes on as long as rules leave the count out, and what it ends with is
decided by the first variant that does not.
-/
namespace PluralMessage

namespace Variant

/-- The variant has a rule, which is an interval that contains the count. -/
def Matches (count : Int) (v : Variant) : Prop :=
  ∃ rule interval, v.rule = some rule ∧ Interval.read rule = .ok interval ∧
    interval.contains count = true

/-- The rule of the variant, if it has one, is an interval that leaves the count out. -/
def Excludes (count : Int) (v : Variant) : Prop :=
  ∀ rule, v.rule = some rule → ∃ interval, Interval.read rule = .ok interval ∧
    interval.contains count = false

/-- The variant has a rule that is no interval. -/
def Malformed (cause : Interval.Malformed) (v : Variant) : Prop :=
  ∃ rule, v.rule = some rule ∧ Interval.read rule = .error (.malformed cause)

/-- The rule of the variant has no number that is too long to be read. -/
def Readable (v : Variant) : Prop :=
  ∀ rule, v.rule = some rule → ∀ e, Interval.read rule ≠ .error (.tooLong e)

theorem excludes_or {v : Variant} (h : v.Readable) (count : Int) :
    v.Excludes count ∨ v.Matches count ∨ ∃ cause, v.Malformed cause := by
  cases hr : v.rule with
  | none => exact .inl fun rule hrule => by rw [hr] at hrule; cases hrule
  | some rule =>
      cases hread : Interval.read rule with
      | error e =>
          cases e with
          | malformed cause => exact .inr (.inr ⟨cause, rule, hr, hread⟩)
          | tooLong e => exact absurd hread (h rule hr e)
      | ok interval =>
          cases hc : interval.contains count with
          | true => exact .inr (.inl ⟨rule, interval, hr, hread, hc⟩)
          | false =>
              refine .inl fun rule' hrule => ?_
              cases hr.symm.trans hrule
              exact ⟨interval, hread, hc⟩

theorem Excludes.not_matches {count : Int} {v : Variant} (h : v.Excludes count) :
    ¬ v.Matches count := by
  rintro ⟨rule, interval, hr, hread, hc⟩
  obtain ⟨other, hother, hout⟩ := h rule hr
  cases hread.symm.trans hother
  rw [hc] at hout
  cases hout

theorem Excludes.not_malformed {count : Int} {v : Variant} (h : v.Excludes count)
    (cause : Interval.Malformed) : ¬ v.Malformed cause := by
  rintro ⟨rule, hr, hread⟩
  obtain ⟨interval, hok, -⟩ := h rule hr
  rw [hread] at hok
  cases hok

/-- A well-formed rule that does not contain the count leaves it out. -/
theorem excludes_of_not_matches {count : Int} {v : Variant}
    (h : ∀ rule, v.rule = some rule → ∃ interval, Interval.read rule = .ok interval)
    (hv : ¬ v.Matches count) : v.Excludes count := by
  intro rule hr
  obtain ⟨interval, hread⟩ := h rule hr
  refine ⟨interval, hread, ?_⟩
  by_contra hc
  exact hv ⟨rule, interval, hr, hread, (Bool.not_eq_false _).mp hc⟩

theorem excludes_iff {v : Variant} (h : v.Readable) {count : Int} :
    v.Excludes count ↔ ¬ v.Matches count ∧ ∀ cause, ¬ v.Malformed cause := by
  constructor
  · intro hv
    exact ⟨hv.not_matches, hv.not_malformed⟩
  · rintro ⟨hmatch, hmalformed⟩
    rcases v.excludes_or h count with hv | hv | ⟨cause, hv⟩
    · exact hv
    · exact absurd hv hmatch
    · exact absurd hv (hmalformed cause)

end Variant

namespace Template

/-- The search comes to the variant at a place: all rules before it leave the count out. -/
def Reaches (count : Int) (vs : List Variant) (i : Nat) (v : Variant) : Prop :=
  vs[i]? = some v ∧ ∀ j < i, ∀ w, vs[j]? = some w → w.Excludes count

section
variable {count : Int} {v w : Variant} {vs : List Variant} {i : Nat}

theorem reaches_zero : Reaches count (v :: vs) 0 v :=
  ⟨rfl, fun _ hj => absurd hj (Nat.not_lt_zero _)⟩

theorem Reaches.cons (hw : w.Excludes count) (h : Reaches count vs i v) :
    Reaches count (w :: vs) (i + 1) v := by
  refine ⟨h.1, ?_⟩
  intro j hj u hu
  cases j with
  | zero => cases hu; exact hw
  | succ j => exact h.2 j (by omega) u hu

theorem Reaches.tail (h : Reaches count (w :: vs) (i + 1) v) :
    w.Excludes count ∧ Reaches count vs i v :=
  ⟨h.2 0 (by omega) w rfl, h.1, fun j hj u hu => h.2 (j + 1) (by omega) u hu⟩

theorem Reaches.append (h : Reaches count vs i v) (ws : List Variant) :
    Reaches count (vs ++ ws) i v := by
  have hi : i < vs.length := (List.getElem?_eq_some_iff.1 h.1).1
  refine ⟨by rw [List.getElem?_append_left hi, h.1], ?_⟩
  intro j hj w hw
  rw [List.getElem?_append_left (by omega)] at hw
  exact h.2 j hj w hw

/-- Either every rule leaves the count out, or the search comes to one that does not. -/
theorem excludes_or_reaches (h : ∀ v ∈ vs, v.Readable) (count : Int) :
    (∀ v ∈ vs, v.Excludes count) ∨
      ∃ i v, Reaches count vs i v ∧ (v.Matches count ∨ ∃ cause, v.Malformed cause) := by
  induction vs with
  | nil => exact .inl (by simp)
  | cons w vs ih =>
      -- Only a rule that leaves the count out lets the search go on to `vs`.
      rcases w.excludes_or (h w (by simp)) count with hw | hw
      · rcases ih fun v hv => h v (by simp [hv]) with hall | ⟨i, v, hreach, hv⟩
        · exact .inl (by simpa using ⟨hw, hall⟩)
        · exact .inr ⟨i + 1, v, hreach.cons hw, hv⟩
      · exact .inr ⟨0, w, reaches_zero, hw⟩

/-! One step of the search, then the whole of it. -/

theorem firstMatch_cons (hw : w.Excludes count) (start : Nat) :
    firstMatch count start (w :: vs) = firstMatch count (start + 1) vs := by
  obtain ⟨text, rule⟩ := w
  cases rule with
  | none => rw [firstMatch]
  | some rule =>
      obtain ⟨interval, hread, hc⟩ := hw rule rfl
      simp only [firstMatch, hread, hc, Bool.false_eq_true, ↓reduceIte]

theorem firstMatch_of_excludes (h : ∀ v ∈ vs, v.Excludes count) (start : Nat) :
    firstMatch count start vs = .ok none := by
  induction vs generalizing start with
  | nil => rfl
  | cons w vs ih =>
      rw [firstMatch_cons (h w (by simp))]
      exact ih (fun v hv => h v (by simp [hv])) (start + 1)

theorem firstMatch_of_matches {rule : List Char} {interval : Interval}
    (h : Reaches count vs i v) (hr : v.rule = some rule)
    (hread : Interval.read rule = .ok interval) (hc : interval.contains count = true)
    (start : Nat) :
    firstMatch count start vs = .ok (some ⟨v.text, start + i, .explicit rule⟩) := by
  induction vs generalizing i start with
  | nil => cases h.1
  | cons w vs ih =>
      cases i with
      | zero =>
          cases h.1
          obtain ⟨text, r⟩ := v
          subst hr
          simp only [firstMatch, hread, hc, ↓reduceIte, Nat.add_zero]
      | succ i =>
          rw [firstMatch_cons h.tail.1, ih h.tail.2 (start + 1), Nat.add_right_comm, Nat.add_assoc]

theorem firstMatch_of_malformed {cause : Interval.Malformed} (h : Reaches count vs i v)
    (hv : v.Malformed cause) (start : Nat) :
    firstMatch count start vs = .error (.interval cause.report) := by
  induction vs generalizing i start with
  | nil => cases h.1
  | cons w vs ih =>
      cases i with
      | zero =>
          cases h.1
          obtain ⟨text, r⟩ := v
          obtain ⟨rule, hr, hread⟩ := hv
          subst hr
          simp only [firstMatch, hread, Error.ofRead]
      | succ i => rw [firstMatch_cons h.tail.1, ih h.tail.2 (start + 1)]

end

theorem readable_of_split {message : List Char} {vs : List Variant} {v : Variant}
    (h : Decimal.ShortRuns message) (hs : split message = .ok vs) (hv : v ∈ vs) : v.Readable :=
  fun _ hr e => Interval.read_ne_tooLong (h.of_isInfix (rule_infix_of_split hs hv hr)) e

end Template
end PluralMessage
