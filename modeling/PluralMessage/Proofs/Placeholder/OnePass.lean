import Mathlib.Data.List.Pairwise
import PluralMessage.Proofs.Placeholder.SameName

/-!
The replacement of placeholders as one pass. Names are replaced one after the other, each in the
text that the names before it have left. If no two names of one length fit the same text, values
bring in no mark, and marks stand apart, then all these passes together do what one pass does that
fills every mark with the longest name behind it.
-/
namespace PluralMessage.Placeholder

/-- The entry has the longest of the names that the text starts with. -/
structure Longest (values : List (List Char × List Char)) (s : List Char)
    (entry : List Char × List Char) : Prop where
  mem : entry ∈ values
  starts : startsWith entry.1 s = true
  longest : ∀ other ∈ values, startsWith other.1 s = true → other.1.length ≤ entry.1.length

/-- One pass over a text: a mark and the longest name behind it give way to the value of the name,
in the case that the name has in the text, and every other character is kept. -/
inductive Filled (values : List (List Char × List Char)) : List Char → List Char → Prop
  | nil : Filled values [] []
  | kept {c : Char} {s t : List Char}
      (bare : c = mark → ∀ entry ∈ values, startsWith entry.1 s = false)
      (rest : Filled values s t) : Filled values (c :: s) (c :: t)
  | filled {s t : List Char} {entry : List Char × List Char} (longest : Longest values s entry)
      (rest : Filled values (s.drop entry.1.length) t) :
      Filled values (mark :: s) (inCaseOf (s.take entry.1.length) entry.2 ++ t)

/-- The names differ in length, or no text starts with both. -/
def Distinct (a b : List Char × List Char) : Prop :=
  a.1.length = b.1.length → ∀ s, ¬ (startsWith a.1 s = true ∧ startsWith b.1 s = true)

instance : Std.Symm Distinct where
  symm _ _ h hlen s hs := h hlen.symm s hs.symm

theorem startsWith_refl (name : List Char) : startsWith name name = true :=
  startsWith_iff_isPrefix.2 List.prefix_rfl

/-- Two names of one length with which one text starts are the same up to letter case. -/
theorem startsWith_of_common {a b s : List Char} (hlen : a.length = b.length)
    (ha : startsWith a s = true) (hb : startsWith b s = true) : startsWith a b = true := by
  rw [(sameName_of_startsWith hlen ha hb).startsWith_eq]
  exact startsWith_refl b

theorem distinct_iff {a b : List Char × List Char} :
    Distinct a b ↔ (a.1.length = b.1.length → startsWith a.1 b.1 = false) := by
  constructor
  · intro h hlen
    by_contra hstarts
    rw [Bool.not_eq_false] at hstarts
    exact h hlen b.1 ⟨hstarts, startsWith_refl b.1⟩
  · rintro h hlen s ⟨ha, hb⟩
    have hstarts := startsWith_of_common hlen ha hb
    rw [h hlen] at hstarts
    cases hstarts

instance : DecidableRel Distinct :=
  fun _ _ => decidable_of_iff _ distinct_iff.symm

/-- The value has no mark in any case. -/
def Unmarked (value : List Char) : Prop :=
  mark ∉ value ∧ mark ∉ Text.upper value ∧ mark ∉ Text.capitalize value

instance : DecidablePred Unmarked :=
  fun _ => inferInstanceAs (Decidable (_ ∧ _ ∧ _))

/-- Between a mark and the next one stands a character that is foreign to all names. -/
def Spaced (values : List (List Char × List Char)) : List Char → Prop
  | [] => True
  | c :: s =>
      (c = mark → mark ∈ s →
        ∃ d ∈ s.takeWhile (· != mark), ∀ entry ∈ values, Foreign d entry.1) ∧ Spaced values s

instance (values : List (List Char × List Char)) : DecidablePred (Spaced values)
  | [] => isTrue trivial
  | _ :: s =>
      have : Decidable (Spaced values s) := instDecidablePredListCharSpaced values s
      have : Decidable (∃ d ∈ s.takeWhile (· != mark), ∀ entry ∈ values, Foreign d entry.1) :=
        List.decidableBEx _ _
      inferInstanceAs (Decidable (_ ∧ _))

variable {values : List (List Char × List Char)}

theorem Longest.eq (h : values.Pairwise Distinct) {s : List Char} {a b : List Char × List Char}
    (ha : Longest values s a) (hb : Longest values s b) : a = b := by
  by_contra hne
  have hlen : a.1.length = b.1.length :=
    Nat.le_antisymm (hb.longest a ha.mem ha.starts) (ha.longest b hb.mem hb.starts)
  exact h.forall ha.mem hb.mem hne hlen s ⟨ha.starts, hb.starts⟩

/-- Of the entries in their order, the first whose name fits has the longest name that fits. -/
theorem longest_of_find? {s : List Char} {entry : List Char × List Char}
    (h : (longestFirst Prod.fst values).find? (fun entry => startsWith entry.1 s) = some entry) :
    Longest values s entry := by
  have hmem := fun {entry} => (longestFirst_perm Prod.fst values).mem_iff (a := entry)
  obtain ⟨hstarts, before, after, hsplit, hbefore⟩ := List.find?_eq_some_iff_append.1 h
  have hsorted := pairwise_longestFirst Prod.fst values
  rw [hsplit, List.pairwise_append, List.pairwise_cons] at hsorted
  refine ⟨hmem.1 (List.mem_of_find?_eq_some h), hstarts, ?_⟩
  intro other hother hfits
  have hplace := hmem.2 hother
  rw [hsplit, List.mem_append, List.mem_cons] at hplace
  rcases hplace with hother | rfl | hother
  · have := hbefore other hother
    simp [hfits] at this
  · exact Nat.le_refl _
  · exact hsorted.2.1.1 other hother

/-! The pass itself: it determines what it gives, and it goes through a text part by part. -/

namespace Filled

theorem unique (h : values.Pairwise Distinct) {s t u : List Char} (ht : Filled values s t)
    (hu : Filled values s u) : t = u := by
  induction ht generalizing u with
  | nil => cases hu; rfl
  | kept bare rest ih =>
      cases hu with
      | kept _ rest' => rw [ih rest']
      | filled longest _ =>
          have := bare rfl _ longest.mem
          simp [longest.starts] at this
  | filled longest rest ih =>
      cases hu with
      | kept bare _ =>
          have := bare rfl _ longest.mem
          simp [longest.starts] at this
      | filled longest' rest' =>
          obtain rfl := longest.eq h longest'
          rw [ih rest']

theorem of_notMem {s : List Char} (h : mark ∉ s) : Filled values s s := by
  induction s with
  | nil => exact .nil
  | cons c s ih =>
      simp only [List.mem_cons, not_or] at h
      exact .kept (fun hc => absurd hc.symm h.1) (ih h.2)

theorem append_left {a s t : List Char} (ha : mark ∉ a) (h : Filled values s t) :
    Filled values (a ++ s) (a ++ t) := by
  induction a with
  | nil => exact h
  | cons c a ih =>
      simp only [List.mem_cons, not_or] at ha
      exact .kept (fun hc => absurd hc.symm ha.1) (ih ha.2)

theorem append_foreign {d : Char} {a b t u : List Char} (hd : d ≠ mark)
    (hforeign : ∀ entry ∈ values, Foreign d entry.1) (ha : Filled values a t)
    (hb : Filled values b u) : Filled values (a ++ d :: b) (t ++ d :: u) := by
  have hfits : ∀ entry ∈ values, ∀ s, startsWith entry.1 (s ++ d :: b) = startsWith entry.1 s :=
    fun entry he s => startsWith_append_foreign (hforeign entry he) s b
  induction ha with
  | nil => exact .kept (fun hc => absurd hc hd) hb
  | @kept c s t bare rest ih =>
      refine .kept (fun hc entry he => ?_) ih
      exact (hfits entry he s).trans (bare hc entry he)
  | @filled s t entry longest rest ih =>
      have hlen := length_le_of_startsWith longest.starts
      have hlongest : Longest values (s ++ d :: b) entry := by
        refine ⟨longest.mem, by rw [hfits entry longest.mem]; exact longest.starts, ?_⟩
        intro other hother hstarts
        rw [hfits other hother] at hstarts
        exact longest.longest other hother hstarts
      rw [← List.drop_append_of_le_length hlen] at ih
      have hfilled := Filled.filled hlongest ih
      rwa [List.take_append_of_le_length hlen, ← List.append_assoc] at hfilled

theorem of_mem_iff {others : List (List Char × List Char)}
    (h : ∀ entry, entry ∈ values ↔ entry ∈ others) {s t : List Char} (ht : Filled values s t) :
    Filled others s t := by
  induction ht with
  | nil => exact .nil
  | kept bare _ ih => exact .kept (fun hc entry he => bare hc entry ((h entry).2 he)) ih
  | filled longest _ ih =>
      exact .filled ⟨(h _).1 longest.mem, longest.starts,
        fun other he => longest.longest other ((h other).2 he)⟩ ih

end Filled

/-! The passes of all names over a text with one mark at most. -/

theorem mark_notMem_inCaseOf {value : List Char} (h : Unmarked value) (written : List Char) :
    mark ∉ inCaseOf written value := by
  unfold inCaseOf
  split
  · exact h.2.1
  · split
    · exact h.2.2
    · exact h.1

theorem mark_notMem_filling {value a u : List Char} (ha : mark ∉ a) (hu : mark ∉ u)
    (hvalue : Unmarked value) (n : Nat) :
    mark ∉ a ++ (inCaseOf (u.take n) value ++ u.drop n) := by
  simp only [List.mem_append, not_or]
  exact ⟨ha, mark_notMem_inCaseOf hvalue _, fun hmem => hu (List.mem_of_mem_drop hmem)⟩

theorem replaceFrom_of_notMem {name value s : List Char} (h : mark ∉ s) (skip : Nat) :
    replaceFrom name value skip s = s.drop skip := by
  induction s generalizing skip with
  | nil => simp [replaceFrom]
  | cons c s ih =>
      simp only [List.mem_cons, not_or] at h
      cases skip with
      | succ skip => simp only [replaceFrom, List.drop_succ_cons, ih h.2]
      | zero => rw [replaceFrom_cons (Ne.symm h.1), replace, ih h.2, List.drop_zero, List.drop_zero]

theorem passes_of_notMem {s : List Char} (h : mark ∉ s) : passes values s = s := by
  induction values with
  | nil => rfl
  | cons entry values ih => rw [passes_cons, replace, replaceFrom_of_notMem h, List.drop_zero, ih]

theorem replace_single {name value a u : List Char} (ha : mark ∉ a) (hu : mark ∉ u) :
    replace name value (a ++ mark :: u) =
      if startsWith name u then a ++ (inCaseOf (u.take name.length) value ++ u.drop name.length)
      else a ++ mark :: u := by
  induction a with
  | nil =>
      simp only [List.nil_append, replace, replaceFrom, decide_true, Bool.true_and,
        replaceFrom_of_notMem hu, List.drop_zero]
  | cons c a ih =>
      simp only [List.mem_cons, not_or] at ha
      rw [List.cons_append, replace, replaceFrom_cons (Ne.symm ha.1), ih ha.2]
      split <;> rfl

/-- The first name that fits takes the mark away, and with it all that the later names could do. -/
theorem passes_single {a u : List Char} (ha : mark ∉ a) (hu : mark ∉ u)
    (hvalues : ∀ entry ∈ values, Unmarked entry.2) :
    passes values (a ++ mark :: u) =
      match values.find? (fun entry => startsWith entry.1 u) with
      | some entry => a ++ (inCaseOf (u.take entry.1.length) entry.2 ++ u.drop entry.1.length)
      | none => a ++ mark :: u := by
  induction values with
  | nil => rfl
  | cons entry values ih =>
      rw [passes_cons, replace_single ha hu]
      cases hfits : startsWith entry.1 u with
      | true =>
          have hclean := mark_notMem_filling ha hu (hvalues entry (by simp)) entry.1.length
          simp only [↓reduceIte, passes_of_notMem hclean, List.find?_cons, hfits]
      | false =>
          simp only [Bool.false_eq_true, ↓reduceIte, List.find?_cons, hfits]
          exact ih fun entry he => hvalues entry (by simp [he])

/-- Over one mark the passes together do what the pass of the longest name does. -/
theorem apply_single {a u : List Char} (ha : mark ∉ a) (hu : mark ∉ u)
    (hvalues : ∀ entry ∈ values, Unmarked entry.2) :
    (∃ entry, Longest values u entry ∧ apply (a ++ mark :: u) values =
        a ++ (inCaseOf (u.take entry.1.length) entry.2 ++ u.drop entry.1.length)) ∨
      (∀ entry ∈ values, startsWith entry.1 u = false) ∧
        apply (a ++ mark :: u) values = a ++ mark :: u := by
  have hmem := fun {entry} => (longestFirst_perm Prod.fst values).mem_iff (a := entry)
  rw [apply_eq_passes, passes_single ha hu fun entry he => hvalues entry (hmem.1 he)]
  split
  · rename_i entry hfind
    exact .inl ⟨entry, longest_of_find? hfind, rfl⟩
  · rename_i hfind
    refine .inr ⟨?_, rfl⟩
    intro entry he
    simpa using List.find?_eq_none.1 hfind entry (hmem.2 he)

theorem apply_of_notMem {s : List Char} (h : mark ∉ s) : apply s values = s :=
  passes_of_notMem h

/-! Longer texts fall apart into such parts. -/

theorem Spaced.of_notMem {s : List Char} (h : mark ∉ s) : Spaced values s := by
  induction s with
  | nil => trivial
  | cons c s ih =>
      simp only [List.mem_cons, not_or] at h
      exact ⟨fun _ hmem => absurd hmem h.2, ih h.2⟩

theorem Spaced.of_append {a s : List Char} (h : Spaced values (a ++ s)) : Spaced values s := by
  induction a with
  | nil => exact h
  | cons c a ih => exact ih h.2

/-- A character that comes before the first mark, with what stands on both sides of it. -/
theorem exists_append_of_mem_takeWhile {d : Char} {r : List Char}
    (h : d ∈ r.takeWhile (· != mark)) : ∃ u b, mark ∉ u ∧ d ≠ mark ∧ r = u ++ d :: b := by
  obtain ⟨u, w, hu⟩ := List.append_of_mem h
  have hbefore : ∀ c ∈ u ++ d :: w, c ≠ mark := by
    rw [← hu]
    intro c hc
    simpa using List.all_eq_true.1 List.all_takeWhile c hc
  refine ⟨u, w ++ r.dropWhile (· != mark), ?_, hbefore d (by simp), ?_⟩
  · exact fun hmem => hbefore mark (by simp [hmem]) rfl
  · have hr := List.takeWhile_append_dropWhile (p := (· != mark)) (l := r)
    rw [hu] at hr
    simpa using hr.symm

/-- A spaced text has no mark, one mark, or a part with one mark in front of a foreign character
behind which it goes on as a spaced text. -/
theorem Spaced.parts {s : List Char} (h : Spaced values s) :
    mark ∉ s ∨ (∃ a u, mark ∉ a ∧ mark ∉ u ∧ s = a ++ mark :: u) ∨
      ∃ a u d b, mark ∉ a ∧ mark ∉ u ∧ d ≠ mark ∧ (∀ entry ∈ values, Foreign d entry.1) ∧
        Spaced values b ∧ s = a ++ mark :: u ++ d :: b := by
  by_cases hs : mark ∈ s
  · obtain ⟨a, r, rfl, ha⟩ := List.eq_append_cons_of_mem hs
    have hr := h.of_append
    by_cases hmark : mark ∈ r
    · obtain ⟨d, hd, hforeign⟩ := hr.1 rfl hmark
      obtain ⟨u, b, hu, hne, rfl⟩ := exists_append_of_mem_takeWhile hd
      have hrest : Spaced values (d :: b) := hr.2.of_append
      refine .inr (.inr ⟨a, u, d, b, ha, hu, hne, hforeign, hrest.2, ?_⟩)
      rw [List.append_assoc, List.cons_append]
    · exact .inr (.inl ⟨a, r, ha, hmark, rfl⟩)
  · exact .inl hs

/-- What holds of texts with one mark at most, and of a text if it holds of both sides of a foreign
character, holds of every spaced text. -/
theorem Spaced.induction {motive : List Char → Prop} (unmarked : ∀ s, mark ∉ s → motive s)
    (single : ∀ a u, mark ∉ a → mark ∉ u → motive (a ++ mark :: u))
    (join : ∀ a d b, d ≠ mark → (∀ entry ∈ values, Foreign d entry.1) → motive a → motive b →
      motive (a ++ d :: b)) {s : List Char} (h : Spaced values s) : motive s := by
  induction hn : s.length using Nat.strongRecOn generalizing s with
  | ind n ih =>
      rcases h.parts with hs | ⟨a, u, ha, hu, rfl⟩ | ⟨a, u, d, b, ha, hu, hd, hforeign, hb, rfl⟩
      · exact unmarked s hs
      · exact single a u ha hu
      · have hlen : b.length < n := by
          simp only [← hn, List.length_append, List.length_cons]
          omega
        exact join _ d b hd hforeign (single a u ha hu) (ih _ hlen hb rfl)

section
variable {s : List Char}

theorem filled_apply (hvalues : ∀ entry ∈ values, Unmarked entry.2) (hs : Spaced values s) :
    Filled values s (apply s values) := by
  refine Spaced.induction (motive := fun s => Filled values s (apply s values))
    ?unmarked ?single ?join hs
  case unmarked =>
    intro s h
    rw [apply_of_notMem h]
    exact .of_notMem h
  case single =>
    intro a u ha hu
    rcases apply_single ha hu hvalues with ⟨entry, hlongest, happly⟩ | ⟨hbare, happly⟩
    · rw [happly]
      have hrest : mark ∉ u.drop entry.1.length := fun hmem => hu (List.mem_of_mem_drop hmem)
      exact .append_left ha (.filled hlongest (.of_notMem hrest))
    · rw [happly]
      exact .append_left ha (.kept (fun _ => hbare) (.of_notMem hu))
  case join =>
    intro a d b hd hforeign iha ihb
    rw [apply_eq_passes, passes_append_foreign hd (foreign_longestFirst hforeign)]
    exact .append_foreign hd hforeign iha ihb

theorem apply_apply (hvalues : ∀ entry ∈ values, Unmarked entry.2) (hs : Spaced values s) :
    apply (apply s values) values = apply s values := by
  refine Spaced.induction (motive := fun s => apply (apply s values) values = apply s values)
    ?unmarked ?single ?join hs
  case unmarked =>
    intro s h
    rw [apply_of_notMem h, apply_of_notMem h]
  case single =>
    intro a u ha hu
    rcases apply_single ha hu hvalues with ⟨entry, hlongest, happly⟩ | ⟨-, happly⟩
    · rw [happly]
      exact apply_of_notMem (mark_notMem_filling ha hu (hvalues entry hlongest.mem) _)
    · rw [happly, happly]
  case join =>
    intro a d b hd hforeign iha ihb
    simp only [apply_eq_passes, passes_append_foreign hd (foreign_longestFirst hforeign)] at *
    rw [iha, ihb]

theorem Spaced.of_mem_iff {others : List (List Char × List Char)}
    (h : ∀ entry, entry ∈ values ↔ entry ∈ others) (hs : Spaced values s) : Spaced others s := by
  induction s with
  | nil => trivial
  | cons c s ih =>
      refine ⟨fun hc hmark => ?_, ih hs.2⟩
      obtain ⟨d, hd, hforeign⟩ := hs.1 hc hmark
      exact ⟨d, hd, fun entry he => hforeign entry ((h entry).2 he)⟩

end

/-- On texts with marks that stand apart, what all passes give is what one pass gives that fills
every mark with the longest name behind it, and nothing else is what such a pass gives. So the
order of the values makes no difference, and nothing is left to be filled a second time. -/
theorem filled_iff_eq_apply {values : List (List Char × List Char)} {s : List Char}
    (hnames : values.Pairwise Distinct) (hvalues : ∀ entry ∈ values, Unmarked entry.2)
    (hs : Spaced values s) :
    (∀ t, Filled values s t ↔ t = apply s values) ∧
      (∀ others, others.Perm values → apply s others = apply s values) ∧
      apply (apply s values) values = apply s values := by
  have hfilled := filled_apply hvalues hs
  refine ⟨?_, ?_, apply_apply hvalues hs⟩
  · intro t
    constructor
    · intro ht
      exact ht.unique hnames hfilled
    · rintro rfl
      exact hfilled
  · intro others hperm
    have hothers : ∀ entry ∈ others, Unmarked entry.2 :=
      fun entry he => hvalues entry (hperm.mem_iff.1 he)
    have hspaced : Spaced others s := hs.of_mem_iff fun entry => hperm.mem_iff.symm
    have hfilled' := (filled_apply hothers hspaced).of_mem_iff fun entry => hperm.mem_iff
    exact hfilled'.unique hnames hfilled

/-- One name is the start of another, and two names have the same length. -/
def atlas : List (List Char × List Char) :=
  [("countries".toList, "peru".toList), ("count".toList, "3".toList),
    ("towns".toList, "lima".toList)]

def route : List Char :=
  "a:b :Countries, :TOWNS (:counts) :".toList

theorem filled_iff_eq_apply_route :
    (atlas.Pairwise Distinct ∧ (∀ entry ∈ atlas, Unmarked entry.2) ∧ Spaced atlas route) ∧
      Filled atlas route "a:b Peru, LIMA (3s) :".toList ∧
      apply route atlas.reverse = "a:b Peru, LIMA (3s) :".toList := by
  have hnames : atlas.Pairwise Distinct := by decide
  have hvalues : ∀ entry ∈ atlas, Unmarked entry.2 := by decide
  have hspaced : Spaced atlas route := by decide
  have hsorted : longestFirst Prod.fst atlas = atlas := List.mergeSort_of_pairwise (by decide)
  have happly : apply route atlas = "a:b Peru, LIMA (3s) :".toList := by
    rw [apply_eq_passes, hsorted]
    decide
  obtain ⟨hfilled, hperm, -⟩ := filled_iff_eq_apply hnames hvalues hspaced
  exact ⟨⟨hnames, hvalues, hspaced⟩, (hfilled _).2 happly.symm,
    (hperm _ (List.reverse_perm atlas)).trans happly⟩

end PluralMessage.Placeholder
