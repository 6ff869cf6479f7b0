import PluralMessage.Proofs.Placeholder.OnePass
import PluralMessage.Proofs.Placeholder.Order
import PluralMessage.Proofs.Placeholder.SameName
import PluralMessage.Proofs.Text.Case

/-!
Values under names that differ in letter case only. The first of them has precedence: where marks
stand apart, or where no other name of its length comes behind it, the text is filled as if the
others were not there and the value of the first stood behind all other names.
-/
namespace PluralMessage.Placeholder

/-- The entries of all other names. -/
def without {β : Type} (name : List Char) (entries : List (List Char × β)) :
    List (List Char × β) :=
  entries.filter fun entry => ¬ SameName name entry.1

/-- The entry is the first of those that have the name, up to letter case. -/
structure First {β : Type} (name : List Char) (entries before : List (List Char × β))
    (entry : List Char × β) (behind : List (List Char × β)) : Prop where
  eq_append : entries = before ++ entry :: behind
  other : ∀ e ∈ before, ¬ SameName name e.1
  same : SameName name entry.1

section
variable {β : Type} {name : List Char} {entries before behind : List (List Char × β)}
  {entry : List Char × β}

theorem mem_without {e : List Char × β} :
    e ∈ without name entries ↔ e ∈ entries ∧ ¬ SameName name e.1 := by
  simp [without]

theorem without_append (as bs : List (List Char × β)) :
    without name (as ++ bs) = without name as ++ without name bs :=
  List.filter_append _ _

theorem without_of_forall_not (h : ∀ e ∈ entries, ¬ SameName name e.1) :
    without name entries = entries :=
  List.filter_eq_self.2 fun e he => decide_eq_true (h e he)

theorem without_of_forall_same (h : ∀ e ∈ entries, SameName name e.1) :
    without name entries = [] :=
  List.filter_eq_nil_iff.2 fun e he hnot => of_decide_eq_true hnot (h e he)

theorem exists_first (h : ∃ e ∈ entries, SameName name e.1) :
    ∃ before entry behind, First name entries before entry behind := by
  obtain ⟨e, he, hsame⟩ := h
  cases hfind : entries.find? fun e => SameName name e.1 with
  | none =>
      have hnone := List.find?_eq_none.1 hfind e he
      simp [hsame] at hnone
  | some entry =>
      obtain ⟨hentry, before, behind, hsplit, hbefore⟩ := List.find?_eq_some_iff_append.1 hfind
      exact ⟨before, entry, behind, hsplit, fun e he => by simpa using hbefore e he,
        of_decide_eq_true hentry⟩

theorem First.mem (h : First name entries before entry behind) : entry ∈ entries :=
  h.eq_append ▸ List.mem_append_right _ List.mem_cons_self

theorem First.without_eq (h : First name entries before entry behind) :
    without name entries = before ++ without name behind := by
  rw [h.eq_append, without_append, without_of_forall_not h.other, without, without,
    List.filter_cons_of_neg (by simp [h.same])]

theorem First.filter (h : First name entries before entry behind) {p : List Char × β → Bool}
    (hp : p entry = true) :
    First name (entries.filter p) (before.filter p) entry (behind.filter p) := by
  refine ⟨?_, fun e he => h.other e (List.mem_filter.1 he).1, h.same⟩
  rw [h.eq_append, List.filter_append, List.filter_cons_of_pos hp]

theorem filter_without (p : List Char × β → Bool) :
    (without name entries).filter p = without name (entries.filter p) := by
  simp only [without, List.filter_filter, Bool.and_comm]

end

section
variable {name value : List Char} {values before behind : List (List Char × List Char)}
  {entry : List Char × List Char}

/-- The order of the names when all entries of one name give way to a last one. -/
theorem longestFirst_without :
    longestFirst Prod.fst (without name values ++ [(name, value)]) =
      longestFirst Prod.fst (values.filter fun e => name.length < e.1.length) ++
        (without name (values.filter fun e => e.1.length = name.length) ++ [(name, value)] ++
          longestFirst Prod.fst (values.filter fun e => e.1.length < name.length)) := by
  have hother : ∀ p : List Char × List Char → Bool, (∀ e, SameName name e.1 → p e = false) →
      (without name values ++ [(name, value)]).filter p = values.filter p := by
    intro p hp
    have hlast : p (name, value) = false := hp (name, value) rfl
    rw [List.filter_append, filter_without, without_of_forall_not,
      List.filter_cons_of_neg (by simp [hlast]), List.filter_nil, List.append_nil]
    intro e he hsame
    have := (List.mem_filter.1 he).2
    rw [hp e hsame] at this
    cases this
  have hlonger := hother (fun e => name.length < e.1.length) fun e he => by simp [he.length_eq]
  have hshorter := hother (fun e => e.1.length < name.length) fun e he => by simp [he.length_eq]
  rw [longestFirst_eq_append _ name.length, hlonger, hshorter, List.filter_append, filter_without,
    List.filter_cons_of_pos (by simp), List.filter_nil]

theorem passes_append (as bs : List (List Char × List Char)) (s : List Char) :
    passes (as ++ bs) s = passes bs (passes as s) :=
  List.foldl_append

/-! Texts in which marks stand apart. -/

/-- Of the entry that is found for a mark, only the length of its name and its value count. -/
theorem passes_single_congr {as bs : List (List Char × List Char)} {a u : List Char}
    (ha : mark ∉ a) (hu : mark ∉ u) (has : ∀ e ∈ as, Unmarked e.2) (hbs : ∀ e ∈ bs, Unmarked e.2)
    (h : (as.find? fun e => startsWith e.1 u).map (fun e => (e.1.length, e.2)) =
      (bs.find? fun e => startsWith e.1 u).map fun e => (e.1.length, e.2)) :
    passes as (a ++ mark :: u) = passes bs (a ++ mark :: u) := by
  rw [passes_single ha hu has, passes_single ha hu hbs]
  cases hb : bs.find? fun e => startsWith e.1 u with
  | none =>
      rw [hb, Option.map_none, Option.map_eq_none_iff] at h
      rw [h]
  | some other =>
      rw [hb, Option.map_some, Option.map_eq_some_iff] at h
      obtain ⟨e, he, heq⟩ := h
      obtain ⟨hlength, hvalue⟩ := Prod.mk.inj heq
      simp only [he, hlength, hvalue]

/-- Among names of one length, the first entry of a name is found if that name fits, and none of its
entries is found if it does not. -/
theorem find?_without (h : First name values before entry behind)
    (hlength : ∀ e ∈ values, e.1.length = name.length) (u : List Char) :
    (values.find? fun e => startsWith e.1 u).map (fun e => (e.1.length, e.2)) =
      ((without name values ++ [(name, entry.2)]).find? fun e => startsWith e.1 u).map
        fun e => (e.1.length, e.2) := by
  cases hu : startsWith name u with
  | true =>
      have hother : ∀ e ∈ without name values, ¬ startsWith e.1 u = true := by
        intro e he hstarts
        obtain ⟨hmem, hnot⟩ := mem_without.1 he
        exact hnot (sameName_of_startsWith (hlength e hmem).symm hu hstarts)
      have hbefore : ∀ e ∈ before, ¬ startsWith e.1 u = true := by
        intro e he
        rw [h.without_eq] at hother
        exact hother e (List.mem_append_left _ he)
      have hentry : startsWith entry.1 u = true := by rw [← h.same.startsWith_eq, hu]
      have hfind : values.find? (fun e => startsWith e.1 u) = some entry := by
        rw [h.eq_append, List.find?_append, List.find?_eq_none.2 hbefore, Option.none_or]
        simp [hentry]
      rw [hfind, List.find?_append, List.find?_eq_none.2 hother, Option.none_or]
      simp [hu, h.same.length_eq]
  | false =>
      have hsame : ∀ e : List Char × List Char, SameName name e.1 → startsWith e.1 u = false :=
        fun e he => by rw [← he.startsWith_eq, hu]
      have hfind : (without name values).find? (fun e => startsWith e.1 u) =
          values.find? fun e => startsWith e.1 u := by
        rw [without, List.find?_filter]
        congr 1
        funext e
        by_cases he : SameName name e.1
        · simp [he, hsame e he]
        · simp [he]
      rw [List.find?_append, hfind]
      simp [hu]

theorem unmarked_without (hvalues : ∀ e ∈ values, Unmarked e.2) (hvalue : Unmarked value)
    (name : List Char) : ∀ e ∈ without name values ++ [(name, value)], Unmarked e.2 :=
  List.forall_mem_append.2
    ⟨fun e he => hvalues e (mem_without.1 he).1, List.forall_mem_singleton.2 hvalue⟩

theorem apply_without_of_spaced (h : First name values before entry behind)
    (hvalues : ∀ e ∈ values, Unmarked e.2) {s : List Char} (hs : Spaced values s) :
    apply s values = apply s (without name values ++ [(name, entry.2)]) := by
  have hothers := unmarked_without hvalues (hvalues entry h.mem) name
  refine Spaced.induction
    (motive := fun s => apply s values = apply s (without name values ++ [(name, entry.2)]))
    ?unmarked ?single ?join hs
  case unmarked =>
    intro s hs
    rw [apply_of_notMem hs, apply_of_notMem hs]
  case single =>
    intro a u ha hu
    refine passes_single_congr ha hu (fun e he => ?_) (fun e he => ?_) ?_
    · exact hvalues e ((longestFirst_perm Prod.fst _).mem_iff.1 he)
    · exact hothers e ((longestFirst_perm Prod.fst _).mem_iff.1 he)
    · have hfirst := h.filter (p := fun e => e.1.length = name.length)
        (decide_eq_true h.same.length_eq.symm)
      have hfind := find?_without hfirst
        (fun e he => of_decide_eq_true (List.mem_filter.1 he).2) u
      rw [longestFirst_eq_append values name.length, longestFirst_without]
      simp only [List.find?_append, Option.map_or] at hfind ⊢
      rw [hfind]
  case join =>
    intro a d b hd hforeign iha ihb
    have hforeign' : ∀ e ∈ without name values ++ [(name, entry.2)], Foreign d e.1 := by
      refine List.forall_mem_append.2 ⟨fun e he => hforeign e (mem_without.1 he).1, ?_⟩
      exact List.forall_mem_singleton.2 (SameName.foreign h.same.symm (hforeign entry h.mem))
    simp only [apply_eq_passes] at iha ihb ⊢
    rw [passes_append_foreign hd (foreign_longestFirst hforeign), iha, ihb,
      passes_append_foreign hd (foreign_longestFirst hforeign')]

/-! Texts of every kind, if no other name of the length comes behind the first. -/

/-- The value is not empty, has no case, and brings in nothing that could belong to a placeholder of
the name. -/
structure Inert (name value : List Char) : Prop where
  ne_nil : value ≠ []
  caseless : ∀ written, inCaseOf written value = value
  unmarked : mark ∉ value
  foreign : ∀ c ∈ value, Foreign c name

/-- No mark stands in front of the name. -/
def Bare (name : List Char) : List Char → Prop
  | [] => True
  | c :: s => (c = mark → startsWith name s = false) ∧ Bare name s

theorem Bare.append {a s : List Char} (ha : mark ∉ a) (hs : Bare name s) : Bare name (a ++ s) := by
  induction a with
  | nil => exact hs
  | cons c a ih =>
      simp only [List.mem_cons, not_or] at ha
      exact ⟨fun hc => absurd hc.symm ha.1, ih ha.2⟩

theorem replace_of_bare {s : List Char} (h : Bare name s) : replace name value s = s := by
  induction s with
  | nil => rfl
  | cons c s ih =>
      have hrest : replaceFrom name value 0 s = s := ih h.2
      rw [replace, replaceFrom]
      split
      · rename_i hc
        simp only [Bool.and_eq_true, decide_eq_true_eq] at hc
        rw [h.1 hc.1] at hc
        exact absurd hc.2 Bool.false_ne_true
      · rw [hrest]

theorem passes_of_bare {s : List Char} (h : ∀ e ∈ values, SameName name e.1) (hs : Bare name s) :
    passes values s = s := by
  induction values with
  | nil => rfl
  | cons entry values ih =>
      obtain ⟨hentry, hvalues⟩ := List.forall_mem_cons.1 h
      rw [passes_cons, ← hentry.replace_eq, replace_of_bare hs, ih hvalues]

/-- What starts a text after a pass has started it before. -/
theorem startsWith_of_replace (h : Inert name value) {part s : List Char}
    (hpart : ∀ k ∈ part, k ∈ name) (hstarts : startsWith part (replace name value s) = true) :
    startsWith part s = true := by
  -- A placeholder that gave way would bring its value into the name, of which it has no character.
  induction part generalizing s with
  | nil => rw [startsWith]
  | cons k part ih =>
      obtain ⟨hk, hpart⟩ := List.forall_mem_cons.1 hpart
      cases s with
      | nil => cases hstarts
      | cons c s =>
          rw [replace, replaceFrom] at hstarts
          split at hstarts
          · obtain ⟨d, rest, rfl⟩ := List.exists_cons_of_ne_nil h.ne_nil
            rw [h.caseless, List.cons_append, startsWith, h.foreign d List.mem_cons_self k hk,
              Bool.false_and] at hstarts
            cases hstarts
          · rw [startsWith, Bool.and_eq_true] at hstarts ⊢
            exact ⟨hstarts.1, ih hpart hstarts.2⟩

theorem bare_replaceFrom (h : Inert name value) (skip : Nat) (s : List Char) :
    Bare name (replaceFrom name value skip s) := by
  induction s generalizing skip with
  | nil => simp [replaceFrom, Bare]
  | cons c s ih =>
      cases skip with
      | succ skip => exact ih skip
      | zero =>
          rw [replaceFrom]
          split
          · rw [h.caseless]
            exact .append h.unmarked (ih _)
          · rename_i hc
            refine ⟨fun hmark => ?_, ih 0⟩
            by_contra hstarts
            rw [Bool.not_eq_false] at hstarts
            exact hc (by simp [hmark, startsWith_of_replace h (fun _ hk => hk) hstarts])

/-- The pass of a name with an inert value leaves no placeholder of that name. -/
theorem bare_replace (h : Inert name value) (s : List Char) : Bare name (replace name value s) :=
  bare_replaceFrom h 0 s

theorem apply_without_of_last (h : First name values before entry behind)
    (hlast : ∀ e ∈ behind, e.1.length = name.length → SameName name e.1)
    (hinert : Inert name entry.2) (s : List Char) :
    apply s values = apply s (without name values ++ [(name, entry.2)]) := by
  have hfirst := h.filter (p := fun e => e.1.length = name.length)
    (decide_eq_true h.same.length_eq.symm)
  -- Among the names of the length, only the name itself comes behind its first entry.
  have hbehind : ∀ e ∈ behind.filter fun e => e.1.length = name.length, SameName name e.1 := by
    intro e he
    obtain ⟨hmem, hlength⟩ := List.mem_filter.1 he
    exact hlast e hmem (of_decide_eq_true hlength)
  rw [apply_eq_passes, apply_eq_passes, longestFirst_eq_append values name.length,
    longestFirst_without, hfirst.without_eq, without_of_forall_same hbehind, hfirst.eq_append]
  simp only [passes_append, passes_cons, ← h.same.replace_eq, List.append_nil]
  rw [passes_of_bare hbehind (bare_replace hinert _)]
  rfl

/-! The placeholder of the name on its own. -/

theorem unmarked_of_notMem (h : mark ∉ value) : Unmarked value :=
  ⟨h, Text.colon_notMem_upper h, Text.colon_notMem_capitalize h⟩

theorem apply_mark_name (hname : mark ∉ name) (hvalues : ∀ e ∈ values, Unmarked e.2)
    (hvalue : Unmarked value) :
    apply (mark :: name) (without name values ++ [(name, value)]) = inCaseOf name value := by
  have hlonger : ∀ e ∈ longestFirst Prod.fst (values.filter fun e => name.length < e.1.length),
      ¬ startsWith e.1 name = true := by
    intro e he hstarts
    have he := (List.mem_filter.1 ((longestFirst_perm Prod.fst _).mem_iff.1 he)).2
    exact Nat.not_lt.2 (length_le_of_startsWith hstarts) (of_decide_eq_true he)
  have hother : ∀ e ∈ without name (values.filter fun e => e.1.length = name.length),
      ¬ startsWith e.1 name = true := by
    intro e he hstarts
    obtain ⟨hmem, hnot⟩ := mem_without.1 he
    have hlength := of_decide_eq_true (List.mem_filter.1 hmem).2
    exact hnot (sameName_of_startsWith hlength.symm (startsWith_refl name) hstarts)
  have hfind : (longestFirst Prod.fst (without name values ++ [(name, value)])).find?
      (fun e => startsWith e.1 name) = some (name, value) := by
    rw [longestFirst_without, List.find?_append, List.find?_eq_none.2 hlonger, Option.none_or,
      List.find?_append, List.find?_append, List.find?_eq_none.2 hother, Option.none_or]
    simp [startsWith_refl]
  have hpass := passes_single (a := []) (List.not_mem_nil) hname
    fun e he => unmarked_without hvalues hvalue name e ((longestFirst_perm Prod.fst _).mem_iff.1 he)
  rw [hfind, List.nil_append] at hpass
  rw [apply_eq_passes, hpass]
  simp

end
end PluralMessage.Placeholder
