import PluralMessage.Proofs.Selection.Resolution

/-!
Selection from templates that are put together from the pieces of others. A piece is read on its
own, so pieces behind a template leave the variants before them as they are, and what the search for
a rule has come to before them stays. If only one rule contains the count, the search comes to its
piece wherever that piece stands.
-/
namespace PluralMessage

namespace Template

section
variable {message suffix : List Char} {vs ws : List Variant}

/-- The variants of a longer template are those of its two parts. -/
theorem split_append (hsep : separator ∈ message) (hs : split message = .ok vs)
    (hw : (pieces suffix).mapM readPiece = .ok ws) :
    split (message ++ separator :: suffix) = .ok (vs ++ ws) := by
  rw [split_of_mem hsep] at hs
  rw [split_of_mem (by simp), pieces_append_separator, List.mapM_append, hs, hw]
  rfl

theorem exists_readPieces (h : Decimal.ShortRuns suffix) :
    ∃ ws, (pieces suffix).mapM readPiece = .ok ws :=
  Except.exists_mapM_eq_ok fun _ hp => exists_readPiece (h.of_isInfix (infix_of_mem_pieces hp))

theorem shortRuns_append (hm : Decimal.ShortRuns message) (hs : Decimal.ShortRuns suffix) :
    Decimal.ShortRuns (message ++ separator :: suffix) :=
  hm.append_cons hs (by decide)

end
end Template

namespace Settings
open PluralMessage.Template (Reaches separator pieces readPiece join)

section
variable (settings : Settings) {message suffix : List Char} {vs ws : List Variant} {count : Int}
  {locale : Option String}

/-- The variant that ends the search for a rule ends it in front of more variants, too. -/
theorem choose_append_of_reaches (hsep : separator ∈ message)
    (hs : Template.split message = .ok vs)
    (hlong : Template.split (message ++ separator :: suffix) = .ok (vs ++ ws)) {i : Nat}
    {v : Variant} (hi : Reaches count vs i v)
    (hv : v.Matches count ∨ ∃ cause, v.Malformed cause) :
    settings.choose (message ++ separator :: suffix) count locale =
      settings.choose message count locale := by
  have hmem : separator ∈ message ++ separator :: suffix := List.mem_append_left _ hsep
  rcases hv with hv | ⟨cause, hv⟩
  · obtain ⟨rule, hr, hchoose⟩ := settings.choose_of_matches hsep hs hi hv locale
    obtain ⟨other, hother, hlonger⟩ :=
      settings.choose_of_matches hmem hlong (hi.append ws) hv locale
    cases hr.symm.trans hother
    rw [hchoose, hlonger]
  · rw [settings.choose_of_malformed hsep hs hi hv,
      settings.choose_of_malformed hmem hlong (hi.append ws) hv]

/-- If no rule applies to the count, neither before nor in the pieces behind, the plural form is the
index into all variants. -/
theorem choose_append_of_excludes (hsep : separator ∈ message)
    (hlong : Template.split (message ++ separator :: suffix) = .ok (vs ++ ws))
    (hvs : ∀ v ∈ vs, v.Excludes count) (hws : ∀ w ∈ ws, w.Excludes count) :
    settings.choose (message ++ separator :: suffix) count locale =
      choosePlural (vs ++ ws) count (settings.localeFor locale) := by
  refine settings.choose_of_excludes (List.mem_append_left _ hsep) hlong ?_ locale
  exact List.forall_mem_append.2 ⟨hvs, hws⟩

section
variable (hsep : separator ∈ message) (hs : Template.split message = .ok vs)
  (hlong : Template.split (message ++ separator :: suffix) = .ok (vs ++ ws))
  (hread : ∀ v ∈ vs ++ ws, v.Readable)
include hsep hs hlong hread

theorem choose_append_plural_iff {text : List Char} {i : Nat} {l : String}
    (hchoose : settings.choose message count locale = .ok ⟨text, i, .plural l⟩) :
    settings.choose (message ++ separator :: suffix) count locale = .ok ⟨text, i, .plural l⟩ ↔
      ∀ w ∈ ws, w.Excludes count := by
  have hmem : separator ∈ message ++ separator :: suffix := List.mem_append_left _ hsep
  have houtcome :=
    settings.outcome_choose hsep hs (List.forall_mem_append.1 hread).1 count locale
  rw [hchoose] at houtcome
  cases houtcome with
  | plural hall hv =>
      constructor
      · intro hlonger
        have hlongall := settings.excludes_of_choose_plural hmem hlong hread hlonger rfl
        exact (List.forall_mem_append.1 hlongall).2
      · intro hws
        rw [settings.choose_append_of_excludes hsep hlong hall hws, choosePlural_eq_ok_iff]
        have hindex := (List.getElem?_eq_some_iff.1 hv).1
        exact ⟨_, by rw [List.getElem?_append_left hindex, hv], rfl⟩

/-- A form that was missing is looked up again among more variants. -/
theorem choose_append_of_missing {e : MissingForm}
    (hchoose : settings.choose message count locale = .error (.form e))
    (hws : ∀ w ∈ ws, w.Excludes count) :
    e.variants = vs.length ∧
      (∀ w, (vs ++ ws)[e.index]? = some w →
        settings.choose (message ++ separator :: suffix) count locale =
          .ok ⟨w.text, e.index, .plural e.locale⟩) ∧
      ((vs ++ ws).length ≤ e.index →
        settings.choose (message ++ separator :: suffix) count locale =
          .error (.form ⟨e.index, (vs ++ ws).length, e.locale⟩)) := by
  have houtcome :=
    settings.outcome_choose hsep hs (List.forall_mem_append.1 hread).1 count locale
  rw [hchoose] at houtcome
  cases houtcome with
  | missing hall hlen =>
      rw [settings.choose_append_of_excludes hsep hlong hall hws]
      refine ⟨rfl, ?_, ?_⟩
      · intro w hw
        exact choosePlural_eq_ok_iff.2 ⟨w, hw, rfl⟩
      · intro hlen
        exact choosePlural_eq_error_iff.2 ⟨hlen, rfl⟩

end

/-- Pieces behind a template do not disturb what is decided before them. A rule that was found stays
found, and a malformed one an error; a plural form keeps its variant exactly if no rule behind it
comes in, and a form that was missing is the variant at its place, if there is one now. -/
theorem choose_append (hsep : separator ∈ message) (hm : Decimal.ShortRuns message)
    (hs : Decimal.ShortRuns suffix) (count : Int) (locale : Option String) :
    ∃ vs ws, Template.split message = .ok vs ∧ (pieces suffix).mapM readPiece = .ok ws ∧
      Template.split (message ++ separator :: suffix) = .ok (vs ++ ws) ∧
      (∀ text i rule, settings.choose message count locale = .ok ⟨text, i, .explicit rule⟩ →
        settings.choose (message ++ separator :: suffix) count locale =
          .ok ⟨text, i, .explicit rule⟩) ∧
      (∀ e, settings.choose message count locale = .error (.interval e) →
        settings.choose (message ++ separator :: suffix) count locale = .error (.interval e)) ∧
      (∀ text i l, settings.choose message count locale = .ok ⟨text, i, .plural l⟩ →
        (settings.choose (message ++ separator :: suffix) count locale =
            .ok ⟨text, i, .plural l⟩ ↔
          ∀ w ∈ ws, ¬ w.Matches count ∧ ∀ cause, ¬ w.Malformed cause)) ∧
      ∀ e, settings.choose message count locale = .error (.form e) →
        (∀ w ∈ ws, ¬ w.Matches count ∧ ∀ cause, ¬ w.Malformed cause) →
        e.variants = vs.length ∧
          (∀ w, (vs ++ ws)[e.index]? = some w →
            settings.choose (message ++ separator :: suffix) count locale =
              .ok ⟨w.text, e.index, .plural e.locale⟩) ∧
          ((vs ++ ws).length ≤ e.index →
            settings.choose (message ++ separator :: suffix) count locale =
              .error (.form ⟨e.index, (vs ++ ws).length, e.locale⟩)) := by
  obtain ⟨vs, hvs⟩ := Template.exists_split hm
  obtain ⟨ws, hws⟩ := Template.exists_readPieces hs
  have hlong := Template.split_append hsep hvs hws
  have hread : ∀ v ∈ vs ++ ws, v.Readable := fun v hv =>
    Template.readable_of_split (Template.shortRuns_append hm hs) hlong hv
  obtain ⟨hreadvs, hreadws⟩ := List.forall_mem_append.1 hread
  have hexcludes : (∀ w ∈ ws, ¬ w.Matches count ∧ ∀ cause, ¬ w.Malformed cause) ↔
      ∀ w ∈ ws, w.Excludes count :=
    forall₂_congr fun w hw => (Variant.excludes_iff (hreadws w hw)).symm
  refine ⟨vs, ws, hvs, hws, hlong, ?_, ?_, ?_, ?_⟩
  · intro text i rule hchoose
    obtain ⟨v, hi, hv⟩ :=
      (settings.choose_eq_explicit_iff hsep hvs hreadvs count locale i).1 ⟨text, rule, hchoose⟩
    rw [settings.choose_append_of_reaches hsep hvs hlong hi (.inl hv), hchoose]
  · intro e hchoose
    obtain ⟨i, v, cause, hi, hv, -⟩ :=
      (settings.choose_eq_interval_error_iff hsep hvs hreadvs count locale e).1 hchoose
    rw [settings.choose_append_of_reaches hsep hvs hlong hi (.inr ⟨cause, hv⟩), hchoose]
  · intro text i l hchoose
    rw [hexcludes]
    exact settings.choose_append_plural_iff hsep hvs hlong hread hchoose
  · intro e hchoose hw
    exact settings.choose_append_of_missing hsep hvs hlong hread hchoose (hexcludes.1 hw)

end

/-- The third form of the locale has no variant before one is put behind the two that there are. -/
theorem choose_append_forms :
    (separator ∈ "file|files".toList ∧ Decimal.ShortRuns "file|files".toList ∧
        Decimal.ShortRuns "[0,0] none|of files".toList) ∧
      initial.choose "file|files".toList 5 (some "ru") = .error (.form ⟨2, 2, "ru"⟩) ∧
      initial.choose "file|files|[0,0] none|of files".toList 5 (some "ru") =
        .ok ⟨"none".toList, 2, .plural "ru"⟩ := by
  have hsep : separator ∈ "file|files".toList := by decide
  have hm : Decimal.ShortRuns "file|files".toList := Decimal.shortRuns_of_length_le (by decide)
  have hs : Decimal.ShortRuns "[0,0] none|of files".toList :=
    Decimal.shortRuns_of_length_le (by decide)
  have hmissing : initial.choose "file|files".toList 5 (some "ru") =
      .error (.form ⟨2, 2, "ru"⟩) := rfl
  obtain ⟨vs, ws, hvs, hws, -, -, -, -, hform⟩ :=
    choose_append initial hsep hm hs 5 (some "ru")
  have hsplit : Template.split "file|files".toList =
      .ok [⟨"file".toList, none⟩, ⟨"files".toList, none⟩] := by decide
  have hpieces : (pieces "[0,0] none|of files".toList).mapM readPiece =
      .ok [⟨"none".toList, some "[0,0]".toList⟩, ⟨"of files".toList, none⟩] := by decide
  cases hsplit.symm.trans hvs
  cases hpieces.symm.trans hws
  have hexcludes : ∀ w ∈ [(⟨"none".toList, some "[0,0]".toList⟩ : Variant),
      ⟨"of files".toList, none⟩], w.Excludes 5 := by
    refine List.forall_mem_cons.2 ⟨?_, List.forall_mem_singleton.2 ?_⟩
    · rintro _ ⟨⟩
      exact ⟨.range .left (some 0) (.finite 0) .right, by decide, by decide⟩
    · rintro _ ⟨⟩
  have hforms := hform _ hmissing fun w hw =>
    ⟨(hexcludes w hw).not_matches, (hexcludes w hw).not_malformed⟩
  exact ⟨⟨hsep, hm, hs⟩, hmissing, hforms.2.1 _ rfl⟩

/-! Other orders of the pieces. -/

theorem count_eq_one_of_unique {α : Type} [BEq α] [LawfulBEq α] {as : List α} {a : α} {i : Nat}
    (hi : as[i]? = some a) (h : ∀ k, as[k]? = some a → k = i) : as.count a = 1 := by
  induction as generalizing i with
  | nil => cases hi
  | cons b as ih =>
      cases i with
      | zero =>
          obtain rfl : b = a := Option.some.inj hi
          have hrest : b ∉ as := by
            intro hmem
            obtain ⟨k, hk⟩ := List.mem_iff_getElem?.1 hmem
            exact absurd (h (k + 1) hk) (Nat.succ_ne_zero k)
          rw [List.count_cons_self, List.count_eq_zero.2 hrest]
      | succ i =>
          have hb : b ≠ a := by
            rintro rfl
            exact absurd (h 0 rfl) (Nat.zero_ne_add_one i)
          rw [List.count_cons_of_ne hb]
          exact ih hi fun k hk => Nat.succ.inj (h (k + 1) hk)

/-- Among the pieces of an order, one stands between those before it and those behind it. -/
theorem exists_append_of_count_eq_one {α : Type} [BEq α] [LawfulBEq α] {as : List α} {a : α}
    (h : as.count a = 1) :
    ∃ before after, as = before ++ a :: after ∧ a ∉ before ++ after ∧
      as.idxOf a = before.length := by
  have hmem : a ∈ as := List.count_pos_iff.1 (by omega)
  obtain ⟨before, after, rfl⟩ := List.append_of_mem hmem
  rw [List.count_append, List.count_cons_self] at h
  have hbefore : a ∉ before := List.count_eq_zero.1 (by omega)
  have hafter : a ∉ after := List.count_eq_zero.1 (by omega)
  refine ⟨before, after, rfl, ?_, ?_⟩
  · rw [List.mem_append]
    rintro (hmem | hmem)
    · exact hbefore hmem
    · exact hafter hmem
  · rw [List.idxOf_append_of_notMem hbefore, List.idxOf_cons_self, Nat.add_zero]

section
variable (settings : Settings) {count : Int} {piece rule : List Char} {v : Variant}

/-- A piece whose rule contains the count is chosen at the place where it stands, if the rules of
all other pieces leave the count out. -/
theorem choose_of_only {before after : List (List Char)} (hne : before ++ after ≠ [])
    (hsep : ∀ p ∈ before ++ piece :: after, separator ∉ p) (hread : readPiece piece = .ok v)
    (hr : v.rule = some rule) (hv : v.Matches count)
    (hout : ∀ p ∈ before ++ after, ∃ w, readPiece p = .ok w ∧ w.Excludes count)
    (locale : Option String) :
    settings.choose (join (before ++ piece :: after)) count locale =
      .ok ⟨v.text, before.length, .explicit rule⟩ := by
  obtain ⟨hbefore, hafter⟩ := List.forall_mem_append.1 hout
  obtain ⟨us, hus⟩ := Except.exists_mapM_eq_ok fun p hp => (hbefore p hp).imp fun w hw => hw.1
  obtain ⟨ws, hws⟩ := Except.exists_mapM_eq_ok fun p hp => (hafter p hp).imp fun w hw => hw.1
  have hexcludes : ∀ u ∈ us, u.Excludes count := by
    intro u hu
    obtain ⟨p, hp, hpu⟩ := Except.exists_of_mem_mapM hus hu
    obtain ⟨w, hw, hout⟩ := hbefore p hp
    cases hpu.symm.trans hw
    exact hout
  have hlength := (Except.mapM_eq_ok_iff.1 hus).length_eq
  have h2 : 2 ≤ (before ++ piece :: after).length := by
    have := List.length_pos_of_ne_nil hne
    simp only [List.length_append, List.length_cons] at this ⊢
    omega
  have hsplit : Template.split (join (before ++ piece :: after)) = .ok (us ++ v :: ws) := by
    rw [Template.split_of_mem (Template.separator_mem_join h2),
      Template.pieces_join (by simp) hsep, List.mapM_append, List.mapM_cons, hus, hread, hws]
    rfl
  have hreaches : Reaches count (us ++ v :: ws) before.length v := by
    refine ⟨by rw [hlength, List.getElem?_append_right (Nat.le_refl _), Nat.sub_self]; rfl, ?_⟩
    intro j hj w hw
    rw [List.getElem?_append_left (by omega)] at hw
    exact hexcludes w (List.mem_of_getElem? hw)
  obtain ⟨other, hother, hchoose⟩ := settings.choose_of_matches
    (Template.separator_mem_join h2) hsplit hreaches hv locale
  cases hr.symm.trans hother
  exact hchoose

theorem choose_of_count_eq_one {ps : List (List Char)} (h2 : 2 ≤ ps.length)
    (hsep : ∀ p ∈ ps, separator ∉ p) (hone : ps.count piece = 1) (hread : readPiece piece = .ok v)
    (hr : v.rule = some rule) (hv : v.Matches count)
    (hout : ∀ p ∈ ps, p ≠ piece → ∃ w, readPiece p = .ok w ∧ w.Excludes count)
    (locale : Option String) :
    settings.choose (join ps) count locale = .ok ⟨v.text, ps.idxOf piece, .explicit rule⟩ := by
  obtain ⟨before, after, rfl, hnot, hindex⟩ := exists_append_of_count_eq_one hone
  rw [hindex]
  refine settings.choose_of_only ?_ hsep hread hr hv ?_ locale
  · intro hnil
    obtain ⟨rfl, rfl⟩ := List.append_eq_nil_iff.1 hnil
    simp at h2
  · intro p hp
    refine hout p (List.perm_middle.mem_iff.2 (List.mem_cons_of_mem piece hp)) ?_
    rintro rfl
    exact hnot hp

/-- If only one variant has a rule that contains the count, no other piece has such a rule. -/
theorem excludes_of_unique {message : List Char} {vs : List Variant} {i : Nat}
    (hs : (pieces message).mapM readPiece = .ok vs)
    (hrules : ∀ v ∈ vs, ∀ rule, v.rule = some rule →
      ∃ interval, Interval.read rule = .ok interval)
    (hunique : ∀ k : Nat, (∃ v, vs[k]? = some v ∧ v.Matches count) → k = i)
    (hpiece : (pieces message)[i]? = some piece) :
    ∀ p ∈ pieces message, p ≠ piece → ∃ w, readPiece p = .ok w ∧ w.Excludes count := by
  intro p hp hne
  obtain ⟨k, hk⟩ := List.mem_iff_getElem?.1 hp
  obtain ⟨w, hw, hpw⟩ := Except.getElem?_of_mapM hs hk
  refine ⟨w, hpw, Variant.excludes_of_not_matches (hrules w (List.mem_of_getElem? hw)) ?_⟩
  intro hmatches
  obtain rfl : k = i := hunique k ⟨w, hw, hmatches⟩
  exact hne (Option.some.inj (hk.symm.trans hpiece))

/-- If exactly one variant has a rule that contains the count and no rule is malformed, the piece of
that variant is chosen from the pieces in every order, at its place in that order. -/
theorem choose_permuted {message : List Char} {vs : List Variant} (hsep : separator ∈ message)
    (hs : Template.split message = .ok vs)
    (hrules : ∀ v ∈ vs, ∀ rule, v.rule = some rule →
      ∃ interval, Interval.read rule = .ok interval)
    (hone : ∃! i : Nat, ∃ v, vs[i]? = some v ∧ v.Matches count) :
    ∃ (i : Nat) (piece : List Char) (v : Variant) (rule : List Char),
      (pieces message)[i]? = some piece ∧ vs[i]? = some v ∧ v.rule = some rule ∧ v.Matches count ∧
      (∀ locale, settings.choose message count locale = .ok ⟨v.text, i, .explicit rule⟩) ∧
      ∀ ps : List (List Char), ps.Perm (pieces message) → ps.count piece = 1 ∧
        ∀ locale, settings.choose (join ps) count locale =
          .ok ⟨v.text, ps.idxOf piece, .explicit rule⟩ := by
  obtain ⟨i, ⟨v, hi, hv⟩, hunique⟩ := hone
  obtain ⟨rule, interval, hr, -, -⟩ := id hv
  rw [Template.split_of_mem hsep] at hs
  obtain ⟨piece, hpiece, hread⟩ := Except.exists_getElem?_of_mapM hs hi
  have honce : ∀ k, (pieces message)[k]? = some piece → k = i := by
    intro k hk
    obtain ⟨w, hw, hpw⟩ := Except.getElem?_of_mapM hs hk
    cases hread.symm.trans hpw
    exact hunique k ⟨v, hw, hv⟩
  have hout := excludes_of_unique hs hrules hunique hpiece
  have hlength : 2 ≤ (pieces message).length := by
    have := List.count_pos_iff.2 hsep
    rw [Template.length_pieces]
    omega
  have horder : ∀ ps : List (List Char), ps.Perm (pieces message) → ps.count piece = 1 ∧
      ∀ locale, settings.choose (join ps) count locale =
        .ok ⟨v.text, ps.idxOf piece, .explicit rule⟩ := by
    intro ps hperm
    have hone : ps.count piece = 1 :=
      (hperm.count_eq piece).trans (count_eq_one_of_unique hpiece honce)
    refine ⟨hone,
      settings.choose_of_count_eq_one (hperm.length_eq ▸ hlength) ?_ hone hread hr hv ?_⟩
    · intro p hp
      exact Template.separator_notMem_of_mem_pieces (hperm.mem_iff.1 hp)
    · intro p hp
      exact hout p (hperm.mem_iff.1 hp)
  refine ⟨i, piece, v, rule, hpiece, hi, hr, hv, ?_, horder⟩
  intro locale
  have hsame := (horder _ (List.Perm.refl _)).2 locale
  have hplace := honce _ (List.getElem?_idxOf (List.mem_of_getElem? hpiece))
  rwa [Template.join_pieces, hplace] at hsame

end

/-- The first variant has no rule, and of the two rules one contains 3. -/
def seats : List Char :=
  "none|[2,4] few|[5,9] many".toList

def seatsVariants : List Variant :=
  [⟨"none".toList, none⟩, ⟨"few".toList, some "[2,4]".toList⟩,
    ⟨"many".toList, some "[5,9]".toList⟩]

theorem rules_seats : ∀ v ∈ seatsVariants, ∀ rule, v.rule = some rule →
    ∃ interval, Interval.read rule = .ok interval := by
  refine List.forall_mem_cons.2 ⟨?_, List.forall_mem_cons.2 ⟨?_, List.forall_mem_singleton.2 ?_⟩⟩
  · rintro _ ⟨⟩
  · rintro _ ⟨⟩
    exact ⟨.range .left (some 2) (.finite 4) .right, by decide⟩
  · rintro _ ⟨⟩
    exact ⟨.range .left (some 5) (.finite 9) .right, by decide⟩

theorem matches_seats : ∃ v, seatsVariants[1]? = some v ∧ v.Matches 3 :=
  ⟨_, rfl, "[2,4]".toList, .range .left (some 2) (.finite 4) .right, rfl, by decide, by decide⟩

theorem unique_seats : ∀ i : Nat, (∃ v, seatsVariants[i]? = some v ∧ v.Matches 3) → i = 1 := by
  rintro i ⟨v, hi, rule, interval, hr, hread, hc⟩
  match i with
  | 0 =>
      cases hi
      cases hr
  | 1 => rfl
  | 2 =>
      cases hi
      cases hr
      have hfive : Interval.read "[5,9]".toList =
          .ok (.range .left (some 5) (.finite 9) .right) := by decide
      cases hfive.symm.trans hread
      cases hc
  | i + 3 => cases hi

theorem choose_permuted_seats :
    (separator ∈ seats ∧ Template.split seats = .ok seatsVariants ∧
      (∀ v ∈ seatsVariants, ∀ rule, v.rule = some rule →
        ∃ interval, Interval.read rule = .ok interval) ∧
      ∃! i : Nat, ∃ v, seatsVariants[i]? = some v ∧ v.Matches 3) ∧
    initial.choose "[5,9] many|none|[2,4] few".toList 3 none =
      .ok ⟨"few".toList, 2, .explicit "[2,4]".toList⟩ := by
  have hsep : separator ∈ seats := by decide
  have hsplit : Template.split seats = .ok seatsVariants := by decide
  have hone : ∃! i : Nat, ∃ v, seatsVariants[i]? = some v ∧ v.Matches 3 :=
    ⟨1, matches_seats, unique_seats⟩
  refine ⟨⟨hsep, hsplit, rules_seats, hone⟩, ?_⟩
  obtain ⟨i, piece, v, rule, hpiece, hi, hr, hv, -, horder⟩ :=
    choose_permuted initial hsep hsplit rules_seats hone
  obtain rfl := unique_seats i ⟨v, hi, hv⟩
  cases hi
  cases hr
  have hpieces : pieces seats =
      ["none".toList, "[2,4] few".toList, "[5,9] many".toList] := by decide
  rw [hpieces] at hpiece horder
  cases hpiece
  exact (horder ["[5,9] many".toList, "none".toList, "[2,4] few".toList] (by decide)).2 none

end Settings
end PluralMessage
