import PluralMessage.Proofs.Interval.Search
import PluralMessage.Template

/-!
The pieces of a template and the variants that they are read as. Every piece, and every rule, is a
part of the template, so a template without long runs of digits has variants.
-/
namespace PluralMessage.Template

theorem pieces_of_notMem {piece : List Char} (h : separator ∉ piece) :
    pieces piece = [piece] := by
  induction piece with
  | nil => rfl
  | cons c s ih =>
      have hc : c ≠ separator := fun hc => h (by simp [hc])
      rw [pieces, if_neg hc, ih (fun hs => h (by simp [hs])), consFirst]

theorem consFirst_append {ps : List (List Char)} (h : ps ≠ []) (c : Char)
    (qs : List (List Char)) : consFirst c (ps ++ qs) = consFirst c ps ++ qs := by
  cases ps with
  | nil => exact absurd rfl h
  | cons p ps => rfl

/-- Two texts with a separator between them have the pieces of the one, then those of the other. -/
theorem pieces_append_separator (s t : List Char) :
    pieces (s ++ separator :: t) = pieces s ++ pieces t := by
  induction s with
  | nil => simp [pieces]
  | cons c s ih =>
      rw [List.cons_append, pieces, pieces, ih]
      split
      · rw [List.cons_append]
      · exact consFirst_append (pieces_ne_nil s) c (pieces t)

theorem pieces_append {piece : List Char} (h : separator ∉ piece) (s : List Char) :
    pieces (piece ++ separator :: s) = piece :: pieces s := by
  rw [pieces_append_separator, pieces_of_notMem h, List.singleton_append]

theorem pieces_join {ps : List (List Char)} (hne : ps ≠ []) (h : ∀ p ∈ ps, separator ∉ p) :
    pieces (join ps) = ps := by
  induction ps with
  | nil => exact absurd rfl hne
  | cons p ps ih =>
      have hp : separator ∉ p := h p (by simp)
      by_cases hps : ps = []
      · subst hps
        simpa [join, List.intercalate] using pieces_of_notMem hp
      · rw [join_cons hps, pieces_append hp, ih hps (fun q hq => h q (by simp [hq]))]

theorem length_consFirst {ps : List (List Char)} (h : ps ≠ []) (c : Char) :
    (consFirst c ps).length = ps.length := by
  cases ps with
  | nil => exact absurd rfl h
  | cons p ps => rfl

theorem length_pieces (s : List Char) : (pieces s).length = s.count separator + 1 := by
  induction s with
  | nil => rfl
  | cons c s ih =>
      rw [pieces]
      split
      · rename_i hc
        rw [List.length_cons, ih, hc, List.count_cons_self]
      · rename_i hc
        rw [length_consFirst (pieces_ne_nil s), ih, List.count_cons_of_ne hc]

theorem separator_mem_join {ps : List (List Char)} (h : 2 ≤ ps.length) :
    separator ∈ join ps := by
  match ps, h with
  | p :: q :: ps, _ =>
      rw [join_cons (List.cons_ne_nil q ps)]
      simp

theorem isSingle_of_notMem {s : List Char} (h : separator ∉ s) : isSingle s = true := by
  simpa [isSingle] using h

theorem isSingle_of_mem {s : List Char} (h : separator ∈ s) : isSingle s = false := by
  simpa [isSingle] using h

theorem split_of_mem {s : List Char} (h : separator ∈ s) :
    split s = (pieces s).mapM readPiece := by
  rw [split, isSingle_of_mem h, if_neg Bool.false_ne_true]

/-- The variants of a template are what its pieces are read as. -/
theorem split_join {ps : List (List Char)} {vs : List Variant} (h2 : 2 ≤ ps.length)
    (hsep : ∀ p ∈ ps, separator ∉ p)
    (hread : List.Forall₂ (fun p v => readPiece p = .ok v) ps vs) :
    split (join ps) = .ok vs := by
  have hne : ps ≠ [] := by
    rintro rfl
    cases h2
  rw [split_of_mem (separator_mem_join h2), pieces_join hne hsep, Except.mapM_eq_ok_iff]
  exact hread

theorem split_join_map {α : Type} {as : List α} {piece : α → List Char} {variant : α → Variant}
    (h2 : 2 ≤ as.length) (hsep : ∀ a ∈ as, separator ∉ piece a)
    (hread : ∀ a ∈ as, readPiece (piece a) = .ok (variant a)) :
    split (join (as.map piece)) = .ok (as.map variant) := by
  apply split_join
  · rwa [List.length_map]
  · exact List.forall_mem_map.2 hsep
  · rw [List.forall₂_map_left_iff, List.forall₂_map_right_iff, List.forall₂_same]
    exact hread

theorem infix_join {ps : List (List Char)} {p : List Char} (h : p ∈ ps) : p <:+: join ps := by
  induction ps with
  | nil => cases h
  | cons q ps ih =>
      by_cases hps : ps = []
      · subst hps
        obtain rfl := List.mem_singleton.1 h
        simp [join, List.intercalate]
      · rw [join_cons hps]
        rcases List.mem_cons.1 h with rfl | h
        · exact (List.prefix_append _ _).isInfix
        · exact (ih h).trans ((List.suffix_cons _ _).trans (List.suffix_append _ _)).isInfix

theorem infix_of_mem_pieces {s piece : List Char} (h : piece ∈ pieces s) : piece <:+: s := by
  have hjoin := infix_join h
  rwa [join_pieces] at hjoin

theorem exists_readPiece {piece : List Char} (h : Decimal.ShortRuns piece) :
    ∃ v, readPiece piece = .ok v := by
  have hs : Decimal.ShortRuns (Text.trim piece) := h.of_isInfix (Interval.trim_isInfix piece)
  simp only [readPiece]
  split
  · exact ⟨_, rfl⟩
  · exact ⟨_, rfl⟩
  · rename_i e he
    exact absurd he (Interval.search_ne_error hs e)

theorem exists_split {message : List Char} (h : Decimal.ShortRuns message) :
    ∃ vs, split message = .ok vs := by
  rw [split]
  split
  · exact ⟨_, rfl⟩
  · exact Except.exists_mapM_eq_ok fun piece hp =>
      exists_readPiece (h.of_isInfix (infix_of_mem_pieces hp))

/-- A piece without an interval is a text, and one with an interval starts with its rule. -/
theorem cases_of_readPiece {piece : List Char} {v : Variant} (h : readPiece piece = .ok v) :
    v = ⟨Text.trim piece, none⟩ ∨
      v = ⟨Text.afterFirstWord (Text.trim piece), some (Text.firstWord (Text.trim piece))⟩ ∧
        ∃ e : Interval.Expression, e.text <:+: Text.trim piece := by
  simp only [readPiece] at h
  split at h
  · rename_i i hi
    obtain ⟨e, he, -⟩ := Interval.exists_of_search hi
    exact .inr ⟨(Except.ok.inj h).symm, e, he⟩
  · exact .inl (Except.ok.inj h).symm
  · cases h

theorem readPiece_of_isInfix {piece : List Char} (hs : Decimal.ShortRuns piece)
    {e : Interval.Expression} (he : e.text <:+: Text.trim piece) :
    readPiece piece =
      .ok ⟨Text.afterFirstWord (Text.trim piece), some (Text.firstWord (Text.trim piece))⟩ := by
  obtain ⟨i, hi⟩ := Interval.exists_search (hs.of_isInfix (Interval.trim_isInfix piece)) he
  simp only [readPiece, hi]

theorem rule_infix_of_readPiece {piece rule : List Char} {v : Variant}
    (h : readPiece piece = .ok v) (hr : v.rule = some rule) : rule <:+: piece := by
  rcases cases_of_readPiece h with rfl | ⟨rfl, -⟩
  · cases hr
  · cases hr
    exact (List.takeWhile_prefix _).isInfix.trans (Interval.trim_isInfix piece)

theorem exists_piece_of_split {message : List Char} {vs : List Variant} {v : Variant}
    (hsep : separator ∈ message) (hs : split message = .ok vs) (hv : v ∈ vs) :
    ∃ piece ∈ pieces message, readPiece piece = .ok v := by
  rw [split_of_mem hsep] at hs
  exact Except.exists_of_mem_mapM hs hv

/-- A rule stands in the template as it is. -/
theorem rule_infix_of_split {message rule : List Char} {vs : List Variant} {v : Variant}
    (h : split message = .ok vs) (hv : v ∈ vs) (hr : v.rule = some rule) : rule <:+: message := by
  rw [split] at h
  split at h
  · cases h
    obtain rfl := List.mem_singleton.1 hv
    cases hr
  · obtain ⟨piece, hp, hread⟩ := Except.exists_of_mem_mapM h hv
    exact (rule_infix_of_readPiece hread hr).trans (infix_of_mem_pieces hp)

end PluralMessage.Template
