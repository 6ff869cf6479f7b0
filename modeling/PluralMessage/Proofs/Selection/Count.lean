import Mathlib.Tactic.IntervalCases
import PluralMessage.Proofs.Except
import PluralMessage.Proofs.Interval.Numeral
import PluralMessage.Proofs.Placeholder.CaseStyle
import PluralMessage.Proofs.Placeholder.Precedence
import PluralMessage.Proofs.Selection.Resolution

/-!
The count among the values. It takes the place of a value that has its name exactly, or comes last;
but names match without regard to case, so of all values that have its name in some case the first
one is inserted, and that need not be the count.
-/
namespace PluralMessage

open Placeholder

/-- The name of the count. -/
def countName : List Char :=
  "count".toList

/-! The text of the count. -/

/-- What holds of the digits and the sign holds of every character of a number. -/
theorem of_mem_ofInt {p : Char → Prop} [DecidablePred p]
    (h : "-0123456789".toList.all (fun c => p c) = true) {n : Int} {c : Char}
    (hc : c ∈ Decimal.ofInt n) : p c := by
  have hdigit : ∀ {n}, c ∈ Decimal.ofNat n → c ∈ "-0123456789".toList := by
    intro n hc
    obtain ⟨hlow, hhigh⟩ := Interval.isDigit_toNat (Decimal.isDigit_of_mem_ofNat hc)
    rw [← Char.ofNat_toNat c]
    generalize c.toNat = code at hlow hhigh
    interval_cases code <;> decide
  refine of_decide_eq_true (List.all_eq_true.1 h c ?_)
  cases n with
  | ofNat n => exact hdigit hc
  | negSucc n =>
      rcases List.mem_cons.1 hc with rfl | hc
      · decide
      · exact hdigit hc

theorem inert_ofInt (n : Int) : Inert countName (Decimal.ofInt n) where
  ne_nil := by
    cases n with
    | ofNat n => exact Nat.toDigits_ne_nil
    | negSucc n => exact List.cons_ne_nil _ _
  caseless := by
    refine inCaseOf_of_value_unchanged fun c hc => ?_
    exact of_mem_ofInt (p := fun c => Text.upperChar c = [c]) (by decide) hc
  unmarked := by
    intro hmark
    exact of_mem_ofInt (p := fun c => c ≠ mark) (by decide) hmark rfl
  foreign := by
    intro c hc
    exact of_mem_ofInt (p := fun c => Foreign c countName) (by decide) hc

namespace Placeholder

theorem without_set {β : Type} {name key : List Char} (h : SameName name key) (item : β)
    (entries : List (List Char × β)) :
    without name (Entries.set (· == ·) key item entries) = without name entries := by
  induction entries with
  | nil => exact List.filter_cons_of_neg (by simp [h])
  | cons entry entries ih =>
      rw [Entries.set]
      split
      · rename_i hk
        rw [eq_of_beq hk, without, without, List.filter_cons_of_neg (by simp [h]),
          List.filter_cons_of_neg (by simp [eq_of_beq hk, h])]
      · simp only [without, List.filter_cons] at ih ⊢
        rw [ih]

end Placeholder

namespace Settings

section
variable {name : List Char} {count : Int} {values : List (List Char × Value)}
  {texts : List (List Char × List Char)}

/-! The values with the count among them, as they are given and as they are read. -/

theorem without_valuesFor (count : Int) (values : List (List Char × Value)) :
    without countName (valuesFor count values) = without countName values :=
  without_set rfl _ _

theorem valuesFor_without (count : Int) (values : List (List Char × Value)) :
    valuesFor count (without countName values) =
      without countName values ++ [(countName, .int count)] := by
  refine Entries.set_of_forall_not (fun entry hentry => beq_eq_false_iff_ne.2 ?_) _
  intro heq
  exact (mem_without.1 hentry).2 (congrArg (List.map Text.foldChar) heq.symm)

theorem readEntry_eq_ok_iff {v : Value} {text : List Char × List Char} :
    v.readChars.map (name, ·) = .ok text ↔ name = text.1 ∧ v.chars? = some text.2 := by
  obtain ⟨key, text⟩ := text
  cases hv : v.chars? <;> simp [Value.readChars, hv, Except.map]

theorem readValues_eq_ok_iff :
    readValues values = .ok texts ↔
      List.Forall₂ (fun entry text => entry.1 = text.1 ∧ entry.2.chars? = some text.2) values
        texts := by
  simp only [readValues, Except.mapM_eq_ok_iff, readEntry_eq_ok_iff]

theorem mem_texts_count (h : readValues (valuesFor count values) = .ok texts) :
    (Value.int count).chars? = some (Decimal.ofInt count) ∧
      (countName, Decimal.ofInt count) ∈ texts := by
  have hcount : (countName, Value.int count) ∈ valuesFor count values := Entries.mem_set_self _ _ _
  obtain ⟨⟨key, text⟩, hmem, htext⟩ := Except.exists_mem_of_mapM h hcount
  obtain ⟨rfl, hchars⟩ := readEntry_eq_ok_iff.1 htext
  obtain rfl := Decimal.eq_ofInt_of_ofInt? hchars
  exact ⟨hchars, hmem⟩

theorem readValues_valuesFor_without (h : readValues (valuesFor count values) = .ok texts) :
    readValues (valuesFor count (without countName values)) =
      .ok (without countName texts ++ [(countName, Decimal.ofInt count)]) := by
  have hcount := (mem_texts_count h).1
  rw [readValues_eq_ok_iff] at h ⊢
  rw [valuesFor_without, ← without_valuesFor count values]
  refine List.rel_append (List.rel_filter ?_ h) (.cons ⟨rfl, hcount⟩ .nil)
  intro entry text hentry
  simp only [hentry.1]

theorem exists_first_count (h : readValues (valuesFor count values) = .ok texts) :
    ∃ before first behind, First countName texts before first behind :=
  exists_first ⟨_, (mem_texts_count h).2, rfl⟩

theorem unmarked_texts (h : readValues (valuesFor count values) = .ok texts)
    (hmarks : ∀ entry ∈ values, ∀ text, entry.2.chars? = some text → mark ∉ text) :
    ∀ e ∈ texts, Unmarked e.2 := by
  have hcount : ∀ text, (Value.int count).chars? = some text → mark ∉ text := by
    intro text htext
    obtain rfl := Decimal.eq_ofInt_of_ofInt? htext
    exact (inert_ofInt count).unmarked
  have hall : ∀ entry ∈ valuesFor count values, ∀ text, entry.2.chars? = some text → mark ∉ text :=
    Entries.forall_set (P := fun v : Value => ∀ text, v.chars? = some text → mark ∉ text) hcount
      hmarks
  intro e he
  obtain ⟨entry, hentry, htext⟩ := Except.exists_of_mem_mapM h he
  exact unmarked_of_notMem (hall entry hentry _ (readEntry_eq_ok_iff.1 htext).2)

/-- The first value of a name is read from the first value of that name. -/
theorem exists_first_of_readValues {before behind : List (List Char × List Char)}
    {first : List Char × List Char} (h : readValues values = .ok texts)
    (hfirst : First name texts before first behind) :
    ∃ given v others, First name values given (first.1, v) others ∧
      v.chars? = some first.2 := by
  rw [readValues_eq_ok_iff, hfirst.eq_append] at h
  have hgiven := List.forall₂_take_append _ _ _ h
  have hrest := List.forall₂_drop_append _ _ _ h
  have hsplit := List.take_append_drop before.length values
  generalize values.take before.length = given at hgiven hsplit
  generalize values.drop before.length = rest at hrest hsplit
  cases hrest with
  | @cons entry _ others _ hentry _ =>
      obtain ⟨key, v⟩ := entry
      obtain ⟨rfl, hchars⟩ := hentry
      refine ⟨given, v, others, ⟨hsplit.symm, ?_, hfirst.same⟩, hchars⟩
      intro e he
      obtain ⟨t, ht, htext⟩ := Except.exists_mem_of_mapM (readValues_eq_ok_iff.2 hgiven) he
      rw [(readEntry_eq_ok_iff.1 htext).1]
      exact hfirst.other t ht

/-- If its name is not written in other cases, the count comes first. -/
theorem first_count_of_exact {before behind : List (List Char × List Char)}
    {first : List Char × List Char} (h : readValues (valuesFor count values) = .ok texts)
    (hfirst : First countName texts before first behind)
    (hexact : ∀ entry ∈ values, SameName countName entry.1 → entry.1 = countName) :
    first.2 = Decimal.ofInt count := by
  obtain ⟨given, v, others, hgiven, hchars⟩ := exists_first_of_readValues h hfirst
  have hkey : first.1 = countName := by
    rcases Entries.mem_keys_set (List.mem_map_of_mem hgiven.mem) with hkey | hkey
    · obtain ⟨entry, hentry, heq⟩ := List.mem_map.1 hkey
      rw [← heq]
      exact hexact entry hentry (heq ▸ hfirst.same)
    · exact hkey
  have hfind : (valuesFor count values).find? (fun e => e.1 == countName) = some (first.1, v) := by
    refine List.find?_eq_some_iff_append.2
      ⟨beq_iff_eq.2 hkey, given, others, hgiven.eq_append, fun e he => ?_⟩
    rw [Bool.not_eq_true', beq_eq_false_iff_ne]
    rintro heq
    exact hgiven.other e he (heq ▸ rfl)
  have hset : Entries.get? (· == ·) (valuesFor count values) countName = some (.int count) :=
    Entries.get?_set_self (beq_self_eq_true countName) _ _
  rw [Entries.get?, hfind, Option.map_some, Option.some.injEq] at hset
  cases hset
  exact Decimal.eq_ofInt_of_ofInt? hchars

/-! What is inserted for the count. -/

theorem resolve_of_readValues (settings : Settings) {message : List Char} {locale : Option String}
    {choice : Choice} (hchoice : settings.choose message count locale = .ok choice)
    (hread : readValues (valuesFor count values) = .ok texts) (substitute : Option Bool) :
    settings.resolve message count values locale substitute =
      .ok (if substitute.getD settings.substitute then apply choice.text texts
        else choice.text) := by
  simp only [resolve, hchoice, hread, bind, Except.bind]
  split <;> rfl

theorem inCaseOf_countName (value : List Char) : inCaseOf countName value = value :=
  inCaseOf_eq_self (c := 'c') (by decide) (by decide) value

/-- The count prevails over all values that have its name up to letter case if and only if the first
of them, the count among them, reads as the count; so it does if its name is written in no other
case. Texts in which marks stand apart are all covered, and others if no other name of five
characters comes behind that first value. -/
theorem count_prevails_iff (settings : Settings) {count : Int} {values : List (List Char × Value)}
    {texts : List (List Char × List Char)} (hread : readValues (valuesFor count values) = .ok texts)
    (hmarks : ∀ entry ∈ values, ∀ text, entry.2.chars? = some text → mark ∉ text) :
    ∃ before first behind, First countName texts before first behind ∧
      ((∀ message locale substitute choice,
          settings.choose message count locale = .ok choice →
          (Spaced texts choice.text ∨
            ∀ e ∈ behind, e.1.length = countName.length → SameName countName e.1) →
          settings.resolve message count values locale substitute =
            settings.resolve message count (without countName values) locale substitute) ↔
        first.2 = Decimal.ofInt count) ∧
      ((∀ entry ∈ values, SameName countName entry.1 → entry.1 = countName) →
        first.2 = Decimal.ofInt count) := by
  obtain ⟨before, first, behind, hfirst⟩ := exists_first_count hread
  have hvalues := unmarked_texts hread hmarks
  have hread' := readValues_valuesFor_without hread
  refine ⟨before, first, behind, hfirst, ⟨?prevails, ?covered⟩, first_count_of_exact hread hfirst⟩
  case prevails =>
    intro h
    -- The placeholder of the count on its own shows which of the two is inserted.
    have hsingle : Template.separator ∉ mark :: countName := by decide
    have hchoice := settings.choose_of_notMem hsingle count none
    have hspaced : Spaced texts (mark :: countName) :=
      ⟨fun _ hmem => absurd hmem (by decide), .of_notMem (by decide)⟩
    have hcount : Unmarked (Decimal.ofInt count) := unmarked_of_notMem (inert_ofInt count).unmarked
    have hequal := h _ none (some true) _ hchoice (.inl hspaced)
    rw [resolve_of_readValues settings hchoice hread, resolve_of_readValues settings hchoice hread',
      Option.getD_some, if_pos rfl, if_pos rfl, Except.ok.injEq,
      apply_without_of_spaced hfirst hvalues hspaced,
      apply_mark_name (by decide) hvalues (hvalues first hfirst.mem),
      apply_mark_name (by decide) hvalues hcount, inCaseOf_countName, inCaseOf_countName] at hequal
    exact hequal
  case covered =>
    intro hcount message locale substitute choice hchoice hmessage
    have happly : apply choice.text texts =
        apply choice.text (without countName texts ++ [(countName, Decimal.ofInt count)]) := by
      rw [← hcount]
      rcases hmessage with hspaced | hlast
      · exact apply_without_of_spaced hfirst hvalues hspaced
      · exact apply_without_of_last hfirst hlast (hcount ▸ inert_ofInt count) _
    rw [resolve_of_readValues settings hchoice hread, resolve_of_readValues settings hchoice hread',
      happly]

/-- A value has the name of the count exactly, and another one comes in front of it. -/
def basket : List (List Char × Value) :=
  [("name".toList, .text "ana"), ("count".toList, .text "many")]

theorem count_prevails_iff_basket :
    (readValues (valuesFor 3 basket) =
          .ok [("name".toList, "ana".toList), ("count".toList, "3".toList)] ∧
        ∀ entry ∈ basket, ∀ text, entry.2.chars? = some text → mark ∉ text) ∧
      initial.resolve "none|:COUNT for :Name, :count".toList 3 basket none (some true) =
        initial.resolve "none|:COUNT for :Name, :count".toList 3 (without countName basket) none
          (some true) := by
  have hread : readValues (valuesFor 3 basket) =
      .ok [("name".toList, "ana".toList), ("count".toList, "3".toList)] := rfl
  have hmarks : ∀ entry ∈ basket, ∀ text, entry.2.chars? = some text → mark ∉ text := by
    refine List.forall_mem_cons.2 ⟨?_, List.forall_mem_singleton.2 ?_⟩
    · rintro _ ⟨⟩
      decide
    · rintro _ ⟨⟩
      decide
  obtain ⟨before, first, behind, -, hiff, hexact⟩ := count_prevails_iff initial hread hmarks
  have hcovered := hiff.2 (hexact (by decide))
  refine ⟨⟨hread, hmarks⟩, ?_⟩
  exact hcovered _ none (some true) ⟨":COUNT for :Name, :count".toList, 1, .plural "en"⟩ rfl
    (.inl (by decide))

theorem resolve_of_sorted (settings : Settings) (texts : List (List Char × List Char))
    {message s : List Char} {count : Int} {values : List (List Char × Value)}
    (hread : readValues (valuesFor count values) = .ok texts)
    (hsorted : texts.Pairwise fun a b => decide (b.1.length ≤ a.1.length) = true)
    (hmessage : Template.separator ∉ message) (hpasses : passes texts message = s) :
    settings.resolve message count values none (some true) = .ok s := by
  have hchoice := settings.choose_of_notMem hmessage count none
  rw [resolve_of_readValues settings hchoice hread, Option.getD_some, if_pos rfl, apply_eq_passes,
    longestFirst, List.mergeSort_of_pairwise hsorted, hpasses]

/-- The name of the count in capitals. -/
def shouted : List (List Char × Value) :=
  [("COUNT".toList, .text "many")]

/-- The very name of the count, in front of another name of five characters. -/
def crossed : List (List Char × Value) :=
  [("count".toList, .int 9), ("three".toList, .text "unt")]

/-- A value with the name in capitals is inserted in place of the count. One with the very name
lends its place to the count, which is then too early for a placeholder that a later value completes.
-/
theorem count_prevails_iff_shouted :
    (initial.resolve ":count apples".toList 3 shouted none (some true) =
          .ok "many apples".toList ∧
        initial.resolve ":count apples".toList 3 (without countName shouted) none (some true) =
          .ok "3 apples".toList) ∧
      initial.resolve ":co:three".toList 3 crossed none (some true) = .ok ":count".toList ∧
        initial.resolve ":co:three".toList 3 (without countName crossed) none (some true) =
          .ok "3".toList := by
  refine ⟨⟨?_, ?_⟩, ?_, ?_⟩
  · exact resolve_of_sorted initial
      [("COUNT".toList, "many".toList), ("count".toList, "3".toList)] rfl (by decide) (by decide)
      (by decide)
  · exact resolve_of_sorted initial [("count".toList, "3".toList)] rfl (by decide) (by decide)
      (by decide)
  · exact resolve_of_sorted initial
      [("count".toList, "3".toList), ("three".toList, "unt".toList)] rfl (by decide) (by decide)
      (by decide)
  · exact resolve_of_sorted initial
      [("three".toList, "unt".toList), ("count".toList, "3".toList)] rfl (by decide) (by decide)
      (by decide)

end
end Settings
end PluralMessage
