import Mathlib.Data.List.Forall2
import PluralMessage.Proofs.Placeholder.SameName
import PluralMessage.Selection

/-!
The spelling of names. Names that match each other have one length, so they come at one place when
the longest are put first, and each finds the same placeholders in whatever the passes before it
left; the case of what is inserted is that of the text and not of the name.
-/
namespace PluralMessage
namespace Placeholder

theorem sameName_iff_forall₂ {a b : List Char} :
    SameName a b ↔ List.Forall₂ (fun k l => Text.sameLetter k l = true) a b := by
  simp only [SameName, Text.sameLetter, beq_iff_eq]
  rw [← List.forall₂_eq_eq_eq, List.forall₂_map_left_iff, List.forall₂_map_right_iff]

/-- The entries have one item, and names that match each other character by character. -/
structure Respelled {α : Type} (a b : List Char × α) : Prop where
  name : List.Forall₂ (fun k l => Text.sameLetter k l = true) a.1 b.1
  item : a.2 = b.2

namespace Respelled

variable {α : Type} {a b : List Char × α}

theorem sameName (h : Respelled a b) : SameName a.1 b.1 :=
  sameName_iff_forall₂.2 h.name

theorem length_eq (h : Respelled a b) : a.1.length = b.1.length :=
  h.name.length_eq

end Respelled

section
variable {α β : Type} {name : α → List Char} {name' : β → List Char}

/-- The sort sees no more of an item than the length of its name. -/
theorem map_longestFirst (name' : β → List Char) (f : α → β) {items : List α}
    (h : ∀ a ∈ items, (name a).length = (name' (f a)).length) :
    (longestFirst name items).map f = longestFirst name' (items.map f) :=
  List.map_mergeSort fun a ha b hb => by rw [h a ha, h b hb]

/-- Items that are paired stay so when both lists are sorted, if the names in a pair have one
length. -/
theorem forall₂_longestFirst {r : α → β → Prop}
    (hr : ∀ a b, r a b → (name a).length = (name' b).length) {as : List α} {bs : List β}
    (h : List.Forall₂ r as bs) :
    List.Forall₂ r (longestFirst name as) (longestFirst name' bs) := by
  obtain ⟨hlength, hzip⟩ := List.forall₂_iff_zip.1 h
  have hleft : (longestFirst (fun p => name p.1) (as.zip bs)).map Prod.fst =
      longestFirst name as := by
    rw [map_longestFirst name Prod.fst fun _ _ => rfl, List.map_fst_zip (Nat.le_of_eq hlength)]
  have hright : (longestFirst (fun p => name p.1) (as.zip bs)).map Prod.snd =
      longestFirst name' bs := by
    rw [map_longestFirst name' Prod.snd fun p hp => hr p.1 p.2 (hzip hp),
      List.map_snd_zip (Nat.le_of_eq hlength.symm)]
  rw [← hleft, ← hright, List.forall₂_map_left_iff, List.forall₂_map_right_iff, List.forall₂_same]
  intro p hp
  exact hzip ((longestFirst_perm _ _).mem_iff.1 hp)

end

theorem passes_respelled {entries others : List (List Char × List Char)}
    (h : List.Forall₂ Respelled entries others) (s : List Char) :
    passes entries s = passes others s := by
  induction h generalizing s with
  | nil => rfl
  | cons hentry _ ih => rw [passes_cons, passes_cons, hentry.sameName.replace_eq, hentry.item, ih]

theorem apply_eq_of_respelled {entries others : List (List Char × List Char)}
    (h : List.Forall₂ Respelled entries others) (s : List Char) :
    apply s entries = apply s others := by
  rw [apply_eq_passes, apply_eq_passes]
  exact passes_respelled (forall₂_longestFirst (fun _ _ hab => hab.length_eq) h) s

end Placeholder

namespace Settings
open Placeholder (Respelled)

theorem readValues_cons (key : List Char) (v : Value) (values : List (List Char × Value)) :
    readValues ((key, v) :: values) = (do
      let text ← v.readChars
      let texts ← readValues values
      .ok ((key, text) :: texts)) := by
  simp only [readValues, List.mapM_cons]
  cases v.readChars <;> rfl

/-- Names play no part in reading values: both lists fail alike, or their texts are paired again. -/
theorem readValues_respelled {values others : List (List Char × Value)}
    (h : List.Forall₂ Respelled values others) :
    (∃ e, readValues values = .error e ∧ readValues others = .error e) ∨
      ∃ texts texts', readValues values = .ok texts ∧ readValues others = .ok texts' ∧
        List.Forall₂ Respelled texts texts' := by
  induction h with
  | nil => exact .inr ⟨[], [], rfl, rfl, .nil⟩
  | @cons a b _ _ hab _ ih =>
      obtain ⟨key, v⟩ := a
      obtain ⟨key', w⟩ := b
      obtain rfl : v = w := hab.item
      rw [readValues_cons, readValues_cons]
      cases v.readChars with
      | error e => exact .inl ⟨e, rfl, rfl⟩
      | ok text =>
          rcases ih with ⟨e, he, he'⟩ | ⟨texts, texts', ht, ht', hpairs⟩
          · rw [he, he']
            exact .inl ⟨e, rfl, rfl⟩
          · rw [ht, ht']
            exact .inr ⟨_, _, rfl, rfl, .cons ⟨hab.name, rfl⟩ hpairs⟩

end Settings

namespace Placeholder
open Settings (readValues)

/-- The spelling of names makes no difference: entries with the same items in the same order, and
with names that match each other, fill every text alike, or cannot be written alike. -/
theorem apply_respelled {values others : List (List Char × Value)}
    (h : List.Forall₂ Respelled values others) (s : List Char) :
    (readValues values).map (apply s) = (readValues others).map (apply s) := by
  rcases Settings.readValues_respelled h with ⟨e, he, he'⟩ | ⟨texts, texts', ht, ht', hpairs⟩
  · rw [he, he']
  · rw [ht, ht', Except.map, Except.map, apply_eq_of_respelled hpairs]

/-- Names with a long s, a capital sigma and a dotted capital I. -/
def guests : List (List Char × Value) :=
  [("gueſtΣ".toList, .text "two :ıd"), ("İd".toList, .int 7)]

/-- The same in other spellings. -/
def guestsPlain : List (List Char × Value) :=
  [("GUESTς".toList, .text "two :ıd"), ("id".toList, .int 7)]

theorem apply_respelled_guests :
    List.Forall₂ Respelled guests guestsPlain ∧
      (readValues guests).map (apply ":Guestσ came".toList) = .ok "Two 7 came".toList := by
  have hpairs : List.Forall₂ Respelled guests guestsPlain :=
    .cons ⟨by decide, rfl⟩ (.cons ⟨by decide, rfl⟩ .nil)
  have htexts : readValues guestsPlain =
      .ok [("GUESTς".toList, "two :ıd".toList), ("id".toList, "7".toList)] := by rfl
  refine ⟨hpairs, ?_⟩
  rw [apply_respelled hpairs, htexts, Except.map, apply_eq_passes, longestFirst,
    List.mergeSort_of_pairwise (by decide)]
  exact congrArg Except.ok (by decide)

end Placeholder
end PluralMessage
