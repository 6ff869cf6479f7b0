import PluralMessage.Proofs.Placeholder.Locality

/-!
Names that differ in letter case only. They start the same texts, so one can take the place of the
other in every pass over a text.
-/
namespace PluralMessage.Placeholder

/-- A name starts a text if it does so after the characters of both have been replaced by the
representatives of their classes. -/
theorem startsWith_iff_isPrefix {name s : List Char} :
    startsWith name s = true ↔ name.map Text.foldChar <+: s.map Text.foldChar := by
  induction name generalizing s with
  | nil => simp [startsWith]
  | cons k name ih =>
      cases s with
      | nil => simp [startsWith]
      | cons c s =>
          rw [startsWith, Bool.and_eq_true, ih, List.map_cons, List.map_cons,
            List.cons_prefix_cons, Text.sameLetter, beq_iff_eq]

/-- The names are the same up to letter case. -/
def SameName (a b : List Char) : Prop :=
  a.map Text.foldChar = b.map Text.foldChar

instance (a b : List Char) : Decidable (SameName a b) :=
  inferInstanceAs (Decidable (_ = _))

theorem foreign_iff {d : Char} {name : List Char} :
    Foreign d name ↔ Text.foldChar d ∉ name.map Text.foldChar := by
  simp [Foreign, Text.sameLetter]

/-- Of two names of one length, both start a text only if they are the same. -/
theorem sameName_of_startsWith {a b s : List Char} (hlength : a.length = b.length)
    (ha : startsWith a s = true) (hb : startsWith b s = true) : SameName a b := by
  rw [startsWith_iff_isPrefix] at ha hb
  have hlength : (a.map Text.foldChar).length = (b.map Text.foldChar).length := by
    rw [List.length_map, List.length_map, hlength]
  have hprefix := List.prefix_of_prefix_length_le ha hb (Nat.le_of_eq hlength)
  exact hprefix.eq_of_length hlength

namespace SameName

variable {a b : List Char}

theorem length_eq (h : SameName a b) : a.length = b.length := by
  simpa using congrArg List.length h

theorem startsWith_eq (h : SameName a b) (s : List Char) : startsWith a s = startsWith b s := by
  rw [Bool.eq_iff_iff, startsWith_iff_isPrefix, startsWith_iff_isPrefix, h]

theorem foreign (h : SameName a b) {d : Char} (hd : Foreign d a) : Foreign d b := by
  rw [foreign_iff] at hd ⊢
  rwa [← h]

theorem replaceFrom_eq (h : SameName a b) (value : List Char) (skip : Nat) (s : List Char) :
    replaceFrom a value skip s = replaceFrom b value skip s := by
  induction s generalizing skip with
  | nil => simp only [replaceFrom]
  | cons c s ih =>
      cases skip with
      | succ skip => rw [replaceFrom, replaceFrom, ih]
      | zero => simp only [replaceFrom, h.startsWith_eq, h.length_eq, ih]

theorem replace_eq (h : SameName a b) (value s : List Char) :
    replace a value s = replace b value s :=
  h.replaceFrom_eq value 0 s

end SameName
end PluralMessage.Placeholder
