import PluralMessage.Placeholder

/-!
Where a text falls apart for the replacement of placeholders. A placeholder never reaches across a
character that is neither a mark nor matched by a character of a name, so what stands before such a
character and what stands behind it are replaced each on its own, whatever the values bring in.
-/
namespace PluralMessage.Placeholder

/-- The passes of the names in the order given, each over what the one before it left. -/
def passes (entries : List (List Char × List Char)) (s : List Char) : List Char :=
  entries.foldl (fun s (name, value) => replace name value s) s

theorem passes_cons (entry : List Char × List Char) (entries : List (List Char × List Char))
    (s : List Char) :
    passes (entry :: entries) s = passes entries (replace entry.1 entry.2 s) :=
  rfl

theorem apply_eq_passes (s : List Char) (values : List (List Char × List Char)) :
    apply s values = passes (longestFirst Prod.fst values) s :=
  rfl

/-- The character is matched by none of the name. -/
def Foreign (d : Char) (name : List Char) : Prop :=
  ∀ k ∈ name, Text.sameLetter k d = false

instance (d : Char) : DecidablePred (Foreign d) :=
  fun name => List.decidableBAll (fun k => Text.sameLetter k d = false) name

theorem startsWith_append_foreign {name : List Char} {d : Char} (h : Foreign d name)
    (s b : List Char) : startsWith name (s ++ d :: b) = startsWith name s := by
  induction name generalizing s with
  | nil => rw [startsWith, startsWith]
  | cons k name ih =>
      have hk : Text.sameLetter k d = false := h k (by simp)
      have hname : Foreign d name := fun k hk => h k (by simp [hk])
      cases s with
      | nil => simp only [List.nil_append, startsWith, hk, Bool.false_and]
      | cons c s => simp only [List.cons_append, startsWith, ih hname]

theorem length_le_of_startsWith {name s : List Char} (h : startsWith name s = true) :
    name.length ≤ s.length := by
  induction name generalizing s with
  | nil => exact Nat.zero_le _
  | cons k name ih =>
      cases s with
      | nil => cases h
      | cons c s =>
          simp only [startsWith, Bool.and_eq_true] at h
          have := ih h.2
          simp only [List.length_cons]
          omega

section
variable {name value : List Char} {d : Char} {values : List (List Char × List Char)}

theorem replaceFrom_cons {c : Char} (hc : c ≠ mark) (s : List Char) :
    replaceFrom name value 0 (c :: s) = c :: replace name value s := by
  simp [replaceFrom, replace, hc]

theorem replaceFrom_eq_replace_drop (skip : Nat) (s : List Char) :
    replaceFrom name value skip s = replace name value (s.drop skip) := by
  induction s generalizing skip with
  | nil => simp [replace, replaceFrom]
  | cons c s ih =>
      cases skip with
      | zero => rfl
      | succ skip => rw [replaceFrom, ih, List.drop_succ_cons]

/-- A placeholder of the name gives way to the value, and the pass goes on behind it. -/
theorem replace_mark_cons {s : List Char} (h : startsWith name s = true) :
    replace name value (mark :: s) =
      inCaseOf (s.take name.length) value ++ replace name value (s.drop name.length) := by
  rw [replace, replaceFrom, h, ← replaceFrom_eq_replace_drop]
  rfl

/-- One pass: what is still to be skipped ends before the foreign character, and so does every
placeholder that starts before it. -/
theorem replaceFrom_append_foreign (hd : d ≠ mark) (h : Foreign d name) (b : List Char)
    {a : List Char} {skip : Nat} (hskip : skip ≤ a.length) :
    replaceFrom name value skip (a ++ d :: b) =
      replaceFrom name value skip a ++ d :: replace name value b := by
  induction a generalizing skip with
  | nil =>
      obtain rfl : skip = 0 := Nat.le_zero.1 hskip
      rw [List.nil_append, replaceFrom_cons hd, replaceFrom, List.nil_append]
  | cons c a ih =>
      cases skip with
      | succ skip =>
          simp only [List.cons_append, replaceFrom]
          exact ih (Nat.le_of_succ_le_succ hskip)
      | zero =>
          simp only [List.cons_append, replaceFrom, startsWith_append_foreign h]
          split
          · rename_i hc
            simp only [Bool.and_eq_true] at hc
            have hlen := length_le_of_startsWith hc.2
            rw [ih hlen, List.take_append_of_le_length hlen, List.append_assoc]
          · rw [ih (Nat.zero_le _), List.cons_append]

theorem replace_append_foreign (hd : d ≠ mark) (h : Foreign d name) (a b : List Char) :
    replace name value (a ++ d :: b) = replace name value a ++ d :: replace name value b :=
  replaceFrom_append_foreign hd h b (Nat.zero_le _)

theorem passes_append_foreign (hd : d ≠ mark) (h : ∀ entry ∈ values, Foreign d entry.1)
    (a b : List Char) : passes values (a ++ d :: b) = passes values a ++ d :: passes values b := by
  induction values generalizing a b with
  | nil => rfl
  | cons entry values ih =>
      have hentry : Foreign d entry.1 := h entry (by simp)
      have hvalues : ∀ entry ∈ values, Foreign d entry.1 := fun e he => h e (by simp [he])
      simp only [passes_cons, replace_append_foreign hd hentry]
      exact ih hvalues _ _

theorem foreign_longestFirst (h : ∀ entry ∈ values, Foreign d entry.1) :
    ∀ entry ∈ longestFirst Prod.fst values, Foreign d entry.1 :=
  fun entry he => h entry ((longestFirst_perm Prod.fst values).mem_iff.1 he)

end

/-- The replacement is local to the parts of a text between foreign characters: such a character
stays, and both sides are filled as if they were texts of their own. Names may be empty or hold
marks, and values may hold placeholders. -/
theorem apply_append_foreign {values : List (List Char × List Char)} {d : Char} (hd : d ≠ mark)
    (h : ∀ entry ∈ values, Foreign d entry.1) (a b : List Char) :
    apply (a ++ d :: b) values = apply a values ++ d :: apply b values := by
  simp only [apply_eq_passes]
  exact passes_append_foreign hd (foreign_longestFirst h) a b

/-- The first value brings in a placeholder of the second name, and one name is empty. -/
def trip : List (List Char × List Char) :=
  [("name".toList, ":city".toList), ("city".toList, "Oz".toList), ([], "-".toList)]

theorem longestFirst_trip : longestFirst Prod.fst trip = trip :=
  List.mergeSort_of_pairwise (by decide)

theorem apply_append_foreign_trip :
    (' ' ≠ mark ∧ ∀ entry ∈ trip, Foreign ' ' entry.1) ∧
      apply "Hi :Name :CITY!".toList trip = "Hi Oz".toList ++ ' ' :: "OZ!".toList := by
  have hspace : ∀ entry ∈ trip, Foreign ' ' entry.1 := by decide
  have hleft : apply "Hi :Name".toList trip = "Hi Oz".toList := by
    rw [apply_eq_passes, longestFirst_trip]
    decide
  have hright : apply ":CITY!".toList trip = "OZ!".toList := by
    rw [apply_eq_passes, longestFirst_trip]
    decide
  refine ⟨⟨by decide, hspace⟩, ?_⟩
  rw [← hleft, ← hright]
  exact apply_append_foreign (by decide) hspace "Hi :Name".toList ":CITY!".toList

end PluralMessage.Placeholder
