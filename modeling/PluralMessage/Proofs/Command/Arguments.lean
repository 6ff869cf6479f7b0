import PluralMessage.Command.Basic

/-!
Command lines that spell out their options. Options under their long names, each with its value
behind it, and what follows a double dash are read as they are given.
-/
namespace PluralMessage.Command

/-- Options under their long names. -/
def spell (options : List (OptionName × List Char)) : List (List Char) :=
  options.flatMap fun (name, value) =>
    if name.takesValue then [name.long.toList, value] else [name.long.toList]

/-- All options are among some, and those that take no value have none. -/
def Spelled (names : List OptionName) (options : List (OptionName × List Char)) : Prop :=
  ∀ option ∈ options, option.1 ∈ names ∧ (option.1.takesValue = false → option.2 = [])

/-- The long name of every option leads to this option. -/
structure LongNames (names : List OptionName) : Prop where
  ne_dashes : ∀ name ∈ names, name.long.toList ≠ ['-', '-']
  isOption : ∀ name ∈ names, Arguments.isOption name.long.toList = true
  read : ∀ name ∈ names, Arguments.readOption names name.long.toList =
    .ok (if name.takesValue then ([], some name) else ([(name, [])], none))

theorem read_spell {names : List OptionName} (hnames : LongNames names)
    {options : List (OptionName × List Char)} (h : Spelled names options)
    (positional : List (List Char)) :
    Arguments.read names (spell options ++ ['-', '-'] :: positional) =
      .ok ⟨options, positional⟩ := by
  induction options with
  | nil => simp [spell, Arguments.read]
  | cons option options ih =>
      obtain ⟨name, value⟩ := option
      obtain ⟨⟨hname, hvalue⟩, hoptions⟩ := List.forall_mem_cons.1 h
      have hread := hnames.read name hname
      cases htakes : name.takesValue with
      | true =>
          have hspell : spell ((name, value) :: options) =
              name.long.toList :: value :: spell options := by
            simp [spell, htakes]
          rw [htakes, if_pos rfl] at hread
          rw [hspell, List.cons_append, List.cons_append, Arguments.read,
            if_neg (hnames.ne_dashes name hname), if_pos (hnames.isOption name hname), hread]
          simp only [ih hoptions]
          rfl
      | false =>
          obtain rfl : value = [] := hvalue htakes
          have hspell : spell ((name, []) :: options) = name.long.toList :: spell options := by
            simp [spell, htakes]
          rw [htakes, if_neg Bool.false_ne_true] at hread
          rw [hspell, List.cons_append, Arguments.read, if_neg (hnames.ne_dashes name hname),
            if_pos (hnames.isOption name hname), hread]
          simp only [ih hoptions]
          rfl

theorem mem_options_of_mem_values {arguments : Arguments} {name : OptionName} {value : List Char}
    (h : value ∈ arguments.values name) : (name, value) ∈ arguments.options := by
  obtain ⟨⟨given, _⟩, hgiven, rfl⟩ := List.mem_map.1 h
  obtain ⟨hmem, hname⟩ := List.mem_filter.1 hgiven
  obtain rfl : given = name := eq_of_beq hname
  exact hmem

/-! The lines of lint and of the choice. -/

def lintNames : List OptionName :=
  [localeName, jsonName, settingsName]

def chooseNames : List OptionName :=
  [localeName, replaceName, substituteName, settingsName, verboseName]

theorem longNames_lint : LongNames lintNames where
  ne_dashes := by decide
  isOption := by decide
  read := by
    intro name hname
    simp only [lintNames, List.mem_cons, List.not_mem_nil, or_false] at hname
    rcases hname with rfl | rfl | rfl <;> rfl

theorem longNames_choose : LongNames chooseNames where
  ne_dashes := by decide
  isOption := by decide
  read := by
    intro name hname
    simp only [chooseNames, List.mem_cons, List.not_mem_nil, or_false] at hname
    rcases hname with rfl | rfl | rfl | rfl | rfl <;> rfl

def lintLine (options : List (OptionName × List Char)) (message : List Char) : List (List Char) :=
  "lint".toList :: (spell options ++ [['-', '-'], message])

def chooseLine (options : List (OptionName × List Char)) (message typed : List Char) :
    List (List Char) :=
  "choose".toList :: (spell options ++ [['-', '-'], message, typed])

theorem read_lintLine {options : List (OptionName × List Char)} (h : Spelled lintNames options)
    (message : List Char) :
    read (lintLine options message) = (do
      let arguments : Arguments := ⟨options, [message]⟩
      let settings ← settingsOf arguments
      pure (lint message (localeOf arguments) (arguments.has jsonName) settings)) := by
  have hline : read (lintLine options message) =
      readLint (spell options ++ [['-', '-'], message]) := by rfl
  have hread := read_spell longNames_lint h [message]
  rw [lintNames] at hread
  rw [hline, readLint, hread]
  rfl

theorem read_chooseLine {options : List (OptionName × List Char)}
    (h : Spelled chooseNames options) (message : List Char) {typed : List Char} {count : Int}
    (hcount : Decimal.ofTyped? typed = some count) :
    read (chooseLine options message typed) = (do
      let arguments : Arguments := ⟨options, [message, typed]⟩
      let settings ← settingsOf arguments
      pure (choose message count (localeOf arguments) (arguments.values replaceName)
        (arguments.has substituteName) settings)) := by
  have hline : read (chooseLine options message typed) =
      readChoose (spell options ++ [['-', '-'], message, typed]) := by rfl
  have hread := read_spell longNames_choose h [message, typed]
  rw [chooseNames] at hread
  rw [hline, readChoose, hread]
  simp [readWhole, hcount, bind, Except.bind]

example : chooseLine [(localeName, "fr".toList)] "a|b".toList "-5".toList =
    ["choose", "--locale", "fr", "--", "a|b", "-5"].map String.toList := by
  decide

end PluralMessage.Command
