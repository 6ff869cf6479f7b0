import PluralMessage.Value

/-!
Values that can be written. In enough room for the levels that nest in it, a value is written unless
it holds a number of too many digits. What nests in a value shows in the first character of its
written form.
-/
namespace PluralMessage.Value

/-- The value has a text, as which it can be inserted into a message. -/
def HasText (v : Value) : Prop :=
  ∃ s, v.chars? = some s

theorem hasText_text (s : String) : (text s).HasText :=
  ⟨s.toList, rfl⟩

/-- The value has a text where so many levels may nest. -/
def HasTextIn (room : Nat) (v : Value) : Prop :=
  ∃ s, v.charsIn? room = some s

mutual

/-- A value with nothing in the way of writing it is written. -/
theorem exists_written (v : Value) {room : Nat} (h : v.obstacle? room = none) :
    ∃ s, v.written = some s := by
  cases v with
  | int n =>
      rw [obstacle?] at h
      split at h
      · rename_i hsome
        exact Option.isSome_iff_exists.1 hsome
      · cases h
  | list items =>
      obtain ⟨s, hs⟩ := exists_writtenItems items h
      simp [written, hs]
  | tuple items =>
      obtain ⟨s, hs⟩ := exists_writtenItems items h
      match items, hs with
      | [], hs => simp [written, hs]
      | [item], hs =>
          rw [writtenItems] at hs
          simp [written, hs]
      | item :: next :: items, hs => simp [written, hs]
  | set items =>
      obtain ⟨s, hs⟩ := exists_writtenItems items h
      match items, hs with
      | [], hs => simp [written]
      | item :: items, hs => simp [written, hs]
  | map entries =>
      obtain ⟨s, hs⟩ := exists_writtenEntries entries h
      simp [written, hs]
  | bool b | again b => cases b <;> exact ⟨_, rfl⟩
  | null | real _ | text _ | bytes _ | moment _ => exact ⟨_, rfl⟩

theorem exists_writtenItems (items : List Value) {levels room : Nat}
    (h : obstacleInItems? items levels room = none) : ∃ s, writtenItems items = some s := by
  match items with
  | [] => exact ⟨_, rfl⟩
  | item :: items =>
      rw [obstacleInItems?] at h
      split at h
      · cases h
      · split at h
        · cases h
        · rename_i hitem
          obtain ⟨s, hs⟩ := exists_written item hitem
          obtain ⟨t, ht⟩ := exists_writtenItems items h
          match items, ht with
          | [], _ => exact ⟨s, hs⟩
          | next :: items, ht => simp [writtenItems, hs, ht]

theorem exists_writtenEntries (entries : List (Value × Value)) {room : Nat}
    (h : obstacleInEntries? entries room = none) : ∃ s, writtenEntries entries = some s := by
  match entries, room with
  | [], _ => exact ⟨_, rfl⟩
  | (key, item) :: entries, room + 1 =>
      rw [obstacleInEntries?] at h
      split at h
      · cases h
      · cases h
      · rename_i hkey hitem
        obtain ⟨k, hk⟩ := exists_written key hkey
        obtain ⟨s, hs⟩ := exists_written item hitem
        obtain ⟨t, ht⟩ := exists_writtenEntries entries h
        match entries, ht with
        | [], _ => simp [writtenEntries, hk, hs]
        | next :: entries, ht => simp [writtenEntries, hk, hs, ht]

end

theorem writtenIn_eq_error_iff {v : Value} {room : Nat} {e : Obstacle} :
    v.writtenIn room = .error e ↔ v.obstacle? room = some e := by
  cases h : v.obstacle? room with
  | none =>
      obtain ⟨s, hs⟩ := v.exists_written h
      simp [writtenIn, h, hs]
  | some e' => simp [writtenIn, h]

theorem charsIn?_eq_some_iff {v : Value} {room : Nat} {s : List Char} :
    v.charsIn? room = some s ↔ v.obstacle? room = none ∧ v.chars? = some s := by
  cases h : v.obstacle? room <;> simp [charsIn?, h]

theorem hasTextIn_iff {v : Value} {room : Nat} : v.HasTextIn room ↔ v.obstacle? room = none := by
  constructor
  · rintro ⟨s, hs⟩
    exact (charsIn?_eq_some_iff.1 hs).1
  · intro h
    obtain ⟨s, hs⟩ : ∃ s, v.chars? = some s := by
      cases v with
      | text s => exact ⟨_, rfl⟩
      | _ => exact exists_written _ h
    exact ⟨s, charsIn?_eq_some_iff.2 ⟨h, hs⟩⟩

/-! Written forms in which others nest. -/

/-- The characters that the written forms of values start with in which others nest. -/
def openers : List Char :=
  ['[', '(', '{', 'd']

theorem mem_openers {c : Char} : c ∈ openers ↔ c = '[' ∨ c = '(' ∨ c = '{' ∨ c = 'd' := by
  simp [openers]

theorem exists_opener {v : Value} {room : Nat} (h : v.obstacle? room ≠ none) {s : List Char}
    (hs : v.chars? = some s) : ∃ c ∈ openers, ∃ t, s = c :: t := by
  cases v with
  | int n =>
      replace hs : Decimal.ofInt? n = some s := hs
      simp [obstacle?, hs] at h
  | moment m =>
      cases m with
      | date d | time t => simp [obstacle?, Moment.depth] at h
      | both d t offset =>
          cases hs
          exact ⟨'d', by decide, by simp [Moment.written, Moment.call, Moment.kind]⟩
  | list items =>
      obtain ⟨t, -, rfl⟩ := Option.map_eq_some_iff.1 hs
      exact ⟨'[', by decide, _, rfl⟩
  | tuple items =>
      refine ⟨'(', by decide, ?_⟩
      match items with
      | [item] =>
          obtain ⟨t, -, rfl⟩ := Option.map_eq_some_iff.1 hs
          exact ⟨_, rfl⟩
      | item :: next :: items =>
          obtain ⟨t, -, rfl⟩ := Option.map_eq_some_iff.1 hs
          exact ⟨_, rfl⟩
  | set items =>
      refine ⟨'{', by decide, ?_⟩
      match items with
      | item :: items =>
          obtain ⟨t, -, rfl⟩ := Option.map_eq_some_iff.1 hs
          exact ⟨_, rfl⟩
  | map entries =>
      obtain ⟨t, -, rfl⟩ := Option.map_eq_some_iff.1 hs
      exact ⟨'{', by decide, _, rfl⟩
  | null | bool _ | real _ | text _ | bytes _ | again _ => exact absurd rfl h

end PluralMessage.Value
