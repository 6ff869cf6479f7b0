/-!
Entries of a mapping, in the order in which their keys came first. When keys are the same is up to
the mapping.
-/
namespace PluralMessage.Entries

variable {κ ν : Type}

/-- Sets the entry of a key: an entry that is there keeps its place and its key, a new one comes
last. -/
def set (same : κ → κ → Bool) (key : κ) (item : ν) : List (κ × ν) → List (κ × ν)
  | [] => [(key, item)]
  | (k, v) :: entries =>
      if same k key then (k, item) :: entries else (k, v) :: set same key item entries

/-- Entries with one item for each key: its first place and its last item. -/
def merge (same : κ → κ → Bool) (entries : List (κ × ν)) : List (κ × ν) :=
  entries.foldl (fun merged (key, item) => set same key item merged) []

def get? (same : κ → κ → Bool) (entries : List (κ × ν)) (key : κ) : Option ν :=
  (entries.find? fun (k, _) => same k key).map Prod.snd

theorem get?_set_self {same : κ → κ → Bool} {key : κ} (h : same key key = true) (item : ν)
    (entries : List (κ × ν)) : get? same (set same key item entries) key = some item := by
  induction entries with
  | nil => simp [get?, set, h]
  | cons entry entries ih =>
      obtain ⟨k, v⟩ := entry
      by_cases hk : same k key = true
      · simp [get?, set, hk]
      · simpa [get?, set, hk] using ih

theorem keys_set (same : κ → κ → Bool) (key : κ) (item : ν) (entries : List (κ × ν)) :
    (set same key item entries).map Prod.fst =
      if entries.any fun (k, _) => same k key then entries.map Prod.fst
      else entries.map Prod.fst ++ [key] := by
  induction entries with
  | nil => simp [set]
  | cons entry entries ih =>
      obtain ⟨k, v⟩ := entry
      by_cases hk : same k key = true
      · simp [set, hk]
      · simp only [set, hk, Bool.false_eq_true, ↓reduceIte, List.map_cons, ih, List.any_cons,
          Bool.false_or]
        split <;> rfl

theorem mem_keys_set {same : κ → κ → Bool} {key k : κ} {item : ν} {entries : List (κ × ν)}
    (h : k ∈ (set same key item entries).map Prod.fst) : k ∈ entries.map Prod.fst ∨ k = key := by
  rw [keys_set] at h
  split at h
  · exact .inl h
  · rwa [List.mem_append, List.mem_singleton] at h

theorem set_of_forall_not {same : κ → κ → Bool} {key : κ} {entries : List (κ × ν)}
    (h : ∀ entry ∈ entries, same entry.1 key = false) (item : ν) :
    set same key item entries = entries ++ [(key, item)] := by
  induction entries with
  | nil => rfl
  | cons entry entries ih =>
      obtain ⟨hentry, hentries⟩ := List.forall_mem_cons.1 h
      rw [set, hentry, ih hentries]
      rfl

theorem mem_set_self [BEq κ] [LawfulBEq κ] (key : κ) (item : ν) (entries : List (κ × ν)) :
    (key, item) ∈ set (· == ·) key item entries := by
  induction entries with
  | nil => exact List.mem_singleton_self _
  | cons entry entries ih =>
      rw [set]
      split
      · rename_i hk
        rw [eq_of_beq hk]
        exact List.mem_cons_self
      · exact List.mem_cons_of_mem _ ih

/-- Setting an entry brings in no other item than the given one. -/
theorem forall_set {P : ν → Prop} {same : κ → κ → Bool} {key : κ} {item : ν}
    {entries : List (κ × ν)} (hitem : P item) (h : ∀ entry ∈ entries, P entry.2) :
    ∀ entry ∈ set same key item entries, P entry.2 := by
  induction entries with
  | nil => simpa [set] using hitem
  | cons entry entries ih =>
      obtain ⟨k, v⟩ := entry
      obtain ⟨hv, hentries⟩ := List.forall_mem_cons.1 h
      rw [set]
      split
      · exact List.forall_mem_cons.2 ⟨hitem, hentries⟩
      · exact List.forall_mem_cons.2 ⟨hv, ih hentries⟩

theorem forall_merge {P : ν → Prop} {same : κ → κ → Bool} {entries : List (κ × ν)}
    (h : ∀ entry ∈ entries, P entry.2) : ∀ entry ∈ merge same entries, P entry.2 := by
  have hfold : ∀ merged : List (κ × ν), (∀ entry ∈ merged, P entry.2) →
      ∀ entry ∈ entries.foldl (fun merged (key, item) => set same key item merged) merged,
        P entry.2 := by
    induction entries with
    | nil => exact fun merged hmerged => hmerged
    | cons entry entries ih =>
        obtain ⟨hitem, hentries⟩ := List.forall_mem_cons.1 h
        exact fun merged hmerged => ih hentries _ (forall_set hitem hmerged)
  exact hfold [] (List.forall_mem_nil _)

end PluralMessage.Entries
