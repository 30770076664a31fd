import DeskPlan.Number.Checked

/-!
# `DeskPlan.NameMap`: finite maps keyed by name

A `NameMap α` holds its entries in increasing order of their names, each name once. Names are
compared by code point. Two maps with the same entries are equal.

* `get?_insert`: what is found after an insertion;
* `ofList` keeps the last of several entries with one name.
-/

set_option autoImplicit false

namespace DeskPlan

/-- The entries are in strictly increasing order of their names. -/
abbrev NameSorted {α : Type} (entries : List (String × α)) : Prop :=
  entries.Pairwise fun a b => a.1 < b.1

/-- A finite map from names. -/
structure NameMap (α : Type) where
  entries : List (String × α)
  sorted : NameSorted entries

namespace NameMap

variable {α β : Type}

/-- Maps with the same entries are equal. -/
theorem ext_entries {m n : NameMap α} (h : m.entries = n.entries) : m = n := by
  cases m; cases n; simp_all

instance [DecidableEq α] : DecidableEq (NameMap α) := fun m n =>
  if h : m.entries = n.entries then isTrue (ext_entries h)
  else isFalse (by intro e; exact h (by rw [e]))

/-- The map without entries. -/
def empty : NameMap α := ⟨[], List.Pairwise.nil⟩

/-- Whether there is no entry. -/
def isEmpty (m : NameMap α) : Bool := m.entries.isEmpty

/-- The names, in increasing order. -/
def names (m : NameMap α) : List String := m.entries.map Prod.fst

/-- The value at a name. -/
def get? (m : NameMap α) (name : String) : Option α := m.entries.lookup name

/-- The entries with `name` set to `value`. -/
def insertEntry (name : String) (value : α) : List (String × α) → List (String × α)
  | [] => [(name, value)]
  | (k, v) :: rest =>
    if name < k then (name, value) :: (k, v) :: rest
    else if name = k then (name, value) :: rest
    else (k, v) :: insertEntry name value rest

/-- Every entry after an insertion is the new one or was there before. -/
theorem mem_insertEntry {name : String} {value : α} {e : String × α}
    {entries : List (String × α)} (h : e ∈ insertEntry name value entries) :
    e = (name, value) ∨ e ∈ entries := by
  induction entries with
  | nil => simp [insertEntry] at h; exact .inl h
  | cons head rest ih =>
    obtain ⟨k, v⟩ := head
    simp only [insertEntry] at h
    split at h
    · simp at h; rcases h with h | h | h <;> simp [h]
    · split at h
      · simp at h; rcases h with h | h <;> simp [h]
      · simp at h
        rcases h with h | h
        · simp [h]
        · rcases ih h with h | h <;> simp [h]

/-- A name that is neither before nor equal to another comes after it. -/
theorem name_lt_of_not {a b : String} (h : ¬ a < b) (hne : a ≠ b) : b < a := by
  rcases Decidable.em (b < a) with hlt | hlt
  · exact hlt
  · exact absurd (String.le_antisymm (String.not_lt.1 hlt) (String.not_lt.1 h)) hne

/-- Insertion keeps the order. -/
theorem sorted_insertEntry {name : String} {value : α} {entries : List (String × α)}
    (h : NameSorted entries) : NameSorted (insertEntry name value entries) := by
  induction entries with
  | nil => simp [insertEntry, NameSorted]
  | cons head rest ih =>
    obtain ⟨k, v⟩ := head
    rw [NameSorted, List.pairwise_cons] at h
    simp only [insertEntry]
    split
    -- The new name stands before the first one, hence before all.
    · rename_i hlt
      refine List.pairwise_cons.2 ⟨?_, List.pairwise_cons.2 h⟩
      intro e he
      rcases List.mem_cons.1 he with he | he
      · rw [he]; exact hlt
      · exact String.lt_trans hlt (h.1 e he)
    · split
      -- The new name takes the place of an equal one.
      · rename_i heq
        refine List.pairwise_cons.2 ⟨?_, h.2⟩
        intro e he
        exact heq ▸ h.1 e he
      -- The new name comes later; whatever is behind the first entry is the new one or was there.
      · rename_i hlt hne
        refine List.pairwise_cons.2 ⟨?_, ih h.2⟩
        intro e he
        rcases mem_insertEntry he with he | he
        · rw [he]; exact name_lt_of_not hlt hne
        · exact h.1 e he

/-- The map with `name` set to `value`. -/
def insert (m : NameMap α) (name : String) (value : α) : NameMap α :=
  ⟨insertEntry name value m.entries, sorted_insertEntry m.sorted⟩

/-- The map of a list of entries; of several entries with one name the last one counts. -/
def ofList (entries : List (String × α)) : NameMap α :=
  entries.foldl (fun m e => m.insert e.1 e.2) empty

/-- The map with every value replaced by its image. -/
def map (f : String → α → β) (m : NameMap α) : NameMap β :=
  ⟨m.entries.map fun e => (e.1, f e.1 e.2), by
    rw [NameSorted, List.pairwise_map]; exact m.sorted⟩

/-- The map with every value replaced by what is computed for it. -/
def mapChecked (f : α → Checked β) (m : NameMap α) : Checked (NameMap β) :=
  (Checked.tagged (fun e => f e.2) m.entries).map fun ts => ofList (ts.map fun t => (t.1.1, t.2))

/-- The entries whose image is a value, with that value. -/
def filterMap (f : α → Option β) (m : NameMap α) : NameMap β :=
  ⟨m.entries.filterMap fun e => (f e.2).map fun v => (e.1, v), by
    refine List.Pairwise.filterMap _ ?_ m.sorted
    intro a b hab c hc d hd
    simp only [Option.map_eq_some_iff] at hc hd
    obtain ⟨_, _, rfl⟩ := hc
    obtain ⟨_, _, rfl⟩ := hd
    exact hab⟩

/-- Looking a key up compares it with that of the first entry, then with the others. -/
theorem lookup_entry {κ : Type} [BEq κ] [LawfulBEq κ] [DecidableEq κ] (key k : κ) (v : α)
    (rest : List (κ × α)) :
    List.lookup key ((k, v) :: rest) = if key = k then some v else List.lookup key rest := by
  rw [List.lookup_cons]
  by_cases h : key = k
  · simp [h]
  · rw [if_neg h, beq_false_of_ne h]

/-- The value found at a name after an insertion. -/
theorem get?_insert (m : NameMap α) (name key : String) (value : α) :
    (m.insert name value).get? key = if key = name then some value else m.get? key := by
  show (insertEntry name value m.entries).lookup key =
    if key = name then some value else m.entries.lookup key
  induction m.entries with
  | nil => rw [insertEntry, lookup_entry]
  | cons head rest ih =>
    obtain ⟨k, v⟩ := head
    rw [insertEntry]
    split
    · rw [lookup_entry]
    · split
      · rename_i heq
        rw [lookup_entry, lookup_entry, heq]
        split <;> rfl
      · rename_i hne
        rw [lookup_entry, lookup_entry, ih]
        split
        · rename_i hk
          rw [if_neg (fun e => hne (e.symm.trans hk))]
        · rfl

end NameMap

end DeskPlan
