import DeskPlan.NameMap

/-!
# `DeskPlan.Proofs.NameMap`: looking names up

A `NameMap` is read in two ways: `get?` finds the value at a name, and `entries` lists the
pairs. The entries are strictly increasing in their names, so the two readings agree:

* `mem_entries_iff`: a pair is an entry exactly when `get?` finds its value at its name;
* `mem_names_iff`: the names are those at which `get?` finds something;
* `ext_get?`: a map is determined by what `get?` finds;
* `get?_map` and `get?_filterMap` say what is found in an image of a map;
* `names_filterMap_of_isSome`: an image in which every value survives has all the names;
* `ofList_entries`: a map is the map of its entries;
* `mapChecked_of_forall`: where something is computed for every value, `mapChecked` is `map`, and
  `mapChecked_isSome_iff` says when that is so;
* `mem_entries_ofList`: a map of pairs with distinct names has exactly these pairs.
-/

set_option autoImplicit false

namespace DeskPlan.NameMap

variable {α β : Type}

/-- In entries with distinct keys, the value found at a key is the value of the one entry that has
the key. -/
theorem lookup_eq_some_iff {κ : Type} [BEq κ] [LawfulBEq κ] [DecidableEq κ] {name : κ} {v : α}
    {entries : List (κ × α)} (h : (entries.map Prod.fst).Nodup) :
    entries.lookup name = some v ↔ (name, v) ∈ entries := by
  induction entries with
  | nil => simp
  | cons head rest ih =>
    obtain ⟨k, w⟩ := head
    rw [List.map_cons, List.nodup_cons] at h
    rw [lookup_entry]
    by_cases hk : name = k
    · subst hk
      -- The rest has other names only, so the head is the entry that is found.
      have hrest : (name, v) ∉ rest := fun hmem =>
        h.1 (List.mem_map.2 ⟨_, hmem, rfl⟩)
      simp [hrest, eq_comm]
    · simp [hk, ih h.2]

/-- Increasing names are distinct. -/
theorem nodup_of_increasing {names : List String} (h : names.Pairwise (· < ·)) : names.Nodup := by
  refine h.imp ?_
  intro a b hlt heq
  exact String.lt_irrefl b (heq ▸ hlt)

/-- The names of entries are distinct. -/
theorem nodup_names {entries : List (String × α)} (h : NameSorted entries) :
    (entries.map Prod.fst).Nodup :=
  nodup_of_increasing (List.pairwise_map.2 h)

/-- A pair is an entry exactly when its value is found at its name. -/
theorem mem_entries_iff (m : NameMap α) (name : String) (v : α) :
    (name, v) ∈ m.entries ↔ m.get? name = some v :=
  (lookup_eq_some_iff (nodup_names m.sorted)).symm

/-- The names are those at which a value is found. -/
theorem mem_names_iff (m : NameMap α) (name : String) :
    name ∈ m.names ↔ ∃ v, m.get? name = some v := by
  constructor
  · intro h
    obtain ⟨⟨k, v⟩, hmem, rfl⟩ := List.mem_map.1 h
    exact ⟨v, (m.mem_entries_iff k v).1 hmem⟩
  · rintro ⟨v, h⟩
    exact List.mem_map.2 ⟨(name, v), (m.mem_entries_iff name v).2 h, rfl⟩

/-- Maps in which the same is found at every name are the same. -/
theorem ext_get? {m n : NameMap α} (h : ∀ name, m.get? name = n.get? name) : m = n := by
  have hmem : ∀ e, e ∈ m.entries ↔ e ∈ n.entries := fun e => by
    rw [mem_entries_iff m e.1 e.2, mem_entries_iff n e.1 e.2, h]
  have hnodup : ∀ k : NameMap α, k.entries.Nodup := by
    intro k
    refine k.sorted.imp ?_
    intro a b hlt heq
    exact String.lt_irrefl b.1 (heq ▸ hlt)
  have hperm : m.entries.Perm n.entries :=
    (List.perm_ext_iff_of_nodup (hnodup m) (hnodup n)).2 hmem
  -- Two entries cannot come before each other.
  exact ext_entries (hperm.eq_of_pairwise
    (fun a b _ _ hab hba => absurd hab (String.lt_asymm hba)) m.sorted n.sorted)

/-- A map is empty exactly when it has no names. -/
theorem isEmpty_iff (m : NameMap α) : m.isEmpty = true ↔ m.names = [] := by
  simp [isEmpty, names]

/-- Replacing the values keeps the names. -/
@[simp] theorem names_map (m : NameMap α) (f : String → α → β) : (m.map f).names = m.names := by
  simp [names, map]

/-- What is found in an image is the image of what is found. -/
theorem get?_map (m : NameMap α) (f : String → α → β) (name : String) :
    (m.map f).get? name = (m.get? name).map (f name) := by
  show (m.entries.map fun e => (e.1, f e.1 e.2)).lookup name = (m.entries.lookup name).map _
  induction m.entries with
  | nil => rfl
  | cons head rest ih =>
    obtain ⟨k, v⟩ := head
    rw [List.map_cons, lookup_entry, lookup_entry, ih]
    by_cases hk : name = k
    · simp [hk]
    · simp [hk]

/-- An entry of a partial image comes from an entry whose value has that image. -/
theorem mem_entries_filterMap (m : NameMap α) (f : α → Option β) (name : String) (w : β) :
    (name, w) ∈ (m.filterMap f).entries ↔ ∃ v, (name, v) ∈ m.entries ∧ f v = some w := by
  constructor
  · intro h
    obtain ⟨⟨k, v⟩, hmem, himage⟩ := List.mem_filterMap.1 h
    obtain ⟨w', hw, hpair⟩ := Option.map_eq_some_iff.1 himage
    cases hpair
    exact ⟨v, hmem, hw⟩
  · rintro ⟨v, hmem, hw⟩
    exact List.mem_filterMap.2 ⟨(name, v), hmem, by rw [hw]; rfl⟩

/-- What is found in a partial image is the image, if there is one, of what is found. -/
theorem get?_filterMap (m : NameMap α) (f : α → Option β) (name : String) :
    (m.filterMap f).get? name = (m.get? name).bind f := by
  apply Option.ext
  intro w
  rw [← mem_entries_iff, mem_entries_filterMap, Option.bind_eq_some_iff]
  simp only [mem_entries_iff]

/-- A partial image has all the names when every value has an image. -/
theorem names_filterMap_of_isSome (m : NameMap α) (f : α → Option β)
    (h : ∀ name v, m.get? name = some v → (f v).isSome) : (m.filterMap f).names = m.names := by
  have hall : ∀ e ∈ m.entries, (f e.2).isSome := fun e he =>
    h e.1 e.2 ((m.mem_entries_iff e.1 e.2).1 he)
  show (m.entries.filterMap fun e => (f e.2).map fun v => (e.1, v)).map Prod.fst =
    m.entries.map Prod.fst
  revert hall
  generalize m.entries = entries
  intro hall
  induction entries with
  | nil => rfl
  | cons e rest ih =>
    obtain ⟨w, hw⟩ := Option.isSome_iff_exists.1 (hall e List.mem_cons_self)
    rw [List.filterMap_cons, hw, Option.map_some, List.map_cons, List.map_cons,
      ih fun e' he' => hall e' (List.mem_cons_of_mem e he')]

/-! ### Making a map of entries -/

/-- A name behind all others is inserted at the end. -/
theorem insertEntry_last {name : String} (value : α) {entries : List (String × α)}
    (h : ∀ e ∈ entries, e.1 < name) :
    insertEntry name value entries = entries ++ [(name, value)] := by
  induction entries with
  | nil => rfl
  | cons e rest ih =>
    have hlt : e.1 < name := h e List.mem_cons_self
    have hne : name ≠ e.1 := fun heq => String.lt_irrefl name (heq ▸ hlt)
    rw [insertEntry, if_neg (String.lt_asymm hlt), if_neg hne,
      ih fun e' he' => h e' (List.mem_cons_of_mem e he')]
    rfl

/-- A map is the map of its entries. -/
theorem ofList_entries (m : NameMap α) : ofList m.entries = m := by
  -- Entries in increasing order are inserted at the end, one after the other.
  have hall : ∀ (entries : List (String × α)) (n : NameMap α), NameSorted (n.entries ++ entries) →
      (entries.foldl (fun m e => m.insert e.1 e.2) n).entries = n.entries ++ entries := by
    intro entries
    induction entries with
    | nil => intro n _; simp
    | cons e rest ih =>
      intro n hsorted
      have hbefore : ∀ e' ∈ n.entries, e'.1 < e.1 := fun e' he' =>
        (List.pairwise_append.1 hsorted).2.2 e' he' e List.mem_cons_self
      have hinsert : (n.insert e.1 e.2).entries = n.entries ++ [e] := insertEntry_last e.2 hbefore
      rw [List.foldl_cons, ih, hinsert, List.append_assoc, List.singleton_append]
      rw [hinsert, List.append_assoc, List.singleton_append]
      exact hsorted
  exact ext_entries (hall m.entries empty m.sorted)

/-- Where something is computed for every value, every value is replaced by it. -/
theorem mapChecked_of_forall {f : α → Checked β} {g : α → β} {m : NameMap α}
    (h : ∀ e ∈ m.entries, f e.2 = some (g e.2)) : m.mapChecked f = some (m.map fun _ v => g v) := by
  have hentries : (m.entries.map fun e => (e, g e.2)).map (fun t => (t.1.1, t.2)) =
      (m.map fun _ v => g v).entries := List.map_map ..
  rw [mapChecked, Checked.tagged_of_forall h, Option.map_some, hentries, ofList_entries]

/-- Nothing is computed for a map exactly where nothing is computed for one of its values. -/
theorem mapChecked_isSome_iff {f : α → Checked β} {m : NameMap α} :
    (m.mapChecked f).isSome ↔ ∀ e ∈ m.entries, (f e.2).isSome := by
  rw [mapChecked, Option.isSome_map, Checked.tagged_isSome_iff]

/-- Inserting pairs with distinct new names into a map adds these pairs and keeps the others. -/
theorem get?_foldl_insert {pairs : List (String × α)} (hpairs : (pairs.map Prod.fst).Nodup)
    (name : String) (v : α) : ∀ m : NameMap α, (∀ p ∈ pairs, m.get? p.1 = none) →
      ((pairs.foldl (fun m e => m.insert e.1 e.2) m).get? name = some v ↔
        (name, v) ∈ pairs ∨ m.get? name = some v) := by
  induction pairs with
  | nil => simp
  | cons p rest ih =>
    intro m hnew
    obtain ⟨hp, hrest⟩ := List.nodup_cons.1 hpairs
    have hne : ∀ q ∈ rest, q.1 ≠ p.1 := fun q hq heq => hp (heq ▸ List.mem_map_of_mem hq)
    have hinsert : ∀ q ∈ rest, (m.insert p.1 p.2).get? q.1 = none := by
      intro q hq
      rw [get?_insert, if_neg (hne q hq)]
      exact hnew q (List.mem_cons_of_mem p hq)
    rw [List.foldl_cons, ih hrest _ hinsert, get?_insert, List.mem_cons]
    by_cases hname : name = p.1
    · -- The name of the first pair comes in no other pair and was not in the map.
      subst hname
      have hout : (p.1, v) ∉ rest := fun hmem => hne _ hmem rfl
      have hnone : m.get? p.1 = none := hnew p List.mem_cons_self
      simp [hout, hnone, Prod.ext_iff, eq_comm]
    · have hhead : (name, v) ≠ p := fun heq => hname (congrArg Prod.fst heq)
      simp [hname, hhead]

/-- A map of pairs with distinct names has exactly these pairs. -/
theorem mem_entries_ofList {pairs : List (String × α)} (h : (pairs.map Prod.fst).Nodup)
    (name : String) (v : α) : (name, v) ∈ (ofList pairs).entries ↔ (name, v) ∈ pairs := by
  rw [mem_entries_iff, ofList, get?_foldl_insert h name v empty fun _ _ => rfl]
  simp [get?, empty]

end DeskPlan.NameMap
