import DeskPlan.Json.Node
import DeskPlan.Proofs.Json.Words

/-!
# `DeskPlan.Proofs.Json.Tree`: the tree of a written value

`Json.node` is the tree that a value should be read as: every container in it is closed, and no
text in it has a defect. `Plain.readBack` says that the words of a value are read as this tree, up
to the words that follow, and `Plain.read_eq` that a written value is.
-/

set_option autoImplicit false

namespace DeskPlan.Json

/-- The tree of a value. -/
def node : Json → Node
  | null => .null
  | bool b => .bool b
  | int n => .number (numeral n)
  | real x => .number (.real x)
  | str s => .text (.ok s)
  | list items => .list (itemNodes items) .closed
  | obj fields => .object (fieldNodes fields) .closed
where
  /-- The trees of the items of a list. -/
  itemNodes : List Json → List Node
    | [] => []
    | v :: vs => node v :: itemNodes vs
  /-- The trees of the fields of an object. -/
  fieldNodes : List (String × Json) → List (Except Fault String × Node)
    | [] => []
    | (k, v) :: fs => (.ok k, node v) :: fieldNodes fs

/-- The tree of a field. -/
def nodeOfField (f : String × Json) : Except Fault String × Node := (.ok f.1, f.2.node)

theorem itemNodes_eq_map (vs : List Json) : node.itemNodes vs = vs.map node := by
  induction vs with
  | nil => rfl
  | cons v vs ih => rw [node.itemNodes, ih, List.map_cons]

theorem fieldNodes_eq_map (fs : List (String × Json)) :
    node.fieldNodes fs = fs.map nodeOfField := by
  induction fs with
  | nil => rfl
  | cons f fs ih => rw [node.fieldNodes, ih, List.map_cons, nodeOfField]

/-- After the tree of a value the text goes on. -/
theorem complete_node (v : Json) : v.node.complete = true := by
  cases v <;> rfl

/-- The words of items do not start with the end of a list, if there are items. -/
theorem itemWords_eq_cons (v : Json) (vs : List Json) (ts : List Token) :
    ∃ t us, enclosedWords .closeList words true (v :: vs) ++ ts = t :: us ∧ t ≠ .closeList := by
  cases v <;> exact ⟨_, _, rfl, nofun⟩

/-- The words of fields start with a key, if there are fields. -/
theorem fieldWords_eq_cons (f : String × Json) (fs : List (String × Json)) (ts : List Token) :
    ∃ us, enclosedWords .closeObject wordsOfField true (f :: fs) ++ ts = .text (.ok f.1) :: us :=
  ⟨_, rfl⟩

/-- With fuel for each of its words the value is read as its tree, up to the words that follow. -/
def ReadBack (v : Json) : Prop :=
  ∀ (fuel : Nat) (ts : List Token), v.words.length ≤ fuel →
    Node.readValue fuel (v.words ++ ts) = (v.node, ts)

/-- A list that does not end at once is read from its first item on. -/
theorem readValue_openList {t : Token} (ht : t ≠ .closeList) (fuel : Nat) (ts : List Token) :
    Node.readValue (fuel + 1) (.openList :: t :: ts) =
      let (items, ending, rest) := Node.readItems fuel (t :: ts)
      (.list items ending, rest) := by
  rw [Node.readValue]
  · nofun
  · intro ts' h
    cases h
    exact ht rfl

/-- The items of a list go on after a comma that no closing bracket follows. -/
theorem readItems_comma {fuel : Nat} {ts : List Token} {v : Node} {t : Token} {rest : List Token}
    (hv : Node.readValue fuel ts = (v, .comma :: t :: rest)) (hcomplete : v.complete = true)
    (ht : t ≠ .closeList) : Node.readItems (fuel + 1) ts =
      let (vs, ending, rest) := Node.readItems fuel (t :: rest)
      (v :: vs, ending, rest) := by
  rw [Node.readItems, hv]
  dsimp only
  rw [if_pos hcomplete]
  split
  · next h => cases h
  · next h => cases h
  · next h => cases h
  · next h => cases h; exact absurd rfl ht
  · next h => cases h; rfl
  · next h => exact absurd rfl (h _)

/-- An object that does not end at once is read from its first key on. -/
theorem readValue_openObject (fuel : Nat) (k : Except Fault String) (ts : List Token) :
    Node.readValue (fuel + 1) (.openObject :: .text k :: ts) =
      let (fields, ending, rest) := Node.readFields fuel (.text k :: ts)
      (.object fields ending, rest) :=
  rfl

/-- The fields of an object go on after a comma that a key follows. -/
theorem readFields_comma {fuel : Nat} {ts : List Token} {v : Node} {k k' : Except Fault String}
    {rest : List Token} (hv : Node.readValue fuel ts = (v, .comma :: .text k' :: rest))
    (hcomplete : v.complete = true) : Node.readFields (fuel + 1) (.text k :: .colon :: ts) =
      let (fields, ending, rest) := Node.readFields fuel (.text k' :: rest)
      ((k, v) :: fields, ending, rest) := by
  rw [Node.readFields]
  dsimp only
  rw [hv]
  dsimp only
  rw [if_pos hcomplete]

/-- Items that are read back are read one after the other. -/
theorem readItems_words (v : Json) (vs : List Json) (hvs : ∀ w ∈ v :: vs, ReadBack w) :
    ∀ (fuel : Nat) (ts : List Token),
      (enclosedWords .closeList words true (v :: vs)).length ≤ fuel →
      Node.readItems fuel (enclosedWords .closeList words true (v :: vs) ++ ts) =
        ((v :: vs).map node, .closed, ts) := by
  induction vs generalizing v with
  | nil =>
    intro fuel ts hfuel
    have hwords : enclosedWords .closeList words true [v] = v.words ++ [.closeList] := by
      simp [enclosedWords]
    rw [hwords, List.length_append, List.length_singleton] at hfuel
    obtain ⟨fuel, rfl⟩ : ∃ n, fuel = n + 1 := ⟨fuel - 1, by omega⟩
    have hread := hvs v List.mem_cons_self fuel (.closeList :: ts) (by omega)
    rw [hwords, List.append_assoc, List.singleton_append, Node.readItems, hread]
    dsimp only
    rw [if_pos v.complete_node]
    rfl
  | cons w vs ih =>
    intro fuel ts hfuel
    have hwords : enclosedWords .closeList words true (v :: w :: vs) =
        v.words ++ .comma :: enclosedWords .closeList words true (w :: vs) := by
      simp [enclosedWords]
    rw [hwords, List.length_append, List.length_cons] at hfuel
    obtain ⟨fuel, rfl⟩ : ∃ n, fuel = n + 1 := ⟨fuel - 1, by omega⟩
    have hrest := ih w (fun u hu => hvs u (List.mem_cons_of_mem v hu)) fuel ts (by omega)
    have hread := hvs v List.mem_cons_self fuel
      (.comma :: (enclosedWords .closeList words true (w :: vs) ++ ts)) (by omega)
    obtain ⟨t, us, hhead, ht⟩ := itemWords_eq_cons w vs ts
    rw [hhead] at hrest hread
    rw [hwords, List.append_assoc, List.cons_append, hhead,
      readItems_comma hread v.complete_node ht, hrest]
    rfl

/-- Fields whose values are read back are read one after the other. -/
theorem readFields_words (f : String × Json) (fs : List (String × Json))
    (hfs : ∀ g ∈ f :: fs, ReadBack g.2) :
    ∀ (fuel : Nat) (ts : List Token),
      (enclosedWords .closeObject wordsOfField true (f :: fs)).length ≤ fuel →
      Node.readFields fuel (enclosedWords .closeObject wordsOfField true (f :: fs) ++ ts) =
        ((f :: fs).map nodeOfField, .closed, ts) := by
  induction fs generalizing f with
  | nil =>
    intro fuel ts hfuel
    have hwords : enclosedWords .closeObject wordsOfField true [f] =
        .text (.ok f.1) :: .colon :: (f.2.words ++ [.closeObject]) := by
      simp [enclosedWords, wordsOfField]
    simp only [hwords, List.length_cons, List.length_append, List.length_nil] at hfuel
    obtain ⟨fuel, rfl⟩ : ∃ n, fuel = n + 1 := ⟨fuel - 1, by omega⟩
    have hread := hfs f List.mem_cons_self fuel (.closeObject :: ts) (by omega)
    rw [hwords, List.cons_append, List.cons_append, List.append_assoc, List.singleton_append,
      Node.readFields]
    dsimp only
    rw [hread]
    dsimp only
    rw [if_pos f.2.complete_node]
    rfl
  | cons g fs ih =>
    intro fuel ts hfuel
    have hwords : enclosedWords .closeObject wordsOfField true (f :: g :: fs) =
        .text (.ok f.1) :: .colon ::
          (f.2.words ++ .comma :: enclosedWords .closeObject wordsOfField true (g :: fs)) := by
      simp [enclosedWords, wordsOfField]
    simp only [hwords, List.length_cons, List.length_append] at hfuel
    obtain ⟨fuel, rfl⟩ : ∃ n, fuel = n + 1 := ⟨fuel - 1, by omega⟩
    have hrest := ih g (fun u hu => hfs u (List.mem_cons_of_mem f hu)) fuel ts (by omega)
    have hread := hfs f List.mem_cons_self fuel
      (.comma :: (enclosedWords .closeObject wordsOfField true (g :: fs) ++ ts)) (by omega)
    obtain ⟨us, hhead⟩ := fieldWords_eq_cons g fs ts
    rw [hhead] at hrest hread
    rw [hwords, List.cons_append, List.cons_append, List.append_assoc, List.cons_append, hhead,
      readFields_comma hread f.2.complete_node, hrest]
    rfl

/-- The words of a value are read as its tree. -/
theorem Plain.readBack {v : Json} (h : Plain v) : ReadBack v := by
  have hscalar : ∀ {fuel : Nat}, 1 ≤ fuel → ∃ n, fuel = n + 1 := fun h =>
    ⟨_, (Nat.sub_add_cancel h).symm⟩
  induction h with
  | null =>
    intro fuel ts hfuel
    obtain ⟨n, rfl⟩ := hscalar hfuel
    rfl
  | bool b =>
    intro fuel ts hfuel
    obtain ⟨n, rfl⟩ := hscalar hfuel
    rfl
  | int n =>
    intro fuel ts hfuel
    obtain ⟨n, rfl⟩ := hscalar hfuel
    rfl
  | str s =>
    intro fuel ts hfuel
    obtain ⟨n, rfl⟩ := hscalar hfuel
    rfl
  | @list items _ ih =>
    intro fuel ts hfuel
    rw [words, itemWords_eq, List.length_cons] at hfuel
    obtain ⟨fuel, rfl⟩ : ∃ n, fuel = n + 1 := ⟨fuel - 1, by omega⟩
    rw [words, node, itemWords_eq, itemNodes_eq_map]
    cases items with
    | nil => rfl
    | cons v vs =>
      have hitems := readItems_words v vs ih fuel ts (by omega)
      obtain ⟨t, us, hhead, ht⟩ := itemWords_eq_cons v vs ts
      rw [hhead] at hitems
      rw [List.cons_append, hhead, readValue_openList ht, hitems]
  | @obj fields _ ih =>
    intro fuel ts hfuel
    rw [words, fieldWords_eq, List.length_cons] at hfuel
    obtain ⟨fuel, rfl⟩ : ∃ n, fuel = n + 1 := ⟨fuel - 1, by omega⟩
    rw [words, node, fieldWords_eq, fieldNodes_eq_map]
    cases fields with
    | nil => rfl
    | cons f fs =>
      have hfields := readFields_words f fs ih fuel ts (by omega)
      obtain ⟨us, hhead⟩ := fieldWords_eq_cons f fs ts
      rw [hhead] at hfields
      rw [List.cons_append, hhead, readValue_openObject, hfields]

/-- A text whose words are those of a value is read as the tree of the value, and nothing
follows it. -/
theorem Plain.read_eq {v : Json} (h : Plain v) {text : String} (htext : tokens text = v.words) :
    Node.read text = (v.node, false) := by
  have hread := h.readBack (v.words.length + 1) [] (Nat.le_succ _)
  rw [List.append_nil] at hread
  rw [Node.read, htext, hread]
  rfl

end DeskPlan.Json
