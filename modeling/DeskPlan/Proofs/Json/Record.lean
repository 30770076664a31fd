import DeskPlan.Json.Schema
import DeskPlan.Proofs.Json.Tree

/-!
# `DeskPlan.Proofs.Json.Record`: values that are read back

A decoder recovers a value from a document (`Recovers`) if it makes the value out of the tree of
the document. The combinators of decoders recover what their parts recover. For a record,
`Schema.Filled` says that fields of an object fill the fields of a schema in order, where a field
that has a value when it is left out may be left out: `recovers_record`.

`Recovers.compact` and `Recovers.pretty` are the way back from a text: the document is written,
split into words, read as a tree and decoded.
-/

set_option autoImplicit false

namespace DeskPlan.Json

variable {α β τ : Type}

/-- The decoder makes the value out of the document. -/
structure Recovers (d : Decoder α) (v : Json) (a : α) : Prop where
  plain : Plain v
  decodes : d v.node = .ok a

/-- The value is read back from any text whose words are those of the document. -/
theorem Recovers.decodeText_eq {d : Decoder α} {v : Json} {a : α} (h : Recovers d v a)
    {text : String} (htext : tokens text = v.words) : decodeText d text = .ok a := by
  rw [decodeText, h.plain.read_eq htext]
  dsimp only
  rw [h.decodes]
  rfl

/-- The value is read back from the document on one line. -/
theorem Recovers.compact {d : Decoder α} {v : Json} {a : α} (h : Recovers d v a) :
    decodeText d v.compact = .ok a :=
  h.decodeText_eq (tokens_compact h.plain)

/-- The value is read back from the document over several lines. -/
theorem Recovers.pretty {d : Decoder α} {v : Json} {a : α} (h : Recovers d v a) :
    decodeText d v.pretty = .ok a :=
  h.decodeText_eq (tokens_pretty h.plain)

/-! ### Decoders -/

theorem recovers_string (s : String) : Recovers .string (.str s) s := ⟨.str s, rfl⟩

theorem recovers_bool (b : Bool) : Recovers .bool (.bool b) b := ⟨.bool b, rfl⟩

/-- Integers of a range that fits 64 bits. -/
theorem recovers_ranged {lo hi : Int} (hlo : -9223372036854775808 ≤ lo)
    (hhi : hi ≤ 18446744073709551615) (kind : String) (a : Ranged lo hi) :
    Recovers (.ranged kind) (.int a.val) a where
  plain := .int a.val
  decodes := by
    rw [node, numeral_eq (Int.le_trans hlo a.lo_le) (Int.le_trans a.le_hi hhi), Decoder.ranged,
      Ranged.ofInt?_val]

theorem recovers_textOrNumber (union s : String) :
    Recovers (.textOrNumber union) (.str s) s := ⟨.str s, rfl⟩

/-- Steps that give back what they were made from give back the whole list. -/
theorem mapM_map_eq_ok {ε : Type} {f : α → β} {g : β → Except ε α} {as : List α}
    (h : ∀ a ∈ as, g (f a) = .ok a) : (as.map f).mapM g = .ok as := by
  induction as with
  | nil => rfl
  | cons a as ih =>
    rw [List.map_cons, List.mapM_cons, h a List.mem_cons_self,
      ih fun b hb => h b (List.mem_cons_of_mem a hb)]
    rfl

theorem recovers_list {d : Decoder α} {encode : α → Json} {as : List α}
    (h : ∀ a ∈ as, Recovers d (encode a) a) :
    Recovers (.list d) (.list (as.map encode)) as where
  plain := .list fun v hv => by
    obtain ⟨a, ha, rfl⟩ := List.mem_map.1 hv
    exact (h a ha).plain
  decodes := by
    have hitems : (as.map (node ∘ encode)).mapM d = .ok as :=
      mapM_map_eq_ok fun a ha => (h a ha).decodes
    rw [node, itemNodes_eq_map, List.map_map, Decoder.list, hitems]
    rfl

/-- The entries of an object whose keys are free. -/
theorem recovers_entries {d : Decoder α} {encode : α → Json} {entries : List (String × α)}
    (h : ∀ e ∈ entries, Recovers d (encode e.2) e.2) :
    Recovers (.entries d) (.obj (entries.map fun e => (e.1, encode e.2))) entries where
  plain := .obj fun f hf => by
    obtain ⟨e, he, rfl⟩ := List.mem_map.1 hf
    exact (h e he).plain
  decodes := by
    rw [node, fieldNodes_eq_map, List.map_map, Decoder.entries, mapM_map_eq_ok]
    · rfl
    · intro e he
      show (do let v ← d (encode e.2).node; return (e.1, v)) = _
      rw [(h e he).decodes]
      rfl

/-- A value that may be null, when it is given and not written as null. -/
theorem recovers_some {d : Decoder α} {v : Json} {a : α} (h : Recovers d v a) (hv : v ≠ .null) :
    Recovers d.optional v (some a) where
  plain := h.plain
  decodes := by
    have hnode : d.optional v.node = (d v.node).map some := by
      cases v <;> first | rfl | exact absurd rfl hv
    rw [hnode, h.decodes]
    rfl

theorem recovers_none (d : Decoder α) : Recovers d.optional .null none := ⟨.null, rfl⟩

/-- A value that is made of a recovered one is recovered. -/
theorem Recovers.andThen {d : Decoder α} {v : Json} {a : α} {f : α → Except DecodeError β} {b : β}
    (h : Recovers d v a) (hf : f a = .ok b) : Recovers (fun n => d n >>= f) v b where
  plain := h.plain
  decodes := by
    rw [h.decodes]
    exact hf

/-! ### Records -/

namespace Schema

/-- The names of the fields. -/
def names : {τ : Type} → Schema τ → List String
  | _, done => []
  | _, field name _ _ rest => name :: rest.names

/-- The fields of an object fill the fields of the record, in order; a field that has a value when
it is left out may be left out. -/
inductive Filled : {τ : Type} → Schema τ → List (String × Json) → τ → Prop where
  | done : Filled done [] ()
  | given {α β : Type} {name : String} {d : Decoder α} {absent : Option α} {rest : Schema β}
      {v : Json} {a : α} {fs : List (String × Json)} {b : β} (hv : Recovers d v a)
      (h : rest.Filled fs b) : Filled (field name d absent rest) ((name, v) :: fs) (a, b)
  | left {α β : Type} {name : String} {d : Decoder α} {rest : Schema β} {a : α}
      {fs : List (String × Json)} {b : β} (h : rest.Filled fs b) :
      Filled (field name d (some a) rest) fs (a, b)

/-- The fields that fill a record have names of the record. -/
theorem Filled.mem_names {s : Schema τ} {fs : List (String × Json)} {a : τ} (h : s.Filled fs a) :
    ∀ f ∈ fs, f.1 ∈ s.names := by
  induction h with
  | done => simp
  | given hv h ih =>
    intro f hf
    rcases List.mem_cons.1 hf with rfl | hf
    · exact List.mem_cons_self
    · exact List.mem_cons_of_mem _ (ih f hf)
  | left h ih => exact fun f hf => List.mem_cons_of_mem _ (ih f hf)

section
variable {name : String} {d : Decoder α} {absent : Option α} {rest : Schema β}

/-- A field of another name is passed on to the other fields. -/
theorem put_of_ne {key : String} (hkey : key ≠ name) (here : Option α) (slots : rest.Slots)
    (v : Node) : (field name d absent rest).put (here, slots) key v =
      (rest.put slots key v).map fun slots => (here, slots) := by
  have hput : (field name d absent rest).put (here, slots) key v =
      (rest.put slots key v).bind fun slots => .ok (here, slots) := if_neg hkey
  rw [hput]
  cases rest.put slots key v <;> rfl

/-- A field that has not been read is read into its place. -/
theorem put_self (slots : rest.Slots) {v : Node} {a : α} (hv : d v = .ok a) :
    (field name d absent rest).put (none, slots) name v = .ok (some a, slots) := by
  have hput : (field name d absent rest).put (none, slots) name v =
      (d v).bind fun a => .ok (some a, slots) := if_pos rfl
  rw [hput, hv]
  rfl

/-- Fields of other names are passed on to the other fields. -/
theorem putAll_of_ne (here : Option α) {fs : List (String × Json)} (hfs : ∀ f ∈ fs, f.1 ≠ name) :
    ∀ slots : rest.Slots,
      (field name d absent rest).putAll (here, slots) (fs.map nodeOfField) =
        (rest.putAll slots (fs.map nodeOfField)).map fun slots => (here, slots) := by
  induction fs with
  | nil => exact fun slots => rfl
  | cons f fs ih =>
    intro slots
    have hput : (field name d absent rest).put (here, slots) f.1 f.2.node = _ :=
      put_of_ne (hfs f List.mem_cons_self) here slots f.2.node
    show ((field name d absent rest).put (here, slots) f.1 f.2.node).bind _ = Except.map _
      ((rest.put slots f.1 f.2.node).bind _)
    rw [hput]
    cases rest.put slots f.1 f.2.node with
    | error e => rfl
    | ok slots => exact ih (fun g hg => hfs g (List.mem_cons_of_mem f hg)) slots

end

/-- Fields that fill a record make it up. -/
theorem Filled.putAll_eq {s : Schema τ} {fs : List (String × Json)} {a : τ} (h : s.Filled fs a)
    (hnames : s.names.Nodup) :
    ∃ slots, s.putAll s.empty (fs.map nodeOfField) = .ok slots ∧ s.finish slots = .ok a := by
  induction h with
  | done => exact ⟨(), rfl, rfl⟩
  | @given α β name d absent rest v a fs b hv h ih =>
    obtain ⟨hname, hrest⟩ := List.nodup_cons.1 hnames
    obtain ⟨slots, hslots, hfinish⟩ := ih hrest
    have hfs : ∀ f ∈ fs, f.1 ≠ name := fun f hf e => hname (e ▸ h.mem_names f hf)
    refine ⟨(some a, slots), ?_, ?_⟩
    · have hput : (field name d absent rest).put (none, rest.empty) name v.node = _ :=
        put_self rest.empty hv.decodes
      have hothers : (field name d absent rest).putAll (some a, rest.empty) _ = _ :=
        putAll_of_ne (some a) hfs rest.empty
      show ((field name d absent rest).put (none, rest.empty) name v.node).bind _ = _
      rw [hput]
      show (field name d absent rest).putAll (some a, rest.empty) (fs.map nodeOfField) = _
      rw [hothers, hslots]
      rfl
    · show ((rest.finish slots).bind fun b => .ok (a, b)) = _
      rw [hfinish]
      rfl
  | @left α β name d rest a fs b h ih =>
    obtain ⟨hname, hrest⟩ := List.nodup_cons.1 hnames
    obtain ⟨slots, hslots, hfinish⟩ := ih hrest
    have hfs : ∀ f ∈ fs, f.1 ≠ name := fun f hf e => hname (e ▸ h.mem_names f hf)
    refine ⟨(none, slots), ?_, ?_⟩
    · have hothers : (field name d (some a) rest).putAll (none, rest.empty) _ = _ :=
        putAll_of_ne none hfs rest.empty
      show (field name d (some a) rest).putAll (none, rest.empty) (fs.map nodeOfField) = _
      rw [hothers, hslots]
      rfl
    · show ((rest.finish slots).bind fun b => .ok (a, b)) = _
      rw [hfinish]
      rfl

theorem Filled.plain {s : Schema τ} {fs : List (String × Json)} {a : τ} (h : s.Filled fs a) :
    ∀ f ∈ fs, Plain f.2 := by
  induction h with
  | done => simp
  | given hv h ih =>
    intro f hf
    rcases List.mem_cons.1 hf with rfl | hf
    · exact hv.plain
    · exact ih f hf
  | left h ih => exact ih

/-- Fields that fill a record make it up. -/
theorem recovers_record {s : Schema τ} {fs : List (String × Json)} {a : τ} (h : s.Filled fs a)
    (hnames : s.names.Nodup) (name : String) : Recovers (s.record name) (.obj fs) a where
  plain := .obj h.plain
  decodes := by
    obtain ⟨slots, hslots, hfinish⟩ := h.putAll_eq hnames
    rw [node, fieldNodes_eq_map, record, hslots]
    exact hfinish

/-- A field that is left out when it is absent. -/
theorem Filled.fieldIf {name : String} {d : Decoder α} {encode : α → Json} {rest : Schema β}
    {fs : List (String × Json)} {b : β} (h : rest.Filled fs b) {a : Option α}
    (ha : ∀ x, a = some x → Recovers d (encode x) x ∧ encode x ≠ .null) :
    Filled (optional name d rest) (Json.fieldIf name encode a ++ fs) (a, b) := by
  cases a with
  | none => exact .left h
  | some x => exact .given (recovers_some (ha x rfl).1 (ha x rfl).2) h

end Schema

end DeskPlan.Json
