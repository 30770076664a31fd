import DeskPlan.Json.Decode

/-!
# `DeskPlan.Json.Schema`: records as JSON

A `Schema` lists the fields of a record in their order of declaration, each with its decoder and
with the value it has when it is left out. `Schema.record` reads the record from an object, whose
fields may come in any order and may be joined by unknown ones, or from a list of the field
values in order.

A repeated field is an error where it is repeated; a field that is missing is noticed at the end
of the object.
-/

set_option autoImplicit false

namespace DeskPlan.Json

/-- The fields of a record; the type is the product of their types. -/
inductive Schema : Type → Type 1 where
  | done : Schema Unit
  | field {α β : Type} (name : String) (decode : Decoder α) (absent : Option α)
      (rest : Schema β) : Schema (α × β)

namespace Schema

/-- What has been read of each field. -/
def Slots : {τ : Type} → Schema τ → Type
  | _, done => Unit
  | _, @field α _ _ _ _ rest => Option α × rest.Slots

/-- No field has been read. -/
def empty : {τ : Type} → (s : Schema τ) → s.Slots
  | _, done => ()
  | _, field _ _ _ rest => (none, rest.empty)

/-- Reads one field of an object into its slot. A field of an unknown name is passed over. -/
def put : {τ : Type} → (s : Schema τ) → s.Slots → String → Node → Except DecodeError s.Slots
  | _, done, _, _, v => do
    liftFault v.skip
    return ()
  | _, @field α _ name decode _ rest, slots, key, v =>
    let here : Option α := slots.1
    if key = name then
      match here with
      -- A field that is given twice is refused before its second value is read.
      | some _ => .error (.duplicateField name)
      | none => do return (some (← decode v), slots.2)
    else do return (here, ← rest.put slots.2 key v)

/-- The record, once all fields have been read. -/
def finish : {τ : Type} → (s : Schema τ) → s.Slots → Except DecodeError τ
  | _, done, _ => .ok ()
  | _, @field α _ name _ absent rest, slots =>
    let here : Option α := slots.1
    match here.or absent with
    | some a => do return (a, ← rest.finish slots.2)
    | none => .error (.missingField name)

/-- Reads the fields of an object one after the other. -/
def putAll {τ : Type} (s : Schema τ) :
    s.Slots → List (Except Fault String × Node) → Except DecodeError s.Slots
  | slots, [] => .ok slots
  | slots, (k, v) :: fs => do
    let key ← liftFault k
    let slots ← s.put slots key v
    s.putAll slots fs

/-- The number of fields. -/
def arity : {τ : Type} → Schema τ → Nat
  | _, done => 0
  | _, field _ _ _ rest => rest.arity + 1

/-- The defect at the end of a list that was read as a record. -/
def endOfItems : List Node → ListEnd → Except Fault Unit
  | _ :: _, _ => .error .trailingText
  | [], .closed => .ok ()
  | [], .endOfText => .error .endInList
  | [], .danglingComma => .error .trailingComma
  | [], _ => .error .trailingText

/-- Reads the fields from the items of a list. `index` counts the items already read. -/
def ofItems (record : String) (total : Nat) :
    {τ : Type} → Schema τ → Nat → List Node → ListEnd → Except DecodeError τ
  | _, done, _, items, ending => liftFault (endOfItems items ending)
  | _, field _ decode absent rest, index, items, ending =>
    match items with
    | v :: vs => do
      let a ← decode v
      return (a, ← rest.ofItems record total (index + 1) vs ending)
    | [] => do
      liftFault ending.check
      match absent with
      | some a => return (a, ← rest.ofItems record total (index + 1) [] ending)
      | none => .error (.wrongLength index record total)

/-- Reads a record named `name` with the given fields. -/
def record {τ : Type} (name : String) (s : Schema τ) : Decoder τ
  | .object fields ending => do
    -- Missing fields are noticed only after the whole object was read.
    let slots ← s.putAll s.empty fields
    liftFault ending.check
    s.finish slots
  | .list items ending => s.ofItems name s.arity 0 items ending
  | v => Decoder.mismatch ("struct " ++ name) v

/-- A field that must be given. -/
def required {α β : Type} (name : String) (d : Decoder α) (rest : Schema β) : Schema (α × β) :=
  field name d none rest

/-- A field that has a value when it is left out. -/
def withDefault {α β : Type} (name : String) (d : Decoder α) (value : α) (rest : Schema β) :
    Schema (α × β) :=
  field name d (some value) rest

/-- A field that may be left out or null. -/
def optional {α β : Type} (name : String) (d : Decoder α) (rest : Schema β) :
    Schema (Option α × β) :=
  field name d.optional (some none) rest

end Schema

end DeskPlan.Json
