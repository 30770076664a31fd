import DeskPlan.Command.Listing
import DeskPlan.Proofs.Json.Words
import DeskPlan.Proofs.Monitor.OneToOne
import DeskPlan.Proofs.NameMap
import DeskPlan.Proofs.Text.Replace

/-!
# `DeskPlan.Proofs.Command.Template`: filling a template in one pass

`Command.fillTemplate` rewrites the whole text once for every field. `Command.fillOnce` reads the
template once, from left to right: `blocks` cuts it into literal stretches and references to fields,
and the text of its field stands in the place of each reference.

The two differ where a text that was put in, or the end of a literal stretch, becomes part of a
reference. `OnePass` excludes this:

* `replaceChars_blocks` is the step: putting in one field changes its references and nothing else;
* `fillWith_blocks` is the run: every reference becomes the text of its field;
* `fillTemplate_eq_fillOnce`: so a listed item is put into a template in one pass, in whatever order
  the fields are visited;
* `filling_of_braces`: in general it is not.
-/

set_option autoImplicit false

namespace DeskPlan.Command

open Text (Inert replaceChars)

/-! ### The parts of a template -/

/-- A part of a template. -/
inductive Block where
  | text (chars : List Char)
  | ref (key : String)
deriving DecidableEq

/-- A part of a template as it is written. -/
def Block.chars : Block → List Char
  | .text s => s
  | .ref key => (reference key).toList

/-- A literal character before the parts of a template. -/
def literal (c : Char) : List Block → List Block
  | .text s :: bs => .text (c :: s) :: bs
  | bs => .text [c] :: bs

/-- The parts of a template: the leftmost references to fields, which do not overlap, and the
stretches between them. The first `skip` characters belong to a reference that has been read. -/
def blocks (keys : List String) : Nat → List Char → List Block
  | _, [] => []
  | skip + 1, _ :: s => blocks keys skip s
  | 0, c :: s =>
    match keys.find? fun key => (reference key).toList.isPrefixOf (c :: s) with
    | some key => .ref key :: blocks keys ((reference key).toList.length - 1) s
    | none => literal c (blocks keys 0 s)

/-- A part with the text of its field in the place of a reference. -/
def Block.filled (texts : List (String × String)) : Block → List Char
  | .text s => s
  | .ref key =>
    match texts.lookup key with
    | some given => given.toList
    | none => (reference key).toList

/-- A template with the texts of fields put in, in one pass. -/
def fillOnce (texts : List (String × String)) (template : String) : String :=
  String.ofList ((blocks (texts.map Prod.fst) 0 template.toList).flatMap (Block.filled texts))

/-- A template with the texts of fields put in one after the other. -/
def fillWith (texts : List (String × String)) (template : String) : String :=
  texts.foldl (fun text f => Text.replaceAll (reference f.1) f.2 text) template

/-- The fields of an item with the texts that are put in, in the order of their names. -/
def fieldTexts (fields : List (String × Json)) : List (String × String) :=
  (Json.orderedFields fields).map fun f => (f.1, fieldText f.2)

theorem fillTemplate_eq_fillWith (template : String) (fields : List (String × Json)) :
    fillTemplate template fields = fillWith (fieldTexts fields) template := by
  rw [fillWith, fieldTexts, List.foldl_map]
  rfl

/-! ### References -/

/-- The name of a field consists of letters. -/
def IsFieldName (key : String) : Prop := key.toList ≠ [] ∧ key.toList.all Char.isAlpha

instance (key : String) : Decidable (IsFieldName key) := inferInstanceAs (Decidable (_ ∧ _))

theorem IsFieldName.not_mem {key : String} (h : IsFieldName key) {c : Char}
    (hc : c.isAlpha = false) :
    c ∉ key.toList := by
  intro hmem
  have halpha := List.all_eq_true.1 h.2 c hmem
  rw [hc] at halpha
  cases halpha

theorem toList_reference (key : String) :
    (reference key).toList = '{' :: (key.toList ++ ['}']) := by
  simp [reference]

/-- A reference that begins another one is the same. -/
theorem eq_of_reference_begins {key other : String} (hother : IsFieldName other)
    (h : (reference key).toList <+: (reference other).toList) : key = other := by
  rw [toList_reference, toList_reference, List.cons_prefix_cons] at h
  have hends : '}' ∈ key.toList ++ ['}'] := List.mem_append_right _ (List.mem_singleton_self _)
  rcases List.prefix_concat_iff.1 h.2 with heq | hbegins
  · exact String.toList_inj.1 (List.append_cancel_right heq)
  · -- Only the end of a reference is a closing brace.
    exact absurd (hbegins.subset hends) (hother.not_mem (by decide))

/-- In a reference to one field no reference to another one begins. -/
theorem inert_reference {key other : String} (hkey : IsFieldName key) (hother : IsFieldName other)
    (hne : other ≠ key) : Inert (reference key).toList (reference other).toList := by
  have hrest : '{' ∉ other.toList ++ ['}'] := by
    rw [List.mem_append, not_or]
    exact ⟨hother.not_mem (by decide), by decide⟩
  have hhead : ¬ (reference key).toList <+: (reference other).toList ∧
      ¬ (reference other).toList <+: (reference key).toList :=
    ⟨fun h => hne (eq_of_reference_begins hother h).symm,
      fun h => hne (eq_of_reference_begins hkey h)⟩
  rw [toList_reference other] at hhead ⊢
  refine ⟨hhead, ?_⟩
  rw [toList_reference key]
  -- Behind its first brace a reference has no opening brace.
  exact Text.inert_of_not_mem hrest

/-! ### Reading a template -/

theorem flatMap_chars_literal (c : Char) (bs : List Block) :
    (literal c bs).flatMap Block.chars = c :: bs.flatMap Block.chars := by
  unfold literal
  split
  · rfl
  · rfl

theorem mem_of_ref_mem_literal {c : Char} {bs : List Block} {key : String}
    (h : Block.ref key ∈ literal c bs) : Block.ref key ∈ bs := by
  unfold literal at h
  split at h
  · exact List.mem_cons_of_mem _ ((List.mem_cons.1 h).resolve_left fun heq => nomatch heq)
  · exact (List.mem_cons.1 h).resolve_left fun heq => nomatch heq

/-- The parts of a template make up the template. -/
theorem flatMap_chars_blocks (keys : List String) (skip : Nat) (s : List Char) :
    (blocks keys skip s).flatMap Block.chars = s.drop skip := by
  fun_induction blocks keys skip s with
  | case1 skip => rw [List.drop_nil]; rfl
  | case2 skip c s ih => rw [ih, List.drop_succ_cons]
  | case3 c s key hfound ih =>
    have hbegins := List.find?_some hfound
    obtain ⟨rest, hrest⟩ := List.isPrefixOf_iff_prefix.1 hbegins
    rw [List.flatMap_cons, ih, List.drop_zero, ← hrest]
    rw [toList_reference, List.cons_append] at hrest
    obtain ⟨-, rfl⟩ := List.cons.inj hrest
    simp [Block.chars, toList_reference]
  | case4 c s hnone ih => rw [flatMap_chars_literal, ih, List.drop_zero, List.drop_zero]

/-- The references of a template are to the given fields. -/
theorem mem_keys_of_ref {keys : List String} {skip : Nat} {s : List Char} {key : String}
    (h : Block.ref key ∈ blocks keys skip s) : key ∈ keys := by
  fun_induction blocks keys skip s with
  | case1 skip => cases h
  | case2 skip c s ih => exact ih h
  | case3 c s found hfound ih =>
    rcases List.mem_cons.1 h with heq | hmem
    · obtain rfl := Block.ref.inj heq
      exact List.mem_of_find?_eq_some hfound
    · exact ih hmem
  | case4 c s hnone ih =>
    exact ih (mem_of_ref_mem_literal h)

/-! ### Putting fields in -/

/-- A part after a field has been put in. -/
def Block.put (key : String) (text : List Char) : Block → Block
  | .text s => .text s
  | .ref other => if other = key then .text text else .ref other

/-- The part is a reference, or no reference to a field begins in it. -/
def Block.Settled (keys : List String) : Block → Prop
  | .text s => ∀ key ∈ keys, Inert (reference key).toList s
  | .ref key => IsFieldName key

/-- Replacing the references to one field changes these and nothing else. -/
theorem replaceChars_blocks {keys : List String} {key : String} (hname : IsFieldName key)
    (hkey : key ∈ keys) (given : List Char) {bs : List Block} (hbs : ∀ b ∈ bs, b.Settled keys) :
    replaceChars (reference key).toList given 0 (bs.flatMap Block.chars) =
      (bs.map (Block.put key given)).flatMap Block.chars := by
  -- Whatever follows a part, the walk over the text comes out at its end with no character skipped.
  induction bs with
  | nil => rfl
  | cons b bs ih =>
    have hb := hbs b List.mem_cons_self
    rw [List.flatMap_cons, List.map_cons, List.flatMap_cons,
      ← ih fun b' hb' => hbs b' (List.mem_cons_of_mem b hb')]
    cases b with
    | text s => exact Text.replaceChars_inert (hb key hkey) _ _
    | ref other =>
      by_cases heq : other = key
      · subst heq
        rw [Block.put, if_pos rfl]
        exact Text.replaceChars_part (by simp [toList_reference]) _ _
      · rw [Block.put, if_neg heq]
        exact Text.replaceChars_inert (inert_reference hname hb heq) _ _

/-- The same for the text that the parts make up. -/
theorem replaceAll_blocks {keys : List String} {key : String} (hname : IsFieldName key)
    (hkey : key ∈ keys) (given : String) {bs : List Block} (hbs : ∀ b ∈ bs, b.Settled keys) :
    Text.replaceAll (reference key) given (String.ofList (bs.flatMap Block.chars)) =
      String.ofList ((bs.map (Block.put key given.toList)).flatMap Block.chars) := by
  have hpart : ¬ (reference key).isEmpty = true := by
    rw [String.isEmpty_iff, ← String.toList_inj, toList_reference]
    exact List.cons_ne_nil _ _
  rw [Text.replaceAll, if_neg hpart, String.toList_ofList, replaceChars_blocks hname hkey _ hbs]

/-- A reference that is left after a field has been put in was there before. -/
theorem Block.eq_ref_of_put {b : Block} {key k : String} {given : List Char}
    (h : b.put key given = .ref k) : b = .ref k := by
  cases b with
  | text s => cases h
  | ref other =>
    rw [Block.put] at h
    split at h
    · cases h
    · exact h

/-- Putting in a text in which no reference begins leaves a part settled. -/
theorem Block.Settled.put {keys : List String} {b : Block} (h : b.Settled keys) {key : String}
    {given : List Char}
    (hgiven : b = .ref key → ∀ k ∈ keys, Inert (reference k).toList given) :
    (b.put key given).Settled keys := by
  cases b with
  | text s => exact h
  | ref other =>
    rw [Block.put]
    split
    · rename_i heq
      exact hgiven (heq ▸ rfl)
    · exact h

/-- A part after fields have been put in one after the other. -/
def Block.putAll (texts : List (String × String)) (b : Block) : Block :=
  texts.foldl (fun b f => b.put f.1 f.2.toList) b

theorem Block.putAll_text (texts : List (String × String)) (s : List Char) :
    (Block.text s).putAll texts = .text s := by
  induction texts with
  | nil => rfl
  | cons f rest ih => exact ih

/-- In the end the text of its field stands in the place of a reference. -/
theorem Block.chars_putAll (texts : List (String × String)) (b : Block) :
    (b.putAll texts).chars = b.filled texts := by
  cases b with
  | text s => rw [putAll_text]; rfl
  | ref key =>
    induction texts with
    | nil => rfl
    | cons f rest ih =>
      obtain ⟨k, given⟩ := f
      show (((Block.ref key).put k given.toList).putAll rest).chars = _
      rw [Block.put, Block.filled, List.lookup_cons]
      by_cases heq : key = k
      · rw [if_pos heq, putAll_text, beq_iff_eq.2 heq]
        rfl
      · rw [if_neg heq, ih, beq_eq_false_iff_ne.2 heq]
        rfl

/-- Replacing the references to one field after the other gives every reference the text of its
field, if no reference begins in the literal stretches and in the texts that are put in. -/
theorem fillWith_blocks {keys : List String} (hnames : ∀ key ∈ keys, IsFieldName key)
    {texts : List (String × String)} (htexts : ∀ f ∈ texts, f.1 ∈ keys) {bs : List Block}
    (hbs : ∀ b ∈ bs, b.Settled keys)
    (hgiven : ∀ f ∈ texts, Block.ref f.1 ∈ bs → ∀ k ∈ keys, Inert (reference k).toList f.2.toList) :
    fillWith texts (String.ofList (bs.flatMap Block.chars)) =
      String.ofList ((bs.map (Block.putAll texts)).flatMap Block.chars) := by
  induction texts generalizing bs with
  | nil =>
    -- Without fields every part stays as it is.
    have hnothing : bs.map (Block.putAll []) = bs := List.map_id bs
    rw [hnothing]
    rfl
  | cons f rest ih =>
    have hkey := htexts f List.mem_cons_self
    have hsettled : ∀ b ∈ bs.map (Block.put f.1 f.2.toList), b.Settled keys := by
      intro b' hb'
      obtain ⟨b, hb, rfl⟩ := List.mem_map.1 hb'
      exact (hbs b hb).put fun heq => hgiven f List.mem_cons_self (heq ▸ hb)
    have hleft : ∀ k, Block.ref k ∈ bs.map (Block.put f.1 f.2.toList) → Block.ref k ∈ bs := by
      intro k hk
      obtain ⟨b, hb, heq⟩ := List.mem_map.1 hk
      exact Block.eq_ref_of_put heq ▸ hb
    have hrun := ih (fun g hg => htexts g (List.mem_cons_of_mem f hg)) hsettled
      fun g hg href => hgiven g (List.mem_cons_of_mem f hg) (hleft _ href)
    rw [List.map_map] at hrun
    show fillWith rest (Text.replaceAll (reference f.1) f.2 _) = _
    rw [replaceAll_blocks (hnames _ hkey) hkey _ hbs, hrun]
    rfl

/-! ### The order of the fields -/

/-- The fields of an item are put in in the order of their names, each once. -/
theorem nodup_fieldTexts (fields : List (String × Json)) :
    ((fieldTexts fields).map Prod.fst).Nodup := by
  have hsorted : NameSorted (Json.orderedFields fields) := by
    induction fields with
    | nil => exact List.Pairwise.nil
    | cons f rest ih => exact NameMap.sorted_insertEntry ih
  rw [fieldTexts, List.map_map]
  exact NameMap.nodup_names hsorted

/-- What a part becomes does not depend on the order of the fields. -/
theorem Block.filled_congr {texts order : List (String × String)}
    (hnodup : (texts.map Prod.fst).Nodup) (hperm : order.Perm texts) (b : Block) :
    b.filled order = b.filled texts := by
  cases b with
  | text s => rfl
  | ref key =>
    have hlookup : order.lookup key = texts.lookup key := by
      apply Option.ext
      intro given
      rw [NameMap.lookup_eq_some_iff hnodup,
        NameMap.lookup_eq_some_iff ((hperm.map Prod.fst).nodup_iff.2 hnodup), hperm.mem_iff]
    rw [Block.filled, Block.filled, hlookup]

/-- Putting texts in one after the other, in any order, is putting them in in one pass, if no
reference begins in the literal stretches of the template and in the texts that it asks for. -/
theorem fillWith_eq_fillOnce {texts order : List (String × String)} {template : String}
    (hnodup : (texts.map Prod.fst).Nodup) (hnames : ∀ key ∈ texts.map Prod.fst, IsFieldName key)
    (hliterals : ∀ s, Block.text s ∈ blocks (texts.map Prod.fst) 0 template.toList →
      ∀ key ∈ texts.map Prod.fst, Inert (reference key).toList s)
    (hgiven : ∀ f ∈ texts, Block.ref f.1 ∈ blocks (texts.map Prod.fst) 0 template.toList →
      ∀ key ∈ texts.map Prod.fst, Inert (reference key).toList f.2.toList)
    (hperm : order.Perm texts) : fillWith order template = fillOnce texts template := by
  have hbs : ∀ b ∈ blocks (texts.map Prod.fst) 0 template.toList,
      b.Settled (texts.map Prod.fst) := by
    intro b hb
    cases b with
    | text s => exact hliterals s hb
    | ref key => exact hnames key (mem_keys_of_ref hb)
  have htemplate : template = String.ofList
      ((blocks (texts.map Prod.fst) 0 template.toList).flatMap Block.chars) := by
    rw [flatMap_chars_blocks, List.drop_zero, String.ofList_toList]
  calc fillWith order template
      = fillWith order (String.ofList
          ((blocks (texts.map Prod.fst) 0 template.toList).flatMap Block.chars)) :=
        congrArg (fillWith order) htemplate
    _ = String.ofList (((blocks (texts.map Prod.fst) 0 template.toList).map
          (Block.putAll order)).flatMap Block.chars) :=
        fillWith_blocks hnames (fun f hf => List.mem_map_of_mem (hperm.mem_iff.1 hf)) hbs
          fun f hf => hgiven f (hperm.mem_iff.1 hf)
    _ = fillOnce texts template := by
        rw [fillOnce, List.flatMap_map]
        simp only [Block.chars_putAll, Block.filled_congr hnodup hperm]

/-! ### The fields of listed items -/

/-- The fields of an item that is listed. -/
inductive Listed : List (String × Json) → Prop
  | monitor (m : Monitor) (box : Box) (h : m.monitorRect.box? = some box) :
    Listed (Listing.monitorFields m box)
  | window (w : Window) : Listed (Listing.windowFields w)
  | file (f : Listing.FoundFile) : Listed f.fields

/-- The values of listed items. -/
inductive ListedValue : Json → Prop
  | null : ListedValue .null
  | bool (b : Bool) : ListedValue (.bool b)
  | int (n : Int) : ListedValue (.int n)
  | str (s : String) : ListedValue (.str s)
  | list (items : List Json) : ListedValue (.list items)
  | rect (r : Rect) : ListedValue r.toJson

theorem ListedValue.optStr (s : Option String) : ListedValue (.optStr s) := by
  cases s with
  | none => exact .null
  | some s => exact .str s

theorem ListedValue.optInt (n : Option Int) : ListedValue (.optInt n) := by
  cases n with
  | none => exact .null
  | some n => exact .int n

/-- Every field of a listed item has a name of letters and a value of one of few kinds. -/
theorem Listed.field {fields : List (String × Json)} (h : Listed fields) :
    ∀ f ∈ fields, IsFieldName f.1 ∧ ListedValue f.2 := by
  cases h with
  | monitor m box =>
    simp only [Listing.monitorFields, List.forall_mem_cons, List.not_mem_nil, false_implies,
      implies_true, and_true]
    refine ⟨⟨by decide, .str _⟩, ⟨by decide, .str _⟩, ⟨by decide, .int _⟩, ⟨by decide, .int _⟩,
      ⟨by decide, .int _⟩, ⟨by decide, .int _⟩, ⟨by decide, .int _⟩, ⟨by decide, .int _⟩,
      ⟨by decide, .rect _⟩⟩
  | window w =>
    simp only [Listing.windowFields, Window.fields, List.forall_mem_cons, List.not_mem_nil,
      false_implies, implies_true, and_true]
    refine ⟨⟨by decide, .str _⟩, ⟨by decide, .int _⟩, ⟨by decide, .rect _⟩, ⟨by decide, .str _⟩,
      ⟨by decide, .str _⟩, ⟨by decide, .optStr _⟩, ⟨by decide, .optStr _⟩, ⟨by decide, .optInt _⟩,
      ⟨by decide, .optInt _⟩, ⟨by decide, .bool _⟩⟩
  | file f =>
    unfold Listing.FoundFile.fields
    split
    · simp only [List.forall_mem_cons, List.not_mem_nil, false_implies, implies_true, and_true]
      exact ⟨⟨by decide, .str _⟩, ⟨by decide, .str _⟩, ⟨by decide, .int _⟩, ⟨by decide, .list _⟩⟩
    · simp only [List.forall_mem_cons, List.not_mem_nil, false_implies, implies_true, and_true]
      exact ⟨⟨by decide, .str _⟩, ⟨by decide, .int _⟩, ⟨by decide, .list _⟩, ⟨by decide, .str _⟩⟩

/-- An ordered field comes from a field. -/
theorem mem_orderedFields {fields : List (String × Json)} {f : String × Json}
    (h : f ∈ Json.orderedFields fields) : ∃ v, (f.1, v) ∈ fields ∧ f.2 = v.ordered := by
  induction fields with
  | nil => cases h
  | cons g rest ih =>
    obtain ⟨k, v⟩ := g
    rcases NameMap.mem_insertEntry h with rfl | hmem
    · exact ⟨v, List.mem_cons_self, rfl⟩
    · obtain ⟨w, hw, heq⟩ := ih hmem
      exact ⟨w, List.mem_cons_of_mem _ hw, heq⟩

/-- Whether the value is a text or a list, which can be put in as anything. -/
def isText : Json → Bool
  | .str _ | .list _ => true
  | _ => false

/-- In a text that begins with a brace and goes on with neither a letter nor another brace, no
reference begins. -/
theorem inert_of_braced {key : String} (hkey : IsFieldName key) {d : Char} {s : List Char}
    (hd : d.isAlpha = false) (hs : '{' ∉ d :: s) :
    Inert (reference key).toList ('{' :: d :: s) := by
  obtain ⟨c, cs, hcs⟩ := List.exists_cons_of_ne_nil hkey.1
  have hc : c.isAlpha = true := List.all_eq_true.1 hkey.2 c (hcs ▸ List.mem_cons_self)
  have hne : c ≠ d := fun heq => by rw [heq, hd] at hc; cases hc
  rw [toList_reference, hcs]
  refine ⟨⟨fun h => ?_, fun h => ?_⟩, Text.inert_of_not_mem hs⟩
  · exact hne (List.cons_prefix_cons.1 (List.cons_prefix_cons.1 h).2).1
  · exact hne (List.cons_prefix_cons.1 (List.cons_prefix_cons.1 h).2).1.symm

theorem brace_not_mem_toString (n : Int) : '{' ∉ (toString n).toList := by
  intro h
  rcases Json.minus_or_digit_of_mem n _ h with heq | hdigit
  · exact absurd heq (by decide)
  · exact absurd hdigit (by decide)

theorem chars_ordered_rect (r : Rect) : r.toJson.ordered.chars =
    '{' :: '"' :: ("bottom\":".toList ++ ((toString r.bottom.val).toList ++ (",\"left\":".toList ++
      ((toString r.left.val).toList ++ (",\"right\":".toList ++ ((toString r.right.val).toList ++
        (",\"top\":".toList ++ ((toString r.top.val).toList ++ ['}'])))))))) := rfl

/-- No reference begins in the values of listed items, except in texts. -/
theorem ListedValue.inert {v : Json} (h : ListedValue v) (hv : ¬ isText v.ordered) {key : String}
    (hkey : IsFieldName key) : Inert (reference key).toList (fieldText v.ordered).toList := by
  have hplain : ∀ s : List Char, '{' ∉ s → Inert (reference key).toList s := by
    intro s hs
    rw [toList_reference]
    exact Text.inert_of_not_mem hs
  cases h with
  | null => exact hplain _ (by decide)
  | bool b => cases b <;> exact hplain _ (by decide)
  | int n =>
    refine hplain _ ?_
    show '{' ∉ (String.ofList (toString n).toList).toList
    rw [String.toList_ofList]
    exact brace_not_mem_toString n
  | str s => exact absurd rfl hv
  | list items => exact absurd rfl hv
  | rect r =>
    show Inert _ (String.ofList r.toJson.ordered.chars).toList
    rw [String.toList_ofList, chars_ordered_rect]
    refine inert_of_braced hkey (by decide) ?_
    have hnumber : ∀ n : Int, '{' ∉ n.repr.toList := brace_not_mem_toString
    simp [hnumber]

/-! ### One pass -/

/-- The parts of a template for an item. -/
def templateBlocks (fields : List (String × Json)) (template : String) : List Block :=
  blocks ((fieldTexts fields).map Prod.fst) 0 template.toList

/-- No reference to a field of the item begins in the literal stretches of the template, or in the
texts of the item that the template asks for. -/
structure OnePass (fields : List (String × Json)) (template : String) : Prop where
  literals : ∀ s, Block.text s ∈ templateBlocks fields template →
    ∀ key ∈ fields.map Prod.fst, Inert (reference key).toList s
  texts : ∀ f ∈ Json.orderedFields fields, isText f.2 →
    Block.ref f.1 ∈ templateBlocks fields template →
      ∀ key ∈ fields.map Prod.fst, Inert (reference key).toList (fieldText f.2).toList

/-- An item that is listed. If no reference begins in the literal stretches of the template and in
the texts of the item that it asks for, the item is put into the template in one pass, and it does
not matter in which order the fields are visited. -/
theorem fillTemplate_eq_fillOnce {fields : List (String × Json)} (hitem : Listed fields)
    {template : String} (h : OnePass fields template) :
    fillTemplate template fields = fillOnce (fieldTexts fields) template ∧
      ∀ order, order.Perm (fieldTexts fields) →
        fillWith order template = fillOnce (fieldTexts fields) template := by
  have hkeys : ∀ key ∈ (fieldTexts fields).map Prod.fst, key ∈ fields.map Prod.fst := by
    intro key hkey
    rw [fieldTexts, List.map_map] at hkey
    obtain ⟨f, hf, rfl⟩ := List.mem_map.1 hkey
    obtain ⟨v, hv, -⟩ := mem_orderedFields hf
    exact List.mem_map.2 ⟨_, hv, rfl⟩
  have hnames : ∀ key ∈ fields.map Prod.fst, IsFieldName key := by
    intro key hkey
    obtain ⟨f, hf, rfl⟩ := List.mem_map.1 hkey
    exact (hitem.field f hf).1
  have hgiven : ∀ f ∈ fieldTexts fields, Block.ref f.1 ∈ templateBlocks fields template →
      ∀ key ∈ (fieldTexts fields).map Prod.fst, Inert (reference key).toList f.2.toList := by
    intro f hf href key hkey
    obtain ⟨g, hg, rfl⟩ := List.mem_map.1 hf
    by_cases htext : isText g.2
    · exact h.texts g hg htext href key (hkeys key hkey)
    · obtain ⟨v, hv, heq⟩ := mem_orderedFields hg
      rw [heq] at htext ⊢
      exact (hitem.field _ hv).2.inert htext (hnames key (hkeys key hkey))
  have hany : ∀ order, order.Perm (fieldTexts fields) →
      fillWith order template = fillOnce (fieldTexts fields) template := fun order hperm =>
    fillWith_eq_fillOnce (nodup_fieldTexts fields) (fun key hkey => hnames key (hkeys key hkey))
      (fun s hs key hkey => h.literals s hs key (hkeys key hkey)) hgiven hperm
  exact ⟨(fillTemplate_eq_fillWith template fields).trans (hany _ (List.Perm.refl _)), hany⟩

/-- A monitor of the given name. -/
def namedScreen (name : String) : Monitor :=
  { MonitorCheck.fullScreen (.of 1) .zero (.of 1920) with name }

/-- A monitor of the given name, as it is listed. -/
def listedScreen (name : String) : List (String × Json) :=
  Listing.monitorFields (namedScreen name) ⟨.zero, .zero, .of 1920, .of 1080⟩

/-- The template of the help text is filled in one pass for a monitor with a common name. -/
theorem filling_of_helpTemplate :
    Listed (listedScreen "Left [1]") ∧
    OnePass (listedScreen "Left [1]") "\x7bname\x7d: \x7bwidth\x7dx\x7bheight\x7d" ∧
    fillTemplate "\x7bname\x7d: \x7bwidth\x7dx\x7bheight\x7d" (listedScreen "Left [1]") =
      "Left [1]: 1920x1080" := by
  have hitem : Listed (listedScreen "Left [1]") := .monitor _ _ rfl
  have hparts : templateBlocks (listedScreen "Left [1]")
      "\x7bname\x7d: \x7bwidth\x7dx\x7bheight\x7d" =
      [.ref "name", .text [':', ' '], .ref "width", .text ['x'], .ref "height"] := by
    decide +kernel
  have hpass : OnePass (listedScreen "Left [1]")
      "\x7bname\x7d: \x7bwidth\x7dx\x7bheight\x7d" := by
    constructor
    · rw [hparts]
      intro s hs
      have hs : s = [':', ' '] ∨ s = ['x'] := by simpa using hs
      rcases hs with rfl | rfl <;> decide +kernel
    · decide +kernel
  refine ⟨hitem, hpass, ?_⟩
  rw [(fillTemplate_eq_fillOnce hitem hpass).1]
  decide +kernel

/-- A monitor can have a name that becomes a reference, on its own or between braces of the
template. Then another field is shown, and whether it is depends on the order in which the fields
are visited. In one pass the name is shown. -/
theorem filling_of_braces :
    (fillTemplate "\x7bname\x7d" (listedScreen "\x7bwidth\x7d") = "1920" ∧
      fillWith (fieldTexts (listedScreen "\x7bwidth\x7d")).reverse "\x7bname\x7d" =
        "\x7bwidth\x7d" ∧
      fillOnce (fieldTexts (listedScreen "\x7bwidth\x7d")) "\x7bname\x7d" = "\x7bwidth\x7d") ∧
    (fillTemplate "\x7b\x7bname\x7d\x7d" (listedScreen "width") = "1920" ∧
      fillOnce (fieldTexts (listedScreen "width")) "\x7b\x7bname\x7d\x7d" = "\x7bwidth\x7d") := by
  decide +kernel

end DeskPlan.Command
