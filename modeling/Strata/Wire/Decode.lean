import Strata.Wire.Fault

/-!
# Decoding

Decoders take what stands in a text and give a value, or the first fault met in the order of the
text. This module has the decoders of plain values and of lists, and one way to decode records:
from an object, or from a list of the fields in their order.

A record is decoded through a draft, which is what is known of it so far. Its `Layout` says how a
field enters the draft and what the draft amounts to in the end.
-/

namespace Strata.Wire

/-- The outcome of decoding. -/
abbrev Decoded (α : Type) := Except Fault α

/-- How a value is come upon. `streamed` is while its text is being read; `buffered` is after it was
read whole, because a field that comes later decides what it is. -/
inductive Access where
  | streamed
  | buffered
  deriving DecidableEq, Repr

/-- A numeral as messages show it. -/
def foundNumber (n : Numeral) : Found :=
  match n.integer? with
  | some i => .integer i
  | none => .float

/-- Refuses what stands there for being of another type, or for not being readable. Of a container
no more than its opening bracket is looked at. -/
def mismatch (source : Source) (expected : Expected) : Decoded α :=
  match source with
  | .null => .error (.invalidType .null expected)
  | .bool b => .error (.invalidType (.bool b) expected)
  | .num n => .error (.invalidType (foundNumber n) expected)
  | .str s => .error (.invalidType (.text s) expected)
  | .arr _ _ => .error (.invalidType .list expected)
  | .obj _ _ => .error (.invalidType .object expected)
  | .unreadable => .error .malformed
  | .broken => .error .malformed

/-! ## Plain values -/

/-- A string. -/
def text : Source → Decoded String
  | .str s => .ok s
  | source => mismatch source .text

/-- A boolean. -/
def boolean : Source → Decoded Bool
  | .bool b => .ok b
  | source => mismatch source .boolean

/-- An integer of 64 bits with a sign. -/
def integer64 : Source → Decoded Int64
  | .num n =>
    match n.integer? with
    | some i =>
      if i < 0x8000000000000000 then .ok (Int64.ofInt i)
      else .error (.invalidValue (.integer i) .integer64)
    | none => .error (.invalidType .float .integer64)
  | source => mismatch source .integer64

/-- A value that null stands for the absence of. -/
def optional (decode : Source → Decoded α) : Source → Decoded (Option α)
  | .null => .ok none
  | source => some <$> decode source

/-- Goes on with what was decoded if its container ends as it should. -/
def atEnd (stop : Stop) (result : Decoded α) : Decoded α :=
  match stop with
  | .closed => result
  | _ => .error .malformed

/-- Decodes elements one after the other. -/
def each (decode : Source → Decoded α) : List Source → Decoded (List α)
  | [] => .ok []
  | item :: rest => do
    let a ← decode item
    let more ← each decode rest
    return a :: more

/-- A list. -/
def list (decode : Source → Decoded α) : Source → Decoded (List α)
  | .arr items stop => do
    let values ← each decode items
    atEnd stop (.ok values)
  | source => mismatch source .list

/-! ## Records -/

/-- How a record is decoded: its title in messages, its fields in order, the draft it starts from,
the entry of a field into a draft, and the record that a draft amounts to, or the first field that
it lacks. -/
structure Layout (δ α : Type) where
  title : String
  fields : List String
  draft : δ
  enter : δ → String → Source → Decoded δ
  build : δ → Except String α

namespace Layout

variable {δ α : Type} (layout : Layout δ α)

/-- Enters the members of an object. `seen` are the fields that are in the draft. Members that are
no fields are passed over. -/
def members (seen : List String) (draft : δ) : List (String × Source) → Decoded δ
  | [] => .ok draft
  | (name, value) :: rest =>
    if layout.fields.contains name then
      if seen.contains name then .error (.duplicateField name)
      else do
        let draft ← layout.enter draft name value
        members (name :: seen) draft rest
    else if value.isWellFormed then members seen draft rest
    else .error .malformed

/-- Enters elements into the fields they stand for, and gives back those that are left. -/
def elements (draft : δ) : List String → List Source → Decoded (δ × List Source)
  | name :: names, value :: values => do
    let draft ← layout.enter draft name value
    elements draft names values
  | _, values => .ok (draft, values)

/-- The record of a draft that was made from an object. -/
def buildNamed (draft : δ) : Decoded α :=
  match layout.build draft with
  | .ok a => .ok a
  | .error name => .error (.missingField name)

/-- The record of a draft that was made from a list. -/
def buildPlaced (draft : δ) : Decoded α :=
  match layout.build draft with
  | .ok a => .ok a
  | .error name =>
    .error (.invalidLength (layout.fields.idxOf name)
      (.elements layout.title layout.fields.length))

/-- Refuses the elements of a list that are one too many or more. -/
def surplus (access : Access) (left : List Source) : Fault :=
  match access with
  | .streamed => .malformed
  | .buffered =>
    .invalidLength (layout.fields.length + left.length) (.exactly layout.fields.length)

/-- A record. -/
def decode (access : Access) : Source → Decoded α
  | .obj members stop => do
    let draft ← layout.members [] layout.draft members
    atEnd stop (layout.buildNamed draft)
  | .arr items stop => do
    let (draft, left) ← layout.elements layout.draft layout.fields items
    if left.isEmpty then atEnd stop (layout.buildPlaced draft)
    else .error (layout.surplus access left)
  | source => mismatch source (.record layout.title)

end Layout

/-- The value of a required field, or the field's name. -/
def required (name : String) : Option α → Except String α
  | some a => .ok a
  | none => .error name

/-! ## Unions that are told apart by the name of their only member -/

/-- Goes on with the value of an only member if nothing follows it. -/
def alone (rest : List (String × Source)) (stop : Stop) (result : Decoded α) : Decoded α := do
  let a ← result
  if rest.isEmpty ∧ stop = .closed then return a else .error .malformed

/-- What a variant without a value may carry. -/
def unit : Source → Decoded Unit
  | .null => .ok ()
  | source => mismatch source .unit

/-- Refuses a variant that is named and lacks its value, or a name that is not one. `form` is the
shape of the value that is lacking. -/
def bareVariant (known : List String) (form : String → Expected) (name : String) : Decoded α :=
  if known.contains name then .error (.invalidType .unitVariant (form name))
  else .error (.unknownVariant name known)

/-- A union all of whose variants go without a value. -/
def variant (known : List String) (ofName? : String → Option α) : Source → Decoded α
  | .str name =>
    match ofName? name with
    | some a => .ok a
    | none => .error (.unknownVariant name known)
  | .obj ((name, value) :: rest) stop =>
    match ofName? name with
    | some a => alone rest stop ((fun _ => a) <$> unit value)
    | none => .error (.unknownVariant name known)
  | _ => .error .malformed

/-! ## Unions that are told apart by a field -/

/-- The value of the member that tells the kind. While a text is being read, every other member has
to be readable, and is met in turn. -/
def tagMember (field : String) (access : Access) (tag : Source → Decoded τ) (found : Option τ) :
    List (String × Source) → Decoded (Option τ)
  | [] => .ok found
  | (name, value) :: rest =>
    if name = field then
      match found with
      | some _ => .error (.duplicateField field)
      | none => do
        let t ← tag value
        tagMember field access tag (some t) rest
    else if access = .buffered ∨ value.isReadable then tagMember field access tag found rest
    else .error .malformed

/-- The kind of a union member and what is left to decode it from: the object, or the list after its
first element. -/
def tagged (name field : String) (access : Access) (tag : Source → Decoded τ) :
    Source → Decoded (τ × Source)
  | .obj members stop => do
    let found ← tagMember field access tag none members
    atEnd stop (match found with
      | some t => .ok (t, .obj members stop)
      | none => .error (.missingField field))
  | .arr [] stop => atEnd stop (.error (.missingField field))
  | .arr (head :: items) stop => do
    let t ← tag head
    if access = .buffered ∨ Source.readableItems items then atEnd stop (.ok (t, .arr items stop))
    else .error .malformed
  | source => mismatch source (.tagged name)

/-- The name of a kind. -/
def kindName (ofName : String → Decoded τ) : Source → Decoded τ
  | .str name => ofName name
  | source => mismatch source .variantName

/-! ## Whole texts -/

/-- Decodes a text that holds one value and nothing else. -/
def decodeText (decode : Source → Decoded α) (text : String) : Decoded α := do
  let document := Document.ofText text
  let a ← decode document.root
  if document.clean then return a else .error .malformed

end Strata.Wire
