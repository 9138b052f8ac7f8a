import Strata.Json.Token

/-!
# What stands in a text

The outcome of looking through a JSON text without yet wanting anything of it. A `Source` has the
shape of a value, but it also says where a text stops being JSON and which parts are well formed
and still cannot be read, so that whoever reads it meets every obstacle in the order of the text.

`Document.ofText` never fails. `Source.ofJson` is what a value looks like once it is written out.
-/

namespace Strata

/-- How the items or members of a container end. -/
inductive Stop where
  /-- With the closing bracket. -/
  | closed
  /-- With contents that are well formed up to the closing bracket and cannot be read. -/
  | unreadable
  /-- With something that is not JSON. -/
  | broken
  deriving DecidableEq, Repr

/-- What stands at a place of a text where a value is expected. -/
inductive Source where
  | null
  | bool (value : Bool)
  | num (value : Numeral)
  | str (value : String)
  | arr (items : List Source) (stop : Stop)
  | obj (members : List (String × Source)) (stop : Stop)
  /-- A number too large or a string that stands for no characters. -/
  | unreadable
  /-- Something that is not JSON. -/
  | broken

namespace Source

/-- Whether what stands there is well formed to its end. -/
def isWellFormed : Source → Bool
  | .arr _ stop => stop != .broken
  | .obj _ stop => stop != .broken
  | .broken => false
  | _ => true

mutual

/-- Whether what stands there can be read whole. -/
def isReadable : Source → Bool
  | .arr items stop => readableItems items && stop == .closed
  | .obj members stop => readableMembers members && stop == .closed
  | .unreadable => false
  | .broken => false
  | _ => true

/-- Whether all items can be read whole. -/
def readableItems : List Source → Bool
  | [] => true
  | item :: rest => item.isReadable && readableItems rest

/-- Whether the values of all members can be read whole. -/
def readableMembers : List (String × Source) → Bool
  | [] => true
  | (_, value) :: rest => value.isReadable && readableMembers rest

end

mutual

/-- A value as it stands in its own text. -/
def ofJson : Json → Source
  | .null => .null
  | .bool b => .bool b
  | .num n => if n.readable then .num n else .unreadable
  | .str s => .str s
  | .arr items => .arr (ofItems items) .closed
  | .obj members => .obj (ofMembers members) .closed

/-- Items as they stand in a text. -/
def ofItems : List Json → List Source
  | [] => []
  | item :: rest => ofJson item :: ofItems rest

/-- Members as they stand in a text. -/
def ofMembers : List (String × Json) → List (String × Source)
  | [] => []
  | (name, value) :: rest => (name, ofJson value) :: ofMembers rest

end

end Source

/-! ## Building from tokens -/

/-- How many arrays and objects may be nested before their contents cannot be read. -/
def maxDepth : Nat := 127

/-- A container that is still open, its contents from the last to the first. They are kept unless
they cannot be read. In an object, `name` is the name whose value is next. -/
inductive Frame where
  | arr (items : List Source) (kept : Bool)
  | obj (members : List (String × Source)) (name : String) (kept : Bool)

/-- What may come next in the innermost open container, or at the top. -/
inductive Slot where
  /-- A value. -/
  | value
  /-- A value, or the end of the array. -/
  | item
  /-- A name. -/
  | name
  /-- A name, or the end of the object. -/
  | member
  /-- The colon after a name. -/
  | colon
  /-- A comma, or the end of the container. -/
  | separator
  deriving DecidableEq, Repr

/-- The state of the building: open containers from the innermost outwards, or the finished tree
and whether nothing follows it. -/
inductive Builder where
  | building (frames : List Frame) (slot : Slot)
  | finished (root : Source) (clean : Bool)

namespace Frame

/-- Puts a value into the container. -/
def place (frame : Frame) (value : Source) : Frame :=
  match frame with
  | .arr items kept => .arr (if kept then value :: items else items) kept
  | .obj members name kept => .obj (if kept then (name, value) :: members else members) name kept

/-- How a container ends whose closing bracket was met. -/
def closedStop (kept : Bool) : Stop := if kept then .closed else .unreadable

/-- The container at its closing bracket. -/
def close : Frame → Source
  | .arr items kept => .arr items.reverse (closedStop kept)
  | .obj members _ kept => .obj members.reverse (closedStop kept)

/-- The container at a point where the text stops being JSON. -/
def cut : Frame → Source
  | .arr items _ => .arr items.reverse .broken
  | .obj members _ _ => .obj members.reverse .broken

end Frame

namespace Builder

/-- The building before the first token. -/
def initial : Builder := .building [] .value

/-- Puts a value where one is expected. -/
def place (frames : List Frame) (value : Source) : Builder :=
  match frames with
  | [] => .finished value true
  | frame :: outer => .building (frame.place value :: outer) .separator

/-- Ends the building where the text stops being JSON: `inner` is what the innermost container then
holds in place of a value. -/
def cut (frames : List Frame) (inner : Source) : Source :=
  frames.foldl (fun inner frame => (frame.place inner).cut) inner

/-- Ends the building at a token that does not fit. After a name, or where a value is expected, the
value is what is broken; elsewhere it is the container. -/
def stray (frames : List Frame) (slot : Slot) : Builder :=
  match slot, frames with
  | .member, frame :: outer | .name, frame :: outer | .separator, frame :: outer =>
    .finished (cut outer frame.cut) false
  | _, _ => .finished (cut frames .broken) false

/-- Whether contents are kept in a container opened inside these. -/
def keeps (frames : List Frame) : Bool := (frames[maxDepth - 1]?).isNone

/-- The value a token is by itself. -/
def scalar? : Token → Option Source
  | .null => some .null
  | .bool b => some (.bool b)
  | .num n => some (if n.readable then .num n else .unreadable)
  | .str (some s) => some (.str s)
  | .str none => some .unreadable
  | _ => none

/-- A token where a value may stand. -/
def acceptValue (frames : List Frame) (slot : Slot) (token : Token) : Builder :=
  match token with
  | .beginArray => .building (.arr [] (keeps frames) :: frames) .item
  | .beginObject => .building (.obj [] "" (keeps frames) :: frames) .member
  | token =>
    match scalar? token with
    | some value => place frames value
    | none => stray frames slot

/-- A token where a name may stand. A name that cannot be read hides the rest of its object. -/
def acceptName (frames : List Frame) (slot : Slot) (token : Token) : Builder :=
  match token, frames with
  | .str (some name), .obj members _ kept :: outer =>
    .building (.obj members name kept :: outer) .colon
  | .str none, .obj members _ _ :: outer => .building (.obj members "" false :: outer) .colon
  | _, frames => stray frames slot

/-- Takes in one more token. -/
def accept : Builder → Token → Builder
  | .finished root _, _ => .finished root false
  | .building frames slot, token =>
    match slot with
    | .value => acceptValue frames slot token
    | .item =>
      match token, frames with
      | .endArray, frame :: outer => place outer frame.close
      | token, frames => acceptValue frames slot token
    | .name => acceptName frames slot token
    | .member =>
      match token, frames with
      | .endObject, frame :: outer => place outer frame.close
      | token, frames => acceptName frames slot token
    | .colon =>
      match token with
      | .colon => .building frames .value
      | _ => stray frames slot
    | .separator =>
      match token, frames with
      | .comma, .arr items kept :: outer => .building (.arr items kept :: outer) .value
      | .comma, .obj members name kept :: outer => .building (.obj members name kept :: outer) .name
      | .endArray, .arr items kept :: outer => place outer (Frame.arr items kept).close
      | .endObject, .obj members name kept :: outer =>
        place outer (Frame.obj members name kept).close
      | _, frames => stray frames slot

end Builder

/-! ## Reading a text -/

/-- What stands in a text: the value it starts with, and whether nothing follows that. -/
structure Document where
  root : Source
  clean : Bool

/-- A reader part of the way through a text. -/
structure Reader where
  lexeme : Lexeme
  builder : Builder

namespace Reader

/-- A reader at the start of a text. -/
def initial : Reader := ⟨.blank, .initial⟩

/-- One character further. -/
def step (reader : Reader) (c : Char) : Reader :=
  let (tokens, lexeme) := reader.lexeme.step c
  ⟨lexeme, tokens.foldl Builder.accept reader.builder⟩

/-- What was read when the text ends. -/
def finish (reader : Reader) : Document :=
  match reader.lexeme.finish.foldl Builder.accept reader.builder with
  | .finished root clean => ⟨root, clean⟩
  | .building frames slot =>
    match Builder.stray frames slot with
    | .finished root _ => ⟨root, false⟩
    | .building _ _ => ⟨.broken, false⟩

end Reader

/-- What stands in a text. -/
def Document.ofText (text : String) : Document :=
  (text.toList.foldl Reader.step Reader.initial).finish

end Strata
