import Strata.Text.Quoted
import Strata.Json.Source

/-!
# Why a text is refused

The causes for which a text does not decode to the type that was asked for, and the wording of
each. `Fault.malformed` covers everything that is wrong with the text as JSON.
-/

namespace Strata.Wire

/-- What was met where something else was expected. -/
inductive Found where
  | null
  | bool (value : Bool)
  | integer (value : Int)
  | float
  | text (value : String)
  | list
  | object
  | unitVariant
  deriving DecidableEq, Repr

/-- What was expected. -/
inductive Expected where
  | text
  | boolean
  | integer64
  | list
  | unit
  | timestamp
  /-- A record, by its title. -/
  | record (title : String)
  /-- A record in the form of a list of so many elements. -/
  | elements (title : String) (count : Nat)
  /-- A list of exactly so many elements. -/
  | exactly (count : Nat)
  /-- A union whose members name their kind in a field of their own. -/
  | tagged (name : String)
  | variantName
  | newtypeVariant
  | structVariant
  deriving DecidableEq, Repr

/-- Why a text is not a point in time. -/
inductive TimeFault where
  | outOfRange
  | impossible
  | invalid
  | tooShort
  | tooLong
  deriving DecidableEq, Repr

/-- Why a text does not decode. -/
inductive Fault where
  | malformed
  | invalidType (found : Found) (expected : Expected)
  | invalidValue (found : Found) (expected : Expected)
  | invalidLength (length : Nat) (expected : Expected)
  | missingField (name : String)
  | duplicateField (name : String)
  | unknownVariant (name : String) (known : List String)
  | unknownTag (kind : String) (text : String)
  | noVariant (name : String)
  | timestamp (fault : TimeFault)
  deriving DecidableEq, Repr

/-- A name as messages show it. -/
def ticked (name : String) : String := "`" ++ name ++ "`"

/-- The wording of what was met. -/
def Found.message : Found → String
  | .null => "null"
  | .bool b => "boolean " ++ ticked (if b then "true" else "false")
  | .integer i => "integer " ++ ticked (String.ofList (spellInt i))
  | .float => "floating point"
  | .text s => "string " ++ Text.quoted s
  | .list => "sequence"
  | .object => "map"
  | .unitVariant => "unit variant"

/-- A number of elements. -/
def elementCount (count : Nat) : String :=
  String.ofList (spellNat count) ++ (if count = 1 then " element" else " elements")

/-- The wording of what was expected. -/
def Expected.message : Expected → String
  | .text => "a string"
  | .boolean => "a boolean"
  | .integer64 => "i64"
  | .list => "a sequence"
  | .unit => "unit"
  | .timestamp => "an RFC 3339 formatted date and time string"
  | .record title => title
  | .elements title count => title ++ " with " ++ elementCount count
  | .exactly count => elementCount count ++ " in sequence"
  | .tagged name => "internally tagged enum " ++ name
  | .variantName => "variant identifier"
  | .newtypeVariant => "newtype variant"
  | .structVariant => "struct variant"

/-- The wording of a fault in a point in time. -/
def TimeFault.message : TimeFault → String
  | .outOfRange => "input is out of range"
  | .impossible => "no possible date and time matching input"
  | .invalid => "input contains invalid characters"
  | .tooShort => "premature end of input"
  | .tooLong => "trailing input"

/-- The names a message offers instead of an unknown one. -/
def alternatives : List String → String
  | [a] => ticked a
  | [a, b] => ticked a ++ " or " ++ ticked b
  | names => "one of " ++ ", ".intercalate (names.map ticked)

/-- The wording of a fault. -/
def Fault.message : Fault → String
  | .malformed => "malformed JSON"
  | .invalidType found expected =>
    "invalid type: " ++ found.message ++ ", expected " ++ expected.message
  | .invalidValue found expected =>
    "invalid value: " ++ found.message ++ ", expected " ++ expected.message
  | .invalidLength length expected =>
    "invalid length " ++ String.ofList (spellNat length) ++ ", expected " ++ expected.message
  | .missingField name => "missing field " ++ ticked name
  | .duplicateField name => "duplicate field " ++ ticked name
  | .unknownVariant name known =>
    "unknown variant " ++ ticked name ++ ", expected " ++ alternatives known
  | .unknownTag kind text => "unknown " ++ kind ++ " '" ++ text ++ "'"
  | .noVariant name => "data did not match any variant of untagged enum " ++ name
  | .timestamp fault => fault.message

end Strata.Wire
