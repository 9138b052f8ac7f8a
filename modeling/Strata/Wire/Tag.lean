import Strata.Text.Lowercase
import Strata.Wire.Decode

/-!
# Tags

A tag is one of a few fixed words. It is written in its canonical spelling and recognised in any
case, with or without separators, and by its aliases.
-/

namespace Strata.Wire

/-- A type whose values are written as tags. Aliases are in lowercase and without separators. -/
class Tag (α : Type) where
  /-- The name of the type in messages. -/
  title : String
  /-- Every value, the first one first to be recognised. -/
  all : List α
  canonical : α → String
  aliases : α → List String

namespace Tag

/-- Whether a character only separates the words of a tag. -/
def isSeparator (c : Char) : Bool := c = '_' || c = '-' || c = ' '

/-- A tag without its separators, each character in lowercase by itself. -/
def normalize (text : String) : List Char :=
  (text.toList.filter fun c => !isSeparator c).flatMap Text.lowerChar

variable {α : Type} [Tag α]

/-- Whether a normalized text is a spelling of the tag. -/
def spells (normalized : List Char) (a : α) : Bool :=
  normalized == normalize (canonical a) || (aliases a).any fun other => normalized == other.toList

/-- The tag that a text spells. -/
def parse? (text : String) : Option α :=
  (all : List α).find? (spells (normalize text))

/-- The tag that a text spells, or why it is none. -/
def parse (text : String) : Decoded α :=
  match parse? text with
  | some a => .ok a
  | none => .error (.unknownTag (title α) text)

/-- The tag that stands at a place of a text. -/
def decode (source : Source) : Decoded α := do parse (← Wire.text source)

/-- A tag in its canonical spelling. -/
def encode (a : α) : Json := .str (canonical a)

end Tag

end Strata.Wire
