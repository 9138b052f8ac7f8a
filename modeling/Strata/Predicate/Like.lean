/-!
# Patterns

The patterns of `LIKE`: `%` stands for any characters, `_` for any one character, and a backslash
makes the character after it stand for itself. A backslash at the end stands for itself. A pattern
is read into tokens first, and the tokens are matched from left to right.
-/

namespace Strata.Like

/-- The character that makes the next one literal. -/
def escape : Char := '\\'

/-- A piece of a pattern. -/
inductive Token where
  /-- Any characters, or none. -/
  | run
  /-- Any one character. -/
  | one
  /-- This character. -/
  | exact (c : Char)
  deriving DecidableEq, Repr

/-- The token of a character that is not escaped. -/
def token (c : Char) : Token := if c = '%' then .run else if c = '_' then .one else .exact c

/-- The tokens of a pattern. -/
def tokens : List Char → List Token
  | [] => []
  | [c] => [token c]
  | c :: d :: rest => if c = escape then .exact d :: tokens rest else token c :: tokens (d :: rest)

/-- Whether a pattern goes on with any characters. -/
def startsWithRun : List Token → Bool
  | .run :: _ => true
  | _ => false

/-- Whether some end of a text passes a test. -/
def someTail (test : List Char → Bool) : List Char → Bool
  | [] => test []
  | c :: rest => test (c :: rest) || someTail test rest

/-- Whether tokens stand for a text. Of several runs in a row one is as good as all. -/
def accepts : List Token → List Char → Bool
  | [], text => text.isEmpty
  | .run :: rest, text =>
    if startsWithRun rest then accepts rest text else someTail (accepts rest) text
  | .one :: rest, text =>
    match text with
    | [] => false
    | _ :: text => accepts rest text
  | .exact c :: rest, text =>
    match text with
    | [] => false
    | t :: text => t == c && accepts rest text

/-- Whether a pattern stands for a text. -/
def matchChars (pattern text : List Char) : Bool := accepts (tokens pattern) text

/-! ## Literals -/

/-- Whether a character has to be escaped to stand for itself. -/
def isSpecial (c : Char) : Bool := c = '%' || c = '_' || c = escape

/-- The pattern that stands for some characters and nothing else. -/
def literal : List Char → List Char
  | [] => []
  | c :: rest => if isSpecial c then escape :: c :: literal rest else c :: literal rest

/-- The pattern that stands for a text and nothing else. -/
def escapeText (text : String) : String := String.ofList (literal text.toList)

end Strata.Like
