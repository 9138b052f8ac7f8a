import Strata.Json.Value

/-!
# Tokens

The words of JSON text: punctuation, literals, numbers and strings. `Token.spell` writes one.
`Lexeme.step` recognises them a character at a time; the state between two characters is the lexeme
that has been read so far.

A string is kept as it was escaped until its end, because an escape may name half of a character
that only the next escape completes.
-/

namespace Strata

/-- A word of JSON text. A string is absent from its token when its escapes name no characters;
`bad` stands for text that is no word. -/
inductive Token where
  | beginArray
  | endArray
  | beginObject
  | endObject
  | comma
  | colon
  | null
  | bool (value : Bool)
  | num (value : Numeral)
  | str (value : Option String)
  | bad
  deriving DecidableEq, Repr

/-! ## Strings -/

/-- A piece of a string: a character, or a code unit of sixteen bits named by an escape. -/
inductive Piece where
  | char (c : Char)
  | unit (code : Nat)
  deriving DecidableEq, Repr

/-- The characters that pieces stand for. Two units of the surrogate range stand for one character
together, and for none apart. -/
def joinPieces : List Piece → Option (List Char)
  | [] => some []
  | .char c :: rest => (c :: ·) <$> joinPieces rest
  | .unit code :: rest =>
    if code < 0xd800 ∨ 0xdfff < code then (Char.ofNat code :: ·) <$> joinPieces rest
    else match rest with
      | .unit low :: rest =>
        if code < 0xdc00 ∧ 0xdc00 ≤ low ∧ low ≤ 0xdfff then
          (Char.ofNat (0x10000 + (code - 0xd800) * 0x400 + (low - 0xdc00)) :: ·) <$> joinPieces rest
        else none
      | _ => none

/-- The character that a one-letter escape names. -/
def escaped? (c : Char) : Option Char :=
  if c = '\x22' ∨ c = '\\' ∨ c = '/' then some c
  else if c = 'b' then some '\x08'
  else if c = 'f' then some '\x0c'
  else if c = 'n' then some '\n'
  else if c = 'r' then some '\r'
  else if c = 't' then some '\t'
  else none

/-- The value of a hexadecimal digit. -/
def hexDigit? (c : Char) : Option Nat :=
  if '0' ≤ c ∧ c ≤ '9' then some (c.toNat - 48)
  else if 'a' ≤ c ∧ c ≤ 'f' then some (c.toNat - 87)
  else if 'A' ≤ c ∧ c ≤ 'F' then some (c.toNat - 55)
  else none

/-- The hexadecimal digit of a value below sixteen. -/
def hexChar (n : Nat) : Char := if n < 10 then Char.ofNat (48 + n) else Char.ofNat (87 + n)

/-- The spelling of a character inside a string: quotes, backslashes and controls are escaped. -/
def escapeChar (c : Char) : List Char :=
  if c = '\x22' then ['\\', '\x22']
  else if c = '\\' then ['\\', '\\']
  else if c = '\x08' then ['\\', 'b']
  else if c = '\x0c' then ['\\', 'f']
  else if c = '\n' then ['\\', 'n']
  else if c = '\r' then ['\\', 'r']
  else if c = '\t' then ['\\', 't']
  else if c.val < 0x20 then
    ['\\', 'u', '0', '0', hexChar (c.toNat / 16), hexChar (c.toNat % 16)]
  else [c]

/-! ## Writing -/

/-- The digits of a natural number. -/
def spellNat (n : Nat) : List Char := Nat.toDigits 10 n

/-- The digits of an integer after its sign, if it is negative. -/
def spellInt (i : Int) : List Char :=
  (if i < 0 then ['-'] else []) ++ spellNat i.natAbs

/-- The text of a numeral. -/
def Numeral.spell (n : Numeral) : List Char :=
  (if n.negative then ['-'] else []) ++ spellNat n.whole
    ++ (if n.fraction.isEmpty then [] else '.' :: n.fraction.map fun d => Char.ofNat (48 + d))
    ++ (match n.exponent with | none => [] | some e => 'e' :: spellInt e)

/-- The text of a string. -/
def spellStr (s : String) : List Char := '\x22' :: s.toList.flatMap escapeChar ++ ['\x22']

/-- The text of a token. -/
def Token.spell : Token → List Char
  | .beginArray => ['[']
  | .endArray => [']']
  | .beginObject => ['\x7b']
  | .endObject => ['\x7d']
  | .comma => [',']
  | .colon => [':']
  | .null => ['n', 'u', 'l', 'l']
  | .bool true => ['t', 'r', 'u', 'e']
  | .bool false => ['f', 'a', 'l', 's', 'e']
  | .num n => n.spell
  | .str (some s) => spellStr s
  | .str none => []
  | .bad => []

mutual

/-- The tokens of a value, without blanks between them. -/
def Json.tokens : Json → List Token
  | .null => [.null]
  | .bool b => [.bool b]
  | .num n => [.num n]
  | .str s => [.str (some s)]
  | .arr items => .beginArray :: Json.tokensItems items ++ [.endArray]
  | .obj members => .beginObject :: Json.tokensMembers members ++ [.endObject]

/-- The tokens of items, with commas between them. -/
def Json.tokensItems : List Json → List Token
  | [] => []
  | item :: rest => item.tokens ++ Json.tokensMoreItems rest

/-- The tokens of items that follow another. -/
def Json.tokensMoreItems : List Json → List Token
  | [] => []
  | item :: rest => .comma :: item.tokens ++ Json.tokensMoreItems rest

/-- The tokens of members, with commas between them. -/
def Json.tokensMembers : List (String × Json) → List Token
  | [] => []
  | (name, value) :: rest =>
    .str (some name) :: .colon :: value.tokens ++ Json.tokensMoreMembers rest

/-- The tokens of members that follow another. -/
def Json.tokensMoreMembers : List (String × Json) → List Token
  | [] => []
  | (name, value) :: rest =>
    .comma :: .str (some name) :: .colon :: value.tokens ++ Json.tokensMoreMembers rest

end

/-- The compact text of a value. -/
def Json.render (value : Json) : String := String.ofList (value.tokens.flatMap Token.spell)

/-! ## Recognising -/

/-- What has been read of the token at hand. -/
inductive Lexeme where
  /-- Nothing yet. -/
  | blank
  /-- A literal of which these letters are still to come. -/
  | word (letters : List Char) (token : Token)
  /-- A string, its pieces so far from the last to the first. -/
  | text (pieces : List Piece)
  /-- A string after a backslash. -/
  | escape (pieces : List Piece)
  /-- A string in an escape of four hexadecimal digits, of which some are missing. -/
  | hex (pieces : List Piece) (code missing : Nat)
  /-- A minus sign. -/
  | minus
  /-- A whole part that may take another digit. -/
  | whole (negative : Bool) (value : Nat)
  /-- A whole part that is zero, and may not. -/
  | zero (negative : Bool)
  /-- A whole part and a point. -/
  | point (negative : Bool) (value : Nat)
  /-- A numeral with digits after the point, the last one first. -/
  | fraction (negative : Bool) (value : Nat) (places : List Nat)
  /-- A numeral and the letter of an exponent. -/
  | mark (n : Numeral)
  /-- A numeral, the letter of an exponent and its sign. -/
  | sign (n : Numeral) (negative : Bool)
  /-- A numeral with an exponent. -/
  | exponent (n : Numeral) (negative : Bool) (value : Nat)
  deriving DecidableEq, Repr

namespace Lexeme

/-- The value of a decimal digit. -/
def digit? (c : Char) : Option Nat := if '0' ≤ c ∧ c ≤ '9' then some (c.toNat - 48) else none

/-- The blanks of JSON. -/
def isBlank (c : Char) : Bool := c = ' ' || c = '\n' || c = '\t' || c = '\r'

/-- The start of a token: the tokens it completes at once and the lexeme it opens. -/
def start (c : Char) : List Token × Lexeme :=
  if isBlank c then ([], .blank)
  else if c = '[' then ([.beginArray], .blank)
  else if c = ']' then ([.endArray], .blank)
  else if c = '\x7b' then ([.beginObject], .blank)
  else if c = '\x7d' then ([.endObject], .blank)
  else if c = ',' then ([.comma], .blank)
  else if c = ':' then ([.colon], .blank)
  else if c = '\x22' then ([], .text [])
  else if c = 'n' then ([], .word ['u', 'l', 'l'] .null)
  else if c = 't' then ([], .word ['r', 'u', 'e'] (.bool true))
  else if c = 'f' then ([], .word ['a', 'l', 's', 'e'] (.bool false))
  else if c = '-' then ([], .minus)
  else if c = '0' then ([], .zero false)
  else match digit? c with
    | some d => ([], .whole false d)
    | none => ([.bad], .blank)

/-- The numeral of an exponent that was read. -/
def withExponent (n : Numeral) (negative : Bool) (value : Nat) : Numeral :=
  { n with exponent := some (if negative then -(value : Int) else value) }

/-- The number that ends before a character that is not part of it. -/
def endNumber (n : Numeral) (c : Char) : List Token × Lexeme :=
  let (tokens, next) := start c
  (.num n :: tokens, next)

/-- One more character: the tokens it completes and the lexeme that is open after it. -/
def step (lexeme : Lexeme) (c : Char) : List Token × Lexeme :=
  match lexeme with
  | .blank => start c
  | .word letters token =>
    match letters with
    | [] => ([.bad], .blank)
    | letter :: rest =>
      if c = letter then
        if rest.isEmpty then ([token], .blank) else ([], .word rest token)
      else ([.bad], .blank)
  | .text pieces =>
    if c = '\x22' then ([.str ((joinPieces pieces.reverse).map String.ofList)], .blank)
    else if c = '\\' then ([], .escape pieces)
    else if c.val < 0x20 then ([.bad], .blank)
    else ([], .text (.char c :: pieces))
  | .escape pieces =>
    if c = 'u' then ([], .hex pieces 0 4)
    else match escaped? c with
      | some d => ([], .text (.char d :: pieces))
      | none => ([.bad], .blank)
  | .hex pieces code missing =>
    match hexDigit? c with
    | none => ([.bad], .blank)
    | some d =>
      if missing ≤ 1 then ([], .text (.unit (code * 16 + d) :: pieces))
      else ([], .hex pieces (code * 16 + d) (missing - 1))
  | .minus =>
    if c = '0' then ([], .zero true)
    else match digit? c with
      | some d => ([], .whole true d)
      | none => ([.bad], .blank)
  | .zero negative =>
    if c = '.' then ([], .point negative 0)
    else if c = 'e' ∨ c = 'E' then ([], .mark { negative, whole := 0 })
    else if (digit? c).isSome then ([.bad], .blank)
    else endNumber { negative, whole := 0 } c
  | .whole negative value =>
    if c = '.' then ([], .point negative value)
    else if c = 'e' ∨ c = 'E' then ([], .mark { negative, whole := value })
    else match digit? c with
      | some d => ([], .whole negative (value * 10 + d))
      | none => endNumber { negative, whole := value } c
  | .point negative value =>
    match digit? c with
    | some d => ([], .fraction negative value [d])
    | none => ([.bad], .blank)
  | .fraction negative value places =>
    let n : Numeral := { negative, whole := value, fraction := places.reverse }
    if c = 'e' ∨ c = 'E' then ([], .mark n)
    else match digit? c with
      | some d => ([], .fraction negative value (d :: places))
      | none => endNumber n c
  | .mark n =>
    if c = '+' then ([], .sign n false)
    else if c = '-' then ([], .sign n true)
    else match digit? c with
      | some d => ([], .exponent n false d)
      | none => ([.bad], .blank)
  | .sign n negative =>
    match digit? c with
    | some d => ([], .exponent n negative d)
    | none => ([.bad], .blank)
  | .exponent n negative value =>
    match digit? c with
    | some d => ([], .exponent n negative (value * 10 + d))
    | none => endNumber (withExponent n negative value) c

/-- The tokens that the end of the text completes. -/
def finish : Lexeme → List Token
  | .blank => []
  | .zero negative => [.num { negative, whole := 0 }]
  | .whole negative value => [.num { negative, whole := value }]
  | .fraction negative value places =>
    [.num { negative, whole := value, fraction := places.reverse }]
  | .exponent n negative value => [.num (withExponent n negative value)]
  | _ => [.bad]

end Lexeme

end Strata
