import Strata.Predicate.Sql
import Mathlib.Data.List.Chain

/-!
# Reading SQL as far as its literals go

Someone who knows nothing of SQL but how literals are written reads a text from left to right: a
quote opens a literal, two quotes in a row are one in it, a single one closes it. What is read is
the text outside literals, character by character, and in between the literals with their values.

A quote that may close a literal is decided by the character after it. So fragments are read as they
were meant if fixed texts hold no quotes and no literal follows another directly (`Spaced`). That,
and that parentheses balance, is true of whatever is put together as clauses are (`Clause`), of
which the fragments of a predicate are.
-/

namespace Strata.Sql

/-! ## The reader -/

/-- The character that opens and closes literals. -/
def quote : Char := '\x27'

/-- What is read of a text. -/
inductive Symbol where
  /-- A character outside literals. -/
  | plain (c : Char)
  | literal (value : String)
  deriving DecidableEq, Repr

/-- How far a text has been read. -/
inductive Reader where
  | outside
  /-- Inside a literal, of whose value this much has been read. -/
  | inside (value : List Char)
  /-- After a quote in a literal, which closes it unless there is another. -/
  | atQuote (value : List Char)

/-- What is read of the rest of a text, unless it ends inside a literal. -/
def Reader.read : Reader → List Char → Option (List Symbol)
  | .outside, [] => some []
  | .inside _, [] => none
  | .atQuote value, [] => some [.literal (String.ofList value)]
  | .outside, c :: rest =>
    if c = quote then read (.inside []) rest
    else (read .outside rest).map (.plain c :: ·)
  | .inside value, c :: rest =>
    if c = quote then read (.atQuote value) rest
    else read (.inside (value ++ [c])) rest
  | .atQuote value, c :: rest =>
    if c = quote then read (.inside (value ++ [quote])) rest
    else (read .outside rest).map fun symbols =>
      .literal (String.ofList value) :: .plain c :: symbols

/-- What is read of a text. -/
def readText (text : String) : Option (List Symbol) := Reader.outside.read text.toList

/-- The value of a literal. -/
def Symbol.value? : Symbol → Option String
  | .plain _ => none
  | .literal value => some value

/-- A character outside literals. -/
def Symbol.char? : Symbol → Option Char
  | .plain c => some c
  | .literal _ => none

/-- A symbol regardless of the value of a literal. -/
def Symbol.blank : Symbol → Symbol
  | .plain c => .plain c
  | .literal _ => .literal ""

/-- The literals that were read. -/
def values (symbols : List Symbol) : List String := symbols.filterMap Symbol.value?

/-- The text outside literals. -/
def outside (symbols : List Symbol) : List Char := symbols.filterMap Symbol.char?

/-- What is to be read of a fragment. -/
def Fragment.symbols : Fragment → List Symbol
  | .fixed text => text.toList.map .plain
  | .literal value => [.literal value]

/-- What is to be read of fragments. -/
def symbols (fragments : List Fragment) : List Symbol := fragments.flatMap Fragment.symbols

/-- What is to be read of a fixed text. -/
def word (text : String) : List Symbol := text.toList.map .plain

section

variable {first second fragments : List Fragment} {text value : String} {rest : List Char}

@[simp] theorem symbols_nil : symbols [] = [] := rfl

@[simp] theorem symbols_cons (fragment : Fragment) (fragments : List Fragment) :
    symbols (fragment :: fragments) = fragment.symbols ++ symbols fragments := rfl

@[simp] theorem symbols_append (first second : List Fragment) :
    symbols (first ++ second) = symbols first ++ symbols second := List.flatMap_append

theorem symbols_fixed (text : String) (fragments : List Fragment) :
    symbols (.fixed text :: fragments) = word text ++ symbols fragments := rfl

theorem symbols_literal (value : String) (fragments : List Fragment) :
    symbols (.literal value :: fragments) = .literal value :: symbols fragments := rfl

theorem word_ofList (chars : List Char) : word (String.ofList chars) = chars.map .plain := by
  rw [word, String.toList_ofList]

theorem word_append (first second : String) :
    word (first ++ second) = word first ++ word second := by
  rw [word, String.toList_append, List.map_append]
  rfl

@[simp] theorem values_append (first second : List Symbol) :
    values (first ++ second) = values first ++ values second := List.filterMap_append

@[simp] theorem outside_append (first second : List Symbol) :
    outside (first ++ second) = outside first ++ outside second := List.filterMap_append

@[simp] theorem values_plain (chars : List Char) : values (chars.map .plain) = [] := by
  rw [values, List.filterMap_map]
  exact List.filterMap_eq_nil_iff.2 fun _ _ => rfl

@[simp] theorem outside_plain (chars : List Char) : outside (chars.map .plain) = chars := by
  rw [outside, List.filterMap_map]
  exact List.filterMap_some

@[simp] theorem map_blank_plain (chars : List Char) :
    (chars.map Symbol.plain).map Symbol.blank = chars.map .plain := List.map_map

/-! ## What is written is read -/

theorem read_plain (h : quote ∉ rest) (after : List Char) :
    Reader.outside.read (rest ++ after)
      = (Reader.outside.read after).map (rest.map .plain ++ ·) := by
  induction rest with
  | nil => simp
  | cons c rest ih =>
      obtain ⟨hc, hrest⟩ := List.ne_and_not_mem_of_not_mem_cons h
      rw [List.cons_append, Reader.read, if_neg hc.symm, ih hrest, Option.map_map]
      rfl

theorem read_doubleQuotes (chars before after : List Char) :
    (Reader.inside before).read (doubleQuotes chars ++ quote :: after)
      = (Reader.atQuote (before ++ chars)).read after := by
  induction chars generalizing before with
  | nil => rw [doubleQuotes, List.nil_append, Reader.read, if_pos rfl, List.append_nil]
  | cons c chars ih =>
      rw [doubleQuotes, ← quote]
      by_cases hc : c = quote
      · subst hc
        rw [if_pos rfl, List.cons_append, List.cons_append, Reader.read, if_pos rfl, Reader.read,
          if_pos rfl, ih, List.append_assoc]
        rfl
      · rw [if_neg hc, List.cons_append, Reader.read, if_neg hc, ih, List.append_assoc]
        rfl

theorem read_literal (value : String) (after : List Char) :
    Reader.outside.read ((Fragment.literal value).chars ++ after)
      = (Reader.atQuote value.toList).read after := by
  have hchars : (Fragment.literal value).chars ++ after
      = quote :: (doubleQuotes value.toList ++ quote :: after) := by
    simp [Fragment.chars, quote]
  rw [hchars, Reader.read, if_pos rfl, read_doubleQuotes, List.nil_append]

/-- A quote closes a literal unless another follows. -/
theorem read_atQuote (h : rest.head? ≠ some quote) :
    (Reader.atQuote value.toList).read rest
      = (Reader.outside.read rest).map (.literal value :: ·) := by
  cases rest with
  | nil => simp [Reader.read]
  | cons c rest =>
      have hc : c ≠ quote := fun hc => h (congrArg some hc)
      rw [Reader.read, if_neg hc, Reader.read, if_neg hc, Option.map_map, String.ofList_toList]
      rfl

/-- Whether a text is not empty and holds no quote. -/
def isClean (text : String) : Bool := !text.toList.isEmpty && !text.toList.contains quote

/-- Whether a fragment is a literal. -/
def Fragment.isLiteral : Fragment → Bool
  | .fixed _ => false
  | .literal _ => true

/-- Whether fragments can be told apart in their text: fixed texts hold no quotes, and no literal
follows another directly. -/
structure Spaced (fragments : List Fragment) : Prop where
  clean : ∀ text, .fixed text ∈ fragments → isClean text = true
  apart : fragments.IsChain fun first second => first.isLiteral = false ∨ second.isLiteral = false

theorem isClean_iff : isClean text = true ↔ text.toList ≠ [] ∧ quote ∉ text.toList := by
  simp [isClean]

theorem head?_ne_of_isClean (h : isClean text = true) (after : List Char) :
    (text.toList ++ after).head? ≠ some quote := by
  obtain ⟨hne, hquote⟩ := isClean_iff.1 h
  cases hchars : text.toList with
  | nil => exact absurd hchars hne
  | cons c chars =>
      rw [hchars] at hquote
      simpa using fun hc : c = quote => hquote (hc ▸ List.mem_cons_self)

theorem Spaced.tail {fragment : Fragment} (h : Spaced (fragment :: fragments)) :
    Spaced fragments :=
  ⟨fun text hmem => h.clean text (List.mem_cons_of_mem _ hmem), h.apart.tail⟩

/-- Behind a literal there is no quote. -/
theorem Spaced.head?_ne (h : Spaced (.literal value :: fragments)) :
    (fragments.flatMap Fragment.chars).head? ≠ some quote := by
  match fragments, h with
  | [], _ => exact nofun
  | .fixed text :: more, h =>
      rw [List.flatMap_cons]
      exact head?_ne_of_isClean (h.clean text (by simp)) _
  | .literal other :: more, h =>
      have hapart := (List.isChain_cons_cons.1 h.apart).1
      simp [Fragment.isLiteral] at hapart

theorem read_chars (h : Spaced fragments) :
    Reader.outside.read (fragments.flatMap Fragment.chars) = some (symbols fragments) := by
  induction fragments with
  | nil => rfl
  | cons fragment fragments ih =>
      rw [List.flatMap_cons, symbols_cons]
      cases fragment with
      | fixed text =>
          have hclean := (isClean_iff.1 (h.clean text List.mem_cons_self)).2
          rw [Fragment.chars, read_plain hclean, ih h.tail]
          rfl
      | literal value =>
          rw [read_literal, read_atQuote h.head?_ne, ih h.tail]
          rfl

theorem readText_render (h : Spaced fragments) :
    readText (render fragments) = some (symbols fragments) := by
  rw [readText, render, String.toList_ofList, read_chars h]

end

end Strata.Sql
