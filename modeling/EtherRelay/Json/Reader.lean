import EtherRelay.Wire.Bytes
/-!
# Reading JSON text

A reader takes what it wants from the front of the text and leaves the rest. No tree is built:
each value is read as the type that is wanted at its place. This module holds the reader itself,
the ways in which reading fails, and the tokens that stand between values.

`list` and the readers of records follow the commas of a text; no comma may stand before a
closing bracket.
-/

namespace EtherRelay

/-- Why a text does not give a value. -/
inductive JsonError where
  /-- The text breaks the rules of JSON. -/
  | malformed
  /-- The text ends too early. -/
  | truncated
  /-- A value is not what is wanted at its place. -/
  | unfit (message : String)
  /-- An array has more items, so many in total, than are wanted. -/
  | surplus (length : Nat)
  deriving Repr, DecidableEq

/-- A step through JSON text. -/
abbrev JsonReader := StateT Bytes (Except JsonError)

namespace JsonReader

def fail {α : Type} (e : JsonError) : JsonReader α := throw e

/-- The next character, if there is one. Bytes beyond ASCII count as characters of their own. -/
def peek : JsonReader (Option Char) := do
  pure ((← get).head?.map fun b => Char.ofNat b.toNat)

/-- Pass the next byte. -/
def advance : JsonReader Unit := modify (·.drop 1)

/-- Take the next character. -/
def next : JsonReader Char := do
  match ← peek with
  | none => fail .truncated
  | some c =>
    advance
    pure c

/-- Whether a byte may stand between tokens. -/
def isBlank (b : UInt8) : Bool := b == 0x20 || b == 0x0a || b == 0x0d || b == 0x09

/-- Pass the blanks, and look at the character that follows. -/
def peekToken : JsonReader (Option Char) := do
  modify (·.dropWhile isBlank)
  peek

/-- Pass the blanks, and look at the character that must follow. -/
def token : JsonReader Char := do
  match ← peekToken with
  | none => fail .truncated
  | some c => pure c

/-- Pass the blanks and the given character. -/
def expect (c : Char) : JsonReader Unit := do
  if (← token) = c then advance else fail .malformed

/-- Pass the given characters. -/
def letters : List Char → JsonReader Unit
  | [] => pure ()
  | c :: rest => do
    if (← next) = c then letters rest else fail .malformed

/-- Take digits as long as they last. -/
def digits : JsonReader (List Char) := do
  let text := (← get).takeWhile fun b => (Char.ofNat b.toNat).isDigit
  modify (·.drop text.length)
  pure (text.map fun b => Char.ofNat b.toNat)

/-- The value of a digit. -/
def digitValue (c : Char) : Nat := c.toNat - '0'.toNat

/-- Go to the next item of an array, if there is one. -/
def nextItem (first : Bool) : JsonReader Bool := do
  match ← token with
  | ']' => pure false
  | ',' =>
    if first then pure true
    else
      advance
      if (← peekToken) = some ']' then fail .malformed else pure true
  | _ => if first then pure true else fail .malformed

/-- The items of an array from here on. -/
def itemsFrom {α : Type} (item : JsonReader α) : (fuel : Nat) → (first : Bool) →
    JsonReader (List α)
  | 0, _ => fail .truncated
  | fuel + 1, first => do
    if ← nextItem first then
      let a ← item
      let rest ← itemsFrom item fuel false
      pure (a :: rest)
    else pure []

/-- All the items of an array whose opening bracket has been passed, and its end. Every item
takes at least one byte, so the length of the text bounds their number. -/
def items {α : Type} (item : JsonReader α) : JsonReader (List α) := do
  let all ← itemsFrom item ((← get).length + 1) true
  expect ']'
  pure all

/-- Read the whole text. -/
def run {α : Type} (reader : JsonReader α) (text : Bytes) : Except JsonError α := do
  let (a, rest) ← StateT.run reader text
  if (rest.dropWhile isBlank).isEmpty then pure a else throw .malformed

end JsonReader

end EtherRelay
