import EtherRelay.Json.Text
/-!
# Passing over JSON values

A value that nobody wants is passed over. Its brackets, commas, colons and names must be in
order, but its strings need not be UTF-8 and may hold half a surrogate pair, and its numbers
may be of any size. Values may be nested to any depth.
-/

namespace EtherRelay.JsonReader

/-- Pass the exponent of a number from its letter on. -/
def skipExponent : JsonReader Unit := do
  advance
  let sign ← peek
  if sign = some '+' ∨ sign = some '-' then advance
  if (← digits).isEmpty then fail .malformed

/-- Pass a number after its sign. -/
def skipNumber : JsonReader Unit := do
  let whole ← digits
  if whole.isEmpty ∨ (whole.head? = some '0' ∧ whole.length ≠ 1) then fail .malformed
  if (← peek) = some '.' then
    advance
    if (← digits).isEmpty then fail .malformed
  match ← peek with
  | some 'e' | some 'E' => skipExponent
  | _ => pure ()

/-- Pass a string whose opening quote has been passed. -/
def skipString : (fuel : Nat) → JsonReader Unit
  | 0 => fail .truncated
  | fuel + 1 => do
    let _ ← plain
    match ← next with
    | '"' => pure ()
    | '\\' =>
      let letter ← next
      if (simpleEscape letter).isSome then skipString fuel
      else if letter = 'u' then
        let _ ← codeUnit
        skipString fuel
      else fail .malformed
    | _ => fail .malformed

/-- Pass a string whose opening quote has been passed. -/
def skipStringRest : JsonReader Unit := do
  skipString ((← get).length + 1)

/-- What a place in the text lies in. -/
inductive Enclosure where
  | array
  | object
  deriving Repr, DecidableEq

def Enclosure.closing : Enclosure → Char
  | .array => ']'
  | .object => '}'

/-- Pass a value that is neither array nor object, or the opening bracket of one that is. -/
def skipHead : JsonReader (Option Enclosure) := do
  let c ← token
  if c.isDigit then
    skipNumber
    pure none
  else
    advance
    match c with
    | 'n' =>
      letters ['u', 'l', 'l']
      pure none
    | 't' =>
      letters ['r', 'u', 'e']
      pure none
    | 'f' =>
      letters ['a', 'l', 's', 'e']
      pure none
    | '-' =>
      skipNumber
      pure none
    | '"' =>
      skipStringRest
      pure none
    | '[' => pure (some .array)
    | '{' => pure (some .object)
    | _ => fail .malformed

/-- Pass the name and the colon of a member. -/
def skipName : JsonReader Unit := do
  expect '"'
  skipStringRest
  expect ':'

/-- Pass closing brackets as long as they come, and then the comma and the name that stand
before the next value. The answer is what that value lies in; nothing if all is closed.
`comma` says whether a value came before. -/
def skipTail : (comma : Bool) → List Enclosure → JsonReader (List Enclosure)
  | _, [] => pure []
  | comma, inner :: outer => do
    let c ← token
    if c = ',' ∧ comma then
      advance
      if inner = .object then skipName
      pure (inner :: outer)
    else if c = inner.closing then
      advance
      skipTail true outer
    else if comma then fail .malformed
    else
      if inner = .object then skipName
      pure (inner :: outer)

/-- Pass a value and what is left of the arrays and objects that it lies in. Every value takes at
least one byte. -/
def skipAll : (fuel : Nat) → List Enclosure → JsonReader Unit
  | 0, _ => fail .truncated
  | fuel + 1, outer => do
    let rest ← match ← skipHead with
      | none => skipTail true outer
      | some inner => skipTail false (inner :: outer)
    if rest.isEmpty then pure () else skipAll fuel rest

/-- Pass a value. -/
def skip : JsonReader Unit := do
  skipAll ((← get).length + 1) []

end EtherRelay.JsonReader
