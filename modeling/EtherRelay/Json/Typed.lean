import EtherRelay.Json.Number
import EtherRelay.Json.Skip
import EtherRelay.Text.Quoted
/-!
# JSON values of a wanted type

Each reader here takes one value of the type that is wanted at its place, and says of any other
value what it is and what was wanted. The other value itself must still be well formed, except
that of an array or an object only the opening bracket is looked at.
-/

namespace EtherRelay.JsonReader

/-- What the value at this place is, in the words of messages. -/
def describe : JsonReader String := do
  let c ← token
  if c.isDigit then
    pure (← number false).text
  else
    match c with
    | 'n' =>
      letters ['n', 'u', 'l', 'l']
      pure "null"
    | 't' =>
      letters ['t', 'r', 'u', 'e']
      pure "boolean `true`"
    | 'f' =>
      letters ['f', 'a', 'l', 's', 'e']
      pure "boolean `false`"
    | '-' =>
      advance
      pure (← number true).text
    | '"' =>
      advance
      let text ← stringRest
      pure ("string " ++ Text.quote text)
    | '[' => pure "sequence"
    | '{' => pure "map"
    | _ => fail .malformed

/-- Refuse the value at this place for its kind. -/
def refuse {α : Type} (expected : String) : JsonReader α := do
  let found ← describe
  fail (.unfit s!"invalid type: {found}, expected {expected}")

/-- A natural number below `bound`; `kind` is the name of its type. -/
def natural (kind : String) (bound : Nat) : JsonReader Nat := do
  let c ← token
  if c.isDigit ∨ c = '-' then
    if c = '-' then advance
    let found ← number (c == '-')
    match found with
    | .natural n =>
      if n < bound then pure n
      else fail (.unfit s!"invalid value: {found.text}, expected {kind}")
    | .negative _ => fail (.unfit s!"invalid value: {found.text}, expected {kind}")
    | .double .. => fail (.unfit s!"invalid type: {found.text}, expected {kind}")
  else refuse kind

def byte : JsonReader UInt8 := do pure (UInt8.ofNat (← natural "u8" UInt8.size))

def word16 : JsonReader UInt16 := do pure (UInt16.ofNat (← natural "u16" UInt16.size))

def word64 : JsonReader UInt64 := do pure (UInt64.ofNat (← natural "u64" UInt64.size))

/-- A number of things in memory. -/
def size : JsonReader Nat := natural "usize" UInt64.size

def boolean : JsonReader Bool := do
  match ← token with
  | 't' =>
    letters ['t', 'r', 'u', 'e']
    pure true
  | 'f' =>
    letters ['f', 'a', 'l', 's', 'e']
    pure false
  | _ => refuse "a boolean"

def string : JsonReader String := do
  if (← token) = '"' then
    advance
    stringRest
  else refuse "a string"

/-- A value or `null`. -/
def optional {α : Type} (reader : JsonReader α) : JsonReader (Option α) := do
  if (← token) = 'n' then
    letters ['n', 'u', 'l', 'l']
    pure none
  else
    pure (some (← reader))

/-- An array with any number of items. -/
def list {α : Type} (item : JsonReader α) : JsonReader (List α) := do
  if (← token) = '[' then
    advance
    items item
  else refuse "a sequence"

/-- The number of items from here to the end of an array, as far as they are well formed. -/
def countFrom : (fuel : Nat) → Bytes → Nat
  | 0, _ => 0
  | fuel + 1, text =>
    match StateT.run (do if ← nextItem false then skip else fail .malformed) text with
    | .ok (_, rest) => countFrom fuel rest + 1
    | .error _ => 0

/-- The end of an array of which `taken` items have been read. -/
def arrayEnd (taken : Nat) : JsonReader Unit := do
  match ← token with
  | ']' => advance
  | ',' =>
    let text ← get
    fail (.surplus (taken + countFrom text.length text))
  | _ => fail .malformed

/-- An array with exactly two items. -/
def pair {α : Type} (item : JsonReader α) : JsonReader (α × α) := do
  let short := fun (n : Nat) =>
    (fail (.unfit s!"invalid length {n}, expected an array of length 2") : JsonReader (α × α))
  if (← token) ≠ '[' then refuse "an array of length 2"
  else
    advance
    if ← nextItem true then
      let a ← item
      if ← nextItem false then
        let b ← item
        arrayEnd 2
        pure (a, b)
      else short 1
    else short 0

/-- One of several names, which must be a string. `names` are those that are known, with what each
stands for. -/
def variant {α : Type} (names : List (String × α)) : JsonReader α := do
  expect '"'
  let name ← stringRest
  match names.lookup name with
  | some a => pure a
  | none =>
    let known := " or ".intercalate (names.map fun (known, _) => s!"`{known}`")
    fail (.unfit s!"unknown variant `{name}`, expected {known}")

/-- A choice among named alternatives: a name alone, or an object with the name and a content as
its only member. `alone` and `content` say what becomes of each alternative. -/
def choice {α β : Type} (names : List (String × α)) (alone content : α → JsonReader β) :
    JsonReader β := do
  match ← token with
  | '"' => alone (← variant names)
  | '{' =>
    advance
    let a ← variant names
    expect ':'
    let b ← content a
    expect '}'
    pure b
  | _ => fail .malformed

/-- The content of an alternative that has none. -/
def nothing : JsonReader Unit := do
  if (← token) = 'n' then letters ['n', 'u', 'l', 'l'] else refuse "unit"

end EtherRelay.JsonReader
