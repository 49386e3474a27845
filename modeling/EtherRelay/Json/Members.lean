import EtherRelay.Json.Record
/-!
# The members of an object

The members of an object as a table that is ordered by name. Of members with the same name the
last one counts. Their values stay text, so a number keeps the form in which it was written.
-/

namespace EtherRelay

/-- A member of an object. -/
structure JsonMember where
  name : String
  /-- The text of its value. -/
  value : Bytes
  deriving Repr, DecidableEq

namespace JsonReader

/-- The text of the value at this place. -/
def valueText : JsonReader Bytes := do
  let _ ← peekToken
  let before ← get
  skip
  pure (before.take (before.length - (← get).length))

/-- The members of an object from here on. -/
def entriesFrom : (fuel : Nat) → (first : Bool) → JsonReader (List JsonMember)
  | 0, _ => fail .truncated
  | fuel + 1, first => do
    match ← nextName first with
    | none => pure []
    | some name =>
      expect ':'
      let value ← valueText
      pure (⟨name, value⟩ :: (← entriesFrom fuel false))

end JsonReader

namespace JsonMember

/-- The members by name, the last one of each name. -/
def table (members : List JsonMember) : List JsonMember :=
  let last := members.foldr (fun m later =>
    if later.any (·.name == m.name) then later else m :: later) []
  last.mergeSort fun a b => a.name ≤ b.name

/-- A character inside of a string. -/
def escaped (c : Char) : List Char :=
  if c = '"' ∨ c = '\\' then ['\\', c]
  else if c.toNat < 0x20 then ['\\', 'u', '0', '0'] ++ (Hex.ofNat 2 c.toNat).toList
  else [c]

/-- A member as JSON text. -/
def text (m : JsonMember) : Bytes :=
  (String.ofList (['"'] ++ m.name.toList.flatMap escaped ++ ['"', ':'])).toUTF8.toList ++ m.value

end JsonMember

namespace JsonReader

/-- The table of the members of an object. -/
def members : JsonReader (List JsonMember) := do
  expect '\x7b'
  let all ← entriesFrom ((← get).length + 1) true
  expect '\x7d'
  pure (JsonMember.table all)

end JsonReader

namespace JsonMember

/-- The object with some members, as JSON text. -/
def object (members : List JsonMember) : Bytes :=
  [0x7b] ++ [0x2c].intercalate (members.map text) ++ [0x7d]

/-- An object with its members in the order of the table; any other text stays as it is. -/
def ordered (text : Bytes) : Bytes :=
  match JsonReader.members.run text with
  | .ok members => object members
  | .error _ => text

end JsonMember

end EtherRelay
