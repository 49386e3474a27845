import EtherRelay.Json.Typed
/-!
# JSON records

A record is read from an object, whose members may stand in any order, or from an array with the
values of its fields in their order. Each `Field` reads one value into the record. A field that
is left out keeps the value that the record starts with, unless it is required.

In an object a name that no field has is passed over with its value, and a field must not come
twice. An array may end early if all the fields that are left may be left out.
-/

namespace EtherRelay

/-- One field of a record of type `σ`. -/
structure Field (σ : Type) where
  name : String
  required : Bool
  read : σ → JsonReader σ

namespace Field

variable {σ α : Type}

/-- A field that must be there. -/
def needed (name : String) (reader : JsonReader α) (set : σ → α → σ) : Field σ :=
  ⟨name, true, fun record => do pure (set record (← reader))⟩

/-- A field that may be left out. -/
def usual (name : String) (reader : JsonReader α) (set : σ → α → σ) : Field σ :=
  ⟨name, false, fun record => do pure (set record (← reader))⟩

end Field

namespace JsonReader

variable {σ : Type}

/-- Take the name of the next member of an object, if there is one. -/
def nextName (first : Bool) : JsonReader (Option String) := do
  let opening := fun (c : Char) => (do
    if c = '"' then
      advance
      pure (some (← stringRest))
    else fail .malformed : JsonReader (Option String))
  match ← token with
  | '}' => pure none
  | ',' =>
    if first then fail .malformed
    else
      advance
      opening (← token)
  | c => if first then opening c else fail .malformed

/-- The first required field that is not among those seen. -/
def missing (fields : List (Field σ)) (seen : List String) : Option (Field σ) :=
  fields.find? fun f => f.required && !seen.contains f.name

/-- The members of an object from here on. -/
def membersFrom (fields : List (Field σ)) : (fuel : Nat) → (seen : List String) →
    (first : Bool) → σ → JsonReader σ
  | 0, _, _, _ => fail .truncated
  | fuel + 1, seen, first, record => do
    match ← nextName first with
    | none =>
      match missing fields seen with
      | some f => fail (.unfit s!"missing field `{f.name}`")
      | none => pure record
    | some name =>
      match fields.find? (·.name == name) with
      | none =>
        expect ':'
        skip
        membersFrom fields fuel seen false record
      | some f =>
        if seen.contains name then fail (.unfit s!"duplicate field `{name}`")
        else
          expect ':'
          let record ← f.read record
          membersFrom fields fuel (name :: seen) false record

/-- The number of elements in the words of messages. -/
def countText (n : Nat) : String := if n = 1 then "1 element" else s!"{n} elements"

/-- The values of the fields from an array. A required field that is left out is reported with
the number of fields before it, whether these were left out or not. -/
def valuesFrom (expected : String) (count : Nat) : List (Field σ) → (place : Nat) → σ →
    JsonReader σ
  | [], _, record => pure record
  | f :: rest, place, record => do
    if ← nextItem (place == 0) then
      let record ← f.read record
      valuesFrom expected count rest (place + 1) record
    else if f.required then
      fail (.unfit
        s!"invalid length {place}, expected {expected} with {countText count}")
    else valuesFrom expected count rest (place + 1) record

/-- Read a record that starts as `start`; `expected` is what messages call it. -/
def record (expected : String) (start : σ) (fields : List (Field σ)) : JsonReader σ := do
  match ← token with
  | '{' =>
    advance
    let r ← membersFrom fields ((← get).length + 1) [] true start
    expect '}'
    pure r
  | '[' =>
    advance
    let r ← valuesFrom expected fields.length fields 0 start
    arrayEnd fields.length
    pure r
  | _ => refuse expected

end JsonReader

end EtherRelay
