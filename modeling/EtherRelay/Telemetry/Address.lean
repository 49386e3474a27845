import EtherRelay.Text.Hex
/-!
# Addresses of datagram receivers

An endpoint is an IPv4 or IPv6 address with a port. `Endpoint.ofText?` reads the usual
notations, with the zero groups of an IPv6 address left out at one place and an IPv4 address in
place of the last two groups. `Endpoint.text` writes the shortest notation, in which the first
of the longest runs of zero groups is left out.
-/

namespace EtherRelay

/-- An address of a host. -/
inductive HostAddress where
  /-- The four numbers of an IPv4 address. -/
  | v4 (octets : List Nat)
  /-- The eight groups of an IPv6 address and its zone. -/
  | v6 (groups : List Nat) (zone : Nat)
  deriving Repr, DecidableEq

/-- Where datagrams go. -/
structure Endpoint where
  address : HostAddress
  port : Nat
  deriving Repr, DecidableEq

namespace Endpoint

/-! ## Reading -/

/-- The value of a digit, if it is below `radix`. -/
def digitValue (radix : Nat) (c : Char) : Option Nat := (Hex.value? c).filter (· < radix)

/-- Read all the digits at the front as a number of at most `width` digits that is below
`bound`. -/
def number (radix width bound : Nat) (cs : List Char) : Option (Nat × List Char) :=
  let isDigit := fun c => (digitValue radix c).isSome
  let digits := cs.takeWhile isDigit
  let value := (digits.filterMap (digitValue radix)).foldl (fun n d => n * radix + d) 0
  if digits.isEmpty ∨ width < digits.length ∨ bound ≤ value then none
  else some (value, cs.dropWhile isDigit)

/-- Read the given character. -/
def expect (c : Char) : List Char → Option (List Char)
  | [] => none
  | d :: rest => if c = d then some rest else none

/-- One number of an IPv4 address: no zero stands before another digit. -/
def octet (cs : List Char) : Option (Nat × List Char) := do
  let (n, rest) ← number 10 3 256 cs
  if cs.head? = some '0' ∧ (cs.drop 1).length ≠ rest.length then none else pure (n, rest)

def ipv4 (cs : List Char) : Option (List Nat × List Char) := do
  let (a, cs) ← octet cs
  let (b, cs) ← octet (← expect '.' cs)
  let (c, cs) ← octet (← expect '.' cs)
  let (d, cs) ← octet (← expect '.' cs)
  pure ([a, b, c, d], cs)

/-- The two groups that an IPv4 address stands for. -/
def embedded : List Nat → List Nat
  | [a, b, c, d] => [a * 256 + b, c * 256 + d]
  | _ => []

/-- Read at most `limit` groups with colons between them, as many as there are. An IPv4 address
may stand for the last two; whether one did is part of the answer. -/
def groups : (limit : Nat) → (first : Bool) → List Char → List Nat × Bool × List Char
  | 0, _, cs => ([], false, cs)
  | limit + 1, first, cs =>
    match if first then some cs else expect ':' cs with
    | none => ([], false, cs)
    | some inner =>
      match if limit = 0 then none else ipv4 inner with
      | some (octets, rest) => (embedded octets, true, rest)
      | none =>
        match number 16 4 65536 inner with
        | none => ([], false, cs)
        | some (g, rest) =>
          let (more, mixed, rest) := groups limit false rest
          (g :: more, mixed, rest)

def ipv6 (cs : List Char) : Option (List Nat × List Char) :=
  let (front, mixed, rest) := groups 8 true cs
  if front.length = 8 then some (front, rest)
  else if mixed then none
  else do
    let rest ← expect ':' (← expect ':' rest)
    let (back, _, rest) := groups (7 - front.length) true rest
    pure (front ++ List.replicate (8 - front.length - back.length) 0 ++ back, rest)

def portNumber (cs : List Char) : Option (Nat × List Char) := do
  number 10 cs.length 65536 (← expect ':' cs)

def ofIpv4 (cs : List Char) : Option (Endpoint × List Char) := do
  let (octets, cs) ← ipv4 cs
  let (port, cs) ← portNumber cs
  pure (⟨.v4 octets, port⟩, cs)

/-- The zone after a percent sign, or zero. -/
def zone (cs : List Char) : Nat × List Char :=
  ((expect '%' cs).bind fun rest => number 10 rest.length UInt32.size rest).getD (0, cs)

/-- An IPv6 address with its zone. -/
def zoned (cs : List Char) : Option (HostAddress × List Char) := do
  let (groups, cs) ← ipv6 cs
  let (zone, cs) := zone cs
  pure (.v6 groups zone, cs)

def ofIpv6 (cs : List Char) : Option (Endpoint × List Char) := do
  let (address, cs) ← zoned (← expect '[' cs)
  let (port, cs) ← portNumber (← expect ']' cs)
  pure (⟨address, port⟩, cs)

/-- What was read, if nothing is left. -/
def complete {α : Type} : Option (α × List Char) → Option α
  | some (a, []) => some a
  | _ => none

/-- Read `a.b.c.d:port` or `[address%zone]:port`. -/
def ofText? (text : String) : Option Endpoint :=
  complete (ofIpv4 text.toList) <|> complete (ofIpv6 text.toList)

/-! ## Writing -/

def ipv4Text (octets : List Nat) : String :=
  ".".intercalate (octets.map fun n => toString n)

def groupText (group : Nat) : String := String.ofList (Nat.toDigits 16 group)

def groupsText (groups : List Nat) : String := ":".intercalate (groups.map groupText)

/-- The number of zero groups at the front. -/
def zeros (groups : List Nat) : Nat := (groups.takeWhile (· == 0)).length

/-- The first of the longest runs of zero groups, as its place and length. -/
def zeroRun (groups : List Nat) : Nat × Nat :=
  ((List.range groups.length).map fun i => (i, zeros (groups.drop i))).foldl
    (fun best run => if best.2 < run.2 then run else best) (0, 0)

def ipv6Text (groups : List Nat) : String :=
  match groups with
  | [0, 0, 0, 0, 0, 65535, high, low] =>
    "::ffff:" ++ ipv4Text [high / 256, high % 256, low / 256, low % 256]
  | _ =>
    let (start, length) := zeroRun groups
    if length < 2 then groupsText groups
    else groupsText (groups.take start) ++ "::" ++ groupsText (groups.drop (start + length))

def text (e : Endpoint) : String :=
  match e.address with
  | .v4 octets => s!"{ipv4Text octets}:{e.port}"
  | .v6 groups zone =>
    let mark := if zone = 0 then "" else s!"%{zone}"
    s!"[{ipv6Text groups}{mark}]:{e.port}"

end Endpoint

end EtherRelay
