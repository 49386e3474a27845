import EtherRelay.Telemetry.Address
import EtherRelay.Wire.Bytes
/-!
# Finding receivers

`Endpoint.resolve` finds the endpoint that a text names: an endpoint in the usual notation, or
else a host and a port with the last colon between them. Such a host is a number or an IPv6
address without brackets. Names of hosts are not known here: a text that is formed like one would
have to be asked for, and nobody answers.

The numeric form of an IPv4 address has one to four numbers with dots between them. Each number
but the last stands for one byte, and the last for all the bytes that are left, so `127.1`
is `127.0.0.1`.
-/

namespace EtherRelay.Endpoint

/-- Read a number: hexadecimal behind `0x`, octal behind another zero, and else decimal. -/
def literal (cs : List Char) : Option (Nat × List Char) :=
  let read := fun (radix : Nat) (cs : List Char) => number radix cs.length UInt32.size cs
  match cs with
  | '0' :: mark :: digit :: rest =>
    if (mark = 'x' ∨ mark = 'X') ∧ (digitValue 16 digit).isSome then read 16 (digit :: rest)
    else read 8 cs
  | '0' :: _ => read 8 cs
  | _ => read 10 cs

/-- Read the whole text as the numeric form of the last `count` bytes of an address. -/
def numeric : (count : Nat) → List Char → Option Bytes
  | 0, _ => none
  | count + 1, cs => do
    let (n, rest) ← literal cs
    match rest with
    | [] => if n < Wire.span (count + 1) then some (Wire.bigEndian (count + 1) n) else none
    | '.' :: rest => if n < 256 then (numeric count rest).map (UInt8.ofNat n :: ·) else none
    | _ => none

/-- Read a port, which may have a plus sign. -/
def port? (cs : List Char) : Option Nat :=
  let digits := (expect '+' cs).getD cs
  complete (number 10 digits.length 65536 digits)

/-- Read an address of either kind. -/
def host? (cs : List Char) : Option HostAddress :=
  ((numeric 4 cs).map fun octets => .v4 (octets.map UInt8.toNat)) <|> complete (zoned cs)

/-- Whether a text is formed like the name of a host: labels of at most 63 characters with dots
between them and perhaps one at the end, and no dash in front. -/
def isHostName (cs : List Char) : Bool :=
  let name := if cs.getLast? = some '.' then cs.dropLast else cs
  let isLabel := fun (label : List Char) => 0 < label.length && label.length ≤ 63 &&
    label.all fun c => c.isAlphanum || c == '-' || c == '_'
  name.length ≤ 253 && (name.splitOn '.').all isLabel && name.head? != some '-'

/-- Why there is nobody to send to. -/
inductive ResolveError where
  /-- There is no colon between host and port. -/
  | noPort
  | invalidPort
  /-- The host holds the character zero. -/
  | zeroCharacter
  /-- The host is neither an address nor formed like a name. -/
  | unknownHost
  /-- The host is a name, which nobody is there to look up. -/
  | noAnswer
  /-- There is no address at all. -/
  | noAddress
  deriving Repr, DecidableEq

/-- The text shown for a failure. -/
def ResolveError.message : ResolveError → String
  | .noPort => "invalid socket address"
  | .invalidPort => "invalid port value"
  | .zeroCharacter => "file name contained an unexpected NUL byte"
  | .unknownHost => "failed to lookup address information: Name or service not known"
  | .noAnswer => "failed to lookup address information: Temporary failure in name resolution"
  | .noAddress => "no address to send telemetry to"

/-- The text before and the text behind the last colon. -/
def splitAtPort (text : String) : Option (List Char × List Char) :=
  let reversed := text.toList.reverse
  match reversed.dropWhile (· != ':') with
  | [] => none
  | _ :: host => some (host.reverse, (reversed.takeWhile (· != ':')).reverse)

/-- Find the endpoint that a text names. -/
def resolve (text : String) : Except ResolveError Endpoint :=
  match ofText? text with
  | some e => .ok e
  | none =>
    match splitAtPort text with
    | none => .error .noPort
    | some (host, port) =>
      match port? port with
      | none => .error .invalidPort
      | some port =>
        if host.contains '\x00' then .error .zeroCharacter
        else match host? host with
          | none => .error (if isHostName host then .noAnswer else .unknownHost)
          | some address => .ok ⟨address, port⟩

/-- The first of several endpoints. -/
def first : List Endpoint → Except ResolveError Endpoint
  | [] => .error .noAddress
  | e :: _ => .ok e

end EtherRelay.Endpoint
