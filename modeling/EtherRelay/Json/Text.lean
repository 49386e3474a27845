import EtherRelay.Json.Reader
import EtherRelay.Text.Hex
/-!
# JSON strings

A string ends at the first quote that no backslash stands before. Its escapes are replaced, and
what results must be UTF-8. Half of a surrogate pair is refused.
-/

namespace EtherRelay.JsonReader

/-- Four hexadecimal digits. -/
def codeUnit : JsonReader Nat := do
  let a ← next
  let b ← next
  let c ← next
  let d ← next
  match Hex.value? a, Hex.value? b, Hex.value? c, Hex.value? d with
  | some a, some b, some c, some d => pure (((a * 16 + b) * 16 + c) * 16 + d)
  | _, _, _, _ => fail .malformed

def isHighSurrogate (n : Nat) : Bool := 0xD800 ≤ n && n ≤ 0xDBFF

def isLowSurrogate (n : Nat) : Bool := 0xDC00 ≤ n && n ≤ 0xDFFF

/-- Pass the given character, which must come next. -/
def follows (c : Char) : JsonReader Unit := do
  match ← peek with
  | none => fail .truncated
  | some d => if c = d then advance else fail .malformed

/-- The character that an escape with four digits stands for, together with the second such
escape if the first is half of a pair. -/
def codePoint : JsonReader Char := do
  let unit ← codeUnit
  if isLowSurrogate unit then fail .malformed
  if !isHighSurrogate unit then pure (Char.ofNat unit)
  else
    follows '\\'
    follows 'u'
    let low ← codeUnit
    if !isLowSurrogate low then fail .malformed
    pure (Char.ofNat (0x10000 + (unit - 0xD800) * 0x400 + (low - 0xDC00)))

/-- The character that a letter after a backslash stands for. -/
def simpleEscape : Char → Option Char
  | '"' => some '"'
  | '\\' => some '\\'
  | '/' => some '/'
  | 'b' => some '\x08'
  | 'f' => some '\x0c'
  | 'n' => some '\n'
  | 'r' => some '\r'
  | 't' => some '\t'
  | _ => none

/-- What follows a backslash, as bytes. -/
def escape : JsonReader Bytes := do
  let letter ← next
  let c ← match simpleEscape letter with
    | some c => pure c
    | none => if letter = 'u' then codePoint else fail .malformed
  pure (String.singleton c).toUTF8.toList

/-- Whether a byte stands for itself inside a string. -/
def isPlain (b : UInt8) : Bool := 0x20 ≤ b && b != 0x22 && b != 0x5c

/-- Take the bytes that stand for themselves. -/
def plain : JsonReader Bytes := do
  let taken := (← get).takeWhile isPlain
  modify (·.drop taken.length)
  pure taken

/-- The bytes up to the closing quote. Every escape takes at least two bytes. -/
def stringBytes : (fuel : Nat) → JsonReader Bytes
  | 0 => fail .truncated
  | fuel + 1 => do
    let front ← plain
    match ← next with
    | '"' => pure front
    | '\\' =>
      let middle ← escape
      let back ← stringBytes fuel
      pure (front ++ middle ++ back)
    | _ => fail .malformed

/-- The string whose opening quote has been passed. -/
def stringRest : JsonReader String := do
  let bytes ← stringBytes ((← get).length + 1)
  match String.fromUTF8? ⟨bytes.toArray⟩ with
  | some text => pure text
  | none => fail .malformed

end EtherRelay.JsonReader
