import EtherRelay.Wire.Bytes
/-!
# Text from any bytes

Bytes are read as UTF-8. Where they are none, the bytes that begin a character and do not
complete it, or else one byte, count as one replacement character.
-/

namespace EtherRelay.Text

/-- What stands for bytes that are no text. -/
def replacement : Char := Char.ofNat 0xfffd

/-- The bounds of a byte that is not the first of its character. -/
def following : Nat × Nat := (0x80, 0xbf)

/-- The bits that a first byte adds to its character, and the bounds of each byte that follows.
The bounds of the second byte keep out longer forms than needed, surrogates and what is beyond
the last character. -/
def start? (lead : Nat) : Option (Nat × List (Nat × Nat)) :=
  if lead < 0x80 then some (lead, [])
  else if lead < 0xc2 then none
  else if lead < 0xe0 then some (lead - 0xc0, [following])
  else if lead = 0xe0 then some (0, [(0xa0, 0xbf), following])
  else if lead = 0xed then some (0xd, [(0x80, 0x9f), following])
  else if lead < 0xf0 then some (lead - 0xe0, [following, following])
  else if lead = 0xf0 then some (0, [(0x90, 0xbf), following, following])
  else if lead < 0xf4 then some (lead - 0xf0, [following, following, following])
  else if lead = 0xf4 then some (4, [(0x80, 0x8f), following, following])
  else none

/-- Take the bytes that complete a character, as far as they are within their bounds. -/
def complete : List (Nat × Nat) → (value : Nat) → Bytes → Char × Bytes
  | [], value, bytes => (Char.ofNat value, bytes)
  | _ :: _, _, [] => (replacement, [])
  | (low, high) :: bounds, value, b :: rest =>
    if low ≤ b.toNat ∧ b.toNat ≤ high then complete bounds (value * 64 + b.toNat % 64) rest
    else (replacement, b :: rest)

theorem length_complete_le (bounds : List (Nat × Nat)) (value : Nat) (bytes : Bytes) :
    (complete bounds value bytes).2.length ≤ bytes.length := by
  fun_induction complete bounds value bytes with
  | case1 => simp
  | case2 => simp
  | case3 _ _ _ _ _ _ _ ih => simpa using Nat.le_succ_of_le ih
  | case4 => simp

/-- The characters that some bytes stand for. -/
def characters : Bytes → List Char
  | [] => []
  | b :: rest =>
    match start? b.toNat with
    | none => replacement :: characters rest
    | some (value, bounds) =>
      let read := complete bounds value rest
      read.1 :: characters read.2
termination_by bytes => bytes.length
decreasing_by
  · simp
  · exact Nat.lt_succ_of_le (length_complete_le bounds value rest)

/-- The text that some bytes stand for. -/
def ofBytes (bytes : Bytes) : String := String.ofList (characters bytes)

end EtherRelay.Text
