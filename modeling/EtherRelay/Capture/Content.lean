import EtherRelay.Capture.Block
/-!
# The content of capture files

A capture is split into its blocks by their lengths. Two captures of the same frames differ only
in the times of their packets, which `withoutTimes` clears.
-/

namespace EtherRelay.Capture

/-- The first block of a file and what follows it; nothing if no whole block is left. -/
def splitBlock (file : Bytes) : Option (Bytes × Bytes) :=
  let length := Wire.ofBigEndian ((file.drop 4).take 4)
  if length < 12 ∨ file.length < length then none
  else some (file.take length, file.drop length)

/-- The blocks of a file, at most `fuel` of them, and what follows them. -/
def splitBlocks : (fuel : Nat) → Bytes → List Bytes × Bytes
  | 0, file => ([], file)
  | fuel + 1, file =>
    match splitBlock file with
    | none => ([], file)
    | some (block, rest) =>
      let (blocks, rest) := splitBlocks fuel rest
      (block :: blocks, rest)

/-- Clear the time of a packet block; the time is behind type, length and interface. -/
def clearTime (block : Bytes) : Bytes :=
  if Wire.ofBigEndian (block.take 4) = 6 ∧ 20 ≤ block.length then
    block.take 12 ++ List.replicate 8 0 ++ block.drop 20
  else block

/-- The file with the times of its whole blocks cleared. -/
def withoutTimes (file : Bytes) : Bytes :=
  let (blocks, rest) := splitBlocks file.length file
  (blocks.map clearTime).flatten ++ rest

end EtherRelay.Capture
