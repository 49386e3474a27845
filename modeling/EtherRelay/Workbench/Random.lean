import EtherRelay.Wire.Bytes
/-!
# Random numbers

A generator of 64-bit words that steps its state by a constant and mixes the state with a wide
product. The same seed always gives the same numbers.

A user of random numbers asks a `RandomSource` for them and does not know the generator behind it.

`Random.between` takes the high half of the product of a word and the size of the range; a word
whose product falls into the part that would favour some numbers is drawn again.
-/

namespace EtherRelay.Workbench

/-- Where random numbers come from. -/
class RandomSource (ρ : Type) where
  ofSeed : UInt64 → ρ
  /-- Random bytes. -/
  bytes : ρ → (length : Nat) → Bytes × ρ
  /-- A number from `low` to `high`. -/
  between : ρ → (low high : UInt64) → UInt64 × ρ

/-- The state of a generator. -/
structure Random where
  state : UInt64
  deriving Repr, DecidableEq

namespace Random

def step : UInt64 := 0x2d358dccaa6c78a5

def mixer : UInt64 := 0x8bb84b93962eacc9

/-- The exclusive or of the two halves of a product. -/
def mix (a b : UInt64) : UInt64 :=
  let product := a.toNat * b.toNat
  UInt64.ofNat product ^^^ UInt64.ofNat (product / UInt64.size)

/-- The next word. -/
def next (r : Random) : UInt64 × Random :=
  let state := r.state + step
  (mix state (state ^^^ mixer), ⟨state⟩)

/-- The next `count` words. -/
def words : (count : Nat) → Random → List UInt64 × Random
  | 0, r => ([], r)
  | count + 1, r =>
    let (word, r) := r.next
    let (rest, r) := words count r
    (word :: rest, r)

/-- Random bytes: eight from each word, least significant first, and only as many as needed from
the last one. -/
def bytes (r : Random) (length : Nat) : Bytes × Random :=
  let (words, r) := words ((length + 7) / 8) r
  ((words.flatMap fun w => Wire.littleEndian 8 w.toNat).take length, r)

@[simp] theorem length_words (count : Nat) (r : Random) : (words count r).1.length = count := by
  induction count generalizing r with
  | zero => rfl
  | succ count ih => simp [words, ih]

/-- Draw a number below `size` again while it falls into the uneven part, at most `fuel` times. -/
def below (size : Nat) : (fuel : Nat) → Random → Nat × Random
  | 0, r =>
    let (word, r) := r.next
    (word.toNat * size / UInt64.size, r)
  | fuel + 1, r =>
    let (word, after) := r.next
    let product := word.toNat * size
    if product % UInt64.size < (UInt64.size - size) % size then below size fuel after
    else (product / UInt64.size, after)

/-- A number from `low` to `high`. A draw is repeated with probability below one half, so the
bound on the number of draws is never reached in practice. -/
def between (r : Random) (low high : UInt64) : UInt64 × Random :=
  if high - low = UInt64.ofNat (UInt64.size - 1) then r.next
  else
    let (offset, r) := below ((high - low).toNat + 1) 1000 r
    (low + UInt64.ofNat offset, r)

instance : RandomSource Random where
  ofSeed := Random.mk
  bytes := bytes
  between := between

theorem below_lt {size : Nat} (positive : 0 < size) (fuel : Nat) (r : Random) :
    (below size fuel r).1 < size := by
  have high : ∀ w : UInt64, w.toNat * size / UInt64.size < size := fun w => by
    apply Nat.div_lt_of_lt_mul
    exact Nat.mul_lt_mul_of_pos_right w.toNat_lt positive
  induction fuel generalizing r with
  | zero => exact high _
  | succ fuel ih =>
    simp only [below]
    split
    · exact ih _
    · exact high _

end Random

end EtherRelay.Workbench
