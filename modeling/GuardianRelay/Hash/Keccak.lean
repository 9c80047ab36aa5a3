import GuardianRelay.Bytes

/-!
# Keccak-256

The sponge with the permutation of 25 lanes of 64 bits, a rate of 136 octets and a padding of which
the first octet is 1. Lane `x + 5 * y` stands in column `x` and row `y`.
-/

namespace GuardianRelay.Keccak

/-- The lanes of the sponge. -/
abbrev State := Vector UInt64 25

/-- The lane in a column and a row, both counted modulo five. -/
def State.lane (s : State) (x y : Nat) : UInt64 :=
  s.get ⟨x % 5 + 5 * (y % 5), by omega⟩

/-- The state whose lane in column `x` and row `y` is `f x y`. -/
def State.ofLanes (f : Nat → Nat → UInt64) : State :=
  Vector.ofFn fun i => f (i.val % 5) (i.val / 5)

/-- A lane turned left by `n` bits. -/
def rotl (w n : UInt64) : UInt64 := (w <<< n) ||| (w >>> (64 - n))

/-- By how many bits each lane is turned. -/
def rotations : List UInt64 :=
  [0, 1, 62, 28, 27, 36, 44, 6, 55, 20, 3, 10, 43, 25, 39, 41, 45, 15, 21, 8, 18, 2, 61, 56, 14]

/-- One constant per round. -/
def roundConstants : List UInt64 :=
  [ 0x0000000000000001, 0x0000000000008082, 0x800000000000808a, 0x8000000080008000,
    0x000000000000808b, 0x0000000080000001, 0x8000000080008081, 0x8000000000008009,
    0x000000000000008a, 0x0000000000000088, 0x0000000080008009, 0x000000008000000a,
    0x000000008000808b, 0x800000000000008b, 0x8000000000008089, 0x8000000000008003,
    0x8000000000008002, 0x8000000000000080, 0x000000000000800a, 0x800000008000000a,
    0x8000000080008081, 0x8000000000008080, 0x0000000080000001, 0x8000000080008008 ]

/-- Adds to each lane the parities of the two neighbouring columns. -/
def State.diffuse (s : State) : State :=
  let parity : Vector UInt64 5 := Vector.ofFn fun x =>
    s.lane x 0 ^^^ s.lane x 1 ^^^ s.lane x 2 ^^^ s.lane x 3 ^^^ s.lane x 4
  let effect : Vector UInt64 5 := Vector.ofFn fun x =>
    parity.get ⟨(x.val + 4) % 5, by omega⟩ ^^^ rotl (parity.get ⟨(x.val + 1) % 5, by omega⟩) 1
  State.ofLanes fun x y => s.lane x y ^^^ effect.get ⟨x % 5, by omega⟩

/-- Turns each lane, and moves the lane at `x, y` to `y, 2 * x + 3 * y`. -/
def State.disperse (s : State) : State :=
  let turned : State := Vector.ofFn fun i => rotl s[i] (rotations.getD i.val 0)
  State.ofLanes fun x y => turned.lane (x + 3 * y) x

/-- Combines each lane with the next two in its row. -/
def State.mix (s : State) : State :=
  State.ofLanes fun x y => s.lane x y ^^^ (~~~ s.lane (x + 1) y &&& s.lane (x + 2) y)

/-- One round of the permutation. -/
def State.round (s : State) (constant : UInt64) : State :=
  let t := s.diffuse.disperse.mix
  t.set 0 (t[0] ^^^ constant)

/-- The permutation. -/
def State.permute (s : State) : State := roundConstants.foldl State.round s

/-- Octets absorbed by each permutation. -/
def rate : Nat := 136

/-- Adds a block to the first lanes and permutes. -/
def State.absorb (s : State) (block : Bytes) : State :=
  let lanes := ((Bytes.blocks 8 block).map fun octets => UInt64.ofNat (Bytes.toNatLE octets)).toArray
  let added : State := Vector.ofFn fun i => s[i] ^^^ lanes.getD i.val 0
  added.permute

/-- The message with its padding: a 1, zeros, and the top bit of the last octet of the block. -/
def padded (message : Bytes) : Bytes :=
  match rate - message.length % rate with
  | 0 => message
  | 1 => message ++ [0x81]
  | n + 2 => message ++ 0x01 :: Bytes.zeros n ++ [0x80]

/-- The first four lanes as octets. -/
def State.squeeze (s : State) : Bytes :=
  [s.lane 0 0, s.lane 1 0, s.lane 2 0, s.lane 3 0].flatMap fun w => Bytes.littleEndian 8 w.toNat

theorem State.length_squeeze (s : State) : s.squeeze.length = 32 := by
  simp [State.squeeze]

/-- The hash of a message. -/
def hash (message : Bytes) : Hash256 :=
  let final := (Bytes.blocks rate (padded message)).foldl State.absorb (Vector.replicate 25 0)
  ⟨final.squeeze, final.length_squeeze⟩

end GuardianRelay.Keccak
