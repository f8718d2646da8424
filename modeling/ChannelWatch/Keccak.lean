import ChannelWatch.Octets

/-!
# Keccak-256

The digest that chains name transactions with: the Keccak-f[1600] permutation over 25
words of 64 bits, a rate of 136 bytes, the padding byte `01` and a digest of 32 bytes.
Word `x + 5 * y` of a state is the lane in column `x` and row `y`.
-/

namespace ChannelWatch.Keccak
set_option autoImplicit false

/-- The 1600 bits of the permutation. -/
abbrev State := Vector UInt64 25

/-- The lane in column `x` and row `y`, both taken modulo five. -/
def lane (s : State) (x y : Nat) : UInt64 := s.get ⟨x % 5 + 5 * (y % 5), by omega⟩

/-- The state with a lane for every column and row. -/
def ofLanes (f : Nat → Nat → UInt64) : State := Vector.ofFn fun i => f (i.val % 5) (i.val / 5)

/-- The word turned left by `n` bits. -/
def rotate (w : UInt64) (n : Nat) : UInt64 :=
  if n % 64 = 0 then w
  else (w <<< UInt64.ofNat (n % 64)) ||| (w >>> UInt64.ofNat (64 - n % 64))

/-- How far each lane is turned. -/
def offsets : Vector Nat 25 :=
  #v[0, 1, 62, 28, 27, 36, 44, 6, 55, 20, 3, 10, 43, 25, 39, 41, 45, 15, 21, 8, 18, 2, 61, 56, 14]

/-- The constant of each round. -/
def constants : List UInt64 :=
  [0x0000000000000001, 0x0000000000008082, 0x800000000000808a, 0x8000000080008000,
    0x000000000000808b, 0x0000000080000001, 0x8000000080008081, 0x8000000000008009,
    0x000000000000008a, 0x0000000000000088, 0x0000000080008009, 0x000000008000000a,
    0x000000008000808b, 0x800000000000008b, 0x8000000000008089, 0x8000000000008003,
    0x8000000000008002, 0x8000000000000080, 0x000000000000800a, 0x800000008000000a,
    0x8000000080008081, 0x8000000000008080, 0x0000000080000001, 0x8000000080008008]

/-- Every lane takes in the parities of two neighbouring columns. -/
def theta (s : State) : State :=
  let parity : Vector UInt64 5 := Vector.ofFn fun x =>
    lane s x 0 ^^^ lane s x 1 ^^^ lane s x 2 ^^^ lane s x 3 ^^^ lane s x 4
  let column (x : Nat) : UInt64 := parity.get ⟨x % 5, by omega⟩
  ofLanes fun x y => lane s x y ^^^ column (x + 4) ^^^ rotate (column (x + 1)) 1

/-- Turns the lanes and moves them to their new places. -/
def rhoPi (s : State) : State :=
  ofLanes fun x y =>
    let source := (x + 3 * y) % 5 + 5 * x
    if h : source < 25 then rotate s[source] offsets[source] else 0

/-- Mixes the lanes of each row. -/
def chi (s : State) : State :=
  ofLanes fun x y => lane s x y ^^^ (~~~(lane s (x + 1) y) &&& lane s (x + 2) y)

/-- One round. -/
def round (s : State) (constant : UInt64) : State :=
  let t := chi (rhoPi (theta s))
  t.set 0 (t[0] ^^^ constant)

/-- The permutation. -/
def permute (s : State) : State := constants.foldl round s

/-- The number that bytes spell, least significant first. -/
def littleEndian (bytes : List UInt8) : UInt64 :=
  bytes.foldr (fun byte word => word * 256 + byte.toUInt64) 0

/-- The eight bytes of a word, least significant first. -/
def wordBytes (w : UInt64) : List UInt8 :=
  (List.range 8).map fun i => (w >>> UInt64.ofNat (8 * i)).toUInt8

/-- Takes one block of 136 bytes into the state. -/
def absorb (s : State) (block : List UInt8) : State :=
  permute (Vector.ofFn fun i =>
    s[i] ^^^ (if i.val < 17 then littleEndian ((block.drop (8 * i.val)).take 8) else 0))

/-- Fills the message up to whole blocks: a one bit, zeros, and a one bit at the end. -/
def pad (message : List UInt8) : List UInt8 :=
  let gap := 136 - message.length % 136
  if gap = 1 then message ++ [0x81]
  else message ++ 0x01 :: List.replicate (gap - 2) 0 ++ [0x80]

/-- Cuts a list of bytes into blocks of 136. -/
def blocks (bytes : List UInt8) : List (List UInt8) :=
  if bytes.length ≤ 136 then [bytes]
  else bytes.take 136 :: blocks (bytes.drop 136)
termination_by bytes.length
decreasing_by simp; omega

/-- The digest of a message. -/
def digest (message : List UInt8) : Hash :=
  let final := (blocks (pad message)).foldl absorb (Vector.replicate 25 0)
  ⟨((List.range 4).flatMap fun i => wordBytes (lane final i 0)), by
    simp only [List.length_flatMap, wordBytes, List.length_map, List.length_range]
    rfl⟩

end ChannelWatch.Keccak
