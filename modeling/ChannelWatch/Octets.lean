/-!
# Byte strings of a fixed size

An `Octets n` is a list of exactly `n` bytes: addresses have 20, digests and topics 32,
ids 16. `bigEndian` and `ofBigEndian` go between a number and its bytes, most significant
first; they are inverse to each other below `capacity n`.
-/

namespace ChannelWatch
set_option autoImplicit false

/-- How many values fit into so many bytes. -/
def capacity : Nat → Nat
  | 0 => 1
  | width + 1 => 256 * capacity width

/-- The `width` low bytes of `value`, most significant first. -/
def bigEndian : Nat → Nat → List UInt8
  | 0, _ => []
  | width + 1, value => bigEndian width (value / 256) ++ [UInt8.ofNat value]

/-- The number that a list of bytes spells, most significant first. -/
def ofBigEndian (bytes : List UInt8) : Nat :=
  bytes.foldl (fun value byte => value * 256 + byte.toNat) 0

@[simp] theorem length_bigEndian (width value : Nat) : (bigEndian width value).length = width := by
  induction width generalizing value with
  | zero => rfl
  | succ width ih => simp [bigEndian, ih]

theorem ofBigEndian_concat (bytes : List UInt8) (byte : UInt8) :
    ofBigEndian (bytes ++ [byte]) = ofBigEndian bytes * 256 + byte.toNat := by
  simp [ofBigEndian, List.foldl_append]

theorem ofBigEndian_bigEndian (width value : Nat) :
    ofBigEndian (bigEndian width value) = value % capacity width := by
  induction width generalizing value with
  | zero => simp [bigEndian, ofBigEndian, capacity, Nat.mod_one]
  | succ width ih =>
    have split : value % capacity (width + 1) =
        value % 256 + 256 * (value / 256 % capacity width) := by
      rw [capacity, Nat.mod_mul]
    rw [bigEndian, ofBigEndian_concat, ih, UInt8.toNat_ofNat', split]
    omega

/-- A byte string of exactly `n` bytes. -/
structure Octets (n : Nat) where
  toList : List UInt8
  length_toList : toList.length = n
deriving DecidableEq

namespace Octets

/-- The byte string over a list of the right length. -/
def ofList? (n : Nat) (bytes : List UInt8) : Option (Octets n) :=
  if h : bytes.length = n then some ⟨bytes, h⟩ else none

/-- The byte string that spells the low bits of `value`. -/
def ofNat (n value : Nat) : Octets n := ⟨bigEndian n value, length_bigEndian n value⟩

/-- The number that a byte string spells. -/
def toNat {n : Nat} (bytes : Octets n) : Nat := ofBigEndian bytes.toList

/-- The byte string of zeros. -/
def zero (n : Nat) : Octets n := ⟨List.replicate n 0, List.length_replicate⟩

theorem ext {n : Nat} {a b : Octets n} (h : a.toList = b.toList) : a = b := by
  cases a; cases b; simp_all

@[simp] theorem ofList?_toList {n : Nat} (bytes : Octets n) :
    ofList? n bytes.toList = some bytes := by
  simp [ofList?, bytes.length_toList]

theorem ofList?_eq_some_iff {n : Nat} {bytes : List UInt8} {octets : Octets n} :
    ofList? n bytes = some octets ↔ octets.toList = bytes := by
  constructor
  · intro h
    unfold ofList? at h
    split at h
    · simp only [Option.some.injEq] at h
      rw [← h]
    · simp at h
  · rintro rfl
    exact ofList?_toList octets

end Octets

/-- The address of a contract or an account. -/
abbrev Address := Octets 20

/-- A 32-byte digest: a transaction hash, an offering hash, or a topic of a log. -/
abbrev Hash := Octets 32

namespace Address

/-- The topic that names an address: twelve zero bytes, then the address. -/
def toTopic (address : Address) : Hash :=
  ⟨List.replicate 12 0 ++ address.toList, by simp [address.length_toList]⟩

/-- The address a topic names: its last twenty bytes, whatever the padding holds. -/
def ofTopic (topic : Hash) : Address :=
  ⟨topic.toList.drop 12, by simp [topic.length_toList]⟩

@[simp] theorem ofTopic_toTopic (address : Address) : ofTopic address.toTopic = address := by
  apply Octets.ext
  simp [ofTopic, toTopic]

end Address

end ChannelWatch
