import ChannelWatch.Octets
import ChannelWatch.Text.Hex
import ChannelWatch.Id
import ChannelWatch.Table

/-!
# JSON values

A value of the JSON data model, with the members of an object in a list. A number is a
decimal fraction `mantissa / 10 ^ scale`; it counts as an integer only if its scale is
zero. The readers here take one value each and refuse every other shape.
-/

namespace ChannelWatch
set_option autoImplicit false

/-- A JSON value. -/
inductive Json where
  | null
  | bool (b : Bool)
  | number (mantissa : Int) (scale : Nat)
  | string (text : String)
  | array (items : List Json)
  | object (members : List (String × Json))
deriving Inhabited

namespace Json

/-- The value of a natural number. -/
def nat (n : Nat) : Json := number (Int.ofNat n) 0

/-- The value under a key. -/
def member? (members : List (String × Json)) (key : String) : Option Json := members.lookup key

/-- The value under a key that has to be there. -/
def required {α : Type} (read : Json → Option α) (members : List (String × Json))
    (key : String) : Option α :=
  (member? members key).bind read

/-- The value under a key, or `absent` where the key is missing. -/
def withDefault {α : Type} (read : Json → Option α) (absent : α)
    (members : List (String × Json)) (key : String) : Option α :=
  match member? members key with
  | none => some absent
  | some value => read value

/-- Reads `null` as no value. -/
def nullable {α : Type} (read : Json → Option α) : Json → Option (Option α)
  | null => some none
  | value => (read value).map some

/-- The value under a key, none where the key is missing or holds `null`. -/
def optional {α : Type} (read : Json → Option α) (members : List (String × Json))
    (key : String) : Option (Option α) :=
  withDefault (nullable read) none members key

/-- Reads a truth value. -/
def bool? : Json → Option Bool
  | bool b => some b
  | _ => none

/-- Reads a text. -/
def string? : Json → Option String
  | string text => some text
  | _ => none

/-- Reads a natural number. -/
def nat? : Json → Option Nat
  | number (Int.ofNat n) 0 => some n
  | _ => none

/-- Reads a natural number below `bound`. -/
def below? (bound : Nat) (value : Json) : Option Nat := do
  let n ← nat? value
  if n < bound then some n else none

/-- Reads a number of 64 bits. -/
def uint64? (value : Json) : Option UInt64 := (below? UInt64.size value).map UInt64.ofNat

/-- Reads a number of 32 bits. -/
def uint32? (value : Json) : Option UInt32 := (below? UInt32.size value).map UInt32.ofNat

/-- Reads a list of values of one kind. -/
def list? {α : Type} (read : Json → Option α) : Json → Option (List α)
  | array items => items.mapM read
  | _ => none

/-- Reads bytes from their hexadecimal text or from a list of numbers. -/
def bytes? : Json → Option (List UInt8)
  | string text => Hex.read? text
  | array items => items.mapM fun item => (below? 256 item).map UInt8.ofNat
  | _ => none

/-- Reads a byte string of a fixed size. -/
def octets? (n : Nat) (value : Json) : Option (Octets n) := (bytes? value).bind (Octets.ofList? n)

/-- The value of bytes. -/
def ofBytes (bytes : List UInt8) : Json := string (Hex.write bytes)

/-- The value of a byte string. -/
def ofOctets {n : Nat} (octets : Octets n) : Json := ofBytes octets.toList

/-- Reads an id. -/
def id? (value : Json) : Option Id := (string? value).bind Id.read?

/-- The value of an id. -/
def ofId (id : Id) : Json := string id.text

/-- The value of something that may be absent. -/
def ofOption {α : Type} (write : α → Json) : Option α → Json
  | none => null
  | some a => write a

/-- Reads a name out of a fixed table. It may also come as the one key of an object whose
value is `null`. -/
def name? {α : Type} (find : String → Option α) : Json → Option α
  | string text => find text
  | object [(text, null)] => find text
  | _ => none

theorem member?_entry (members : List (String × Json)) (k key : String) (value : Json) :
    member? ((k, value) :: members) key = if key = k then some value else member? members key :=
  Table.lookup_entry key k value members

@[simp] theorem member?_nil (key : String) : member? [] key = none := rfl

@[simp] theorem nat?_nat (n : Nat) : nat? (nat n) = some n := rfl

theorem below?_nat {bound n : Nat} (h : n < bound) : below? bound (nat n) = some n := by
  simp [below?, h]

@[simp] theorem uint64?_nat (n : UInt64) : uint64? (nat n.toNat) = some n := by
  simp [uint64?, below?_nat n.toNat_lt_size]

@[simp] theorem uint32?_nat (n : UInt32) : uint32? (nat n.toNat) = some n := by
  simp [uint32?, below?_nat n.toNat_lt_size]

@[simp] theorem bytes?_ofBytes (bytes : List UInt8) : bytes? (ofBytes bytes) = some bytes :=
  Hex.read?_write bytes

@[simp] theorem octets?_ofOctets {n : Nat} (octets : Octets n) :
    octets? n (ofOctets octets) = some octets := by
  simp [octets?, ofOctets]

@[simp] theorem id?_ofId (id : Id) : id? (ofId id) = some id := by
  simp [id?, ofId, string?, Id.read?_text]

theorem nullable_ofOption {α : Type} {read : Json → Option α} {write : α → Json}
    (back : ∀ a, read (write a) = some a) (some_ne_null : ∀ a, write a ≠ null) (o : Option α) :
    nullable read (ofOption write o) = some o := by
  cases o with
  | none => rfl
  | some a =>
    have hw := some_ne_null a
    have hb := back a
    simp only [ofOption]
    cases h : write a <;> simp_all [nullable]

theorem list?_map {α : Type} {read : Json → Option α} {write : α → Json}
    (back : ∀ a, read (write a) = some a) (l : List α) :
    list? read (array (l.map write)) = some l := by
  simp only [list?]
  induction l with
  | nil => rfl
  | cons a l ih => simp [back, ih]

end Json

end ChannelWatch
