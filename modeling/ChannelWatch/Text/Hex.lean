/-!
# Hexadecimal text of bytes

Two digits a byte, lower case on writing and either case on reading. `write` puts `0x` in
front; `read?` also takes text with `0X` or with no mark at all, and refuses an odd number
of digits. Main statement: `read?_write`, what was written is read back.
-/

namespace ChannelWatch.Hex
set_option autoImplicit false

/-- The digit for a value below sixteen. -/
def digit (value : Nat) : Char :=
  if value < 10 then Char.ofNat (48 + value) else Char.ofNat (87 + value)

/-- The value of a digit of either case. -/
def value? (c : Char) : Option Nat :=
  if '0' ≤ c ∧ c ≤ '9' then some (c.toNat - 48)
  else if 'a' ≤ c ∧ c ≤ 'f' then some (c.toNat - 87)
  else if 'A' ≤ c ∧ c ≤ 'F' then some (c.toNat - 55)
  else none

/-- The digits of a list of bytes. -/
def encode (bytes : List UInt8) : List Char :=
  bytes.flatMap fun byte => [digit (byte.toNat / 16), digit (byte.toNat % 16)]

/-- The bytes that pairs of digits spell. -/
def decode : List Char → Option (List UInt8)
  | [] => some []
  | [_] => none
  | high :: low :: rest => do
    let h ← value? high
    let l ← value? low
    let bytes ← decode rest
    some (UInt8.ofNat (16 * h + l) :: bytes)

/-- The text without a leading `0x` or `0X`. -/
def unmarked : List Char → List Char
  | '0' :: 'x' :: rest => rest
  | '0' :: 'X' :: rest => rest
  | text => text

/-- The marked text of a list of bytes. -/
def write (bytes : List UInt8) : String := String.ofList ('0' :: 'x' :: encode bytes)

/-- The bytes of a marked or unmarked text. -/
def read? (text : String) : Option (List UInt8) := decode (unmarked text.toList)

theorem value?_digit {value : Nat} (h : value < 16) : value? (digit value) = some value := by
  have all : ∀ v : Fin 16, value? (digit v.val) = some v.val := by decide
  exact all ⟨value, h⟩

theorem decode_encode (bytes : List UInt8) : decode (encode bytes) = some bytes := by
  induction bytes with
  | nil => rfl
  | cons byte bytes ih =>
    have hb : byte.toNat < 256 := byte.toNat_lt
    have back : UInt8.ofNat (16 * (byte.toNat / 16) + byte.toNat % 16) = byte := by
      rw [Nat.div_add_mod]
      exact UInt8.ofNat_toNat
    have step : encode (byte :: bytes) =
        digit (byte.toNat / 16) :: digit (byte.toNat % 16) :: encode bytes := rfl
    rw [step, decode, value?_digit (by omega), value?_digit (by omega), ih]
    simp only [Option.bind_eq_bind, Option.bind_some, back]

theorem read?_write (bytes : List UInt8) : read? (write bytes) = some bytes := by
  simp [read?, write, unmarked, decode_encode]

end ChannelWatch.Hex
