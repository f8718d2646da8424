import ChannelWatch.Octets
import ChannelWatch.Text.Numeral
import ChannelWatch.Text.Separated

/-!
# Numeric host addresses of 32 bits

Up to four numbers with dots between them, each in decimal, behind `0x` in base sixteen, or
behind a zero in base eight. Every number but the last stands for one byte and the last one
for all bytes that are left. The written form has four decimal numbers.
-/

namespace ChannelWatch.Ipv4
set_option autoImplicit false

/-- The number that digits of a base spell, zero if there are none. -/
def radix? (radix : Nat) (digits : List Char) : Option Nat :=
  digits.foldlM (fun value c => do
    let digit ← Hex.value? c
    if digit < radix then some (value * radix + digit) else none) 0

/-- The number in one part of an address. -/
def number? : List Char → Option Nat
  | [] => none
  | '0' :: 'x' :: digits => radix? 16 digits
  | '0' :: 'X' :: digits => radix? 16 digits
  | '0' :: c :: digits => radix? 8 (c :: digits)
  | digits => radix? 10 digits

/-- The parts of an address; an empty one at the end does not count. -/
def parts (text : List Char) : List (List Char) :=
  let all := Text.separated (· == '.') text
  if all.getLast? = some [] then all.dropLast else all

/-- The text is meant as an address: its last part is a number. -/
def isMeant (text : List Char) : Bool :=
  match (parts text).getLast? with
  | none => false
  | some last => (!last.isEmpty && last.all Char.isDigit) || (number? last).isSome

/-- The value of numbers with the last one filling up what is left of four bytes. -/
def combine? (numbers : List Nat) : Option Nat :=
  match numbers.reverse with
  | [] => none
  | last :: firsts =>
    let room := capacity (4 - firsts.length)
    if 3 < firsts.length ∨ room ≤ last ∨ firsts.any (255 < ·) then none
    else some (firsts.reverse.foldl (fun value n => value * 256 + n) 0 * room + last)

/-- The address that a text spells. -/
def read? (text : List Char) : Option Nat := do
  let numbers ← (parts text).mapM number?
  combine? numbers

/-- The written form of an address. -/
def write (address : Nat) : String :=
  ".".intercalate ([3, 2, 1, 0].map fun place =>
    Numeral.decimal (address / capacity place % 256))

/-- A byte in decimal without leading zeros. -/
def plainByte? (digits : List Char) : Option Nat := do
  let value ← Numeral.decimal? digits
  if digits = Numeral.digits 10 value ∧ value < 256 then some value else none

/-- The address in a text of exactly four plain decimal numbers. -/
def plain? (text : List Char) : Option Nat := do
  match ← (Text.separated (· == '.') text).mapM plainByte? with
  | [a, b, c, d] => some (((a * 256 + b) * 256 + c) * 256 + d)
  | _ => none

end ChannelWatch.Ipv4
