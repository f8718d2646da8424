import ChannelWatch.Url.Ipv4

/-!
# Numeric host addresses of 128 bits

Eight pieces of 16 bits in base sixteen with colons between them. A double colon stands
for at least one piece of zeros, and the last two pieces may be a plain address of 32 bits.
The written form has the fewest digits and a double colon for the longest run of zeros.
-/

namespace ChannelWatch.Ipv6
set_option autoImplicit false

/-- One piece of an address. -/
def piece? (digits : List Char) : Option Nat :=
  if digits.length = 0 ∨ 4 < digits.length then none else Ipv4.radix? 16 digits

/-- The pieces of a row without a double colon. A plain address may end it if `mayEnd`. -/
def row? (mayEnd : Bool) : List (List Char) → Option (List Nat)
  | [] => some []
  | [last] =>
    if mayEnd && last.contains '.' then
      (Ipv4.plain? last).map fun address => [address / 65536, address % 65536]
    else (piece? last).map ([·])
  | digits :: rest => do
    let piece ← piece? digits
    let pieces ← row? mayEnd rest
    some (piece :: pieces)

/-- The pieces of a text without a double colon; a text of nothing has none. -/
def pieces? (mayEnd : Bool) (text : List Char) : Option (List Nat) :=
  if text.isEmpty then some [] else row? mayEnd (Text.separated (· == ':') text)

/-- What stands before and behind the first double colon. -/
def halves? : List Char → Option (List Char × List Char)
  | [] => none
  | ':' :: ':' :: rest => some ([], rest)
  | c :: rest => (halves? rest).map fun (before, behind) => (c :: before, behind)

/-- The eight pieces that a text spells. -/
def read? (text : List Char) : Option (List Nat) :=
  match halves? text with
  | none => (pieces? true text).filter fun pieces => pieces.length = 8
  | some (before, behind) => do
    let first ← pieces? false before
    let last ← pieces? true behind
    if 7 < first.length + last.length then none
    else some (first ++ List.replicate (8 - first.length - last.length) 0 ++ last)

/-- How many zeros a list starts with. -/
def zeros (pieces : List Nat) : Nat := (pieces.takeWhile (· = 0)).length

/-- Where the longest run of zeros starts and how long it is; of several the first. -/
def longestZeros (pieces : List Nat) : Nat × Nat :=
  (List.range pieces.length).foldl (fun best start =>
    let length := zeros (pieces.drop start)
    if best.2 < length then (start, length) else best) (0, 0)

/-- Pieces in base sixteen with colons between them. -/
def joined (pieces : List Nat) : String :=
  ":".intercalate (pieces.map fun piece => String.ofList (Numeral.digits 16 piece))

/-- The written form of an address. -/
def write (pieces : List Nat) : String :=
  let (start, length) := longestZeros pieces
  if length < 2 then joined pieces
  else joined (pieces.take start) ++ "::" ++ joined (pieces.drop (start + length))

end ChannelWatch.Ipv6
