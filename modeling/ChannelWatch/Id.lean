import ChannelWatch.Octets
import ChannelWatch.Text.Hex

/-!
# Ids

An id is 16 bytes. `text` writes it as 32 lower-case digits in five groups with hyphens
between them; `read?` takes digits of either case in that form, in braces, behind
`urn:uuid:`, or without any hyphen. The `nil` id marks an event that no job answers. A
`Mint` is the supply that fresh ids are drawn from. Main statement: `read?_text`.
-/

namespace ChannelWatch
set_option autoImplicit false

/-- The identity of a row, a job or a record. -/
abbrev Id := Octets 16

namespace Id

/-- The id of sixteen zero bytes. -/
def nil : Id := Octets.zero 16

/-- Digits in groups of 8, 4, 4, 4 and the rest. -/
def grouped (digits : List Char) : List Char :=
  digits.take 8 ++ '-' :: (digits.drop 8).take 4 ++ '-' :: (digits.drop 12).take 4 ++
    '-' :: (digits.drop 16).take 4 ++ '-' :: digits.drop 20

/-- The digits of a text in groups, if its hyphens stand where they should. -/
def ungrouped? (text : List Char) : Option (List Char) :=
  if text.length = 36 ∧ text[8]? = some '-' ∧ text[13]? = some '-' ∧ text[18]? = some '-' ∧
      text[23]? = some '-' then
    some (text.take 8 ++ (text.drop 9).take 4 ++ (text.drop 14).take 4 ++ (text.drop 19).take 4 ++
      text.drop 24)
  else none

/-- The digits of an id in any of the forms that are read. -/
def digits? (text : List Char) : Option (List Char) :=
  if text.length = 32 then some text
  else if text.length = 36 then ungrouped? text
  else if text.length = 38 ∧ text.head? = some '\x7b' ∧ text.getLast? = some '\x7d' then
    ungrouped? ((text.drop 1).take 36)
  else if text.length = 45 ∧ text.take 9 = ['u', 'r', 'n', ':', 'u', 'u', 'i', 'd', ':'] then
    ungrouped? (text.drop 9)
  else none

/-- The text of an id. -/
def text (id : Id) : String := String.ofList (grouped (Hex.encode id.toList))

/-- The id that a text spells. -/
def read? (text : String) : Option Id := do
  let digits ← digits? text.toList
  let bytes ← Hex.decode digits
  Octets.ofList? 16 bytes

/-- The `n`-th id of a supply that counts. -/
def counted (n : Nat) : Id :=
  ⟨[0x63, 0x77, 0x61, 0x74, 0x63, 0x68, 0x40, 0x00, 0x80, 0x00] ++ bigEndian 6 n, by simp⟩

theorem length_encode (bytes : List UInt8) : (Hex.encode bytes).length = 2 * bytes.length := by
  induction bytes with
  | nil => rfl
  | cons byte bytes ih =>
    have step : Hex.encode (byte :: bytes) =
        Hex.digit (byte.toNat / 16) :: Hex.digit (byte.toNat % 16) :: Hex.encode bytes := rfl
    rw [step]
    simp only [List.length_cons, ih]
    omega

theorem length_grouped {digits : List Char} (h : digits.length = 32) :
    (grouped digits).length = 36 := by
  simp [grouped, h]

theorem ungrouped?_grouped {digits : List Char} (h : digits.length = 32) :
    ungrouped? (grouped digits) = some digits := by
  match digits, h with
  | [a0, a1, a2, a3, a4, a5, a6, a7, b0, b1, b2, b3, c0, c1, c2, c3, d0, d1, d2, d3, e0, e1, e2,
      e3, e4, e5, e6, e7, e8, e9, ea, eb], _ => rfl

theorem read?_text (id : Id) : read? (text id) = some id := by
  have size : (Hex.encode id.toList).length = 32 := by
    rw [length_encode, id.length_toList]
  have form : digits? (grouped (Hex.encode id.toList)) = some (Hex.encode id.toList) := by
    simp [digits?, length_grouped size, ungrouped?_grouped size]
  simp [read?, text, form, Hex.decode_encode]

end Id

/-- A supply of ids: `drawn` of the ids `draw 0`, `draw 1`, … are in use. -/
structure Mint where
  draw : Nat → Id
  drawn : Nat

namespace Mint

/-- The counting supply before its first id. -/
def counting : Mint := ⟨Id.counted, 0⟩

/-- The next id, and the supply without it. -/
def next (mint : Mint) : Id × Mint := (mint.draw mint.drawn, { mint with drawn := mint.drawn + 1 })

end Mint

end ChannelWatch
