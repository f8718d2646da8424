/-!
# Labels beyond ASCII

A label of a host name that has characters beyond ASCII is written in ASCII: first the
characters that are ASCII, then how far one has to count, in code points and places, to get
to each of the others in the order of their code points. The counts are digits in base 36,
least significant first, whose weights depend on a bias that follows the counts.
-/

namespace ChannelWatch.Punycode
set_option autoImplicit false

/-- The digit for a value below 36: the letters, then the decimal digits. -/
def digit (value : Nat) : Char :=
  if value < 26 then Char.ofNat (97 + value) else Char.ofNat (22 + value)

/-- The value from which on the digit in place `k` is followed by another one. -/
def threshold (bias k : Nat) : Nat := max 1 (min 26 (k - bias))

theorem threshold_pos (bias k : Nat) : 1 ≤ threshold bias k := Nat.le_max_left _ _

/-- The digits of a count, where the first one stands in place `k`. -/
def count (bias k value : Nat) : List Char :=
  let least := threshold bias k
  if value < least then [digit value]
  else digit (least + (value - least) % (36 - least)) ::
    count bias (k + 36) ((value - least) / (36 - least))
termination_by value
decreasing_by
  have pos : 1 ≤ least := threshold_pos bias k
  exact Nat.lt_of_le_of_lt (Nat.div_le_self _ _) (by omega)

/-- Divides a count until it is small; tells how often. -/
def settle (value steps : Nat) : Nat × Nat :=
  if 455 < value then settle (value / 35) (steps + 1) else (value, steps)
termination_by value
decreasing_by exact Nat.div_lt_self (by omega) (by omega)

/-- The bias after a count, when so many characters are written. -/
def adapted (value written : Nat) (first : Bool) : Nat :=
  let damped := if first then value / 700 else value / 2
  let (rest, steps) := settle (damped + damped / written) 0
  36 * steps + 36 * rest / (rest + 38)

/-- How far the writing of a label has come. -/
structure Progress where
  output : List Char
  /-- How far the next character is away so far. -/
  distance : Nat
  bias : Nat
  written : Nat

/-- Passes one character of the label while those with code point `code` are written. -/
def pass (basic code : Nat) (state : Progress) (c : Char) : Progress :=
  if c.toNat < code then { state with distance := state.distance + 1 }
  else if c.toNat = code then
    { output := state.output ++ count state.bias 36 state.distance
      distance := 0
      bias := adapted state.distance (state.written + 1) (state.written = basic)
      written := state.written + 1 }
  else state

/-- Writes the characters of a label whose code points are listed, in ascending order;
`next` is the first code point that was not considered yet. -/
def writeAll (label : List Char) (basic : Nat) : List Nat → Nat → Progress → Progress
  | [], _, state => state
  | code :: codes, next, state =>
    let near := { state with
      distance := state.distance + (code - next) * (state.written + 1) }
    let passed := label.foldl (pass basic code) near
    writeAll label basic codes (code + 1) { passed with distance := passed.distance + 1 }

/-- The ASCII form of a label, without the mark in front. -/
def encode (label : List Char) : List Char :=
  let ascii := label.filter fun c => c.toNat < 128
  let codes := ((label.map Char.toNat).filter (128 ≤ ·)).eraseDups.mergeSort
  let start := if ascii.isEmpty then [] else ascii ++ ['-']
  (writeAll label ascii.length codes 128 ⟨start, 0, 72, ascii.length⟩).output

end ChannelWatch.Punycode
