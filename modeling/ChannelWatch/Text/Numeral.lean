import ChannelWatch.Text.Hex

/-!
# Numbers as text

`unsigned?` reads a decimal number: an optional plus sign, then at least one ASCII digit,
and a value below the bound. `radix?` reads digits of any base up to 36 and skips
underscores; `amount?` adds the marks `0x`, `0o` and `0b` in either case and takes text
without digits as zero. `decimal` and `hex` write the fewest digits, so zero is `0` and
`0x0`. Main statements: `unsigned?_decimal` and `amount?_hex`, numbers are read back.
-/

namespace ChannelWatch.Numeral
set_option autoImplicit false

/-- The value of an ASCII digit. -/
def digit? (c : Char) : Option Nat :=
  if '0' ≤ c ∧ c ≤ '9' then some (c.toNat - 48) else none

/-- One more decimal digit of a number. -/
def pushDecimal? (value : Nat) (c : Char) : Option Nat := (digit? c).map (value * 10 + ·)

/-- The number that decimal digits spell. -/
def decimal? : List Char → Option Nat
  | [] => none
  | digits => digits.foldlM pushDecimal? 0

/-- A decimal number below `bound`, after an optional plus sign. -/
def unsigned? (bound : Nat) (text : List Char) : Option Nat := do
  let digits := match text with
    | '+' :: rest => rest
    | _ => text
  let value ← decimal? digits
  if value < bound then some value else none

/-- The value of a digit of a base up to 36, letters in either case. -/
def letter? (c : Char) : Option Nat :=
  if '0' ≤ c ∧ c ≤ '9' then some (c.toNat - 48)
  else if 'a' ≤ c ∧ c ≤ 'z' then some (c.toNat - 87)
  else if 'A' ≤ c ∧ c ≤ 'Z' then some (c.toNat - 55)
  else none

/-- One more character of a number in base `radix`; an underscore adds nothing. -/
def push? (radix value : Nat) (c : Char) : Option Nat :=
  if c = '_' then some value
  else do
    let digit ← letter? c
    if digit < radix then some (value * radix + digit) else none

/-- The number that digits of base `radix` spell, zero if there are none. -/
def radix? (radix : Nat) (text : List Char) : Option Nat := text.foldlM (push? radix) 0

/-- The base that a mark announces, and the digits behind it. -/
def marked : List Char → Nat × List Char
  | '0' :: 'x' :: rest => (16, rest)
  | '0' :: 'X' :: rest => (16, rest)
  | '0' :: 'o' :: rest => (8, rest)
  | '0' :: 'O' :: rest => (8, rest)
  | '0' :: 'b' :: rest => (2, rest)
  | '0' :: 'B' :: rest => (2, rest)
  | text => (10, text)

/-- A number below `bound` in any marked base. -/
def amount? (bound : Nat) (text : List Char) : Option Nat := do
  let value ← radix? (marked text).1 (marked text).2
  if value < bound then some value else none

/-- The fewest digits of a number in a base from 2 to 16. -/
def digits (radix value : Nat) : List Char :=
  if value < radix ∨ radix < 2 then [Hex.digit value]
  else digits radix (value / radix) ++ [Hex.digit (value % radix)]
termination_by value
decreasing_by
  rename_i h
  exact Nat.div_lt_self (by omega) (by omega)

/-- The decimal text of a number. -/
def decimal (value : Nat) : String := String.ofList (digits 10 value)

/-- The decimal text of an integer. -/
def integer : Int → String
  | .ofNat n => decimal n
  | .negSucc n => "-" ++ decimal (n + 1)

/-- The marked hexadecimal text of a number. -/
def hex (value : Nat) : String := String.ofList ('0' :: 'x' :: digits 16 value)

theorem digits_of_lt {radix value : Nat} (h : value < radix) :
    digits radix value = [Hex.digit value] := by
  rw [digits, if_pos (Or.inl h)]

theorem digits_of_le {radix value : Nat} (two : 2 ≤ radix) (h : radix ≤ value) :
    digits radix value = digits radix (value / radix) ++ [Hex.digit (value % radix)] := by
  rw [digits, if_neg (by omega)]

/-- Folding a reader of single digits over the digits of a number gives the number back. -/
theorem foldlM_digits {radix : Nat} (two : 2 ≤ radix) {push : Nat → Char → Option Nat}
    (step : ∀ start value, value < radix →
      push start (Hex.digit value) = some (start * radix + value)) (value : Nat) :
    (digits radix value).foldlM push 0 = some value := by
  induction value using Nat.strongRecOn with
  | ind value ih =>
    by_cases small : value < radix
    · rw [digits_of_lt small]
      simp [step 0 value small]
    · have large : radix ≤ value := Nat.le_of_not_lt small
      have smaller : value / radix < value := Nat.div_lt_self (by omega) (by omega)
      have last : value % radix < radix := Nat.mod_lt value (by omega)
      rw [digits_of_le two large, List.foldlM_append, ih (value / radix) smaller]
      simp [step (value / radix) (value % radix) last, Nat.div_add_mod']

theorem digits_ne_nil (radix value : Nat) : digits radix value ≠ [] := by
  rw [digits]
  split <;> simp

theorem forall_mem_digits {radix : Nat} (two : 2 ≤ radix) {P : Char → Prop}
    (h : ∀ value, value < radix → P (Hex.digit value)) (value : Nat) :
    ∀ c ∈ digits radix value, P c := by
  induction value using Nat.strongRecOn with
  | ind value ih =>
    by_cases small : value < radix
    · rw [digits_of_lt small]
      simpa using h value small
    · have large : radix ≤ value := Nat.le_of_not_lt small
      rw [digits_of_le two large]
      intro c hc
      rcases List.mem_append.1 hc with front | back
      · exact ih (value / radix) (Nat.div_lt_self (by omega) (by omega)) c front
      · rw [List.mem_singleton.1 back]
        exact h _ (Nat.mod_lt value (by omega))

theorem decimal?_digits (value : Nat) : decimal? (digits 10 value) = some value := by
  have step : ∀ start digit, digit < 10 →
      pushDecimal? start (Hex.digit digit) = some (start * 10 + digit) := by
    intro start digit h
    have all : ∀ d : Fin 10, digit? (Hex.digit d.val) = some d.val := by decide
    have found : digit? (Hex.digit digit) = some digit := all ⟨digit, h⟩
    simp [pushDecimal?, found]
  have two : 2 ≤ 10 := by decide
  have folded := foldlM_digits two step value
  unfold decimal?
  split
  · rename_i empty
    exact absurd empty (digits_ne_nil 10 value)
  · exact folded

theorem unsigned?_decimal {bound value : Nat} (h : value < bound) :
    unsigned? bound (decimal value).toList = some value := by
  have plain : ∀ c ∈ digits 10 value, c ≠ '+' := by
    refine forall_mem_digits (by decide) ?_ value
    intro digit small
    have all : ∀ d : Fin 10, Hex.digit d.val ≠ '+' := by decide
    exact all ⟨digit, small⟩
  have read := decimal?_digits value
  simp only [unsigned?, decimal, String.toList_ofList]
  split
  · rename_i rest shape
    exact absurd rfl (plain '+' (by rw [shape]; simp))
  · simp [read, h]

theorem radix?_digits (value : Nat) : radix? 16 (digits 16 value) = some value := by
  have two : 2 ≤ 16 := by decide
  refine foldlM_digits two ?_ value
  intro start digit h
  have all : ∀ d : Fin 16, Hex.digit d.val ≠ '_' ∧ letter? (Hex.digit d.val) = some d.val := by
    decide
  obtain ⟨mark, letter⟩ := all ⟨digit, h⟩
  simp only at mark letter
  simp [push?, mark, letter, h]

theorem amount?_hex {bound value : Nat} (h : value < bound) :
    amount? bound (hex value).toList = some value := by
  simp [amount?, hex, marked, radix?_digits, h]

end ChannelWatch.Numeral
