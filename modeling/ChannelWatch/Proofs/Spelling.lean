import Mathlib.Data.List.Forall2
import Mathlib.Data.Nat.Digits.Defs
import ChannelWatch.Job

/-!
# Texts that are read

Which texts stand for which bytes, amounts and ids, said without a reader: hexadecimal
digits in either case behind a mark or none, digits of a marked base with underscores
anywhere, and the four forms of an id. Main statements: `Hex.read?_eq_some_iff`,
`Numeral.amount?_eq_some_iff` and `Id.read?_eq_some_iff`, the readers accept just these.
-/

namespace ChannelWatch
set_option autoImplicit false

namespace Hex

/-- Two digits a byte, in either case. -/
def Pairs (digits : List Char) (bytes : List UInt8) : Prop :=
  digits.map Char.toLower = encode bytes

/-- Pairs of digits behind `0x`, `0X` or nothing. -/
def Spells (text : List Char) (bytes : List UInt8) : Prop :=
  ∃ mark ∈ [[], ['0', 'x'], ['0', 'X']], ∃ digits, text = mark ++ digits ∧ Pairs digits bytes

theorem le_iff_toNat_le (a c : Char) : a ≤ c ↔ a.toNat ≤ c.toNat := Iff.rfl

/-- What holds of the ASCII characters one by one. -/
theorem of_ascii {P : Char → Prop} (table : ∀ n : Fin 128, P (Char.ofNat n)) {c : Char}
    (ascii : c.toNat < 128) : P c := by
  have here := table ⟨c.toNat, ascii⟩
  rwa [Char.ofNat_toNat] at here

theorem toLower_of_large {c : Char} (large : 128 ≤ c.toNat) : c.toLower = c := by
  unfold Char.toLower
  rw [dif_neg]
  rintro ⟨-, below⟩
  have small : c.toNat ≤ 90 := below
  omega

theorem value?_toLower (c : Char) : value? c.toLower = value? c := by
  rcases Nat.lt_or_ge c.toNat 128 with ascii | large
  · exact of_ascii (P := fun c => value? c.toLower = value? c) (by decide) ascii
  · rw [toLower_of_large large]

theorem ascii_of_value? {c : Char} {v : Nat} (h : value? c = some v) : c.toNat < 128 := by
  by_contra large
  simp only [value?, le_iff_toNat_le, Char.reduceToNat] at h
  grind

theorem value?_eq_some_iff {c : Char} {v : Nat} :
    value? c = some v ↔ v < 16 ∧ c.toLower = digit v := by
  constructor
  · intro h
    have table : ∀ n : Fin 128, ∀ v ∈ value? (Char.ofNat n),
        v < 16 ∧ (Char.ofNat n).toLower = digit v := by decide
    exact of_ascii (P := fun c => ∀ v ∈ value? c, v < 16 ∧ c.toLower = digit v) table
      (ascii_of_value? h) v h
  · rintro ⟨small, lower⟩
    rw [← value?_toLower, lower, value?_digit small]

theorem decode_map_toLower (digits : List Char) :
    decode (digits.map Char.toLower) = decode digits := by
  fun_induction decode digits with
  | case1 => rfl
  | case2 => rfl
  | case3 high low rest ih => simp only [List.map_cons, decode, value?_toLower, ih]

theorem decode_eq_some_iff {digits : List Char} {bytes : List UInt8} :
    decode digits = some bytes ↔ Pairs digits bytes := by
  constructor
  · intro h
    fun_induction decode digits generalizing bytes with
    | case1 => simp_all [Pairs, encode]
    | case2 => simp at h
    | case3 high low rest ih =>
      simp only [Option.bind_eq_bind, Option.bind_eq_some_iff, Option.some.injEq] at h
      obtain ⟨v, hv, w, hw, tail, ht, rfl⟩ := h
      obtain ⟨hv, high⟩ := value?_eq_some_iff.1 hv
      obtain ⟨hw, low⟩ := value?_eq_some_iff.1 hw
      have byte : (UInt8.ofNat (16 * v + w)).toNat = 16 * v + w := by
        rw [UInt8.toNat_ofNat', Nat.mod_eq_of_lt (by omega)]
      have quotient : (16 * v + w) / 16 = v := by omega
      have remainder : (16 * v + w) % 16 = w := by omega
      have rest := ih ht
      simp only [Pairs, encode, List.map_cons, List.flatMap_cons] at rest ⊢
      rw [high, low, rest, byte, quotient, remainder]
      rfl
  · intro h
    rw [← decode_map_toLower, h, decode_encode]

/-- A text is a mark and what is left without it. -/
theorem mark_append_unmarked (text : List Char) :
    ∃ mark ∈ [[], ['0', 'x'], ['0', 'X']], text = mark ++ unmarked text := by
  fun_cases unmarked text <;> simp

/-- No digits start like a mark. -/
theorem unmarked_of_pairs {digits : List Char} {bytes : List UInt8} (h : Pairs digits bytes) :
    unmarked digits = digits := by
  have read := decode_eq_some_iff.2 h
  fun_cases unmarked digits with
  | case1 rest => simp [decode, value?] at read
  | case2 rest => simp [decode, value?] at read
  | case3 => rfl

theorem read?_eq_some_iff {text : String} {bytes : List UInt8} :
    read? text = some bytes ↔ Spells text.toList bytes := by
  rw [read?, decode_eq_some_iff]
  constructor
  · intro h
    obtain ⟨mark, known, parts⟩ := mark_append_unmarked text.toList
    exact ⟨mark, known, _, parts, h⟩
  · rintro ⟨mark, known, digits, parts, h⟩
    rw [parts]
    simp only [List.mem_cons, List.not_mem_nil, or_false] at known
    rcases known with rfl | rfl | rfl
    · rwa [List.nil_append, unmarked_of_pairs h]
    · exact h
    · exact h

end Hex

namespace Numeral

/-- Digits of a base up to 16 in either case, most significant first, with underscores
anywhere. -/
def Digits (radix : Nat) (text : List Char) (n : Nat) : Prop :=
  ∃ values : List Nat, (∀ v ∈ values, v < radix) ∧
    (text.filter (· ≠ '_')).map Char.toLower = values.map Hex.digit ∧
    n = Nat.ofDigits radix values.reverse

/-- The bases and their marks. -/
def marks : List (List Char × Nat) :=
  [([], 10), (['0', 'x'], 16), (['0', 'X'], 16), (['0', 'o'], 8), (['0', 'O'], 8),
    (['0', 'b'], 2), (['0', 'B'], 2)]

/-- Digits behind the mark of their base; no digits at all stand for zero. -/
def Spells (text : List Char) (n : Nat) : Prop :=
  ∃ mark radix, (mark, radix) ∈ marks ∧ ∃ digits, text = mark ++ digits ∧ Digits radix digits n

theorem letter?_eq_some_iff {c : Char} {v : Nat} :
    letter? c = some v ∧ v < 16 ↔ Hex.value? c = some v := by
  simp only [letter?, Hex.value?, Hex.le_iff_toNat_le, Char.reduceToNat]
  grind

/-- One digit of a base up to 16. -/
theorem push?_eq_some_iff {radix : Nat} (small : radix ≤ 16) {start next : Nat} {c : Char}
    (digit : c ≠ '_') : push? radix start c = some next ↔
      ∃ v < radix, c.toLower = Hex.digit v ∧ next = start * radix + v := by
  simp only [push?, if_neg digit, Option.bind_eq_bind, Option.bind_eq_some_iff]
  constructor
  · rintro ⟨v, found, h⟩
    split at h
    · rename_i below
      have known := letter?_eq_some_iff.1 ⟨found, Nat.lt_of_lt_of_le below small⟩
      exact ⟨v, below, (Hex.value?_eq_some_iff.1 known).2, by simpa using h.symm⟩
    · simp at h
  · rintro ⟨v, below, lower, rfl⟩
    have known := Hex.value?_eq_some_iff.2 ⟨Nat.lt_of_lt_of_le below small, lower⟩
    exact ⟨v, (letter?_eq_some_iff.2 known).1, by simp [below]⟩

/-- Digits that are pushed on from a start. -/
theorem foldlM_push?_eq_some_iff {radix : Nat} (small : radix ≤ 16) {text : List Char}
    {start n : Nat} : text.foldlM (push? radix) start = some n ↔
      ∃ values : List Nat, (∀ v ∈ values, v < radix) ∧
        (text.filter (· ≠ '_')).map Char.toLower = values.map Hex.digit ∧
        n = values.foldl (fun n v => n * radix + v) start := by
  induction text generalizing start with
  | nil =>
    constructor
    · intro h
      exact ⟨[], by simp, rfl, by simpa using h.symm⟩
    · rintro ⟨values, -, same, rfl⟩
      obtain rfl : values = [] := by simpa using same.symm
      rfl
  | cons c text ih =>
    by_cases skipped : c = '_'
    · subst skipped
      simpa [push?] using ih
    · simp only [List.foldlM_cons, Option.bind_eq_bind, Option.bind_eq_some_iff,
        push?_eq_some_iff small skipped, ih]
      have kept : (c :: text).filter (· ≠ '_') = c :: text.filter (· ≠ '_') := by
        simp [skipped]
      rw [kept, List.map_cons]
      constructor
      · rintro ⟨_, ⟨v, below, lower, rfl⟩, values, all, same, rfl⟩
        exact ⟨v :: values, by simpa using ⟨below, all⟩, by rw [lower, same, List.map_cons], rfl⟩
      · rintro ⟨values, all, same, rfl⟩
        obtain ⟨v, rest, rfl, lower, same⟩ := List.map_eq_cons_iff.1 same.symm
        simp only [List.forall_mem_cons] at all
        exact ⟨_, ⟨v, all.1, lower.symm, rfl⟩, rest, all.2, same.symm, rfl⟩

theorem radix?_eq_some_iff {radix : Nat} (small : radix ≤ 16) {text : List Char} {n : Nat} :
    radix? radix text = some n ↔ Digits radix text n := by
  have horner (values : List Nat) : values.foldl (fun n v => n * radix + v) 0 =
      Nat.ofDigits radix values.reverse := by
    rw [Nat.ofDigits_eq_foldr, List.foldr_reverse]
    simp [Nat.mul_comm, Nat.add_comm]
  simp only [radix?, foldlM_push?_eq_some_iff small, Digits, horner]

/-- A text is the mark of its base and what is left behind it. -/
theorem mark_append_marked (text : List Char) :
    ∃ mark, (mark, (marked text).1) ∈ marks ∧ text = mark ++ (marked text).2 := by
  fun_cases marked text <;> simp [marks]

theorem radix_le_of_mem_marks {mark : List Char} {radix : Nat} (h : (mark, radix) ∈ marks) :
    radix ≤ 16 := by
  have all : ∀ m ∈ marks, m.2 ≤ 16 := by decide
  exact all _ h

/-- No decimal digits start like a mark. -/
theorem marked_of_decimal {digits : List Char} {n : Nat} (h : Digits 10 digits n) :
    marked digits = (10, digits) := by
  have read := (radix?_eq_some_iff (by decide)).2 h
  fun_cases marked digits with
  | case7 => rfl
  | _ rest => simp [radix?, push?, letter?] at read

theorem amount?_eq_some_iff {bound n : Nat} {text : List Char} :
    amount? bound text = some n ↔ Spells text n ∧ n < bound := by
  have guarded : amount? bound text = some n ↔
      radix? (marked text).1 (marked text).2 = some n ∧ n < bound := by
    simp only [amount?, Option.bind_eq_bind, Option.bind_eq_some_iff]
    grind
  rw [guarded]
  refine and_congr_left fun _ => ?_
  constructor
  · intro h
    obtain ⟨mark, known, parts⟩ := mark_append_marked text
    exact ⟨mark, _, known, _, parts, (radix?_eq_some_iff (radix_le_of_mem_marks known)).1 h⟩
  · rintro ⟨mark, radix, known, digits, rfl, h⟩
    -- Digits behind a mark are split off as they stand; without one they must not look like a mark.
    have split : marked (mark ++ digits) = (radix, digits) := by
      simp only [marks, List.mem_cons, Prod.mk.injEq, List.not_mem_nil, or_false] at known
      rcases known with ⟨rfl, rfl⟩ | ⟨rfl, rfl⟩ | ⟨rfl, rfl⟩ | ⟨rfl, rfl⟩ | ⟨rfl, rfl⟩ |
        ⟨rfl, rfl⟩ | ⟨rfl, rfl⟩
      · exact marked_of_decimal h
      all_goals rfl
    rw [split]
    exact (radix?_eq_some_iff (radix_le_of_mem_marks known)).2 h

end Numeral

namespace Id

/-- The forms that the digits of an id may have: plain, in groups, in groups between braces,
and in groups behind `urn:uuid:`. -/
def forms (digits : List Char) : List (List Char) :=
  [digits, grouped digits, '\x7b' :: grouped digits ++ ['\x7d'],
    ['u', 'r', 'n', ':', 'u', 'u', 'i', 'd', ':'] ++ grouped digits]

/-- Sixteen pairs of digits in one of the forms. -/
def Spells (text : List Char) (id : Id) : Prop :=
  ∃ digits, Hex.Pairs digits id.toList ∧ text ∈ forms digits

theorem drop_eq_cons {text : List Char} {i : Nat} {c : Char} (h : text[i]? = some c) :
    text.drop i = c :: text.drop (i + 1) := by
  obtain ⟨inside, rfl⟩ := List.getElem?_eq_some_iff.1 h
  exact List.drop_eq_getElem_cons inside

theorem grouped_append {a b c d : List Char} (e : List Char) (ha : a.length = 8)
    (hb : b.length = 4) (hc : c.length = 4) (hd : d.length = 4) :
    grouped (a ++ b ++ c ++ d ++ e) =
      a ++ '-' :: (b ++ '-' :: (c ++ '-' :: (d ++ '-' :: e))) := by
  match a, b, c, d, ha, hb, hc, hd with
  | [_, _, _, _, _, _, _, _], [_, _, _, _], [_, _, _, _], [_, _, _, _], _, _, _, _ => rfl

theorem ungrouped?_eq_some_iff {text digits : List Char} :
    ungrouped? text = some digits ↔ digits.length = 32 ∧ text = grouped digits := by
  constructor
  · intro h
    unfold ungrouped? at h
    split at h
    · rename_i marks
      obtain ⟨size, first, second, third, fourth⟩ := marks
      obtain rfl := Option.some.inj h
      -- Between two hyphens stands a group, and behind it the rest of the text.
      have cut (i n : Nat) : text.drop i = (text.drop i).take n ++ text.drop (i + n) := by
        rw [← List.drop_drop, List.take_append_drop]
      refine ⟨by simp [size], ?_⟩
      calc text = text.take 8 ++ text.drop 8 := (List.take_append_drop 8 text).symm
        _ = text.take 8 ++ '-' :: ((text.drop 9).take 4 ++ '-' :: ((text.drop 14).take 4 ++
            '-' :: ((text.drop 19).take 4 ++ '-' :: text.drop 24))) := by
          conv_lhs =>
            rw [drop_eq_cons first, cut 9 4, drop_eq_cons second, cut 14 4, drop_eq_cons third,
              cut 19 4, drop_eq_cons fourth]
        _ = _ := (grouped_append _ (by simp [size]) (by simp [size]) (by simp [size])
          (by simp [size])).symm
    · simp at h
  · rintro ⟨size, rfl⟩
    exact ungrouped?_grouped size

theorem eq_braces {text : List Char} {n : Nat} (size : text.length = n + 2)
    (left : text.head? = some '\x7b') (right : text.getLast? = some '\x7d') :
    text = '\x7b' :: (text.drop 1).take n ++ ['\x7d'] := by
  obtain ⟨rest, rfl⟩ := List.head?_eq_some_iff.1 left
  rcases List.eq_nil_or_concat' rest with rfl | ⟨inside, last, rfl⟩
  · simp at size
  · have same : last = '\x7d' := by
      rw [← List.cons_append, List.getLast?_concat] at right
      exact Option.some.inj right
    have exact : inside.length = n := by simpa using size
    simp [same, ← exact]

theorem length_digits {digits : List Char} {id : Id} (h : Hex.Pairs digits id.toList) :
    digits.length = 32 := by
  rw [← List.length_map Char.toLower, h, length_encode, id.length_toList]

theorem digits?_eq_some_iff {text digits : List Char} (size : digits.length = 32) :
    digits? text = some digits ↔ text ∈ forms digits := by
  have grouped_size := length_grouped size
  simp only [forms, List.mem_cons, List.not_mem_nil, or_false]
  constructor
  · intro h
    unfold digits? at h
    split at h
    · exact .inl (Option.some.inj h)
    split at h
    · exact .inr (.inl (ungrouped?_eq_some_iff.1 h).2)
    split at h
    · rename_i braces
      have inside := (ungrouped?_eq_some_iff.1 h).2
      refine .inr (.inr (.inl ?_))
      rw [← inside]
      exact eq_braces braces.1 braces.2.1 braces.2.2
    split at h
    · rename_i mark
      have behind := (ungrouped?_eq_some_iff.1 h).2
      refine .inr (.inr (.inr ?_))
      rw [← behind, ← mark.2, List.take_append_drop]
    · simp at h
  · rintro (rfl | rfl | rfl | rfl)
    · simp [digits?, size]
    · simp [digits?, grouped_size, ungrouped?_grouped size]
    · have last : ('\x7b' :: (grouped digits ++ ['\x7d'])).getLast? = some '\x7d' := by
        rw [← List.cons_append, List.getLast?_concat]
      simp [digits?, grouped_size, ungrouped?_grouped size, last]
    · simp [digits?, grouped_size, ungrouped?_grouped size]

theorem read?_eq_some_iff {text : String} {id : Id} :
    read? text = some id ↔ Spells text.toList id := by
  simp only [read?, Option.bind_eq_bind, Option.bind_eq_some_iff, Octets.ofList?_eq_some_iff,
    Hex.decode_eq_some_iff]
  constructor
  · rintro ⟨digits, form, bytes, pairs, rfl⟩
    exact ⟨digits, pairs, (digits?_eq_some_iff (length_digits pairs)).1 form⟩
  · rintro ⟨digits, pairs, form⟩
    exact ⟨digits, (digits?_eq_some_iff (length_digits pairs)).2 form, _, pairs, rfl⟩

end Id

end ChannelWatch
