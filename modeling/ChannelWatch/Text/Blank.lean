/-!
# White space

The characters that Unicode calls white space, and text with none of them at either end.
-/

namespace ChannelWatch.Text
set_option autoImplicit false

/-- The code points of white space. -/
def blankCodes : List Nat :=
  [0x9, 0xa, 0xb, 0xc, 0xd, 0x20, 0x85, 0xa0, 0x1680, 0x2000, 0x2001, 0x2002, 0x2003, 0x2004,
    0x2005, 0x2006, 0x2007, 0x2008, 0x2009, 0x200a, 0x2028, 0x2029, 0x202f, 0x205f, 0x3000]

/-- The character is white space. -/
def isBlank (c : Char) : Bool := blankCodes.contains c.toNat

/-- The text without the white space at its ends. -/
def trim (text : List Char) : List Char :=
  ((text.dropWhile isBlank).reverse.dropWhile isBlank).reverse

theorem trim_of_no_blank {text : List Char} (h : ∀ c ∈ text, isBlank c = false) :
    trim text = text := by
  have keep : ∀ l : List Char, (∀ c ∈ l, isBlank c = false) → l.dropWhile isBlank = l := by
    intro l hl
    cases l with
    | nil => rfl
    | cons c l => simp [hl c (by simp)]
  rw [trim, keep text h, keep text.reverse (fun c hc => h c (List.mem_reverse.1 hc)),
    List.reverse_reverse]

end ChannelWatch.Text
