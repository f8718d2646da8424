import ChannelWatch.Text.Numeral

/-!
# Percent encoding

A character that may not stand in some part of a URL is written as its UTF-8 bytes, each as
a percent sign and two upper-case digits. Which characters those are depends on the part;
control characters and everything beyond ASCII may stand in none. On reading, a percent
sign without two digits stands for itself.
-/

namespace ChannelWatch.Percent
set_option autoImplicit false

/-- Control characters, and everything beyond ASCII. -/
def isControl (c : Char) : Bool := c.toNat < 0x20 || 0x7f ≤ c.toNat

/-- What is encoded in a fragment. -/
def inFragment (c : Char) : Bool := isControl c || [' ', '"', '<', '>', '\x60'].contains c

/-- What is encoded in a query. -/
def inQuery (c : Char) : Bool := isControl c || [' ', '"', '#', '<', '>'].contains c

/-- What is encoded in the query of a special scheme. -/
def inSpecialQuery (c : Char) : Bool := inQuery c || c = '\''

/-- What is encoded in a path. -/
def inPath (c : Char) : Bool := inFragment c || ['#', '?', '\x7b', '\x7d'].contains c

/-- What is encoded in a user name or a password. -/
def inUserInfo (c : Char) : Bool :=
  inPath c || ['/', ':', ';', '=', '@', '[', '\\', ']', '^', '|'].contains c

/-- An upper-case digit for a value below sixteen. -/
def digit (value : Nat) : Char := (Hex.digit value).toUpper

/-- A byte behind a percent sign. -/
def byte (b : UInt8) : List Char := ['%', digit (b.toNat / 16), digit (b.toNat % 16)]

/-- The text with every character encoded that has to be. -/
def encode (mustEncode : Char → Bool) (text : List Char) : List Char :=
  text.flatMap fun c => if mustEncode c then (String.utf8EncodeChar c).flatMap byte else [c]

/-- The bytes that a text stands for. -/
def decode : List Char → List UInt8
  | [] => []
  | '%' :: high :: low :: rest =>
    match Hex.value? high, Hex.value? low with
    | some h, some l => UInt8.ofNat (16 * h + l) :: decode rest
    | _, _ => 0x25 :: decode (high :: low :: rest)
  | c :: rest => String.utf8EncodeChar c ++ decode rest

/-- The text that bytes spell in UTF-8. -/
def text? (bytes : List UInt8) : Option (List Char) :=
  (String.fromUTF8? (ByteArray.mk bytes.toArray)).map String.toList

end ChannelWatch.Percent
