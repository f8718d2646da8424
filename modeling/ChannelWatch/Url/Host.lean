import ChannelWatch.Url.Percent
import ChannelWatch.Url.Ipv6
import ChannelWatch.Url.Punycode

/-!
# Hosts

The host of a special scheme is a name, in lower case and in ASCII, or a numeric address.
Other schemes take their host as it stands, except for an address between brackets.
-/

namespace ChannelWatch
set_option autoImplicit false

/-- A host of a URL. -/
inductive Host where
  | name (text : String)
  | ipv4 (address : Nat)
  | ipv6 (pieces : List Nat)
deriving DecidableEq

namespace Host

/-- The host without a name. -/
def empty : Host := name ""

/-- How a host is written. -/
def write : Host → String
  | name text => text
  | ipv4 address => Ipv4.write address
  | ipv6 pieces => "[" ++ Ipv6.write pieces ++ "]"

/-- A letter in lower case, for Latin, Greek and Cyrillic capitals; the full stop of
ideographic text is a dot. -/
def lowered (c : Char) : Char :=
  let code := c.toNat
  if 0x41 ≤ code ∧ code ≤ 0x5a then Char.ofNat (code + 32)
  else if 0xc0 ≤ code ∧ code ≤ 0xde ∧ code ≠ 0xd7 then Char.ofNat (code + 32)
  else if 0x391 ≤ code ∧ code ≤ 0x3ab then Char.ofNat (code + 32)
  else if 0x410 ≤ code ∧ code ≤ 0x42f then Char.ofNat (code + 32)
  else if 0x400 ≤ code ∧ code ≤ 0x40f then Char.ofNat (code + 80)
  else if code = 0x3002 then '.'
  else c

/-- The ASCII form of a label. -/
def label (text : List Char) : List Char :=
  if text.all fun c => c.toNat < 128 then text
  else ['x', 'n', '-', '-'] ++ Punycode.encode text

/-- No name has such a character. -/
def isForbidden (c : Char) : Bool :=
  c.toNat ≤ 0x20 || c.toNat = 0x7f ||
    ['%', '#', '/', ':', '<', '>', '?', '@', '[', '\\', ']', '^', '|'].contains c

/-- The ASCII form of a name. -/
def ascii? (text : List Char) : Option (List Char) :=
  let labels := (Text.separated (· == '.') (text.map lowered)).map label
  let name := ['.'].intercalate labels
  if name.any isForbidden then none else some name

/-- The address between brackets, if a text begins with one. -/
def bracketed? : List Char → Option (Option Host)
  | '[' :: rest =>
    some (if rest.getLast? = some ']' then (Ipv6.read? rest.dropLast).map ipv6 else none)
  | _ => none

/-- The host of a special scheme. -/
def special? (text : List Char) : Option Host :=
  match bracketed? text with
  | some host => host
  | none => do
    let decoded ← Percent.text? (Percent.decode text)
    let name ← ascii? decoded
    if name.isEmpty then none
    else if Ipv4.isMeant name then (Ipv4.read? name).map ipv4
    else some (.name (String.ofList name))

/-- What no host may hold, whatever its scheme. -/
def isNeverAllowed (c : Char) : Bool :=
  ['\x00', '\t', '\n', '\x0d', ' ', '#', '/', ':', '<', '>', '?', '@', '[', '\\', ']', '^',
    '|'].contains c

/-- The host of another scheme. -/
def verbatim? (text : List Char) : Option Host :=
  match bracketed? text with
  | some host => host
  | none =>
    if text.any isNeverAllowed then none
    else some (.name (String.ofList (Percent.encode Percent.isControl text)))

end Host

end ChannelWatch
