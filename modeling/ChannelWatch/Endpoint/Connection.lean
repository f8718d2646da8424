import ChannelWatch.Url

/-!
# Connection texts

An endpoint is named by a connection text: the URL of an HTTP node, or a bare address with
a port, which is taken for one. Such a node counts as reached; others cannot be.
-/

namespace ChannelWatch.Connection
set_option autoImplicit false

/-- The number of a port. -/
def isPort (digits : List Char) : Bool := (Numeral.decimal? digits).any fun port => port ≤ 65535

/-- A numeric address with a port. -/
def isSocket (text : List Char) : Bool :=
  match text with
  | '[' :: rest =>
    match Url.cutLast ':' rest with
    | (port, some host) =>
      isPort port && host.getLast? = some ']' && (Ipv6.read? host.dropLast).isSome
    | _ => false
  | _ =>
    match Url.cutLast ':' text with
    | (port, some host) => isPort port && (Ipv4.plain? host).isSome
    | _ => false

/-- The text names this machine and goes on behind a colon. -/
def isLocal (text : List Char) : Bool := "localhost:".toList.isPrefixOf text

/-- The URL that a connection text stands for. -/
def url? (text : String) : Option Url :=
  if isLocal text.toList || isSocket text.toList then Url.read? ("http://" ++ text)
  else Url.read? text

/-- The text names a node that can be reached. -/
def isReachable (text : String) : Bool :=
  (url? text).any fun url => url.scheme = "http" || url.scheme = "https"

end ChannelWatch.Connection
