import ChannelWatch.Query
import ChannelWatch.Text.Numeral

/-!
# Filters of a chain node

What a node is sent in place of a query. Addresses and topics become sets in ascending
order; an empty set lets everything pass, open positions at the end are cut off, and a set
of one is written without brackets. `admits` is how a node reads a filter.
-/

namespace ChannelWatch
set_option autoImplicit false

/-- The members of a list, each once, in ascending order. -/
def ascending {n : Nat} (items : List (Octets n)) : List (Octets n) :=
  items.eraseDups.mergeSort fun a b => decide (a.toNat ≤ b.toNat)

theorem mem_ascending {n : Nat} {items : List (Octets n)} {a : Octets n} :
    a ∈ ascending items ↔ a ∈ items := by
  simp [ascending]

/-- A filter over a block range; an empty set is open. -/
structure NodeFilter where
  fromBlock : BlockNumber
  toBlock : BlockNumber
  addresses : List Address
  topics : List (List Hash)
deriving DecidableEq

namespace NodeFilter

/-- A topic set lets the topic at its position pass. -/
def passes (set : List Hash) (topic : Option Hash) : Bool :=
  set.isEmpty || topic.any set.contains

/-- A node returns the log for this filter. -/
def admits (filter : NodeFilter) (log : Log) : Bool :=
  decide (filter.fromBlock ≤ log.block) && decide (log.block ≤ filter.toBlock) &&
    (filter.addresses.isEmpty || filter.addresses.contains log.address) &&
    filter.topics.zipIdx.all fun (set, position) => passes set (log.topic position)

/-- The list without the empty sets at its end. -/
def trimmed (sets : List (List Hash)) : List (List Hash) :=
  (sets.reverse.dropWhile List.isEmpty).reverse

/-- The filter that a query is sent as. -/
def ofQuery (query : Query) : NodeFilter :=
  { fromBlock := query.window.first
    toBlock := query.window.last
    addresses := ascending query.addresses
    topics := trimmed (query.topics.toList.map fun set => ascending (set.getD [])) }

/-- A set as it is written: nothing for the open one, a lone member without brackets. -/
def setJson {n : Nat} : List (Octets n) → Json
  | [] => .null
  | [a] => .ofOctets a
  | many => .array (many.map Json.ofOctets)

/-- The JSON form of a filter. -/
def toJson (filter : NodeFilter) : Json :=
  let address := if filter.addresses.isEmpty then [] else [("address", setJson filter.addresses)]
  .object ([("fromBlock", Json.string (Numeral.hex filter.fromBlock.toNat)),
    ("toBlock", Json.string (Numeral.hex filter.toBlock.toNat)),
    ("topics", Json.array (filter.topics.map setJson))] ++ address)

end NodeFilter

end ChannelWatch
