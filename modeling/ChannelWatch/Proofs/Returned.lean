import Mathlib.Data.List.TakeWhile
import ChannelWatch.NodeLog
import ChannelWatch.Query.NodeFilter
import ChannelWatch.Proofs.Rebuilding

/-!
# What a node returns for a query

A query is sent to a node as a filter in JSON. `NodeFilter.Returns` says which logs a node
returns for a filter by reading its members alone: the ends of the block range belong to it,
where nothing or `null` is written everything passes, and a set that is written wants one of
its values. A query that can match is answered with the logs that it selects, and collect
cycles send no other ones. The main statement is `returns_iff_selects`.
-/

namespace ChannelWatch
set_option autoImplicit false

/-- A set of byte strings as it is written has the byte string for a member: it is the text of it,
or a list with such a text. -/
inductive Json.Lists {n : Nat} (octets : Octets n) : Json → Prop where
  | lone {text : String} (reads : Hex.read? text = some octets.toList) : Lists octets (.string text)
  | among {text : String} {items : List Json} (mem : .string text ∈ items)
      (reads : Hex.read? text = some octets.toList) : Lists octets (.array items)

namespace NodeFilter

/-- A node lets the topic of a log pass where the set is written. -/
def LetsPass (set : Json) (topic : Option Hash) : Prop :=
  set = .null ∨ ∃ hash, topic = some hash ∧ set.Lists hash

/-- The block number that is written under a key. -/
def blockAt? (members : List (String × Json)) (key : String) : Option BlockNumber :=
  (Json.member? members key).bind NodeLog.quantity?

/-- A log meets a filter with these members. -/
structure Meets (members : List (String × Json)) (log : Log) : Prop where
  above : ∃ first, blockAt? members "fromBlock" = some first ∧ first ≤ log.block
  below : ∃ last, blockAt? members "toBlock" = some last ∧ log.block ≤ last
  address : Json.member? members "address" = none ∨
    Json.member? members "address" = some (.array []) ∨
      ∃ set, Json.member? members "address" = some set ∧ set.Lists log.address
  topics : ∃ sets, Json.member? members "topics" = some (.array sets) ∧
    ∀ position set, sets[position]? = some set → LetsPass set (log.topic position)

/-- A node returns the logs that meet a filter, which is an object. -/
inductive Returns : Json → Log → Prop
  | object {members log} (meets : Meets members log) : Returns (.object members) log

theorem quantity?_hex (block : BlockNumber) :
    NodeLog.quantity? (.string (Numeral.hex block.toNat)) = some block := by
  simp [NodeLog.quantity?, Numeral.amount?_hex block.toNat_lt_size]

theorem read?_write_iff {n : Nat} {a b : Octets n} :
    Hex.read? (Hex.write a.toList) = some b.toList ↔ a = b := by
  rw [Hex.read?_write, Option.some.injEq]
  exact ⟨Octets.ext, congrArg Octets.toList⟩

/-- A set that is not empty is written with its members. -/
theorem lists_setJson_iff {n : Nat} {set : List (Octets n)} (filled : set ≠ []) (octets : Octets n) :
    (setJson set).Lists octets ↔ octets ∈ set := by
  match set, filled with
  | [a], _ =>
    rw [List.mem_singleton, eq_comm, ← read?_write_iff]
    exact ⟨fun | .lone reads => reads, .lone⟩
  | a :: b :: rest, _ =>
    constructor
    · intro lists
      cases lists with
      | among mem reads =>
        obtain ⟨found, among, same⟩ := List.mem_map.1 mem
        obtain rfl := Json.string.inj same
        exact read?_write_iff.1 reads ▸ among
    · intro mem
      exact .among (List.mem_map.2 ⟨octets, mem, rfl⟩) (read?_write_iff.2 rfl)

theorem letsPass_setJson_iff (set : List Hash) (topic : Option Hash) :
    LetsPass (setJson set) topic ↔ passes set topic = true := by
  by_cases empty : set = []
  · subst empty
    exact ⟨fun _ => rfl, fun _ => .inl rfl⟩
  · have written : setJson set ≠ .null := by
      match set, empty with
      | [_], _ => exact Json.noConfusion
      | _ :: _ :: _, _ => exact Json.noConfusion
    have named : passes set topic = true ↔ ∃ hash, topic = some hash ∧ hash ∈ set := by
      cases topic <;> simp [passes, empty]
    simp only [LetsPass, written, false_or, lists_setJson_iff empty, named]

theorem admits_iff (filter : NodeFilter) (log : Log) :
    filter.admits log = true ↔
      filter.fromBlock ≤ log.block ∧ log.block ≤ filter.toBlock ∧
      (filter.addresses = [] ∨ log.address ∈ filter.addresses) ∧
      ∀ position set, filter.topics[position]? = some set →
        passes set (log.topic position) = true := by
  have positions : (filter.topics.zipIdx.all fun entry =>
      passes entry.1 (log.topic entry.2)) = true ↔
        ∀ position set, filter.topics[position]? = some set →
          passes set (log.topic position) = true := by
    rw [List.all_eq_true]
    constructor
    · intro all position set found
      exact all (set, position) (List.mk_mem_zipIdx_iff_getElem?.2 found)
    · rintro all ⟨set, position⟩ mem
      exact all position set (List.mk_mem_zipIdx_iff_getElem?.1 mem)
  rw [admits, Bool.and_eq_true]
  refine (and_congr_right fun _ => positions).trans ?_
  simp [and_assoc]

/-- The members that a filter is written with. -/
def members (filter : NodeFilter) : List (String × Json) :=
  [("fromBlock", Json.string (Numeral.hex filter.fromBlock.toNat)),
    ("toBlock", Json.string (Numeral.hex filter.toBlock.toNat)),
    ("topics", Json.array (filter.topics.map setJson))] ++
  if filter.addresses.isEmpty then [] else [("address", setJson filter.addresses)]

theorem member?_address (filter : NodeFilter) :
    Json.member? filter.members "address" =
      if filter.addresses = [] then none else some (setJson filter.addresses) := by
  by_cases empty : filter.addresses = [] <;> simp [members, Json.member?_entry, empty]

/-- The logs that meet a filter as it is written are those that it admits. -/
theorem meets_members_iff (filter : NodeFilter) (log : Log) :
    Meets filter.members log ↔ filter.admits log = true := by
  have first : blockAt? filter.members "fromBlock" = some filter.fromBlock := by
    simp [blockAt?, members, Json.member?_entry, quantity?_hex]
  have last : blockAt? filter.members "toBlock" = some filter.toBlock := by
    simp [blockAt?, members, Json.member?_entry, quantity?_hex]
  have sets : Json.member? filter.members "topics" =
      some (.array (filter.topics.map setJson)) := by
    simp [members, Json.member?_entry]
  have address : (Json.member? filter.members "address" = none ∨
      Json.member? filter.members "address" = some (.array []) ∨
        ∃ set, Json.member? filter.members "address" = some set ∧ set.Lists log.address) ↔
      (filter.addresses = [] ∨ log.address ∈ filter.addresses) := by
    rw [member?_address]
    by_cases empty : filter.addresses = []
    · simp [empty]
    · have brackets : setJson filter.addresses ≠ .array [] := by
        match filter.addresses, empty with
        | [_], _ => exact Json.noConfusion
        | _ :: _ :: _, _ => simp [setJson]
      simp [empty, brackets, lists_setJson_iff empty]
  have topics : (∀ position set, (filter.topics.map setJson)[position]? = some set →
      LetsPass set (log.topic position)) ↔
        ∀ position set, filter.topics[position]? = some set →
          passes set (log.topic position) = true := by
    constructor
    · intro all position set found
      exact (letsPass_setJson_iff set _).1 (all position _ (by simp [found]))
    · intro all position written found
      rw [List.getElem?_map, Option.map_eq_some_iff] at found
      obtain ⟨set, found, rfl⟩ := found
      exact (letsPass_setJson_iff set _).2 (all position set found)
  rw [admits_iff, ← address, ← topics]
  constructor
  · rintro ⟨⟨_, read, above⟩, ⟨_, read', below⟩, named, _, listed, pass⟩
    rw [first] at read
    rw [last] at read'
    rw [sets] at listed
    cases read
    cases read'
    cases listed
    exact ⟨above, below, named, pass⟩
  · rintro ⟨above, below, named, pass⟩
    exact ⟨⟨_, first, above⟩, ⟨_, last, below⟩, named, _, sets, pass⟩

theorem returns_toJson_iff (filter : NodeFilter) (log : Log) :
    Returns filter.toJson log ↔ filter.admits log = true := by
  have written : filter.toJson = .object filter.members := rfl
  rw [written, ← meets_members_iff]
  constructor
  · rintro ⟨meets⟩
    exact meets
  · exact .object

/-- What is cut off at the end are empty sets. -/
theorem trimmed_append (sets : List (List Hash)) :
    ∃ cut, sets = trimmed sets ++ cut ∧ ∀ set ∈ cut, set = [] := by
  refine ⟨(sets.reverse.takeWhile List.isEmpty).reverse, ?_, ?_⟩
  · rw [trimmed, ← List.reverse_append, List.takeWhile_append_dropWhile, List.reverse_reverse]
  · intro set mem
    have empty := List.mem_takeWhile_imp (List.mem_reverse.1 mem)
    exact List.isEmpty_iff.1 empty

/-- Positions that are cut off let everything pass anyhow. -/
theorem trimmed_passes_iff (sets : List (List Hash)) (log : Log) :
    (∀ position set, (trimmed sets)[position]? = some set →
        passes set (log.topic position) = true) ↔
      ∀ position set, sets[position]? = some set → passes set (log.topic position) = true := by
  obtain ⟨cut, parts, empty⟩ := trimmed_append sets
  constructor
  · intro all position set found
    rw [parts, List.getElem?_append] at found
    split at found
    · exact all position set found
    · rw [empty set (List.mem_of_getElem? found)]
      rfl
  · intro all position set found
    have bound : position < (trimmed sets).length := (List.getElem?_eq_some_iff.1 found).1
    exact all position set (by rw [parts, List.getElem?_append_left bound, found])

/-- A constraint that lets some topics pass is written as a set that lets the same ones pass. -/
theorem passes_ascending_iff {constraint : Constraint} (some_pass : constraint ≠ some [])
    (topic : Option Hash) :
    passes (ascending (constraint.getD [])) topic = true ↔ constraint.admits topic = true := by
  match constraint, some_pass with
  | none, _ => simp [passes, ascending, Constraint.admits]
  | some (hash :: rest), _ =>
    have filled : ascending (hash :: rest) ≠ [] :=
      List.ne_nil_of_mem (mem_ascending.2 List.mem_cons_self)
    cases topic with
    | none => simp [passes, Constraint.admits, filled]
    | some topic => simp [passes, Constraint.admits, filled, mem_ascending]

/-- A query that can match is turned into a filter that admits what it selects. -/
theorem admits_ofQuery_iff {query : Query} (possible : query.matchesNothing = false) (log : Log) :
    (ofQuery query).admits log = true ↔ query.selects log = true := by
  have some_pass : ∀ position : Fin 4, query.topics[position] ≠ some [] := by
    intro position void
    rw [(Query.matchesNothing_iff query).2 ⟨position, void⟩] at possible
    cases possible
  have addresses : (ascending query.addresses = [] ∨ log.address ∈ ascending query.addresses) ↔
      (query.addresses = [] ∨ log.address ∈ query.addresses) := by
    have empty : ascending query.addresses = [] ↔ query.addresses = [] := by
      simp only [List.eq_nil_iff_forall_not_mem, mem_ascending]
    rw [empty, mem_ascending]
  have topics : (∀ position set,
      (query.topics.toList.map fun set => ascending (set.getD []))[position]? = some set →
        passes set (log.topic position) = true) ↔
      ∀ position : Fin 4, (query.topics[position]).admits (log.topic position) = true := by
    constructor
    · intro all position
      exact (passes_ascending_iff (some_pass position) _).1 (all position _ (by simp))
    · intro all position set found
      obtain ⟨small, rfl⟩ := List.getElem?_eq_some_iff.1 found
      have small : position < 4 := by simpa using small
      have passing := (passes_ascending_iff (some_pass ⟨position, small⟩) _).2 (all ⟨position, small⟩)
      simpa using passing
  rw [admits_iff, Query.selects_iff, ofQuery]
  simp only
  rw [addresses, trimmed_passes_iff, topics, Window.contains, Bool.and_eq_true, decide_eq_true_iff,
    decide_eq_true_iff, and_assoc]

end NodeFilter

/-- The request sends the query to the chain, or waits for what it is answered with. -/
def Request.Poses (request : Request) (query : Query) : Prop :=
  request = .sendQuery query ∨ request = .logs query

/-- Only queries that can match, about windows that are not empty, are posed. -/
def Request.posesProperly (request : Request) : Prop :=
  ∀ query, request.Poses query →
    query.matchesNothing = false ∧ query.window.first ≤ query.window.last

namespace Cycle

theorem fetchAll_poses (locals : List Address) {queries : List Query}
    (filled : ∀ query ∈ queries, query.window.first ≤ query.window.last) :
    (fetchAll locals queries).Asks Request.posesProperly := by
  induction queries with
  | nil => exact asks_pure _
  | cons query queries ih =>
    refine asks_bind ?_ fun _ =>
      asks_bind (ih fun other mem => filled other (List.mem_cons_of_mem _ mem)) fun _ => asks_pure _
    unfold fetch
    split
    · exact asks_pure _
    · rename_i possible
      rw [Bool.not_eq_true] at possible
      have proper : ∀ other, query = other →
          other.matchesNothing = false ∧ other.window.first ≤ other.window.last := by
        rintro _ rfl
        exact ⟨possible, filled query List.mem_cons_self⟩
      refine asks_bind (asks_request _ ?_) fun _ =>
        asks_bind (asks_demand _ (asks_request _ ?_)) fun _ => asks_pure _
      · rintro other (posed | posed)
        · exact proper other (Request.sendQuery.inj posed)
        · cases posed
      · rintro other (posed | posed)
        · cases posed
        · exact proper other (Request.logs.inj posed)

/-- A collect cycle only poses queries that can match, about windows that are not empty. -/
theorem collect_poses (profile : Profile) : (collect profile).Asks Request.posesProperly := by
  have silent : ∀ request : Request, ¬ request.explores → request.posesProperly := by
    rintro request quiet query (rfl | rfl) <;> exact absurd trivial quiet
  have surveyed : survey.Asks Request.posesProperly := by
    refine Program.Asks.mono (fun request asked => ?_) (Program.Straight.asks survey_straight)
    obtain ⟨guard, -, surveys⟩ := asked
    apply silent
    cases request <;> first | exact id | cases surveys
  have explored : ∀ limits checkpoint locals,
      (explore profile limits checkpoint locals).Asks Request.posesProperly := by
    intro limits checkpoint locals
    refine asks_bind (asks_demand _ (asks_request _ ?_)) fun head => ?_
    · rintro query (posed | posed) <;> cases posed
    · simp only
      split
      · exact asks_pure _
      · rename_i ahead
        refine asks_bind (fetchAll_poses _ fun query mem => ?_) fun _ => asks_pure _
        rw [window_of_mem_watchQueries mem]
        simpa [Window.isEmpty, UInt64.not_lt] using ahead
  have scanned : (scan profile).Asks Request.posesProperly := by
    rw [scan_eq]
    exact asks_bind surveyed fun _ => explored _ _ _
  refine asks_bind scanned fun found => ?_
  simp only
  split
  · exact asks_pure _
  · refine asks_bind (asks_demand _ (asks_request _ ?_)) fun _ => asks_pure _
    rintro query (posed | posed) <;> cases posed

end Cycle

/-- For the filter that a query is sent as, a node returns the logs that the query selects, unless
the query matches nothing; then it selects no log. However collect cycles of a watch overlap and
whatever goes on around them, they pose only queries that can match, about windows that are not
empty. -/
theorem returns_iff_selects :
    (∀ query : Query, query.matchesNothing = false → ∀ log : Log,
      NodeFilter.Returns (NodeFilter.ofQuery query).toJson log ↔ query.selects log = true) ∧
    (∀ query : Query, query.matchesNothing = true → ∀ log : Log, query.selects log = false) ∧
    ∀ (freedom : Freedom) (first last : Site) (acts : List (Nat × Act)),
      Abreast Cycle.collect freedom first acts last →
      ∀ act ∈ acts.map Prod.snd, ∀ query, act.request.Poses query →
        query.matchesNothing = false ∧ query.window.first ≤ query.window.last := by
  refine ⟨fun query possible log => ?_, fun query nothing log => ?_, ?_⟩
  · rw [NodeFilter.returns_toJson_iff, NodeFilter.admits_ofQuery_iff possible]
  · exact Query.selects_of_matchesNothing nothing log
  · intro freedom first last acts run act mem
    exact run.asked Cycle.collect_poses act mem

namespace Sample

/-- The query of a client over the whole market, for the blocks from 1 to 30. -/
def marketwide : Query := marketQuery [contracts.service] ⟨1, 30⟩

/-- The query of a client for what its own accounts spend, while it has none. -/
def ownerless : Query :=
  localQuery [contracts.token] [.transfer, .approval] firstField [] ⟨1, 30⟩

/-- The first of the two cycles that overlap asks the chain for the logs of the whole market. -/
theorem overlap_poses : ∃ act ∈ overlap.map Prod.snd, act.request.Poses marketwide := by
  have asked : (overlap.map Prod.snd).any (fun act =>
      match act.request with
      | .logs query => decide (query = marketwide)
      | _ => false) = true := by decide +kernel
  obtain ⟨act, mem, poses⟩ := List.any_eq_true.1 asked
  refine ⟨act, mem, .inr ?_⟩
  split at poses
  · rename_i query asks
    rw [asks, of_decide_eq_true poses]
  · cases poses

end Sample

/-- A node returns the closing for the query over the whole market, which is posed while two cycles
overlap. -/
theorem returned_closing :
    NodeFilter.Returns (NodeFilter.ofQuery Sample.marketwide).toJson Sample.closing ∧
      Sample.ownerless.selects Sample.closing = false ∧
      (∃ act ∈ Sample.overlap.map Prod.snd, act.request.Poses Sample.marketwide) ∧
      Sample.marketwide.matchesNothing = false ∧
      Sample.marketwide.window.first ≤ Sample.marketwide.window.last := by
  obtain ⟨returned, void, posed⟩ := returns_iff_selects
  obtain ⟨act, mem, poses⟩ := Sample.overlap_poses
  have proper := posed _ _ _ _ Sample.overlapping act mem _ poses
  exact ⟨(returned _ proper.1 _).2 (by decide +kernel), void _ (by decide +kernel) _,
    ⟨act, mem, poses⟩, proper⟩

end ChannelWatch
