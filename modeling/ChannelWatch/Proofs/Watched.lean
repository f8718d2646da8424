import ChannelWatch.Query.Watch

/-!
# What a role watches

`Watched` says which logs concern a watch, without a word about queries. The main statement,
`watched_iff`, is that the queries of a role select and keep just these.
-/

namespace ChannelWatch
set_option autoImplicit false

namespace Log

/-- The log reports one of the events. -/
def Reports (log : Log) (kinds : List EventKind) : Prop := ∃ kind ∈ kinds, log.kind = some kind

/-- The topic at a position is the word of one of the addresses. -/
def Names (log : Log) (addresses : List Address) (position : Nat) : Prop :=
  ∃ address ∈ addresses, log.topic position = some address.toTopic

/-- The log tells of an offering whose agent is one of the addresses. -/
def OffersFor (log : Log) (agents : List Address) : Prop :=
  (∃ kind, log.kind = some kind ∧ kind.isOffering = true) ∧
    ∃ agent ∈ agents, log.topicAddress 1 = some agent

theorem kind_eq_some_iff {log : Log} {kind : EventKind} :
    log.kind = some kind ↔ log.topic 0 = some kind.signature := by
  rw [Log.kind, Log.topic, List.head?_eq_getElem?]
  cases log.topics[0]? with
  | none => simp
  | some topic =>
    rw [Option.bind_some, EventKind.ofSignature?_eq_some_iff, Option.some.injEq, eq_comm]

end Log

/-- The log concerns a watch of a role: it names a local address where the role looks for
one, or tells a client about the market, its own offerings apart. -/
def Watched (role : Role) (contracts : Contracts) (locals : List Address) (log : Log) : Prop :=
  match role with
  | .agent =>
    (log.Reports EventKind.all ∧
        (log.address = contracts.service ∨ log.address = contracts.token) ∧ log.Names locals 1) ∨
      (log.Reports [.transfer] ∧ log.address = contracts.token ∧ log.Names locals 2)
  | .client =>
    (log.Reports [.transfer, .channelToppedUp, .closeRequested] ∧
        (log.address = contracts.service ∨ log.address = contracts.token) ∧ log.Names locals 2) ∨
      (log.Reports [.transfer, .approval] ∧ log.address = contracts.token ∧ log.Names locals 1) ∨
      (log.Reports marketEvents ∧ log.address = contracts.service ∧ ¬ log.OffersFor locals)

theorem Constraint.admits_map_iff {α : Type} {f : α → Hash} {list : List α}
    {topic : Option Hash} :
    Constraint.admits (some (list.map f)) topic = true ↔ ∃ a ∈ list, topic = some (f a) := by
  cases topic <;> simp [Constraint.admits, eq_comm]

namespace Query

variable {contracts locals : List Address} {kinds : List EventKind} {window : Window}
  {scope : Scope} {log : Log}

theorem selects_events_iff (named : contracts ≠ []) :
    ((within contracts window scope).events kinds).selects log = true ↔
      window.contains log.block = true ∧ log.address ∈ contracts ∧ log.Reports kinds := by
  rw [events, selects_restrict_iff (topics_within _ _ _ _), selects_within_iff named,
    Constraint.admits_map_iff, and_assoc]
  simp only [Log.Reports, Log.kind_eq_some_iff]

/-- A query for local addresses selects the logs that report one of the events and name one of
the addresses in the field. -/
theorem selects_localQuery_iff (named : contracts ≠ []) {field : Fin 4}
    (inner : (⟨0, by decide⟩ : Fin 4) ≠ field) :
    (localQuery contracts kinds field locals window).selects log = true ↔
      (window.contains log.block = true ∧ log.address ∈ contracts ∧ log.Reports kinds) ∧
        log.Names locals field := by
  have isOpen : ((within contracts window .own).events kinds).topics[field] = none := by
    rw [events, topics_restrict, if_neg inner, topics_within]
  rw [localQuery, selects_restrict_iff isOpen, selects_events_iff named, Constraint.admits_map_iff,
    Log.Names]

theorem selects_marketQuery_iff (named : contracts ≠ []) :
    (marketQuery contracts window).selects log = true ↔
      window.contains log.block = true ∧ log.address ∈ contracts ∧ log.Reports marketEvents :=
  selects_events_iff named

end Query

theorem keeps_own_iff {query : Query} (own : query.scope = .own) {locals : List Address} {log : Log} :
    keeps query locals log = true ↔ log.removed = false := by
  simp [keeps, own]

theorem keeps_market_iff {query : Query} (market : query.scope = .market) {locals : List Address}
    {log : Log} :
    keeps query locals log = true ↔ log.removed = false ∧ ¬ log.OffersFor locals := by
  have offers : (log.kind.any EventKind.isOffering && (log.topicAddress 1).any locals.contains) =
      true ↔ log.OffersFor locals := by
    rw [Bool.and_eq_true, Option.any_eq_true, Option.any_eq_true, Log.OffersFor]
    simp [and_comm]
  rw [← offers, keeps, Bool.and_eq_true, Bool.not_eq_true', Bool.not_eq_true', Bool.not_eq_true]
  simp only [market, decide_true, Bool.true_and]

/-- The queries of a role select and keep the logs of the window that concern the watch, as long
as they were not taken back. -/
theorem watched_iff {role : Role} {contracts : Contracts} {locals : List Address}
    {window : Window} {log : Log} :
    (∃ query ∈ watchQueries role contracts locals window,
        query.selects log = true ∧ keeps query locals log = true) ↔
      window.contains log.block = true ∧ log.removed = false ∧ Watched role contracts locals log := by
  have first : (⟨0, by decide⟩ : Fin 4) ≠ firstField := by decide
  have second : (⟨0, by decide⟩ : Fin 4) ≠ secondField := by decide
  have both : [contracts.service, contracts.token] ≠ [] := List.cons_ne_nil _ _
  have own : ∀ {contracts kinds field}, (localQuery contracts kinds field locals window).scope =
      .own := rfl
  cases role with
  | agent =>
    simp only [watchQueries, List.mem_cons, List.not_mem_nil, or_false, exists_eq_or_imp,
      exists_eq_left, Query.selects_localQuery_iff both first,
      Query.selects_localQuery_iff (List.cons_ne_nil _ _) second, keeps_own_iff own, Watched,
      show (firstField : Nat) = 1 from rfl, show (secondField : Nat) = 2 from rfl]
    grind
  | client =>
    have market : (marketQuery [contracts.service] window).scope = .market := rfl
    simp only [watchQueries, List.mem_cons, List.not_mem_nil, or_false, exists_eq_or_imp,
      exists_eq_left, Query.selects_localQuery_iff both second,
      Query.selects_localQuery_iff (List.cons_ne_nil _ _) first, keeps_own_iff own,
      keeps_market_iff market, Query.selects_marketQuery_iff (List.cons_ne_nil _ _), Watched,
      show (firstField : Nat) = 1 from rfl, show (secondField : Nat) = 2 from rfl]
    grind

end ChannelWatch
