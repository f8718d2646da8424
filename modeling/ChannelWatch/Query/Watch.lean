import ChannelWatch.Query

/-!
# The queries of a role

A node cannot be asked for an address in one topic or another, so a role asks several
queries that together cover what it has to see. Those that name the local addresses match
nothing while there are none.
-/

namespace ChannelWatch
set_option autoImplicit false

/-- The events that a client follows across the whole market. -/
def marketEvents : List EventKind :=
  [.channelCreated, .offeringCreated, .offeringDeleted, .offeringPoppedUp, .cooperativeClose,
    .uncooperativeClose]

/-- The topic of an event's first field. -/
def firstField : Fin 4 := ⟨1, by decide⟩

/-- The topic of an event's second field. -/
def secondField : Fin 4 := ⟨2, by decide⟩

/-- The query for events that name one of the local addresses in a field. -/
def localQuery (contracts : List Address) (kinds : List EventKind) (field : Fin 4)
    (locals : List Address) (window : Window) : Query :=
  ((Query.within contracts window .own).events kinds).restrict field (locals.map Address.toTopic)

/-- The query for the events that a client follows across the whole market. -/
def marketQuery (contracts : List Address) (window : Window) : Query :=
  (Query.within contracts window .market).events marketEvents

/-- The queries that `role` asks about one window. -/
def watchQueries (role : Role) (contracts : Contracts) (locals : List Address)
    (window : Window) : List Query :=
  let both := [contracts.service, contracts.token]
  match role with
  | .agent =>
    [localQuery both EventKind.all firstField locals window,
      localQuery [contracts.token] [.transfer] secondField locals window]
  | .client =>
    [localQuery both [.transfer, .channelToppedUp, .closeRequested] secondField locals window,
      localQuery [contracts.token] [.transfer, .approval] firstField locals window,
      marketQuery [contracts.service] window]

/-- A log that a query returned is kept unless it was taken back, or tells a client about an
offering of its own through the query over the whole market. -/
def keeps (query : Query) (locals : List Address) (log : Log) : Bool :=
  !log.removed &&
    !(query.scope = .market && log.kind.any EventKind.isOffering &&
      (log.topicAddress 1).any locals.contains)

theorem window_of_mem_watchQueries {role : Role} {contracts : Contracts} {locals : List Address}
    {window : Window} {query : Query} (h : query ∈ watchQueries role contracts locals window) :
    query.window = window := by
  cases role <;>
    simp only [watchQueries, List.mem_cons, List.not_mem_nil, or_false] at h <;>
    rcases h with rfl | rfl | rfl <;> rfl

end ChannelWatch
