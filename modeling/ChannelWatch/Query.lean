import ChannelWatch.Window

/-!
# Log queries

A query asks for the logs of some contracts in a window whose topics lie in given sets. A
topic position without a set is open; an empty set matches no log at all, while an empty
list of addresses matches every contract.
-/

namespace ChannelWatch
set_option autoImplicit false

/-- Whether a query names local identities only or the whole market. -/
inductive Scope where
  | own
  | market
deriving DecidableEq

/-- What a topic position demands: nothing, or one of a list of topics. -/
abbrev Constraint := Option (List Hash)

/-- A request for logs. -/
structure Query where
  addresses : List Address
  topics : Vector Constraint 4
  window : Window
  scope : Scope
deriving DecidableEq

namespace Constraint

/-- The constraint lets a topic pass; where there is none, only the open one does. -/
def admits : Constraint → Option Hash → Bool
  | none, _ => true
  | some set, some topic => set.contains topic
  | some _, none => false

/-- The constraint lets no topic pass. -/
def isVoid : Constraint → Bool
  | some [] => true
  | _ => false

end Constraint

namespace Query

/-- The query without demands on topics. -/
def within (addresses : List Address) (window : Window) (scope : Scope) : Query :=
  ⟨addresses, Vector.replicate 4 none, window, scope⟩

/-- The query that also wants the topic at `position` in a set. -/
def restrict (query : Query) (position : Fin 4) (set : List Hash) : Query :=
  { query with topics := query.topics.set position (some set) }

/-- As `restrict`, for a position that may lie outside the four topics. -/
def restrict? (query : Query) (position : Nat) (set : List Hash) : Option Query :=
  if h : position < 4 then some (query.restrict ⟨position, h⟩ set) else none

/-- The query that wants one of the given events. -/
def events (query : Query) (kinds : List EventKind) : Query :=
  query.restrict ⟨0, by decide⟩ (kinds.map EventKind.signature)

/-- Some topic position is held to an empty set. -/
def matchesNothing (query : Query) : Bool := query.topics.toList.any Constraint.isVoid

/-- The query asks for this log. -/
def selects (query : Query) (log : Log) : Bool :=
  query.window.contains log.block &&
    (query.addresses.isEmpty || query.addresses.contains log.address) &&
    (List.finRange 4).all fun position => (query.topics[position]).admits (log.topic position)

theorem topics_restrict (query : Query) (position i : Fin 4) (set : List Hash) :
    (query.restrict position set).topics[i] =
      if position = i then some set else query.topics[i] := by
  by_cases h : position = i
  · subst h
    simp [restrict]
  · have ne : position.val ≠ i.val := fun e => h (Fin.ext e)
    simp [restrict, h, ne]

theorem selects_iff (query : Query) (log : Log) :
    query.selects log = true ↔
      query.window.contains log.block = true ∧
      (query.addresses = [] ∨ log.address ∈ query.addresses) ∧
      ∀ position : Fin 4, (query.topics[position]).admits (log.topic position) = true := by
  simp [Query.selects, and_assoc]

theorem topics_within (addresses : List Address) (window : Window) (scope : Scope)
    (position : Fin 4) : (within addresses window scope).topics[position] = none := by
  simp [within]

theorem selects_within_iff {addresses : List Address} (named : addresses ≠ []) (window : Window)
    (scope : Scope) (log : Log) :
    (within addresses window scope).selects log = true ↔
      window.contains log.block = true ∧ log.address ∈ addresses := by
  rw [selects_iff]
  simp only [topics_within]
  simp [within, Constraint.admits, named]

/-- A demand on an open topic is one more condition. -/
theorem selects_restrict_iff {query : Query} {position : Fin 4}
    (isOpen : query.topics[position] = none) (set : List Hash) (log : Log) :
    (query.restrict position set).selects log = true ↔
      query.selects log = true ∧ Constraint.admits (some set) (log.topic position) = true := by
  rw [selects_iff, selects_iff]
  have demand : (∀ i : Fin 4, ((query.restrict position set).topics[i]).admits (log.topic i) = true) ↔
      (∀ i : Fin 4, (query.topics[i]).admits (log.topic i) = true) ∧
        Constraint.admits (some set) (log.topic position) = true := by
    simp only [topics_restrict]
    constructor
    · intro all
      have here : Constraint.admits (some set) (log.topic position) = true := by
        simpa using all position
      refine ⟨fun i => ?_, here⟩
      by_cases same : position = i
      · rw [← same, isOpen]
        rfl
      · simpa [same] using all i
    · rintro ⟨others, here⟩ i
      by_cases same : position = i
      · subst same
        simpa using here
      · simpa [same] using others i
  rw [demand]
  simp only [restrict, and_assoc]

theorem matchesNothing_iff (query : Query) :
    query.matchesNothing = true ↔ ∃ position : Fin 4, query.topics[position] = some [] := by
  have void : ∀ c : Constraint, c.isVoid = true ↔ c = some [] := by
    intro c
    match c with
    | none => simp [Constraint.isVoid]
    | some [] => simp [Constraint.isVoid]
    | some (_ :: _) => simp [Constraint.isVoid]
  constructor
  · intro h
    obtain ⟨c, hc, hv⟩ := List.any_eq_true.1 h
    obtain ⟨i, hi, rfl⟩ := List.getElem_of_mem hc
    have small : i < 4 := by simpa using hi
    exact ⟨⟨i, small⟩, by simpa using (void _).1 hv⟩
  · rintro ⟨position, h⟩
    refine List.any_eq_true.2 ⟨query.topics[position], ?_, (void _).2 h⟩
    simp

/-- A query that matches nothing matches no log. -/
theorem selects_of_matchesNothing {query : Query} (h : query.matchesNothing = true) (log : Log) :
    query.selects log = false := by
  obtain ⟨position, empty⟩ := (matchesNothing_iff query).1 h
  cases m : query.selects log with
  | false => rfl
  | true =>
    have admitted := ((selects_iff query log).1 m).2.2 position
    rw [empty] at admitted
    cases t : log.topic position <;> simp [Constraint.admits, t] at admitted

end Query

end ChannelWatch
