import ChannelWatch.Proofs.Round

/-!
# What requests make of a world

`Request.Makes` lists what a request may change, and `Site.makes` says that nothing else
happens. What grows, what stays and what is kept apart in a world is read off from it.
-/

namespace ChannelWatch
set_option autoImplicit false

namespace World

/-- The world with the logs of a window stored and the checkpoint moved. -/
def commit (world : World) (logs : List Log) (last : BlockNumber) : World :=
  let taken := logs.foldl Store.takeIn (world.store.events, world.mint)
  let settings :=
    Table.put world.store.settings Settings.checkpointKey (Numeral.decimal last.toNat)
  { world with store := { world.store with events := taken.1, settings }, mint := taken.2 }

/-- The world with a job accepted by the queue. -/
def accept (world : World) (job : Job) : World :=
  { world with
    queue := { world.queue with jobs := world.queue.jobs ++ [(world.mint.next.1, job)] }
    mint := world.mint.next.2 }

end World

/-- What a request may make of a world. -/
inductive Request.Makes (world : World) : Request → World → Prop where
  | same (request : Request) : Makes world request world
  | setting (key value : String) :
      Makes world (.store (.setSetting key value))
        { world with
          store := { world.store with settings := Table.put world.store.settings key value } }
  | committed (logs : List Log) (last : BlockNumber) {checkpoint : BlockNumber}
      (read : world.store.checkpoint = .ok checkpoint) (ahead : checkpoint ≤ last) :
      Makes world (.store (.commitWindow logs last)) (world.commit logs last)
  | advanced (logs : List Log) (window : Window) {checkpoint : BlockNumber}
      (read : world.store.checkpoint = .ok checkpoint) (ahead : checkpoint ≤ window.last) :
      Makes world (.advance logs window) (world.commit logs window.last)
  | disposed (event : Id) (disposition : Disposition) {events : List StoredEvent}
      (found : Store.disposeRow event disposition world.store.events = some events) :
      Makes world (.store (.disposeEvent event disposition))
        { world with store := { world.store with events } }
  | asked (query : Query) :
      Makes world (.sendQuery query) { world with chain := world.chain.record query }
  | reset : Makes world .resetConnections { world with chain := world.chain.reset }
  | accepted (job : Job) (taken : world.queue.refusal? job = none) :
      Makes world (.offer job) (world.accept job)
  | drawn : Makes world .freshId { world with mint := world.mint.next.2 }
  | maintained (u : Upkeep) :
      Makes world (.upkeep u)
        { world with
          store := (world.store.maintain world.mint u).2.1
          mint := (world.store.maintain world.mint u).2.2 }

theorem World.transact_eq (world : World) (t : Transaction) :
    world.transact t =
      ((world.store.transact world.mint t).1,
        { world with
          store := (world.store.transact world.mint t).2.1
          mint := (world.store.transact world.mint t).2.2 }) := rfl

theorem World.transact_makes (world : World) (t : Transaction) :
    Request.Makes world (.store t) (world.transact t).2 := by
  rw [World.transact_eq]
  cases on : world.store.available with
  | false =>
    simp only [Store.transact, on]
    exact .same _
  | true =>
    simp only [Store.transact, on, if_true]
    cases t with
    | setSetting key value => exact .setting key value
    | commitWindow logs last =>
      simp only [Store.grant, Store.commitWindow]
      cases read : world.store.checkpoint with
      | error e => exact .same _
      | ok checkpoint =>
        by_cases behind : last < checkpoint
        · simp only [if_pos behind]
          exact .same _
        · simp only [if_neg behind]
          exact .committed logs last read (UInt64.not_lt.1 behind)
    | disposeEvent event disposition =>
      simp only [Store.grant]
      cases found : Store.disposeRow event disposition world.store.events with
      | none => exact .same _
      | some events => exact .disposed event disposition found
    | _ => exact .same _

theorem World.transact_getSetting (world : World) (key : String) :
    (world.transact (.getSetting key)).2 = world := by
  cases on : world.store.available <;> simp [World.transact, Store.transact, Store.grant, on]

/-- To ask for the checkpoint changes nothing, but that an answer is remembered. -/
theorem Site.checkpoint_cases (site : Site) :
    site.checkpoint.2 = site ∨
      ∃ block, site.checkpoint.1 = .ok block ∧
        site.checkpoint.2 = { site with desk := { site.desk with cached := some block } } := by
  have read := site.world.transact_getSetting Settings.checkpointKey
  unfold Site.checkpoint
  cases site.desk.cached with
  | some block => exact .inl rfl
  | none =>
    generalize site.world.transact (.getSetting Settings.checkpointKey) = answer at read
    obtain ⟨reply, world⟩ := answer
    obtain rfl : world = site.world := read
    cases reply with
    | error e => exact .inl rfl
    | ok text =>
      simp only
      cases Settings.orZero Settings.checkpointKey text with
      | error e => exact .inl rfl
      | ok block => exact .inr ⟨block, rfl, rfl⟩

theorem Site.checkpoint_world (site : Site) : site.checkpoint.2.world = site.world := by
  rcases site.checkpoint_cases with same | ⟨block, -, remembered⟩
  · rw [same]
  · rw [remembered]

theorem Site.advance_reply (site : Site) (logs : List Log) (window : Window) :
    (site.advance logs window).1 = (site.world.transact (.commitWindow logs window.last)).1 := by
  unfold Site.advance
  generalize site.world.transact (.commitWindow logs window.last) = answer
  obtain ⟨reply, world⟩ := answer
  cases reply <;> rfl

theorem Site.advance_world (site : Site) (logs : List Log) (window : Window) :
    (site.advance logs window).2.world =
      (site.world.transact (.commitWindow logs window.last)).2 := by
  unfold Site.advance
  generalize site.world.transact (.commitWindow logs window.last) = answer
  obtain ⟨reply, world⟩ := answer
  cases reply <;> rfl

/-- A request makes nothing else of the world of a site. -/
theorem Site.makes (site : Site) (request : Request) :
    request.Makes site.world (site.perform request).2.world := by
  cases request with
  | store t => exact site.world.transact_makes t
  | checkpoint =>
    rw [show (site.perform .checkpoint).2 = site.checkpoint.2 from rfl, site.checkpoint_world]
    exact .same _
  | advance logs window =>
    rw [show (site.perform (.advance logs window)).2 = (site.advance logs window).2 from rfl,
      site.advance_world]
    have made := site.world.transact_makes (.commitWindow logs window.last)
    generalize (site.world.transact (.commitWindow logs window.last)).2 = after at made ⊢
    cases made with
    | same => exact .same _
    | committed _ _ read ahead => exact .advanced logs window read ahead
  | sendQuery query => exact .asked query
  | resetConnections => exact .reset
  | offer job =>
    simp only [Site.perform, Queue.add]
    cases refused : site.world.queue.refusal? job with
    | some error => exact .same _
    | none => exact .accepted job refused
  | freshId => exact .drawn
  | upkeep u => exact .maintained u
  | _ => exact .same _

end ChannelWatch
