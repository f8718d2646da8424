import ChannelWatch.ErrorInbox
import ChannelWatch.Timeline.Ticker
import ChannelWatch.Timeline.Line

/-!
# Time and shared things

A `Timeline` is the world at a moment, together with what several strands of work share:
each watch has a `Post`, where its desk stands behind a waiting line and where its errors
wait, and all of them queue for the one store.
-/

namespace ChannelWatch
set_option autoImplicit false

/-- The place of a watch: its desk, the line in front of the checkpoint, and its errors. -/
structure Post where
  desk : Desk
  line : Line
  inbox : ErrorInbox
deriving DecidableEq

/-- A post that nobody has used yet. -/
def Post.fresh : Post := ⟨.fresh, .empty, .empty⟩

/-- The world at a moment, the posts, and the line in front of the store. -/
structure Timeline where
  now : Nat
  world : World
  posts : List Post
  line : Line

namespace Timeline

/-- The beginning, without a post. -/
def start (head : BlockNumber) : Timeline := ⟨0, .start head, [], .empty⟩

/-- The post with a number; one that was never set up is fresh. -/
def post (timeline : Timeline) (number : Nat) : Post := timeline.posts.getD number .fresh

/-- The timeline with a post changed. -/
def alter (timeline : Timeline) (number : Nat) (change : Post → Post) : Timeline :=
  { timeline with posts := timeline.posts.modify number change }

/-- One more post, and its number. -/
def setUp (timeline : Timeline) (desk : Desk) : Nat × Timeline :=
  (timeline.posts.length,
    { timeline with posts := timeline.posts ++ [{ Post.fresh with desk }] })

/-- The watch of a post has to stop. -/
def isCancelled (timeline : Timeline) (number : Nat) : Bool := (timeline.post number).desk.cancelled

/-- Tells the watch of a post to stop. -/
def cancel (timeline : Timeline) (number : Nat) : Timeline :=
  timeline.alter number fun post => { post with desk := { post.desk with cancelled := true } }

/-- Where the requests of a post take effect. -/
def site (timeline : Timeline) (number : Nat) : Site :=
  ⟨timeline.world, (timeline.post number).desk⟩

/-- Carries out a request of a post. -/
def perform (timeline : Timeline) (number : Nat) (request : Request) :
    request.Reply × Timeline :=
  let (reply, site) := (timeline.site number).perform request
  (reply, { timeline with world := site.world }.alter number fun post =>
    { post with desk := site.desk })

/-- A strand gives up its places in the lines of its post and of the store. -/
def leave (timeline : Timeline) (strand : Strand) (number : Nat) : Timeline :=
  { timeline with line := timeline.line.leave strand }.alter number fun post =>
    { post with line := post.line.leave strand }

/-- An error arrives at a post where at most `capacity` may wait. -/
def report (timeline : Timeline) (number capacity : Nat) (error : CycleError) : Timeline :=
  timeline.alter number fun post => { post with inbox := post.inbox.report capacity error }

/-- Time goes on to a moment, or stays where that has passed. -/
def goOn (timeline : Timeline) (moment : Nat) : Timeline :=
  { timeline with now := max timeline.now moment }

end Timeline

end ChannelWatch
