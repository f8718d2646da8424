import ChannelWatch.World

/-!
# Programs of requests

A program is what a cycle does: it is done, or it makes a request and goes on with what
comes of it. While a request is under way the cycle may run out of time or be cancelled, as
far as the request's `Guard` lets it; then the request has no effect and the program goes on
with that outcome instead of a reply. A `Cycle` is a program that may end in an error.
-/

namespace ChannelWatch
set_option autoImplicit false

/-- What may cut a request short. -/
structure Guard where
  /-- The end of the cycle's time. -/
  timed : Bool
  /-- The cancellation of the watch. -/
  cancellable : Bool
deriving DecidableEq

namespace Guard

/-- Reading from the store ends with the cycle's time, but not on cancellation. -/
def reading : Guard := ⟨true, false⟩

/-- Work that ends with the cycle's time and on cancellation. -/
def working : Guard := ⟨true, true⟩

/-- What was begun is carried through. -/
def final : Guard := ⟨false, false⟩

end Guard

/-- What comes of a request; only what its guard lets cut it short can do so. -/
inductive Outcome (guard : Guard) (α : Type) where
  | reply (value : α)
  | expired (timed : guard.timed = true)
  | cancelled (cancellable : guard.cancellable = true)

/-- A finite run of requests that ends in a value. -/
inductive Program (α : Type) where
  | done (value : α)
  | ask (guard : Guard) (request : Request) (next : Outcome guard request.Reply → Program α)

namespace Program

variable {α β : Type}

/-- The program that goes on with the value of another one. -/
def bind : Program α → (α → Program β) → Program β
  | done value, f => f value
  | ask guard request next, f => ask guard request fun outcome => (next outcome).bind f

instance : Monad Program where
  pure := done
  bind := bind

@[simp] theorem pure_eq (value : α) : (pure value : Program α) = done value := rfl

@[simp] theorem bind_eq (p : Program α) (f : α → Program β) : p >>= f = p.bind f := rfl

@[simp] theorem done_bind (value : α) (f : α → Program β) : (done value).bind f = f value := rfl

@[simp] theorem ask_bind (guard : Guard) (request : Request)
    (next : Outcome guard request.Reply → Program α) (f : α → Program β) :
    (ask guard request next).bind f = ask guard request fun outcome => (next outcome).bind f :=
  rfl

theorem bind_done (p : Program α) : p.bind done = p := by
  induction p with
  | done value => rfl
  | ask guard request next ih =>
    simp only [ask_bind]
    exact congrArg (ask guard request) (funext ih)

theorem bind_assoc {γ : Type} (p : Program α) (f : α → Program β) (g : β → Program γ) :
    (p.bind f).bind g = p.bind fun value => (f value).bind g := by
  induction p with
  | done value => rfl
  | ask guard request next ih =>
    simp only [ask_bind]
    exact congrArg (ask guard request) (funext ih)

instance : LawfulMonad Program :=
  LawfulMonad.mk' Program (fun p => bind_done p) (fun _ _ => rfl) fun p f g => bind_assoc p f g

/-- Makes a request that nothing cuts short. -/
def insist (request : Request) : Program request.Reply :=
  .ask .final request fun
    | .reply value => .done value
    | .expired timed => absurd timed (by decide)
    | .cancelled cancellable => absurd cancellable (by decide)

end Program

/-- A program that may end in an error. -/
abbrev Cycle := ExceptT CycleError Program

namespace Cycle

/-- Makes a request; to be cut short ends the cycle. -/
def request (guard : Guard) (request : Request) : Cycle request.Reply :=
  ExceptT.mk <| .ask guard request fun
    | .reply value => .done (.ok value)
    | .expired _ => .done (.error .timedOut)
    | .cancelled _ => .done (.error .cancelled)

/-- Makes a request that may be refused; the refusal ends the cycle. -/
def demand {ε α : Type} (wrap : ε → CycleError) (ask : Cycle (Except ε α)) : Cycle α := do
  match ← ask with
  | .ok value => pure value
  | .error e => throw (wrap e)

/-- Carries out a transaction of the store. -/
def transact (guard : Guard) (t : Transaction) : Cycle t.Value :=
  demand CycleError.store (request guard (.store t))

/-- Ends the cycle with the error of a result, if it has one. -/
def ofExcept {α : Type} : Except CycleError α → Cycle α
  | .ok value => pure value
  | .error e => throw e

end Cycle

end ChannelWatch
