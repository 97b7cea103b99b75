import RulePlane.Push.Delivery

/-!
# Activities

A send may have to wait for room, and while it waits others go on. An activity is a piece of work
that is cut at its sends: it is finished, or it names the send that it is about to make and goes on
when that has met its outcome, from whatever the state is by then.

If nothing else happens between the sends, an activity is completed. Each way of putting activities
together completes as the operation of the same shape does that never waits.
-/

namespace RulePlane

/-- A piece of work on a state that sends messages. A send waits for room no longer than a time. -/
inductive Activity (μ σ α : Type) where
  | finished (result : α) (state : σ)
  | sending (stream : StreamId) (millis : Nat) (message : μ) (state : σ)
      (resume : SendOutcome → σ → Activity μ σ α)

namespace Activity

variable {μ σ α β γ : Type}

/-- Go on when an activity is finished. -/
def bind : Activity μ σ α → (α → σ → Activity μ σ β) → Activity μ σ β
  | finished result state, next => next result state
  | sending stream millis message state resume, next =>
      sending stream millis message state fun outcome state => (resume outcome state).bind next

/-- Do something with the result of an activity. -/
def map (change : α → β) (activity : Activity μ σ α) : Activity μ σ β :=
  activity.bind fun result state => finished (change result) state

/-- Repeat a send that times out, up to a number of times. -/
def retry (attempt : σ → Activity μ σ SendOutcome) : Nat → σ → Activity μ σ SendOutcome
  | 0, state => attempt state
  | more + 1, state =>
      (attempt state).bind fun outcome state =>
        match outcome with
        | .timedOut => retry attempt more state
        | .sent => finished .sent state
        | .closed => finished .closed state

/-- Send to connections one after another, and treat a failure as the mode says. -/
def fanOut (mode : FanOutMode) (send : γ → σ → Activity μ σ (Except PushError Unit)) :
    List γ → σ → Activity μ σ (Except PushError Unit)
  | [], state => finished (.ok ()) state
  | connection :: rest, state =>
      (send connection state).bind fun result state =>
        match result, mode with
        | .ok (), _ => fanOut mode send rest state
        | .error fault, .failFast => finished (.error fault) state
        | .error fault, .bestEffort =>
            (fanOut mode send rest state).map fun _ => .error fault

/-- Deal with items one after another. -/
def each (step : σ → γ → Activity μ σ Unit) : List γ → σ → Activity μ σ Unit
  | [], state => finished () state
  | item :: rest, state => (step state item).bind fun _ state => each step rest state

variable (attempt : Nat → StreamId → μ → σ → SendOutcome × σ)

/-- Make all sends of an activity at once, with nothing in between. -/
def complete : Activity μ σ α → α × σ
  | finished result state => (result, state)
  | sending stream millis message state resume =>
      (resume (attempt millis stream message state).1
        (attempt millis stream message state).2).complete

@[simp] theorem complete_finished (result : α) (state : σ) :
    (finished result state : Activity μ σ α).complete attempt = (result, state) := rfl

/-- What follows an activity begins where that is complete. -/
@[simp] theorem complete_bind (activity : Activity μ σ α) (next : α → σ → Activity μ σ β) :
    (activity.bind next).complete attempt =
      (next (activity.complete attempt).1 (activity.complete attempt).2).complete attempt := by
  induction activity with
  | finished result state => rfl
  | sending stream millis message state resume onResuming => exact onResuming _ _

@[simp] theorem complete_map (change : α → β) (activity : Activity μ σ α) :
    (activity.map change).complete attempt =
      (change (activity.complete attempt).1, (activity.complete attempt).2) := by
  rw [map, complete_bind, complete_finished]

/-- Repeated sends complete as repeated attempts. -/
theorem complete_retry (send : σ → Activity μ σ SendOutcome) (most : Nat) (state : σ) :
    (retry send most state).complete attempt =
      Push.retry (fun state => (send state).complete attempt) most state := by
  induction most generalizing state with
  | zero => rfl
  | succ more onRest =>
      rw [retry, complete_bind, Push.retry]
      obtain ⟨outcome, reached⟩ := (send state).complete attempt
      cases outcome with
      | sent => rfl
      | timedOut => exact onRest reached
      | closed => rfl

/-- Sending to connections completes as a fan-out over completed sends. -/
theorem complete_fanOut (mode : FanOutMode)
    (send : γ → σ → Activity μ σ (Except PushError Unit)) (connections : List γ) (state : σ) :
    (fanOut mode send connections state).complete attempt =
      Push.fanOut mode (fun connection state => (send connection state).complete attempt)
        connections state := by
  induction connections generalizing state with
  | nil => rfl
  | cons connection rest onRest =>
      rw [fanOut, complete_bind, Push.fanOut]
      obtain ⟨result, reached⟩ := (send connection state).complete attempt
      cases result with
      | ok => exact onRest reached
      | error fault =>
          cases mode with
          | failFast => rfl
          | bestEffort => simp only [complete_map, onRest]

/-- Items that are dealt with by steps that complete make up a fold. -/
theorem complete_each {step : σ → γ → Activity μ σ Unit} {change : σ → γ → σ}
    (completes : ∀ state item, (step state item).complete attempt = ((), change state item))
    (items : List γ) (state : σ) :
    (each step items state).complete attempt = ((), items.foldl change state) := by
  induction items generalizing state with
  | nil => rfl
  | cons item rest onRest =>
      rw [each, complete_bind, completes, List.foldl_cons]
      exact onRest (change state item)

end Activity

end RulePlane
