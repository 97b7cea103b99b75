import RulePlane.FanOut
import RulePlane.Target

/-!
# Deliveries

How one message reaches a client, and how a push reaches all clients of a target. A send that finds
no room for too long times out and may be tried again; a send to a client that is gone closes its
connection for good. A push goes from connection to connection, and the fan-out mode says what the
first failure does.

Nothing here knows what a stream is: `Channels` is all that a delivery needs of the streams, so the
laws of deliveries hold for every pattern of outcomes.
-/

namespace RulePlane

/-- The number of a client stream. -/
structure StreamId where
  number : Nat
deriving DecidableEq, Repr, Inhabited

/-- How a send ends. -/
inductive SendOutcome where
  | sent
  | timedOut
  | closed
deriving DecidableEq, Repr

/-- Why a push failed. -/
inductive PushError where
  | noConnections (target : Target)
  | timedOut (client : ClientId)
  | closed (client : ClientId)
deriving DecidableEq, Repr

namespace PushError

/-- The report on a failed push. -/
def message : PushError → String
  | noConnections target => "no connections subscribe to " ++ target.render
  | timedOut client => "timed out sending to " ++ client.text
  | closed client => "stream to " ++ client.text ++ " is closed"

/-- Whether the push failed because nobody holds its target. -/
def isNoConnections : PushError → Bool
  | noConnections _ => true
  | _ => false

end PushError

/-- What the end of a send to a client means for a push. -/
def SendOutcome.result (client : ClientId) : SendOutcome → Except PushError Unit
  | sent => .ok ()
  | timedOut => .error (.timedOut client)
  | closed => .error (.closed client)

/-- What a delivery needs of the streams. `attempt` sends once, and waits no longer than the
    configured time; `invalidate` marks a connection as closed; `count` notes how a delivery
    ended. -/
structure Channels (σ μ : Type) where
  isValid : StreamId → σ → Bool
  attempt : StreamId → μ → σ → SendOutcome × σ
  invalidate : StreamId → σ → σ
  count : Bool → σ → σ

namespace Push

variable {σ γ μ : Type}

/-- Repeat an attempt that times out, up to a number of times. -/
def retry (attempt : σ → SendOutcome × σ) : Nat → σ → SendOutcome × σ
  | 0, state => attempt state
  | more + 1, state =>
      match attempt state with
      | (.timedOut, state) => retry attempt more state
      | (.sent, state) => (.sent, state)
      | (.closed, state) => (.closed, state)

/-- Send to connections one after another. Failing fast stops at the first failure; the best effort
    goes on and reports the first failure at the end. -/
def fanOut (mode : FanOutMode) (send : γ → σ → Except PushError Unit × σ) :
    List γ → σ → Except PushError Unit × σ
  | [], state => (.ok (), state)
  | connection :: rest, state =>
      match send connection state with
      | (.ok (), state) => fanOut mode send rest state
      | (.error fault, state) =>
          match mode with
          | .failFast => (.error fault, state)
          | .bestEffort => (.error fault, (fanOut mode send rest state).2)

end Push

namespace Channels

variable {σ μ : Type}

/-- Send once; a connection whose client is gone becomes invalid. -/
def send (channels : Channels σ μ) (stream : StreamId) (message : μ) (state : σ) :
    SendOutcome × σ :=
  match channels.attempt stream message state with
  | (.closed, state) => (.closed, channels.invalidate stream state)
  | (.sent, state) => (.sent, state)
  | (.timedOut, state) => (.timedOut, state)

/-- Send up to a number of times, but at least once, and count how that ended. -/
def deliver (channels : Channels σ μ) (maxAttempts : Nat) (stream : StreamId) (message : μ)
    (state : σ) : SendOutcome × σ :=
  let (outcome, state) := Push.retry (channels.send stream message) (maxAttempts - 1) state
  (outcome, channels.count (outcome = .sent) state)

/-- Deliver to one connection of a push; an invalid one is passed over. A message is made for each
    connection, also for those that are passed over. -/
def deliverTo (channels : Channels σ μ) (maxAttempts : Nat) (make : σ → μ × σ)
    (connection : ClientId × StreamId) (state : σ) : Except PushError Unit × σ :=
  let (message, state) := make state
  if channels.isValid connection.2 state then
    let (outcome, state) := channels.deliver maxAttempts connection.2 message state
    (outcome.result connection.1, state)
  else (.ok (), state)

/-- Deliver to all connections of a push. -/
def publish (channels : Channels σ μ) (mode : FanOutMode) (maxAttempts : Nat) (make : σ → μ × σ)
    (connections : List (ClientId × StreamId)) (state : σ) : Except PushError Unit × σ :=
  Push.fanOut mode (channels.deliverTo maxAttempts make) connections state

end Channels

end RulePlane
