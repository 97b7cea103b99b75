import RulePlane.Push.Delivery

/-!
# Outboxes

The response side of a client stream: what was sent to the client and not read yet. An outbox that
is full, or whose reader is gone, takes no more.
-/

namespace RulePlane

/-- The messages that wait for a client. Without a capacity there is always room. -/
structure Outbox (μ : Type) where
  capacity : Option Nat
  waiting : List μ
  readerGone : Bool

namespace Outbox

variable {μ : Type}

/-- An empty outbox. -/
def ofCapacity (capacity : Option Nat) : Outbox μ := ⟨capacity, [], false⟩

/-- Whether no message fits in. -/
def isFull (outbox : Outbox μ) : Bool :=
  match outbox.capacity with
  | some capacity => capacity ≤ outbox.waiting.length
  | none => false

/-- Whether a message has to wait for room if a number of others are ahead of it. Nothing waits for
    a reader that is gone. -/
def isCrowded (ahead : Nat) (outbox : Outbox μ) : Bool :=
  !outbox.readerGone && outbox.capacity.any fun capacity => capacity ≤ outbox.waiting.length + ahead

/-- Put a message into the outbox. A full outbox lets it time out unless somebody makes room. -/
def offer (outbox : Outbox μ) (message : μ) : SendOutcome × Outbox μ :=
  if outbox.readerGone then (.closed, outbox)
  else if outbox.isFull then (.timedOut, outbox)
  else (.sent, { outbox with waiting := outbox.waiting ++ [message] })

/-- Read up to a number of messages. -/
def read (outbox : Outbox μ) (most : Nat) : List μ × Outbox μ :=
  (outbox.waiting.take most, { outbox with waiting := outbox.waiting.drop most })

/-- Read all messages. -/
def readAll (outbox : Outbox μ) : List μ × Outbox μ := outbox.read outbox.waiting.length

/-- The reader goes away; what it did not read is lost. -/
def hangUp (outbox : Outbox μ) : Outbox μ := { outbox with waiting := [], readerGone := true }

/-- A message is put behind all others or not at all. -/
theorem waiting_offer (outbox : Outbox μ) (message : μ) :
    (outbox.offer message).2.waiting =
      if (outbox.offer message).1 = .sent then outbox.waiting ++ [message]
      else outbox.waiting := by
  unfold offer
  repeat' split
  all_goals simp_all

end Outbox

end RulePlane
