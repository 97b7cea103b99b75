import RulePlane.Plane.Activity
import RulePlane.Proofs.Sending

/-!
# What happens between sends

An activity is cut at its sends, and in between others may have changed the state. So what can be
said of it is said piece by piece: each piece, from one send to the next, is within a relation,
whatever state it goes on from, as long as that satisfies a condition (`Activity.Within`). The ways
of putting activities together keep this, one law for each of them.

The condition has to last while a piece runs (`Lasting`); that it lasts while others are at work is
for those to say who put the pieces in an order.
-/

namespace RulePlane

variable {μ σ α β γ : Type}

/-- A relation that may be repeated, and a condition that it does not end. -/
structure Lasting (holds : σ → Prop) (relation : σ → σ → Prop) : Prop where
  frame : Frame relation
  lasts : ∀ {before after}, holds before → relation before after → holds after

/-- If a step for every item is within the relation, so are the steps for several items. -/
theorem Lasting.foldl {holds : σ → Prop} {relation : σ → σ → Prop}
    (lasting : Lasting holds relation) {step : σ → γ → σ}
    (within : ∀ state item, holds state → relation state (step state item)) (items : List γ)
    {start : σ} (satisfied : holds start) : relation start (items.foldl step start) := by
  induction items generalizing start with
  | nil => exact lasting.frame.refl start
  | cons item rest inductionHypothesis =>
    have first := within start item satisfied
    exact lasting.frame.trans first (inductionHypothesis (lasting.lasts satisfied first))

namespace Activity

/-- Each piece of an activity is within a relation, if it goes on from states that satisfy a
    condition, and each message is one that the activity may send. -/
def Within (holds : σ → Prop) (relation : σ → σ → Prop) (own : StreamId → μ → Prop) :
    Activity μ σ α → σ → Prop
  | finished _ state, start => relation start state
  | sending stream _ message state resume, start =>
      relation start state ∧ own stream message ∧
        ∀ outcome later, holds later → (resume outcome later).Within holds relation own later

variable {holds : σ → Prop} {relation : σ → σ → Prop} {own : StreamId → μ → Prop}

/-- The state that the first piece of an activity leads to. -/
def reached : Activity μ σ α → σ
  | finished _ state => state
  | sending _ _ _ state _ => state

/-- The first piece of an activity is within the relation. -/
theorem Within.reached {activity : Activity μ σ α} {start : σ}
    (within : activity.Within holds relation own start) : relation start activity.reached := by
  cases activity with
  | finished result state => exact within
  | sending stream millis message state resume => exact within.1

/-- Pieces within a relation are within a weaker one, also under a stronger condition. -/
theorem Within.mono {activity : Activity μ σ α} {start : σ}
    (within : activity.Within holds relation own start) {stronger : σ → Prop}
    {weaker : σ → σ → Prop} {more : StreamId → μ → Prop}
    (satisfied : ∀ state, stronger state → holds state)
    (related : ∀ before after, relation before after → weaker before after)
    (allowed : ∀ stream message, own stream message → more stream message) :
    activity.Within stronger weaker more start := by
  induction activity generalizing start with
  | finished result state => exact related start state within
  | sending stream millis message state resume inductionHypothesis =>
    obtain ⟨step, message, resumed⟩ := within
    exact ⟨related start state step, allowed _ _ message, fun outcome later strong =>
      inductionHypothesis outcome later (resumed outcome later (satisfied later strong))⟩

/-- The first piece of an activity may begin with a step of its own. -/
theorem Within.begun (frame : Frame relation) {activity : Activity μ σ α} {start between : σ}
    (step : relation start between) (within : activity.Within holds relation own between) :
    activity.Within holds relation own start := by
  cases activity with
  | finished result state => exact frame.trans step within
  | sending stream millis message state resume =>
    exact ⟨frame.trans step within.1, within.2⟩

/-- What follows an activity begins where that is finished. -/
theorem Within.bind (lasting : Lasting holds relation) {activity : Activity μ σ α} {start : σ}
    (satisfied : holds start) (within : activity.Within holds relation own start)
    {next : α → σ → Activity μ σ β}
    (onward : ∀ result state, holds state → (next result state).Within holds relation own state) :
    (activity.bind next).Within holds relation own start := by
  induction activity generalizing start with
  | finished result state =>
    exact (onward result state (lasting.lasts satisfied within)).begun lasting.frame within
  | sending stream millis message state resume inductionHypothesis =>
    obtain ⟨step, message, resumed⟩ := within
    exact ⟨step, message, fun outcome later satisfied =>
      inductionHypothesis outcome later satisfied (resumed outcome later satisfied)⟩

/-- The result of an activity may be changed. -/
theorem Within.map (lasting : Lasting holds relation) {activity : Activity μ σ α} {start : σ}
    (satisfied : holds start) (within : activity.Within holds relation own start)
    (change : α → β) : (activity.map change).Within holds relation own start :=
  within.bind lasting satisfied fun _ state _ => lasting.frame.refl state

/-- Sends may be repeated. -/
theorem within_retry (lasting : Lasting holds relation)
    {attempt : σ → Activity μ σ SendOutcome}
    (within : ∀ state, holds state → (attempt state).Within holds relation own state)
    (most : Nat) {start : σ} (satisfied : holds start) :
    (retry attempt most start).Within holds relation own start := by
  induction most generalizing start with
  | zero => exact within start satisfied
  | succ more inductionHypothesis =>
    refine (within start satisfied).bind lasting satisfied fun outcome state satisfied => ?_
    cases outcome with
    | sent => exact lasting.frame.refl state
    | timedOut => exact inductionHypothesis satisfied
    | closed => exact lasting.frame.refl state

/-- Something may be sent to several connections. -/
theorem within_fanOut (lasting : Lasting holds relation) (mode : FanOutMode)
    {send : γ → σ → Activity μ σ (Except PushError Unit)} (connections : List γ)
    (within : ∀ connection ∈ connections, ∀ state, holds state →
      (send connection state).Within holds relation own state)
    {start : σ} (satisfied : holds start) :
    (fanOut mode send connections start).Within holds relation own start := by
  induction connections generalizing start with
  | nil => exact lasting.frame.refl start
  | cons connection rest inductionHypothesis =>
    have others {start : σ} (satisfied : holds start) :
        (fanOut mode send rest start).Within holds relation own start :=
      inductionHypothesis (fun other member => within other (List.mem_cons_of_mem _ member))
        satisfied
    refine (within connection List.mem_cons_self start satisfied).bind lasting satisfied
      fun result state satisfied => ?_
    cases result with
    | ok => exact others satisfied
    | error fault =>
      cases mode with
      | failFast => exact lasting.frame.refl state
      | bestEffort => exact (others satisfied).map lasting satisfied _

/-- Several items may be dealt with. -/
theorem within_each (lasting : Lasting holds relation) {step : σ → γ → Activity μ σ Unit}
    (within : ∀ state item, holds state → (step state item).Within holds relation own state)
    (items : List γ) {start : σ} (satisfied : holds start) :
    (each step items start).Within holds relation own start := by
  induction items generalizing start with
  | nil => exact lasting.frame.refl start
  | cons item rest inductionHypothesis =>
    exact (within start item satisfied).bind lasting satisfied fun _ _ satisfied =>
      inductionHypothesis satisfied

/-- If the sends are within the relation too, so is the activity as a whole. -/
theorem Within.complete (lasting : Lasting holds relation)
    {attempt : Nat → StreamId → μ → σ → SendOutcome × σ}
    (attempts : ∀ millis stream message state, own stream message →
      relation state (attempt millis stream message state).2)
    {activity : Activity μ σ α} {start : σ} (satisfied : holds start)
    (within : activity.Within holds relation own start) :
    relation start (activity.complete attempt).2 := by
  induction activity generalizing start with
  | finished result state => exact within
  | sending stream millis message state resume inductionHypothesis =>
    obtain ⟨step, message, resumed⟩ := within
    have sent := lasting.frame.trans step (attempts millis stream _ state message)
    have still := lasting.lasts satisfied sent
    exact lasting.frame.trans sent (inductionHypothesis _ _ still (resumed _ _ still))

end Activity

end RulePlane
