import RulePlane.Proofs.ClientViews
import RulePlane.Proofs.Joining

/-!
# Overtaking

What a stream hears last when it joins a target while resources change. It hears the current rules
if nothing is overtaken (`last_response_current`): no push of the target is on its way when the
stream is registered for a target that was not tracked, and no push of the target is put on the
stream while the snapshot is read and not yet put there.

Both conditions are needed. A snapshot that is put on the stream behind a newer push hides it
(`snapshot_hides_newer_push`). And registering a stream may change the rules: a target that was not
tracked is filled from the observed resources. A push that was read before that carries rules of an
older version, and if it is delivered after the snapshot, it hides that
(`push_hides_newer_snapshot`).
-/

namespace RulePlane

/-- If every attempt that does not find its client gone is within a relation, so are repeated
    attempts that do not end with a client that is gone. -/
theorem Frame.retry_unclosed {σ : Type} {relation : σ → σ → Prop} (frame : Frame relation)
    {attempt : σ → SendOutcome × σ}
    (within : ∀ state, (attempt state).1 ≠ .closed → relation state (attempt state).2) (more : Nat)
    (state : σ) (unclosed : (Push.retry attempt more state).1 ≠ .closed) :
    relation state (Push.retry attempt more state).2 := by
  induction more generalizing state with
  | zero => exact within state unclosed
  | succ more inductionHypothesis =>
    have first := within state
    unfold Push.retry at unclosed ⊢
    split at unclosed <;> rename_i reached attempted <;> rw [attempted] at first
    · exact frame.trans (first (by simp)) (inductionHypothesis reached unclosed)
    · exact first (by simp)
    · exact absurd rfl unclosed

namespace Plane

/-! ## Serving one connection -/

/-- A send that does not find its client gone closes no stream. -/
theorem transportValid_send {stream : StreamId} {response : Transport.Response} {plane : Plane}
    (unclosed : (transportChannels.send stream response plane).1 ≠ .closed) :
    (transportChannels.send stream response plane).2.transportValid = plane.transportValid := by
  have attempted : (attemptTransport stream response plane).2.transportValid =
      plane.transportValid := by
    unfold attemptTransport
    split
    · rfl
    · rename_i found present
      have same (tested : StreamId) :
          ((plane.transport.insert stream { found with
              outbox := (found.outbox.offer response).2 }).find? tested).map
                TransportStream.isValid =
            (plane.transport.find? tested).map TransportStream.isValid := by
        rw [Table.find?_insert]
        split
        · rename_i own
          rw [← own, present]
          rfl
        · rfl
      dsimp only
      split <;> exact funext fun tested => congrArg (Option.getD · false) (same tested)
  change (transportChannels.attempt stream response plane).2.transportValid = _ at attempted
  unfold Channels.send at unclosed ⊢
  split at unclosed <;> rename_i reached outcome <;> rw [outcome] at attempted
  · exact absurd rfl unclosed
  · exact attempted
  · exact attempted

/-- A delivery that succeeds closes no stream. -/
theorem transportValid_deliver {maxAttempts : Nat} {stream : StreamId}
    {response : Transport.Response} {plane : Plane}
    (sent : (transportChannels.deliver maxAttempts stream response plane).1 = .sent) :
    (transportChannels.deliver maxAttempts stream response plane).2.transportValid =
      plane.transportValid := by
  have unclosed : (Push.retry (transportChannels.send stream response) (maxAttempts - 1)
      plane).1 ≠ .closed := by
    intro closed
    cases closed.symm.trans sent
  exact (frame_of_same transportValid).retry_unclosed
    (fun _ unclosed => transportValid_send unclosed) (maxAttempts - 1) plane unclosed

/-- Serving a connection with success closes no stream. -/
theorem transportValid_deliverTo {maxAttempts : Nat} {push : Push}
    {connection : ClientId × StreamId} {plane : Plane}
    (succeeds : (transportChannels.deliverTo maxAttempts (pushedResponse push) connection
      plane).1 = .ok ()) :
    (transportChannels.deliverTo maxAttempts (pushedResponse push) connection
      plane).2.transportValid = plane.transportValid := by
  unfold Channels.deliverTo at succeeds ⊢
  dsimp only at succeeds ⊢
  split at succeeds
  · rename_i valid
    rw [if_pos valid]
    have sent : (transportChannels.deliver maxAttempts connection.2 (pushedResponse push plane).1
        (pushedResponse push plane).2).1 = .sent := by
      generalize (transportChannels.deliver maxAttempts connection.2 (pushedResponse push plane).1
        (pushedResponse push plane).2).1 = outcome at succeeds
      cases outcome with
      | sent => rfl
      | timedOut => cases succeeds
      | closed => cases succeeds
    exact transportValid_deliver sent
  · rename_i closed
    rw [if_neg closed]
    rfl

end Plane

/-- Whether a round has still to serve the stream of a joiner, with a push of its target. -/
def Round.Serves (joiner : Joiner) (round : Round) : Prop :=
  round.push.target = joiner.target ∧ joiner.stream ∈ round.connections.map Prod.snd

instance (joiner : Joiner) (round : Round) : Decidable (round.Serves joiner) :=
  inferInstanceAs (Decidable (_ ∧ _))

namespace Joining

variable {joiner : Joiner} {joining after : Joining}

/-- The pushes of a target that wait for their worker, in the order in which they were read. -/
def ahead (target : Target) (joining : Joining) : List Push :=
  let worker := Dispatcher.workerOf App.spread joining.plane.dispatcher target.app
  (joining.plane.dispatcher.queue worker ++ joining.prepared.toList).filter (·.target = target)

/-- A push of the target is still to be taken by its worker, or even to be read. -/
def Later (joiner : Joiner) (joining : Joining) : Prop :=
  joiner.target ∈ joining.changed ∨ joining.ahead joiner.target ≠ []

/-- A worker has still to serve the stream with a push of the target. -/
def Serving (joiner : Joiner) (joining : Joining) : Prop :=
  ∃ round ∈ joining.rounds.values, round.Serves joiner

/-- Whether a worker is about to put a push of the target on the stream while the snapshot is read
    and not put there. -/
def interrupts (joiner : Joiner) (worker : Nat) (joining : Joining) : Bool :=
  match joining.stage, joining.rounds.find? worker with
  | .answering _, some ⟨push, connection :: _⟩ =>
      push.target = joiner.target && connection.2 = joiner.stream
  | _, _ => false

/-- Whether something may happen without a response being overtaken. -/
def Orderly (joiner : Joiner) (joining : Joining) : Move → Prop
  | .register =>
      joining.plane.subscribers.watchers.hasTarget joiner.target = true ∨
        ¬ (joining.Later joiner ∨ joining.Serving joiner)
  | .serve worker => joining.interrupts joiner worker = false
  | _ => True

/-- Nothing is overtaken all the time. -/
def OrderlyThroughout (joiner : Joiner) : List Move → Joining → Prop
  | [], _ => True
  | move :: rest, joining =>
      joining.Orderly joiner move ∧ OrderlyThroughout joiner rest (joining.move joiner move)

instance (joiner : Joiner) (joining : Joining) : Decidable (joining.Later joiner) :=
  inferInstanceAs (Decidable (_ ∨ _))

instance (joiner : Joiner) (joining : Joining) : Decidable (joining.Serving joiner) :=
  inferInstanceAs (Decidable (∃ round ∈ joining.rounds.values, round.Serves joiner))

instance decidableOrderly (joiner : Joiner) (joining : Joining) :
    (move : Move) → Decidable (joining.Orderly joiner move)
  | .register => inferInstanceAs (Decidable (_ ∨ ¬ (_ ∨ _)))
  | .serve worker => inferInstanceAs (Decidable (joining.interrupts joiner worker = false))
  | .look | .answer | .change .. | .read | .enqueue | .take _ | .outbox .. => isTrue trivial

instance decidableOrderlyThroughout (joiner : Joiner) :
    (moves : List Move) → (joining : Joining) →
      Decidable (joining.OrderlyThroughout joiner moves)
  | [], _ => isTrue trivial
  | move :: rest, joining =>
      have := decidableOrderlyThroughout joiner rest (joining.move joiner move)
      inferInstanceAs (Decidable (_ ∧ _))

/-! ## What waits -/

/-- Reading the rules of a changed target puts their push behind all that wait. -/
theorem ahead_prepare (push : Push) (free : joining.prepared = none) (rest : List Target)
    (target : Target) :
    ahead target { joining with prepared := some push, changed := rest } =
      joining.ahead target ++ if push.target = target then [push] else [] := by
  simp only [ahead, free, Option.toList_none, Option.toList_some, List.append_nil,
    List.filter_append]
  congr 1
  by_cases own : push.target = target
  · simp [own]
  · simp [own]

/-- A push that is handed in waits in its queue from then on, at the same place. -/
theorem ahead_submit {push : Push} (prepared : joining.prepared = some push)
    {dispatcher : Dispatcher}
    (accepted : joining.plane.dispatcher.submit App.spread push = (.accepted, dispatcher))
    (target : Target) :
    ahead target { joining with
      plane := { joining.plane with dispatcher }, prepared := none } = joining.ahead target := by
  have queue := joining.plane.dispatcher.queue_submit App.spread push
  have same := joining.plane.dispatcher.workerOf_submit App.spread push
  rw [accepted] at queue same
  simp only [true_and] at queue
  simp only [ahead, prepared, same, queue, Option.toList_none, Option.toList_some,
    List.append_nil]
  by_cases own : push.target = target
  · rw [own, if_pos rfl]
  · rw [List.filter_append]
    split
    · rw [List.filter_append]
    · simp [own]

/-- A push that a worker takes was the first of its target that waits. -/
theorem ahead_take {worker : Nat} {push : Push} {dispatcher : Dispatcher}
    (taking : joining.plane.dispatcher.next? worker = some (push, dispatcher))
    (routed : Dispatcher.workerOf App.spread joining.plane.dispatcher push.target.app = worker)
    (rounds : Table Nat Round) (target : Target) :
    joining.ahead target =
      (if push.target = target then [push] else []) ++
        ahead target { joining with
          plane := { joining.plane with dispatcher }, rounds } := by
  obtain ⟨queue, others⟩ := Dispatcher.queue_of_next? taking
  obtain ⟨same, -⟩ := Dispatcher.next?_frame taking App.spread
  simp only [ahead, same]
  by_cases here :
      worker = Dispatcher.workerOf App.spread joining.plane.dispatcher target.app
  · rw [← here, queue, List.cons_append, List.filter_cons]
    by_cases own : push.target = target
    · simp [own]
    · simp [own]
  · have other : push.target ≠ target := by
      rintro rfl
      exact here routed.symm
    rw [others _ here, if_neg other, List.nil_append]

/-! ## The invariant -/

/-- The stream holds the target. -/
def Holds (joiner : Joiner) (joining : Joining) : Prop :=
  joining.plane.slot? joiner.target joiner.client = some joiner.stream

/-- Rules of the target that are current, unless a push that is newer waits. -/
def Latest (joiner : Joiner) (joining : Joining) (news : List Rule × Int) : Prop :=
  joining.Later joiner ∨ joining.plane.UpToDate joiner.target (some news)

/-- Rules that the stream may hear last: it will hear the current ones, if these are not. -/
def Vouched (joiner : Joiner) (joining : Joining) (news : List Rule × Int) : Prop :=
  joining.Holds joiner ∧ (joining.Serving joiner ∨ joining.Latest joiner news)

/-- What does not depend on the rules: the stream is open under its name, and every push is with
    the worker of its application. -/
structure Grounded (joiner : Joiner) (joining : Joining) : Prop where
  sound : joining.plane.Sound
  named : joining.plane.transportClient? joiner.stream = some joiner.client
  valid : joining.plane.transportValid joiner.stream = true
  running : joining.plane.dispatcher.stopped = false
  routed : ∀ worker, ∀ push ∈ joining.plane.dispatcher.queue worker,
    Dispatcher.workerOf App.spread joining.plane.dispatcher push.target.app = worker
  manned : ∀ worker round, joining.rounds.find? worker = some round →
    Dispatcher.workerOf App.spread joining.plane.dispatcher round.push.target.app = worker

/-- What holds all the time if nothing is overtaken. -/
structure Steady (joiner : Joiner) (joining : Joining) : Prop extends
    Grounded joiner joining where
  alone : joining.stage = .outside → ∀ other,
    joining.plane.slot? joiner.target joiner.client = some other →
      other = joiner.stream ∨ joining.plane.transportValid other = false
  /-- The push that was read last carries the current rules. -/
  newest : joiner.target ∉ joining.changed → ∀ push ∈ (joining.ahead joiner.target).getLast?,
    joining.plane.UpToDate joiner.target (some (push.rules, push.version))
  carried : ∀ worker round, joining.rounds.find? worker = some round → round.Serves joiner →
    joining.Holds joiner ∧ joining.Latest joiner (round.push.rules, round.push.version)
  entered : joining.stage = .registered → joining.Holds joiner
  ready : ∀ response news, joining.stage = .answering response →
    response.rulesFor? joiner.target = some news → joining.Vouched joiner news
  told : ∀ news, hear joiner.target none joining.log = some news → joining.Vouched joiner news

/-- A worker serves the stream in a round of its own. -/
theorem serving_iff : joining.Serving joiner ↔
    ∃ worker round, joining.rounds.find? worker = some round ∧ round.Serves joiner := by
  constructor
  · rintro ⟨round, listed, serves⟩
    obtain ⟨⟨worker, present⟩, entry, rfl⟩ := List.mem_map.1 listed
    exact ⟨worker, present, (Table.mem_entries_iff _ worker present).1 entry, serves⟩
  · rintro ⟨worker, round, found, serves⟩
    have entry := (Table.mem_entries_iff _ worker round).2 found
    exact ⟨round, List.mem_map.2 ⟨_, entry, rfl⟩, serves⟩

/-- What is current stays so, or something newer waits, as long as neither changes. -/
theorem Latest.kept {news : List Rule × Int} (latest : joining.Latest joiner news)
    (later : joining.Later joiner → after.Later joiner)
    (rules : after.plane.rulesOf joiner.target = joining.plane.rulesOf joiner.target) :
    after.Latest joiner news := by
  rcases latest with waits | upToDate
  · exact Or.inl (later waits)
  · exact Or.inr (upToDate.of_same rules)

/-- A step that is sending, or a change of the watchers that keeps them in order, leaves the ground
    as it is. -/
theorem Grounded.kept (grounded : joining.Grounded joiner)
    (keeps : Plane.Keeps joining.plane after.plane)
    (accounts : after.plane.subscribers.Accounts [])
    (valid : after.plane.transportValid joiner.stream = true)
    (dispatcher : after.plane.dispatcher = joining.plane.dispatcher)
    (rounds : ∀ worker round, after.rounds.find? worker = some round →
      ∃ before, joining.rounds.find? worker = some before ∧ before.push = round.push) :
    after.Grounded joiner := by
  refine ⟨grounded.sound.kept keeps accounts, (keeps.transportClient? _).trans grounded.named,
    valid, ?_, ?_, fun worker round found => ?_⟩
  · rw [dispatcher]
    exact grounded.running
  · rw [dispatcher]
    exact grounded.routed
  · obtain ⟨before, present, same⟩ := rounds worker round found
    rw [dispatcher, ← same]
    exact grounded.manned worker before present

/-- A step beside the subscription, in which nothing of the target is put on the stream, and no
    worker takes or drops a push of it. -/
theorem Steady.aside (steady : joining.Steady joiner) (grounded : after.Grounded joiner)
    (slot : ∀ client, after.plane.slot? joiner.target client =
      joining.plane.slot? joiner.target client)
    (valid : ∀ stream, after.plane.transportValid stream = true →
      joining.plane.transportValid stream = true)
    (stage : after.stage = joining.stage)
    (fewer : ∀ worker round, after.rounds.find? worker = some round → round.Serves joiner →
      ∃ before, joining.rounds.find? worker = some before ∧ before.Serves joiner ∧
        before.push = round.push)
    (serving : joining.Serving joiner → after.Serving joiner)
    (log : hear joiner.target none after.log = hear joiner.target none joining.log)
    (newest : joiner.target ∉ after.changed → ∀ push ∈ (after.ahead joiner.target).getLast?,
      after.plane.UpToDate joiner.target (some (push.rules, push.version)))
    (latest : ∀ news, joining.Latest joiner news → after.Latest joiner news) :
    after.Steady joiner := by
  have holds : joining.Holds joiner → after.Holds joiner := (slot joiner.client).trans
  have vouched {news : List Rule × Int} (before : joining.Vouched joiner news) :
      after.Vouched joiner news :=
    ⟨holds before.1, before.2.imp serving (latest news)⟩
  refine ⟨grounded, fun outside other seated => ?_, newest, fun worker round found serves => ?_,
    fun registered => ?_, fun response news answering carries => ?_, fun news heard => ?_⟩
  · rw [stage] at outside
    rw [slot] at seated
    rcases steady.alone outside other seated with own | dead
    · exact Or.inl own
    · right
      cases living : after.plane.transportValid other with
      | false => rfl
      | true => exact (valid other living).symm.trans dead
  · obtain ⟨before, present, served, same⟩ := fewer worker round found serves
    obtain ⟨seated, current⟩ := steady.carried worker before present served
    rw [same] at current
    exact ⟨holds seated, latest _ current⟩
  · exact holds (steady.entered (stage ▸ registered))
  · exact vouched (steady.ready response news (stage ▸ answering) carries)
  · exact vouched (steady.told news (log.symm.trans heard))

/-! ## Changes -/

/-- Taking a change into account. -/
theorem Steady.notice (steady : joining.Steady joiner) (kind : Kind) (change : Change) :
    (joining.notice kind change).Steady joiner := by
  unfold Joining.notice
  split
  · rename_i free
    simp only [Bool.and_eq_true, List.isEmpty_iff, Option.isNone_iff_eq_none] at free
    have keeps := Plane.keeps_notice joining.plane kind change
    obtain ⟨transport, dispatcher, -, account, rules⟩ := joining.plane.notice_frame kind change
    have valid : (joining.plane.notice kind change).2.transportValid =
        joining.plane.transportValid := by
      funext stream
      rw [Plane.transportValid, transport, Plane.transportValid]
    have ahead : ahead joiner.target { joining with
        plane := (joining.plane.notice kind change).2
        changed := (joining.plane.notice kind change).1.map (·.target kind) } =
          joining.ahead joiner.target := by
      simp only [Joining.ahead, dispatcher]
    have grounded : Grounded joiner { joining with
        plane := (joining.plane.notice kind change).2
        changed := (joining.plane.notice kind change).1.map (·.target kind) } :=
      steady.toGrounded.kept keeps (account steady.sound.accounts)
        ((congrFun valid _).trans steady.valid) dispatcher
        (fun worker round found => ⟨round, found, rfl⟩)
    refine steady.aside grounded (fun client => keeps.slot? joiner.target client)
      keeps.transportValid rfl (fun _ round found serves => ⟨round, found, serves, rfl⟩) id rfl
      (fun unchanged push last => ?_) (fun news latest => ?_)
    · rw [ahead] at last
      have before := steady.newest (by rw [free.1]; exact List.not_mem_nil) push last
      exact before.of_same (rules joiner.target unchanged)
    · by_cases changed : joiner.target ∈ (joining.plane.notice kind change).1.map (·.target kind)
      · exact Or.inl (Or.inl changed)
      · refine latest.kept (fun later => Or.inr ?_) (rules joiner.target changed)
        rw [ahead]
        refine later.resolve_left ?_
        rw [free.1]
        exact List.not_mem_nil
  · exact steady

/-- Reading the rules of a changed target. -/
theorem Steady.read (steady : joining.Steady joiner) : joining.read.Steady joiner := by
  unfold Joining.read
  split
  · rename_i target rest free changed
    let push := joining.plane.currentPush target.kind target.app
    have ahead := ahead_prepare push free rest joiner.target
    have own : push.target = target := rfl
    rw [own] at ahead
    have grounded :
        Grounded joiner { joining with prepared := some push, changed := rest } :=
      steady.toGrounded.kept (Plane.frame_keeps.refl joining.plane) steady.sound.accounts
        steady.valid rfl (fun worker round found => ⟨round, found, rfl⟩)
    refine steady.aside grounded (fun _ => rfl) (fun _ valid => valid) rfl
      (fun _ round found serves => ⟨round, found, serves, rfl⟩) id rfl
      (fun unchanged push last => ?_) (fun news latest => latest.kept (fun later => ?_) rfl)
    · rw [ahead] at last
      split at last
      · rename_i same
        rw [List.getLast?_concat] at last
        cases last
        rw [← same]
        exact ⟨rfl, rfl⟩
      · rename_i different
        rw [List.append_nil] at last
        refine steady.newest (fun listed => ?_) push last
        rw [changed] at listed
        rcases List.mem_cons.1 listed with first | behind
        · exact different first.symm
        · exact unchanged behind
    · rcases later with listed | waits
      · rw [changed] at listed
        rcases List.mem_cons.1 listed with rfl | behind
        · right
          rw [ahead, if_pos rfl]
          simp
        · exact Or.inl behind
      · right
        rw [ahead]
        simp [waits]
  · exact steady

/-- Handing over the push that was read. -/
theorem Steady.enqueue (steady : joining.Steady joiner) : joining.enqueue.Steady joiner := by
  unfold Joining.enqueue
  split
  · exact steady
  · rename_i push prepared
    obtain ⟨running, taken⟩ := Dispatcher.submit_running App.spread steady.running push
    have queue := joining.plane.dispatcher.queue_submit App.spread push
    have same := joining.plane.dispatcher.workerOf_submit App.spread push
    unfold Plane.submit
    cases submitted : joining.plane.dispatcher.submit App.spread push with
    | mk submission dispatcher =>
      rw [submitted] at running taken queue same
      cases submission with
      | full => exact steady
      | stopped => exact absurd rfl taken
      | accepted =>
        simp only [true_and] at queue
        have ahead := ahead_submit prepared submitted joiner.target
        have keeps : Plane.Keeps joining.plane { joining.plane with dispatcher } :=
          .of_same rfl rfl rfl rfl rfl
        have grounded : Grounded joiner { joining with
            plane := { joining.plane with dispatcher }, prepared := none } := by
          have sound := steady.sound.kept keeps steady.sound.accounts
          refine ⟨sound, steady.named, steady.valid, running, fun worker waiting listed => ?_,
            fun worker round found => ?_⟩
          · change waiting ∈ dispatcher.queue worker at listed
            rw [same]
            rw [queue] at listed
            split at listed
            · rename_i here
              rcases List.mem_append.1 listed with before | fresh
              · exact steady.routed worker waiting before
              · rw [List.mem_singleton.1 fresh]
                exact here
            · exact steady.routed worker waiting listed
          · rw [same]
            exact steady.manned worker round found
        refine steady.aside grounded (fun _ => rfl) (fun _ valid => valid) rfl
          (fun _ round found serves => ⟨round, found, serves, rfl⟩) id rfl
          (fun unchanged waiting last => ?_) (fun news latest => latest.kept (fun later => ?_) rfl)
        · rw [ahead] at last
          exact steady.newest unchanged waiting last
        · refine later.imp_right fun waits => ?_
          rw [ahead]
          exact waits

/-! ## Workers -/

/-- The stream holds a target exactly if it is among the connections that a worker reads. -/
theorem Grounded.holds_iff (grounded : joining.Grounded joiner) :
    joiner.stream ∈ ((joining.plane.subscribers.transport.holders? joiner.target).getD
        Table.empty).entries.map Prod.snd ↔
      joining.Holds joiner := by
  constructor
  · intro listed
    obtain ⟨⟨client, stream⟩, entry, rfl⟩ := List.mem_map.1 listed
    cases held : joining.plane.subscribers.transport.holders? joiner.target with
    | none =>
      rw [held] at entry
      cases entry
    | some clients =>
      rw [held] at entry
      have seated := (Registry.mem_holders_iff held _).1 entry
      have named := grounded.sound.wellSeated.named _ _ _ seated
      obtain rfl : client = joiner.client := Option.some.inj (named.symm.trans grounded.named)
      exact seated
  · intro seated
    cases held : joining.plane.subscribers.transport.holders? joiner.target with
    | none => cases seated.symm.trans (Registry.connection?_of_vacant held joiner.client)
    | some clients =>
      have entry := (Registry.mem_holders_iff held (joiner.client, joiner.stream)).2 seated
      exact List.mem_map.2 ⟨_, entry, rfl⟩

/-- Taking a push leaves the ground as it is. -/
theorem Grounded.take (grounded : joining.Grounded joiner) {worker : Nat} {push : Push}
    {dispatcher : Dispatcher}
    (taking : joining.plane.dispatcher.next? worker = some (push, dispatcher))
    (connections : List (ClientId × StreamId)) :
    Grounded joiner { joining with
      plane := { joining.plane with dispatcher }
      rounds := joining.rounds.insert worker ⟨push, connections⟩ } := by
  obtain ⟨queue, others⟩ := Dispatcher.queue_of_next? taking
  obtain ⟨same, stopped⟩ := Dispatcher.next?_frame taking App.spread
  have keeps : Plane.Keeps joining.plane { joining.plane with dispatcher } :=
    .of_same rfl rfl rfl rfl rfl
  refine ⟨grounded.sound.kept keeps grounded.sound.accounts, grounded.named, grounded.valid,
    stopped.trans grounded.running, fun tested waiting listed => ?_,
    fun tested other found => ?_⟩
  · change waiting ∈ dispatcher.queue tested at listed
    rw [same]
    by_cases here : worker = tested
    · subst here
      apply grounded.routed worker waiting
      rw [queue]
      exact List.mem_cons_of_mem push listed
    · rw [others tested here] at listed
      exact grounded.routed tested waiting listed
  · rw [same]
    rw [Table.find?_insert] at found
    split at found
    · rename_i here
      cases found
      rw [← here]
      apply grounded.routed worker push
      rw [queue]
      exact List.mem_cons_self
    · exact grounded.manned tested other found

/-- Taking a push of another target. -/
theorem Steady.take_other (steady : joining.Steady joiner) {worker : Nat} {push : Push}
    {dispatcher : Dispatcher} (free : joining.rounds.find? worker = none)
    (taking : joining.plane.dispatcher.next? worker = some (push, dispatcher))
    (other : push.target ≠ joiner.target) (connections : List (ClientId × StreamId)) :
    Steady joiner { joining with
      plane := { joining.plane with dispatcher }
      rounds := joining.rounds.insert worker ⟨push, connections⟩ } := by
  obtain ⟨queue, -⟩ := Dispatcher.queue_of_next? taking
  have routed := steady.routed worker push (by rw [queue]; exact List.mem_cons_self)
  have ahead := ahead_take taking routed (joining.rounds.insert worker ⟨push, connections⟩)
    joiner.target
  rw [if_neg other, List.nil_append] at ahead
  refine steady.aside (steady.toGrounded.take taking connections) (fun _ => rfl)
    (fun _ valid => valid) rfl (fun tested round found serves => ?_) (fun serving => ?_) rfl
    (fun unchanged waiting last => ?_) (fun _ latest => latest.kept (fun later => ?_) rfl)
  · rw [Table.find?_insert] at found
    split at found
    · cases found
      exact absurd serves.1 other
    · exact ⟨round, found, serves, rfl⟩
  · obtain ⟨tested, round, found, serves⟩ := serving_iff.1 serving
    refine serving_iff.2 ⟨tested, round, ?_, serves⟩
    rw [Table.find?_insert, if_neg]
    · exact found
    · rintro rfl
      cases free.symm.trans found
  · exact steady.newest unchanged waiting (by rw [ahead]; exact last)
  · refine later.imp_right fun waits => ?_
    rwa [← ahead]

/-- Taking a push of the target: from now on it is not only ahead, but about to be put on the
    stream, if the stream holds the target. -/
theorem Steady.take_own (steady : joining.Steady joiner) {worker : Nat} {push : Push}
    {dispatcher : Dispatcher}
    (taking : joining.plane.dispatcher.next? worker = some (push, dispatcher))
    (own : push.target = joiner.target) :
    let clients := (joining.plane.subscribers.transport.holders? push.target).getD Table.empty
    Steady joiner { joining with
      plane := { joining.plane with dispatcher }
      rounds := joining.rounds.insert worker ⟨push, clients.entries⟩ } := by
  intro clients
  obtain ⟨queue, -⟩ := Dispatcher.queue_of_next? taking
  have routed := steady.routed worker push (by rw [queue]; exact List.mem_cons_self)
  let round : Round := ⟨push, clients.entries⟩
  let after : Joining := { joining with
    plane := { joining.plane with dispatcher }, rounds := joining.rounds.insert worker round }
  change after.Steady joiner
  have grounded : after.Grounded joiner := steady.toGrounded.take taking clients.entries
  have serves : round.Serves joiner ↔ joining.Holds joiner := by
    have holds := steady.toGrounded.holds_iff
    rw [← own] at holds
    constructor
    · intro serves
      exact holds.1 serves.2
    · intro seated
      exact ⟨own, holds.2 seated⟩
  have ahead := ahead_take taking routed (joining.rounds.insert worker round) joiner.target
  change joining.ahead joiner.target = _ ++ after.ahead joiner.target at ahead
  rw [if_pos own, List.singleton_append] at ahead
  -- The push is current, unless a newer one waits: it was the last one then.
  have latest : after.Latest joiner (push.rules, push.version) := by
    by_cases later : after.Later joiner
    · exact Or.inl later
    · right
      obtain ⟨unchanged, none⟩ := not_or.1 later
      rw [not_not.1 none] at ahead
      exact steady.newest unchanged push (by rw [ahead]; rfl)
  have vouched {news : List Rule × Int} (before : joining.Vouched joiner news) :
      after.Vouched joiner news := by
    have found : after.rounds.find? worker = some round :=
      Table.find?_insert_self joining.rounds worker round
    exact ⟨before.1, Or.inl (serving_iff.2 ⟨worker, round, found, serves.2 before.1⟩)⟩
  refine ⟨grounded, steady.alone, fun unchanged waiting last => ?_,
    fun tested other found serving => ?_, steady.entered,
    fun response news answering carries => vouched (steady.ready response news answering carries),
    fun news heard => vouched (steady.told news heard)⟩
  · apply steady.newest unchanged waiting
    rw [ahead]
    cases remaining : after.ahead joiner.target with
    | nil =>
      rw [remaining] at last
      cases last
    | cons first rest =>
      rw [remaining] at last
      rw [List.getLast?_cons_cons]
      exact last
  · have inserted := Table.find?_insert joining.rounds worker round tested
    rw [show after.rounds.find? tested = _ from inserted] at found
    split at found
    · cases found
      exact ⟨serves.1 serving, latest⟩
    · rename_i elsewhere
      have manned := steady.manned tested other found
      rw [serving.1, ← own, routed] at manned
      exact absurd manned elsewhere

/-- Taking a push. -/
theorem Steady.take (steady : joining.Steady joiner) (worker : Nat) :
    (joining.take worker).Steady joiner := by
  unfold Joining.take
  split
  · rename_i push dispatcher free taking
    by_cases own : push.target = joiner.target
    · exact steady.take_own taking own
    · exact steady.take_other free taking own _
  · exact steady

/-! ## Sending -/

/-- A step that only sends: neither the rules nor who holds what nor what waits is changed, and the
    rounds of the workers go on, if at all. -/
structure Sends (joining after : Joining) : Prop where
  keeps : Plane.Keeps joining.plane after.plane
  backdrop : after.plane.backdrop = joining.plane.backdrop
  valid : after.plane.transportValid = joining.plane.transportValid
  changed : after.changed = joining.changed
  prepared : after.prepared = joining.prepared
  rounds : ∀ worker round, after.rounds.find? worker = some round →
    ∃ former, joining.rounds.find? worker = some former ∧ former.push = round.push ∧
      round.connections ⊆ former.connections

/-- Sending changes no rules. -/
theorem Sends.rules (sends : Sends joining after) (target : Target) :
    after.plane.rulesOf target = joining.plane.rulesOf target :=
  Plane.rulesOf_of_same (Prod.mk.inj sends.backdrop).1 target

/-- Sending leaves alone what waits. -/
theorem Sends.ahead (sends : Sends joining after) (target : Target) :
    after.ahead target = joining.ahead target := by
  have dispatcher : after.plane.dispatcher = joining.plane.dispatcher :=
    (Prod.mk.inj sends.backdrop).2
  simp only [Joining.ahead, dispatcher, sends.prepared]

/-- What is current stays so, or something newer waits. -/
theorem Sends.latest (sends : Sends joining after) {news : List Rule × Int}
    (latest : joining.Latest joiner news) : after.Latest joiner news := by
  refine latest.kept (fun later => ?_) (sends.rules joiner.target)
  unfold Later
  rw [sends.changed, sends.ahead]
  exact later

/-- Whoever holds a target still does. -/
theorem Sends.holds (sends : Sends joining after) (holds : joining.Holds joiner) :
    after.Holds joiner :=
  (sends.keeps.slot? joiner.target joiner.client).trans holds

/-- What the stream may hear last it may still hear last, if the workers that were about to serve
    it still are. -/
theorem Sends.vouched (sends : Sends joining after)
    (serving : joining.Serving joiner → after.Serving joiner) {news : List Rule × Int}
    (vouched : joining.Vouched joiner news) : after.Vouched joiner news :=
  ⟨sends.holds vouched.1, vouched.2.imp serving sends.latest⟩

/-- Sending keeps the invariant, if what is ready to be put on the stream, or was heard there last,
    may be heard last. -/
theorem Steady.sent (steady : joining.Steady joiner) (sends : Sends joining after)
    (outside : after.stage = .outside → joining.stage = .outside)
    (entered : after.stage = .registered → joining.stage = .registered)
    (ready : ∀ response news, after.stage = .answering response →
      response.rulesFor? joiner.target = some news → after.Vouched joiner news)
    (told : ∀ news, hear joiner.target none after.log = some news →
      after.Vouched joiner news) :
    after.Steady joiner := by
  have accounts : after.plane.subscribers.Accounts [] := by
    rw [show after.plane.subscribers = joining.plane.subscribers from
      (Prod.mk.inj sends.backdrop).1]
    exact steady.sound.accounts
  have grounded : after.Grounded joiner := by
    refine steady.toGrounded.kept sends.keeps accounts ?_ (Prod.mk.inj sends.backdrop).2
      (fun worker round found => ?_)
    · rw [sends.valid]
      exact steady.valid
    · obtain ⟨former, present, same, -⟩ := sends.rounds worker round found
      exact ⟨former, present, same⟩
  refine ⟨grounded, fun before other seated => ?_, fun unchanged push last => ?_,
    fun worker round found serves => ?_,
    fun registered => sends.holds (steady.entered (entered registered)), ready, told⟩
  · rw [sends.valid]
    apply steady.alone (outside before)
    exact (sends.keeps.slot? joiner.target joiner.client).symm.trans seated
  · rw [sends.changed] at unchanged
    rw [sends.ahead] at last
    exact (steady.newest unchanged push last).of_same (sends.rules joiner.target)
  · obtain ⟨former, present, same, fewer⟩ := sends.rounds worker round found
    have served : former.Serves joiner := by
      refine ⟨same ▸ serves.1, ?_⟩
      obtain ⟨connection, listed, own⟩ := List.mem_map.1 serves.2
      exact List.mem_map.2 ⟨connection, fewer listed, own⟩
    obtain ⟨seated, current⟩ := steady.carried worker former present served
    rw [same] at current
    exact ⟨sends.holds seated, sends.latest current⟩

/-- A client that reads its responses or goes away. -/
theorem Steady.outbox (steady : joining.Steady joiner) (stream : StreamId)
    (change : Outbox Transport.Response → Outbox Transport.Response) :
    (joining.move joiner (.outbox stream change)).Steady joiner := by
  have valid : (joining.move joiner (.outbox stream change)).plane.transportValid =
      joining.plane.transportValid := by
    funext tested
    simp only [Joining.move, Plane.transportValid, Table.find?_modify]
    split
    · rw [Option.map_map]
      rfl
    · rfl
  have keeps : Plane.Keeps joining.plane (joining.move joiner (.outbox stream change)).plane :=
    Plane.keeps_modifyTransport joining.plane stream (fun _ => rfl) (fun _ valid => valid)
  have sends : Sends joining (joining.move joiner (.outbox stream change)) :=
    ⟨keeps, rfl, valid, rfl, rfl, fun _ round found => ⟨round, found, rfl, List.Subset.refl _⟩⟩
  apply steady.sent sends id id
  · intro response news answering carries
    exact sends.vouched id (steady.ready response news answering carries)
  · intro news heard
    exact sends.vouched id (steady.told news heard)

/-- What is put on the stream is heard behind all that was heard before. -/
theorem hear_advance (joining : Joining) {plane : Plane} {responses : List Transport.Response}
    (sent : plane.waiting joiner.stream = joining.plane.waiting joiner.stream ++ responses) :
    hear joiner.target none (joining.advance joiner plane).log =
      hear joiner.target (hear joiner.target none joining.log) responses := by
  change hear joiner.target none (joining.log ++ _) = _
  rw [hear_append, sent, List.drop_left]

/-- Serving a connection of another stream, or of another target, or ending a round. -/
theorem Steady.sent_aside (steady : joining.Steady joiner) {plane : Plane}
    {rounds : Table Nat Round}
    (sends : Sends joining { joining.advance joiner plane with rounds })
    (spares : Plane.Spares joiner.target joiner.stream joining.plane plane)
    (serving : joining.Serving joiner →
      Serving joiner { joining.advance joiner plane with rounds }) :
    Steady joiner { joining.advance joiner plane with rounds } := by
  refine steady.sent sends id id (fun response news answering carries => ?_) (fun news heard => ?_)
  · exact sends.vouched serving (steady.ready response news answering carries)
  · obtain ⟨responses, sent, silent⟩ := spares
    change hear joiner.target none (joining.advance joiner plane).log = some news at heard
    rw [hear_advance joining sent, hear_spared silent] at heard
    exact sends.vouched serving (steady.told news heard)

/-- Ending a round. -/
theorem Steady.serve_ending (steady : joining.Steady joiner) {worker : Nat} {push : Push}
    (busy : joining.rounds.find? worker = some ⟨push, []⟩) :
    Steady joiner { joining.advance joiner (joining.plane.publishDiscovery push).2 with
      rounds := joining.rounds.erase worker } := by
  obtain ⟨subscribers, side⟩ :=
    Prod.mk.inj (Plane.transportSide_publishDiscovery joining.plane push)
  obtain ⟨dispatcher, side⟩ := Prod.mk.inj side
  obtain ⟨transport, -⟩ := Prod.mk.inj side
  have same : (joining.plane.publishDiscovery push).2.transport = joining.plane.transport :=
    transport
  have waiting : (joining.plane.publishDiscovery push).2.waiting joiner.stream =
      joining.plane.waiting joiner.stream := by
    rw [Plane.waiting, same, Plane.waiting]
  have valid : (joining.plane.publishDiscovery push).2.transportValid =
      joining.plane.transportValid := by
    funext stream
    rw [Plane.transportValid, same, Plane.transportValid]
  have sends : Sends joining
      { joining.advance joiner (joining.plane.publishDiscovery push).2 with
        rounds := joining.rounds.erase worker } := by
    refine ⟨Plane.keeps_publishDiscovery joining.plane push, Prod.ext subscribers dispatcher, valid,
      rfl, rfl, fun tested round found => ?_⟩
    rw [Table.find?_erase] at found
    split at found
    · cases found
    · exact ⟨round, found, rfl, List.Subset.refl _⟩
  refine steady.sent_aside sends (Plane.spares_of_same waiting) (fun serving => ?_)
  obtain ⟨tested, round, found, serves⟩ := serving_iff.1 serving
  refine serving_iff.2 ⟨tested, round, ?_, serves⟩
  rw [Table.find?_erase, if_neg]
  · exact found
  · rintro rfl
    cases busy.symm.trans found
    cases serves.2

/-- Serving a connection with success is sending. -/
theorem sends_serving (joiner : Joiner) {worker : Nat} {push : Push}
    {connection : ClientId × StreamId} {rest : List (ClientId × StreamId)}
    (busy : joining.rounds.find? worker = some ⟨push, connection :: rest⟩)
    (succeeds : (Plane.transportChannels.deliverTo joining.plane.settings.maxAttempts
      (Plane.pushedResponse push) connection joining.plane).1 = .ok ()) :
    Sends joining
      { joining.advance joiner (Plane.transportChannels.deliverTo joining.plane.settings.maxAttempts
          (Plane.pushedResponse push) connection joining.plane).2 with
        rounds := joining.rounds.insert worker ⟨push, rest⟩ } := by
  refine ⟨Plane.keeps_deliverTo joining.plane _ push connection,
    Plane.backdrop_deliverTo _ push connection joining.plane,
    Plane.transportValid_deliverTo succeeds, rfl, rfl, fun tested round found => ?_⟩
  rw [Table.find?_insert] at found
  split at found
  · rename_i same
    cases found
    exact ⟨⟨push, connection :: rest⟩, same ▸ busy, rfl, List.subset_cons_self connection rest⟩
  · exact ⟨round, found, rfl, List.Subset.refl _⟩

/-- Serving the stream with a push of the target, while no snapshot is read and not put there: what
    it hears then is current, or a newer push waits. -/
theorem Steady.serve_own (steady : joining.Steady joiner) {worker : Nat} {push : Push}
    {connection : ClientId × StreamId} {rest : List (ClientId × StreamId)}
    (busy : joining.rounds.find? worker = some ⟨push, connection :: rest⟩)
    (succeeds : (Plane.transportChannels.deliverTo joining.plane.settings.maxAttempts
      (Plane.pushedResponse push) connection joining.plane).1 = .ok ())
    (own : push.target = joiner.target) (here : connection.2 = joiner.stream)
    (orderly : joining.interrupts joiner worker = false) :
    Steady joiner
      { joining.advance joiner (Plane.transportChannels.deliverTo joining.plane.settings.maxAttempts
          (Plane.pushedResponse push) connection joining.plane).2 with
        rounds := joining.rounds.insert worker ⟨push, rest⟩ } := by
  have sends := sends_serving joiner busy succeeds
  obtain ⟨token, sent⟩ := Plane.waiting_deliverTo (here ▸ steady.valid) succeeds
  rw [here] at sent
  obtain ⟨seated, latest⟩ := steady.carried worker _ busy
    ⟨own, by rw [← here]; exact List.mem_cons_self⟩
  refine steady.sent sends id id (fun response news answering => ?_) (fun news heard => ?_)
  · change joining.stage = .answering response at answering
    simp [interrupts, answering, busy, own, here] at orderly
  · have heardNow := hear_advance joining sent
    rw [own, hear_ofRules] at heardNow
    cases heardNow.symm.trans heard
    exact ⟨sends.holds seated, Or.inr (sends.latest latest)⟩

/-- Serving another stream, or the stream with a push of another target. -/
theorem Steady.serve_other (steady : joining.Steady joiner) {worker : Nat} {push : Push}
    {connection : ClientId × StreamId} {rest : List (ClientId × StreamId)}
    (busy : joining.rounds.find? worker = some ⟨push, connection :: rest⟩)
    (succeeds : (Plane.transportChannels.deliverTo joining.plane.settings.maxAttempts
      (Plane.pushedResponse push) connection joining.plane).1 = .ok ())
    (other : connection.2 ≠ joiner.stream ∨ push.target ≠ joiner.target) :
    Steady joiner
      { joining.advance joiner (Plane.transportChannels.deliverTo joining.plane.settings.maxAttempts
          (Plane.pushedResponse push) connection joining.plane).2 with
        rounds := joining.rounds.insert worker ⟨push, rest⟩ } := by
  refine steady.sent_aside (sends_serving joiner busy succeeds) (Plane.spares_deliverTo other _ _)
    (fun serving => ?_)
  obtain ⟨tested, round, found, serves⟩ := serving_iff.1 serving
  by_cases same : worker = tested
  · subst same
    cases busy.symm.trans found
    have behind : joiner.stream ∈ rest.map Prod.snd := by
      rcases List.mem_cons.1 serves.2 with first | behind
      · exact absurd first.symm (other.resolve_right (not_not.2 serves.1))
      · exact behind
    exact serving_iff.2 ⟨worker, ⟨push, rest⟩,
      Table.find?_insert_self joining.rounds worker _, serves.1, behind⟩
  · refine serving_iff.2 ⟨tested, round, ?_, serves⟩
    exact (Table.find?_insert joining.rounds worker _ tested).trans ((if_neg same).trans found)

/-- A worker goes on with its round, while nothing is overtaken and no delivery fails. -/
theorem Steady.serve (steady : joining.Steady joiner) {worker : Nat}
    (orderly : joining.interrupts joiner worker = false)
    (unfailed : (joining.serve joiner worker).plane.failures = joining.plane.failures) :
    (joining.serve joiner worker).Steady joiner := by
  unfold Joining.serve at unfailed ⊢
  split
  · exact steady
  · rename_i push busy
    exact steady.serve_ending busy
  · rename_i push connection rest busy
    rw [busy] at unfailed
    have counted := Plane.failures_deliverTo joining.plane.settings.maxAttempts push connection
      joining.plane
    have succeeds : (Plane.transportChannels.deliverTo joining.plane.settings.maxAttempts
        (Plane.pushedResponse push) connection joining.plane).1 = .ok () := by
      by_contra failed
      rw [if_neg failed] at counted
      change (Plane.transportChannels.deliverTo joining.plane.settings.maxAttempts
        (Plane.pushedResponse push) connection joining.plane).2.failures = _ at unfailed
      omega
    dsimp only
    rw [succeeds]
    by_cases mine : push.target = joiner.target ∧ connection.2 = joiner.stream
    · exact steady.serve_own busy succeeds mine.1 mine.2 orderly
    · rw [not_and_or] at mine
      exact steady.serve_other busy succeeds mine.symm

/-! ## The subscription -/

/-- The stream is registered or refused: either the target was tracked, and no rules change, or
    nothing of it is on its way, and nobody held it. -/
theorem Steady.entering (steady : joining.Steady joiner) {subscribers : Subscribers}
    {stage : Stage} (sound : Plane.Sound { joining.plane with subscribers })
    (holds : joining.Holds joiner →
      Holds joiner { joining with plane := { joining.plane with subscribers }, stage })
    (rules : joining.plane.subscribers.watchers.hasTarget joiner.target = true →
      Plane.rulesOf { joining.plane with subscribers } joiner.target =
        joining.plane.rulesOf joiner.target)
    (orderly : joining.Orderly joiner .register) (inside : stage ≠ .outside)
    (entered : stage = .registered →
      Holds joiner { joining with plane := { joining.plane with subscribers }, stage })
    (silent : ∀ response, stage = .answering response →
      response.rulesFor? joiner.target = none) :
    Steady joiner { joining with plane := { joining.plane with subscribers }, stage } := by
  have grounded :
      Grounded joiner { joining with plane := { joining.plane with subscribers }, stage } :=
    ⟨sound, steady.named, steady.valid, steady.running, steady.routed, steady.manned⟩
  have ready (response : Transport.Response) (news : List Rule × Int)
      (answering : stage = .answering response)
      (carries : response.rulesFor? joiner.target = some news) : False := by
    cases (silent response answering).symm.trans carries
  by_cases tracked : joining.plane.subscribers.watchers.hasTarget joiner.target = true
  · have latest {news : List Rule × Int} (before : joining.Latest joiner news) :
        Latest joiner { joining with plane := { joining.plane with subscribers }, stage } news :=
      before.kept id (rules tracked)
    refine ⟨grounded, fun outside => absurd outside inside, fun unchanged push last => ?_,
      fun worker round found serves => ?_, entered,
      fun response news answering carries => (ready response news answering carries).elim,
      fun news heard => ?_⟩
    · exact (steady.newest unchanged push last).of_same (rules tracked)
    · obtain ⟨seated, current⟩ := steady.carried worker round found serves
      exact ⟨holds seated, latest current⟩
    · obtain ⟨seated, current⟩ := steady.told news heard
      exact ⟨holds seated, current.imp_right latest⟩
  · obtain ⟨still, unserved⟩ := not_or.1 (orderly.resolve_left tracked)
    have empty : joining.ahead joiner.target = [] := not_not.1 (not_or.1 still).2
    refine ⟨grounded, fun outside => absurd outside inside, fun unchanged push last => ?_,
      fun worker round found serves => ?_, entered,
      fun response news answering carries => (ready response news answering carries).elim,
      fun news heard => ?_⟩
    · change push ∈ (joining.ahead joiner.target).getLast? at last
      rw [empty] at last
      cases last
    · exact absurd (serving_iff.2 ⟨worker, round, found, serves⟩) unserved
    · exact absurd (steady.sound.tracked (steady.told news heard).1) tracked

/-- Registering the stream, if that overtakes nothing. -/
theorem Steady.register (steady : joining.Steady joiner)
    (orderly : joining.Orderly joiner .register) :
    (joining.register joiner).Steady joiner := by
  unfold Joining.register
  split
  · rename_i outside
    have outcomes := Plane.registering_cases steady.sound.wellSeated.wellKept joiner.stream
      joiner.client joiner.target
    have accounts := steady.sound.accounts.subscribe joining.plane.transportValid .transport
      joiner.target joiner.client joiner.stream
    have rules (tracked : joining.plane.subscribers.watchers.hasTarget joiner.target = true) :=
      joining.plane.subscribers.rulesOf_subscribe joining.plane.transportValid .transport
        joiner.target joiner.client joiner.stream
        (show joiner.target ≠ joiner.target ∨ _ from Or.inr tracked)
    dsimp only
    generalize joining.plane.subscribers.subscribe joining.plane.transportValid .transport
      joiner.target joiner.client joiner.stream = outcome at outcomes accounts rules ⊢
    obtain ⟨result, subscribers⟩ := outcome
    rcases outcomes with ⟨keeps, -, fault, rfl⟩ | ⟨keeps, dead, -⟩ |
      ⟨-, rfl, registry, added, keeps⟩
    · refine steady.entering (steady.sound.kept keeps accounts)
        (keeps.slot? joiner.target joiner.client).trans rules orderly nofun nofun
        (fun response answering => ?_)
      cases answering
      exact Transport.Response.rulesFor?_unsupported _ joiner.requestId joiner.target joiner.target
    · cases dead.symm.trans steady.valid
    · have seated : Plane.slot? { joining.plane with subscribers } joiner.target joiner.client =
          some joiner.stream := by
        rw [keeps.slot?]
        exact Registry.connection?_add_self added (steady.alone outside)
      have retains : Plane.Retains (fun _ _ => False) joining.plane
          { joining.plane with subscribers } :=
        (Plane.frame_retains _).trans (Plane.retains_seating steady.named added) keeps.retains
      have sound : Plane.Sound { joining.plane with subscribers } :=
        ⟨accounts, (retains steady.sound.wellSeated).1⟩
      exact steady.entering sound (fun _ => seated) rules orderly nofun (fun _ => seated) nofun
  · exact steady

/-- Reading the snapshot: it is current. -/
theorem Steady.look (steady : joining.Steady joiner) : (joining.look joiner).Steady joiner := by
  unfold Joining.look
  split
  · rename_i registered
    have sends (stage : Stage) : Sends joining { joining with stage } :=
      ⟨Plane.frame_keeps.refl joining.plane, rfl, rfl, rfl, rfl,
        fun _ round found => ⟨round, found, rfl, List.Subset.refl _⟩⟩
    dsimp only
    split
    · exact steady.sent (sends .answered) nofun nofun nofun steady.told
    · refine steady.sent (sends (.answering _)) nofun nofun
        (fun response news answering carries => ?_) steady.told
      cases answering
      rw [Transport.Response.rulesFor?_ofRules, if_pos rfl] at carries
      cases carries
      exact ⟨steady.entered registered, Or.inr (Or.inr ⟨rfl, rfl⟩)⟩
  · exact steady

/-- Putting the snapshot on the stream, if the delivery does not fail. -/
theorem Steady.answer (steady : joining.Steady joiner)
    (unfailed : (joining.answer joiner).plane.failures = joining.plane.failures) :
    (joining.answer joiner).Steady joiner := by
  unfold Joining.answer at unfailed ⊢
  split
  · rename_i response answering
    rw [answering] at unfailed
    change (joining.plane.deliverTransport joiner.stream response).failures = _ at unfailed
    have counted := Plane.failures_deliver joining.plane.settings.maxAttempts joiner.stream response
      joining.plane
    have succeeds : (Plane.transportChannels.deliver joining.plane.settings.maxAttempts
        joiner.stream response joining.plane).1 = .sent := by
      by_contra failed
      rw [if_neg failed] at counted
      rw [Plane.deliverTransport] at unfailed
      omega
    have sent := Plane.waiting_deliver joining.plane.settings.maxAttempts joiner.stream response
      joining.plane
    rw [if_pos succeeds] at sent
    have sends : Sends joining
        { joining.advance joiner (joining.plane.deliverTransport joiner.stream response) with
          stage := .answered } :=
      ⟨Plane.keeps_deliverTransport joining.plane joiner.stream response,
        Plane.backdrop_deliver _ joiner.stream response joining.plane,
        Plane.transportValid_deliver succeeds, rfl, rfl,
        fun _ round found => ⟨round, found, rfl, List.Subset.refl _⟩⟩
    refine steady.sent sends (by simp) (by simp) (by simp) (fun news heard => sends.vouched id ?_)
    have heardNow : hear joiner.target none
        (joining.advance joiner (joining.plane.deliverTransport joiner.stream response)).log =
          (response.rulesFor? joiner.target).or (hear joiner.target none joining.log) :=
      hear_advance joining sent
    rw [heardNow] at heard
    cases carries : response.rulesFor? joiner.target with
    | none =>
      rw [carries, Option.none_or] at heard
      exact steady.told news heard
    | some snapshot =>
      rw [carries, Option.some_or] at heard
      exact steady.ready response news answering (carries.trans heard)
  · exact steady

/-! ## Whole runs -/

/-- Failures are never taken back. -/
theorem failures_move (joiner : Joiner) (joining : Joining) (move : Move) :
    joining.plane.failures ≤ (joining.move joiner move).plane.failures := by
  cases move with
  | register =>
    simp only [Joining.move, Joining.register]
    split <;> exact Nat.le_refl _
  | look =>
    simp only [Joining.move, Joining.look]
    split <;> exact Nat.le_refl _
  | answer =>
    simp only [Joining.move, Joining.answer]
    split
    · rename_i response answering
      change _ ≤ (joining.plane.deliverTransport joiner.stream response).failures
      rw [Plane.deliverTransport, Plane.failures_deliver]
      exact Nat.le_add_right _ _
    · exact Nat.le_refl _
  | change kind change =>
    simp only [Joining.move, Joining.notice]
    split
    · obtain ⟨-, -, failures, -⟩ := joining.plane.notice_frame kind change
      exact Nat.le_of_eq failures.symm
    · exact Nat.le_refl _
  | read =>
    simp only [Joining.move, Joining.read]
    split <;> exact Nat.le_refl _
  | enqueue =>
    simp only [Joining.move, Joining.enqueue]
    split
    · exact Nat.le_refl _
    · split
      · exact Nat.le_refl _
      · rename_i submitted
        exact Nat.le_of_eq (Plane.failures_submit submitted).symm
  | take worker =>
    simp only [Joining.move, Joining.take]
    split <;> exact Nat.le_refl _
  | serve worker =>
    simp only [Joining.move, Joining.serve]
    split
    · exact Nat.le_refl _
    · rename_i push busy
      have side := Plane.transportSide_publishDiscovery joining.plane push
      have counts : (joining.plane.publishDiscovery push).2.transportCounts =
          joining.plane.transportCounts := congrArg (fun side => side.2.2.2) side
      exact Nat.le_of_eq (congrArg ProtocolCounts.failed counts.symm)
    · rename_i push connection rest busy
      change _ ≤ (Plane.transportChannels.deliverTo joining.plane.settings.maxAttempts
        (Plane.pushedResponse push) connection joining.plane).2.failures
      rw [Plane.failures_deliverTo]
      exact Nat.le_add_right _ _
  | outbox stream change => exact Nat.le_refl _

/-- Whatever happens next keeps the invariant, if nothing is overtaken and no delivery fails. -/
theorem Steady.move (steady : joining.Steady joiner) (move : Move)
    (orderly : joining.Orderly joiner move)
    (unfailed : (joining.move joiner move).plane.failures = joining.plane.failures) :
    (joining.move joiner move).Steady joiner := by
  cases move with
  | register => exact steady.register orderly
  | look => exact steady.look
  | answer => exact steady.answer unfailed
  | change kind change => exact steady.notice kind change
  | read => exact steady.read
  | enqueue => exact steady.enqueue
  | take worker => exact steady.take worker
  | serve worker => exact steady.serve orderly unfailed
  | outbox stream change => exact steady.outbox stream change

/-- So does a whole run. -/
theorem Steady.run {moves : List Move} (steady : joining.Steady joiner)
    (orderly : joining.OrderlyThroughout joiner moves)
    (unfailed : (run joiner moves joining).plane.failures = joining.plane.failures) :
    (run joiner moves joining).Steady joiner := by
  have monotone (moves : List Move) (reached : Joining) :
      reached.plane.failures ≤ (Joining.run joiner moves reached).plane.failures := by
    induction moves generalizing reached with
    | nil => exact Nat.le_refl _
    | cons move rest inductionHypothesis =>
      exact Nat.le_trans (failures_move joiner reached move)
        (inductionHypothesis (reached.move joiner move))
  induction moves generalizing joining with
  | nil => exact steady
  | cons move rest inductionHypothesis =>
    obtain ⟨now, later⟩ := orderly
    have first := failures_move joiner joining move
    have others := monotone rest (joining.move joiner move)
    change (Joining.run joiner rest (joining.move joiner move)).plane.failures =
      joining.plane.failures at unfailed
    have step : (joining.move joiner move).plane.failures = joining.plane.failures := by omega
    exact inductionHypothesis (steady.move move now step) later (unfailed.trans step.symm)

/-- What a joiner needs: its stream is open under its name, which is that of no other stream that
    holds the target and lives; and nothing is on its way. -/
structure Ready (joiner : Joiner) (plane : Plane) : Prop where
  sound : plane.Sound
  named : plane.transportClient? joiner.stream = some joiner.client
  valid : plane.transportValid joiner.stream = true
  alone : ∀ other, plane.slot? joiner.target joiner.client = some other →
    other = joiner.stream ∨ plane.transportValid other = false
  running : plane.dispatcher.stopped = false
  idle : ∀ worker, plane.dispatcher.queue worker = []

/-- A joiner that is ready starts with the invariant. -/
theorem Ready.steady {plane : Plane} (ready : Ready joiner plane) :
    (start plane).Steady joiner := by
  have empty : (start plane).ahead joiner.target = [] := by
    change List.filter _ (plane.dispatcher.queue _ ++ []) = []
    rw [ready.idle]
    rfl
  refine ⟨⟨ready.sound, ready.named, ready.valid, ready.running, fun worker push waits => ?_,
    nofun⟩, fun _ => ready.alone, fun _ push last => ?_, nofun, nofun, nofun, nofun⟩
  · rw [show (start plane).plane.dispatcher.queue worker = [] from ready.idle worker] at waits
    cases waits
  · rw [empty] at last
    cases last

/-- When everything is dealt with, no push of the target is on its way. -/
theorem not_coming_of_done (joiner : Joiner) (done : joining.isDone = true) :
    ¬ joining.Serving joiner ∧ ¬ joining.Later joiner := by
  simp only [isDone, Bool.and_eq_true, List.isEmpty_iff, Option.isNone_iff_eq_none] at done
  obtain ⟨⟨⟨⟨-, unchanged⟩, unprepared⟩, free⟩, empty⟩ := done
  constructor
  · rintro ⟨round, listed, -⟩
    rw [free] at listed
    cases listed
  · rintro (changed | waits)
    · rw [unchanged] at changed
      cases changed
    · apply waits
      have idle := joining.plane.dispatcher.queue_of_idle empty
        (Dispatcher.workerOf App.spread joining.plane.dispatcher joiner.target.app)
      simp [ahead, unprepared, idle]

/-- If nothing is overtaken and no delivery fails, then in the end the rules that the stream heard
    last of the target, if any, are the current ones, with their version. -/
theorem last_response_current {plane : Plane} (ready : Ready joiner plane) (moves : List Move)
    (orderly : (start plane).OrderlyThroughout joiner moves)
    (unfailed : (run joiner moves (start plane)).plane.failures = plane.failures)
    (done : (run joiner moves (start plane)).isDone = true) :
    let joined := run joiner moves (start plane)
    ∀ rules version, hear joiner.target none joined.log = some (rules, version) →
      rules = (joined.plane.rulesOf joiner.target).1 ∧
        version = (joined.plane.rulesOf joiner.target).2 := by
  intro joined rules version heard
  have steady : joined.Steady joiner := ready.steady.run orderly unfailed
  obtain ⟨unserved, still⟩ := not_coming_of_done joiner done
  obtain ⟨-, current⟩ := steady.told (rules, version) heard
  exact (current.resolve_left unserved).resolve_left still

/-! ## Runs -/

/-- A control plane on which one stream was opened and named. -/
def attended : Plane :=
  { Plane.start ⟨.bestEffort, 3, 1000, "control-plane"⟩ Dialogue.named (.ofSizes 1 4) 0 with
    transport := Table.empty.insert ⟨0⟩ (.fresh (some ⟨"first"⟩) none) }

/-- The stream is about to join the target. -/
def first : Joiner := ⟨⟨0⟩, ⟨"first"⟩, "request", Dialogue.foo⟩

/-- It needs nothing more. -/
theorem ready_attended : Ready first attended where
  sound := ⟨Subscribers.accounts_ofKinds Dialogue.named,
    Watchers.wellKept_ofKinds Dialogue.named, Registry.seatedBy_empty _⟩
  named := rfl
  valid := rfl
  alone := nofun
  running := rfl
  idle _ := rfl

/-- A resource is bound to the application, and the changed rules are handed to the dispatcher. -/
def binding (resource : String) : List Move :=
  [.change ⟨"K"⟩ (Tracker.changeTo (Watcher.labelled resource "foo")), .read, .enqueue]

/-- The worker delivers a push to the one stream that holds its target. -/
def delivery : List Move := [.take 0, .serve 0, .serve 0]

/-- Two resources are bound while the stream joins; both pushes are delivered after the snapshot,
    which has the first resource only. -/
def patient : List Move :=
  [.register] ++ binding "a" ++ [.look] ++ binding "b" ++ [.answer] ++ delivery ++ delivery

/-- The stream ends with both resources, in the second version. -/
theorem last_response_current_patient :
    let joined := run first patient (start attended)
    (start attended).OrderlyThroughout first patient ∧
      joined.plane.failures = attended.failures ∧ joined.isDone = true ∧
      hear first.target none joined.log = some ([⟨"a", []⟩, ⟨"b", []⟩], 2) ∧
      joined.plane.rulesOf first.target = ([⟨"a", []⟩, ⟨"b", []⟩], 2) := by
  have orderly : (start attended).OrderlyThroughout first patient := by decide +kernel
  have unfailed : (run first patient (start attended)).plane.failures = attended.failures := by
    decide +kernel
  have done : (run first patient (start attended)).isDone = true := by decide +kernel
  have heard : hear first.target none (run first patient (start attended)).log =
      some ([⟨"a", []⟩, ⟨"b", []⟩], 2) := by decide +kernel
  obtain ⟨rules, version⟩ := last_response_current ready_attended patient orderly unfailed done
    [⟨"a", []⟩, ⟨"b", []⟩] 2 heard
  exact ⟨orderly, unfailed, done, heard, Prod.ext rules.symm (by exact_mod_cast version.symm)⟩

/-- If the snapshot that was read is put on the stream behind the two pushes, the stream ends with
    one of two resources. -/
theorem snapshot_hides_newer_push :
    let joined := run first
      ([.register] ++ binding "a" ++ [.look] ++ binding "b" ++ delivery ++ delivery ++ [.answer])
      (start attended)
    Ready first attended ∧ joined.plane.failures = attended.failures ∧ joined.isDone = true ∧
      hear first.target none joined.log = some ([⟨"a", []⟩], 1) ∧
      joined.plane.rulesOf first.target = ([⟨"a", []⟩, ⟨"b", []⟩], 2) :=
  ⟨ready_attended, by decide +kernel, by decide +kernel, by decide +kernel, by decide +kernel⟩

/-- A client subscribed the target, a resource was bound to it, and the client left again. A second
    stream was opened and named. -/
def departed : Dialogue :=
  ((Dialogue.run
    (Dialogue.joining ⟨0⟩ "first" ++ Dialogue.binding "a" "foo" ++
      [.request ⟨0⟩ ⟨some ⟨"default", "foo", ["K"]⟩, 1, "request", "", none, "first"⟩, .proceed,
        .proceed, .opening ⟨1⟩ none]) Dialogue.vacant).name ⟨1⟩ "second").2

/-- The second stream is about to join the target. -/
def second : Joiner := ⟨⟨1⟩, ⟨"second"⟩, "request", Dialogue.foo⟩

/-- It needs nothing more. -/
theorem ready_departed : Ready second departed.plane := by
  have informed : departed.Informed := by
    apply Dialogue.Informed.name
    · exact (Dialogue.informed_start _ Dialogue.named 1 1 0).run (by decide +kernel)
        (by decide +kernel)
    · decide +kernel
  have vacant : departed.plane.slot? second.target second.client = none := by decide +kernel
  refine ⟨informed.sound, by decide +kernel, by decide +kernel, fun other seated => ?_,
    informed.running, departed.plane.dispatcher.queue_of_idle (by decide +kernel)⟩
  cases vacant.symm.trans seated

/-- The target is not tracked when the resource is observed again, so the resource is taken out of
    the cache, and the push that says so waits. Then the stream is registered, which puts the
    resource back, and hears that at once; and then it hears the push. -/
theorem push_hides_newer_snapshot :
    let joined := run second (binding "a" ++ [.register, .look, .answer] ++ delivery)
      (start departed.plane)
    Ready second departed.plane ∧ joined.plane.failures = departed.plane.failures ∧
      joined.isDone = true ∧
      hear second.target none joined.log = some ([], 2) ∧
      joined.plane.rulesOf second.target = ([⟨"a", []⟩], 3) :=
  ⟨ready_departed, by decide +kernel, by decide +kernel, by decide +kernel, by decide +kernel⟩

end Joining

end RulePlane
