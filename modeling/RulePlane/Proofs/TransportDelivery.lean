import RulePlane.Proofs.TransportStreams

/-!
# Deliveries to transport streams

What a push to the holders of a target brings each of them. A delivery may be attempted several
times, but only the last attempt succeeds, so a message is put into an outbox once or not at all
(`Push.retry_once`). A push goes through all connections unless it fails on one of them
(`Frame.fanOut_passes`), and no connection is met twice, because each stream has one name.

So a push that does not fail brings every valid holder exactly one response
(`publishTransport_delivers`), and it does not fail if all of them read and have room
(`publishTransport_succeeds`). In which order the holders are served is left open.
-/

namespace RulePlane

section Deliveries

variable {σ γ μ : Type}

/-- If one attempt puts a message behind the others when it succeeds and leaves them alone when it
    fails, so do repeated attempts: the message is put there once. -/
theorem Push.retry_once {attempt : σ → SendOutcome × σ} {read : σ → List μ} {message : μ}
    (once : ∀ state, read (attempt state).2 =
      if (attempt state).1 = .sent then read state ++ [message] else read state)
    (more : Nat) (state : σ) :
    read (Push.retry attempt more state).2 =
      if (Push.retry attempt more state).1 = .sent then read state ++ [message]
      else read state := by
  induction more generalizing state with
  | zero => exact once state
  | succ more inductionHypothesis =>
    have first := once state
    unfold Push.retry
    split <;> rename_i reached attempted <;> rw [attempted] at first
    · have same : read reached = read state := by simpa using first
      rw [inductionHypothesis reached, same]
    · exact first
    · exact first

/-- If the first attempt succeeds there is no other one. -/
theorem Push.retry_sent {attempt : σ → SendOutcome × σ} {state : σ}
    (sent : (attempt state).1 = .sent) (more : Nat) :
    (Push.retry attempt more state).1 = .sent := by
  cases more with
  | zero => exact sent
  | succ more =>
    unfold Push.retry
    split <;> rename_i reached attempted
    · rw [attempted] at sent
      cases sent
    · rfl
    · rw [attempted] at sent
      cases sent

variable {mode : FanOutMode} {send : γ → σ → Except PushError Unit × σ}

/-- A push that succeeds met each of its connections with success, and whatever the sends to the
    other ones leave alone was left alone before and after. -/
theorem Frame.fanOut_passes {relation : σ → σ → Prop} (frame : Frame relation)
    {connections : List γ} (distinct : connections.Nodup) {connection : γ}
    (member : connection ∈ connections)
    (others : ∀ other ∈ connections, other ≠ connection → ∀ state,
      relation state (send other state).2) {state : σ}
    (succeeds : (Push.fanOut mode send connections state).1 = .ok ()) :
    ∃ met, relation state met ∧ (send connection met).1 = .ok () ∧
      relation (send connection met).2 (Push.fanOut mode send connections state).2 := by
  induction connections generalizing state with
  | nil => cases member
  | cons first rest inductionHypothesis =>
    obtain ⟨absent, distinct⟩ := List.nodup_cons.1 distinct
    have behind : ∀ other ∈ rest, other ≠ connection → ∀ state,
        relation state (send other state).2 :=
      fun other listed => others other (List.mem_cons_of_mem first listed)
    unfold Push.fanOut at succeeds ⊢
    split at succeeds
    · rename_i reached sent
      rcases List.mem_cons.1 member with rfl | listed
      · refine ⟨state, frame.refl state, by rw [sent], ?_⟩
        rw [sent]
        refine frame.fanOut mode rest (fun other listed => behind other listed ?_) reached
        rintro rfl
        exact absent listed
      · have different : first ≠ connection := by
          rintro rfl
          exact absent listed
        obtain ⟨met, before, success, after⟩ :=
          inductionHypothesis distinct listed behind succeeds
        have left := others first List.mem_cons_self different state
        rw [sent] at left
        exact ⟨met, frame.trans left before, success, after⟩
    · cases mode with
      | failFast => cases succeeds
      | bestEffort => cases succeeds

/-- If every connection that is ready is met with success, and is not made unready by the sends to
    others, a push to connections that are all ready succeeds. -/
theorem Push.fanOut_succeeds {ready : γ → σ → Prop}
    (accepted : ∀ connection state, ready connection state → (send connection state).1 = .ok ())
    {connections : List γ} (distinct : connections.Nodup)
    (stays : ∀ connection ∈ connections, ∀ other ∈ connections, connection ≠ other → ∀ state,
      ready other state → ready other (send connection state).2) {state : σ}
    (all : ∀ connection ∈ connections, ready connection state) :
    (Push.fanOut mode send connections state).1 = .ok () := by
  induction connections generalizing state with
  | nil => rfl
  | cons first rest inductionHypothesis =>
    obtain ⟨absent, distinct⟩ := List.nodup_cons.1 distinct
    have success := accepted first state (all first List.mem_cons_self)
    have others : ∀ connection ∈ rest, ready connection (send first state).2 := by
      intro connection listed
      refine stays first List.mem_cons_self connection (List.mem_cons_of_mem first listed) ?_ state
        (all connection (List.mem_cons_of_mem first listed))
      rintro rfl
      exact absent listed
    unfold Push.fanOut
    split <;> rename_i reached sent <;> rw [sent] at success others
    · refine inductionHypothesis distinct (fun connection listed other also => ?_) others
      exact stays connection (List.mem_cons_of_mem first listed) other
        (List.mem_cons_of_mem first also)
    · cases success

end Deliveries

namespace Plane

/-- The responses that wait for the client of a transport stream. -/
def waiting (stream : StreamId) (plane : Plane) : List Transport.Response :=
  ((plane.transport.find? stream).map fun found => found.outbox.waiting).getD []

/-- Whether the client of a transport stream reads its responses and there is room for one more. -/
def Accepts (plane : Plane) (stream : StreamId) : Prop :=
  ∃ found, plane.transport.find? stream = some found ∧ found.outbox.readerGone = false ∧
    found.outbox.isFull = false

/-- A push puts its rules into a response, under a token of its own. -/
theorem pushedResponse_eq (push : Push) (plane : Plane) :
    ∃ token, (pushedResponse push plane).1 =
      .ofRules plane.settings.controlPlane token push.target push.rules push.version :=
  ⟨_, rfl⟩

/-- One attempt puts the response behind those that wait if it succeeds, and else leaves them
    alone. -/
theorem waiting_attemptTransport (stream : StreamId) (response : Transport.Response)
    (plane : Plane) :
    (attemptTransport stream response plane).2.waiting stream =
      if (attemptTransport stream response plane).1 = .sent then
        plane.waiting stream ++ [response]
      else plane.waiting stream := by
  unfold attemptTransport
  split
  · simp
  · rename_i found present
    have offered := found.outbox.waiting_offer response
    cases outcome : (found.outbox.offer response).1 <;>
      simpa [waiting, wait, present, outcome] using offered

/-- Closing a connection leaves alone what waits. -/
theorem waiting_invalidateTransport (stream : StreamId) (plane : Plane) :
    (invalidateTransport stream plane).waiting stream = plane.waiting stream := by
  simp [waiting, invalidateTransport, Table.find?_modify, Option.map_map, Function.comp_def]

/-- One send puts the response behind those that wait if it succeeds, and else leaves them alone. -/
theorem waiting_send (stream : StreamId) (response : Transport.Response) (plane : Plane) :
    (transportChannels.send stream response plane).2.waiting stream =
      if (transportChannels.send stream response plane).1 = .sent then
        plane.waiting stream ++ [response]
      else plane.waiting stream := by
  have attempted := waiting_attemptTransport stream response plane
  change (transportChannels.attempt stream response plane).2.waiting stream =
    if (transportChannels.attempt stream response plane).1 = .sent then _ else _ at attempted
  unfold Channels.send
  split <;> rename_i reached outcome <;> rw [outcome] at attempted
  · exact (waiting_invalidateTransport stream reached).trans attempted
  · exact attempted
  · exact attempted

/-- A send to a client that reads and has room succeeds. -/
theorem send_of_accepts {plane : Plane} {stream : StreamId} (accepts : plane.Accepts stream)
    (response : Transport.Response) :
    (transportChannels.send stream response plane).1 = .sent := by
  obtain ⟨found, present, reads, room⟩ := accepts
  simp [Channels.send, transportChannels, attemptTransport, present, Outbox.offer, reads, room]

/-- Delivering a response puts it behind those that wait exactly if the delivery succeeds. -/
theorem waiting_deliver (maxAttempts : Nat) (stream : StreamId) (response : Transport.Response)
    (plane : Plane) :
    (transportChannels.deliver maxAttempts stream response plane).2.waiting stream =
      if (transportChannels.deliver maxAttempts stream response plane).1 = .sent then
        plane.waiting stream ++ [response]
      else plane.waiting stream :=
  Push.retry_once (waiting_send stream response) (maxAttempts - 1) plane

/-- What concerns one stream while others are pushed to: the settings and the stream itself. -/
def regarding (stream : StreamId) (plane : Plane) : PushSettings × Option TransportStream :=
  (plane.settings, plane.transport.find? stream)

/-- What does not concern a stream leaves alone what waits there. -/
theorem waiting_of_regarding {stream : StreamId} {before after : Plane}
    (same : after.regarding stream = before.regarding stream) :
    after.waiting stream = before.waiting stream :=
  congrArg (fun found => (found.map fun found => found.outbox.waiting).getD [])
    (Prod.mk.inj same).2

/-- A delivery to one stream does not concern any other. -/
theorem transportChannels_regarding {stream other : StreamId} (different : other ≠ stream) :
    transportChannels.Within
      (fun before after => after.regarding stream = before.regarding stream) other := by
  refine ⟨fun message state => ?_, fun state => ?_, fun _ _ => rfl⟩
  · change (attemptTransport other message state).2.regarding stream = state.regarding stream
    unfold attemptTransport
    split
    · rfl
    · dsimp only
      split <;> simp [regarding, wait, Table.find?_insert, different]
  · change (invalidateTransport other state).regarding stream = state.regarding stream
    simp [regarding, invalidateTransport, Table.find?_modify, different]

/-- Serving one connection of a push does not concern another stream. -/
theorem regarding_deliverTo {stream : StreamId} {connection : ClientId × StreamId}
    (different : connection.2 ≠ stream) (maxAttempts : Nat) (push : Push) (plane : Plane) :
    (transportChannels.deliverTo maxAttempts (pushedResponse push) connection plane).2.regarding
      stream = plane.regarding stream := by
  have frame := frame_of_same (regarding stream)
  unfold Channels.deliverTo
  dsimp only
  split
  · exact frame.deliver (transportChannels_regarding different) maxAttempts _ _
  · rfl

/-- Serving a valid connection of a push with success brings its client exactly one response. -/
theorem waiting_deliverTo {connection : ClientId × StreamId} {maxAttempts : Nat} {push : Push}
    {plane : Plane} (valid : plane.transportValid connection.2 = true)
    (succeeds : (transportChannels.deliverTo maxAttempts (pushedResponse push) connection
      plane).1 = .ok ()) :
    ∃ token,
      (transportChannels.deliverTo maxAttempts (pushedResponse push) connection plane).2.waiting
          connection.2 =
        plane.waiting connection.2 ++
          [.ofRules plane.settings.controlPlane token push.target push.rules push.version] := by
  obtain ⟨token, made⟩ := pushedResponse_eq push plane
  refine ⟨token, ?_⟩
  have still : transportChannels.isValid connection.2 (pushedResponse push plane).2 = true := valid
  have delivered := waiting_deliver maxAttempts connection.2 (pushedResponse push plane).1
    (pushedResponse push plane).2
  unfold Channels.deliverTo at succeeds ⊢
  simp only [still, if_true] at succeeds ⊢
  rw [delivered, ← made]
  generalize (transportChannels.deliver maxAttempts connection.2 (pushedResponse push plane).1
    (pushedResponse push plane).2).1 = outcome at succeeds
  cases outcome with
  | sent => rfl
  | timedOut => cases succeeds
  | closed => cases succeeds

/-- No stream is in two slots at one target. -/
theorem WellSeated.apart {plane : Plane} (wellSeated : plane.WellSeated) {target : Target}
    {clients : Table ClientId StreamId}
    (held : plane.subscribers.transport.holders? target = some clients)
    {connection other : ClientId × StreamId} (member : connection ∈ clients.entries)
    (also : other ∈ clients.entries) (different : other ≠ connection) :
    other.2 ≠ connection.2 := by
  intro same
  have named := wellSeated.named target _ _ ((Registry.mem_holders_iff held connection).1 member)
  have alsoNamed := wellSeated.named target _ _ ((Registry.mem_holders_iff held other).1 also)
  rw [same, named] at alsoNamed
  exact different (Prod.ext (Option.some.inj alsoNamed).symm same)

/-- A push that does not fail brings every valid holder of its target exactly one response, with the
    rules of the push. -/
theorem publishTransport_delivers {plane : Plane} (wellSeated : plane.WellSeated) {push : Push}
    {client : ClientId} {stream : StreamId} (seated : plane.slot? push.target client = some stream)
    (valid : plane.transportValid stream = true)
    (succeeds : (plane.publishTransport push).1 = .ok ()) :
    ∃ token, (plane.publishTransport push).2.waiting stream = plane.waiting stream ++
      [.ofRules plane.settings.controlPlane token push.target push.rules push.version] := by
  unfold publishTransport at succeeds ⊢
  split at succeeds
  · cases succeeds
  · rename_i clients held
    have member := (Registry.mem_holders_iff held (client, stream)).2 seated
    have frame := frame_of_same (regarding stream)
    obtain ⟨met, before, success, after⟩ := frame.fanOut_passes clients.nodup_entries member
      (fun other also different state =>
        regarding_deliverTo (wellSeated.apart held member also different) _ push state) succeeds
    obtain ⟨settings, same⟩ := Prod.mk.inj before
    have living : met.transportValid stream = true := by
      rwa [transportValid, same]
    obtain ⟨token, delivered⟩ := waiting_deliverTo living success
    rw [settings, waiting_of_regarding before] at delivered
    exact ⟨token, (waiting_of_regarding after).trans delivered⟩

/-- A push to a target that is held does not fail if all valid holders read their responses and have
    room for one more. -/
theorem publishTransport_succeeds {plane : Plane} (wellSeated : plane.WellSeated) {push : Push}
    {client : ClientId} {stream : StreamId} (seated : plane.slot? push.target client = some stream)
    (accept : ∀ owner other, plane.slot? push.target owner = some other →
      plane.transportValid other = true → plane.Accepts other) :
    (plane.publishTransport push).1 = .ok () := by
  unfold publishTransport
  split
  · rename_i vacant
    cases seated.symm.trans (Registry.connection?_of_vacant vacant client)
  · rename_i clients held
    let ready (connection : ClientId × StreamId) (state : Plane) : Prop :=
      state.transportValid connection.2 = true → state.Accepts connection.2
    have accepted (connection : ClientId × StreamId) (state : Plane)
        (prepared : ready connection state) :
        (transportChannels.deliverTo plane.settings.maxAttempts (pushedResponse push) connection
          state).1 = .ok () := by
      unfold Channels.deliverTo
      dsimp only
      split
      · rename_i living
        have accepts : (pushedResponse push state).2.Accepts connection.2 := prepared living
        have sent := Push.retry_sent (send_of_accepts accepts (pushedResponse push state).1)
          (plane.settings.maxAttempts - 1)
        exact congrArg (SendOutcome.result connection.1) sent
      · rfl
    refine Push.fanOut_succeeds accepted clients.nodup_entries ?_ ?_
    · intro connection member other also different state prepared
      have same := (Prod.mk.inj (regarding_deliverTo (wellSeated.apart held also member different)
        plane.settings.maxAttempts push state)).2
      simp only [ready, transportValid, Accepts] at prepared ⊢
      rwa [same]
    · intro connection member
      exact accept _ _ ((Registry.mem_holders_iff held connection).1 member)

end Plane

end RulePlane
