import RulePlane.Proofs.TransportNews

/-!
# Snapshots

What the requests of transport clients do, and the end of a stream: to the slots, to the streams, to
the rules and to what the clients hear. A subscription is answered by a snapshot. It brings its
client up to date if it has heard nothing of the target yet (`hears_subscribeTransport`), and leaves
everybody up to date who holds a target (`informs_subscribeTransport`): the watcher fills a target
only while nobody holds it.

`Sound` is what these laws rest on: slots are well seated, and the targets that are tracked are
those that somebody holds. Every step keeps it.
-/

namespace RulePlane

namespace Plane

/-! ## Soundness -/

/-- What is held is tracked and conversely, and slots are well seated. -/
structure Sound (plane : Plane) : Prop where
  accounts : plane.subscribers.Accounts []
  wellSeated : plane.WellSeated

/-- A control plane without clients is sound. -/
theorem sound_start (settings : PushSettings) (kinds : KindTable) (dispatcher : Dispatcher)
    (clock : UInt64) : (start settings kinds dispatcher clock).Sound :=
  ⟨Subscribers.accounts_ofKinds kinds, wellSeated_start settings kinds dispatcher clock⟩

/-- A target that somebody holds is tracked. -/
theorem Sound.tracked {plane : Plane} (sound : plane.Sound) {target : Target} {client : ClientId}
    {stream : StreamId} (seated : plane.slot? target client = some stream) :
    plane.subscribers.watchers.hasTarget target = true := by
  refine sound.accounts.tracked target ⟨.transport, client, ?_⟩
  change (plane.slot? target client).isSome = true
  rw [seated]
  rfl

/-- A target that is tracked is of a supported kind. -/
theorem Sound.supported {plane : Plane} (sound : plane.Sound) {target : Target}
    (tracked : plane.subscribers.watchers.hasTarget target = true) :
    plane.subscribers.watchers.supports target.kind = true := by
  unfold Watchers.hasTarget at tracked
  split at tracked
  · rename_i watcher found
    exact (sound.wellSeated.wellKept _ watcher found).2
  · cases tracked

/-- The subscribers after a transport client subscribed are those of the subscription; the rest is
    sending. -/
theorem backdrop_subscribeTransport (plane : Plane) (stream : StreamId) (client : ClientId)
    (requestId : String) (subscribed : Target) :
    (plane.subscribeTransport stream client requestId subscribed).backdrop =
      ((plane.subscribers.subscribe plane.transportValid .transport subscribed client stream).2,
        plane.dispatcher) := by
  unfold subscribeTransport
  generalize plane.subscribers.subscribe plane.transportValid .transport subscribed client stream =
    outcome
  obtain ⟨result, after⟩ := outcome
  cases result with
  | ok _ =>
    dsimp only
    unfold sendSnapshot
    dsimp only
    split
    · rfl
    · exact backdrop_deliver _ stream _ _
  | error fault =>
    cases fault with
    | watch _ => exact backdrop_deliver _ stream _ _
    | registry _ => rfl

/-- A tracked target stays tracked when somebody subscribes. -/
theorem Sound.tracked_subscribe {plane : Plane} (sound : plane.Sound) {target : Target}
    (tracked : plane.subscribers.watchers.hasTarget target = true) (stream : StreamId)
    (client : ClientId) (requestId : String) (subscribed : Target) :
    (plane.subscribeTransport stream client requestId subscribed).subscribers.watchers.hasTarget
      target = true := by
  have held := (sound.accounts.owing target tracked).resolve_right List.not_mem_nil
  have accounts := sound.accounts.subscribe plane.transportValid .transport subscribed client stream
  rw [(Prod.mk.inj (backdrop_subscribeTransport plane stream client requestId subscribed)).1]
  exact accounts.tracked target
    (held.subscribe sound.wellSeated.wellKept plane.transportValid .transport subscribed client
      stream)

/-- A step that touches neither subscribers nor streams of transport clients leaves them as sound as
    they were; so does one that changes the watchers, if these still keep account. -/
theorem Sound.kept {before after : Plane} (sound : before.Sound) (keeps : Keeps before after)
    (accounts : after.subscribers.Accounts []) : after.Sound :=
  ⟨accounts, keeps.wellSeated sound.wellSeated⟩

/-- A subscription leaves the control plane sound, if the stream has the name of the client. -/
theorem Sound.subscribeTransport {plane : Plane} (sound : plane.Sound) {stream : StreamId}
    {client : ClientId} (named : plane.transportClient? stream = some client)
    (requestId : String) (target : Target) :
    (plane.subscribeTransport stream client requestId target).Sound := by
  have retains : Retains (fun _ _ => False) plane
      (plane.subscribeTransport stream client requestId target) :=
    retains_subscribeTransport (fun _ => named) requestId target
  refine ⟨?_, (retains sound.wellSeated).1⟩
  rw [(Prod.mk.inj (backdrop_subscribeTransport plane stream client requestId target)).1]
  exact sound.accounts.subscribe _ _ target client stream

/-- Leaving a target leaves the control plane sound. -/
theorem Sound.unsubscribeTransport {plane : Plane} (sound : plane.Sound) (client : ClientId)
    (target : Target) : (plane.unsubscribeTransport client target).Sound := by
  have retains : Retains (fun _ _ => True) plane (plane.unsubscribeTransport client target) :=
    retains_unsubscribeTransport plane trivial
  exact ⟨sound.accounts.unsubscribe .transport target client, (retains sound.wellSeated).1⟩

/-- The end of a stream leaves the control plane sound. -/
theorem Sound.finishTransport {plane : Plane} (sound : plane.Sound) (stream : StreamId) :
    (plane.finishTransport stream).Sound := by
  have retains : Retains (fun _ _ => True) plane (plane.finishTransport stream) :=
    retains_finishTransport fun _ _ _ => trivial
  refine ⟨?_, (retains sound.wellSeated).1⟩
  unfold Plane.finishTransport
  split
  · exact sound.accounts
  · exact sound.accounts.disconnect .transport _

/-! ## What is heard of a subscription -/

/-- Failures are never taken back by a subscription. -/
theorem failures_subscribeTransport (plane : Plane) (stream : StreamId) (client : ClientId)
    (requestId : String) (subscribed : Target) :
    plane.failures ≤ (plane.subscribeTransport stream client requestId subscribed).failures := by
  have delivering (response : Transport.Response) (subscribers : Subscribers) :
      plane.failures ≤
        (({ plane with subscribers } : Plane).deliverTransport stream response).failures := by
    rw [deliverTransport, failures_deliver]
    exact Nat.le_add_right _ _
  unfold subscribeTransport
  generalize plane.subscribers.subscribe plane.transportValid .transport subscribed client stream =
    outcome
  obtain ⟨result, after⟩ := outcome
  cases result with
  | ok _ =>
    dsimp only
    unfold sendSnapshot
    dsimp only
    split
    · exact Nat.le_refl _
    · exact delivering _ after
  | error fault =>
    cases fault with
    | watch _ => exact delivering _ after
    | registry _ => exact Nat.le_refl _

/-- A subscription says nothing to other streams, and nothing of other targets. -/
theorem spares_subscribeTransport {stream tested : StreamId} {subscribed target : Target}
    (other : stream ≠ tested ∨ subscribed ≠ target) (plane : Plane) (client : ClientId)
    (requestId : String) :
    Spares target tested plane (plane.subscribeTransport stream client requestId subscribed) := by
  unfold subscribeTransport
  generalize plane.subscribers.subscribe plane.transportValid .transport subscribed client stream =
    outcome
  obtain ⟨result, after⟩ := outcome
  have entered : Spares target tested plane { plane with subscribers := after } :=
    spares_of_same rfl
  have frame := frame_spares target tested
  cases result with
  | ok _ =>
    dsimp only
    unfold sendSnapshot
    dsimp only
    split
    · exact entered
    · refine frame.trans entered (spares_deliver (other.imp_right fun different => ?_) _ _)
      rw [Transport.Response.rulesFor?_ofRules, if_neg different]
  | error fault =>
    cases fault with
    | watch _ =>
      exact frame.trans entered (spares_deliver
        (Or.inr (Transport.Response.rulesFor?_unsupported _ requestId subscribed target)) _ _)
    | registry _ => exact entered

/-- A snapshot brings its client up to date if it has heard nothing yet, and leaves it so; unless
    the delivery fails. -/
theorem hears_sendSnapshot {plane : Plane} {stream : StreamId} {target : Target}
    {requestId : String}
    (unfailed : (plane.sendSnapshot stream target requestId).failures = plane.failures) :
    ∃ responses, (plane.sendSnapshot stream target requestId).waiting stream =
        plane.waiting stream ++ responses ∧
      ∀ heard, heard = none ∨ plane.UpToDate target heard →
        (plane.sendSnapshot stream target requestId).UpToDate target
          (hear target heard responses) := by
  unfold sendSnapshot at unfailed ⊢
  dsimp only at unfailed ⊢
  split
  · rename_i vacant
    refine ⟨[], (List.append_nil _).symm, ?_⟩
    rintro heard (rfl | upToDate)
    · exact List.isEmpty_iff.1 vacant
    · exact upToDate
  · rename_i present
    rw [if_neg present] at unfailed
    rw [deliverTransport] at unfailed ⊢
    rw [failures_deliver] at unfailed
    have delivered := waiting_deliver plane.settings.maxAttempts stream
      (.ofRules plane.settings.controlPlane requestId target
        (plane.subscribers.watchers.rules target.kind target.app).1
        (plane.subscribers.watchers.rules target.kind target.app).2) plane
    split at unfailed
    · rename_i sent
      rw [if_pos sent] at delivered
      refine ⟨_, delivered, fun heard _ => ?_⟩
      rw [hear_ofRules]
      have current : plane.UpToDate target
          (some ((plane.rulesOf target).1, (plane.rulesOf target).2)) := ⟨rfl, rfl⟩
      refine current.of_same ?_
      rw [rulesOf, (Prod.mk.inj (backdrop_deliver _ stream _ plane)).1, rulesOf]
    · omega

/-- A subscription leaves the clients of tracked targets up to date, its own client too; unless a
    delivery fails. -/
theorem informs_subscribeTransport {plane : Plane} {stream tested : StreamId}
    {client : ClientId} {requestId : String} {subscribed target : Target}
    (tracked : plane.subscribers.watchers.hasTarget target = true)
    (unfailed : (plane.subscribeTransport stream client requestId subscribed).failures =
      plane.failures) :
    Informs target tested plane
      (plane.subscribeTransport stream client requestId subscribed) := by
  have kept : subscribed ≠ target ∨ plane.subscribers.watchers.hasTarget subscribed = true := by
    by_cases same : subscribed = target
    · exact Or.inr (same ▸ tracked)
    · exact Or.inl same
  have rules := Subscribers.rulesOf_subscribe plane.subscribers plane.transportValid .transport
    subscribed client stream kept
  have same : (plane.subscribeTransport stream client requestId subscribed).rulesOf target =
      plane.rulesOf target := by
    rw [rulesOf, (Prod.mk.inj (backdrop_subscribeTransport plane stream client requestId
      subscribed)).1, rules, rulesOf]
  by_cases other : stream ≠ tested ∨ subscribed ≠ target
  · exact (spares_subscribeTransport other plane client requestId).informs same
  · obtain ⟨rfl, rfl⟩ : stream = tested ∧ subscribed = target := by
      simpa [not_or] using other
    unfold subscribeTransport at unfailed same ⊢
    generalize plane.subscribers.subscribe plane.transportValid .transport subscribed client
      stream = outcome at unfailed same rules ⊢
    obtain ⟨result, after⟩ := outcome
    cases result with
    | ok _ =>
      obtain ⟨responses, sent, informed⟩ := hears_sendSnapshot
        (unfailed : _ = ({ plane with subscribers := after } : Plane).failures)
      refine ⟨responses, sent, fun heard upToDate => informed heard (Or.inr ?_)⟩
      exact upToDate.of_same rules
    | error fault =>
      have entered : Spares subscribed stream plane { plane with subscribers := after } :=
        spares_of_same rfl
      cases fault with
      | watch _ =>
        refine Spares.informs ((frame_spares subscribed stream).trans entered
          (spares_deliver (Or.inr ?_) _ _)) same
        exact Transport.Response.rulesFor?_unsupported _ requestId subscribed subscribed
      | registry _ => exact entered.informs same

/-- A client that has heard nothing of a target and subscribes it is up to date then, and the target
    is tracked; or it is refused, and still has heard nothing; unless a delivery fails. -/
theorem hears_subscribeTransport {plane : Plane} (sound : plane.Sound) {stream : StreamId}
    {client : ClientId} {requestId : String} {subscribed : Target}
    (unfailed : (plane.subscribeTransport stream client requestId subscribed).failures =
      plane.failures) :
    ∃ responses,
      (plane.subscribeTransport stream client requestId subscribed).waiting stream =
          plane.waiting stream ++ responses ∧
        ((plane.subscribeTransport stream client requestId subscribed).UpToDate subscribed
            (hear subscribed none responses) ∧
          (plane.subscribeTransport stream client requestId
            subscribed).subscribers.watchers.hasTarget subscribed = true ∨
        hear subscribed none responses = none ∧
          (plane.subscribers.watchers.supports subscribed.kind = false ∨
            plane.transportValid stream = false)) := by
  have outcomes := Subscribers.subscribe_cases sound.wellSeated.wellKept plane.transportValid
    .transport subscribed client stream
  have accounts := sound.accounts.subscribe plane.transportValid .transport subscribed client stream
  rw [(Prod.mk.inj (backdrop_subscribeTransport plane stream client requestId subscribed)).1]
  unfold subscribeTransport at unfailed ⊢
  generalize plane.subscribers.subscribe plane.transportValid .transport subscribed client
    stream = outcome at outcomes accounts unfailed ⊢
  obtain ⟨result, after⟩ := outcome
  rcases outcomes with ⟨unsupported, kept, fault, rfl⟩ | ⟨-, dead, -, fault, rfl⟩ |
    ⟨-, -, rfl, registered, registry, -, added, rfl⟩
  · obtain ⟨responses, sent, silent⟩ := spares_deliver
      (Or.inr (Transport.Response.rulesFor?_unsupported plane.settings.controlPlane requestId
        subscribed subscribed) : stream ≠ stream ∨ _) plane.settings.maxAttempts
          ({ plane with subscribers := after } : Plane)
    exact ⟨responses, sent, Or.inr ⟨hear_spared silent none, Or.inl unsupported⟩⟩
  · exact ⟨[], (List.append_nil _).symm, Or.inr ⟨rfl, Or.inr dead⟩⟩
  · obtain ⟨responses, sent, informed⟩ := hears_sendSnapshot
      (unfailed : _ = ({ plane with
        subscribers := registered.withRegistry .transport registry } : Plane).failures)
    have taken := (Registry.isSome_connection?_add added subscribed client).2 (Or.inl ⟨rfl, rfl⟩)
    exact ⟨responses, sent,
      Or.inl ⟨informed none (Or.inl rfl), accounts.tracked subscribed ⟨.transport, client, taken⟩⟩⟩

/-! ## What the steps leave alone -/

/-- Sending changes no supported kind. -/
theorem Keeps.supports {before after : Plane} (keeps : Keeps before after) (kind : Kind) :
    after.subscribers.watchers.supports kind = before.subscribers.watchers.supports kind :=
  congrArg (fun kinds : KindTable => kinds.contains kind) keeps.subscribers.kinds

/-- What a subscription does to the streams and to the slots: no stream is renamed or revived, the
    same kinds are supported, and no slot is taken but the one that was asked for. -/
theorem subscribeTransport_frame {plane : Plane} (wellKept : plane.subscribers.watchers.WellKept)
    (stream : StreamId) (client : ClientId) (requestId : String) (subscribed : Target) :
    let after := plane.subscribeTransport stream client requestId subscribed
    (∀ other, after.transportClient? other = plane.transportClient? other) ∧
      (∀ other, after.transportValid other = true → plane.transportValid other = true) ∧
      (∀ kind, after.subscribers.watchers.supports kind =
        plane.subscribers.watchers.supports kind) ∧
      ∀ target owner other, after.slot? target owner = some other →
        plane.slot? target owner = some other ∨ other = stream ∧ target = subscribed := by
  rcases subscribeTransport_cases wellKept stream client requestId subscribed with
    ⟨keeps, -⟩ | ⟨registry, added, -, keeps⟩
  · refine ⟨keeps.transportClient?, keeps.transportValid, keeps.supports,
      fun target owner other seated => Or.inl ?_⟩
    exact (keeps.slot? target owner).symm.trans seated
  · refine ⟨keeps.transportClient?, keeps.transportValid, keeps.supports,
      fun target owner other seated => ?_⟩
    have filled : registry.connection? target owner = some other :=
      (keeps.slot? target owner).symm.trans seated
    rw [Registry.connection?_add added] at filled
    split at filled
    · rename_i taken
      exact Or.inr ⟨(Option.some.inj filled).symm, taken.1.symm⟩
    · exact Or.inl filled

/-- Leaving a target takes no slot, and the same kinds are supported. -/
theorem unsubscribeTransport_frame (plane : Plane) (client : ClientId) (left : Target) :
    let after := plane.unsubscribeTransport client left
    (∀ kind, after.subscribers.watchers.supports kind =
        plane.subscribers.watchers.supports kind) ∧
      ∀ target owner other, after.slot? target owner = some other →
        plane.slot? target owner = some other := by
  have keeps := unsubscribeTransport_keeps plane client left
  refine ⟨keeps.supports, fun target owner other seated => ?_⟩
  exact Registry.connection?_of_remove ((keeps.slot? target owner).symm.trans seated)

/-- Changing a transport stream without its outbox leaves alone what waits. -/
theorem waiting_of_modified {before after : Plane} {stream : StreamId}
    {change : TransportStream → TransportStream}
    (modified : after.transport = before.transport.modify stream change)
    (outbox : ∀ found, (change found).outbox = found.outbox) (other : StreamId) :
    after.waiting other = before.waiting other := by
  simp only [waiting, modified, Table.find?_modify]
  split
  · cases before.transport.find? other with
    | none => rfl
    | some found => simp [outbox]
  · rfl

/-- The end of a stream says nothing to anybody, renames and revives no stream, changes no rules,
    takes no slot and leaves the queues alone; the stream itself is not valid any more, if it had a
    name. -/
theorem finishTransport_frame (plane : Plane) (stream : StreamId) :
    let after := plane.finishTransport stream
    (∀ other, after.waiting other = plane.waiting other) ∧
      (∀ other, after.transportClient? other = plane.transportClient? other) ∧
      (∀ other, after.transportValid other = true → plane.transportValid other = true) ∧
      (∀ client, plane.transportClient? stream = some client →
        after.transportValid stream = false) ∧
      (∀ kind, after.subscribers.watchers.supports kind =
        plane.subscribers.watchers.supports kind) ∧
      (∀ target, after.rulesOf target = plane.rulesOf target) ∧
      (∀ target owner other, after.slot? target owner = some other →
        plane.slot? target owner = some other) ∧
      after.dispatcher = plane.dispatcher ∧ after.failures = plane.failures := by
  unfold finishTransport
  split
  · rename_i unnamed
    refine ⟨fun _ => rfl, fun _ => rfl, fun _ valid => valid, fun client named => ?_,
      fun _ => rfl, fun _ => rfl, fun _ _ _ seated => seated, rfl, rfl⟩
    cases unnamed.symm.trans named
  · rename_i name named
    have closed := keeps_invalidateTransport plane stream
    have released := Subscribers.keepsSlots_releaseAll
      (plane.subscribers.withRegistry .transport
        (plane.subscribers.transport.removeClient name).2)
      (plane.subscribers.transport.removeClient name).1
    refine ⟨fun other => ?_, closed.transportClient?, closed.transportValid, fun _ _ => ?_,
      fun kind => ?_, fun target => ?_, fun target owner other seated => ?_, rfl, rfl⟩
    · exact waiting_of_modified rfl (by exact fun _ => rfl) other
    · simp only [transportValid, invalidateTransport, Table.find?_modify, if_true]
      cases plane.transport.find? stream <;> rfl
    · exact congrArg (fun kinds : KindTable => kinds.contains kind) released.kinds
    · exact plane.subscribers.rulesOf_disconnect .transport name target
    · have slots : (plane.subscribers.disconnect .transport name).transport =
          (plane.subscribers.transport.removeClient name).2 := released.transport
      change (plane.subscribers.disconnect .transport name).transport.connection? target owner =
        some other at seated
      rw [slots] at seated
      exact Registry.connection?_of_removeClient seated

/-- Naming a stream puts nothing on any stream and names no other one. -/
theorem nameTransport_spares (plane : Plane) (stream : StreamId) (identifier : String) :
    let after := (plane.nameTransport stream identifier).2
    (∀ other, after.waiting other = plane.waiting other) ∧
      (∀ other, stream ≠ other →
        after.transportClient? other = plane.transportClient? other) ∧
      after.dispatcher = plane.dispatcher ∧ after.failures = plane.failures := by
  unfold nameTransport
  cases named : (plane.transport.find? stream).bind TransportStream.client with
  | some client => exact ⟨fun _ => rfl, fun _ _ => rfl, rfl, rfl⟩
  | none =>
    have apart (client : ClientId) (other : StreamId) (different : stream ≠ other) :
        (plane.transport.modify stream fun found =>
          { found with client := some client }).find? other = plane.transport.find? other := by
      rw [Table.find?_modify, if_neg different]
    dsimp only
    split
    · refine ⟨fun other => ?_, fun other different => ?_, rfl, rfl⟩
      · exact waiting_of_modified rfl (by exact fun _ => rfl) other
      · exact congrArg (Option.bind · TransportStream.client) (apart _ other different)
    · refine ⟨fun other => ?_, fun other different => ?_, rfl, rfl⟩
      · exact waiting_of_modified rfl (by exact fun _ => rfl) other
      · exact congrArg (Option.bind · TransportStream.client) (apart _ other different)

/-- Taking a change into account puts nothing on any stream, leaves the queues alone and what is
    tracked in order, and changes the rules of the targets that it lists, and of no others. -/
theorem notice_frame (plane : Plane) (kind : Kind) (change : Change) :
    let after := (plane.notice kind change).2
    after.transport = plane.transport ∧ after.dispatcher = plane.dispatcher ∧
      after.failures = plane.failures ∧
      (plane.subscribers.Accounts [] → after.subscribers.Accounts []) ∧
      ∀ target, target ∉ (plane.notice kind change).1.map (·.target kind) →
        after.rulesOf target = plane.rulesOf target := by
  unfold notice
  split
  · exact ⟨rfl, rfl, rfl, fun accounts => accounts, fun _ _ => rfl⟩
  · rename_i watcher found
    refine ⟨rfl, rfl, rfl, fun accounts => accounts.apply found change, fun target unchanged => ?_⟩
    change Watchers.rulesOf (plane.subscribers.watchers.update kind _) target = _
    rw [Watchers.rulesOf_update]
    split
    · rename_i own
      rw [Watcher.rules_apply watcher change]
      · simp only [rulesOf, Watchers.rulesOf, Watchers.rules, ← own, found]
      · intro listed
        refine unchanged (List.mem_map.2 ⟨target.app, listed, ?_⟩)
        rw [App.target, own]
    · rfl

end Plane

end RulePlane
