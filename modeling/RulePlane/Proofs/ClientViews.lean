import RulePlane.Proofs.InformedClients

/-!
# Client views

What transport clients believe to be the rules of the targets that they hold. The end of a stream, a
change and everything that it leads to keep the clients informed, as requests do. So whenever
everything is dealt with, the last rules that a client received since it last asked for a target are
the current ones, with their version; if it received none since, there are none (`views_current`).
This holds for any number of clients and in whatever order they come and go, a client that comes
back under its name included.
-/

namespace RulePlane

namespace Dialogue

variable {dialogue after : Dialogue}

/-- Ending a stream, when everything before it is dealt with. -/
theorem Informed.close (informed : dialogue.Informed) (idle : dialogue.isIdle = true)
    (distinct : dialogue.Distinct) {stream : StreamId} (opened : stream ∉ dialogue.ended) :
    (dialogue.close stream).Informed := by
  obtain ⟨waiting, names, lives, dies, supports, rules, slots, dispatcher, -⟩ :=
    dialogue.plane.finishTransport_frame stream
  have retains : Plane.Retains
      (fun _ name => dialogue.plane.transportClient? stream = some name)
      dialogue.plane (dialogue.plane.finishTransport stream) :=
    Plane.retains_finishTransport fun _ named _ => named
  have pending (target : Target) : ¬ (dialogue.close stream).Pending target := by
    intro waits
    refine not_pending_of_idle idle target (waits.imp_right ?_)
    rintro ⟨worker, push, listed, same⟩
    exact ⟨worker, push, dispatcher ▸ listed, same⟩
  have awaits (tested : StreamId) (target : Target) :
      ¬ (dialogue.close stream).Awaits tested target := not_awaits_of_idle idle tested target
  refine ⟨informed.sound.finishTransport stream, ?_, ?_, ?_, ?_, ?_, ?_, ?_, ?_⟩
  · change (dialogue.plane.finishTransport stream).dispatcher.stopped = false
    rw [dispatcher]
    exact informed.running
  · intro tested client called valid listed
    have named := (names tested).symm.trans called
    rcases List.mem_cons.1 listed with rfl | before
    · exact absurd ((dies client named).symm.trans valid) (by simp)
    · exact informed.present tested client named (lives tested valid) before
  · intro handling being
    cases (handling_of_idle idle).symm.trans being
  · intro handling being
    cases (handling_of_idle idle).symm.trans being
  · intro worker push waits
    exact absurd (Or.inr ⟨worker, push, waits, rfl⟩) (pending push.target)
  · intro tested target wanted
    change Entry.wants target ((dialogue.advance _).log tested) = true at wanted
    rw [wants_advance] at wanted
    refine informed.wanted_of_retains retains supports wanted ?_
      (fun _ _ _ _ waits => absurd waits (not_awaits_of_idle idle tested target))
    intro client called valid named
    have living := lives tested valid
    obtain rfl := distinct.same called named (informed.present tested client called living) opened
    exact absurd ((dies client named).symm.trans valid) (by simp)
  · intro tested target waits
    exact absurd waits (awaits tested target)
  · intro target client tested seated valid
    rcases informed.told target client tested (slots target client tested seated)
      (lives tested valid) with waits | waits | upToDate
    · exact absurd waits (not_awaits_of_idle idle tested target)
    · exact absurd waits (not_pending_of_idle idle target)
    · have informs : Plane.Informs target tested dialogue.plane
          (dialogue.plane.finishTransport stream) :=
        (Plane.spares_of_same (waiting tested)).informs (rules target)
      exact Or.inr (Or.inr (upToDate_advance informs upToDate))

/-- Taking a change into account, when everything before it is dealt with. -/
theorem Informed.notice (informed : dialogue.Informed) (idle : dialogue.isIdle = true)
    (kind : Kind) (change : Change) : (dialogue.notice kind change).Informed := by
  have quiet := fun target => not_pending_of_idle idle target
  have none := fun stream target => not_awaits_of_idle idle stream target
  have keeps := Plane.keeps_notice dialogue.plane kind change
  obtain ⟨transport, dispatcher, -, account, rules⟩ := dialogue.plane.notice_frame kind change
  have idleQueue (worker : Nat) {push : Push}
      (waits : push ∈ (dialogue.plane.notice kind change).2.dispatcher.queue worker) : False :=
    quiet push.target (Or.inr ⟨worker, push, dispatcher ▸ waits, rfl⟩)
  have accounts := account informed.sound.accounts
  refine ⟨informed.sound.kept keeps accounts, ?_, ?_, ?_, ?_, ?_, ?_, ?_, ?_⟩
  · change (dialogue.plane.notice kind change).2.dispatcher.stopped = false
    rw [dispatcher]
    exact informed.running
  · intro stream client named valid
    exact informed.present stream client ((keeps.transportClient? stream).symm.trans named)
      (keeps.transportValid stream valid)
  · intro handling being
    cases (handling_of_idle idle).symm.trans being
  · intro handling being
    cases (handling_of_idle idle).symm.trans being
  · intro worker push waits
    exact (idleQueue worker waits).elim
  · intro stream target wanted
    change Entry.wants target ((dialogue.advance _).log stream) = true at wanted
    rw [wants_advance] at wanted
    have retains : Plane.Retains (fun _ _ => False) dialogue.plane
        (dialogue.plane.notice kind change).2 := keeps.retains
    exact informed.wanted_of_retains retains keeps.supports wanted (fun _ _ _ => id)
      (fun _ _ _ _ waits => absurd waits (none stream target))
  · intro stream target waits
    exact absurd waits (none stream target)
  · intro target client stream seated valid
    by_cases changed : target ∈ (dialogue.plane.notice kind change).1.map (·.target kind)
    · exact Or.inr (Or.inl (Or.inl changed))
    · rcases informed.told target client stream ((keeps.slot? target client).symm.trans seated)
        (keeps.transportValid stream valid) with waits | waits | upToDate
      · exact absurd waits (none stream target)
      · exact absurd waits (quiet target)
      · have same : (dialogue.plane.notice kind change).2.waiting stream =
            dialogue.plane.waiting stream := by
          rw [Plane.waiting, transport, Plane.waiting]
        exact Or.inr (Or.inr (upToDate_advance
          ((Plane.spares_of_same same).informs (rules target changed)) upToDate))

/-- Handing a push over to the dispatcher. -/
theorem Informed.handOver (informed : dialogue.Informed) : dialogue.handOver.Informed := by
  unfold Dialogue.handOver
  split
  · exact informed
  · rename_i target rest changed
    have own : (dialogue.plane.currentPush target.kind target.app).target = target := rfl
    generalize pushed : dialogue.plane.currentPush target.kind target.app = push at own ⊢
    have queue := dialogue.plane.dispatcher.queue_submit App.spread push
    obtain ⟨running, taken⟩ := Dispatcher.submit_running App.spread informed.running push
    unfold Plane.submit
    generalize dialogue.plane.dispatcher.submit App.spread push = submitted at *
    obtain ⟨submission, dispatcher⟩ := submitted
    cases submission with
    | full => exact informed
    | stopped => exact absurd rfl taken
    | accepted =>
      simp only [true_and] at queue running ⊢
      refine informed.sent (.of_same rfl rfl rfl rfl rfl) rfl rfl rfl (fun _ _ => rfl) running ?_ ?_
        (fun _ _ _ => rfl) ?_
      · intro worker waiting listed
        rw [queue] at listed
        split at listed
        · rcases List.mem_append.1 listed with before | fresh
          · exact informed.current worker waiting before
          · rw [List.mem_singleton.1 fresh, own]
            exact pushed.symm
        · exact informed.current worker waiting listed
      · rintro tested (listed | ⟨worker, waiting, listed, same⟩)
        · exact Or.inl (changed ▸ List.mem_cons_of_mem target listed)
        · rw [queue] at listed
          split at listed
          · rcases List.mem_append.1 listed with before | fresh
            · exact Or.inr ⟨worker, waiting, before, same⟩
            · rw [List.mem_singleton.1 fresh, own] at same
              exact Or.inl (changed ▸ same ▸ List.mem_cons_self)
          · exact Or.inr ⟨worker, waiting, listed, same⟩
      · rintro tested client stream - - (pending | upToDate)
        · left
          rcases pending with listed | ⟨worker, waiting, listed, same⟩
          · rw [changed] at listed
            rcases List.mem_cons.1 listed with rfl | behind
            · let worker := Dispatcher.workerOf App.spread dialogue.plane.dispatcher push.target.app
              have last : push ∈ dispatcher.queue worker := by
                rw [queue, if_pos rfl]
                exact List.mem_append_right _ (List.mem_singleton.2 rfl)
              exact Or.inr ⟨worker, push, last, own⟩
            · exact Or.inl behind
          · refine Or.inr ⟨worker, waiting, ?_, same⟩
            rw [queue]
            split
            · exact List.mem_append_left _ listed
            · exact listed
        · exact Or.inr upToDate

/-- Letting a worker deliver a push of its queue, if no delivery fails. -/
theorem Informed.work (informed : dialogue.Informed) (worker : Nat)
    (unfailed : (dialogue.plane.work worker).2.failures = dialogue.plane.failures) :
    (dialogue.advance (dialogue.plane.work worker).2).Informed := by
  unfold Plane.work at unfailed ⊢
  split at unfailed
  · have same : dialogue.advance dialogue.plane = dialogue := by
      simp [advance]
    rw [same]
    exact informed
  · rename_i push dispatcher taking
    obtain ⟨queue, others⟩ := Dispatcher.queue_of_next? taking
    have waiting : push ∈ dialogue.plane.dispatcher.queue worker := by
      rw [queue]
      exact List.mem_cons_self
    obtain ⟨-, stopped⟩ := Dispatcher.next?_frame taking App.spread
    have fewer {tested : Nat} {other : Push} (listed : other ∈ dispatcher.queue tested) :
        other ∈ dialogue.plane.dispatcher.queue tested := by
      by_cases own : worker = tested
      · subst own
        rw [queue]
        exact List.mem_cons_of_mem push listed
      · rwa [← others tested own]
    let taken : Plane := { dialogue.plane with dispatcher }
    have began : Plane.Keeps dialogue.plane taken := .of_same rfl rfl rfl rfl rfl
    have published := Plane.keeps_publishAll taken push
    obtain ⟨subscribers, queues⟩ := Prod.mk.inj (Plane.backdrop_publishAll taken push)
    have current : push = taken.currentPush push.target.kind push.target.app :=
      informed.current worker push waiting
    refine informed.sent (Plane.frame_keeps.trans began published) subscribers rfl rfl
      (wants_advance dialogue _) ?_ ?_ ?_ ?_ ?_
    · change (taken.publishAll push).dispatcher.stopped = false
      rw [queues]
      exact stopped.trans informed.running
    · intro tested other listed
      change other ∈ (taken.publishAll push).dispatcher.queue tested at listed
      rw [queues] at listed
      exact informed.current tested other (fewer listed)
    · rintro target (listed | ⟨tested, other, listed, same⟩)
      · exact Or.inl listed
      · change other ∈ (taken.publishAll push).dispatcher.queue tested at listed
        rw [queues] at listed
        exact Or.inr ⟨tested, other, fewer listed, same⟩
    · rintro stream target ⟨handling, being, -⟩
      obtain ⟨-, -, quiet⟩ := informed.serving handling being
      exact absurd (Or.inr ⟨worker, push, waiting, rfl⟩) (quiet push.target)
    · intro target client stream seated valid state
      by_cases own : push.target = target
      · subst own
        obtain ⟨responses, sent, told⟩ := Plane.hears_publishAll
          (began.wellSeated informed.sound.wellSeated) current seated
          (published.transportValid stream valid) unfailed
        right
        change (taken.publishAll push).UpToDate push.target _
        rw [heard_advance sent]
        exact told _
      · rcases state with (listed | ⟨tested, other, listed, same⟩) | upToDate
        · exact Or.inl (Or.inl listed)
        · refine Or.inl (Or.inr ⟨tested, other, ?_, same⟩)
          change other ∈ (taken.publishAll push).dispatcher.queue tested
          rw [queues]
          change other ∈ dispatcher.queue tested
          by_cases here : worker = tested
          · subst here
            rw [queue] at listed
            rcases List.mem_cons.1 listed with rfl | behind
            · exact absurd same own
            · exact behind
          · rwa [others tested here]
        · have informs : Plane.Informs target stream dialogue.plane (taken.publishAll push) :=
            Plane.informs_publishAll own stream taken
          exact Or.inr (upToDate_advance informs upToDate)

/-- Failures are never taken back. -/
theorem failures_move (dialogue : Dialogue) (move : Move) :
    dialogue.plane.failures ≤ (dialogue.move move).plane.failures := by
  cases move with
  | opening stream capacity =>
    simp only [Dialogue.move]
    split <;> exact Nat.le_refl _
  | request stream request =>
    simp only [Dialogue.move]
    split
    · obtain ⟨-, -, -, named⟩ :=
        Plane.nameTransport_spares dialogue.plane stream request.identifier
      unfold Dialogue.take
      split
      · exact Nat.le_refl _
      · dsimp only
        split
        · refine Nat.le_of_eq (Eq.symm ?_)
          exact (Plane.failures_send _ _ _).trans named
        · exact Nat.le_of_eq named.symm
    · exact Nat.le_refl _
  | proceed =>
    simp only [Dialogue.move, Dialogue.proceed]
    split
    · exact Nat.le_refl _
    · rename_i handling being
      split
      · exact Nat.le_refl _
      · rename_i target rest due
        change dialogue.plane.failures ≤ (handling.perform target dialogue.plane).failures
        rcases handling.perform_cases target dialogue.plane with ⟨-, performed⟩ | ⟨-, performed⟩
        · rw [performed]
          exact Plane.failures_subscribeTransport dialogue.plane _ _ _ target
        · rw [performed]
          exact Nat.le_refl _
  | ending stream =>
    simp only [Dialogue.move]
    split
    · obtain ⟨-, -, -, -, -, -, -, -, failures⟩ := dialogue.plane.finishTransport_frame stream
      exact Nat.le_of_eq failures.symm
    · exact Nat.le_refl _
  | change kind change =>
    simp only [Dialogue.move]
    split
    · change dialogue.plane.failures ≤ (dialogue.plane.notice kind change).2.failures
      unfold Plane.notice
      split <;> exact Nat.le_refl _
    · exact Nat.le_refl _
  | handOver =>
    simp only [Dialogue.move, Dialogue.handOver]
    split
    · exact Nat.le_refl _
    · split
      · exact Nat.le_refl _
      · rename_i submitted
        exact Nat.le_of_eq (Plane.failures_submit submitted).symm
  | work worker => exact dialogue.plane.failures_work worker
  | outbox stream change => exact Nat.le_refl _

/-- Whatever happens next keeps everybody informed, if the names of the open streams differ and no
    delivery fails. -/
theorem Informed.move (informed : dialogue.Informed) (distinct : dialogue.Distinct) (move : Move)
    (unfailed : (dialogue.move move).plane.failures = dialogue.plane.failures) :
    (dialogue.move move).Informed := by
  cases move with
  | opening stream capacity =>
    simp only [Dialogue.move]
    split
    · exact informed
    · rename_i absent
      exact informed.opening (Option.not_isSome_iff_eq_none.1 absent) capacity
  | request stream request =>
    simp only [Dialogue.move]
    split
    · rename_i ready
      rw [Bool.and_eq_true] at ready
      exact informed.take ready.1 ready.2 request
    · exact informed
  | proceed => exact informed.proceed distinct unfailed
  | ending stream =>
    simp only [Dialogue.move]
    split
    · rename_i ready
      simp only [Bool.and_eq_true, isOpen, Bool.not_eq_true', List.contains_eq_mem,
        decide_eq_false_iff_not] at ready
      exact informed.close ready.1 distinct ready.2.2
    · exact informed
  | change kind change =>
    simp only [Dialogue.move]
    split
    · rename_i idle
      exact informed.notice idle kind change
    · exact informed
  | handOver => exact informed.handOver
  | work worker => exact informed.work worker unfailed
  | outbox stream change =>
    have read : Plane.Keeps dialogue.plane (dialogue.move (.outbox stream change)).plane :=
      Plane.keeps_modifyTransport dialogue.plane stream (fun _ => rfl) (fun _ valid => valid)
    exact informed.sent read rfl rfl rfl (fun _ _ => rfl) informed.running informed.current
      (fun _ pending => pending) (fun _ _ _ => rfl) (fun _ _ _ _ _ state => state)

/-- So does a whole run. -/
theorem Informed.run {moves : List Move} (informed : dialogue.Informed)
    (distinct : DistinctThroughout moves dialogue)
    (unfailed : (run moves dialogue).plane.failures = dialogue.plane.failures) :
    (run moves dialogue).Informed := by
  have monotone (moves : List Move) (reached : Dialogue) :
      reached.plane.failures ≤ (Dialogue.run moves reached).plane.failures := by
    induction moves generalizing reached with
    | nil => exact Nat.le_refl _
    | cons move rest inductionHypothesis =>
      exact Nat.le_trans (failures_move reached move) (inductionHypothesis (reached.move move))
  induction moves generalizing dialogue with
  | nil => exact informed
  | cons move rest inductionHypothesis =>
    obtain ⟨now, later⟩ := distinct
    have first := failures_move dialogue move
    have others := monotone rest (dialogue.move move)
    change (Dialogue.run rest (dialogue.move move)).plane.failures = dialogue.plane.failures
      at unfailed
    have step : (dialogue.move move).plane.failures = dialogue.plane.failures := by omega
    exact inductionHypothesis (informed.move now move step) later (unfailed.trans step.symm)

/-- When everything is dealt with, a client holds every target of a supported kind that it wants,
    and of each target that it holds the last rules that it received since it asked for it are the
    current ones, with their version; if it received none since, there are none. The open streams
    have different names all the time, no delivery fails, and the stream is valid. -/
theorem views_current (settings : PushSettings) (kinds : KindTable) (workers capacity : Nat)
    (clock : UInt64) (moves : List Move)
    (distinct : DistinctThroughout moves
      (start (Plane.start settings kinds (.ofSizes workers capacity) clock)))
    (unfailed : (run moves (start (Plane.start settings kinds (.ofSizes workers capacity)
      clock))).plane.failures = 0)
    (idle : (run moves (start (Plane.start settings kinds (.ofSizes workers capacity)
      clock))).isIdle = true) :
    let dialogue := run moves (start (Plane.start settings kinds (.ofSizes workers capacity) clock))
    ∀ stream client, dialogue.plane.transportClient? stream = some client →
      dialogue.plane.transportValid stream = true → ∀ target,
        (Entry.wants target (dialogue.log stream) = true →
          dialogue.plane.subscribers.watchers.supports target.kind = true →
            dialogue.plane.slot? target client = some stream) ∧
        (dialogue.plane.slot? target client = some stream →
          dialogue.plane.UpToDate target (Entry.heard target (dialogue.log stream))) := by
  intro dialogue stream client named valid target
  have informed : dialogue.Informed :=
    (informed_start settings kinds workers capacity clock).run distinct unfailed
  constructor
  · intro wanted supported
    obtain ⟨name, called, holds⟩ := informed.wanted stream target wanted
    obtain rfl : client = name := Option.some.inj (named.symm.trans called)
    exact (holds valid supported).resolve_left (not_awaits_of_idle idle stream target)
  · intro seated
    exact ((informed.told target client stream seated valid).resolve_left
      (not_awaits_of_idle idle stream target)).resolve_left (not_pending_of_idle idle target)

/-- A kind whose rules are the names of the resources. -/
def named : KindTable :=
  KindTable.ofList [⟨⟨"K"⟩, default, fun resource => some ⟨resource.anyName, []⟩⟩]

/-- No stream has been opened yet, and the kind is supported. -/
def vacant : Dialogue :=
  start (Plane.start ⟨.bestEffort, 3, 1000, "control-plane"⟩ named (.ofSizes 1 1) 0)

/-- The rules of one application. -/
def foo : Target := ⟨⟨"default", "foo"⟩, ⟨"K"⟩⟩

/-- A stream is opened and subscribes the rules of the application. -/
def joining (stream : StreamId) (identifier : String) : List Move :=
  [.opening stream none,
    .request stream ⟨some ⟨"default", "foo", ["K"]⟩, 0, "request", "", none, identifier⟩,
    .proceed, .proceed]

/-- A resource is bound to an application, and the changed rules are delivered. -/
def binding (resource app : String) : List Move :=
  [.change ⟨"K"⟩ (Tracker.changeTo (Watcher.labelled resource app)), .handOver, .work 0]

/-- A client subscribes before there is anything, one after the first resource was bound; a second
    resource is bound, and the first one is relabelled. -/
def relabelled : List Move :=
  joining ⟨0⟩ "first" ++ binding "a" "foo" ++ joining ⟨1⟩ "second" ++ binding "b" "foo" ++
    binding "a" "bar"

/-- Both clients end with the rule of the resource that is left, in its third version. -/
theorem views_current_relabelled :
    let dialogue := run relabelled vacant
    DistinctThroughout relabelled vacant ∧ dialogue.plane.failures = 0 ∧
      dialogue.isIdle = true ∧
      Entry.heard foo (dialogue.log ⟨0⟩) = some ([⟨"b", []⟩], 3) ∧
      Entry.heard foo (dialogue.log ⟨1⟩) = some ([⟨"b", []⟩], 3) ∧
      (dialogue.plane.subscribers.watchers.rules foo.kind foo.app).1 = [⟨"b", []⟩] := by
  have distinct : DistinctThroughout relabelled vacant := by decide +kernel
  have unfailed : (run relabelled vacant).plane.failures = 0 := by decide +kernel
  have idle : (run relabelled vacant).isIdle = true := by decide +kernel
  have heard : Entry.heard foo ((run relabelled vacant).log ⟨0⟩) = some ([⟨"b", []⟩], 3) := by
    decide +kernel
  have upToDate : (run relabelled vacant).plane.UpToDate foo
      (Entry.heard foo ((run relabelled vacant).log ⟨0⟩)) :=
    (views_current _ named 1 1 0 relabelled distinct unfailed idle ⟨0⟩ ⟨"first"⟩
      (by decide +kernel) (by decide +kernel) foo).2 (by decide +kernel)
  rw [heard] at upToDate
  exact ⟨distinct, unfailed, idle, heard, by decide +kernel, upToDate.1.symm⟩

end Dialogue

end RulePlane
