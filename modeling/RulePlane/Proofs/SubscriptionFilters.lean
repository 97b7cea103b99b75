import RulePlane.Proofs.RefusedSubscriptions

/-!
# Subscription filters

What a watcher listens for after any history. Its targets are those of its kind that were subscribed
and not left since (`SubscribedSince`, which looks at the history only). It keeps their namespaces
and applications beside them, so that an event can be matched without a search through the targets.
A subscription adds to the two, and leaving a target computes both anew, as another target may still
have the same namespace or application; `Subscriptions.Mirrored` is the invariant that makes the two
ways agree.

A call answers whether it changed the targets. One that did not has changed nothing at all
(`Watcher.AnswersSubscription`, `Watcher.AnswersLeaving`).
-/

namespace RulePlane

namespace Subscriptions

variable {subscriptions : Subscriptions}

/-- A target is tracked if it is one of the targets. -/
theorem hasTarget_iff (subscriptions : Subscriptions) (target : Target) :
    subscriptions.hasTarget target = true ↔ target ∈ subscriptions.targets :=
  List.contains_iff_mem

/-- The applications are those that a tracked target has. -/
theorem Mirrored.hasApp_iff (mirrored : subscriptions.Mirrored) (app : App) :
    subscriptions.hasApp app = true ↔
      ∃ target, subscriptions.hasTarget target = true ∧ target.app = app := by
  unfold hasApp
  rw [List.contains_iff_mem, mirrored.apps, mem_appsOf_iff]
  simp only [hasTarget_iff]

/-- The namespaces are those that a tracked target is in. -/
theorem Mirrored.hasScope_iff (mirrored : subscriptions.Mirrored) (scope : String) :
    subscriptions.hasScope scope = true ↔
      ∃ target, subscriptions.hasTarget target = true ∧ target.app.scope = scope := by
  unfold hasScope
  rw [List.contains_iff_mem, mirrored.scopes, mem_scopesOf_iff]
  simp only [hasTarget_iff]

end Subscriptions

namespace Watcher

variable {watcher : Watcher} {target : Target}

/-- A target was subscribed in a history, and was not left since. -/
def SubscribedSince (target : Target) (steps : List Step) : Prop :=
  ∃ earlier later, steps = earlier ++ .subscribe target :: later ∧ .unsubscribe target ∉ later

/-- What a subscription answers. A target of another kind is refused, and nothing changes. For one
    of the watcher's kind the answer is whether it is new, and so whether the targets have changed;
    if they have not, nothing has. -/
def AnswersSubscription (watcher : Watcher) (target : Target) : Prop :=
  (target.kind ≠ watcher.kind →
    watcher.subscribe target = .error (.kindMismatch watcher.kind target.kind) ∧
      watcher.advance (.subscribe target) = watcher) ∧
  (target.kind = watcher.kind →
    ∃ added, watcher.subscribe target = .ok (added, watcher.advance (.subscribe target)) ∧
      added = !watcher.hasTarget target ∧
      (added = true ↔ (watcher.advance (.subscribe target)).hasTarget ≠ watcher.hasTarget) ∧
      (added = false → watcher.advance (.subscribe target) = watcher))

/-- What leaving a target answers: whether it was subscribed, and so whether the targets have
    changed. If they have not, nothing has. -/
def AnswersLeaving (watcher : Watcher) (target : Target) : Prop :=
  ∃ removed, watcher.unsubscribe target = (removed, watcher.advance (.unsubscribe target)) ∧
    removed = watcher.hasTarget target ∧
    (removed = true ↔ (watcher.advance (.unsubscribe target)).hasTarget ≠ watcher.hasTarget) ∧
    (removed = false → watcher.advance (.unsubscribe target) = watcher)

/-! ## Calls -/

/-- A target of another kind is refused, and nothing changes. -/
theorem subscribe_of_other_kind (other : target.kind ≠ watcher.kind) :
    watcher.subscribe target = .error (.kindMismatch watcher.kind target.kind) ∧
      watcher.advance (.subscribe target) = watcher := by
  have refused : watcher.subscribe target = .error (.kindMismatch watcher.kind target.kind) :=
    if_neg other
  exact ⟨refused, by simp only [advance, refused]⟩

/-- A target of the watcher's kind is accepted, and the answer is whether it is new. -/
theorem subscribe_of_own_kind (own : target.kind = watcher.kind) :
    watcher.subscribe target =
        .ok (!watcher.hasTarget target, watcher.advance (.subscribe target)) ∧
      (watcher.advance (.subscribe target)).subscriptions = watcher.subscriptions.add target := by
  simp only [advance, subscribe, if_pos own, and_self]

/-- What is listened for after a step. -/
theorem subscriptions_advance (watcher : Watcher) (step : Step) :
    (watcher.advance step).subscriptions =
      match step with
      | .subscribe target =>
          if target.kind = watcher.kind then watcher.subscriptions.add target
          else watcher.subscriptions
      | .unsubscribe target =>
          if watcher.hasTarget target then watcher.subscriptions.remove target
          else watcher.subscriptions
      | .event _ _ => watcher.subscriptions := by
  cases step with
  | subscribe target =>
    dsimp only
    split
    · rename_i own
      exact (subscribe_of_own_kind own).2
    · rename_i other
      rw [(subscribe_of_other_kind other).2]
  | unsubscribe target =>
    simp only [advance, unsubscribe]
    split <;> rfl
  | event told change =>
    simp only [advance, handle]
    split
    · exact watcher.subscriptions_apply change
    · rfl

/-- Every step keeps the namespaces and applications those of the targets. -/
theorem mirrored_advance (mirrored : watcher.subscriptions.Mirrored) (step : Step) :
    (watcher.advance step).subscriptions.Mirrored := by
  rw [subscriptions_advance]
  cases step with
  | subscribe target =>
    dsimp only
    split
    · exact mirrored.add target
    · exact mirrored
  | unsubscribe target =>
    dsimp only
    split
    · exact Subscriptions.mirrored_remove _ target
    · exact mirrored
  | event told change => exact mirrored

/-- A step subscribes a target of the watcher's kind, or leaves it, or keeps it as it was. -/
theorem hasTarget_advance_iff (watcher : Watcher) (step : Step) (tested : Target) :
    (watcher.advance step).hasTarget tested = true ↔
      (step = .subscribe tested ∧ tested.kind = watcher.kind) ∨
        (step ≠ .unsubscribe tested ∧ watcher.hasTarget tested = true) := by
  cases step with
  | subscribe target =>
    have other : Step.subscribe target ≠ .unsubscribe tested := by simp
    rw [hasTarget, subscriptions_advance]
    dsimp only
    split
    · rename_i own
      rw [Subscriptions.hasTarget_add, Bool.or_eq_true, decide_eq_true_eq]
      constructor
      · rintro (rfl | earlier)
        · exact Or.inl ⟨rfl, own⟩
        · exact Or.inr ⟨other, earlier⟩
      · rintro (⟨same, -⟩ | ⟨-, earlier⟩)
        · exact Or.inl (Step.subscribe.inj same).symm
        · exact Or.inr earlier
    · rename_i foreign
      constructor
      · exact fun earlier => Or.inr ⟨other, earlier⟩
      · rintro (⟨same, own⟩ | ⟨-, earlier⟩)
        · exact absurd (Step.subscribe.inj same ▸ own) foreign
        · exact earlier
  | unsubscribe target =>
    have other : Step.unsubscribe target ≠ .subscribe tested := by simp
    rw [advance, hasTarget_unsubscribe, Bool.and_eq_true, decide_eq_true_eq, and_comm]
    simp only [other, false_and, false_or, ne_eq, Step.unsubscribe.injEq, eq_comm]
  | event told change =>
    have other : Step.event told change ≠ .subscribe tested := by simp
    have kept : Step.event told change ≠ .unsubscribe tested := by simp
    rw [hasTarget, subscriptions_advance]
    simp only [other, kept, false_and, false_or, ne_eq, not_false_eq_true, true_and, hasTarget]

/-- An answer that tells of every change at its target tells whether the targets changed. -/
theorem answers_of_change (target : Target) {answer : Bool} {after : Watcher}
    (changed : answer = true → after.hasTarget target ≠ watcher.hasTarget target)
    (unchanged : answer = false → after = watcher) :
    (answer = true ↔ after.hasTarget ≠ watcher.hasTarget) ∧
      (answer = false → after = watcher) := by
  refine ⟨⟨fun yes same => changed yes (congrFun same target), fun different => ?_⟩, unchanged⟩
  cases answer with
  | true => rfl
  | false => exact absurd (congrArg hasTarget (unchanged rfl)) different

/-- A watcher with the filters of its targets answers subscriptions: a target that it has adds
    nothing to them. -/
theorem answersSubscription (mirrored : watcher.subscriptions.Mirrored) (target : Target) :
    watcher.AnswersSubscription target := by
  refine ⟨subscribe_of_other_kind, fun own => ?_⟩
  refine ⟨!watcher.hasTarget target, (subscribe_of_own_kind own).1, rfl, ?_⟩
  have present : (watcher.advance (.subscribe target)).hasTarget target = true :=
    (hasTarget_advance_iff _ _ _).2 (Or.inl ⟨rfl, own⟩)
  apply answers_of_change target
  · intro new
    rw [Bool.not_eq_true'] at new
    rw [present, new]
    exact Bool.noConfusion
  · intro known
    have tracked : watcher.hasTarget target = true := by rwa [Bool.not_eq_false'] at known
    simp only [advance, subscribe, if_pos own, known, mirrored.add_of_tracked tracked,
      Bool.false_eq_true, if_false]

/-- Every watcher answers when a target is left. -/
theorem answersLeaving (watcher : Watcher) (target : Target) : watcher.AnswersLeaving target := by
  have answer : (watcher.unsubscribe target).1 = watcher.hasTarget target := by
    unfold unsubscribe
    split
    · rename_i present
      exact present.symm
    · rename_i absent
      exact (Bool.eq_false_iff.2 absent).symm
  refine ⟨watcher.hasTarget target, Prod.ext answer rfl, rfl, ?_⟩
  apply answers_of_change target
  · intro present
    rw [present, advance, hasTarget_unsubscribe, decide_eq_false (not_not.2 rfl), Bool.and_false]
    exact Bool.noConfusion
  · intro absent
    simp only [advance, unsubscribe, absent, Bool.false_eq_true, if_false]

/-! ## Histories -/

/-- Nothing was subscribed before the first step. -/
theorem not_subscribedSince_nil (target : Target) : ¬ SubscribedSince target [] := by
  rintro ⟨earlier, later, same, -⟩
  exact List.append_ne_nil_of_right_ne_nil _ (List.cons_ne_nil _ _) same.symm

/-- A further step subscribes a target, or leaves it, or keeps it as it was. -/
theorem subscribedSince_concat_iff (target : Target) (steps : List Step) (step : Step) :
    SubscribedSince target (steps ++ [step]) ↔
      step = .subscribe target ∨ (step ≠ .unsubscribe target ∧ SubscribedSince target steps) := by
  constructor
  · rintro ⟨earlier, later, same, kept⟩
    rcases List.eq_nil_or_concat later with rfl | ⟨others, last, rfl⟩
    · exact Or.inl (List.cons.inj (List.append_inj' same rfl).2).1
    · rw [List.concat_eq_append] at same kept
      rw [← List.cons_append, ← List.append_assoc] at same
      obtain ⟨before, atEnd⟩ := List.append_inj' same rfl
      obtain rfl := (List.cons.inj atEnd).1
      rw [List.mem_append, not_or, List.mem_singleton] at kept
      exact Or.inr ⟨Ne.symm kept.2, earlier, others, before, kept.1⟩
  · rintro (rfl | ⟨other, earlier, later, rfl, kept⟩)
    · exact ⟨steps, [], rfl, List.not_mem_nil⟩
    · refine ⟨earlier, later ++ [step], by simp, ?_⟩
      rw [List.mem_append, not_or, List.mem_singleton]
      exact ⟨kept, Ne.symm other⟩

/-- What a watcher of a kind listens for after a history: it is still of its kind, its filters
    mirror its targets, and these are those of its kind that were subscribed and not left since. -/
theorem listening (kind : Kind) (makeRule : RuleMaker) (steps : List Step) :
    let watcher := run steps (ofKind kind makeRule)
    watcher.kind = kind ∧ watcher.subscriptions.Mirrored ∧
      ∀ target, watcher.hasTarget target = true ↔
        target.kind = kind ∧ SubscribedSince target steps := by
  induction steps using List.reverseRecOn with
  | nil =>
    refine ⟨rfl, Subscriptions.mirrored_empty, fun target => ?_⟩
    simp only [not_subscribedSince_nil, and_false, iff_false]
    exact Bool.false_ne_true
  | append_singleton steps step inductionHypothesis =>
    obtain ⟨sameKind, mirrored, held⟩ := inductionHypothesis
    simp only [run_concat]
    refine ⟨(kind_advance _ step).trans sameKind, mirrored_advance mirrored step, fun target => ?_⟩
    rw [hasTarget_advance_iff, held, sameKind, subscribedSince_concat_iff]
    tauto

/-- After any history the targets of a watcher are those of its kind that were subscribed and not
    left since, and the applications and namespaces that it listens for are those of its targets.
    Whatever target is subscribed or left next, the answer says whether the targets changed, and a
    call that does not change them changes nothing. -/
theorem filters_mirror_targets (kind : Kind) (makeRule : RuleMaker) (steps : List Step) :
    let watcher := run steps (ofKind kind makeRule)
    watcher.kind = kind ∧
      (∀ target, watcher.hasTarget target = true ↔
        target.kind = kind ∧ SubscribedSince target steps) ∧
      (∀ app, watcher.subscriptions.hasApp app = true ↔
        ∃ target, watcher.hasTarget target = true ∧ target.app = app) ∧
      (∀ scope, watcher.subscriptions.hasScope scope = true ↔
        ∃ target, watcher.hasTarget target = true ∧ target.app.scope = scope) ∧
      (∀ target, watcher.AnswersSubscription target) ∧
      ∀ target, watcher.AnswersLeaving target := by
  intro watcher
  obtain ⟨sameKind, mirrored, held⟩ := listening kind makeRule steps
  exact ⟨sameKind, held, mirrored.hasApp_iff, mirrored.hasScope_iff,
    answersSubscription mirrored, answersLeaving watcher⟩

/-- Of two applications of a namespace one is left: its namespace is still listened for. -/
example :
    let watcher := run
      [.subscribe ⟨⟨"default", "foo"⟩, ⟨"K"⟩⟩, .subscribe ⟨⟨"default", "bar"⟩, ⟨"K"⟩⟩,
        .unsubscribe ⟨⟨"default", "foo"⟩, ⟨"K"⟩⟩] (ofKind ⟨"K"⟩ fun _ => none)
    watcher.subscriptions.hasScope "default" = true ∧
      watcher.subscriptions.hasApp ⟨"default", "foo"⟩ = false := by
  decide +kernel

end Watcher

end RulePlane
