import RulePlane.Proofs.ResourceFiling
import RulePlane.Proofs.SupportedKinds

/-!
# Changed groups

Which groups an event changes, and what is pushed for them. An event moves an object from the
application under which its name was filed to the one under which it is filed afterwards; these are
the applications that it reports (`apps_apply`). The group of each of them has counted one more
change, and all other groups are as they were. For the group that is left this needs the agreement
of the indexes: a name is taken out of the group under which it is filed, so it is found there.

So a push carries a version that its target never had before. Subscriptions may raise a version too,
when they fill a group; but nothing lowers it (`version_advance_le`).
-/

namespace RulePlane

namespace Cache

/-- A name that is filed under an application is found in its group. -/
theorem Agrees.holds_of_app? {cache : Cache} (agrees : cache.Agrees) {id : ObjectId} {app : App}
    (filed : cache.app? id = some app) : (cache.group app).holds id.name = true := by
  obtain ⟨⟨_, resource⟩, found, rfl⟩ := Option.map_eq_some_iff.1 filed
  have own := (agrees.named id _ resource found).1
  have member := (agrees.grouped _ resource).2 (own ▸ found)
  exact List.any_eq_true.2 ⟨resource, member, beq_iff_eq.2 (congrArg ObjectId.name own)⟩

end Cache

namespace Watcher

variable {watcher : Watcher}

/-! ## The applications of an event -/

/-- The applications on the way of an object from where its name was filed to where it is filed now:
    the one that it left and then the one that it entered, or the one where it stayed. -/
def journey (before after : Option App) : List App :=
  if before = after then after.toList else before.toList ++ after.toList

/-- An application is on the way of an object if the object was or is filed under it. -/
theorem mem_journey_iff (before after : Option App) (app : App) :
    app ∈ journey before after ↔ before = some app ∨ after = some app := by
  unfold journey
  split
  · rename_i same
    simp [same]
  · simp

/-- No application is twice on the way of an object. -/
theorem nodup_journey (before after : Option App) : (journey before after).Nodup := by
  unfold journey
  split
  · cases after <;> simp
  · rename_i apart
    refine List.nodup_append.2 ⟨by cases before <;> simp, by cases after <;> simp, ?_⟩
    intro left leaves entered enters same
    rw [Option.mem_toList] at leaves enters
    exact apart (leaves.trans (same ▸ enters.symm))

/-- At most two applications are on the way of an object. -/
theorem length_journey (before after : Option App) : (journey before after).length ≤ 2 := by
  unfold journey
  split
  · cases after <;> simp
  · cases before <;> cases after <;> simp

/-- A resource enters the application under which it is filed then. -/
theorem apps_enter (watcher : Watcher) (id : ObjectId) (app : App) (resource : Resource) :
    (watcher.enter id app resource).1 = journey (watcher.cache.app? id) (some app) := by
  unfold enter journey
  cases watcher.cache.app? id with
  | none => rfl
  | some previous => by_cases same : previous = app <;> simp [same]

/-- A name that is evicted leaves the application under which it was filed. -/
theorem apps_evict (watcher : Watcher) (id : ObjectId) :
    (watcher.evict id).1 = journey (watcher.cache.app? id) none := by
  unfold evict journey
  cases watcher.cache.app? id <;> rfl

/-- An event reports the applications on the way of its object. -/
theorem apps_apply (watcher : Watcher) (change : Change) :
    (watcher.apply change).1 =
      journey (watcher.cache.app? change.id) ((watcher.apply change).2.cache.app? change.id) := by
  rcases apply_cases watcher change with ⟨resource, app, -, -, -, applied⟩ | ⟨-, applied⟩
  · have entered : (watcher.apply change).2.cache.app? change.id = some app := by
      rw [applied, Cache.app?, find?_enter, if_pos rfl]
      rfl
    rw [entered, applied]
    exact (watcher.observe change).apps_enter change.id app resource
  · have gone : (watcher.apply change).2.cache.app? change.id = none := by
      rw [applied, Cache.app?, find?_evict, if_pos rfl]
      rfl
    rw [gone, applied]
    exact (watcher.observe change).apps_evict change.id

/-! ## The groups of an event -/

/-- A resource that enters an application is put into its group, and is dropped from the group of
    another one under which its name was filed. -/
theorem group_enter (watcher : Watcher) (id : ObjectId) (app : App) (resource : Resource)
    (tested : App) :
    (watcher.enter id app resource).2.cache.group tested =
      if app = tested then (watcher.cache.group app).put resource
      else if watcher.cache.app? id = some tested ∧ (watcher.cache.group tested).holds id.name then
        (watcher.cache.group tested).drop id.name
      else watcher.cache.group tested := by
  unfold enter
  cases assigned : watcher.cache.app? id with
  | none => simp [Cache.group_place]
  | some previous =>
    dsimp only
    by_cases stays : previous = app
    · rw [if_pos stays]
      by_cases here : app = tested <;> simp [Cache.group_place, stays, here]
    · rw [if_neg stays]
      simp only [Cache.group_place, Cache.group_assign, Cache.group_displace, Option.some.injEq]
      by_cases here : app = tested
      · rw [if_pos here, if_pos here, if_neg (fun both => stays both.1)]
      · rw [if_neg here, if_neg here]
        by_cases left : previous = tested <;> simp [left]

/-- A name that is evicted is dropped from the group of the application under which it was filed. -/
theorem group_evict (watcher : Watcher) (id : ObjectId) (tested : App) :
    (watcher.evict id).2.cache.group tested =
      if watcher.cache.app? id = some tested ∧ (watcher.cache.group tested).holds id.name then
        (watcher.cache.group tested).drop id.name
      else watcher.cache.group tested := by
  unfold evict
  cases assigned : watcher.cache.app? id with
  | none => simp
  | some previous => by_cases left : previous = tested <;> simp [Cache.group_displace, left]

@[simp] theorem cache_observe (watcher : Watcher) (change : Change) :
    (watcher.observe change).cache = watcher.cache := rfl

/-- The group of an application that an event does not report is as it was. -/
theorem group_apply_of_notMem (watcher : Watcher) (change : Change) {tested : App}
    (unlisted : tested ∉ (watcher.apply change).1) :
    (watcher.apply change).2.cache.group tested = watcher.cache.group tested := by
  rcases apply_cases watcher change with ⟨resource, app, -, -, -, applied⟩ | ⟨-, applied⟩
  · rw [applied, apps_enter, mem_journey_iff, not_or] at unlisted
    rw [applied, group_enter, if_neg (fun same => unlisted.2 (congrArg some same)),
      if_neg (fun both => unlisted.1 both.1), cache_observe]
  · rw [applied, apps_evict, mem_journey_iff, not_or] at unlisted
    rw [applied, group_evict, if_neg (fun both => unlisted.1 both.1), cache_observe]

/-- The group of an application that an event reports has counted one more change. -/
theorem version_apply_of_mem (agrees : watcher.cache.Agrees) (change : Change) {tested : App}
    (listed : tested ∈ (watcher.apply change).1) :
    ((watcher.apply change).2.cache.group tested).version =
      (watcher.cache.group tested).version + 1 := by
  -- Dropping a name from a group without it would not count, so the group has to hold it.
  have dropped (filed : watcher.cache.app? change.id = some tested) :
      watcher.cache.app? change.id = some tested ∧
        (watcher.cache.group tested).holds change.id.name = true :=
    ⟨filed, agrees.holds_of_app? filed⟩
  rcases apply_cases watcher change with ⟨resource, app, -, -, -, applied⟩ | ⟨-, applied⟩
  · rw [applied, apps_enter, mem_journey_iff] at listed
    rw [applied, group_enter, cache_observe]
    split
    · rename_i entered
      rw [← entered]
      rfl
    · rename_i elsewhere
      rcases listed with filed | entered
      · rw [if_pos (dropped filed)]
        rfl
      · exact absurd (Option.some.inj entered) elsewhere
  · rw [applied, apps_evict, mem_journey_iff] at listed
    rcases listed with filed | impossible
    · rw [applied, group_evict, cache_observe, if_pos (dropped filed)]
      rfl
    · cases impossible

/-- A group that an event reports is not as it was. -/
theorem mem_apps_apply_iff (agrees : watcher.cache.Agrees) (change : Change) (app : App) :
    app ∈ (watcher.apply change).1 ↔
      (watcher.apply change).2.cache.group app ≠ watcher.cache.group app := by
  constructor
  · intro listed same
    have raised := version_apply_of_mem agrees change listed
    rw [same] at raised
    omega
  · intro different
    by_contra unlisted
    exact different (watcher.group_apply_of_notMem change unlisted)

/-! ## Versions -/

/-- Filling a group only adds to the number of its changes. -/
theorem version_backfill_le (watcher : Watcher) (app tested : App) :
    (watcher.cache.group tested).version ≤ ((watcher.backfill app).group tested).version := by
  have filling (seen : List (ObjectId × Sighting)) (cache : Cache) :
      (cache.group tested).version ≤
        ((seen.foldl (backfillOne app) cache).group tested).version := by
    induction seen generalizing cache with
    | nil => exact Nat.le_refl _
    | cons first rest inductionHypothesis =>
      refine Nat.le_trans ?_ (inductionHypothesis (backfillOne app cache first))
      unfold backfillOne
      split
      · rw [Cache.group_place, Cache.group_assign, Cache.group_assign]
        split
        · rename_i same
          rw [← same]
          exact Nat.le_succ _
        · exact Nat.le_refl _
      · exact Nat.le_refl _
  exact filling watcher.observed.entries watcher.cache

/-- Nothing that happens to a watcher lowers a version. -/
theorem version_advance_le (agrees : watcher.cache.Agrees) (step : Step) (app : App) :
    (watcher.cache.group app).version ≤ ((watcher.advance step).cache.group app).version := by
  cases step with
  | subscribe target =>
    rcases advance_subscribe_cases watcher target with refused | ⟨added, accepted⟩
    · simp [refused]
    · obtain ⟨-, ⟨-, same⟩ | ⟨-, same⟩⟩ := subscribe_cases accepted
      · simp [same]
      · rw [same]
        exact watcher.version_backfill_le target.app app
  | unsubscribe target =>
    simp only [advance, unsubscribe]
    split <;> exact Nat.le_refl _
  | event kind change =>
    simp only [advance, handle]
    split
    · by_cases listed : app ∈ (watcher.apply change).1
      · exact (version_apply_of_mem agrees change listed).symm ▸ Nat.le_succ _
      · have same := watcher.group_apply_of_notMem change listed
        exact Nat.le_of_eq (congrArg Group.version same).symm
    · exact Nat.le_refl _

/-! ## Pushes -/

/-- The rules are made from the longest beginning of a list of resources in which each can be
    translated, one from each in the same order. -/
def Translates (makeRule : RuleMaker) (resources : List Resource) (rules : List Rule) : Prop :=
  ∃ front back, resources = front ++ back ∧ front.map makeRule = rules.map some ∧
    ∀ malformed ∈ back.head?, makeRule malformed = none

/-- The rules of a list of resources are made from the longest translatable beginning. -/
theorem translates_makeRules (makeRule : RuleMaker) (resources : List Resource) :
    Translates makeRule resources (makeRules makeRule resources) := by
  induction resources with
  | nil => exact ⟨[], [], rfl, rfl, nofun⟩
  | cons first rest inductionHypothesis =>
    unfold makeRules
    cases made : makeRule first with
    | none =>
      refine ⟨[], first :: rest, rfl, rfl, ?_⟩
      rintro malformed ⟨⟩
      exact made
    | some rule =>
      obtain ⟨front, back, rfl, translated, blocked⟩ := inductionHypothesis
      exact ⟨first :: front, back, rfl, by simp [made, translated], blocked⟩

/-- An event does not change how the rules of a watcher are made. -/
theorem makeRule_apply (watcher : Watcher) (change : Change) :
    (watcher.apply change).2.makeRule = watcher.makeRule := by
  rcases apply_cases watcher change with ⟨resource, app, -, -, -, applied⟩ | ⟨-, applied⟩
  · rw [applied]
    rfl
  · rw [applied, evict]
    split <;> rfl

/-- A step does not change how the rules of a watcher are made. -/
theorem makeRule_advance (watcher : Watcher) (step : Step) :
    (watcher.advance step).makeRule = watcher.makeRule := by
  cases step with
  | subscribe target =>
    rcases advance_subscribe_cases watcher target with refused | ⟨added, accepted⟩
    · rw [refused]
    · obtain ⟨-, ⟨-, same⟩ | ⟨-, same⟩⟩ := subscribe_cases accepted <;> rw [same]
  | unsubscribe target =>
    simp only [advance, unsubscribe]
    split <;> rfl
  | event kind change =>
    simp only [advance, handle]
    split
    · exact watcher.makeRule_apply change
    · rfl

/-- The pushes that a step calls for. -/
def pushesOf (watcher : Watcher) : Step → List Push
  | .subscribe _ => []
  | .unsubscribe _ => []
  | .event kind change => (watcher.handle kind change).1

/-- The pushes of a history, in the order in which they are made. -/
def pushLog : List Step → Watcher → List Push
  | [], _ => []
  | step :: rest, watcher => watcher.pushesOf step ++ pushLog rest (watcher.advance step)

/-- The versions that are pushed for a target. -/
def versionsFor (target : Target) (pushes : List Push) : List Int :=
  (pushes.filter fun push => push.target = target).map Push.version

/-- Each push of a step is for another target. -/
theorem nodup_pushesOf (watcher : Watcher) (step : Step) :
    ((watcher.pushesOf step).map Push.target).Nodup := by
  cases step with
  | subscribe target => exact List.nodup_nil
  | unsubscribe target => exact List.nodup_nil
  | event kind change =>
    simp only [pushesOf, handle]
    split
    · rw [List.map_map, apps_apply]
      exact List.pairwise_map.2
        ((nodup_journey _ _).imp fun apart same => apart (congrArg Target.app same))
    · exact List.nodup_nil

/-- A push of a step carries the version that its target has after the step, and had not before. -/
theorem version_of_mem_pushesOf (agrees : watcher.cache.Agrees) {step : Step} {push : Push}
    (member : push ∈ watcher.pushesOf step) :
    push.version = (((watcher.advance step).cache.group push.target.app).version : Int) ∧
      ((watcher.advance step).cache.group push.target.app).version =
        (watcher.cache.group push.target.app).version + 1 := by
  cases step with
  | subscribe target => cases member
  | unsubscribe target => cases member
  | event kind change =>
    simp only [pushesOf, advance, handle] at member ⊢
    split at member
    · rename_i own
      rw [if_pos own]
      obtain ⟨app, listed, rfl⟩ := List.mem_map.1 member
      exact ⟨rfl, version_apply_of_mem agrees change listed⟩
    · cases member

/-- The versions that a step pushes for a target increase strictly: there is at most one. -/
theorem increasing_pushesOf (watcher : Watcher) (step : Step) (target : Target) :
    (versionsFor target (watcher.pushesOf step)).Pairwise (· < ·) := by
  have apart := (List.pairwise_map.1 (watcher.nodup_pushesOf step)).filter
    fun push => push.target = target
  refine List.pairwise_map.2 (apart.imp_of_mem fun {first second} left right different => ?_)
  have here := of_decide_eq_true (List.mem_filter.1 left).2
  have there := of_decide_eq_true (List.mem_filter.1 right).2
  exact absurd (here.trans there.symm) different

/-- Along a history, the versions that are pushed for a target increase strictly, and all are
    greater than the version that its group has at the beginning. -/
theorem Filed.increasing_pushLog {steps : List Step} (filed : watcher.Filed)
    (named : OwnNames watcher.kind steps) (target : Target) :
    (∀ version ∈ versionsFor target (pushLog steps watcher),
      ((watcher.cache.group target.app).version : Int) < version) ∧
      (versionsFor target (pushLog steps watcher)).Pairwise (· < ·) := by
  -- The bound on all later versions orders a push of the first step before them.
  induction steps generalizing watcher with
  | nil => exact ⟨nofun, List.Pairwise.nil⟩
  | cons step rest inductionHypothesis =>
    obtain ⟨first, others⟩ := (ownNames_cons_iff watcher.kind step rest).1 named
    rw [← kind_advance watcher step] at others
    obtain ⟨later, increasing⟩ := inductionHypothesis (filed.advance first) others
    have split : versionsFor target (pushLog (step :: rest) watcher) =
        versionsFor target (watcher.pushesOf step) ++
          versionsFor target (pushLog rest (watcher.advance step)) := by
      simp [versionsFor, pushLog]
    have now (version : Int) (pushed : version ∈ versionsFor target (watcher.pushesOf step)) :
        version = (((watcher.advance step).cache.group target.app).version : Int) ∧
          ((watcher.advance step).cache.group target.app).version =
            (watcher.cache.group target.app).version + 1 := by
      obtain ⟨push, chosen, rfl⟩ := List.mem_map.1 pushed
      have member := (List.mem_filter.1 chosen).1
      rw [← of_decide_eq_true (List.mem_filter.1 chosen).2]
      exact version_of_mem_pushesOf filed.agrees member
    rw [split]
    constructor
    · intro version member
      rcases List.mem_append.1 member with pushed | pushed
      · obtain ⟨carried, raised⟩ := now version pushed
        omega
      · have kept := version_advance_le filed.agrees step target.app
        have greater := later version pushed
        omega
    · refine List.pairwise_append.2 ⟨watcher.increasing_pushesOf step target, increasing, ?_⟩
      intro version pushed other pushedLater
      rw [(now version pushed).1]
      exact later other pushedLater

/-- The pushes of an event are for the applications on the way of its object, if it is of the kind
    of the watcher. -/
theorem targets_handle (watcher : Watcher) (told : Kind) (change : Change) :
    let after := (watcher.handle told change).2
    (watcher.handle told change).1.map Push.target =
      if told = watcher.kind then
        (journey (watcher.cache.app? change.id) (after.cache.app? change.id)).map fun app =>
          app.target watcher.kind
      else [] := by
  simp only [handle]
  split
  · rw [List.map_map, apps_apply, ← watcher.kind_apply change]
    rfl
  · rfl

/-- At most two targets are pushed at an event. -/
theorem length_handle (watcher : Watcher) (told : Kind) (change : Change) :
    (watcher.handle told change).1.length ≤ 2 := by
  rw [← List.length_map Push.target, targets_handle]
  split
  · rw [List.length_map]
    exact length_journey _ _
  · exact Nat.zero_le 2

/-- An event pushes exactly the targets of the applications whose groups it changes. -/
theorem mem_targets_handle_iff (agrees : watcher.cache.Agrees) (told : Kind) (change : Change)
    (app : App) :
    app.target watcher.kind ∈ (watcher.handle told change).1.map Push.target ↔
      (watcher.handle told change).2.cache.group app ≠ watcher.cache.group app := by
  simp only [handle]
  split
  · rw [← mem_apps_apply_iff agrees, List.map_map, List.mem_map, ← watcher.kind_apply change]
    constructor
    · rintro ⟨listed, member, same⟩
      obtain rfl : listed = app := congrArg Target.app same
      exact member
    · intro member
      exact ⟨app, member, rfl⟩
  · simp

/-- A push of an event carries the rules of its group as the event leaves it. -/
theorem translates_of_mem_handle {told : Kind} {change : Change} {push : Push}
    (member : push ∈ (watcher.handle told change).1) :
    Translates watcher.makeRule
      ((watcher.handle told change).2.cache.group push.target.app).resources push.rules := by
  simp only [handle] at member ⊢
  split at member
  · rename_i own
    rw [if_pos own, ← watcher.makeRule_apply change]
    obtain ⟨app, -, rfl⟩ := List.mem_map.1 member
    exact translates_makeRules _ _
  · cases member

/-- A history changes neither the kind of a watcher nor how its rules are made. -/
theorem run_frame (steps : List Step) (watcher : Watcher) :
    (run steps watcher).kind = watcher.kind ∧ (run steps watcher).makeRule = watcher.makeRule := by
  induction steps generalizing watcher with
  | nil => exact ⟨rfl, rfl⟩
  | cons step rest inductionHypothesis =>
    obtain ⟨sameKind, sameMaker⟩ := inductionHypothesis (watcher.advance step)
    exact ⟨sameKind.trans (watcher.kind_advance step),
      sameMaker.trans (watcher.makeRule_advance step)⟩

/-- Whatever the history, a further event pushes exactly the applications whose groups it changes,
    each once: the one that its object left and then the one that it entered, as the index of names
    has them before and after. The group of each has counted one more change, and the push carries
    that version with the rules of the longest translatable beginning of the group. An event of
    another kind changes nothing. So along the whole history the versions that are pushed for a
    target increase strictly. -/
theorem pushes_changed_groups (kind : Kind) (makeRule : RuleMaker) (steps : List Step)
    (named : OwnNames kind steps) :
    (∀ told change,
      let before := run steps (ofKind kind makeRule)
      let pushes := (before.handle told change).1
      let after := (before.handle told change).2
      pushes.map Push.target =
          (if told = kind then
            (journey (before.cache.app? change.id) (after.cache.app? change.id)).map
              fun app => app.target kind
          else []) ∧
        (pushes.map Push.target).Nodup ∧ pushes.length ≤ 2 ∧
        (∀ app, app.target kind ∈ pushes.map Push.target ↔
          after.cache.group app ≠ before.cache.group app) ∧
        ∀ push ∈ pushes,
          (after.cache.group push.target.app).version =
              (before.cache.group push.target.app).version + 1 ∧
            push.version = (after.cache.group push.target.app).version ∧
              Translates makeRule (after.cache.group push.target.app).resources push.rules) ∧
      ∀ target, (versionsFor target (pushLog steps (ofKind kind makeRule))).Pairwise (· < ·) := by
  have start : (ofKind kind makeRule).Filed := filed_ofKind kind makeRule
  refine ⟨fun told change => ?_, fun target => (start.increasing_pushLog named target).2⟩
  intro before pushes after
  have agrees : before.cache.Agrees := (start.run named).agrees
  obtain ⟨ownKind, ownMaker⟩ := run_frame steps (ofKind kind makeRule)
  change before.kind = kind at ownKind
  change before.makeRule = makeRule at ownMaker
  refine ⟨?_, before.nodup_pushesOf (.event told change), before.length_handle told change, ?_, ?_⟩
  · rw [← ownKind]
    exact before.targets_handle told change
  · intro app
    rw [← ownKind]
    exact mem_targets_handle_iff agrees told change app
  · intro push member
    have pushed : push ∈ before.pushesOf (.event told change) := member
    obtain ⟨carried, raised⟩ := version_of_mem_pushesOf agrees pushed
    refine ⟨raised, carried, ?_⟩
    rw [← ownMaker]
    exact translates_of_mem_handle member

/-- The rule of an object is its name, and the object `c` has none. -/
def exceptC : RuleMaker := fun resource =>
  if resource.anyName = "c" then none else some ⟨resource.anyName, []⟩

/-- A history after which `foo` has three objects. -/
def populated : List Step :=
  let kind : Kind := ⟨"K"⟩
  let told (name : String) : Step := .event kind (Tracker.changeTo (labelled name "foo"))
  [.subscribe ⟨⟨"default", "foo"⟩, kind⟩, .subscribe ⟨⟨"default", "bar"⟩, kind⟩, told "a", told "b",
    told "c"]

/-- One of the three objects moves to `bar`. Its old group and then its new one are pushed, each
    with one more change, and the push of the old one ends before the object that has no rule. -/
theorem pushes_changed_groups_moved :
    OwnNames ⟨"K"⟩ populated ∧
      let before := run populated (ofKind ⟨"K"⟩ exceptC)
      let pushes := (before.handle ⟨"K"⟩ (Tracker.changeTo (labelled "a" "bar"))).1
      let after := (before.handle ⟨"K"⟩ (Tracker.changeTo (labelled "a" "bar"))).2
      pushes = [⟨⟨⟨"default", "foo"⟩, ⟨"K"⟩⟩, [⟨"b", []⟩], 4⟩,
          ⟨⟨⟨"default", "bar"⟩, ⟨"K"⟩⟩, [⟨"a", []⟩], 1⟩] ∧
        after.cache.group ⟨"default", "foo"⟩ ≠ before.cache.group ⟨"default", "foo"⟩ ∧
        after.cache.group ⟨"default", "baz"⟩ = before.cache.group ⟨"default", "baz"⟩ ∧
        ∀ target, (versionsFor target (pushLog populated (ofKind ⟨"K"⟩ exceptC))).Pairwise
          (· < ·) := by
  have named : OwnNames ⟨"K"⟩ populated := by
    simp only [populated, ownNames_cons_iff]
    refine ⟨nofun, nofun, ?_, ?_, ?_, nofun⟩
    all_goals
      rintro change ⟨⟩ resource ⟨⟩
      rfl
  obtain ⟨event, increasing⟩ := pushes_changed_groups ⟨"K"⟩ exceptC populated named
  obtain ⟨-, -, -, changed, -⟩ := event ⟨"K"⟩ (Tracker.changeTo (labelled "a" "bar"))
  refine ⟨named, ?_⟩
  intro before pushes after
  have pushed : pushes = [⟨⟨⟨"default", "foo"⟩, ⟨"K"⟩⟩, [⟨"b", []⟩], 4⟩,
      ⟨⟨⟨"default", "bar"⟩, ⟨"K"⟩⟩, [⟨"a", []⟩], 1⟩] := by
    decide +kernel
  have changed (app : App) : app.target ⟨"K"⟩ ∈ pushes.map Push.target ↔
      after.cache.group app ≠ before.cache.group app := changed app
  rw [pushed] at changed
  refine ⟨pushed, (changed ⟨"default", "foo"⟩).1 (by decide), ?_, increasing⟩
  by_contra different
  exact absurd ((changed ⟨"default", "baz"⟩).2 different) (by decide)

end Watcher

end RulePlane
