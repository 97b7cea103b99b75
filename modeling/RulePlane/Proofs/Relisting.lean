import RulePlane.Proofs.WatcherHistory

/-!
# Convergence after listings

A watch describes the cluster: the last complete list says which objects there are, and the changes
behind it what has become of them. `ClusterView` is that description, read from the events alone. A
loop that follows the watch keeps two sets of names instead, and this module shows that they are
enough: whenever no list is under way, its watcher remembers exactly the described objects, and the
group of every subscribed target is the part of them that governs its application.

The loop takes one step at a time, and targets may be subscribed or left between any two steps, also
while the removals of a complete list are still being dealt with. Lists may be abandoned and begun
again. The one thing asked of a watch is that it reports single changes only while no list is under
way; an object that is listed outside of a list, which no watch does, counts as a change.
-/

namespace RulePlane

/-! ## The described cluster -/

/-- Whether an event is a single change, and not a part of a list. -/
def WatchEvent.isSingle : WatchEvent → Bool
  | applied _ => true
  | deleted _ => true
  | _ => false

/-- What a watch has told of the cluster so far: the objects, and those of the list under way. -/
structure ClusterView where
  objects : ObjectId → Option Resource
  list : Option (ObjectId → Option Resource)

namespace ClusterView

/-- Nothing was told yet. -/
def nothing : ClusterView := ⟨fun _ => none, none⟩

/-- Objects of which one has a new state or is gone. -/
def revise (objects : ObjectId → Option Resource) (id : ObjectId) (state : Option Resource) :
    ObjectId → Option Resource :=
  fun tested => if id = tested then state else objects tested

/-- Take an event into account. A list replaces all objects when it is complete; a list that is
    begun again has told nothing. -/
def take (view : ClusterView) : WatchEvent → ClusterView
  | .listing => { view with list := some fun _ => none }
  | .listedOne resource =>
      match view.list with
      | some listed => { view with list := some (revise listed resource.id (some resource)) }
      | none => { view with objects := revise view.objects resource.id (some resource) }
  | .listed =>
      match view.list with
      | some listed => ⟨listed, none⟩
      | none => view
  | .applied resource => { view with objects := revise view.objects resource.id (some resource) }
  | .deleted resource => { view with objects := revise view.objects resource.id none }

/-- Take several events into account. -/
def takeAll (events : List WatchEvent) (view : ClusterView) : ClusterView := events.foldl take view

/-- Single changes are told only while no list is under way. -/
def Orderly (view : ClusterView) : List WatchEvent → Prop
  | [] => True
  | event :: rest => (event.isSingle = true → view.list = none) ∧ Orderly (view.take event) rest

/-- If a watch is orderly, then so is its beginning. -/
theorem orderly_of_append {view : ClusterView} {first second : List WatchEvent}
    (orderly : Orderly view (first ++ second)) : Orderly view first := by
  induction first generalizing view with
  | nil => trivial
  | cons event rest inductionHypothesis => exact ⟨orderly.1, inductionHypothesis orderly.2⟩

end ClusterView

/-! ## The changes that a tracker makes of events -/

namespace Change

/-- Deleting several names makes them missing and leaves all others as they were. -/
theorem latest?_removals (id : ObjectId) (changes : List Change) (gone : List ObjectId)
    (labels : Labels) :
    latest? id (changes ++ gone.map fun each => Tracker.removalOf each labels) =
      if id ∈ gone then none else latest? id changes := by
  induction gone generalizing changes with
  | nil => simp
  | cons first rest inductionHypothesis =>
    have regrouped : changes ++ (first :: rest).map (fun each => Tracker.removalOf each labels) =
        (changes ++ [Tracker.removalOf first labels]) ++
          rest.map fun each => Tracker.removalOf each labels := by
      simp
    rw [regrouped, inductionHypothesis, latest?_concat]
    by_cases same : first = id
    · simp [same, Tracker.removalOf]
    · simp [Tracker.removalOf, same, Ne.symm same]

end Change

namespace Tracker

/-- The changes that several events stand for, and the tracker behind them. -/
def follow (tracker : Tracker) : List WatchEvent → List Change × Tracker
  | [] => ([], tracker)
  | event :: rest =>
      let (changes, tracker) := tracker.step event
      let (others, tracker) := tracker.follow rest
      (changes ++ others, tracker)

/-- A tracker is in step with the described cluster, given all changes that it made so far. It knows
    the names that are left by these changes. While no list is under way they leave exactly the
    described objects; while one is, they leave what the list has told, and whatever it has not told
    may be there still. -/
structure InStep (changes : List Change) (tracker : Tracker) (view : ClusterView) : Prop where
  known : ∀ id, id ∈ tracker.known ↔ (Change.latest? id changes).isSome = true
  outside : tracker.relisted = none →
    view.list = none ∧ ∀ id, Change.latest? id changes = view.objects id
  inside : ∀ names, tracker.relisted = some names → ∃ listed, view.list = some listed ∧
    (∀ id, id ∈ names ↔ (listed id).isSome = true) ∧
      ∀ id resource, listed id = some resource → Change.latest? id changes = some resource

/-- A tracker that knows nothing is in step with a cluster of which nothing was told. -/
theorem inStep_empty : InStep [] Tracker.empty ClusterView.nothing where
  known := by simp [Tracker.empty]
  outside := by simp [ClusterView.nothing]
  inside := by simp [Tracker.empty]

/-- A tracker that is in step knows of a list exactly if one is under way. -/
theorem InStep.relisted_eq_none {changes : List Change} {tracker : Tracker} {view : ClusterView}
    (inStep : InStep changes tracker view) (idle : view.list = none) : tracker.relisted = none := by
  cases relisted : tracker.relisted with
  | none => rfl
  | some names =>
    obtain ⟨listed, underWay, -⟩ := inStep.inside names relisted
    rw [idle] at underWay
    cases underWay

/-- Knowing one more name, after a change that gave it a state. -/
theorem InStep.known_insert {changes : List Change} {tracker : Tracker} {view : ClusterView}
    (inStep : InStep changes tracker view) (resource : Resource) (id : ObjectId) :
    id ∈ tracker.known.insert resource.id ↔
      (Change.latest? id (changes ++ [changeTo resource])).isSome = true := by
  rw [List.mem_insert_iff, inStep.known, Change.latest?_concat]
  by_cases same : resource.id = id
  · simp [changeTo, same]
  · simp [changeTo, same, Ne.symm same]

/-- While a list is under way, a tracker that is in step knows the names that the list has told. -/
theorem InStep.names_of_underWay {changes : List Change} {tracker : Tracker} {view : ClusterView}
    (inStep : InStep changes tracker view) {listed : ObjectId → Option Resource}
    (underWay : view.list = some listed) :
    ∃ names, tracker.relisted = some names ∧ (∀ id, id ∈ names ↔ (listed id).isSome = true) ∧
      ∀ id resource, listed id = some resource → Change.latest? id changes = some resource := by
  cases relisted : tracker.relisted with
  | none =>
    have idle := (inStep.outside relisted).1
    rw [underWay] at idle
    cases idle
  | some names =>
    obtain ⟨found, same, namedAndTold⟩ := inStep.inside names relisted
    obtain rfl : listed = found := Option.some.inj (underWay.symm.trans same)
    exact ⟨names, rfl, namedAndTold⟩

/-- What a complete list reports as deleted: the names that are left by the changes so far and that
    it did not tell. -/
theorem InStep.mem_listed_iff {changes : List Change} {tracker : Tracker} {view : ClusterView}
    (inStep : InStep changes tracker view) {listed : ObjectId → Option Resource}
    (underWay : view.list = some listed) (change : Change) :
    change ∈ (tracker.step .listed).1 ↔ ∃ id, change = removalOf id Labels.none ∧
      (Change.latest? id changes).isSome = true ∧ listed id = none := by
  obtain ⟨names, relisted, named, -⟩ := inStep.names_of_underWay underWay
  have unlisted (id : ObjectId) : id ∉ names ↔ listed id = none := by
    rw [named, Bool.not_eq_true, Option.isSome_eq_false_iff, Option.isNone_iff_eq_none]
  simp only [Tracker.step, relisted, List.mem_map, List.mem_filter, List.contains_eq_mem,
    Bool.not_eq_true', decide_eq_false_iff_not, inStep.known, unlisted]
  constructor
  · rintro ⟨id, gone, rfl⟩
    exact ⟨id, rfl, gone⟩
  · rintro ⟨id, rfl, gone⟩
    exact ⟨id, gone, rfl⟩

/-- Behind a complete list, the changes leave exactly what it told. A name that it did not tell is
    either reported as deleted or was not left by the changes before it. -/
theorem InStep.latest?_listed {changes : List Change} {tracker : Tracker} {view : ClusterView}
    (inStep : InStep changes tracker view) {listed : ObjectId → Option Resource}
    (underWay : view.list = some listed) (id : ObjectId) :
    Change.latest? id (changes ++ (tracker.step .listed).1) = listed id := by
  obtain ⟨names, relisted, named, told⟩ := inStep.names_of_underWay underWay
  simp only [Tracker.step, relisted, Change.latest?_removals, List.mem_filter,
    List.contains_eq_mem, Bool.not_eq_true', decide_eq_false_iff_not, inStep.known]
  cases held : listed id with
  | some resource =>
    have onList : id ∈ names := (named id).2 (by simp [held])
    rw [if_neg (fun gone => gone.2 onList)]
    exact told id resource held
  | none =>
    have offList : id ∉ names := fun member => by simpa [held] using (named id).1 member
    split
    · rfl
    · rename_i kept
      exact Option.not_isSome_iff_eq_none.1 fun left => kept ⟨left, offList⟩

/-- A tracker stays in step with the cluster, whatever event comes next, if single changes come only
    while no list is under way. -/
theorem InStep.step {changes : List Change} {tracker : Tracker} {view : ClusterView}
    (inStep : InStep changes tracker view) (event : WatchEvent)
    (orderly : event.isSingle = true → view.list = none) :
    InStep (changes ++ (tracker.step event).1) (tracker.step event).2 (view.take event) := by
  cases event with
  | listing =>
    refine ⟨by simpa [Tracker.step] using inStep.known, nofun, ?_⟩
    rintro _ ⟨⟩
    exact ⟨fun _ => none, rfl, by simp, by simp⟩
  | listedOne resource =>
    cases relisted : tracker.relisted with
    | none =>
      obtain ⟨idle, exact⟩ := inStep.outside relisted
      refine ⟨inStep.known_insert resource, fun _ => ?_, by simp [Tracker.step, relisted]⟩
      simp only [ClusterView.take, idle, true_and]
      intro id
      simp only [Tracker.step, Change.latest?_concat, ClusterView.revise, changeTo, exact]
    | some names =>
      obtain ⟨listed, underWay, named, told⟩ := inStep.inside names relisted
      refine ⟨inStep.known_insert resource, by simp [Tracker.step, relisted], ?_⟩
      intro grown extended
      simp only [Tracker.step, relisted, Option.map_some, Option.some.injEq] at extended
      subst extended
      refine ⟨ClusterView.revise listed resource.id (some resource),
        by simp [ClusterView.take, underWay], ?_, ?_⟩
      · intro id
        rw [List.mem_insert_iff, named, ClusterView.revise]
        by_cases same : resource.id = id
        · simp [same]
        · simp [same, Ne.symm same]
      · intro id held
        simp only [Tracker.step, Change.latest?_concat, ClusterView.revise, changeTo]
        split
        · exact fun same => same
        · exact told id held
  | listed =>
    cases relisted : tracker.relisted with
    | none =>
      obtain ⟨idle, exact⟩ := inStep.outside relisted
      simp only [Tracker.step, relisted, ClusterView.take, idle, List.append_nil]
      exact inStep
    | some names =>
      obtain ⟨listed, underWay, named, told⟩ := inStep.inside names relisted
      have left := inStep.latest?_listed underWay
      refine ⟨fun id => ?_, fun _ => ?_, by simp [Tracker.step, relisted]⟩
      · rw [left]
        simpa [Tracker.step, relisted] using named id
      · simpa [ClusterView.take, underWay] using left
  | applied resource =>
    have idle := orderly rfl
    have relisted := inStep.relisted_eq_none idle
    refine ⟨inStep.known_insert resource, fun _ => ⟨idle, fun id => ?_⟩,
      by simp [Tracker.step, relisted]⟩
    simp only [Tracker.step, Change.latest?_concat, ClusterView.take, ClusterView.revise, changeTo,
      (inStep.outside relisted).2]
  | deleted resource =>
    have idle := orderly rfl
    have relisted := inStep.relisted_eq_none idle
    refine ⟨?_, fun _ => ⟨idle, fun id => ?_⟩, by simp [Tracker.step, relisted]⟩
    · intro id
      simp only [Tracker.step, Change.latest?_concat, List.mem_filter, inStep.known]
      by_cases same : resource.id = id
      · simp [removalOf, same]
      · simp [removalOf, same, Ne.symm same]
    · simp only [Tracker.step, Change.latest?_concat, ClusterView.take, ClusterView.revise,
        removalOf, (inStep.outside relisted).2]

/-- A tracker that follows an orderly watch from the beginning stays in step with the cluster. -/
theorem InStep.follow {changes : List Change} {tracker : Tracker} {view : ClusterView}
    (inStep : InStep changes tracker view) (events : List WatchEvent)
    (orderly : view.Orderly events) :
    InStep (changes ++ (tracker.follow events).1) (tracker.follow events).2
      (view.takeAll events) := by
  induction events generalizing changes tracker view with
  | nil => simpa [Tracker.follow, ClusterView.takeAll] using inStep
  | cons event rest inductionHypothesis =>
    have further := inductionHypothesis (inStep.step event orderly.1) orderly.2
    rw [List.append_assoc] at further
    exact further

/-- Following one more event. -/
theorem follow_concat (tracker : Tracker) (events : List WatchEvent) (event : WatchEvent) :
    tracker.follow (events ++ [event]) =
      ((tracker.follow events).1 ++ ((tracker.follow events).2.step event).1,
        ((tracker.follow events).2.step event).2) := by
  induction events generalizing tracker with
  | nil => simp [follow]
  | cons first rest inductionHypothesis => simp [follow, inductionHypothesis]

/-- The changes that an event stands for are well named. -/
theorem wellNamed_step (tracker : Tracker) (event : WatchEvent) :
    ∀ change ∈ (tracker.step event).1, change.WellNamed := by
  intro change member
  cases event with
  | listing => cases member
  | listedOne resource =>
    obtain rfl := List.mem_singleton.1 member
    exact Change.wellNamed_changeTo resource
  | listed =>
    simp only [step] at member
    split at member
    · obtain ⟨id, -, rfl⟩ := List.mem_map.1 member
      exact Change.wellNamed_removalOf id Labels.none
    · cases member
  | applied resource =>
    obtain rfl := List.mem_singleton.1 member
    exact Change.wellNamed_changeTo resource
  | deleted resource =>
    obtain rfl := List.mem_singleton.1 member
    exact Change.wellNamed_removalOf resource.id resource.labels

/-- All changes that a tracker makes of events are well named. -/
theorem wellNamed_follow (tracker : Tracker) (events : List WatchEvent) :
    ∀ change ∈ (tracker.follow events).1, change.WellNamed := by
  induction events generalizing tracker with
  | nil => simp [follow]
  | cons event rest inductionHypothesis =>
    intro change member
    rcases List.mem_append.1 member with first | later
    · exact wellNamed_step tracker event change first
    · exact inductionHypothesis (tracker.step event).2 change later

end Tracker

/-! ## The loop -/

namespace Watch

/-- The events among what a watch yields. -/
def eventsOf (items : List WatchItem) : List WatchEvent :=
  items.filterMap fun
    | .event event => some event
    | .failure => none

/-- Receiving takes the first event, if there is one, and leaves the others. -/
theorem eventsOf_next (items : List WatchItem) :
    eventsOf items = (next items).1.toList ++ eventsOf (next items).2.2 := by
  induction items with
  | nil => rfl
  | cons item rest inductionHypothesis =>
    cases item with
    | event event => rfl
    | failure => exact inductionHypothesis

/-- A watch that yields no event any more yields nothing any more. -/
theorem rest_of_ended {items : List WatchItem} (ended : (next items).1 = none) :
    (next items).2.2 = [] := by
  induction items with
  | nil => rfl
  | cons item rest inductionHypothesis =>
    cases item with
    | event event => cases ended
    | failure => exact inductionHypothesis ended

end Watch

/-- Feeding all that a watch yields is feeding the first event that it yields and then the rest. -/
theorem Feed.receiveAll_next (items : List WatchItem) (feed : Feed) :
    (receiveAll items feed).2 =
      match (Watch.next items).1 with
      | none => feed
      | some event => (receiveAll (Watch.next items).2.2 (feed.receive event).2).2 := by
  induction items with
  | nil => rfl
  | cons item rest inductionHypothesis =>
    cases item with
    | event event => rfl
    | failure => exact inductionHypothesis

/-- A loop that feeds a watcher from a watch, between two of its steps. `pending` are the changes of
    which the watcher was not told yet, `received` the events that were received so far. -/
structure Following where
  watch : Watch
  feed : Feed
  pending : List Change
  received : List WatchEvent

namespace Following

/-- What may happen next: the loop proceeds, or a target is subscribed or left. -/
inductive Move where
  | proceed
  | subscribe (target : Target)
  | unsubscribe (target : Target)

/-- A loop that has not received anything yet. -/
def start (kind : Kind) (makeRule : RuleMaker) (items : List WatchItem) : Following where
  watch := Watch.ofItems items
  feed := ⟨kind, Tracker.empty, Watcher.ofKind kind makeRule⟩
  pending := []
  received := []

/-- Let something happen to the watcher. -/
def advance (following : Following) (step : Watcher.Step) : Following :=
  { following with
    feed := { following.feed with watcher := following.feed.watcher.advance step } }

/-- Tell the watcher of one pending change; receive the next event if there is none. -/
def proceed (following : Following) : Following :=
  match following.pending with
  | change :: rest =>
      { following.advance (.event following.feed.kind change) with pending := rest }
  | [] =>
      let (received, watch) := following.watch.receive
      match received with
      | none => { following with watch }
      | some event =>
          let (changes, tracker) := following.feed.tracker.step event
          { watch
            feed := { following.feed with tracker }
            pending := changes
            received := following.received ++ [event] }

/-- Let one thing happen. -/
def move (following : Following) : Move → Following
  | .proceed => following.proceed
  | .subscribe target => following.advance (.subscribe target)
  | .unsubscribe target => following.advance (.unsubscribe target)

/-- Let several things happen. -/
def run (moves : List Move) (following : Following) : Following := moves.foldl move following

/-- A loop that proceeds as often as changes are pending has handed all of them to the watcher. -/
theorem run_proceed_pending (following : Following) :
    run (List.replicate following.pending.length .proceed) following =
      { following with
        feed := { following.feed with
          watcher :=
            (Feed.handleAll following.feed.kind following.pending following.feed.watcher).2 }
        pending := [] } := by
  obtain ⟨watch, feed, pending, received⟩ := following
  induction pending generalizing feed with
  | nil => rfl
  | cons change rest inductionHypothesis =>
    exact inductionHypothesis
      { feed with watcher := feed.watcher.advance (.event feed.kind change) }

/-- A loop that just proceeds, with nobody subscribing or leaving, does to its feed what feeding it
    all events at once does. -/
theorem exists_run_receiveAll (following : Following) (settled : following.pending = []) :
    ∃ count,
      let finished := run (List.replicate count .proceed) following
      finished.feed = (Feed.receiveAll following.watch.upcoming following.feed).2 ∧
        finished.pending = [] ∧
          finished.received = following.received ++ Watch.eventsOf following.watch.upcoming := by
  generalize told : Watch.eventsOf following.watch.upcoming = events
  induction events generalizing following with
  | nil =>
    rw [Watch.eventsOf_next] at told
    have ended : (Watch.next following.watch.upcoming).1 = none :=
      Option.toList_eq_nil_iff.1 (List.append_eq_nil_iff.1 told).1
    refine ⟨0, ?_, settled, (List.append_nil _).symm⟩
    rw [Feed.receiveAll_next, ended]
    rfl
  | cons event rest inductionHypothesis =>
    rw [Watch.eventsOf_next] at told
    cases next : (Watch.next following.watch.upcoming).1 with
    | none =>
      rw [next, Watch.rest_of_ended next] at told
      cases told
    | some first =>
      rw [next] at told
      obtain ⟨rfl, others⟩ := List.cons.inj told
      -- One step receives the event, and its changes are handed over one by one.
      have received : following.proceed =
          { watch := following.watch.receive.2
            feed := { following.feed with tracker := (following.feed.tracker.step first).2 }
            pending := (following.feed.tracker.step first).1
            received := following.received ++ [first] } := by
        simp [proceed, settled, Watch.receive, next]
      have handed := run_proceed_pending following.proceed
      obtain ⟨count, fed, dealt, all⟩ := inductionHypothesis
        (run (List.replicate following.proceed.pending.length .proceed) following.proceed)
        (by rw [handed]) (by rw [handed, received]; exact others)
      refine ⟨1 + (following.proceed.pending.length + count), ?_⟩
      rw [← List.replicate_append_replicate, ← List.replicate_append_replicate, run,
        List.foldl_append, List.foldl_append]
      refine ⟨fed.trans ?_, dealt, all.trans ?_⟩
      · rw [handed, received, Feed.receiveAll_next following.watch.upcoming, next]
        rfl
      · rw [handed, received]
        simp

/-- The books of a loop are right: the events that it has received are the first ones of the watch,
    the tracker is the one that follows them, and their changes are those of which the watcher was
    told, with the pending ones behind. -/
structure Accounted (kind : Kind) (makeRule : RuleMaker) (items : List WatchItem)
    (following : Following) : Prop where
  sameKind : following.feed.kind = kind
  events : following.received ++ Watch.eventsOf following.watch.upcoming = Watch.eventsOf items
  tracker : following.feed.tracker = (Tracker.empty.follow following.received).2
  watcher : ∃ told, following.feed.watcher = Watcher.run told (Watcher.ofKind kind makeRule) ∧
    Watcher.changesOf kind told ++ following.pending =
      (Tracker.empty.follow following.received).1

/-- The books are right at the start. -/
theorem accounted_start (kind : Kind) (makeRule : RuleMaker) (items : List WatchItem) :
    Accounted kind makeRule items (start kind makeRule items) :=
  ⟨rfl, rfl, rfl, [], rfl, rfl⟩

/-- A target that is subscribed or left is no change, so the books stay right. -/
theorem Accounted.advance {kind : Kind} {makeRule : RuleMaker} {items : List WatchItem}
    {following : Following} (accounted : Accounted kind makeRule items following)
    {step : Watcher.Step} (silent : step.change? kind = none) :
    Accounted kind makeRule items (following.advance step) := by
  obtain ⟨told, reached, changes⟩ := accounted.watcher
  refine ⟨accounted.sameKind, accounted.events, accounted.tracker, told ++ [step], ?_, ?_⟩
  · simp [Following.advance, reached, Watcher.run]
  · simpa [Following.advance, Watcher.changesOf, silent] using changes

/-- Telling the watcher of the first pending change keeps the books right. -/
theorem Accounted.proceed {kind : Kind} {makeRule : RuleMaker} {items : List WatchItem}
    {following : Following} (accounted : Accounted kind makeRule items following) :
    Accounted kind makeRule items following.proceed := by
  obtain ⟨told, reached, changes⟩ := accounted.watcher
  unfold Following.proceed
  split
  · rename_i change rest pending
    refine ⟨accounted.sameKind, accounted.events, accounted.tracker,
      told ++ [.event following.feed.kind change], ?_, ?_⟩
    · simp [Following.advance, reached, Watcher.run]
    · simpa [Following.advance, pending, Watcher.changesOf, Watcher.Step.change?,
        accounted.sameKind] using changes
  · rename_i pending
    have events := accounted.events
    rw [Watch.eventsOf_next] at events
    simp only [Watch.receive]
    cases next : (Watch.next following.watch.upcoming).1 with
    | none =>
      refine ⟨accounted.sameKind, ?_, accounted.tracker, told, reached, changes⟩
      simpa [next] using events
    | some event =>
      refine ⟨accounted.sameKind, ?_, ?_, told, reached, ?_⟩
      · simpa [next] using events
      · simp [Tracker.follow_concat, accounted.tracker]
      · rw [pending, List.append_nil] at changes
        simp [Tracker.follow_concat, accounted.tracker, changes]

/-- The books are right, whatever happens in whatever order. -/
theorem accounted_run (kind : Kind) (makeRule : RuleMaker) (items : List WatchItem)
    (moves : List Move) :
    Accounted kind makeRule items (run moves (start kind makeRule items)) := by
  induction moves using List.reverseRecOn with
  | nil => exact accounted_start kind makeRule items
  | append_singleton moves move inductionHypothesis =>
    have unfolded : run (moves ++ [move]) (start kind makeRule items) =
        (run moves (start kind makeRule items)).move move := by
      simp [run]
    rw [unfolded]
    cases move with
    | proceed => exact inductionHypothesis.proceed
    | subscribe target => exact inductionHypothesis.advance rfl
    | unsubscribe target => exact inductionHypothesis.advance rfl

/-- What a loop remembers when nothing is pending. Its watcher is consistent and remembers the
    objects that the changes of the received events left. -/
theorem Accounted.settled {kind : Kind} {makeRule : RuleMaker} {items : List WatchItem}
    {following : Following} (accounted : Accounted kind makeRule items following)
    (settled : following.pending = []) :
    following.feed.watcher.Consistent ∧
      ∀ id, following.feed.watcher.observed.find? id =
        (Change.latest? id (Tracker.empty.follow following.received).1).map fun resource =>
          ⟨resource.app?, resource⟩ := by
  obtain ⟨told, reached, changes⟩ := accounted.watcher
  rw [settled, List.append_nil] at changes
  have wellNamed : Watcher.WellNamed kind told := by
    rw [Watcher.WellNamed, changes]
    exact Tracker.wellNamed_follow Tracker.empty following.received
  obtain ⟨consistent, -, remembered⟩ := Watcher.history_exact kind makeRule told wellNamed
  rw [← changes, reached]
  exact ⟨consistent, remembered⟩

/-- Whatever the watch yields and whenever targets are subscribed or left, a loop that has dealt
    with all changes of the events that it received is in step with the cluster that these describe.
    While no list is under way, its watcher remembers exactly the described objects, and the group
    of a subscribed application holds exactly those of them that govern it, no name twice. While one
    is, a `listed` that comes next will report as deleted exactly the remembered objects that the
    list has not told, be they from before it or from an abandoned list. -/
theorem remembered_exact (kind : Kind) (makeRule : RuleMaker) (items : List WatchItem)
    (moves : List Move) (orderly : ClusterView.nothing.Orderly (Watch.eventsOf items))
    (settled : (run moves (start kind makeRule items)).pending = []) :
    let following := run moves (start kind makeRule items)
    let watcher := following.feed.watcher
    let view := ClusterView.nothing.takeAll following.received
    following.received <+: Watch.eventsOf items ∧
      (view.list = none →
        (∀ id, (watcher.observed.find? id).map Sighting.resource = view.objects id) ∧
          ∀ target, watcher.hasTarget target = true →
            let group := watcher.cache.group target.app
            (group.resources.map Resource.anyName).Nodup ∧
              ∀ resource, resource ∈ group.resources ↔
                view.objects resource.id = some resource ∧
                  resource.scopeOrEmpty = target.app.scope ∧
                    resource.labels.app? = some target.app.name) ∧
      ∀ listed, view.list = some listed → following.watch.receive.1 = some .listed →
        ∀ change, change ∈ following.proceed.pending ↔
          ∃ id, change = Tracker.removalOf id Labels.none ∧
            (watcher.observed.find? id).isSome = true ∧ listed id = none := by
  have accounted := accounted_run kind makeRule items moves
  generalize run moves (start kind makeRule items) = following at accounted settled
  obtain ⟨consistent, remembered⟩ := accounted.settled settled
  have inStep : Tracker.InStep (Tracker.empty.follow following.received).1
      following.feed.tracker (ClusterView.nothing.takeAll following.received) := by
    rw [← accounted.events] at orderly
    rw [accounted.tracker]
    exact Tracker.inStep_empty.follow following.received (ClusterView.orderly_of_append orderly)
  refine ⟨⟨_, accounted.events⟩, ?_, ?_⟩
  · intro idle
    have exact := (inStep.outside (inStep.relisted_eq_none idle)).2
    simp only [exact] at remembered
    refine ⟨fun id => ?_, fun target subscribed => ⟨consistent.agrees.distinct target.app,
      consistent.mem_group_of_remembered remembered subscribed⟩⟩
    rw [remembered, Option.map_map]
    exact Option.map_id'
  · intro listed underWay next change
    have pending : following.proceed.pending = (following.feed.tracker.step .listed).1 := by
      simp only [Watch.receive] at next
      simp [Following.proceed, settled, Watch.receive, next]
    rw [pending, inStep.mem_listed_iff underWay]
    simp only [remembered, Option.isSome_map]

/-- A watch that fails twice. The first list is abandoned after one object, which the second list
    does not tell; one object comes after it. -/
def interrupted : List WatchItem :=
  [.failure, .event .listing, .event (.listedOne (Watcher.labelled "a" "foo")), .failure,
    .event .listing, .event (.listedOne (Watcher.labelled "b" "foo")), .event .listed,
    .event (.applied (Watcher.labelled "c" "foo"))]

/-- The loop receives all of the interrupted watch and deals with it. The target is subscribed
    within the second list, left before the removal is dealt with, and subscribed again. -/
def interleaved : List Move :=
  let foo : Target := ⟨⟨"default", "foo"⟩, ⟨"K"⟩⟩
  List.replicate 4 .proceed ++ [.subscribe foo] ++ List.replicate 3 .proceed ++
    [.unsubscribe foo, .proceed, .subscribe foo] ++ List.replicate 2 .proceed

/-- The interrupted watch is orderly and dealt with, so the group holds the object of the complete
    list and the one that came after it, and the one of the abandoned list is forgotten. -/
theorem remembered_exact_interrupted :
    ClusterView.nothing.Orderly (Watch.eventsOf interrupted) ∧
      let following := run interleaved (start ⟨"K"⟩ (fun _ => none) interrupted)
      let group := following.feed.watcher.cache.group ⟨"default", "foo"⟩
      following.pending = [] ∧ Watcher.labelled "b" "foo" ∈ group.resources ∧
        Watcher.labelled "c" "foo" ∈ group.resources ∧
          (following.feed.watcher.observed.find? ⟨"default", "a"⟩).map Sighting.resource =
            none := by
  have orderly : ClusterView.nothing.Orderly (Watch.eventsOf interrupted) := by
    simp [ClusterView.Orderly, Watch.eventsOf, interrupted, WatchEvent.isSingle, ClusterView.take,
      ClusterView.nothing]
  have settled : (run interleaved (start ⟨"K"⟩ (fun _ => none) interrupted)).pending = [] := by
    rfl
  have received : (run interleaved (start ⟨"K"⟩ (fun _ => none) interrupted)).received =
      Watch.eventsOf interrupted := by
    rfl
  have subscribed : (run interleaved
      (start ⟨"K"⟩ (fun _ => none) interrupted)).feed.watcher.hasTarget
        ⟨⟨"default", "foo"⟩, ⟨"K"⟩⟩ = true := by
    decide +kernel
  obtain ⟨-, outside, -⟩ := remembered_exact ⟨"K"⟩ (fun _ => none) interrupted interleaved orderly
    settled
  rw [received] at outside
  obtain ⟨remembered, groups⟩ := outside rfl
  have exact := (groups _ subscribed).2
  exact ⟨orderly, settled, (exact _).2 ⟨rfl, rfl, rfl⟩, (exact _).2 ⟨rfl, rfl, rfl⟩, remembered _⟩

end Following

end RulePlane
