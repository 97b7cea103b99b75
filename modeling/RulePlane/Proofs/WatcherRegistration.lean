import RulePlane.Proofs.OverlappingSends
import RulePlane.Proofs.TrackedTargets

/-!
# Registering watchers from many threads

Registrations that overtake one another. A watcher is an object here: it gets a number when it is
created, and the roster finds it by its kind. A call looks its kind up, and what it found may be out
of date when it goes on: with the watcher that it found, or, if it found none, with a second look-up
that no other call can come in between, and that creates the watcher if it is still missing. All
calls take their steps in any order.

`Sound` says how the roster, the created watchers, the started watches and the gauge fit together,
and `Settled` what a call may have in hand. Both are kept by one step of any call, because the step
that settles a call is `lookUpOrCreate` either way (`subscribeOn_of_find?`). The run law
`one_watcher_per_kind` says what follows for all calls. Its last part compares the roster with the
watchers that the plane would have if the calls had been made one after another, in the order in
which they returned.

The only steps are those of registrations. Events that reach a watcher in the meantime, and clients
that leave, change what it tracks and caches, but not its kind and not its number.
-/

namespace RulePlane

/-- The entry of a new key comes last. -/
theorem Table.entries_insert_of_missing {κ υ : Type} [DecidableEq κ] {table : Table κ υ} {key : κ}
    (missing : table.find? key = none) (value : υ) :
    (table.insert key value).entries = table.entries ++ [(key, value)] := by
  have placed (entries : List (κ × υ)) (missing : lookup key entries = none) :
      place key value entries = entries ++ [(key, value)] := by
    induction entries with
    | nil => rfl
    | cons entry rest inductionHypothesis =>
      rw [lookup] at missing
      split at missing
      · cases missing
      · rename_i different
        rw [place, if_neg different, inductionHypothesis missing]
        rfl
  exact placed table.entries missing

/-- A watcher that accepts a target stays one of its kind. -/
theorem Watcher.kind_of_subscribe {watcher subscribed : Watcher} {target : Target} {added : Bool}
    (accepted : watcher.subscribe target = .ok (added, subscribed)) :
    subscribed.kind = watcher.kind := by
  obtain ⟨-, ⟨-, rfl⟩ | ⟨-, rfl⟩⟩ := subscribe_cases accepted <;> rfl

/-- A watch as it was started: the number of the watcher that it feeds, that watcher at this moment,
    and the target of the call that created it. -/
structure WatchStart where
  number : Nat
  watcher : Watcher
  target : Target

/-- The watchers that were created, by number, and the number under which each active kind is found.
    `starts` lists the started watches, and `gauge` counts as the metrics do. -/
structure Roster where
  kinds : KindTable
  created : List Watcher
  numbers : Table Kind Nat
  starts : List WatchStart
  gauge : Nat

namespace Roster

variable {roster : Roster} {target : Target}

/-- No watcher has been created. -/
def ofKinds (kinds : KindTable) : Roster := ⟨kinds, [], Table.empty, [], 0⟩

/-- Subscribe a target on the watcher of a number. A number that was not given out has none. -/
def subscribeOn (roster : Roster) (number : Nat) (target : Target) :
    Except WatchError Nat × Roster :=
  match roster.created[number]? with
  | none => (.error (.unsupportedKind target.kind), roster)
  | some watcher =>
      match watcher.subscribe target with
      | .error fault => (.error fault, roster)
      | .ok (_, watcher) =>
          (.ok number, { roster with created := roster.created.set number watcher })

/-- File a new watcher under the kind of the target that it was created for, and start its watch. -/
def create (roster : Roster) (target : Target) (watcher : Watcher) : Roster :=
  { roster with
    created := roster.created ++ [watcher]
    numbers := roster.numbers.insert target.kind roster.created.length
    starts := roster.starts ++ [⟨roster.created.length, watcher, target⟩]
    gauge := roster.gauge + 1 }

/-- Look the kind of a target up, and create its watcher if it is missing. -/
def lookUpOrCreate (roster : Roster) (target : Target) : Except WatchError Nat × Roster :=
  match roster.numbers.find? target.kind with
  | some number => roster.subscribeOn number target
  | none =>
      match roster.kinds.find? target.kind with
      | none => (.error (.unsupportedKind target.kind), roster)
      | some entry =>
          match (Watcher.ofKind target.kind entry.makeRule).subscribe target with
          | .error fault => (.error fault, roster)
          | .ok (_, watcher) => (.ok roster.created.length, roster.create target watcher)

/-- Subscribing on a watcher that is still the one of the kind is what the second look-up does. -/
theorem subscribeOn_of_find? {number : Nat}
    (found : roster.numbers.find? target.kind = some number) :
    roster.subscribeOn number target = roster.lookUpOrCreate target := by
  simp only [lookUpOrCreate, found]

/-- Every created watcher is found under its own kind, which is supported. Each has been started
    once, in the order of their numbers, and each is counted. -/
structure Sound (roster : Roster) : Prop where
  entries : roster.numbers.entries = (roster.created.map Watcher.kind).zipIdx
  supported : ∀ watcher ∈ roster.created, roster.kinds.contains watcher.kind = true
  starts : roster.starts.map WatchStart.number = List.range roster.created.length
  gauge : roster.gauge = roster.created.length

/-- The watcher of a number is one of the target's kind, and tracks the target. -/
def Tracks (roster : Roster) (number : Nat) (target : Target) : Prop :=
  ∃ watcher, roster.created[number]? = some watcher ∧ watcher.kind = target.kind ∧
    watcher.hasTarget target = true

/-- An empty roster is sound. -/
theorem sound_ofKinds (kinds : KindTable) : (ofKinds kinds).Sound where
  entries := rfl
  supported := nofun
  starts := rfl
  gauge := rfl

namespace Sound

/-- The kinds of the created watchers are those under which watchers are found. -/
theorem keys (sound : roster.Sound) : roster.numbers.keys = roster.created.map Watcher.kind := by
  rw [Table.keys, sound.entries, List.zipIdx_map_fst]

/-- A kind finds the number of the created watcher of this kind. -/
theorem find?_iff (sound : roster.Sound) (kind : Kind) (number : Nat) :
    roster.numbers.find? kind = some number ↔
      ∃ watcher, roster.created[number]? = some watcher ∧ watcher.kind = kind := by
  rw [← Table.mem_entries_iff, sound.entries, List.mk_mem_zipIdx_iff_getElem?, List.getElem?_map,
    Option.map_eq_some_iff]

/-- The only watcher of a kind is found. -/
theorem find?_of_created (sound : roster.Sound) {number : Nat} {watcher : Watcher}
    (created : roster.created[number]? = some watcher) :
    roster.numbers.find? watcher.kind = some number :=
  (sound.find?_iff watcher.kind number).2 ⟨watcher, created, rfl⟩

/-- A kind under which a watcher is found is supported. -/
theorem contains_of_find? (sound : roster.Sound) {kind : Kind} {number : Nat}
    (found : roster.numbers.find? kind = some number) : roster.kinds.contains kind = true := by
  obtain ⟨watcher, created, rfl⟩ := (sound.find?_iff kind number).1 found
  exact sound.supported watcher (List.mem_of_getElem? created)

/-- What a settling call does. It subscribes on the watcher that it finds, or it creates one, or
    the kind is not supported and nothing happens. No watcher refuses the target. -/
theorem lookUpOrCreate_cases (sound : roster.Sound) (target : Target) :
    (∃ number watcher added subscribed,
        roster.numbers.find? target.kind = some number ∧
          roster.created[number]? = some watcher ∧
            watcher.subscribe target = .ok (added, subscribed) ∧
              roster.lookUpOrCreate target =
                (.ok number, { roster with created := roster.created.set number subscribed })) ∨
      (∃ entry added subscribed,
        roster.numbers.find? target.kind = none ∧
          roster.kinds.find? target.kind = some entry ∧
            (Watcher.ofKind target.kind entry.makeRule).subscribe target =
                .ok (added, subscribed) ∧
              roster.lookUpOrCreate target =
                (.ok roster.created.length, roster.create target subscribed)) ∨
      (roster.numbers.find? target.kind = none ∧ roster.kinds.find? target.kind = none ∧
        roster.lookUpOrCreate target = (.error (.unsupportedKind target.kind), roster)) := by
  unfold lookUpOrCreate
  cases found : roster.numbers.find? target.kind with
  | some number =>
    obtain ⟨watcher, created, own⟩ := (sound.find?_iff target.kind number).1 found
    obtain ⟨added, subscribed, accepted, -⟩ := Watcher.subscribe_of_kind own.symm
    refine Or.inl ⟨number, watcher, added, subscribed, rfl, created, accepted, ?_⟩
    simp only [subscribeOn, created, accepted]
  | none =>
    cases listed : roster.kinds.find? target.kind with
    | none => exact Or.inr (Or.inr ⟨rfl, rfl, rfl⟩)
    | some entry =>
      have own : target.kind = (Watcher.ofKind target.kind entry.makeRule).kind := rfl
      obtain ⟨added, subscribed, accepted, -⟩ := Watcher.subscribe_of_kind own
      refine Or.inr (Or.inl ⟨entry, added, subscribed, rfl, rfl, accepted, ?_⟩)
      simp only [accepted]

end Sound

/-- What calls leave of a roster: the supported kinds, every number under its kind, every target
    that a watcher tracks, and every start. -/
structure Extends (before after : Roster) : Prop where
  kinds : after.kinds = before.kinds
  find? : ∀ kind number, before.numbers.find? kind = some number →
    after.numbers.find? kind = some number
  tracks : ∀ number target, before.Tracks number target → after.Tracks number target
  starts : before.starts <+: after.starts

/-- Doing nothing extends a roster. -/
theorem extends_refl (roster : Roster) : Extends roster roster :=
  ⟨rfl, fun _ _ found => found, fun _ _ tracked => tracked, List.prefix_refl _⟩

/-- A watcher is replaced by one that has a further target. -/
theorem tracks_set {number : Nat} {watcher subscribed : Watcher} {added : Bool}
    (created : roster.created[number]? = some watcher)
    (accepted : watcher.subscribe target = .ok (added, subscribed)) (tested : Nat)
    (held : Target) (tracked : roster.Tracks tested held) :
    Tracks { roster with created := roster.created.set number subscribed } tested held := by
  have sameKind := Watcher.kind_of_subscribe accepted
  obtain ⟨present, found, own, holds⟩ := tracked
  by_cases same : number = tested
  · subst same
    obtain rfl := Option.some.inj (created.symm.trans found)
    refine ⟨subscribed, List.getElem?_set_self (List.getElem?_eq_some_iff.1 created).1,
      sameKind.trans own, ?_⟩
    rw [Watcher.hasTarget_of_subscribe accepted, holds, Bool.or_true]
  · exact ⟨present, (List.getElem?_set_ne same).trans found, own, holds⟩

/-- A settling call extends the roster. -/
theorem Sound.extends_lookUpOrCreate (sound : roster.Sound) (target : Target) :
    Extends roster (roster.lookUpOrCreate target).2 := by
  obtain ⟨number, watcher, added, subscribed, -, created, accepted, settled⟩ |
    ⟨entry, added, subscribed, missing, -, -, settled⟩ | ⟨-, -, settled⟩ :=
      sound.lookUpOrCreate_cases target
  · rw [settled]
    exact ⟨rfl, fun _ _ found => found, tracks_set created accepted, List.prefix_refl _⟩
  · rw [settled]
    refine ⟨rfl, ?_, ?_, List.prefix_append _ _⟩
    · intro kind number found
      have different : target.kind ≠ kind := by
        rintro rfl
        simp [missing] at found
      rw [create, Table.find?_insert, if_neg different, found]
    · rintro number held ⟨watcher, created, own, holds⟩
      exact ⟨watcher, List.getElem?_append_left (List.getElem?_eq_some_iff.1 created).1 ▸ created,
        own, holds⟩
  · rw [settled]
    exact extends_refl roster

/-- A settling call keeps a roster sound. -/
theorem Sound.lookUpOrCreate (sound : roster.Sound) (target : Target) :
    (roster.lookUpOrCreate target).2.Sound := by
  obtain ⟨number, watcher, added, subscribed, found, created, accepted, settled⟩ |
    ⟨entry, added, subscribed, missing, listed, accepted, settled⟩ | ⟨-, -, settled⟩ :=
      sound.lookUpOrCreate_cases target
  · have sameKind := Watcher.kind_of_subscribe accepted
    rw [settled]
    refine ⟨?_, ?_, ?_, ?_⟩
    · rw [Overlap.map_set_of_same created sameKind, sound.entries]
    · intro present member
      rcases List.mem_or_eq_of_mem_set member with earlier | rfl
      · exact sound.supported present earlier
      · exact sameKind ▸ sound.supported watcher (List.mem_of_getElem? created)
    · rw [List.length_set, sound.starts]
    · rw [List.length_set, sound.gauge]
  · have sameKind : subscribed.kind = target.kind := Watcher.kind_of_subscribe accepted
    rw [settled]
    refine ⟨?_, ?_, ?_, ?_⟩
    · simp only [create, Table.entries_insert_of_missing missing, sound.entries, List.map_append,
        List.map_cons, List.map_nil, sameKind, List.zipIdx_append, List.length_map,
        List.zipIdx_cons, List.zipIdx_nil, Nat.zero_add]
    · intro present member
      rcases List.mem_append.1 member with earlier | new
      · exact sound.supported present earlier
      · obtain rfl := List.mem_singleton.1 new
        simp only [create, sameKind, Table.contains, listed, Option.isSome_some]
    · simp only [create, List.map_append, List.map_cons, List.map_nil, sound.starts,
        List.length_append, List.length_singleton, List.range_succ]
    · simp only [create, sound.gauge, List.length_append, List.length_singleton]
  · rw [settled]
    exact sound

/-- What a settling call answers: the number of the one watcher of its kind, which tracks the target
    from then on, or that the kind is not supported. -/
theorem Sound.answer_lookUpOrCreate (sound : roster.Sound) (target : Target) :
    let (answer, after) := roster.lookUpOrCreate target
    match answer with
    | .ok number => after.numbers.find? target.kind = some number ∧ after.Tracks number target
    | .error fault =>
        fault = .unsupportedKind target.kind ∧ roster.kinds.contains target.kind = false := by
  obtain ⟨number, watcher, added, subscribed, found, created, accepted, settled⟩ |
    ⟨entry, added, subscribed, missing, listed, accepted, settled⟩ | ⟨-, unlisted, settled⟩ :=
      sound.lookUpOrCreate_cases target
  · rw [settled]
    have own := (Watcher.subscribe_cases accepted).1
    refine ⟨found, subscribed, List.getElem?_set_self (List.getElem?_eq_some_iff.1 created).1,
      (Watcher.kind_of_subscribe accepted).trans own.symm, ?_⟩
    rw [Watcher.hasTarget_of_subscribe accepted, decide_eq_true rfl, Bool.true_or]
  · rw [settled]
    refine ⟨Table.find?_insert_self _ _ _, subscribed, ?_, Watcher.kind_of_subscribe accepted, ?_⟩
    · rw [create, List.getElem?_append_right (Nat.le_refl _), Nat.sub_self]
      rfl
    · rw [Watcher.hasTarget_of_subscribe accepted, decide_eq_true rfl, Bool.true_or]
  · rw [settled]
    simp only [Table.contains, unlisted, Option.isSome_none, and_self]

/-- A settling call starts no watch, or one more: of the watcher that it answers with, which tracks
    the target of the call already. -/
theorem Sound.starts_lookUpOrCreate (sound : roster.Sound) (target : Target) :
    let (answer, after) := roster.lookUpOrCreate target
    after.starts = roster.starts ∨
      ∃ start, after.starts = roster.starts ++ [start] ∧ start.target = target ∧
        answer = .ok start.number ∧ start.watcher.kind = target.kind ∧
          start.watcher.hasTarget target = true := by
  obtain ⟨_, _, _, _, -, -, -, settled⟩ | ⟨entry, added, subscribed, -, -, accepted, settled⟩ |
    ⟨-, -, settled⟩ := sound.lookUpOrCreate_cases target
  · rw [settled]
    exact Or.inl rfl
  · rw [settled]
    refine Or.inr ⟨_, rfl, rfl, rfl, Watcher.kind_of_subscribe accepted, ?_⟩
    rw [Watcher.hasTarget_of_subscribe accepted, decide_eq_true rfl, Bool.true_or]
  · rw [settled]
    exact Or.inl rfl

/-- A settling call for a kind that is not supported changes nothing. -/
theorem Sound.lookUpOrCreate_of_unsupported (sound : roster.Sound)
    (unsupported : roster.kinds.contains target.kind = false) :
    (roster.lookUpOrCreate target).2 = roster := by
  obtain ⟨number, _, _, _, found, -⟩ | ⟨entry, _, _, -, listed, -⟩ | ⟨-, -, settled⟩ :=
    sound.lookUpOrCreate_cases target
  · simp [sound.contains_of_find? found] at unsupported
  · simp [Table.contains, listed] at unsupported
  · rw [settled]

/-- A roster shows active watchers if each kind has the same watcher in both, and the kinds were
    started in the same order. -/
structure Shows (roster : Roster) (watchers : Watchers) : Prop where
  kinds : roster.kinds = watchers.kinds
  started : roster.numbers.keys = watchers.started
  watcher? : ∀ kind, watchers.watcher? kind =
    (roster.numbers.find? kind).bind fun number => roster.created[number]?

/-- An empty roster shows that no watcher is active. -/
theorem shows_ofKinds (kinds : KindTable) : (ofKinds kinds).Shows (.ofKinds kinds) :=
  ⟨rfl, rfl, fun _ => rfl⟩

end Roster

namespace Watchers

/-- Register a target; a target that is refused leaves the watchers as they are. -/
def registerIfSupported (watchers : Watchers) (target : Target) : Watchers :=
  match watchers.register target with
  | .ok registered => registered
  | .error _ => watchers

/-- Register several targets one after another. -/
def registerAll (watchers : Watchers) (targets : List Target) : Watchers :=
  targets.foldl registerIfSupported watchers

variable {watchers : Watchers} {watcher subscribed : Watcher} {target : Target} {added : Bool}

/-- A target is registered on the active watcher of its kind. -/
theorem registerIfSupported_of_active (active : watchers.watcher? target.kind = some watcher)
    (accepted : watcher.subscribe target = .ok (added, subscribed)) :
    watchers.registerIfSupported target = watchers.update target.kind subscribed := by
  rw [registerIfSupported, register_eq_registerOrStart, registerOrStart, active]
  simp only [subscribeOn, accepted]
  rfl

/-- Without an active watcher of its kind, a target is registered on a new one. -/
theorem registerIfSupported_of_listed {entry : KindEntry}
    (inactive : watchers.watcher? target.kind = none)
    (listed : watchers.kinds.find? target.kind = some entry)
    (accepted : (Watcher.ofKind target.kind entry.makeRule).subscribe target =
      .ok (added, subscribed)) :
    watchers.registerIfSupported target = watchers.update target.kind subscribed := by
  rw [registerIfSupported, register_eq_registerOrStart, registerOrStart, inactive]
  simp only [listed, subscribeOn, accepted]
  rfl

/-- A target of a kind that is not supported is not registered. -/
theorem registerIfSupported_of_unlisted (inactive : watchers.watcher? target.kind = none)
    (unlisted : watchers.kinds.find? target.kind = none) :
    watchers.registerIfSupported target = watchers := by
  rw [registerIfSupported, register_eq_registerOrStart, registerOrStart, inactive]
  simp only [unlisted]

end Watchers

namespace Roster

variable {roster : Roster} {watchers : Watchers} {target : Target}

/-- Replacing a watcher by one of its kind is the same in both. -/
theorem Shows.set (shows : roster.Shows watchers) (sound : roster.Sound) {number : Nat}
    {watcher : Watcher} (subscribed : Watcher)
    (created : roster.created[number]? = some watcher) :
    Shows { roster with created := roster.created.set number subscribed }
      (watchers.update watcher.kind subscribed) where
  kinds := shows.kinds
  started := by
    have found := sound.find?_of_created created
    have present : watcher.kind ∈ watchers.active.keys := by
      rw [Table.mem_keys_iff]
      have active := shows.watcher? watcher.kind
      rw [found, Option.bind_some, created] at active
      exact Option.isSome_of_eq_some active
    rw [shows.started]
    exact ((Table.keys_insert _ _ _).trans (if_pos present)).symm
  watcher? kind := by
    rw [Watchers.watcher?_update]
    split
    · rename_i same
      rw [← same, sound.find?_of_created created, Option.bind_some,
        List.getElem?_set_self (List.getElem?_eq_some_iff.1 created).1]
    · rename_i different
      rw [shows.watcher? kind]
      refine Option.bind_congr fun other found => ?_
      have apart : number ≠ other := by
        rintro rfl
        obtain ⟨same, createdSame, own⟩ := (sound.find?_iff kind number).1 found
        obtain rfl := Option.some.inj (created.symm.trans createdSame)
        exact different own
      rw [List.getElem?_set_ne apart]

/-- A new watcher comes last in both. -/
theorem Shows.create (shows : roster.Shows watchers) (sound : roster.Sound)
    (missing : roster.numbers.find? target.kind = none) (subscribed : Watcher) :
    (roster.create target subscribed).Shows (watchers.update target.kind subscribed) where
  kinds := shows.kinds
  started := by
    have new : target.kind ∉ roster.numbers.keys := by
      simp [Table.mem_keys_iff, missing]
    have absent : target.kind ∉ watchers.started := by rwa [← shows.started]
    calc (roster.numbers.insert target.kind roster.created.length).keys
        = roster.numbers.keys ++ [target.kind] := (Table.keys_insert _ _ _).trans (if_neg new)
      _ = watchers.started ++ [target.kind] := congrArg (· ++ [target.kind]) shows.started
      _ = (watchers.update target.kind subscribed).started :=
          ((Table.keys_insert _ _ _).trans (if_neg absent)).symm
  watcher? kind := by
    rw [Watchers.watcher?_update, Roster.create, Table.find?_insert]
    split
    · rw [Option.bind_some, List.getElem?_concat_length]
    · rw [shows.watcher? kind]
      refine Option.bind_congr fun other found => ?_
      obtain ⟨earlier, created, -⟩ := (sound.find?_iff kind other).1 found
      rw [List.getElem?_append_left (List.getElem?_eq_some_iff.1 created).1]

/-- A roster goes on showing the active watchers when a call settles and the target is registered
    among them. -/
theorem Shows.lookUpOrCreate (shows : roster.Shows watchers) (sound : roster.Sound)
    (target : Target) :
    (roster.lookUpOrCreate target).2.Shows (watchers.registerIfSupported target) := by
  have shown := shows.watcher? target.kind
  obtain ⟨number, watcher, added, subscribed, found, created, accepted, settled⟩ |
    ⟨entry, added, subscribed, missing, listed, accepted, settled⟩ | ⟨missing, unlisted, settled⟩ :=
      sound.lookUpOrCreate_cases target
  · rw [found, Option.bind_some, created] at shown
    rw [settled, Watchers.registerIfSupported_of_active shown accepted,
      (Watcher.subscribe_cases accepted).1]
    exact shows.set sound subscribed created
  · rw [missing, Option.bind_none] at shown
    rw [shows.kinds] at listed
    rw [settled, Watchers.registerIfSupported_of_listed shown listed accepted]
    exact shows.create sound missing subscribed
  · rw [missing, Option.bind_none] at shown
    rw [shows.kinds] at unlisted
    rw [settled, Watchers.registerIfSupported_of_unlisted shown unlisted]
    exact shows

end Roster

namespace Registering

/-- How far a call has come: it has not looked its kind up yet, it has found a watcher or none, or
    it has answered. -/
inductive Phase where
  | calling
  | found (number : Nat)
  | missed
  | returned (answer : Except WatchError Nat)

/-- The number of steps that a call still has to take. -/
def Phase.remaining : Phase → Nat
  | calling => 2
  | found _ | missed => 1
  | returned _ => 0

/-- No call has more than two steps to take. -/
theorem Phase.remaining_le (phase : Phase) : phase.remaining ≤ 2 := by
  cases phase <;> simp [remaining]

/-- A call that has no step left has answered. -/
theorem Phase.returned_of_remaining {phase : Phase} (done : phase.remaining = 0) :
    ∃ answer, phase = .returned answer := by
  cases phase with
  | returned answer => exact ⟨answer, rfl⟩
  | _ => cases done

/-- A call that registers a target. -/
structure Call where
  target : Target
  phase : Phase

/-- The next step of a call. -/
def Call.step (call : Call) (roster : Roster) : Phase × Roster :=
  match call.phase with
  | .calling =>
      match roster.numbers.find? call.target.kind with
      | some number => (.found number, roster)
      | none => (.missed, roster)
  | .found number =>
      let (answer, roster) := roster.subscribeOn number call.target
      (.returned answer, roster)
  | .missed =>
      let (answer, roster) := roster.lookUpOrCreate call.target
      (.returned answer, roster)
  | .returned answer => (.returned answer, roster)

/-- The roster, the calls in the order in which they were made, and the targets of those that have
    answered, in the order of the answers. -/
structure State where
  roster : Roster
  calls : List Call
  order : List Target

/-- What happens next: a new call is made, or one of the calls takes a step. -/
inductive Move where
  | call (target : Target)
  | advance (index : Nat)
deriving DecidableEq

namespace State

/-- No call has been made. -/
def start (kinds : KindTable) : State := ⟨.ofKinds kinds, [], []⟩

/-- Let a call take a step. -/
def advance (state : State) (index : Nat) : State :=
  match state.calls[index]? with
  | none => state
  | some call =>
      let (phase, roster) := call.step state.roster
      { roster
        calls := state.calls.set index { call with phase }
        order :=
          if call.phase.remaining = 1 then state.order ++ [call.target] else state.order }

/-- Make a move. -/
def move (state : State) : Move → State
  | .call target => { state with calls := state.calls ++ [⟨target, .calling⟩] }
  | .advance index => state.advance index

/-- Make several moves one after another. -/
def run (state : State) (moves : List Move) : State := moves.foldl move state

end State

/-- What a call may have in hand. A watcher that it found is still the one of its kind. An answer
    names that watcher, which tracks the target, or says that the kind is not supported. -/
def Fits (roster : Roster) (call : Call) : Prop :=
  match call.phase with
  | .calling | .missed => True
  | .found number => roster.numbers.find? call.target.kind = some number
  | .returned (.ok number) =>
      roster.numbers.find? call.target.kind = some number ∧ roster.Tracks number call.target
  | .returned (.error fault) =>
      fault = .unsupportedKind call.target.kind ∧
        roster.kinds.contains call.target.kind = false

/-- What a call has in hand stays right while other calls go on. -/
theorem Fits.extend {before after : Roster} {call : Call} (fits : Fits before call)
    (extended : Roster.Extends before after) : Fits after call := by
  obtain ⟨target, phase⟩ := call
  rcases phase with _ | number | _ | answer
  · trivial
  · exact extended.find? _ _ fits
  · trivial
  · cases answer with
    | ok number => exact ⟨extended.find? _ _ fits.1, extended.tracks _ _ fits.2⟩
    | error fault => exact ⟨fits.1, extended.kinds ▸ fits.2⟩

/-- The last step of a call answers it as `lookUpOrCreate` does, whether it had found a watcher or
    not. -/
theorem step_of_last {call : Call} {roster : Roster} (fits : Fits roster call)
    (last : call.phase.remaining = 1) :
    call.step roster = (.returned (roster.lookUpOrCreate call.target).1,
      (roster.lookUpOrCreate call.target).2) := by
  obtain ⟨target, phase⟩ := call
  cases phase with
  | calling => cases last
  | found number => simp only [Call.step, Roster.subscribeOn_of_find? fits]
  | missed => rfl
  | returned answer => cases last

/-- Every other step leaves the roster as it is. -/
theorem roster_step_of_other {call : Call} (roster : Roster) (other : call.phase.remaining ≠ 1) :
    (call.step roster).2 = roster := by
  obtain ⟨target, phase⟩ := call
  cases phase with
  | calling =>
    simp only [Call.step]
    split <;> rfl
  | found number => exact absurd rfl other
  | missed => exact absurd rfl other
  | returned answer => rfl

/-- A step brings a call nearer to its answer. -/
theorem remaining_step (call : Call) (roster : Roster) :
    (call.step roster).1.remaining = call.phase.remaining - 1 := by
  obtain ⟨target, phase⟩ := call
  cases phase with
  | calling =>
    simp only [Call.step]
    split <;> rfl
  | found number => rfl
  | missed => rfl
  | returned answer => rfl

/-- What a call has in hand after its step is right. -/
theorem Fits.step {call : Call} {roster : Roster} (fits : Fits roster call)
    (sound : roster.Sound) :
    Fits (call.step roster).2 { call with phase := (call.step roster).1 } := by
  by_cases last : call.phase.remaining = 1
  · have answered := sound.answer_lookUpOrCreate call.target
    have extended := sound.extends_lookUpOrCreate call.target
    rw [step_of_last fits last]
    revert answered
    cases answer : roster.lookUpOrCreate call.target with
    | mk result after =>
      rw [answer] at extended
      cases result with
      | ok number => exact fun answered => answered
      | error fault => exact fun answered => ⟨answered.1, extended.kinds ▸ answered.2⟩
  · obtain ⟨target, phase⟩ := call
    cases phase with
    | calling =>
      simp only [Call.step]
      split
      · rename_i number found
        exact found
      · trivial
    | found number => exact absurd rfl last
    | missed => exact absurd rfl last
    | returned answer => exact fits

/-- A started watch has a call to answer for it: the one that created the watcher, and whose target
    the watcher tracked when the watch was started. -/
def Answered (calls : List Call) (start : WatchStart) : Prop :=
  start.watcher.kind = start.target.kind ∧ start.watcher.hasTarget start.target = true ∧
    ⟨start.target, .returned (.ok start.number)⟩ ∈ calls

/-- A call that has answered is not changed by a step of any call. -/
theorem mem_set_of_returned {calls : List Call} {index : Nat} {call returned : Call}
    {answer : Except WatchError Nat} (roster : Roster) (found : calls[index]? = some call)
    (member : returned ∈ calls) (answered : returned.phase = .returned answer) :
    returned ∈ calls.set index { call with phase := (call.step roster).1 } := by
  obtain ⟨place, present⟩ := List.mem_iff_getElem?.1 member
  by_cases same : index = place
  · subst same
    obtain rfl := Option.some.inj (found.symm.trans present)
    have unchanged : { call with phase := (call.step roster).1 } = call := by
      obtain ⟨target, phase⟩ := call
      obtain rfl : phase = .returned answer := answered
      rfl
    rw [unchanged]
    exact List.mem_set (List.getElem?_eq_some_iff.1 found).1 call
  · exact List.mem_of_getElem? ((List.getElem?_set_ne same).trans present)

/-- What holds between the steps of the calls. -/
structure Orderly (kinds : KindTable) (state : State) : Prop where
  sound : state.roster.Sound
  supported : state.roster.kinds = kinds
  fits : ∀ call ∈ state.calls, Fits state.roster call
  answered : ∀ start ∈ state.roster.starts, Answered state.calls start
  shows : state.roster.Shows ((Watchers.ofKinds kinds).registerAll state.order)

variable {kinds : KindTable} {state : State}

/-- Before the first call everything is in order. -/
theorem orderly_start (kinds : KindTable) : Orderly kinds (.start kinds) where
  sound := Roster.sound_ofKinds kinds
  supported := rfl
  fits := nofun
  answered := nofun
  shows := Roster.shows_ofKinds kinds

/-- A new call disturbs nothing. -/
theorem Orderly.call (orderly : Orderly kinds state) (target : Target) :
    Orderly kinds (state.move (.call target)) where
  sound := orderly.sound
  supported := orderly.supported
  fits call member := by
    rcases List.mem_append.1 member with earlier | new
    · exact orderly.fits call earlier
    · obtain rfl := List.mem_singleton.1 new
      trivial
  answered start started := by
    obtain ⟨own, tracked, member⟩ := orderly.answered start started
    exact ⟨own, tracked, List.mem_append_left _ member⟩
  shows := orderly.shows

/-- A step of a call, written out: the call has its next phase, and the last step of a call adds its
    target to the order. -/
theorem advance_of_found {index : Nat} {call : Call} (found : state.calls[index]? = some call) :
    state.advance index =
      { roster := (call.step state.roster).2
        calls := state.calls.set index { call with phase := (call.step state.roster).1 }
        order :=
          if call.phase.remaining = 1 then state.order ++ [call.target] else state.order } := by
  simp only [State.advance, found]

/-- After a step of one call, all calls have in hand what is right in a roster that the step
    extends. -/
theorem Orderly.fits_advance (orderly : Orderly kinds state) {index : Nat} {call : Call}
    (found : state.calls[index]? = some call)
    (extended : Roster.Extends state.roster (call.step state.roster).2) :
    ∀ present ∈ state.calls.set index { call with phase := (call.step state.roster).1 },
      Fits (call.step state.roster).2 present := by
  intro present member
  rcases List.mem_or_eq_of_mem_set member with earlier | rfl
  · exact (orderly.fits present earlier).extend extended
  · exact (orderly.fits call (List.mem_of_getElem? found)).step orderly.sound

/-- A call that takes a step keeps everything in order. -/
theorem Orderly.advance (orderly : Orderly kinds state) (index : Nat) :
    Orderly kinds (state.advance index) := by
  cases found : state.calls[index]? with
  | none =>
    have idle : state.advance index = state := by simp only [State.advance, found]
    rwa [idle]
  | some call =>
    have sound := orderly.sound
    have fits := orderly.fits call (List.mem_of_getElem? found)
    have still (start : WatchStart) (started : start ∈ state.roster.starts) :
        Answered (state.calls.set index { call with phase := (call.step state.roster).1 })
          start := by
      obtain ⟨own, tracked, member⟩ := orderly.answered start started
      exact ⟨own, tracked, mem_set_of_returned state.roster found member rfl⟩
    rw [advance_of_found found]
    by_cases last : call.phase.remaining = 1
    · have stepped := step_of_last fits last
      have fitsAll := orderly.fits_advance found
        (by rw [stepped]; exact sound.extends_lookUpOrCreate call.target)
      rw [stepped] at fitsAll still ⊢
      refine ⟨sound.lookUpOrCreate call.target, ?_, fitsAll, ?_, ?_⟩
      · exact (sound.extends_lookUpOrCreate call.target).kinds.trans orderly.supported
      · intro start started
        obtain same | ⟨new, appended, sameTarget, answer, own, tracked⟩ :=
          sound.starts_lookUpOrCreate call.target
        · exact still start (same ▸ started)
        · rcases List.mem_append.1 (appended ▸ started) with earlier | latest
          · exact still start earlier
          · obtain rfl := List.mem_singleton.1 latest
            refine ⟨sameTarget ▸ own, sameTarget ▸ tracked, ?_⟩
            rw [sameTarget, ← answer]
            exact List.mem_set (List.getElem?_eq_some_iff.1 found).1 _
      · rw [if_pos last, Watchers.registerAll, List.foldl_append]
        exact orderly.shows.lookUpOrCreate sound call.target
    · have same := roster_step_of_other state.roster last
      have fitsAll := orderly.fits_advance found (by rw [same]; exact Roster.extends_refl _)
      rw [same] at fitsAll ⊢
      rw [if_neg last]
      exact ⟨sound, orderly.supported, fitsAll, still, orderly.shows⟩

/-- Any moves keep everything in order. -/
theorem Orderly.run (orderly : Orderly kinds state) (moves : List Move) :
    Orderly kinds (state.run moves) := by
  induction moves generalizing state with
  | nil => exact orderly
  | cons move rest inductionHypothesis =>
    cases move with
    | call target => exact inductionHypothesis (orderly.call target)
    | advance index => exact inductionHypothesis (orderly.advance index)

/-- A call of an unsupported kind changes nothing with any of its steps. -/
theorem Orderly.roster_advance_of_unsupported (orderly : Orderly kinds state) {index : Nat}
    {call : Call} (found : state.calls[index]? = some call)
    (unsupported : kinds.contains call.target.kind = false) :
    (state.advance index).roster = state.roster := by
  rw [advance_of_found found]
  by_cases last : call.phase.remaining = 1
  · rw [step_of_last (orderly.fits call (List.mem_of_getElem? found)) last]
    exact orderly.sound.lookUpOrCreate_of_unsupported (orderly.supported ▸ unsupported)
  · exact roster_step_of_other state.roster last

/-- While moves are made, a call goes on as often as it is advanced. -/
theorem remaining_run {index : Nat} {call : Call} (found : state.calls[index]? = some call)
    (moves : List Move) :
    ∃ later, (state.run moves).calls[index]? = some later ∧ later.target = call.target ∧
      later.phase.remaining = call.phase.remaining - moves.count (.advance index) := by
  induction moves generalizing state call with
  | nil => exact ⟨call, found, rfl, rfl⟩
  | cons move rest inductionHypothesis =>
    have inside := (List.getElem?_eq_some_iff.1 found).1
    cases move with
    | call target =>
      have kept : (state.move (.call target)).calls[index]? = some call :=
        (List.getElem?_append_left inside).trans found
      obtain ⟨later, foundLater, sameTarget, remaining⟩ := inductionHypothesis kept
      exact ⟨later, foundLater, sameTarget, by simpa using remaining⟩
    | advance other =>
      by_cases same : other = index
      · subst same
        have stepped : (state.move (.advance other)).calls[other]? =
            some { call with phase := (call.step state.roster).1 } := by
          rw [State.move, advance_of_found found]
          exact List.getElem?_set_self inside
        obtain ⟨later, foundLater, sameTarget, remaining⟩ := inductionHypothesis stepped
        refine ⟨later, foundLater, sameTarget, ?_⟩
        rw [remaining, remaining_step, List.count_cons_self]
        omega
      · have kept : (state.move (.advance other)).calls[index]? = some call := by
          cases foundOther : state.calls[other]? with
          | none => simpa only [State.move, State.advance, foundOther] using found
          | some moved =>
            rw [State.move, advance_of_found foundOther]
            exact (List.getElem?_set_ne same).trans found
        obtain ⟨later, foundLater, sameTarget, remaining⟩ := inductionHypothesis kept
        have different : Move.advance other ≠ .advance index := fun equal =>
          same (Move.advance.inj equal)
        exact ⟨later, foundLater, sameTarget, by
          rwa [List.count_cons_of_ne different]⟩

/-- A call that has been advanced twice has answered. -/
theorem returned_of_advanced_twice {index : Nat} {call : Call}
    (found : state.calls[index]? = some call) {moves : List Move}
    (twice : 2 ≤ moves.count (.advance index)) :
    ∃ answer, (state.run moves).calls[index]? = some ⟨call.target, .returned answer⟩ := by
  obtain ⟨⟨target, phase⟩, foundLater, rfl, remaining⟩ := remaining_run found moves
  have done : phase.remaining = 0 := by
    have most := call.phase.remaining_le
    rw [remaining]
    omega
  obtain ⟨answer, rfl⟩ := Phase.returned_of_remaining done
  exact ⟨answer, foundLater⟩

/-- Whatever the calls do to one another, there is one watcher for each kind. -/
structure OneWatcherPerKind (kinds : KindTable) (state : State) : Prop where
  /-- No two of the watchers that were ever created have the same kind. -/
  once : (state.roster.created.map Watcher.kind).Nodup
  /-- A kind finds the created watcher of this kind, and none of another kind. -/
  own : ∀ kind number, state.roster.numbers.find? kind = some number ↔
    ∃ watcher, state.roster.created[number]? = some watcher ∧ watcher.kind = kind
  /-- The watch of each created watcher was started once. -/
  started : state.roster.starts.map WatchStart.number = List.range state.roster.created.length
  /-- It was started with the target of the call that created the watcher. -/
  startedWith : ∀ start ∈ state.roster.starts, Answered state.calls start
  /-- A call of a supported kind answers with the watcher of that kind, which tracks the target. -/
  accepted : ∀ target answer, ⟨target, .returned answer⟩ ∈ state.calls →
    kinds.contains target.kind = true →
      ∃ number, answer = .ok number ∧ state.roster.numbers.find? target.kind = some number ∧
        state.roster.Tracks number target
  /-- A call of any other kind is told that the kind is not supported. -/
  refused : ∀ target answer, ⟨target, .returned answer⟩ ∈ state.calls →
    kinds.contains target.kind = false → answer = .error (.unsupportedKind target.kind)
  /-- It changes nothing on its way. -/
  unchanged : ∀ index target phase, state.calls[index]? = some ⟨target, phase⟩ →
    kinds.contains target.kind = false → (state.advance index).roster = state.roster
  /-- The gauge counts the kinds that have a watcher. -/
  gauge : state.roster.gauge = state.roster.numbers.size
  /-- Two steps are enough for a call to answer, whatever happens in between. -/
  answers : ∀ index target phase, state.calls[index]? = some ⟨target, phase⟩ →
    ∀ moves : List Move, 2 ≤ moves.count (.advance index) →
      ∃ answer, (state.run moves).calls[index]? = some ⟨target, .returned answer⟩
  /-- The watchers are those of calls that are made one after another. -/
  sequential : state.roster.Shows ((Watchers.ofKinds kinds).registerAll state.order)

/-- For every interleaving of any number of calls there is one watcher for each kind. No call is
    told that the kinds of its target and of a watcher differ: that would be neither of the two
    answers. -/
theorem one_watcher_per_kind (kinds : KindTable) (moves : List Move) :
    OneWatcherPerKind kinds ((State.start kinds).run moves) := by
  have orderly := (orderly_start kinds).run moves
  have sound := orderly.sound
  refine
    { once := ?once, own := sound.find?_iff, started := sound.starts
      startedWith := orderly.answered, accepted := ?accepted, refused := ?refused
      unchanged := fun index target phase found unsupported =>
        orderly.roster_advance_of_unsupported found unsupported
      gauge := ?gauge
      answers := fun index target phase found later twice => returned_of_advanced_twice found twice
      sequential := orderly.shows }
  case once =>
    rw [← sound.keys]
    exact Table.distinct _
  case accepted =>
    intro target answer member supported
    have fits := orderly.fits _ member
    cases answer with
    | ok number => exact ⟨number, rfl, fits⟩
    | error fault =>
      have unsupported := fits.2
      rw [orderly.supported, supported] at unsupported
      cases unsupported
  case refused =>
    intro target answer member unsupported
    have fits := orderly.fits _ member
    cases answer with
    | ok number =>
      have supported := sound.contains_of_find? fits.1
      rw [orderly.supported, unsupported] at supported
      cases supported
    | error fault => exact congrArg Except.error fits.1
  case gauge =>
    rw [sound.gauge, Table.size, sound.entries, List.length_zipIdx, List.length_map]

/-- Two calls that both find no watcher, and then both go on: the second gets the watcher that the
    first created. -/
example (first second : App) :
    let kind : Kind := ⟨"any"⟩
    let kinds := KindTable.ofList [⟨kind, default, fun _ => none⟩]
    let state := (State.start kinds).run
      [.call (first.target kind), .call (second.target kind), .advance 0, .advance 1, .advance 0,
        .advance 1]
    state.roster.gauge = 1 ∧
      state.calls.map Call.phase = [.returned (.ok 0), .returned (.ok 0)] := by
  exact ⟨rfl, rfl⟩

end Registering

end RulePlane
