import RulePlane.Proofs.RegistrySlots
import RulePlane.Proofs.Sending

/-!
# Discovery streams beside each other

What the clients of different discovery streams can do to each other. Each stream is named after its
node and a number that is given out once, as long as the numbers do not wrap around; so no two
streams have one name (`clientOf_injective`), and each holds its slots under a name of its own.
`WellNumbered` collects what is true of the streams whatever happens to any of them.

All that happens to a stream names its client: so a step of one stream leaves the slots and the
watched names of all others alone (`SameFor`).
-/

namespace RulePlane

/-- What stands behind the last sign of a text is found in one way only. -/
theorem eq_of_append_cons_eq {sign : Char} {first second firstEnd secondEnd : List Char}
    (same : first ++ sign :: firstEnd = second ++ sign :: secondEnd)
    (firstFree : sign ∉ firstEnd) (secondFree : sign ∉ secondEnd) : firstEnd = secondEnd := by
  rcases List.append_eq_append_iff.1 same with ⟨between, -, rest⟩ | ⟨between, -, rest⟩
  · cases between with
    | nil => exact (List.cons.inj rest).2
    | cons character between =>
      have split := (List.cons.inj rest).2
      exact absurd (split ▸ List.mem_append_right between List.mem_cons_self) firstFree
  · cases between with
    | nil => exact (List.cons.inj rest).2.symm
    | cons character between =>
      have split := (List.cons.inj rest).2
      exact absurd (split ▸ List.mem_append_right between List.mem_cons_self) secondFree

/-- Connections of different numbers have different names, whatever their nodes are called. -/
theorem Discovery.clientOf_injective {first second : String} {firstNumber secondNumber : UInt64}
    (same : clientOf first firstNumber = clientOf second secondNumber) :
    firstNumber = secondNumber := by
  have dash : "-".toList = ['-'] := rfl
  have texts := congrArg (fun client => client.text.toList) same
  simp only [clientOf, String.toList_append, Nat.toString_eq_repr, Nat.toList_repr, dash,
    List.append_assoc, List.cons_append, List.nil_append] at texts
  have free (number : Nat) : '-' ∉ Nat.toDigits 10 number := fun member =>
    absurd (Nat.isDigit_of_mem_toDigits (by decide) (by decide) member) (by decide)
  have digits := eq_of_append_cons_eq texts (free _) (free _)
  have numbers := congrArg (fun digits => Nat.ofDigitChars 10 digits 0) digits
  simp only [Nat.ofDigitChars_ten_toDigits] at numbers
  exact UInt64.toNat_inj.1 numbers

namespace Plane

/-! ## Names and slots -/

/-- The name of a discovery stream, if it has one. -/
def discoveryName? (plane : Plane) (stream : StreamId) : Option ClientId :=
  (plane.discovery.find? stream).bind DiscoveryStream.client

/-- The names that the client of a discovery stream watches. -/
def watchedNames (plane : Plane) (stream : StreamId) : List String :=
  ((plane.discovery.find? stream).map fun found =>
    found.watchList.namesOf Discovery.typeUrl).getD []

/-- Replace the slots of the discovery clients. -/
def withSlots (plane : Plane) (registry : Registry StreamId) : Plane :=
  { plane with subscribers := plane.subscribers.withRegistry .discovery registry }

/-- A stream that has a name acts under it. -/
theorem discoveryClient_of_named {plane : Plane} {stream : StreamId} {client : ClientId}
    (named : plane.discoveryName? stream = some client) :
    plane.discoveryClient stream = client :=
  congrArg (·.getD ⟨""⟩) named

/-- Sending does not rename discovery streams. -/
theorem Keeps.discoveryName? {before after : Plane} (keeps : Keeps before after)
    (stream : StreamId) : after.discoveryName? stream = before.discoveryName? stream := by
  have split (plane : Plane) : plane.discoveryName? stream =
      ((plane.discovery.find? stream).map DiscoveryStream.identity).bind Prod.fst := by
    unfold Plane.discoveryName?
    cases plane.discovery.find? stream <;> rfl
  rw [split, split, keeps.discovery]

/-- Sending does not change what is watched. -/
theorem Keeps.watchedNames {before after : Plane} (keeps : Keeps before after)
    (stream : StreamId) : after.watchedNames stream = before.watchedNames stream := by
  have split (plane : Plane) : plane.watchedNames stream =
      (((plane.discovery.find? stream).map DiscoveryStream.identity).map fun identity =>
        identity.2 Discovery.typeUrl).getD [] := by
    unfold Plane.watchedNames
    cases plane.discovery.find? stream <;> rfl
  rw [split, split, keeps.discovery]

/-- What comes of a name that is left: if it can be read, its target is taken from the client. -/
theorem unsubscribeDiscovery_cases (plane : Plane) (stream : StreamId) (name : String) :
    (Discovery.targetOf? name = none ∧ Keeps plane (plane.unsubscribeDiscovery stream name)) ∨
      ∃ target, Discovery.targetOf? name = some target ∧
        Keeps (plane.withSlots
            (plane.subscribers.discovery.remove target (plane.discoveryClient stream)).2)
          (plane.unsubscribeDiscovery stream name) := by
  unfold unsubscribeDiscovery Discovery.targetOf?
  cases ResourceName.parse? name with
  | none => exact Or.inl ⟨rfl, frame_keeps.refl plane⟩
  | some parsed =>
    exact Or.inr ⟨parsed.target, rfl,
      .of_slots rfl rfl (Subscribers.keepsSlots_release _ parsed.target) rfl rfl⟩

/-! ## What is true of all streams -/

/-- The watchers are well kept, every name has a number that was given out, no two streams have one
    name, the stream in a slot has the name of the slot, and the targets that are listed for a
    client are those of its slots. -/
structure WellNumbered (plane : Plane) : Prop where
  wellKept : plane.subscribers.watchers.WellKept
  numbered : ∀ stream client, plane.discoveryName? stream = some client →
    ∃ node number, client = Discovery.clientOf node number ∧ number.toNat ≤ plane.opened.toNat
  alone : ∀ stream other client, plane.discoveryName? stream = some client →
    plane.discoveryName? other = some client → other = stream
  seated : plane.subscribers.discovery.SeatedBy plane.discoveryName?
  listed : plane.subscribers.discovery.Listed

/-- Before the first client all this is true. -/
theorem wellNumbered_start (settings : PushSettings) (kinds : KindTable) (dispatcher : Dispatcher)
    (clock : UInt64) : (start settings kinds dispatcher clock).WellNumbered :=
  ⟨Watchers.wellKept_ofKinds kinds, nofun, nofun, Registry.seatedBy_empty _, Registry.listed_empty⟩

/-- Sending keeps it true. -/
theorem Keeps.wellNumbered {before after : Plane} (keeps : Keeps before after)
    (wellNumbered : before.WellNumbered) : after.WellNumbered := by
  have names := funext keeps.discoveryName?
  refine ⟨keeps.subscribers.wellKept wellNumbered.wellKept, ?_, ?_, ?_, ?_⟩
  · rw [names, keeps.opened]
    exact wellNumbered.numbered
  · rw [names]
    exact wellNumbered.alone
  · rw [names, keeps.subscribers.discovery]
    exact wellNumbered.seated
  · rw [keeps.subscribers.discovery]
    exact wellNumbered.listed

/-- A name that is not used holds no slot. -/
theorem WellNumbered.connection?_of_unused {plane : Plane} (wellNumbered : plane.WellNumbered)
    {client : ClientId} (unused : ∀ stream, plane.discoveryName? stream ≠ some client)
    (target : Target) : plane.subscribers.discovery.connection? target client = none := by
  cases slot : plane.subscribers.discovery.connection? target client with
  | none => rfl
  | some stream => exact absurd (wellNumbered.seated target client stream slot) (unused stream)

/-- The next number makes a name that is not used, as long as the numbers do not wrap around. -/
theorem WellNumbered.unused {plane : Plane} (wellNumbered : plane.WellNumbered)
    (few : plane.opened.toNat + 1 < UInt64.size) (node : String) (stream : StreamId) :
    plane.discoveryName? stream ≠ some (Discovery.clientOf node (plane.opened + 1)) := by
  intro named
  obtain ⟨other, number, same, bound⟩ := wellNumbered.numbered stream _ named
  rw [← Discovery.clientOf_injective same, UInt64.toNat_add] at bound
  rw [UInt64.toNat_one, Nat.mod_eq_of_lt few] at bound
  omega

/-! ## What is the same for a stream -/

/-- Nothing changes for a stream: it has the same name, holds the same slots and watches the same
    names, the same kinds are supported, and it is not revived. -/
structure SameFor (stream : StreamId) (before after : Plane) : Prop where
  name : after.discoveryName? stream = before.discoveryName? stream
  slots : ∀ client, before.discoveryName? stream = some client → ∀ target,
    after.subscribers.discovery.connection? target client =
      before.subscribers.discovery.connection? target client
  names : after.watchedNames stream = before.watchedNames stream
  kinds : after.subscribers.watchers.kinds = before.subscribers.watchers.kinds
  valid : before.discoveryName? stream ≠ none → after.discoveryValid stream = true →
    before.discoveryValid stream = true

/-- If nothing changes twice, nothing changes. -/
theorem SameFor.trans {stream : StreamId} {before between after : Plane}
    (earlier : SameFor stream before between) (later : SameFor stream between after) :
    SameFor stream before after where
  name := later.name.trans earlier.name
  slots client named target :=
    (later.slots client (earlier.name.trans named) target).trans
      (earlier.slots client named target)
  names := later.names.trans earlier.names
  kinds := later.kinds.trans earlier.kinds
  valid named living := by
    refine earlier.valid named (later.valid ?_ living)
    rwa [earlier.name]

/-- Sending changes nothing for any stream. -/
theorem Keeps.sameFor {before after : Plane} (keeps : Keeps before after) (stream : StreamId) :
    SameFor stream before after where
  name := keeps.discoveryName? stream
  slots _ _ _ := by rw [keeps.subscribers.discovery]
  names := keeps.watchedNames stream
  kinds := keeps.subscribers.kinds
  valid _ := keeps.discoveryValid stream

/-- Replacing the slots of others changes nothing for a stream. -/
theorem sameFor_withSlots {plane : Plane} {stream : StreamId} {registry : Registry StreamId}
    (slots : ∀ client, plane.discoveryName? stream = some client → ∀ target,
      registry.connection? target client =
        plane.subscribers.discovery.connection? target client) :
    SameFor stream plane (plane.withSlots registry) :=
  ⟨rfl, slots, rfl, rfl, fun _ valid => valid⟩

/-! ## The steps of a stream -/

section Steps

variable {plane : Plane} (wellNumbered : plane.WellNumbered)

include wellNumbered

/-- Replacing the slots keeps everything true, if those in the new ones have their names. -/
theorem WellNumbered.withSlots {registry : Registry StreamId}
    (seated : registry.SeatedBy plane.discoveryName?) (listed : registry.Listed) :
    (plane.withSlots registry).WellNumbered :=
  ⟨wellNumbered.wellKept, wellNumbered.numbered, wellNumbered.alone, seated, listed⟩

/-- Two streams have different names. -/
theorem WellNumbered.foreign {stream other : StreamId} (different : other ≠ stream)
    {client name : ClientId} (named : plane.discoveryName? stream = some client)
    (otherNamed : plane.discoveryName? other = some name) : name ≠ client := by
  rintro rfl
  exact different (wellNumbered.alone stream other name named otherNamed)

/-- Leaving the target of a name keeps everything true. -/
theorem WellNumbered.unsubscribeDiscovery (stream : StreamId) (name : String) :
    (plane.unsubscribeDiscovery stream name).WellNumbered := by
  rcases unsubscribeDiscovery_cases plane stream name with ⟨-, keeps⟩ | ⟨target, -, keeps⟩
  · exact keeps.wellNumbered wellNumbered
  · refine keeps.wellNumbered (wellNumbered.withSlots ?_ (wellNumbered.listed.remove target _))
    exact wellNumbered.seated.fewer fun _ _ _ => Registry.connection?_of_remove

/-- What one stream leaves changes nothing for another. -/
theorem sameFor_unsubscribeDiscovery {stream other : StreamId} (different : other ≠ stream)
    {foreign : ClientId} (named : plane.discoveryName? other = some foreign) (name : String) :
    SameFor stream plane (plane.unsubscribeDiscovery other name) := by
  rcases unsubscribeDiscovery_cases plane other name with ⟨-, keeps⟩ | ⟨target, -, keeps⟩
  · exact keeps.sameFor stream
  · rw [discoveryClient_of_named named] at keeps
    refine (sameFor_withSlots fun client own tested => ?_).trans (keeps.sameFor stream)
    have apart := wellNumbered.foreign different own named
    rw [Registry.connection?_remove, if_neg (fun emptied => apart emptied.2)]

end Steps

/-- Checking a request against the watch list of a stream changes nothing but that list. -/
theorem takeDiscovery_frame (plane : Plane) (stream : StreamId) (request : Discovery.Request) :
    let after := (plane.takeDiscovery stream request).2
    after.subscribers = plane.subscribers ∧ after.opened = plane.opened ∧
      (∀ other, after.discoveryName? other = plane.discoveryName? other) ∧
        (∀ other, after.discoveryValid other = plane.discoveryValid other) ∧
          ∀ other, other ≠ stream → after.watchedNames other = plane.watchedNames other := by
  unfold takeDiscovery
  cases present : plane.discovery.find? stream with
  | none => exact ⟨rfl, rfl, fun _ => rfl, fun _ => rfl, fun _ _ => rfl⟩
  | some found =>
    refine ⟨rfl, rfl, fun other => ?_, fun other => ?_, fun other different => ?_⟩
    · by_cases same : stream = other
      · simp [discoveryName?, ← same, present]
      · simp [discoveryName?, Table.find?_insert, same]
    · by_cases same : stream = other
      · simp [discoveryValid, ← same, present]
      · simp [discoveryValid, Table.find?_insert, same]
    · simp [watchedNames, Table.find?_insert, Ne.symm different]

/-- Checking a request against the watch list of a stream gives what that list gives. -/
theorem takeDiscovery_of_present {plane : Plane} {stream : StreamId} {found : DiscoveryStream}
    (present : plane.discovery.find? stream = some found) (request : Discovery.Request) :
    (plane.takeDiscovery stream request).1 = (found.watchList.take request).1 ∧
      (plane.takeDiscovery stream request).2.watchedNames stream =
        (found.watchList.take request).2.namesOf Discovery.typeUrl := by
  simp [takeDiscovery, present, watchedNames]

/-- Checking a request keeps everything true. -/
theorem WellNumbered.takeDiscovery {plane : Plane} (wellNumbered : plane.WellNumbered)
    (stream : StreamId) (request : Discovery.Request) :
    (plane.takeDiscovery stream request).2.WellNumbered := by
  obtain ⟨subscribers, opened, names, -⟩ := takeDiscovery_frame plane stream request
  have names := funext names
  refine ⟨?_, ?_, ?_, ?_, ?_⟩
  · rw [subscribers]
    exact wellNumbered.wellKept
  · rw [names, opened]
    exact wellNumbered.numbered
  · rw [names]
    exact wellNumbered.alone
  · rw [names, subscribers]
    exact wellNumbered.seated
  · rw [subscribers]
    exact wellNumbered.listed

/-- Checking the request of another stream changes nothing for a stream. -/
theorem sameFor_takeDiscovery (plane : Plane) {stream other : StreamId}
    (different : other ≠ stream) (request : Discovery.Request) :
    SameFor stream plane (plane.takeDiscovery other request).2 := by
  obtain ⟨subscribers, -, names, valid, watched⟩ := takeDiscovery_frame plane other request
  refine ⟨names stream, fun client _ target => ?_, watched stream different.symm, ?_,
    fun _ living => (valid stream).symm.trans living⟩
  · rw [subscribers]
  · rw [subscribers]

/-- What the end of a stream does: it is stopped, and all targets are taken from its client. -/
theorem finishDiscovery_cases (plane : Plane) (stream : StreamId) :
    (plane.discoveryName? stream = none ∧ Keeps plane (plane.finishDiscovery stream)) ∨
      ∃ client, plane.discoveryName? stream = some client ∧
        Keeps (plane.withSlots (plane.subscribers.discovery.removeClient client).2)
          (plane.finishDiscovery stream) := by
  have stopped := keeps_stopDiscovery plane stream
  have counted (ended : Plane) : Keeps ended
      { ended with discoveryCounts := ended.discoveryCounts.streamClosed } :=
    .of_same rfl rfl rfl rfl rfl
  unfold finishDiscovery
  dsimp only
  cases named : plane.discoveryName? stream with
  | none =>
    have unnamed := (stopped.discoveryName? stream).trans named
    rw [discoveryName?] at unnamed
    rw [unnamed]
    exact Or.inl ⟨rfl, frame_keeps.trans stopped (counted _)⟩
  | some client =>
    have still := (stopped.discoveryName? stream).trans named
    rw [discoveryName?] at still
    rw [still]
    refine Or.inr ⟨client, rfl, ?_⟩
    have emptied : Keeps (plane.withSlots (plane.subscribers.discovery.removeClient client).2)
        ((plane.stopDiscovery stream).withSlots
          (plane.subscribers.discovery.removeClient client).2) :=
      ⟨rfl, rfl, Subscribers.keepsSlots_refl _, stopped.transport, stopped.discovery,
        stopped.transportValid, stopped.discoveryValid⟩
    have released : Keeps
        ((plane.stopDiscovery stream).withSlots
          (plane.subscribers.discovery.removeClient client).2)
        { plane.stopDiscovery stream with
          subscribers := plane.subscribers.disconnect .discovery client } :=
      .of_slots rfl rfl (Subscribers.keepsSlots_releaseAll _ _) rfl rfl
    exact frame_keeps.trans emptied (frame_keeps.trans released (counted _))

/-- The end of a stream keeps everything true. -/
theorem WellNumbered.finishDiscovery {plane : Plane} (wellNumbered : plane.WellNumbered)
    (stream : StreamId) : (plane.finishDiscovery stream).WellNumbered := by
  rcases plane.finishDiscovery_cases stream with ⟨-, keeps⟩ | ⟨client, -, keeps⟩
  · exact keeps.wellNumbered wellNumbered
  · refine keeps.wellNumbered (wellNumbered.withSlots ?_ (wellNumbered.listed.removeClient client))
    exact wellNumbered.seated.fewer fun _ _ _ => Registry.connection?_of_removeClient

/-- The end of another stream changes nothing for a stream. -/
theorem sameFor_finishDiscovery {plane : Plane} (wellNumbered : plane.WellNumbered)
    {stream other : StreamId} (different : other ≠ stream) :
    SameFor stream plane (plane.finishDiscovery other) := by
  rcases plane.finishDiscovery_cases other with ⟨-, keeps⟩ | ⟨foreign, named, keeps⟩
  · exact keeps.sameFor stream
  · refine (sameFor_withSlots fun client own target => ?_).trans (keeps.sameFor stream)
    have apart := wellNumbered.foreign different own named
    rw [Registry.connection?_removeClient, if_neg (fun emptied => apart emptied.2)]

/-! ## Numbers -/

/-- Leaving a name gives out no number. -/
theorem opened_unsubscribeDiscovery (plane : Plane) (stream : StreamId) (name : String) :
    (plane.unsubscribeDiscovery stream name).opened = plane.opened := by
  rcases unsubscribeDiscovery_cases plane stream name with ⟨-, keeps⟩ | ⟨_, -, keeps⟩ <;>
    exact keeps.opened

/-- The end of a stream gives out no number. -/
theorem opened_finishDiscovery (plane : Plane) (stream : StreamId) :
    (plane.finishDiscovery stream).opened = plane.opened := by
  rcases plane.finishDiscovery_cases stream with ⟨-, keeps⟩ | ⟨_, -, keeps⟩ <;> exact keeps.opened

/-! ## New streams -/

/-- Open a discovery stream. -/
def openDiscovery (stream : StreamId) (capacity : Option Nat) (plane : Plane) : Plane :=
  { plane with discovery := plane.discovery.insert stream (.fresh capacity) }

/-- A stream that is opened under a fresh number has no name and watches nothing. -/
theorem openDiscovery_frame {plane : Plane} {stream : StreamId}
    (absent : plane.discovery.find? stream = none) (capacity : Option Nat) :
    let after := plane.openDiscovery stream capacity
    (∀ other, after.discoveryName? other = plane.discoveryName? other) ∧
      ∀ other, after.watchedNames other = plane.watchedNames other := by
  refine ⟨fun other => ?_, fun other => ?_⟩
  · by_cases same : stream = other
    · simp [discoveryName?, openDiscovery, ← same, absent, DiscoveryStream.fresh]
    · simp [discoveryName?, openDiscovery, Table.find?_insert, same]
  · by_cases same : stream = other
    · simp [watchedNames, openDiscovery, ← same, absent, DiscoveryStream.fresh]
      rfl
    · simp [watchedNames, openDiscovery, Table.find?_insert, same]

/-- A stream may be opened under a fresh number. -/
theorem WellNumbered.openDiscovery {plane : Plane} (wellNumbered : plane.WellNumbered)
    {stream : StreamId} (absent : plane.discovery.find? stream = none) (capacity : Option Nat) :
    (plane.openDiscovery stream capacity).WellNumbered := by
  have names := funext (openDiscovery_frame absent capacity).1
  refine ⟨wellNumbered.wellKept, ?_, ?_, ?_, wellNumbered.listed⟩ <;> rw [names]
  · exact wellNumbered.numbered
  · exact wellNumbered.alone
  · exact wellNumbered.seated

/-- A stream that is opened under a fresh number changes nothing for any stream. -/
theorem sameFor_openDiscovery {plane : Plane} {opened : StreamId}
    (absent : plane.discovery.find? opened = none) (capacity : Option Nat) (stream : StreamId) :
    SameFor stream plane (plane.openDiscovery opened capacity) := by
  obtain ⟨names, watched⟩ := openDiscovery_frame absent capacity
  refine ⟨names stream, fun _ _ _ => rfl, watched stream, rfl, fun named => ?_⟩
  have different : opened ≠ stream := by
    rintro rfl
    simp [discoveryName?, absent] at named
  simp [discoveryValid, openDiscovery, Table.find?_insert, different]

/-- The first request of an open stream gives it a name. -/
theorem discoveryName?_nameDiscovery {plane : Plane} {stream : StreamId}
    (present : (plane.discovery.find? stream).isSome = true) (request : Discovery.Request)
    (tested : StreamId) :
    (plane.nameDiscovery stream request).discoveryName? tested =
      if stream = tested then some (Discovery.clientOf request.nodeName (plane.opened + 1))
      else plane.discoveryName? tested := by
  obtain ⟨found, present⟩ := Option.isSome_iff_exists.1 present
  by_cases same : stream = tested
  · simp [discoveryName?, nameDiscovery, modifyDiscovery, Table.find?_modify, ← same, present]
  · simp [discoveryName?, nameDiscovery, modifyDiscovery, Table.find?_modify, same]

/-- A stream that has no name may be named, as long as the numbers do not wrap around. -/
theorem WellNumbered.nameDiscovery {plane : Plane} (wellNumbered : plane.WellNumbered)
    {stream : StreamId} (present : (plane.discovery.find? stream).isSome = true)
    (unnamed : plane.discoveryName? stream = none)
    (few : plane.opened.toNat + 1 < UInt64.size) (request : Discovery.Request) :
    (plane.nameDiscovery stream request).WellNumbered := by
  have unused := wellNumbered.unused few request.nodeName
  have next : (plane.opened + 1).toNat = plane.opened.toNat + 1 := by
    rw [UInt64.toNat_add, UInt64.toNat_one, Nat.mod_eq_of_lt few]
  have names := discoveryName?_nameDiscovery present request
  refine ⟨wellNumbered.wellKept, fun tested client named => ?_,
    fun first second client firstNamed secondNamed => ?_, wellNumbered.seated.renamed ?_,
    wellNumbered.listed⟩
  · change ∃ (node : String) (number : UInt64),
      client = Discovery.clientOf node number ∧ number.toNat ≤ (plane.opened + 1).toNat
    rw [names] at named
    split at named
    · exact ⟨_, _, (Option.some.inj named).symm, Nat.le_refl _⟩
    · obtain ⟨node, number, same, bound⟩ := wellNumbered.numbered tested client named
      exact ⟨node, number, same, by omega⟩
  · rw [names] at firstNamed secondNamed
    split at firstNamed <;> split at secondNamed
    · rename_i first second
      exact second.symm.trans first
    · rw [← Option.some.inj firstNamed] at secondNamed
      exact absurd secondNamed (unused _)
    · rw [← Option.some.inj secondNamed] at firstNamed
      exact absurd firstNamed (unused _)
    · exact wellNumbered.alone first second client firstNamed secondNamed
  · intro tested client named
    rw [names, if_neg]
    · exact named
    · rintro rfl
      rw [unnamed] at named
      cases named

/-- Naming a stream changes nothing for another. -/
theorem sameFor_nameDiscovery {plane : Plane} {stream other : StreamId}
    (present : (plane.discovery.find? other).isSome = true) (different : other ≠ stream)
    (request : Discovery.Request) : SameFor stream plane (plane.nameDiscovery other request) := by
  refine ⟨?_, fun _ _ _ => rfl, ?_, rfl, fun _ => ?_⟩
  · rw [discoveryName?_nameDiscovery present, if_neg different]
  · simp [watchedNames, nameDiscovery, modifyDiscovery, Table.find?_modify, different]
  · simp [discoveryValid, nameDiscovery, modifyDiscovery, Table.find?_modify, different]

/-- A name does not change what a stream watches. -/
theorem watchedNames_nameDiscovery (plane : Plane) (stream : StreamId)
    (request : Discovery.Request) :
    (plane.nameDiscovery stream request).watchedNames stream = plane.watchedNames stream := by
  simp [watchedNames, nameDiscovery, modifyDiscovery, Table.find?_modify, Option.map_map,
    Function.comp_def]

/-! ## Changes of another stream -/

/-- Changing another discovery stream leaves a stream as it was. -/
theorem find?_modifyDiscovery_of_ne (plane : Plane) {stream other : StreamId}
    (different : other ≠ stream) (change : DiscoveryStream → DiscoveryStream) :
    (plane.modifyDiscovery other change).discovery.find? stream =
      plane.discovery.find? stream := by
  simp [modifyDiscovery, Table.find?_modify, different]

/-- Settling a send on another stream leaves a stream as it was. -/
theorem find?_settleDiscovery_of_ne (plane : Plane) {stream other : StreamId}
    (different : other ≠ stream) (typeUrl nonce previous : String) (outcome : SendOutcome) :
    (plane.settleDiscovery other typeUrl nonce previous outcome).discovery.find? stream =
      plane.discovery.find? stream := by
  unfold settleDiscovery stopDiscovery
  dsimp only
  rw [find?_modifyDiscovery_of_ne _ different]
  split
  · exact find?_modifyDiscovery_of_ne plane different _
  · rfl

end Plane

end RulePlane
