import RulePlane.Table
import RulePlane.Target

/-!
# Connection registries

Which clients hold which targets, and the connection through which each of them is reached. A
registry keeps two indexes of the same slots: from an application and a kind to the connections of
the holders, by which pushes fan out, and from a client to its targets in the order in which it took
them, by which a disconnect is undone without a search. An application and a kind are in the first
index only as long as there is something under them.

A connection is an opaque handle. Whether it is still alive is not the registry's to know: the
operations that depend on it take a test.
-/

namespace RulePlane

/-- Why a connection was not registered. -/
inductive RegistryError where
  /-- The connection of the client is no longer alive. -/
  | deadConnection (client : ClientId)
deriving DecidableEq, Repr

/-- The report on a refused registration. -/
def RegistryError.message : RegistryError → String
  | deadConnection client => "connection " ++ client.text ++ " has no live stream"

/-- The connections of those who hold something, by application, kind and client. -/
abbrev Holders (γ : Type) := Table App (Table Kind (Table ClientId γ))

/-- The slots that clients hold, indexed by target and by client. -/
structure Registry (γ : Type) where
  holders : Holders γ
  targets : Table ClientId (List Target)

namespace Registry

variable {γ : Type}

/-- The registry in which no client holds a target. -/
def empty : Registry γ := ⟨Table.empty, Table.empty⟩

instance : Inhabited (Registry γ) := ⟨empty⟩

/-- The clients that are listed under a target, with their connections. -/
def clients? (holders : Holders γ) (target : Target) : Option (Table ClientId γ) :=
  (holders.find? target.app).bind fun kinds => kinds.find? target.kind

/-- The clients that hold a target, with their connections; `none` if there are none. The
    connections may have died since they were registered. -/
def holders? (registry : Registry γ) (target : Target) : Option (Table ClientId γ) :=
  (clients? registry.holders target).filter fun clients => clients.size ≠ 0

/-- The connection in a slot of the index by target. -/
def slot? (holders : Holders γ) (target : Target) (client : ClientId) : Option γ :=
  (clients? holders target).bind fun clients => clients.find? client

/-- The connection of a slot. -/
def connection? (registry : Registry γ) (target : Target) (client : ClientId) : Option γ :=
  slot? registry.holders target client

/-- The targets that a client holds, in the order in which it took them. -/
def targetsOf (registry : Registry γ) (client : ClientId) : List Target :=
  (registry.targets.find? client).getD []

/-- The number of clients that hold a target. -/
def clientCount (registry : Registry γ) : Nat := registry.targets.size

/-- The connections of all slots. -/
def connections (registry : Registry γ) : List γ :=
  registry.holders.values.flatMap fun kinds => kinds.values.flatMap Table.values

/-- Put a connection into a slot. A connection that is already there stays as long as it is
    alive. -/
def seat (alive : γ → Bool) (clients : Table ClientId γ) (client : ClientId) (connection : γ) :
    Table ClientId γ :=
  match clients.find? client with
  | some seated => if alive seated then clients else clients.insert client connection
  | none => clients.insert client connection

/-- Register a connection as a holder of a target. A dead connection is refused, and taking a slot
    again changes nothing unless the connection in it has died. -/
def add (alive : γ → Bool) (registry : Registry γ) (target : Target) (client : ClientId)
    (connection : γ) : Except RegistryError (Registry γ) :=
  if alive connection then
    let kinds := (registry.holders.find? target.app).getD Table.empty
    let clients := (kinds.find? target.kind).getD Table.empty
    let held := registry.targetsOf client
    .ok {
      holders := registry.holders.insert target.app
        (kinds.insert target.kind (seat alive clients client connection))
      targets := registry.targets.insert client
        (if target ∈ held then held else held ++ [target]) }
  else .error (.deadConnection client)

/-- Take a client out of the holders of a target. A kind without clients and an application
    without kinds are not kept. -/
def vacate (holders : Holders γ) (target : Target) (client : ClientId) : Holders γ :=
  match holders.find? target.app with
  | none => holders
  | some kinds =>
      match kinds.find? target.kind with
      | none => holders
      | some clients => holders.nest target.app (kinds.nest target.kind (clients.erase client))

/-- Take one target from a client, and say whether the client held it. -/
def remove (registry : Registry γ) (target : Target) (client : ClientId) : Bool × Registry γ :=
  let held := (registry.connection? target client).isSome
  let targets :=
    match registry.targets.find? client with
    | some list =>
        let rest := list.filter (fun present => present ≠ target)
        if rest.isEmpty then registry.targets.erase client
        else registry.targets.insert client rest
    | none => registry.targets
  (held, { holders := vacate registry.holders target client, targets })

/-- Take the listed targets from a client, and list those that it held. -/
def vacateAll (client : ClientId) : List Target → Holders γ → List Target × Holders γ
  | [], holders => ([], holders)
  | target :: rest, holders =>
      let held := (slot? holders target client).isSome
      let (others, holders) := vacateAll client rest (vacate holders target client)
      (if held then target :: others else others, holders)

/-- Take all its targets from a client, and list them in the order in which it took them. -/
def removeClient (registry : Registry γ) (client : ClientId) : List Target × Registry γ :=
  let (held, holders) := vacateAll client (registry.targetsOf client) registry.holders
  (held, { holders, targets := registry.targets.erase client })

@[simp] theorem holders?_empty (target : Target) :
    (empty : Registry γ).holders? target = none := rfl

@[simp] theorem targetsOf_empty (client : ClientId) :
    (empty : Registry γ).targetsOf client = [] := rfl

/-- A dead connection is refused, whatever it is to hold. -/
theorem add_of_dead {alive : γ → Bool} {connection : γ} (dead : alive connection = false)
    (registry : Registry γ) (target : Target) (client : ClientId) :
    registry.add alive target client connection = .error (.deadConnection client) := by
  simp [add, dead]

/-- After a connection was put into a slot, it is there unless a living one was before, and all
    other slots are as they were. -/
theorem find?_seat (alive : γ → Bool) (clients : Table ClientId γ) (client : ClientId)
    (connection : γ) (tested : ClientId) :
    (seat alive clients client connection).find? tested =
      if client = tested ∧ (clients.find? client).any alive = false then some connection
      else clients.find? tested := by
  unfold seat
  cases seated : clients.find? client with
  | none => simp [Table.find?_insert]
  | some present => by_cases living : alive present = true <;> simp [living, Table.find?_insert]

/-- A slot that is read off a kind and its clients, of whom there may be none. -/
theorem slot?_eq_find? (holders : Holders γ) (target : Target) (client : ClientId) :
    slot? holders target client =
      ((((holders.find? target.app).getD Table.empty).find? target.kind).getD
        Table.empty).find? client := by
  unfold slot? clients?
  cases holders.find? target.app with
  | none => rfl
  | some kinds =>
    rw [Option.bind_some, Option.getD_some]
    cases kinds.find? target.kind <;> rfl

/-- Adding a living connection fills its slot unless a living one is in it, and changes no other
    slot. -/
theorem connection?_add {alive : γ → Bool} {registry added : Registry γ} {target : Target}
    {client : ClientId} {connection : γ}
    (accepted : registry.add alive target client connection = .ok added) (tested : Target)
    (other : ClientId) :
    added.connection? tested other =
      if target = tested ∧ client = other ∧
          (registry.connection? target client).any alive = false then some connection
      else registry.connection? tested other := by
  unfold add at accepted
  split at accepted
  · cases accepted
    simp only [connection?, slot?_eq_find?, Table.find?_insert]
    by_cases sameApp : target.app = tested.app
    · rw [if_pos sameApp, Option.getD_some, Table.find?_insert, sameApp]
      by_cases sameKind : target.kind = tested.kind
      · have same : target = tested := Target.ext sameApp sameKind
        rw [if_pos sameKind, Option.getD_some, find?_seat, sameKind]
        simp only [same, true_and]
      · rw [if_neg sameKind, if_neg fun filled => sameKind (congrArg Target.kind filled.1)]
    · rw [if_neg sameApp, if_neg fun filled => sameApp (congrArg Target.app filled.1)]
  · cases accepted

/-- Adding a connection puts its target behind those that the client holds, unless it is among
    them, and changes nothing for other clients. -/
theorem targetsOf_add {alive : γ → Bool} {registry added : Registry γ} {target : Target}
    {client : ClientId} {connection : γ}
    (accepted : registry.add alive target client connection = .ok added) (other : ClientId) :
    added.targetsOf other =
      if client = other then
        if target ∈ registry.targetsOf client then registry.targetsOf client
        else registry.targetsOf client ++ [target]
      else registry.targetsOf other := by
  unfold add at accepted
  split at accepted
  · cases accepted
    by_cases same : client = other
    · subst same
      simp [targetsOf]
    · simp [targetsOf, Table.find?_insert, same]
  · cases accepted

/-- Vacating a slot empties it and leaves all others as they were. -/
theorem slot?_vacate (holders : Holders γ) (target : Target) (client : ClientId)
    (tested : Target) (other : ClientId) :
    slot? (vacate holders target client) tested other =
      if target = tested ∧ client = other then none else slot? holders tested other := by
  have untouched (vacant : slot? holders target client = none) :
      slot? holders tested other =
        if target = tested ∧ client = other then none else slot? holders tested other := by
    split
    · rename_i own
      rw [← own.1, ← own.2, vacant]
    · rfl
  unfold vacate
  split
  · rename_i absent
    exact untouched (by rw [slot?, clients?, absent]; rfl)
  · rename_i kinds found
    split
    · rename_i absent
      exact untouched (by rw [slot?, clients?, found, Option.bind_some, absent]; rfl)
    · rename_i clients listed
      simp only [slot?_eq_find?, Table.getD_find?_nest]
      by_cases sameApp : target.app = tested.app
      · rw [if_pos sameApp, Table.getD_find?_nest, ← sameApp, found, Option.getD_some]
        by_cases sameKind : target.kind = tested.kind
        · have same : target = tested := Target.ext sameApp sameKind
          rw [if_pos sameKind, ← sameKind, listed, Option.getD_some, Table.find?_erase]
          simp only [same, true_and]
        · rw [if_neg sameKind, if_neg fun own => sameKind (congrArg Target.kind own.1)]
      · rw [if_neg sameApp, if_neg fun own => sameApp (congrArg Target.app own.1)]

/-- Removing a client from a target empties their slot and no other. -/
theorem connection?_remove (registry : Registry γ) (target : Target) (client : ClientId)
    (tested : Target) (other : ClientId) :
    (registry.remove target client).2.connection? tested other =
      if target = tested ∧ client = other then none else registry.connection? tested other :=
  slot?_vacate registry.holders target client tested other

/-- Removing a client from a target takes the target from its list and changes no other list. -/
theorem targetsOf_remove (registry : Registry γ) (target : Target) (client other : ClientId) :
    (registry.remove target client).2.targetsOf other =
      if client = other then (registry.targetsOf client).filter (fun present => present ≠ target)
      else registry.targetsOf other := by
  unfold remove targetsOf
  cases held : registry.targets.find? client with
  | none =>
    by_cases same : client = other
    · subst same
      simp [held]
    · simp [same]
  | some list =>
    by_cases same : client = other
    · subst same
      by_cases emptied : (list.filter fun present => present ≠ target).isEmpty = true
      · have nothing := List.isEmpty_iff.1 emptied
        simp only [nothing]
        simpa using nothing
      · simp only [emptied]
        simp
    · by_cases emptied : (list.filter fun present => present ≠ target).isEmpty = true
      · simp only [emptied]
        simp [Table.find?_erase, same]
      · simp only [emptied]
        simp [Table.find?_insert, same]

/-- Vacating the slots of a client at several targets empties these and no others. -/
theorem slot?_vacateAll (client : ClientId) (targets : List Target) (holders : Holders γ)
    (tested : Target) (other : ClientId) :
    slot? (vacateAll client targets holders).2 tested other =
      if tested ∈ targets ∧ client = other then none else slot? holders tested other := by
  induction targets generalizing holders with
  | nil => simp [vacateAll]
  | cons target rest inductionHypothesis =>
    simp only [vacateAll, inductionHypothesis, slot?_vacate]
    by_cases own : client = other
    · by_cases first : target = tested
      · simp [own, first]
      · simp [own, first, Ne.symm first]
    · simp [own]

/-- Removing a client from all its targets empties its slots at the listed targets, and no slot of
    another client. -/
theorem connection?_removeClient (registry : Registry γ) (client : ClientId) (tested : Target)
    (other : ClientId) :
    (registry.removeClient client).2.connection? tested other =
      if tested ∈ registry.targetsOf client ∧ client = other then none
      else registry.connection? tested other :=
  slot?_vacateAll client (registry.targetsOf client) registry.holders tested other

/-- A removed client holds nothing, and the lists of all others are as they were. -/
theorem targetsOf_removeClient (registry : Registry γ) (client other : ClientId) :
    (registry.removeClient client).2.targetsOf other =
      if client = other then [] else registry.targetsOf other := by
  by_cases same : client = other <;> simp [removeClient, targetsOf, Table.find?_erase, same]

end Registry

end RulePlane
