import RulePlane.Registry

/-!
# The slots of a registry

What stays true of a registry whatever is added and removed. Whoever is found in a slot has the name
of the slot, if connections are added under their own names only (`SeatedBy`); the targets that are
listed for a client are those of its slots (`Listed`); and nothing is kept in the index by target
that nobody holds (`Pruned`), nor in the index by client for one that holds nothing (`Occupied`).
Names are given from outside: the registry knows nothing of the connections in it.
-/

namespace RulePlane.Registry

variable {γ : Type} {registry added : Registry γ}

/-- The holders of a target are the clients that are listed under it, if there are any. -/
theorem holders?_eq_some_iff {target : Target} {clients : Table ClientId γ} :
    registry.holders? target = some clients ↔
      clients? registry.holders target = some clients ∧ clients.size ≠ 0 := by
  rw [holders?, Option.filter_eq_some_iff, decide_eq_true_eq]

/-- The connections that are listed for a target are those of its slots. -/
theorem mem_holders_iff {target : Target} {clients : Table ClientId γ}
    (holders : registry.holders? target = some clients) (connection : ClientId × γ) :
    connection ∈ clients.entries ↔
      registry.connection? target connection.1 = some connection.2 := by
  rw [connection?, slot?, (holders?_eq_some_iff.1 holders).1, Option.bind_some]
  exact clients.mem_entries_iff connection.1 connection.2

/-- A target without holders has no slots. -/
theorem connection?_of_vacant {target : Target} (vacant : registry.holders? target = none)
    (client : ClientId) : registry.connection? target client = none := by
  rw [connection?, slot?]
  cases listed : clients? registry.holders target with
  | none => rfl
  | some clients =>
    rw [Option.bind_some]
    by_cases deserted : clients.size = 0
    · rw [Table.eq_empty_of_size_eq_zero deserted, Table.find?_empty]
    · rw [holders?_eq_some_iff.2 ⟨listed, deserted⟩] at vacant
      cases vacant

/-- Adding a connection fills its slot, whoever is in it then, and empties none. -/
theorem isSome_connection?_add {alive : γ → Bool} {target : Target} {client : ClientId}
    {connection : γ} (accepted : registry.add alive target client connection = .ok added)
    (tested : Target) (other : ClientId) :
    (added.connection? tested other).isSome = true ↔
      (target = tested ∧ client = other) ∨
        (registry.connection? tested other).isSome = true := by
  rw [connection?_add accepted]
  split
  · rename_i seated
    simp [seated.1, seated.2.1]
  · rename_i kept
    constructor
    · exact Or.inr
    · rintro (⟨rfl, rfl⟩ | held)
      · cases seated : registry.connection? target client with
        | none => exact absurd ⟨rfl, rfl, by rw [seated]; rfl⟩ kept
        | some present => rfl
      · exact held

/-- A connection that is added is in its slot, unless another living one is there. -/
theorem connection?_add_self {alive : γ → Bool} {target : Target} {client : ClientId}
    {connection : γ} (accepted : registry.add alive target client connection = .ok added)
    (vacant : ∀ other, registry.connection? target client = some other →
      other = connection ∨ alive other = false) :
    added.connection? target client = some connection := by
  rw [connection?_add accepted]
  split
  · rfl
  · rename_i taken
    cases seated : registry.connection? target client with
    | none => simp [seated] at taken
    | some other =>
      rcases vacant other seated with rfl | dead
      · rfl
      · simp [seated, dead] at taken

/-! ## Names -/

section Names

variable {name? : γ → Option ClientId}

/-- Whoever is in a slot has the name of the slot. -/
def SeatedBy (registry : Registry γ) (name? : γ → Option ClientId) : Prop :=
  ∀ target client connection, registry.connection? target client = some connection →
    name? connection = some client

/-- In an empty registry nobody is in a slot. -/
theorem seatedBy_empty (name? : γ → Option ClientId) : (empty : Registry γ).SeatedBy name? := nofun

/-- Names may be given to those who have none. -/
theorem SeatedBy.renamed (seatedBy : registry.SeatedBy name?) {other? : γ → Option ClientId}
    (kept : ∀ connection client, name? connection = some client →
      other? connection = some client) : registry.SeatedBy other? :=
  fun target client connection slot => kept _ _ (seatedBy target client connection slot)

/-- A connection may be added under its own name. -/
theorem SeatedBy.add (seatedBy : registry.SeatedBy name?) {alive : γ → Bool} {target : Target}
    {client : ClientId} {connection : γ} (named : name? connection = some client)
    (accepted : registry.add alive target client connection = .ok added) :
    added.SeatedBy name? := by
  intro tested other present slot
  rw [connection?_add accepted] at slot
  split at slot
  · rename_i filled
    obtain rfl := Option.some.inj slot
    rw [← filled.2.1]
    exact named
  · exact seatedBy tested other present slot

/-- Slots may be emptied. -/
theorem SeatedBy.fewer (seatedBy : registry.SeatedBy name?) {rest : Registry γ}
    (fewer : ∀ target client connection, rest.connection? target client = some connection →
      registry.connection? target client = some connection) : rest.SeatedBy name? :=
  fun target client connection slot =>
    seatedBy target client connection (fewer target client connection slot)

/-- What is found after a target was taken from a client was there before. -/
theorem connection?_of_remove {target tested : Target} {client other : ClientId} {connection : γ}
    (slot : (registry.remove target client).2.connection? tested other = some connection) :
    registry.connection? tested other = some connection := by
  rw [connection?_remove] at slot
  split at slot
  · cases slot
  · exact slot

/-- What is found after all targets were taken from a client was there before. -/
theorem connection?_of_removeClient {client : ClientId} {tested : Target} {other : ClientId}
    {connection : γ}
    (slot : (registry.removeClient client).2.connection? tested other = some connection) :
    registry.connection? tested other = some connection := by
  rw [connection?_removeClient] at slot
  split at slot
  · cases slot
  · exact slot

end Names

/-! ## Lists of targets -/

/-- The targets that are listed for a client are those of its slots. -/
def Listed (registry : Registry γ) : Prop :=
  ∀ client target, target ∈ registry.targetsOf client ↔
    (registry.connection? target client).isSome = true

/-- In an empty registry nothing is listed. -/
theorem listed_empty : (empty : Registry γ).Listed := by
  intro client target
  constructor <;> rintro ⟨⟩

/-- Adding a connection lists its target. -/
theorem Listed.add (listed : registry.Listed) {alive : γ → Bool} {target : Target}
    {client : ClientId} {connection : γ}
    (accepted : registry.add alive target client connection = .ok added) : added.Listed := by
  intro other tested
  rw [targetsOf_add accepted, isSome_connection?_add accepted, ← listed]
  by_cases own : client = other
  · subst own
    by_cases before : target ∈ registry.targetsOf client
    · simp only [before, if_true, and_true]
      constructor
      · exact Or.inr
      · rintro (rfl | member)
        · exact before
        · exact member
    · simp [before, or_comm, eq_comm]
  · simp [own]

/-- A target that is taken from a client is not listed for it any more. -/
theorem Listed.remove (listed : registry.Listed) (target : Target) (client : ClientId) :
    (registry.remove target client).2.Listed := by
  intro other tested
  rw [targetsOf_remove, connection?_remove]
  by_cases own : client = other
  · subst own
    simp only [if_true, List.mem_filter, decide_eq_true_eq, listed client, and_true]
    by_cases same : target = tested
    · simp [same]
    · simp [same, Ne.symm same]
  · simp [own, listed other]

/-- A client that all targets are taken from has none listed. -/
theorem Listed.removeClient (listed : registry.Listed) (client : ClientId) :
    (registry.removeClient client).2.Listed := by
  intro other tested
  rw [targetsOf_removeClient, connection?_removeClient]
  by_cases own : client = other
  · subst own
    simp only [if_true, List.not_mem_nil, and_true, false_iff]
    split
    · simp
    · rename_i unlisted
      rwa [listed client] at unlisted
  · simp [own, listed other]

/-- A client that all targets are taken from is in no slot any more. -/
theorem Listed.connection?_removeClient (listed : registry.Listed) (client : ClientId)
    (target : Target) (other : ClientId) :
    (registry.removeClient client).2.connection? target other =
      if client = other then none else registry.connection? target other := by
  rw [Registry.connection?_removeClient]
  by_cases own : client = other
  · subst own
    rw [if_pos rfl]
    split
    · rfl
    · rename_i unlisted
      rw [listed] at unlisted
      simpa using unlisted
  · rw [if_neg fun emptied => own emptied.2, if_neg own]

/-! ## Targets without holders -/

/-- A target has holders exactly if somebody is found in one of its slots. -/
theorem isSome_holders?_iff (registry : Registry γ) (target : Target) :
    (registry.holders? target).isSome = true ↔
      ∃ client, (registry.connection? target client).isSome = true := by
  constructor
  · intro held
    obtain ⟨clients, found⟩ := Option.isSome_iff_exists.1 held
    obtain ⟨connection, member⟩ :=
      List.exists_mem_of_length_pos (Nat.pos_of_ne_zero (holders?_eq_some_iff.1 found).2)
    exact ⟨connection.1, by rw [(mem_holders_iff found connection).1 member]; rfl⟩
  · rintro ⟨client, taken⟩
    cases found : registry.holders? target with
    | none =>
      rw [connection?_of_vacant found] at taken
      cases taken
    | some clients => rfl

/-- No application is kept without kinds, and no kind without clients. -/
structure Pruned (holders : Holders γ) : Prop where
  kinds : holders.Filled
  clients : ∀ app kinds, holders.find? app = some kinds → kinds.Filled

/-- An index in which nothing is listed is pruned. -/
theorem pruned_empty : Pruned (empty : Registry γ).holders := ⟨nofun, nofun⟩

/-- The kinds of an application all have clients, also if the application is not listed. -/
theorem Pruned.getD_filled {holders : Holders γ} (pruned : Pruned holders) (app : App) :
    ((holders.find? app).getD Table.empty).Filled := by
  cases found : holders.find? app with
  | none => exact Table.filled_empty
  | some kinds => exact pruned.clients app kinds found

/-- Whoever takes a seat, somebody sits there then. -/
theorem size_seat_ne_zero (alive : γ → Bool) (clients : Table ClientId γ) (client : ClientId)
    (connection : γ) : (seat alive clients client connection).size ≠ 0 := by
  unfold seat
  split
  · rename_i seated found
    split
    · exact Table.size_ne_zero_of_find? found
    · exact Table.size_insert_ne_zero clients client connection
  · exact Table.size_insert_ne_zero clients client connection

/-- Adding a connection keeps an index pruned: the added client holds its target. -/
theorem Pruned.add (pruned : Pruned registry.holders) {alive : γ → Bool} {target : Target}
    {client : ClientId} {connection : γ}
    (accepted : registry.add alive target client connection = .ok added) :
    Pruned added.holders := by
  unfold Registry.add at accepted
  split at accepted
  · cases accepted
    refine ⟨pruned.kinds.insert target.app (Table.size_insert_ne_zero _ _ _), ?_⟩
    intro app kinds found
    rw [Table.find?_insert] at found
    split at found
    · cases found
      exact (pruned.getD_filled target.app).insert target.kind (size_seat_ne_zero _ _ _ _)
    · exact pruned.clients app kinds found
  · cases accepted

/-- Emptying a slot keeps an index pruned: what loses its last holder is taken out. -/
theorem Pruned.vacate {holders : Holders γ} (pruned : Pruned holders) (target : Target)
    (client : ClientId) : Pruned (vacate holders target client) := by
  unfold Registry.vacate
  split
  · exact pruned
  · rename_i kinds present
    split
    · exact pruned
    · refine ⟨pruned.kinds.nest target.app _, ?_⟩
      intro app inner found
      rw [Table.find?_nest] at found
      split at found
      · split at found
        · cases found
        · cases found
          exact (pruned.clients target.app kinds present).nest target.kind _
      · exact pruned.clients app inner found

/-- Emptying several slots of a client keeps an index pruned. -/
theorem Pruned.vacateAll {holders : Holders γ} (pruned : Pruned holders)
    (client : ClientId) (targets : List Target) :
    Pruned (Registry.vacateAll client targets holders).2 := by
  induction targets generalizing holders with
  | nil => exact pruned
  | cons target rest inductionHypothesis =>
    exact inductionHypothesis (pruned.vacate target client)

/-- A client loses those of the listed targets that it held. -/
theorem mem_vacateAll_iff (client : ClientId) (targets : List Target)
    (holders : Holders γ) (tested : Target) :
    tested ∈ (vacateAll client targets holders).1 ↔
      tested ∈ targets ∧ (slot? holders tested client).isSome = true := by
  induction targets generalizing holders with
  | nil => simp [vacateAll]
  | cons target rest inductionHypothesis =>
    have others := inductionHypothesis (vacate holders target client)
    rw [slot?_vacate] at others
    by_cases first : target = tested
    · subst first
      simp only [vacateAll, List.mem_cons, true_or, true_and]
      split
      · rename_i held
        simp [held]
      · rename_i absent
        rw [others]
        simp [absent]
    · have apart : ¬(target = tested ∧ client = client) := fun both => first both.1
      rw [if_neg apart] at others
      simp only [vacateAll, List.mem_cons, Ne.symm first, false_or]
      split
      · simpa [Ne.symm first] using others
      · exact others

/-- A client that holds all listed targets loses just these, in their order. -/
theorem vacateAll_of_held {client : ClientId} {targets : List Target}
    {holders : Holders γ} (distinct : targets.Nodup)
    (held : ∀ target ∈ targets, (slot? holders target client).isSome = true) :
    (vacateAll client targets holders).1 = targets := by
  induction targets generalizing holders with
  | nil => rfl
  | cons target rest inductionHypothesis =>
    obtain ⟨absent, distinct⟩ := List.nodup_cons.1 distinct
    have others : (vacateAll client rest (vacate holders target client)).1 = rest := by
      refine inductionHypothesis distinct fun other member => ?_
      have different : ¬(target = other ∧ client = client) := by
        rintro ⟨rfl, -⟩
        exact absent member
      rw [slot?_vacate, if_neg different]
      exact held other (List.mem_cons_of_mem target member)
    simp only [vacateAll, held target List.mem_cons_self, others, if_true]

/-! ## Clients without targets -/

/-- Only clients that hold something are kept in the index by client. -/
def Occupied (registry : Registry γ) : Prop :=
  ∀ client targets, registry.targets.find? client = some targets → targets ≠ []

/-- In an empty registry no client is kept. -/
theorem occupied_empty : (empty : Registry γ).Occupied := nofun

/-- A client that is added holds something. -/
theorem Occupied.add (occupied : registry.Occupied) {alive : γ → Bool} {target : Target}
    {client : ClientId} {connection : γ}
    (accepted : registry.add alive target client connection = .ok added) : added.Occupied := by
  unfold Registry.add at accepted
  split at accepted
  · cases accepted
    intro other list found
    rw [Table.find?_insert] at found
    split at found
    · cases found
      split
      · rename_i member
        exact List.ne_nil_of_mem member
      · simp
    · exact occupied other list found
  · cases accepted

/-- A client that loses its last target is taken out. -/
theorem Occupied.remove (occupied : registry.Occupied) (target : Target) (client : ClientId) :
    (registry.remove target client).2.Occupied := by
  intro other list found
  unfold Registry.remove at found
  dsimp only at found
  split at found
  · split at found
    · rw [Table.find?_erase] at found
      split at found
      · cases found
      · exact occupied other list found
    · rename_i rest
      rw [Table.find?_insert] at found
      split at found
      · cases found
        exact fun nothing => rest (List.isEmpty_iff.2 nothing)
      · exact occupied other list found
  · exact occupied other list found

/-- A client that all targets are taken from is taken out. -/
theorem Occupied.removeClient (occupied : registry.Occupied) (client : ClientId) :
    (registry.removeClient client).2.Occupied := by
  intro other list found
  rw [Registry.removeClient, Table.find?_erase] at found
  split at found
  · cases found
  · exact occupied other list found

/-- The kept clients are those with a target on their list. -/
theorem Occupied.mem_keys_iff (occupied : registry.Occupied) (client : ClientId) :
    client ∈ registry.targets.keys ↔ ∃ target, target ∈ registry.targetsOf client := by
  rw [Table.mem_keys_iff, targetsOf]
  cases found : registry.targets.find? client with
  | none => simp
  | some list => simpa using List.exists_mem_of_ne_nil list (occupied client list found)

end RulePlane.Registry
