import Mathlib.Data.List.Induction
import RulePlane.Proofs.RegistrySlots
import RulePlane.Proofs.Standing

/-!
# Registries by their history

Whatever is added and removed, the two indexes of a registry describe one relation: the finite map
from targets and clients to connections that the same moves lead to (`contents`). The list of a
client is read off the moves as well: its targets stand in the order of their first addition since
they were last taken from the client (`since?`), which looks at the moves only.

A move is one call; the calls of different threads take turns. Which connections are alive is given
anew with each addition, so the laws hold whenever and in whatever order connections die. The order
in which the clients of a target are listed is left open.
-/

namespace RulePlane.Registry

variable {γ : Type}

/-- A call that changes a registry. An addition comes with the connections that are alive then. -/
inductive Move (γ : Type) where
  | add (alive : γ → Bool) (target : Target) (client : ClientId) (connection : γ)
  | remove (target : Target) (client : ClientId)
  | removeClient (client : ClientId)

/-- The registry after a call. A refused connection leaves it as it is. -/
def advance (registry : Registry γ) : Move γ → Registry γ
  | .add alive target client connection =>
      match registry.add alive target client connection with
      | .ok added => added
      | .error _ => registry
  | .remove target client => (registry.remove target client).2
  | .removeClient client => (registry.removeClient client).2

/-- The registry that calls lead to from an empty one. -/
def run (moves : List (Move γ)) : Registry γ := moves.foldl advance empty

/-! ## Readings of the moves -/

/-- What a move does to a finite map from targets and clients to connections. An addition fills its
    slot unless the connection is dead or a living one is in the slot. -/
def Move.change : Move γ → (Target → ClientId → Option γ) → Target → ClientId → Option γ
  | add alive target client connection, slots, tested, other =>
      if (target = tested ∧ client = other ∧ (slots target client).any alive = false) ∧
          alive connection = true then some connection
      else slots tested other
  | remove target client, slots, tested, other =>
      if target = tested ∧ client = other then none else slots tested other
  | removeClient client, slots, tested, other =>
      if client = other then none else slots tested other

/-- The finite map that the moves lead to. -/
def contents (moves : List (Move γ)) : Target → ClientId → Option γ :=
  moves.foldl (fun slots move => move.change slots) fun _ _ => none

/-- Whether a move is an addition of a target to a client that is not refused. -/
def Move.fills (target : Target) (client : ClientId) : Move γ → Bool
  | add alive added owner connection =>
      decide (added = target ∧ owner = client) && alive connection
  | remove _ _ | removeClient _ => false

/-- Whether a move takes a target from a client. -/
def Move.empties (target : Target) (client : ClientId) : Move γ → Bool
  | add _ _ _ _ => false
  | remove removed owner => decide (removed = target ∧ owner = client)
  | removeClient owner => decide (owner = client)

/-- The place of the first addition of a target to a client since the target was last taken from it:
    of the first one that no taking stands behind. -/
def since? (target : Target) (client : ClientId) : List (Move γ) → Option Nat
  | [] => none
  | move :: later =>
      if later.any (Move.empties target client) then (since? target client later).map (· + 1)
      else if move.fills target client then some 0
      else (since? target client later).map (· + 1)

/-- Of two targets of a client, the first was added before the second, each counted since it was
    last taken from the client. -/
def AddedBefore (moves : List (Move γ)) (client : ClientId) (first second : Target) : Prop :=
  ∃ earlier later, since? first client moves = some earlier ∧
    since? second client moves = some later ∧ earlier < later

theorem contents_concat (moves : List (Move γ)) (move : Move γ) :
    contents (moves ++ [move]) = move.change (contents moves) := by
  simp [contents]

theorem run_concat (moves : List (Move γ)) (move : Move γ) :
    run (moves ++ [move]) = (run moves).advance move := by
  simp [run]

/-- A target stands with a client from the moves that fill its slot to those that empty it. -/
theorem since?_eq_standing? (target : Target) (client : ClientId) (moves : List (Move γ)) :
    since? target client moves =
      standing? (Move.fills target client) (Move.empties target client) moves := by
  induction moves with
  | nil => rfl
  | cons first later inductionHypothesis =>
    have apart : (first.fills target client && !first.empties target client) =
        first.fills target client := by
      cases first <;> simp [Move.fills, Move.empties]
    rw [since?, standing?, inductionHypothesis, apart]

/-- The order of a client's targets is the order in which they came to stand. -/
theorem addedBefore_iff {moves : List (Move γ)} {client : ClientId} {first second : Target} :
    AddedBefore moves client first second ↔ Precedes (fun target =>
      standing? (Move.fills target client) (Move.empties target client) moves) first second := by
  simp only [AddedBefore, Precedes, since?_eq_standing?]

/-- A move behind all others takes the place away, or gives one if there is none. -/
theorem since?_concat (target : Target) (client : ClientId) (moves : List (Move γ))
    (move : Move γ) :
    since? target client (moves ++ [move]) =
      if move.empties target client then none
      else (since? target client moves).or
        (if move.fills target client then some moves.length else none) := by
  simp only [since?_eq_standing?, standing?_concat]

/-- A place is that of a move. -/
theorem since?_lt {target : Target} {client : ClientId} {moves : List (Move γ)} {place : Nat}
    (found : since? target client moves = some place) : place < moves.length := by
  rw [since?_eq_standing?] at found
  exact standing?_lt found

/-- A slot has a place exactly if it is filled. -/
theorem isSome_since?_iff (moves : List (Move γ)) (target : Target) (client : ClientId) :
    (since? target client moves).isSome = true ↔
      (contents moves target client).isSome = true := by
  induction moves using List.reverseRecOn with
  | nil => simp [since?, contents]
  | append_singleton earlier move inductionHypothesis =>
    rw [contents_concat, since?_concat]
    cases move with
    | add alive added owner connection =>
      by_cases own : (added = target ∧ owner = client) ∧ alive connection = true
      · obtain ⟨⟨rfl, rfl⟩, living⟩ := own
        have filled : ((Move.add alive added owner connection).change (contents earlier)
            added owner).isSome = true := by
          cases held : contents earlier added owner with
          | none => simp [Move.change, held, living]
          | some present => by_cases dead : alive present = false <;>
              simp [Move.change, held, living, dead]
        simp [Move.empties, Move.fills, living, filled]
      · have unfilled : (Move.add alive added owner connection).fills target client = false := by
          simpa [Move.fills] using own
        have unchanged : (Move.add alive added owner connection).change (contents earlier)
            target client = contents earlier target client :=
          if_neg fun filled => own ⟨⟨filled.1.1, filled.1.2.1⟩, filled.2⟩
        simpa [Move.empties, unfilled, unchanged] using inductionHypothesis
    | remove removed owner =>
      by_cases own : removed = target ∧ owner = client
      · simp [Move.change, Move.empties, own]
      · simpa [Move.change, Move.empties, Move.fills, own] using inductionHypothesis
    | removeClient owner =>
      by_cases own : owner = client
      · simp [Move.change, Move.empties, own]
      · simpa [Move.change, Move.empties, Move.fills, own] using inductionHypothesis

/-! ## What every move keeps -/

variable {registry : Registry γ} {moves : List (Move γ)}

/-- Both indexes of a registry are what the moves lead to, and nothing is kept for nobody. -/
structure Describes (registry : Registry γ) (moves : List (Move γ)) : Prop where
  slots : ∀ target client, registry.connection? target client = contents moves target client
  pruned : Pruned registry.holders
  listed : registry.Listed
  occupied : registry.Occupied
  ordered : ∀ client, (registry.targetsOf client).Pairwise (AddedBefore moves client)

/-- An empty registry is what no moves lead to. -/
theorem describes_empty : (empty : Registry γ).Describes [] where
  slots := fun _ _ => rfl
  pruned := pruned_empty
  listed := listed_empty
  occupied := occupied_empty
  ordered := fun _ => List.Pairwise.nil

/-- A target that a client holds has a place in the moves. -/
theorem Describes.place (describes : registry.Describes moves) {target : Target}
    {client : ClientId} (member : target ∈ registry.targetsOf client) :
    ∃ place, since? target client moves = some place := by
  rw [describes.listed, describes.slots, ← isSome_since?_iff] at member
  exact Option.isSome_iff_exists.1 member

/-- A move that does not take a target from its client leaves the place of the target as it is. -/
theorem since?_kept {target : Target} {client : ClientId} {move : Move γ} {place : Nat}
    (kept : move.empties target client = false)
    (found : since? target client moves = some place) :
    since? target client (moves ++ [move]) = some place := by
  rw [since?_eq_standing?] at found ⊢
  exact standing?_kept kept found

/-- A move that takes neither of two targets from their client leaves their order as it is. -/
theorem AddedBefore.concat {client : ClientId} {first second : Target} {move : Move γ}
    (before : AddedBefore moves client first second)
    (keepsFirst : move.empties first client = false)
    (keepsSecond : move.empties second client = false) :
    AddedBefore (moves ++ [move]) client first second := by
  rw [addedBefore_iff] at before ⊢
  exact before.concat keepsFirst keepsSecond

/-- A refused connection changes neither the registry nor what the moves lead to. -/
theorem Describes.refuse (describes : registry.Describes moves) {alive : γ → Bool}
    {connection : γ} (dead : alive connection = false) (target : Target) (client : ClientId) :
    registry.Describes (moves ++ [.add alive target client connection]) where
  slots := by
    intro tested other
    rw [contents_concat, Move.change, if_neg (by simp [dead])]
    exact describes.slots tested other
  pruned := describes.pruned
  listed := describes.listed
  occupied := describes.occupied
  ordered := fun other => (describes.ordered other).imp fun before => before.concat rfl rfl

/-- An addition fills its slot, and its target stands last if it is new. -/
theorem Describes.add (describes : registry.Describes moves) {alive : γ → Bool} {target : Target}
    {client : ClientId} {connection : γ} (living : alive connection = true) {added : Registry γ}
    (accepted : registry.add alive target client connection = .ok added) :
    added.Describes (moves ++ [.add alive target client connection]) where
  slots := by
    intro tested other
    rw [connection?_add accepted, contents_concat, Move.change]
    simp only [living, and_true, describes.slots]
  pruned := describes.pruned.add accepted
  listed := describes.listed.add accepted
  occupied := describes.occupied.add accepted
  ordered := by
    intro other
    have kept : (registry.targetsOf other).Pairwise
        (AddedBefore (moves ++ [.add alive target client connection]) other) :=
      (describes.ordered other).imp fun before => before.concat rfl rfl
    rw [targetsOf_add accepted]
    split
    · rename_i own
      subst own
      split
      · exact kept
      · rename_i absent
        have noPlace : since? target client moves = none := by
          rw [describes.listed, describes.slots, ← isSome_since?_iff] at absent
          simpa using absent
        refine List.pairwise_append.2 ⟨kept, List.pairwise_singleton _ target, ?_⟩
        intro first member second last
        obtain rfl := List.mem_singleton.1 last
        obtain ⟨place, found⟩ := describes.place member
        refine ⟨place, moves.length, since?_kept rfl found, ?_, since?_lt found⟩
        simp [since?_concat, noPlace, Move.empties, Move.fills, living]
    · exact kept

/-- Taking a target from a client empties one slot and closes one gap. -/
theorem Describes.remove (describes : registry.Describes moves) (target : Target)
    (client : ClientId) :
    (registry.remove target client).2.Describes (moves ++ [.remove target client]) where
  slots := by
    intro tested other
    rw [connection?_remove, contents_concat, Move.change, describes.slots]
  pruned := describes.pruned.vacate target client
  listed := describes.listed.remove target client
  occupied := describes.occupied.remove target client
  ordered := by
    intro other
    rw [targetsOf_remove]
    split
    · rename_i own
      subst own
      refine ((describes.ordered client).filter _).imp_of_mem fun first second before => ?_
      have kept {tested : Target} (member : tested ∈
          (registry.targetsOf client).filter fun present => present ≠ target) :
          (Move.remove target client : Move γ).empties tested client = false := by
        have different : tested ≠ target := by simpa using (List.mem_filter.1 member).2
        simp [Move.empties, different.symm]
      exact before.concat (kept first) (kept second)
    · rename_i apart
      have untouched (tested : Target) :
          (Move.remove target client : Move γ).empties tested other = false := by
        simp [Move.empties, apart]
      exact (describes.ordered other).imp fun before =>
        before.concat (untouched _) (untouched _)

/-- Taking all targets from a client empties its slots and no others. -/
theorem Describes.removeClient (describes : registry.Describes moves) (client : ClientId) :
    (registry.removeClient client).2.Describes (moves ++ [.removeClient client]) where
  slots := by
    intro tested other
    rw [connection?_removeClient, contents_concat, Move.change]
    by_cases own : client = other
    · subst own
      rw [if_pos rfl]
      split
      · rfl
      · rename_i unlisted
        rw [describes.listed] at unlisted
        simpa using unlisted
    · simp only [own, and_false, if_false, describes.slots]
  pruned := describes.pruned.vacateAll client _
  listed := describes.listed.removeClient client
  occupied := describes.occupied.removeClient client
  ordered := by
    intro other
    rw [targetsOf_removeClient]
    split
    · exact List.Pairwise.nil
    · rename_i apart
      have untouched (tested : Target) :
          (Move.removeClient client : Move γ).empties tested other = false := by
        simp [Move.empties, apart]
      exact (describes.ordered other).imp fun before =>
        before.concat (untouched _) (untouched _)

/-- Every move keeps a registry what the moves lead to. -/
theorem Describes.advance (describes : registry.Describes moves) (move : Move γ) :
    (registry.advance move).Describes (moves ++ [move]) := by
  cases move with
  | add alive target client connection =>
    rw [Registry.advance]
    split
    · rename_i added accepted
      refine describes.add ?_ accepted
      by_contra dead
      rw [add_of_dead (by simpa using dead)] at accepted
      cases accepted
    · rename_i error refused
      refine describes.refuse ?_ target client
      by_contra living
      rw [Registry.add, if_pos (by simpa using living)] at refused
      cases refused
  | remove target client => exact describes.remove target client
  | removeClient client => exact describes.removeClient client

/-- Whatever moves are made, the registry is what they lead to. -/
theorem describes_run (moves : List (Move γ)) : (run moves).Describes moves := by
  induction moves using List.reverseRecOn with
  | nil => exact describes_empty
  | append_singleton earlier move inductionHypothesis =>
    rw [run_concat]
    exact inductionHypothesis.advance move

/-! ## What a registry says -/

/-- Whether a client is among the holders that are listed for a target. -/
def ListedHolder (registry : Registry γ) (target : Target) (client : ClientId) : Prop :=
  ∃ clients, registry.holders? target = some clients ∧ client ∈ clients.keys

/-- Read by target and read by client, a registry says what the moves lead to. -/
structure Presents (registry : Registry γ) (moves : List (Move γ)) : Prop where
  connection : ∀ target client, registry.connection? target client = contents moves target client
  holders : ∀ target clients, registry.holders? target = some clients →
    clients.entries ≠ [] ∧ ∀ client connection, (client, connection) ∈ clients.entries ↔
      contents moves target client = some connection
  vacant : ∀ target, registry.holders? target = none ↔
    ∀ client, contents moves target client = none
  sameRelation : ∀ target client,
    registry.ListedHolder target client ↔ target ∈ registry.targetsOf client
  once : ∀ client, (registry.targetsOf client).Nodup
  ordered : ∀ client, (registry.targetsOf client).Pairwise (AddedBefore moves client)
  counted : ∃ clients : List ClientId, clients.Nodup ∧
    (∀ client, client ∈ clients ↔ ∃ target, (contents moves target client).isSome = true) ∧
    registry.clientCount = clients.length

/-- What the next call answers and what it changes. -/
structure Answers (registry : Registry γ) : Prop where
  refused : ∀ (alive : γ → Bool) target client connection, alive connection = false →
    registry.add alive target client connection = .error (.deadConnection client)
  added : ∀ (alive : γ → Bool) target client connection, alive connection = true →
    ∃ added, registry.add alive target client connection = .ok added ∧
      added.connection? target client =
        (match registry.connection? target client with
        | some seated => if alive seated then some seated else some connection
        | none => some connection) ∧
      (∀ tested other, ¬(target = tested ∧ client = other) →
        added.connection? tested other = registry.connection? tested other) ∧
      ∀ other, client ≠ other → added.targetsOf other = registry.targetsOf other
  removed : ∀ target client,
    (registry.remove target client).1 = (registry.connection? target client).isSome ∧
    (∀ tested other, (registry.remove target client).2.connection? tested other =
      if target = tested ∧ client = other then none else registry.connection? tested other) ∧
    ∀ other, (registry.remove target client).2.targetsOf other =
      if client = other then (registry.targetsOf client).filter (fun present => present ≠ target)
      else registry.targetsOf other
  removedAll : ∀ client,
    (registry.removeClient client).1 = registry.targetsOf client ∧
    (registry.removeClient client).2.targetsOf client = [] ∧
    (∀ target, (registry.removeClient client).2.connection? target client = none) ∧
    ∀ other, client ≠ other →
      (registry.removeClient client).2.targetsOf other = registry.targetsOf other ∧
      ∀ target, (registry.removeClient client).2.connection? target other =
        registry.connection? target other

/-- No target stands before itself. -/
theorem AddedBefore.ne {client : ClientId} {first second : Target}
    (before : AddedBefore moves client first second) : first ≠ second :=
  (addedBefore_iff.1 before).ne

/-- Each target occurs at most once in the list of a client. -/
theorem Describes.once (describes : registry.Describes moves) (client : ClientId) :
    (registry.targetsOf client).Nodup :=
  (describes.ordered client).imp AddedBefore.ne

/-- A client is among the listed holders of a target exactly if its slot is filled. -/
theorem listedHolder_iff (registry : Registry γ) (target : Target) (client : ClientId) :
    registry.ListedHolder target client ↔
      (registry.connection? target client).isSome = true := by
  constructor
  · rintro ⟨clients, found, member⟩
    obtain ⟨⟨holder, connection⟩, entry, rfl⟩ := List.mem_map.1 member
    rw [(mem_holders_iff found (holder, connection)).1 entry]
    rfl
  · intro taken
    obtain ⟨connection, slot⟩ := Option.isSome_iff_exists.1 taken
    cases found : registry.holders? target with
    | none =>
      rw [connection?_of_vacant found] at slot
      cases slot
    | some clients =>
      have entry := (mem_holders_iff found (client, connection)).2 slot
      exact ⟨clients, found, List.mem_map.2 ⟨_, entry, rfl⟩⟩

/-- A registry that is what the moves lead to also says so, by target and by client. -/
theorem Describes.presents (describes : registry.Describes moves) : registry.Presents moves where
  connection := describes.slots
  holders := by
    intro target clients found
    refine ⟨fun deserted => (holders?_eq_some_iff.1 found).2 (congrArg List.length deserted), ?_⟩
    intro client connection
    rw [mem_holders_iff found, describes.slots]
  vacant := by
    intro target
    rw [← Option.not_isSome_iff_eq_none, isSome_holders?_iff]
    simp only [describes.slots, not_exists, Option.not_isSome_iff_eq_none]
  sameRelation := by
    intro target client
    rw [listedHolder_iff, describes.listed]
  once := describes.once
  ordered := describes.ordered
  counted := by
    refine ⟨registry.targets.keys, registry.targets.distinct, fun client => ?_, ?_⟩
    · rw [describes.occupied.mem_keys_iff]
      simp only [describes.listed client, describes.slots]
    · exact (List.length_map Prod.fst).symm

/-- The answers of a registry that is what the moves lead to. -/
theorem Describes.answers (describes : registry.Describes moves) : registry.Answers where
  refused := fun _ target client _ dead => add_of_dead dead registry target client
  added := by
    intro alive target client connection living
    obtain ⟨added, accepted⟩ :
        ∃ added, registry.add alive target client connection = .ok added :=
      ⟨_, if_pos living⟩
    refine ⟨added, accepted, ?_, fun tested other apart => ?_, fun other apart => ?_⟩
    · rw [connection?_add accepted]
      cases held : registry.connection? target client with
      | none => simp
      | some seated => by_cases alone : alive seated = true <;> simp [alone]
    · rw [connection?_add accepted, if_neg fun filled => apart ⟨filled.1, filled.2.1⟩]
    · rw [targetsOf_add accepted, if_neg apart]
  removed := fun target client =>
    ⟨rfl, connection?_remove registry target client, targetsOf_remove registry target client⟩
  removedAll := by
    intro client
    have held : ∀ target ∈ registry.targetsOf client,
        (slot? registry.holders target client).isSome = true := fun target =>
      (describes.listed client target).1
    refine ⟨vacateAll_of_held (describes.once client) held, ?_, fun target => ?_,
      fun other apart => ⟨?_, fun target => ?_⟩⟩
    · rw [targetsOf_removeClient, if_pos rfl]
    · rw [describes.listed.connection?_removeClient, if_pos rfl]
    · rw [targetsOf_removeClient, if_neg apart]
    · rw [describes.listed.connection?_removeClient, if_neg apart]

/-- After any calls a registry is a finite map from targets and clients to connections: it says the
    same by target and by client, in the order of the additions, and the next call answers and
    changes what it should. -/
theorem run_isFiniteMap (moves : List (Move γ)) :
    (run moves).Presents moves ∧ (run moves).Answers :=
  ⟨(describes_run moves).presents, (describes_run moves).answers⟩

/-- A target that was taken from a client and added again stands last. -/
example :
    let limits : Target := ⟨⟨"default", "shop"⟩, ⟨"limits"⟩⟩
    let routes : Target := ⟨⟨"default", "shop"⟩, ⟨"routes"⟩⟩
    let take (target : Target) : Move Nat := .add (fun _ => true) target ⟨"client"⟩ 0
    (run [take limits, take routes, .remove limits ⟨"client"⟩, take limits]).targetsOf ⟨"client"⟩ =
      [routes, limits] := by decide

end RulePlane.Registry
