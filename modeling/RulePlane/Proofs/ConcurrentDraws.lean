import Mathlib.Data.List.Chain
import Mathlib.Data.List.Nodup
import RulePlane.Proofs.FreshTokens
import RulePlane.Proofs.WatchedNames

/-!
# Concurrent draws

Tokens and versions that are drawn by many callers at once. A call for a token takes the next
running number, in a step that no other call can divide, and reads the clock afterwards. A call for
a version reads the clock first. Then it replaces the version by a later one, again in one step, and
at last computes what it returns from its reading and the version that it found. The steps of all
calls may be mixed in any order, and the clock may show anything at each of them. As each call
touches what is shared in one step only, nothing but the order of these steps matters. A call whose
steps follow each other draws what `Tokens.next` or `Tokens.nextVersion` gives (`State.run_token`,
`State.run_version`).

Two records say in which order the calls made their decisive steps: `numbers` with the running
numbers that were taken, `stores` with the versions that were stored. `Records` ties them to the
calls, and `Orderly` is kept by each step of any call: the numbers taken are consecutive, and each
version follows the one stored before it. So fewer than `2 ^ 64` tokens are all different
(`tokens_never_repeat`), and versions increase in the order in which they were stored as long as
they stay below the last number (`versions_increase`).
-/

namespace RulePlane

namespace Tokens

/-- A version is drawn behind another one, for some reading of the clock. -/
def Follows (previous version : UInt64) : Prop := ∃ clock, version = versionAfter clock previous

/-- A version is at least the number behind the one before it. -/
theorem succ_le_versionAfter (clock previous : UInt64) :
    previous + 1 ≤ versionAfter clock previous := by
  unfold versionAfter
  simp only [Max.max]
  split
  · exact UInt64.le_refl _
  · rename_i greater
    exact UInt64.le_of_lt (UInt64.not_le.1 greater)

/-- A version is greater than the one that it follows, unless that is the last number. -/
theorem Follows.lt {previous version : UInt64} (follows : Follows previous version)
    (below : previous.toNat < 2 ^ 64 - 1) : previous < version := by
  obtain ⟨clock, rfl⟩ := follows
  have atLeast := UInt64.le_iff_toNat_le.1 (succ_le_versionAfter clock previous)
  have next : (previous + 1).toNat = previous.toNat + 1 := by
    rw [UInt64.toNat_add]
    exact Nat.mod_eq_of_lt (Nat.add_lt_of_lt_sub below)
  rw [UInt64.lt_iff_toNat_lt]
  omega

/-- Versions that follow one another increase, as long as none of them is the last number. -/
theorem pairwise_lt_of_follows {versions : List UInt64} (chain : versions.IsChain Follows)
    (below : ∀ version ∈ versions, version.toNat < 2 ^ 64 - 1) :
    versions.Pairwise (· < ·) := by
  have transitive : Trans (α := UInt64) (· < ·) (· < ·) (· < ·) := ⟨UInt64.lt_trans⟩
  rw [← List.isChain_iff_pairwise]
  exact chain.imp_of_mem_imp fun previous _ member _ follows => follows.lt (below previous member)

end Tokens

namespace Discovery.WatchList

variable {list : WatchList} {request : Request} {watched : Watched}

/-- A request with a nonce starts no session of a type URL that is watched. -/
theorem verdict_ne_started (watches : list.watched? request.typeUrl = some watched)
    (named : request.nonce ≠ "") : list.verdict request ≠ .started := by
  unfold verdict
  rw [watches]
  dsimp only
  rw [if_neg named]
  split_ifs <;> exact nofun

/-- A request with another nonce than that of the last response does not acknowledge it. -/
theorem verdict_ne_acknowledged (watches : list.watched? request.typeUrl = some watched)
    (different : request.nonce ≠ watched.nonceSent) : list.verdict request ≠ .acknowledged := by
  unfold verdict
  rw [watches]
  dsimp only
  rw [if_neg different]
  split_ifs <;> exact nofun

end Discovery.WatchList

namespace Drawing

/-! ## Calls and their steps -/

/-- How far a call has come that draws a token or a version. -/
inductive Phase where
  | tokenAsked
  | numbered (number : UInt64)
  | tokenDrawn (number : UInt64) (token : String)
  | versionAsked
  | clocked (reading : UInt64)
  | replaced (reading previous : UInt64)
  | versionDrawn (reading version : UInt64)
deriving DecidableEq, Repr

namespace Phase

/-- The next step of a call, with what the clock shows then. -/
def step (clock : UInt64) (tokens : Tokens) : Phase → Phase × Tokens
  | tokenAsked => (.numbered tokens.issued, (tokens.next clock).2)
  | numbered number => (.tokenDrawn number (Tokens.render clock number), tokens)
  | versionAsked => (.clocked clock, tokens)
  | clocked reading => (.replaced reading tokens.version, (tokens.nextVersion reading).2)
  | replaced reading previous =>
      (.versionDrawn reading (Tokens.versionAfter reading previous), tokens)
  | tokenDrawn number token => (.tokenDrawn number token, tokens)
  | versionDrawn reading version => (.versionDrawn reading version, tokens)

/-- The running number that a call has taken. -/
def number? : Phase → Option UInt64
  | numbered number => some number
  | tokenDrawn number _ => some number
  | _ => none

/-- The version that a call has returned or, once it has replaced the last one, will return. -/
def version? : Phase → Option UInt64
  | replaced reading previous => some (Tokens.versionAfter reading previous)
  | versionDrawn _ version => some version
  | _ => none

/-- A token that was drawn ends in the number that its call has taken, and a version is at least the
    clock reading of its call. -/
def Sound : Phase → Prop
  | tokenDrawn number token => ∃ clock, token = Tokens.render clock number
  | versionDrawn reading version => reading ≤ version
  | _ => True

end Phase

/-- What calls share, and the calls in the order in which they were made. `numbers` lists the calls
    that have taken a running number, with the number, and `stores` those that have replaced the
    version, with what was stored, each in the order of these steps. -/
structure State where
  tokens : Tokens
  calls : List Phase
  numbers : List (Nat × UInt64)
  stores : List (Nat × UInt64)

/-- What happens next: a new call is made, or one of the calls takes a step. -/
inductive Move where
  | askToken
  | askVersion
  | advance (place : Nat) (clock : UInt64)
deriving DecidableEq

namespace State

/-- No call has been made. -/
def start (tokens : Tokens) : State := ⟨tokens, [], [], []⟩

/-- Let a call take a step. -/
def advance (state : State) (place : Nat) (clock : UInt64) : State :=
  match state.calls[place]? with
  | none => state
  | some phase =>
      let (next, tokens) := phase.step clock state.tokens
      { tokens
        calls := state.calls.set place next
        numbers :=
          match phase with
          | .tokenAsked => state.numbers ++ [(place, state.tokens.issued)]
          | _ => state.numbers
        stores :=
          match phase with
          | .clocked _ => state.stores ++ [(place, tokens.version)]
          | _ => state.stores }

/-- A call has returned a token. -/
def DrewToken (state : State) (place : Nat) (token : String) : Prop :=
  ∃ number, state.calls[place]? = some (.tokenDrawn number token)

/-- A call has read the clock and returned a version. -/
def DrewVersion (state : State) (place : Nat) (reading version : UInt64) : Prop :=
  state.calls[place]? = some (.versionDrawn reading version)

/-- A call has replaced the version. It has returned a version, or will with its next step. -/
def Settled (state : State) (place : Nat) (version : UInt64) : Prop :=
  state.calls[place]?.bind Phase.version? = some version

/-- Make a move. -/
def move (state : State) : Move → State
  | .askToken => { state with calls := state.calls ++ [.tokenAsked] }
  | .askVersion => { state with calls := state.calls ++ [.versionAsked] }
  | .advance place clock => state.advance place clock

/-- Make several moves one after another. -/
def run (state : State) (moves : List Move) : State := moves.foldl move state

/-- A call for a token whose steps follow each other draws the next token. -/
theorem run_token (state : State) (earlier clock : UInt64) :
    let place := state.calls.length
    let after := state.run [.askToken, .advance place earlier, .advance place clock]
    after.tokens = (state.tokens.next clock).2 ∧
      after.calls =
        state.calls ++ [.tokenDrawn state.tokens.issued (state.tokens.next clock).1] := by
  simp [run, move, advance, Phase.step, Tokens.next]

/-- A call for a version whose steps follow each other draws the next version. -/
theorem run_version (state : State) (clock later last : UInt64) :
    let place := state.calls.length
    let after := state.run
      [.askVersion, .advance place clock, .advance place later, .advance place last]
    after.tokens = (state.tokens.nextVersion clock).2 ∧
      after.calls =
        state.calls ++ [.versionDrawn clock (state.tokens.nextVersion clock).1] := by
  simp [run, move, advance, Phase.step, Tokens.nextVersion]

end State

/-! ## Records -/

/-- A record lists the calls that have a value, each once and with its value. -/
structure Records (value? : Phase → Option UInt64) (calls : List Phase)
    (record : List (Nat × UInt64)) : Prop where
  once : (record.map Prod.fst).Nodup
  mem_iff : ∀ place value, (place, value) ∈ record ↔ calls[place]?.bind value? = some value

namespace Records

variable {value? : Phase → Option UInt64} {calls : List Phase} {record : List (Nat × UInt64)}
  {place : Nat} {phase next : Phase} {value : UInt64}

/-- Without calls there is nothing to record. -/
theorem nil (value? : Phase → Option UInt64) : Records value? [] [] :=
  ⟨List.nodup_nil, fun _ _ => by simp⟩

/-- A new call has no value yet. -/
theorem call (records : Records value? calls record) (missing : value? phase = none) :
    Records value? (calls ++ [phase]) record := by
  refine ⟨records.once, fun tested value => ?_⟩
  rw [records.mem_iff, List.getElem?_append]
  split
  · rfl
  · rename_i beyond
    rw [List.getElem?_eq_none (Nat.le_of_not_lt beyond), List.getElem?_singleton]
    split <;> simp [missing]

/-- A step that keeps the value of its call leaves the record as it is. -/
theorem keep (records : Records value? calls record) (found : calls[place]? = some phase)
    (same : value? next = value? phase) : Records value? (calls.set place next) record := by
  refine ⟨records.once, fun tested value => ?_⟩
  rw [records.mem_iff, List.getElem?_set]
  split
  · rename_i here
    subst here
    rw [if_pos (List.getElem?_eq_some_iff.1 found).1, found, Option.bind_some, Option.bind_some,
      same]
  · rfl

/-- A step that gives a value to its call adds it to the record. -/
theorem enter (records : Records value? calls record) (found : calls[place]? = some phase)
    (missing : value? phase = none) (given : value? next = some value) :
    Records value? (calls.set place next) (record ++ [(place, value)]) := by
  have absent (earlier : UInt64) : (place, earlier) ∉ record := by
    rw [records.mem_iff, found, Option.bind_some, missing]
    exact nofun
  refine ⟨?_, fun tested drawn => ?_⟩
  · rw [List.map_append, List.map_singleton, ← List.concat_eq_append]
    refine records.once.concat fun member => ?_
    obtain ⟨⟨_, earlier⟩, present, rfl⟩ := List.mem_map.1 member
    exact absent earlier present
  · rw [List.mem_append, List.mem_singleton, List.getElem?_set]
    split
    · rename_i here
      subst here
      rw [if_pos (List.getElem?_eq_some_iff.1 found).1, Option.bind_some, given]
      simp [absent, eq_comm]
    · rename_i elsewhere
      rw [records.mem_iff]
      refine or_iff_left fun same => elsewhere ?_
      exact (Prod.mk.inj same).1.symm

/-- Two calls have the same value only if the values in the record repeat. -/
theorem place_unique (records : Records value? calls record)
    (distinct : (record.map Prod.snd).Nodup) {first second : Nat}
    (firstDrawn : calls[first]?.bind value? = some value)
    (secondDrawn : calls[second]?.bind value? = some value) : first = second := by
  have same := List.inj_on_of_nodup_map distinct ((records.mem_iff first value).2 firstDrawn)
    ((records.mem_iff second value).2 secondDrawn) rfl
  exact congrArg Prod.fst same

end Records

/-! ## What every step keeps -/

/-- What a call returns is sound: with its last step it puts its number into the token, or takes a
    version that is at least its reading. -/
theorem Phase.sound_step {phase : Phase} (sound : phase.Sound) (clock : UInt64) (tokens : Tokens) :
    (phase.step clock tokens).1.Sound := by
  cases phase with
  | numbered number => exact ⟨clock, rfl⟩
  | replaced reading previous => exact Tokens.clock_le_versionAfter reading previous
  | tokenDrawn number token => exact sound
  | versionDrawn reading version => exact sound
  | tokenAsked | versionAsked | clocked reading => trivial

/-- What holds between the steps of the calls: the numbers taken are consecutive, and each version
    follows the one that was stored before it, the first one that from before the first call. -/
structure Orderly (before : Tokens) (state : State) : Prop where
  sound : ∀ phase ∈ state.calls, phase.Sound
  numbers : Records Phase.number? state.calls state.numbers
  stores : Records Phase.version? state.calls state.stores
  consecutive : state.numbers.map Prod.snd =
    (List.range state.numbers.length).map fun count => before.issued + UInt64.ofNat count
  issued : state.tokens.issued = before.issued + UInt64.ofNat state.numbers.length
  follows : (before.version :: state.stores.map Prod.snd).IsChain Tokens.Follows
  version : (before.version :: state.stores.map Prod.snd).getLast? = some state.tokens.version

variable {before : Tokens} {state : State}

/-- Before the first call everything is in order. -/
theorem orderly_start (tokens : Tokens) : Orderly tokens (.start tokens) where
  sound := nofun
  numbers := Records.nil _
  stores := Records.nil _
  consecutive := rfl
  issued := (UInt64.add_zero _).symm
  follows := List.isChain_singleton _
  version := rfl

/-- A new call disturbs nothing. -/
theorem Orderly.call (orderly : Orderly before state) {phase : Phase} (sound : phase.Sound)
    (unnumbered : phase.number? = none) (unsettled : phase.version? = none) :
    Orderly before { state with calls := state.calls ++ [phase] } where
  sound := by
    intro present member
    rcases List.mem_append.1 member with earlier | new
    · exact orderly.sound present earlier
    · exact List.mem_singleton.1 new ▸ sound
  numbers := orderly.numbers.call unnumbered
  stores := orderly.stores.call unsettled
  consecutive := orderly.consecutive
  issued := orderly.issued
  follows := orderly.follows
  version := orderly.version

/-- A call that is sound after its step leaves all calls sound. -/
theorem Orderly.sound_set (orderly : Orderly before state) (next : Phase) (sound : next.Sound)
    (place : Nat) : ∀ phase ∈ state.calls.set place next, phase.Sound := by
  intro phase member
  rcases List.mem_or_eq_of_mem_set member with earlier | rfl
  · exact orderly.sound phase earlier
  · exact sound

/-- A step that neither takes a number nor replaces the version disturbs nothing. -/
theorem Orderly.aside (orderly : Orderly before state) {place : Nat} {phase next : Phase}
    (found : state.calls[place]? = some phase) (sound : next.Sound)
    (sameNumber : next.number? = phase.number?) (sameVersion : next.version? = phase.version?) :
    Orderly before { state with calls := state.calls.set place next } where
  sound := orderly.sound_set next sound place
  numbers := orderly.numbers.keep found sameNumber
  stores := orderly.stores.keep found sameVersion
  consecutive := orderly.consecutive
  issued := orderly.issued
  follows := orderly.follows
  version := orderly.version

/-- The number that a call takes is the next one. -/
theorem Orderly.take (orderly : Orderly before state) {place : Nat}
    (found : state.calls[place]? = some .tokenAsked) (clock : UInt64) :
    Orderly before
      { state with
        tokens := (state.tokens.next clock).2
        calls := state.calls.set place (.numbered state.tokens.issued)
        numbers := state.numbers ++ [(place, state.tokens.issued)] } where
  sound := orderly.sound_set (.numbered _) trivial place
  numbers := orderly.numbers.enter found rfl rfl
  stores := orderly.stores.keep found rfl
  consecutive := by
    rw [List.map_append, List.map_singleton, orderly.consecutive, orderly.issued,
      List.length_append, List.length_singleton, List.range_succ, List.map_append,
      List.map_singleton]
  issued := by
    rw [List.length_append, List.length_singleton, ← Tokens.add_ofNat_succ, ← orderly.issued]
    rfl
  follows := orderly.follows
  version := orderly.version

/-- The version that a call stores follows the one that it found, and is what the call returns. -/
theorem Orderly.store (orderly : Orderly before state) {place : Nat} {reading : UInt64}
    (found : state.calls[place]? = some (.clocked reading)) :
    Orderly before
      { state with
        tokens := (state.tokens.nextVersion reading).2
        calls := state.calls.set place (.replaced reading state.tokens.version)
        stores := state.stores ++ [(place, (state.tokens.nextVersion reading).2.version)] } where
  sound := orderly.sound_set (.replaced _ _) trivial place
  numbers := orderly.numbers.keep found rfl
  stores := orderly.stores.enter found rfl rfl
  consecutive := orderly.consecutive
  issued := orderly.issued
  follows := by
    rw [List.map_append, List.map_singleton, ← List.cons_append, List.isChain_append]
    refine ⟨orderly.follows, List.isChain_singleton _, ?_⟩
    rintro previous last _ ⟨⟩
    rw [orderly.version] at last
    cases last
    exact ⟨reading, rfl⟩
  version := by
    rw [List.map_append, List.map_singleton, ← List.cons_append, List.getLast?_concat]

/-- Any step of any call keeps everything in order. -/
theorem Orderly.advance (orderly : Orderly before state) (place : Nat) (clock : UInt64) :
    Orderly before (state.advance place clock) := by
  cases found : state.calls[place]? with
  | none =>
    have idle : state.advance place clock = state := by simp only [State.advance, found]
    rwa [idle]
  | some phase =>
    have sound : (phase.step clock state.tokens).1.Sound :=
      Phase.sound_step (orderly.sound phase (List.mem_of_getElem? found)) clock state.tokens
    simp only [State.advance, found]
    cases phase with
    | tokenAsked => exact orderly.take found clock
    | clocked reading => exact orderly.store found
    | numbered number => exact orderly.aside found sound rfl rfl
    | replaced reading previous => exact orderly.aside found sound rfl rfl
    | versionAsked => exact orderly.aside found sound rfl rfl
    | tokenDrawn number token => exact orderly.aside found sound rfl rfl
    | versionDrawn reading version => exact orderly.aside found sound rfl rfl

/-- Any moves keep everything in order. -/
theorem Orderly.run (orderly : Orderly before state) (moves : List Move) :
    Orderly before (state.run moves) := by
  induction moves generalizing state with
  | nil => exact orderly
  | cons move rest inductionHypothesis =>
    cases move with
    | askToken => exact inductionHypothesis (orderly.call trivial rfl rfl)
    | askVersion => exact inductionHypothesis (orderly.call trivial rfl rfl)
    | advance place clock => exact inductionHypothesis (orderly.advance place clock)

/-! ## Tokens -/

/-- No call waits for a number again, so a step makes those that wait fewer by the call that takes
    its number. -/
theorem count_waiting_set {calls : List Phase} {place : Nat} {phase next : Phase}
    (found : calls[place]? = some phase) (onward : next ≠ .tokenAsked) :
    (calls.set place next).count .tokenAsked + [phase].count .tokenAsked =
      calls.count .tokenAsked := by
  obtain ⟨inside, here⟩ := List.getElem?_eq_some_iff.1 found
  simp only [List.count_set inside, here, List.count_singleton, beq_iff_eq, onward, if_false]
  split
  · rename_i waiting
    have counted : 0 < calls.count .tokenAsked :=
      List.count_pos_iff.2 (waiting ▸ List.mem_of_getElem? found)
    omega
  · rfl

/-- A move makes a further call for a token, or lets some of them take numbers. -/
theorem numbers_move (state : State) (move : Move) :
    (state.move move).numbers.length + (state.move move).calls.count .tokenAsked =
      state.numbers.length + state.calls.count .tokenAsked + [move].count .askToken := by
  cases move with
  | askToken => simp [State.move, Nat.add_assoc]
  | askVersion => simp [State.move]
  | advance place clock =>
    cases found : state.calls[place]? with
    | none => simp [State.move, State.advance, found]
    | some phase =>
      have onward : (phase.step clock state.tokens).1 ≠ .tokenAsked := by
        cases phase <;> exact nofun
      have waiting := count_waiting_set found onward
      have taken : (state.advance place clock).numbers.length =
          state.numbers.length + [phase].count .tokenAsked := by
        cases phase <;> simp [State.advance, found]
      have moved : (state.advance place clock).calls =
          state.calls.set place (phase.step clock state.tokens).1 := by
        simp only [State.advance, found]
      have noCall : [Move.advance place clock].count .askToken = 0 := rfl
      rw [State.move, taken, moved, noCall]
      omega

/-- Every call for a token has taken a number or waits for one. -/
theorem numbers_run (state : State) (moves : List Move) :
    (state.run moves).numbers.length + (state.run moves).calls.count .tokenAsked =
      state.numbers.length + state.calls.count .tokenAsked + moves.count .askToken := by
  induction moves generalizing state with
  | nil => rfl
  | cons move rest inductionHypothesis =>
    have first := numbers_move state move
    have others := inductionHypothesis (state.move move)
    have after : state.run (move :: rest) = (state.move move).run rest := rfl
    rw [after, ← List.singleton_append, List.count_append]
    omega

/-- The numbers are different as long as there are fewer than can be told apart. -/
theorem Orderly.distinct (orderly : Orderly before state)
    (few : state.numbers.length < 2 ^ 64) : (state.numbers.map Prod.snd).Nodup := by
  rw [orderly.consecutive]
  refine List.Nodup.map_on ?_ List.nodup_range
  intro first firstTaken second secondTaken same
  have firstSmall := (List.mem_range.1 firstTaken).trans few
  have secondSmall := (List.mem_range.1 secondTaken).trans few
  exact Tokens.number_injective before.issued firstSmall secondSmall same

/-- A token that was drawn shows the number that its call has taken. -/
theorem Orderly.render_of_drewToken (orderly : Orderly before state) {place : Nat} {token : String}
    (drew : state.DrewToken place token) :
    ∃ clock number, token = Tokens.render clock number ∧
      state.calls[place]?.bind Phase.number? = some number := by
  obtain ⟨number, found⟩ := drew
  obtain ⟨clock, own⟩ := orderly.sound _ (List.mem_of_getElem? found)
  exact ⟨clock, number, own, by rw [found]; rfl⟩

/-- From any running number on, however the calls overlap and whatever the clock shows, fewer than
    `2 ^ 64` calls draw tokens that are all different, and none is empty. So a request that carries
    one of them is not taken for the start of a session of a type URL that is watched, and it
    acknowledges no response but the one that was sent with this token. -/
theorem tokens_never_repeat (tokens : Tokens) (moves : List Move)
    (few : moves.count .askToken < 2 ^ 64) :
    let state := (State.start tokens).run moves
    (∀ place token, state.DrewToken place token → token ≠ "") ∧
      (∀ first second token, state.DrewToken first token → state.DrewToken second token →
        first = second) ∧
      ∀ (place : Nat) (list : Discovery.WatchList) (request : Discovery.Request)
        (watched : Discovery.Watched), state.DrewToken place request.nonce →
          list.watched? request.typeUrl = some watched →
            list.verdict request ≠ .started ∧
              ∀ other, other ≠ place → state.DrewToken other watched.nonceSent →
                list.verdict request ≠ .acknowledged := by
  intro state
  have orderly : Orderly tokens state := (orderly_start tokens).run moves
  have taken : state.numbers.length < 2 ^ 64 := by
    have account := numbers_run (State.start tokens) moves
    simp only [State.start, List.length_nil, List.count_nil, Nat.zero_add] at account
    exact Nat.lt_of_le_of_lt (account ▸ Nat.le_add_right _ _) few
  have nonempty (place : Nat) (token : String) (drew : state.DrewToken place token) :
      token ≠ "" := by
    obtain ⟨clock, number, rfl, -⟩ := orderly.render_of_drewToken drew
    exact Tokens.render_ne_empty clock number
  have unique (first second : Nat) (token : String) (firstDrew : state.DrewToken first token)
      (secondDrew : state.DrewToken second token) : first = second := by
    obtain ⟨clock, number, rfl, own⟩ := orderly.render_of_drewToken firstDrew
    obtain ⟨reading, other, same, others⟩ := orderly.render_of_drewToken secondDrew
    rw [← Tokens.render_injective same] at others
    exact orderly.numbers.place_unique (orderly.distinct taken) own others
  refine ⟨nonempty, unique, fun place list request watched drew watches => ⟨?_, ?_⟩⟩
  · exact Discovery.WatchList.verdict_ne_started watches (nonempty place _ drew)
  · intro other different sent
    refine Discovery.WatchList.verdict_ne_acknowledged watches fun same => different ?_
    exact unique other place _ sent (same ▸ drew)

/-- Two calls whose steps cross: the second takes its number later but returns its token first, and
    the clock shows the same to both. -/
def crossing : List Move :=
  [.askToken, .askToken, .advance 0 9, .advance 1 9, .advance 1 5, .advance 0 5]

/-- The tokens of crossing calls differ, and a client that returns the first of them does not
    acknowledge a response with the second. -/
theorem tokens_never_repeat_crossing :
    crossing.count .askToken < 2 ^ 64 ∧
      let state := (State.start .fresh).run crossing
      let list : Discovery.WatchList := ⟨Table.empty.insert "t" ⟨["n"], "5-1", ""⟩⟩
      let request : Discovery.Request := ⟨none, "t", ["n", "m"], none, "", "5-0"⟩
      state.DrewToken 0 "5-0" ∧ state.DrewToken 1 "5-1" ∧ ¬ state.DrewToken 1 "5-0" ∧
        list.verdict request ≠ .started ∧ list.verdict request ≠ .acknowledged := by
  refine ⟨by decide, ?_⟩
  intro state list request
  have first : state.DrewToken 0 "5-0" := ⟨0, by decide +kernel⟩
  have second : state.DrewToken 1 "5-1" := ⟨1, by decide +kernel⟩
  have watches : list.watched? request.typeUrl = some ⟨["n"], "5-1", ""⟩ := by decide +kernel
  obtain ⟨-, unique, taken⟩ := tokens_never_repeat .fresh crossing (by decide)
  obtain ⟨fresh, others⟩ := taken 0 list request _ first watches
  refine ⟨first, second, fun again => ?_, fresh, others 1 Nat.one_ne_zero second⟩
  exact absurd (unique 0 1 _ first again) Nat.zero_ne_one

/-! ## Versions -/

/-- What was stored stays in the record, in its place. -/
theorem stores_prefix_move (state : State) (move : Move) :
    state.stores <+: (state.move move).stores := by
  cases move with
  | askToken => exact List.prefix_refl _
  | askVersion => exact List.prefix_refl _
  | advance place clock =>
    cases found : state.calls[place]? with
    | none => simp only [State.move, State.advance, found, List.prefix_refl]
    | some phase =>
      simp only [State.move, State.advance, found]
      split
      · exact List.prefix_append _ _
      · exact List.prefix_refl _

/-- So it does whatever follows. -/
theorem stores_prefix_run (state : State) (moves : List Move) :
    state.stores <+: (state.run moves).stores := by
  induction moves generalizing state with
  | nil => exact List.prefix_refl _
  | cons move rest inductionHypothesis =>
    exact (stores_prefix_move state move).trans (inductionHypothesis (state.move move))

/-- As long as none of them is the last number, versions increase in the order in which they were
    stored, and are greater than the one from before the first call. -/
theorem Orderly.increasing (orderly : Orderly before state)
    (below : ∀ version ∈ before.version :: state.stores.map Prod.snd,
      version.toNat < 2 ^ 64 - 1) :
    (∀ stored ∈ state.stores, before.version < stored.2) ∧
      state.stores.Pairwise fun first second => first.2 < second.2 := by
  obtain ⟨greater, ascending⟩ :=
    List.pairwise_cons.1 (Tokens.pairwise_lt_of_follows orderly.follows below)
  exact ⟨fun stored member => greater stored.2 (List.mem_map_of_mem member),
    List.pairwise_map.1 ascending⟩

/-- However the calls overlap and whatever the clock shows, as long as no version is the last
    number: a call returns what it has stored, which is at least its own reading of the clock. It is
    greater than the version from before the first call, and than that of every call that had
    replaced the version earlier. No two calls return the same. Nothing is asked of the readings, as
    one that is the last number would be stored. -/
theorem versions_increase (tokens : Tokens) (moves later : List Move)
    (below : ∀ version ∈
        tokens.version :: (((State.start tokens).run moves).run later).stores.map Prod.snd,
      version.toNat < 2 ^ 64 - 1) :
    let earlier := (State.start tokens).run moves
    let state := earlier.run later
    (∀ place reading version, state.DrewVersion place reading version →
      state.Settled place version ∧ (place, version) ∈ state.stores ∧ reading ≤ version) ∧
      (∀ place version, state.Settled place version → tokens.version < version) ∧
      (∀ first second version drawn, earlier.Settled first version →
        (∀ other, ¬ earlier.Settled second other) → state.Settled second drawn →
          version < drawn) ∧
      ∀ first second version, state.Settled first version → state.Settled second version →
        first = second := by
  intro earlier state
  have halfway : Orderly tokens earlier := (orderly_start tokens).run moves
  have orderly : Orderly tokens state := halfway.run later
  obtain ⟨greater, ascending⟩ := orderly.increasing below
  refine ⟨?_, ?_, ?_, ?_⟩
  · intro place reading version drew
    have settled : state.Settled place version := by
      rw [State.Settled, drew]
      rfl
    exact ⟨settled, (orderly.stores.mem_iff place version).2 settled,
      orderly.sound _ (List.mem_of_getElem? drew)⟩
  · intro place version settled
    exact greater _ ((orderly.stores.mem_iff place version).2 settled)
  · intro first second version drawn firstSettled unsettled secondSettled
    have firstStored := (halfway.stores.mem_iff first version).2 firstSettled
    have secondStored := (orderly.stores.mem_iff second drawn).2 secondSettled
    obtain ⟨added, grown⟩ : earlier.stores <+: state.stores := stores_prefix_run earlier later
    rw [← grown] at ascending secondStored
    rcases List.mem_append.1 secondStored with already | new
    · exact absurd ((halfway.stores.mem_iff second drawn).1 already) (unsettled drawn)
    · exact (List.pairwise_append.1 ascending).2.2 _ firstStored _ new
  · intro first second version firstSettled secondSettled
    have distinct : (state.stores.map Prod.snd).Nodup :=
      List.pairwise_map.2 (ascending.imp fun {_ _} => UInt64.ne_of_lt)
    exact orderly.stores.place_unique distinct firstSettled secondSettled

/-- A call reads the clock, is overtaken by another one to which the clock shows more, and replaces
    the version of that one. -/
def overtaken : List Move × List Move :=
  ([.askVersion, .askVersion, .advance 0 5, .advance 1 9, .advance 1 0],
    [.advance 0 0, .advance 0 0, .advance 1 0])

/-- The call that was overtaken returns the greater version, although its clock showed less. -/
theorem versions_increase_overtaken :
    let earlier := (State.start .fresh).run overtaken.1
    let state := earlier.run overtaken.2
    (∀ version ∈ Tokens.fresh.version :: state.stores.map Prod.snd,
      version.toNat < 2 ^ 64 - 1) ∧
      state.DrewVersion 0 5 10 ∧ state.DrewVersion 1 9 9 ∧ (5 : UInt64) ≤ 10 ∧
        (9 : UInt64) < 10 := by
  intro earlier state
  have below : ∀ version ∈ Tokens.fresh.version :: state.stores.map Prod.snd,
      version.toNat < 2 ^ 64 - 1 := by
    have stored : state.stores = [(1, 9), (0, 10)] := rfl
    simp only [stored, List.map_cons, List.map_nil, List.forall_mem_cons, List.not_mem_nil,
      false_implies, implies_true, and_true]
    decide
  have first : state.DrewVersion 0 5 10 := by rfl
  obtain ⟨own, -, ordered, -⟩ := versions_increase .fresh overtaken.1 overtaken.2 below
  obtain ⟨settled, -, atLeast⟩ := own 0 5 10 first
  refine ⟨below, first, rfl, atLeast, ordered 1 0 9 10 rfl (fun other => ?_) settled⟩
  have waiting : earlier.calls[0]? = some (.clocked 5) := by rfl
  rw [State.Settled, waiting]
  exact nofun

end Drawing

end RulePlane
