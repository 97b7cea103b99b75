import Mathlib.Data.List.Basic
import RulePlane.Policy.FaultTolerance
import RulePlane.Policy.VirtualService
import RulePlane.Proofs.FieldReading
import RulePlane.Quantity.Duration

/-!
# Ranges of policy numbers

The numbers of a policy that could be read fit the fields in which they are sent. `Reads` and
`Yields` say that a reader, of a document or of the fields of a structure, gives only values with a
property; there is a law for each way to build a reader, so that a range that a number is read with
is found again in the policy that holds it.
-/

namespace RulePlane

namespace Document

open Wire (Fits32 Fits64)

variable {α β : Type} {property : α → Prop} {consequence : β → Prop}

/-- Whether a reader of documents gives only values with a property. -/
def Reads (read : Document → Option α) (property : α → Prop) : Prop :=
  ∀ document value, read document = some value → property value

/-- Whether a reader of fields gives only values with a property. -/
def Yields (reader : FieldReader α) (property : α → Prop) : Prop :=
  ∀ fields value rest, reader.run fields = some (value, rest) → property value

/-- A value that is given without reading has the property itself. -/
theorem yields_pure {value : α} (holds : property value) : Yields (pure value) property := by
  intro fields found rest read
  cases read
  exact holds

/-- What is read after a value may rely on the property of that value. -/
theorem yields_bind {first : FieldReader α} {next : α → FieldReader β}
    (before : Yields first property)
    (after : ∀ value, property value → Yields (next value) consequence) :
    Yields (first >>= next) consequence := by
  intro fields found rest read
  simp only [StateT.run_bind, Option.bind_eq_bind] at read
  obtain ⟨⟨value, left⟩, read, next⟩ := Option.bind_eq_some_iff.1 read
  exact after value (before fields value left read) left found rest next

/-- Every reader gives values. -/
theorem reads_any (read : Document → Option α) : Reads read fun _ => True :=
  fun _ _ _ => trivial

/-- A result that is handed on has the property if its value has. -/
theorem yields_lift {result : Option α} (holds : ∀ value, result = some value → property value) :
    Yields (liftM result) property := by
  intro fields found rest read
  cases result with
  | none => cases read
  | some value =>
    cases read
    exact holds _ rfl

/-- What is read after a field was taken may be anything that is read of each document. -/
theorem yields_afterField (name : String) {next : Option Document → FieldReader β}
    (each : ∀ given, Yields (next given) consequence) :
    Yields (takeField name >>= next) consequence :=
  yields_bind (fun _ _ _ _ => trivial) fun given (_ : True) => each given

/-- A required field has what its document is read with. -/
theorem yields_required {read : Document → Option α} (reads : Reads read property)
    (name : String) : Yields (required name read) property := by
  refine yields_afterField name fun given => ?_
  cases given with
  | none =>
    intro fields found rest impossible
    cases impossible
  | some document => exact yields_lift (reads document)

/-- A field with a default has what its document is read with, or is the default. -/
theorem yields_defaulted {read : Document → Option α} (reads : Reads read property)
    {fallback : α} (holds : property fallback) (name : String) :
    Yields (defaulted name fallback read) property := by
  refine yields_afterField name fun given => ?_
  cases given with
  | none => exact yields_pure holds
  | some document => exact yields_lift (reads document)

/-- A structure has what its fields are read with, in either of its forms. -/
theorem reads_structure {reader : FieldReader α} (yields : Yields reader property) :
    Reads (structure? reader) property := by
  intro document found read
  have finish : ∀ fields, (reader.run fields).bind (fun taken =>
      if taken.2.finished then some taken.1 else none) = some found → property found := by
    intro fields run
    obtain ⟨⟨value, rest⟩, run, finished⟩ := Option.bind_eq_some_iff.1 run
    dsimp only at finished
    split at finished
    · cases finished
      exact yields fields _ rest run
    · cases finished
  unfold structure? at read
  cases document with
  | record entries => exact finish _ read
  | sequence items => exact finish _ read
  | _ => cases read

/-- Each item of a sequence has what items are read with. -/
theorem reads_sequence {read : Document → Option α} (reads : Reads read property) :
    Reads (sequenceOf? read) fun items => ∀ item ∈ items, property item := by
  intro document found sequence
  cases document with
  | sequence documents =>
    simp only [sequenceOf?] at sequence
    induction documents generalizing found with
    | nil =>
      cases sequence
      simp
    | cons first others inductionHypothesis =>
      rw [List.mapM_cons] at sequence
      obtain ⟨item, one, sequence⟩ := Option.bind_eq_some_iff.1 sequence
      obtain ⟨items, next, same⟩ := Option.bind_eq_some_iff.1 sequence
      cases same
      intro tested member
      rcases List.mem_cons.1 member with rfl | later
      · exact reads first tested one
      · exact inductionHypothesis items next tested later
  | _ => cases sequence

/-- An integer is read within its interval. -/
theorem reads_integerWithin (least greatest : Int) :
    Reads (integerWithin? least greatest) fun value => least ≤ value ∧ value ≤ greatest := by
  intro document found read
  cases document with
  | integer value =>
    simp only [integerWithin?] at read
    split at read
    · cases read
      assumption
    · cases read
  | _ => cases read

/-- An integer of 64 bits fits them. -/
theorem reads_int64 : Reads int64? Fits64 := by
  intro document value read
  have within := reads_integerWithin _ _ document value read
  constructor <;> omega

/-- An integer of 32 bits fits them. -/
theorem reads_int32 : Reads int32? Fits32 := by
  intro document value read
  have within := reads_integerWithin _ _ document value read
  constructor <;> omega

end Document

namespace Policy

open Document
open Wire (Fits32 Fits64)

/-- The numbers of a rate limit fit their fields. -/
theorem RateLimit.reads_fit : Reads RateLimit.ofDocument? fun policy =>
    Fits64 policy.threshold ∧ Fits32 policy.statDurationSeconds :=
  reads_structure <|
    yields_bind (yields_required (reads_any _) _) fun _ _ =>
    yields_bind (yields_required (reads_any _) _) fun _ _ =>
    yields_bind (yields_required reads_int64 _) fun _ threshold =>
    yields_bind (yields_required reads_int32 _) fun _ statDuration =>
    yields_pure ⟨threshold, statDuration⟩

/-- The number of a concurrency limit fits its field. -/
theorem ConcurrencyLimit.reads_fit : Reads ConcurrencyLimit.ofDocument? fun policy =>
    Fits64 policy.maxConcurrency :=
  reads_structure <|
    yields_bind (yields_required reads_int64 _) fun _ maxConcurrency =>
    yields_bind (yields_required (reads_any _) _) fun _ _ =>
    yields_pure maxConcurrency

/-- The number of a circuit breaker fits its field. -/
theorem CircuitBreaker.reads_fit : Reads CircuitBreaker.ofDocument? fun policy =>
    Fits32 policy.minRequestAmount :=
  reads_structure <|
    yields_bind (yields_required (reads_any _) _) fun _ _ =>
    yields_bind (yields_required (reads_any _) _) fun _ _ =>
    yields_bind (yields_required (reads_any _) _) fun _ _ =>
    yields_bind (yields_required (reads_any _) _) fun _ _ =>
    yields_bind (yields_required reads_int32 _) fun _ minRequestAmount =>
    yields_bind (yields_defaulted (reads_any _) trivial _) fun _ _ =>
    yields_bind (yields_defaulted (reads_any _) trivial _) fun _ _ =>
    yields_pure minRequestAmount

/-- The weight of a destination fits 32 bits. -/
theorem RouteDestination.reads_fit : Reads RouteDestination.ofDocument? fun destination =>
    Fits32 destination.weight :=
  reads_structure <|
    yields_bind (yields_required (reads_any _) _) fun _ _ =>
    yields_bind (yields_defaulted reads_int32 ⟨by decide, by decide⟩ _) fun _ weight =>
    yields_pure weight

/-- The weights of a route fit 32 bits. -/
theorem HttpRoute.reads_fit : Reads HttpRoute.ofDocument? fun http =>
    ∀ destination ∈ http.route, Fits32 destination.weight :=
  reads_structure <|
    yields_bind (yields_defaulted (reads_any _) trivial _) fun _ _ =>
    yields_bind (yields_defaulted (reads_any _) trivial _) fun _ _ =>
    yields_bind (yields_defaulted (reads_sequence RouteDestination.reads_fit)
      (fun _ none => absurd none List.not_mem_nil) _) fun _ route =>
    yields_pure route

/-- The weights of a virtual service fit 32 bits. -/
theorem VirtualService.reads_fit : Reads VirtualService.ofDocument? fun service =>
    ∀ http ∈ service.http, ∀ destination ∈ http.route, Fits32 destination.weight :=
  reads_structure <|
    yields_bind (yields_defaulted (reads_any _) trivial _) fun _ _ =>
    yields_bind (yields_defaulted (reads_sequence HttpRoute.reads_fit)
      (fun _ none => absurd none List.not_mem_nil) _) fun _ http =>
    yields_pure http

end Policy

namespace Quantity

-- A power of a number is core's own, as in the definition of the rounding.
attribute [local instance (2000)] instPowNat

/-- Whole milliseconds are at most the greatest number that is reported. -/
theorem wholeMillis_le {number : Number.Binary64} {millis : Nat}
    (whole : wholeMillis number = .ok millis) : millis ≤ greatestMillis := by
  cases number with
  | finite negative mantissa exponent =>
    simp only [wholeMillis] at whole
    split at whole
    · cases whole
    · split at whole
      · cases whole
      · cases whole
        exact Nat.min_le_right _ _
  | _ => cases whole

/-- The milliseconds of a duration are at most the greatest number that is reported. -/
theorem parseMillis_le {duration : String} {millis : Nat}
    (parsed : parseMillis duration = .ok millis) : millis ≤ greatestMillis := by
  simp only [parseMillis, millisOfTrimmed] at parsed
  split at parsed
  · cases parsed
  · split at parsed
    · exact wholeMillis_le parsed
    · split at parsed
      · cases parsed
      · exact wholeMillis_le parsed

end Quantity

end RulePlane
