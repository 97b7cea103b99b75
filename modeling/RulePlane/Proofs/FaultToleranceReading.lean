import RulePlane.Message.FaultTolerance
import RulePlane.Proofs.FieldReading

/-!
# Fault-tolerance messages as clients read them

The messages of the fault-tolerance schema, each with the reader that its declaration calls for.
They have room for what is never written here: a nested message may be missing, an enumeration's
member is any number, a rule may name an action.

For each message there is a law that its reader gives back what the writer was given, for numbers
that fit the fields they are written in.
-/

namespace RulePlane.Received

open Wire
open Number (Binary64)

/-- A rate limit. -/
structure RateLimit where
  name : String
  metricType : Int
  limitMode : Int
  threshold : Int
  statDuration : Int
  statDurationTimeUnit : Int
deriving DecidableEq, Repr

/-- A throttling. -/
structure Throttling where
  name : String
  minIntervalMillisOfRequests : Int
  queueTimeoutMillis : Int
deriving DecidableEq, Repr

/-- A concurrency limit. -/
structure ConcurrencyLimit where
  name : String
  limitMode : Int
  maxConcurrency : Int
deriving DecidableEq, Repr

/-- The condition of slow requests. -/
structure SlowCondition where
  maxAllowedRtMillis : Int
deriving DecidableEq, Repr

/-- The condition of failed requests, which has no fields. -/
structure ErrorCondition where
deriving DecidableEq, Repr

/-- A circuit breaker. -/
structure CircuitBreaker where
  name : String
  strategy : Int
  triggerRatio : Binary64
  statDuration : Int
  statDurationTimeUnit : Int
  recoveryTimeout : Int
  recoveryTimeoutTimeUnit : Int
  minRequestAmount : Int
  slowCondition : Option SlowCondition
  errorCondition : Option ErrorCondition
deriving DecidableEq, Repr

/-- A reference to a resource of an application. -/
structure TargetReference where
  targetResourceName : String
deriving DecidableEq, Repr

/-- A reference to a strategy or to an action. -/
structure Reference where
  name : String
  kind : String
deriving DecidableEq, Repr

/-- A fault-tolerance rule. -/
structure FaultTolerance where
  targets : List TargetReference
  strategies : List Reference
  action : Option Reference
deriving DecidableEq, Repr

/-! ## Readers -/

/-- Read a rate limit. -/
def RateLimit.read? (fields : List Field) : Option RateLimit := do
  let name ← scalar? Payload.text? "" 1 fields
  let metricType ← scalar? Payload.int32? 0 2 fields
  let limitMode ← scalar? Payload.int32? 0 3 fields
  let threshold ← scalar? Payload.int64? 0 4 fields
  let statDuration ← scalar? Payload.int32? 0 5 fields
  let statDurationTimeUnit ← scalar? Payload.int32? 0 6 fields
  some { name, metricType, limitMode, threshold, statDuration, statDurationTimeUnit }

/-- Read a throttling. -/
def Throttling.read? (fields : List Field) : Option Throttling := do
  let name ← scalar? Payload.text? "" 1 fields
  let minIntervalMillisOfRequests ← scalar? Payload.int64? 0 2 fields
  let queueTimeoutMillis ← scalar? Payload.int64? 0 3 fields
  some { name, minIntervalMillisOfRequests, queueTimeoutMillis }

/-- Read a concurrency limit. -/
def ConcurrencyLimit.read? (fields : List Field) : Option ConcurrencyLimit := do
  let name ← scalar? Payload.text? "" 1 fields
  let limitMode ← scalar? Payload.int32? 0 2 fields
  let maxConcurrency ← scalar? Payload.int64? 0 3 fields
  some { name, limitMode, maxConcurrency }

/-- Read the condition of slow requests. -/
def SlowCondition.read? (fields : List Field) : Option SlowCondition := do
  let maxAllowedRtMillis ← scalar? Payload.int32? 0 1 fields
  some { maxAllowedRtMillis }

/-- Read the condition of failed requests; a field of it is unknown, whichever it is. -/
def ErrorCondition.read? (_ : List Field) : Option ErrorCondition := some {}

/-- Read a circuit breaker. -/
def CircuitBreaker.read? (fields : List Field) : Option CircuitBreaker := do
  let name ← scalar? Payload.text? "" 1 fields
  let strategy ← scalar? Payload.int32? 0 2 fields
  let triggerRatio ← scalar? Payload.double? (Binary64.zero false) 3 fields
  let statDuration ← scalar? Payload.int64? 0 4 fields
  let statDurationTimeUnit ← scalar? Payload.int32? 0 5 fields
  let recoveryTimeout ← scalar? Payload.int32? 0 6 fields
  let recoveryTimeoutTimeUnit ← scalar? Payload.int32? 0 7 fields
  let minRequestAmount ← scalar? Payload.int32? 0 8 fields
  let slowCondition ← nested? SlowCondition.read? 9 fields
  let errorCondition ← nested? ErrorCondition.read? 10 fields
  some { name, strategy, triggerRatio, statDuration, statDurationTimeUnit, recoveryTimeout,
         recoveryTimeoutTimeUnit, minRequestAmount, slowCondition, errorCondition }

/-- Read a reference to a resource of an application. -/
def TargetReference.read? (fields : List Field) : Option TargetReference := do
  let targetResourceName ← scalar? Payload.text? "" 1 fields
  some { targetResourceName }

/-- Read a reference to a strategy or to an action. -/
def Reference.read? (fields : List Field) : Option Reference := do
  let name ← scalar? Payload.text? "" 1 fields
  let kind ← scalar? Payload.text? "" 2 fields
  some { name, kind }

/-- Read a fault-tolerance rule. -/
def FaultTolerance.read? (fields : List Field) : Option FaultTolerance := do
  let targets ← repeated? (Payload.message? TargetReference.read?) 1 fields
  let strategies ← repeated? (Payload.message? Reference.read?) 2 fields
  let action ← nested? Reference.read? 3 fields
  some { targets, strategies, action }

/-! ## Reading what was written -/

theorem fits32_metricType (type : Message.MetricType) : Fits32 type.code := by
  cases type <;> exact ⟨by decide, by decide⟩

theorem fits32_limitMode (mode : Message.LimitMode) : Fits32 mode.code := by
  cases mode <;> exact ⟨by decide, by decide⟩

theorem fits32_breakerStrategy (strategy : Message.BreakerStrategy) : Fits32 strategy.code := by
  cases strategy <;> exact ⟨by decide, by decide⟩

theorem fits32_timeUnit (unit : Message.TimeUnit) : Fits32 unit.code := by
  cases unit <;> exact ⟨by decide, by decide⟩

theorem RateLimit.fit_fields (message : Message.RateLimit) : Fit message.fields := by
  simp [Message.RateLimit.fields]

/-- A rate limit is read back. -/
theorem RateLimit.read?_fields {message : Message.RateLimit}
    (threshold : Fits64 message.threshold) (statDuration : Fits32 message.statDuration) :
    RateLimit.read? message.fields =
      some { name := message.name
             metricType := message.metricType.code
             limitMode := message.limitMode.code
             threshold := message.threshold
             statDuration := message.statDuration
             statDurationTimeUnit := message.statDurationUnit.code } := by
  simp [RateLimit.read?, Message.RateLimit.fields, scalar?, lastValue?_int64 _ threshold,
    lastValue?_int32 _ statDuration, lastValue?_int32 _ (fits32_metricType _),
    lastValue?_int32 _ (fits32_limitMode _), lastValue?_int32 _ (fits32_timeUnit _)]

theorem Throttling.fit_fields (message : Message.Throttling) : Fit message.fields := by
  simp [Message.Throttling.fields]

/-- A throttling is read back. -/
theorem Throttling.read?_fields {message : Message.Throttling}
    (minInterval : Fits64 message.minInterval) (queueTimeout : Fits64 message.queueTimeout) :
    Throttling.read? message.fields =
      some { name := message.name
             minIntervalMillisOfRequests := message.minInterval
             queueTimeoutMillis := message.queueTimeout } := by
  simp [Throttling.read?, Message.Throttling.fields, scalar?, lastValue?_int64 _ minInterval,
    lastValue?_int64 _ queueTimeout]

theorem ConcurrencyLimit.fit_fields (message : Message.ConcurrencyLimit) :
    Fit message.fields := by
  simp [Message.ConcurrencyLimit.fields]

/-- A concurrency limit is read back. -/
theorem ConcurrencyLimit.read?_fields {message : Message.ConcurrencyLimit}
    (maxConcurrency : Fits64 message.maxConcurrency) :
    ConcurrencyLimit.read? message.fields =
      some { name := message.name
             limitMode := message.limitMode.code
             maxConcurrency := message.maxConcurrency } := by
  simp [ConcurrencyLimit.read?, Message.ConcurrencyLimit.fields, scalar?,
    lastValue?_int64 _ maxConcurrency, lastValue?_int32 _ (fits32_limitMode _)]

theorem CircuitBreaker.fit_fields {message : Message.CircuitBreaker}
    (triggerRatio : message.triggerRatio.Normal) : Fit message.fields := by
  simp [Message.CircuitBreaker.fields, fit_doubleField _ _ triggerRatio]

/-- The condition of slow requests is read back. -/
theorem SlowCondition.read?_fields {millis : Int} (fits : Fits32 millis) :
    SlowCondition.read? (intField 1 millis) = some { maxAllowedRtMillis := millis } := by
  simp [SlowCondition.read?, scalar?, lastValue?_int32 _ fits]

/-- A circuit breaker is read back, its ratio without the sign of a zero. -/
theorem CircuitBreaker.read?_fields {message : Message.CircuitBreaker}
    (triggerRatio : message.triggerRatio.Normal) (statDuration : Fits64 message.statDuration)
    (recoveryTimeout : Fits32 message.recoveryTimeout)
    (minRequestAmount : Fits32 message.minRequestAmount)
    (maxAllowedRt : Fits32 message.maxAllowedRtMillis) :
    CircuitBreaker.read? message.fields =
      some { name := message.name
             strategy := message.strategy.code
             triggerRatio := message.triggerRatio.withoutZeroSign
             statDuration := message.statDuration
             statDurationTimeUnit := message.statDurationUnit.code
             recoveryTimeout := message.recoveryTimeout
             recoveryTimeoutTimeUnit := message.recoveryTimeoutUnit.code
             minRequestAmount := message.minRequestAmount
             slowCondition := some { maxAllowedRtMillis := message.maxAllowedRtMillis }
             errorCondition := some {} } := by
  have slow : nested? SlowCondition.read? 9 message.fields =
      some (some { maxAllowedRtMillis := message.maxAllowedRtMillis }) :=
    nested?_single (by simp [Message.CircuitBreaker.fields]) (by simp)
      (SlowCondition.read?_fields maxAllowedRt)
  have empty : occurrences 10 message.fields = [.delimited (writeFields [])] := by
    simp [Message.CircuitBreaker.fields]
  have error : nested? ErrorCondition.read? 10 message.fields = some (some {}) :=
    nested?_single empty fit_nil rfl
  simp only [CircuitBreaker.read?, slow, error]
  simp [Message.CircuitBreaker.fields, scalar?, lastValue?_doubleField _ triggerRatio,
    lastValue?_int64 _ statDuration, lastValue?_int32 _ recoveryTimeout,
    lastValue?_int32 _ minRequestAmount, lastValue?_int32 _ (fits32_breakerStrategy _),
    lastValue?_int32 _ (fits32_timeUnit _)]

theorem FaultTolerance.fit_fields (message : Message.FaultTolerance) : Fit message.fields := by
  simp [Message.FaultTolerance.fields]

/-- A fault-tolerance rule is read back; no action is given. -/
theorem FaultTolerance.read?_fields (message : Message.FaultTolerance) :
    FaultTolerance.read? message.fields =
      some { targets := message.targets.map fun target => { targetResourceName := target }
             strategies := message.strategies.map fun strategy =>
               { name := strategy.name, kind := strategy.kind }
             action := none } := by
  have targets : repeated? (Payload.message? TargetReference.read?) 1 message.fields =
      some (message.targets.map fun target => { targetResourceName := target }) := by
    simp only [repeated?, Message.FaultTolerance.fields, occurrences_append,
      occurrences_map_messageField]
    simpa using mapM_messages (by simp) fun target _ => by simp [TargetReference.read?, scalar?]
  have strategies : repeated? (Payload.message? Reference.read?) 2 message.fields =
      some (message.strategies.map fun strategy =>
        { name := strategy.name, kind := strategy.kind }) := by
    simp only [repeated?, Message.FaultTolerance.fields, occurrences_append,
      occurrences_map_messageField]
    simpa using mapM_messages (by simp [Message.StrategyReference.fields]) fun strategy _ => by
      simp [Reference.read?, scalar?, Message.StrategyReference.fields]
  have action : nested? Reference.read? 3 message.fields = some none :=
    nested?_none _ (by simp [Message.FaultTolerance.fields])
  simp [FaultTolerance.read?, targets, strategies, action]

end RulePlane.Received
