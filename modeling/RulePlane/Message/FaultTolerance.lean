import RulePlane.Wire.Field

/-!
# Fault-tolerance messages

The messages in which fault-tolerance rules reach clients, with the numbers of their fields and of
the members of their enumerations.
-/

namespace RulePlane.Message

open Wire

/-- What a rate limit counts. -/
inductive MetricType where
  | unknown
  | requestAmount
deriving DecidableEq, Repr

/-- Whether a limit holds for each instance or for all together. -/
inductive LimitMode where
  | unknown
  | localMode
  | globalMode
deriving DecidableEq, Repr

/-- Which requests open a circuit. -/
inductive BreakerStrategy where
  | unknown
  | slowRequestRatio
  | errorRequestRatio
deriving DecidableEq, Repr

/-- The unit of a period. -/
inductive TimeUnit where
  | unknown
  | milliseconds
  | seconds
deriving DecidableEq, Repr

/-- The number of a metric type. -/
def MetricType.code : MetricType → Int
  | unknown => 0
  | requestAmount => 1

/-- The number of a limit mode. -/
def LimitMode.code : LimitMode → Int
  | unknown => 0
  | localMode => 1
  | globalMode => 2

/-- The number of a breaker strategy. -/
def BreakerStrategy.code : BreakerStrategy → Int
  | unknown => 0
  | slowRequestRatio => 1
  | errorRequestRatio => 2

/-- The number of a time unit. -/
def TimeUnit.code : TimeUnit → Int
  | unknown => 0
  | milliseconds => 1
  | seconds => 2

/-- A rate limit as clients receive it. -/
structure RateLimit where
  name : String
  metricType : MetricType
  limitMode : LimitMode
  threshold : Int
  statDuration : Int
  statDurationUnit : TimeUnit
deriving DecidableEq, Repr

/-- A throttling as clients receive it; both durations are in milliseconds. -/
structure Throttling where
  name : String
  minInterval : Int
  queueTimeout : Int
deriving DecidableEq, Repr

/-- A concurrency limit as clients receive it. -/
structure ConcurrencyLimit where
  name : String
  limitMode : LimitMode
  maxConcurrency : Int
deriving DecidableEq, Repr

/-- A circuit breaker as clients receive it. -/
structure CircuitBreaker where
  name : String
  strategy : BreakerStrategy
  triggerRatio : Number.Binary64
  statDuration : Int
  statDurationUnit : TimeUnit
  recoveryTimeout : Int
  recoveryTimeoutUnit : TimeUnit
  minRequestAmount : Int
  maxAllowedRtMillis : Int
deriving DecidableEq, Repr

/-- A reference to a strategy as clients receive it. -/
structure StrategyReference where
  name : String
  kind : String
deriving DecidableEq, Repr

/-- A fault-tolerance rule as clients receive it. -/
structure FaultTolerance where
  targets : List String
  strategies : List StrategyReference
deriving DecidableEq, Repr

/-- The fields of a rate limit. -/
def RateLimit.fields (message : RateLimit) : List Field :=
  textField 1 message.name ++ intField 2 message.metricType.code ++
    intField 3 message.limitMode.code ++ intField 4 message.threshold ++
    intField 5 message.statDuration ++ intField 6 message.statDurationUnit.code

/-- The fields of a throttling. -/
def Throttling.fields (message : Throttling) : List Field :=
  textField 1 message.name ++ intField 2 message.minInterval ++ intField 3 message.queueTimeout

/-- The fields of a concurrency limit. -/
def ConcurrencyLimit.fields (message : ConcurrencyLimit) : List Field :=
  textField 1 message.name ++ intField 2 message.limitMode.code ++
    intField 3 message.maxConcurrency

/-- The fields of a circuit breaker. Both conditions are always set; that on errors is empty. -/
def CircuitBreaker.fields (message : CircuitBreaker) : List Field :=
  textField 1 message.name ++ intField 2 message.strategy.code ++
    doubleField 3 message.triggerRatio ++ intField 4 message.statDuration ++
    intField 5 message.statDurationUnit.code ++ intField 6 message.recoveryTimeout ++
    intField 7 message.recoveryTimeoutUnit.code ++ intField 8 message.minRequestAmount ++
    [messageField 9 (intField 1 message.maxAllowedRtMillis), messageField 10 []]

/-- The fields of a reference to a strategy. -/
def StrategyReference.fields (message : StrategyReference) : List Field :=
  textField 1 message.name ++ textField 2 message.kind

/-- The fields of a fault-tolerance rule. -/
def FaultTolerance.fields (message : FaultTolerance) : List Field :=
  message.targets.map (fun target => messageField 1 (textField 1 target)) ++
    message.strategies.map (fun strategy => messageField 2 strategy.fields)

end RulePlane.Message
