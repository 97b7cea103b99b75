import RulePlane.Document

/-!
# Fault-tolerance policies

The specifications of the five fault-tolerance kinds, and how each is read from a document. The
order of the fields is part of the format: a specification may be given as the sequence of its
values.
-/

namespace RulePlane.Policy

open Document

/-- How many requests of a metric are let through in a period. -/
structure RateLimit where
  metricType : String
  limitMode : String
  threshold : Int
  statDurationSeconds : Int
deriving DecidableEq, Repr

/-- How far apart requests are spaced, and how long one may wait. Both are durations. -/
structure Throttling where
  minIntervalOfRequests : String
  queueTimeout : String
deriving DecidableEq, Repr

/-- How many requests may be in progress at once. -/
structure ConcurrencyLimit where
  maxConcurrency : Int
  limitMode : String
deriving DecidableEq, Repr

/-- When a circuit opens and closes again. -/
structure CircuitBreaker where
  strategy : String
  triggerRatio : String
  statDuration : String
  recoveryTimeout : String
  minRequestAmount : Int
  /-- The duration beyond which a request is slow; empty if none is given. -/
  maxAllowedRt : String
deriving DecidableEq, Repr

/-- A reference to a strategy by name and kind. -/
structure StrategyReference where
  name : String
  kind : String
deriving DecidableEq, Repr

/-- Which strategies apply to which resources of an application. -/
structure FaultTolerance where
  targets : List String
  strategies : List StrategyReference
deriving DecidableEq, Repr

/-- Read a rate limit. -/
def RateLimit.ofDocument? : Document → Option RateLimit :=
  structure? do
    let metricType ← required "metricType" text?
    let limitMode ← required "limitMode" text?
    let threshold ← required "threshold" int64?
    let statDurationSeconds ← required "statDurationSeconds" int32?
    pure { metricType, limitMode, threshold, statDurationSeconds }

/-- Read a throttling. -/
def Throttling.ofDocument? : Document → Option Throttling :=
  structure? do
    let minIntervalOfRequests ← required "minIntervalOfRequests" text?
    let queueTimeout ← required "queueTimeout" text?
    pure { minIntervalOfRequests, queueTimeout }

/-- Read a concurrency limit. -/
def ConcurrencyLimit.ofDocument? : Document → Option ConcurrencyLimit :=
  structure? do
    let maxConcurrency ← required "maxConcurrency" int64?
    let limitMode ← required "limitMode" text?
    pure { maxConcurrency, limitMode }

/-- Read the conditions under which a request is slow: one duration, empty by default. -/
def slowConditions? : Document → Option String :=
  structure? (defaulted "maxAllowedRt" "" text?)

/-- Read the conditions under which a request has failed, which have no fields yet. -/
def errorConditions? : Document → Option Unit :=
  structure? (pure ())

/-- Read a circuit breaker. -/
def CircuitBreaker.ofDocument? : Document → Option CircuitBreaker :=
  structure? do
    let strategy ← required "strategy" text?
    let triggerRatio ← required "triggerRatio" text?
    let statDuration ← required "statDuration" text?
    let recoveryTimeout ← required "recoveryTimeout" text?
    let minRequestAmount ← required "minRequestAmount" int32?
    let maxAllowedRt ← defaulted "slowConditions" "" slowConditions?
    let _ ← defaulted "errorConditions" () errorConditions?
    pure { strategy, triggerRatio, statDuration, recoveryTimeout, minRequestAmount, maxAllowedRt }

/-- Read a reference to a resource of an application. -/
def targetReference? : Document → Option String :=
  structure? (required "targetResourceName" text?)

/-- Read a reference to a strategy. -/
def StrategyReference.ofDocument? : Document → Option StrategyReference :=
  structure? do
    let name ← required "name" text?
    let kind ← required "kind" text?
    pure { name, kind }

/-- Read a fault-tolerance rule. -/
def FaultTolerance.ofDocument? : Document → Option FaultTolerance :=
  structure? do
    let targets ← defaulted "targets" [] (sequenceOf? targetReference?)
    let strategies ← defaulted "strategies" [] (sequenceOf? StrategyReference.ofDocument?)
    pure { targets, strategies }

end RulePlane.Policy
