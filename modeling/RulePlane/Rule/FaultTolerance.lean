import RulePlane.Message.FaultTolerance
import RulePlane.Policy.FaultTolerance
import RulePlane.Quantity.Duration
import RulePlane.Quantity.Ratio
import RulePlane.Resource
import RulePlane.Rule

/-!
# Rules of fault-tolerance policies

What clients are told of each fault-tolerance policy. Durations become milliseconds and ratios
fractions; one that cannot be read becomes `-1`, and so does a duration that does not fit the field
it is sent in. Names that no enumeration knows become its unknown member.
-/

namespace RulePlane

open Quantity

/-- The address of a fault-tolerance message. -/
def Rule.faultToleranceTypeUrl (message : String) : String :=
  "type.googleapis.com/io.opensergo.proto.fault_tolerance.v1." ++ message

/-- The milliseconds of a duration, or `-1`. -/
def Message.millis (duration : String) : Int :=
  match parseMillis duration with
  | .ok number => number
  | .error _ => -1

/-- The milliseconds of a duration in 32 bits, or `-1`. -/
def Message.millis32 (duration : String) : Int :=
  if millis duration < 0x80000000 then millis duration else -1

/-- The fraction of a ratio, or `-1`. -/
def Message.fraction (ratio : String) : Number.Binary64 :=
  match parseRatio ratio with
  | .ok number => number
  | .error _ => Number.Binary64.ofRatio true 1 1

/-- The metric type of a name. -/
def Message.MetricType.ofName (name : String) : Message.MetricType :=
  if name = "RequestAmount" then .requestAmount else .unknown

/-- The limit mode of a name. -/
def Message.LimitMode.ofName (name : String) : Message.LimitMode :=
  if name = "Local" then .localMode else if name = "Global" then .globalMode else .unknown

/-- The breaker strategy of a name. -/
def Message.BreakerStrategy.ofName (name : String) : Message.BreakerStrategy :=
  if name = "SlowRequestRatio" then .slowRequestRatio
  else if name = "ErrorRequestRatio" then .errorRequestRatio
  else .unknown

/-- What clients are told of a rate limit. -/
def Message.RateLimit.ofPolicy (name : String) (policy : Policy.RateLimit) : Message.RateLimit where
  name := name
  metricType := .ofName policy.metricType
  limitMode := .ofName policy.limitMode
  threshold := policy.threshold
  statDuration := policy.statDurationSeconds
  statDurationUnit := .seconds

/-- What clients are told of a throttling. -/
def Message.Throttling.ofPolicy (name : String) (policy : Policy.Throttling) :
    Message.Throttling where
  name := name
  minInterval := millis policy.minIntervalOfRequests
  queueTimeout := millis policy.queueTimeout

/-- What clients are told of a concurrency limit. -/
def Message.ConcurrencyLimit.ofPolicy (name : String) (policy : Policy.ConcurrencyLimit) :
    Message.ConcurrencyLimit where
  name := name
  limitMode := .ofName policy.limitMode
  maxConcurrency := policy.maxConcurrency

/-- What clients are told of a circuit breaker. -/
def Message.CircuitBreaker.ofPolicy (name : String) (policy : Policy.CircuitBreaker) :
    Message.CircuitBreaker where
  name := name
  strategy := .ofName policy.strategy
  triggerRatio := fraction policy.triggerRatio
  statDuration := millis policy.statDuration
  statDurationUnit := .milliseconds
  recoveryTimeout := millis32 policy.recoveryTimeout
  recoveryTimeoutUnit := .milliseconds
  minRequestAmount := policy.minRequestAmount
  maxAllowedRtMillis := millis32 policy.maxAllowedRt

/-- What clients are told of a fault-tolerance rule. -/
def Message.FaultTolerance.ofPolicy (policy : Policy.FaultTolerance) : Message.FaultTolerance where
  targets := policy.targets
  strategies := policy.strategies.map fun strategy => ⟨strategy.name, strategy.kind⟩

/-- The rule of a rate limit. -/
def Rule.ofRateLimit? (resource : Resource) : Option Rule := do
  let policy ← resource.spec.bind Policy.RateLimit.ofDocument?
  some ⟨faultToleranceTypeUrl "RateLimitStrategy",
    Wire.writeFields (Message.RateLimit.ofPolicy resource.anyName policy).fields⟩

/-- The rule of a throttling. -/
def Rule.ofThrottling? (resource : Resource) : Option Rule := do
  let policy ← resource.spec.bind Policy.Throttling.ofDocument?
  some ⟨faultToleranceTypeUrl "ThrottlingStrategy",
    Wire.writeFields (Message.Throttling.ofPolicy resource.anyName policy).fields⟩

/-- The rule of a concurrency limit. -/
def Rule.ofConcurrencyLimit? (resource : Resource) : Option Rule := do
  let policy ← resource.spec.bind Policy.ConcurrencyLimit.ofDocument?
  some ⟨faultToleranceTypeUrl "ConcurrencyLimitStrategy",
    Wire.writeFields (Message.ConcurrencyLimit.ofPolicy resource.anyName policy).fields⟩

/-- The rule of a circuit breaker. -/
def Rule.ofCircuitBreaker? (resource : Resource) : Option Rule := do
  let policy ← resource.spec.bind Policy.CircuitBreaker.ofDocument?
  some ⟨faultToleranceTypeUrl "CircuitBreakerStrategy",
    Wire.writeFields (Message.CircuitBreaker.ofPolicy resource.anyName policy).fields⟩

/-- The rule of a fault-tolerance rule, which does not carry its own name. -/
def Rule.ofFaultTolerance? (resource : Resource) : Option Rule := do
  let policy ← resource.spec.bind Policy.FaultTolerance.ofDocument?
  some ⟨faultToleranceTypeUrl "FaultToleranceRule",
    Wire.writeFields (Message.FaultTolerance.ofPolicy policy).fields⟩

end RulePlane
