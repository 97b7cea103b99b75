import RulePlane.KindTable
import RulePlane.Proofs.FaultToleranceReading
import RulePlane.Proofs.PolicyRanges
import RulePlane.Proofs.RouteReading

/-!
# What rules should say

A client that receives a rule reads its bytes as the type that its address names (`content?`).
`denoted?` says what it should find there, for each supported kind in terms of the policy and of the
names of its resource. It is stated without the messages of the writer, and the laws at the end say
that those messages, as they are read, are what the policy denotes. That rules carry them intact is
left to `FaithfulRules`.
-/

namespace RulePlane

open Wire
open Number (Binary64)

/-! ## What a client reads -/

/-- A message of one of the types that rules carry. -/
inductive Received.Content where
  | rateLimit (message : Received.RateLimit)
  | throttling (message : Received.Throttling)
  | concurrencyLimit (message : Received.ConcurrencyLimit)
  | circuitBreaker (message : Received.CircuitBreaker)
  | faultTolerance (message : Received.FaultTolerance)
  | routeConfiguration (message : Received.RouteConfiguration)
deriving DecidableEq, Repr

/-- The reader of the type that an address names. -/
def Received.reader? (typeUrl : String) : Option (List Field → Option Received.Content) :=
  [("type.googleapis.com/io.opensergo.proto.fault_tolerance.v1.RateLimitStrategy",
      fun fields => (RateLimit.read? fields).map Content.rateLimit),
    ("type.googleapis.com/io.opensergo.proto.fault_tolerance.v1.ThrottlingStrategy",
      fun fields => (Throttling.read? fields).map Content.throttling),
    ("type.googleapis.com/io.opensergo.proto.fault_tolerance.v1.ConcurrencyLimitStrategy",
      fun fields => (ConcurrencyLimit.read? fields).map Content.concurrencyLimit),
    ("type.googleapis.com/io.opensergo.proto.fault_tolerance.v1.CircuitBreakerStrategy",
      fun fields => (CircuitBreaker.read? fields).map Content.circuitBreaker),
    ("type.googleapis.com/io.opensergo.proto.fault_tolerance.v1.FaultToleranceRule",
      fun fields => (FaultTolerance.read? fields).map Content.faultTolerance),
    ("type.googleapis.com/envoy.config.route.v3.RouteConfiguration",
      fun fields => (RouteConfiguration.read? fields).map Content.routeConfiguration)].lookup
    typeUrl

/-- Read a rule by the rules of the type that its address names. -/
def Rule.content? (rule : Rule) : Option Received.Content := do
  let read ← Received.reader? rule.typeUrl
  let fields ← readFields? rule.value
  read fields

namespace Received

/-- Change the ratio of a circuit breaker; no other message has one. -/
def Content.mapRatio (change : Binary64 → Binary64) : Content → Content
  | .circuitBreaker message =>
      .circuitBreaker { message with triggerRatio := change message.triggerRatio }
  | other => other

end Received

/-- A number without the sign of a zero or of what is no number. -/
def Number.Binary64.withoutIdleSign : Binary64 → Binary64
  | .nan _ => .nan false
  | number => number.withoutZeroSign

/-! ## What policies denote -/

namespace Received

open Policy Quantity

/-- The number that an enumeration has for a name; a name that it does not know has zero. -/
def memberNumber (members : List (String × Int)) (name : String) : Int :=
  (members.lookup name).getD 0

/-- The milliseconds of a duration if it can be read and they are below a limit, else `-1`. -/
def millisBelow (limit : Nat) (duration : String) : Int :=
  match parseMillis duration with
  | .ok millis => if millis < limit then millis else -1
  | .error _ => -1

/-- The milliseconds of a duration in a field of 64 bits. -/
def millis64 : String → Int := millisBelow 0x8000000000000000

/-- The milliseconds of a duration in a field of 32 bits. -/
def millis32 : String → Int := millisBelow 0x80000000

/-- The number `-1`. -/
def minusOne : Binary64 := .finite true 0x10000000000000 (-52)

/-- The fraction of a ratio if it can be read, else `-1`. -/
def fraction (ratio : String) : Binary64 :=
  match parseRatio ratio with
  | .ok number => number
  | .error _ => minusOne

/-- What a rate limit denotes; its period is in seconds. -/
def RateLimit.denoted (name : String) (policy : Policy.RateLimit) : RateLimit where
  name := name
  metricType := memberNumber [("RequestAmount", 1)] policy.metricType
  limitMode := memberNumber [("Local", 1), ("Global", 2)] policy.limitMode
  threshold := policy.threshold
  statDuration := policy.statDurationSeconds
  statDurationTimeUnit := 2

/-- What a throttling denotes. -/
def Throttling.denoted (name : String) (policy : Policy.Throttling) : Throttling where
  name := name
  minIntervalMillisOfRequests := millis64 policy.minIntervalOfRequests
  queueTimeoutMillis := millis64 policy.queueTimeout

/-- What a concurrency limit denotes. -/
def ConcurrencyLimit.denoted (name : String) (policy : Policy.ConcurrencyLimit) :
    ConcurrencyLimit where
  name := name
  limitMode := memberNumber [("Local", 1), ("Global", 2)] policy.limitMode
  maxConcurrency := policy.maxConcurrency

/-- What a circuit breaker denotes; its periods are in milliseconds. -/
def CircuitBreaker.denoted (name : String) (policy : Policy.CircuitBreaker) : CircuitBreaker where
  name := name
  strategy := memberNumber [("SlowRequestRatio", 1), ("ErrorRequestRatio", 2)] policy.strategy
  triggerRatio := fraction policy.triggerRatio
  statDuration := millis64 policy.statDuration
  statDurationTimeUnit := 1
  recoveryTimeout := millis32 policy.recoveryTimeout
  recoveryTimeoutTimeUnit := 1
  minRequestAmount := policy.minRequestAmount
  slowCondition := some { maxAllowedRtMillis := millis32 policy.maxAllowedRt }
  errorCondition := some {}

/-- What a fault-tolerance rule denotes. -/
def FaultTolerance.denoted (policy : Policy.FaultTolerance) : FaultTolerance where
  targets := policy.targets.map fun target => { targetResourceName := target }
  strategies := policy.strategies.map fun strategy =>
    { name := strategy.name, kind := strategy.kind }
  action := none

/-- The pattern that counts, as a member of a choice: exact before leading before regular
    expression, among those that are given and not empty. -/
def preferred? {α : Type} (exact leading : String → α) (regex : RegexMatcher → α)
    (request : StringMatch) : Option α :=
  match given request.exact, given request.leading, given request.regex with
  | some text, _, _ => some (exact text)
  | none, some text, _ => some (leading text)
  | none, none, some text => some (regex { regex := text })
  | none, none, none => none

/-- What a named pattern for a header denotes. -/
def HeaderMatcher.denoted (entry : String × StringMatch) : HeaderMatcher where
  name := entry.1
  pattern := preferred? .exact .leading .regex entry.2

/-- What a named pattern for a query parameter denotes. -/
def QueryParameterMatcher.denoted (entry : String × StringMatch) : QueryParameterMatcher where
  name := entry.1
  stringMatch := (preferred? .exact .leading .regex entry.2).map fun pattern =>
    { pattern := some pattern }

/-- The full name of a host in a namespace. -/
def qualified (host scope : String) : String := host ++ ("." ++ scope ++ ".svc.cluster.local")

/-- The name of the cluster of an endpoint. -/
def clusterOf (scope : String) (endpoint : Endpoint) : String :=
  "outbound||" ++ endpoint.subset ++ "|" ++ qualified endpoint.host scope

/-- What the destinations of a route denote: a single one a cluster or a plugin that falls back,
    any other number of them clusters by weight, where a negative weight is zero. -/
def ClusterSpecifier.denoted (scope : String) : List RouteDestination → ClusterSpecifier
  | [⟨⟨endpoint, some fallback⟩, _⟩] =>
      .inlinePlugin (.fallback (clusterOf scope endpoint) (clusterOf scope fallback))
  | [⟨⟨endpoint, none⟩, _⟩] => .cluster (clusterOf scope endpoint)
  | destinations =>
      .weightedClusters { clusters := destinations.map fun each =>
        { name := clusterOf scope each.destination.endpoint, weight := some each.weight.toNat } }

/-- What a route denotes: the patterns of all its match requests, and its destinations. -/
def Route.denoted (scope : String) (http : HttpRoute) : Route where
  requests := some {
    headers := (http.requests.flatMap MatchRequest.headers).map .denoted
    queryParameters := (http.requests.flatMap MatchRequest.queryParams).map .denoted }
  action := some { clusterSpecifier := some (.denoted scope http.route) }

/-- What a virtual service denotes: one virtual host, under the name of the service. -/
def RouteConfiguration.denoted (name scope : String) (service : VirtualService) :
    RouteConfiguration where
  name := name
  virtualHosts := [{
    name := name
    domains := service.hosts.map (qualified · scope)
    routes := service.http.map (Route.denoted scope) }]

/-- What a resource denotes as one of a kind; nothing if it cannot be read as such. -/
def denoted? (kind : Kind) (resource : Resource) : Option Content :=
  let read {α : Type} (ofDocument? : Document → Option α) : Option α :=
    resource.spec.bind ofDocument?
  if kind.text = "fault-tolerance.opensergo.io/v1alpha1/RateLimitStrategy" then
    (read Policy.RateLimit.ofDocument?).map fun policy =>
      .rateLimit (.denoted resource.anyName policy)
  else if kind.text = "fault-tolerance.opensergo.io/v1alpha1/ThrottlingStrategy" then
    (read Policy.Throttling.ofDocument?).map fun policy =>
      .throttling (.denoted resource.anyName policy)
  else if kind.text = "fault-tolerance.opensergo.io/v1alpha1/ConcurrencyLimitStrategy" then
    (read Policy.ConcurrencyLimit.ofDocument?).map fun policy =>
      .concurrencyLimit (.denoted resource.anyName policy)
  else if kind.text = "fault-tolerance.opensergo.io/v1alpha1/CircuitBreakerStrategy" then
    (read Policy.CircuitBreaker.ofDocument?).map fun policy =>
      .circuitBreaker (.denoted resource.anyName policy)
  else if kind.text = "fault-tolerance.opensergo.io/v1alpha1/FaultToleranceRule" then
    (read Policy.FaultTolerance.ofDocument?).map fun policy => .faultTolerance (.denoted policy)
  else if kind.text = "networking.istio.io/v1beta1/VirtualService" then
    (read Policy.VirtualService.ofDocument?).map fun service =>
      .routeConfiguration (.denoted resource.anyName resource.scopeOrEmpty service)
  else none

/-! ## Messages say what policies denote -/

theorem memberNumber_nil (name : String) : memberNumber [] name = 0 := rfl

theorem memberNumber_cons (member name : String) (number : Int) (rest : List (String × Int)) :
    memberNumber ((member, number) :: rest) name =
      if name = member then number else memberNumber rest name := by
  by_cases same : name = member
  · simp [memberNumber, same]
  · have differs : (name == member) = false := by simpa using same
    simp [memberNumber, List.lookup_cons, differs, same]

/-- A metric type is sent as the number of its name. -/
theorem code_metricType (name : String) :
    (Message.MetricType.ofName name).code = memberNumber [("RequestAmount", 1)] name := by
  simp only [Message.MetricType.ofName, memberNumber_cons, memberNumber_nil]
  split <;> rfl

/-- A limit mode is sent as the number of its name. -/
theorem code_limitMode (name : String) :
    (Message.LimitMode.ofName name).code = memberNumber [("Local", 1), ("Global", 2)] name := by
  simp only [Message.LimitMode.ofName, memberNumber_cons, memberNumber_nil]
  split
  · rfl
  · split <;> rfl

/-- A breaker strategy is sent as the number of its name. -/
theorem code_breakerStrategy (name : String) :
    (Message.BreakerStrategy.ofName name).code =
      memberNumber [("SlowRequestRatio", 1), ("ErrorRequestRatio", 2)] name := by
  simp only [Message.BreakerStrategy.ofName, memberNumber_cons, memberNumber_nil]
  split
  · rfl
  · split <;> rfl

/-- No duration that can be read exceeds 64 bits. -/
theorem millis_eq (duration : String) : Message.millis duration = millis64 duration := by
  cases parsed : parseMillis duration with
  | error fault => simp [Message.millis, millis64, millisBelow, parsed]
  | ok millis =>
    have bound := parseMillis_le parsed
    have below : millis < 0x8000000000000000 := by
      simp only [greatestMillis] at bound
      omega
    simp [Message.millis, millis64, millisBelow, parsed, below]

theorem millis32_eq (duration : String) : Message.millis32 duration = millis32 duration := by
  cases parsed : parseMillis duration with
  | error fault => simp [Message.millis32, Message.millis, millis32, millisBelow, parsed]
  | ok millis =>
    simp only [Message.millis32, Message.millis, millis32, millisBelow, parsed]
    split <;> split <;> omega

/-- What is sent of a duration fits the field. -/
theorem millisBelow_range (limit : Nat) (some : 0 < limit) (duration : String) :
    -1 ≤ millisBelow limit duration ∧ millisBelow limit duration < limit := by
  simp only [millisBelow]
  split
  · split <;> omega
  · omega

theorem fits64_millis64 (duration : String) : Fits64 (millis64 duration) := by
  have range := millisBelow_range 0x8000000000000000 (by decide) duration
  simp only [Fits64, millis64]
  omega

theorem fits32_millis32 (duration : String) : Fits32 (millis32 duration) := by
  have range := millisBelow_range 0x80000000 (by decide) duration
  simp only [Fits32, millis32]
  omega

theorem fraction_eq (ratio : String) : Message.fraction ratio = fraction ratio := by
  have one : Binary64.ofRatio true 1 1 = minusOne := by decide
  cases read : parseRatio ratio <;> simp [Message.fraction, fraction, read, one]

/-- What is sent of a ratio is a number in normal form. -/
theorem normal_fraction (ratio : String) : (fraction ratio).Normal := by
  simp only [fraction]
  split
  · exact normal_parseRatio ‹_›
  · exact ⟨by decide, by decide, by decide, Or.inl (by decide)⟩

/-- The pattern that a matcher is sent with is the one that counts. -/
theorem preferred?_eq {α : Type} (exact leading : String → α) (regex : RegexMatcher → α)
    (member : Message.Pattern → α) (isExact : ∀ text, member (.exact text) = exact text)
    (isLeading : ∀ text, member (.leading text) = leading text)
    (isRegex : ∀ text, member (.regex text) = regex { regex := text }) (request : StringMatch) :
    (Message.Pattern.ofMatch? request).map member = preferred? exact leading regex request := by
  simp only [Message.Pattern.ofMatch?, preferred?]
  cases given request.exact <;> cases given request.leading <;> cases given request.regex <;>
    simp [isExact, isLeading, isRegex]

theorem HeaderMatcher.ofSent_ofEntry (entry : String × StringMatch) :
    HeaderMatcher.ofSent (Message.Matcher.ofEntry entry) = .denoted entry := by
  have pattern := preferred?_eq HeaderPattern.exact .leading .regex .ofSent
    (fun _ => rfl) (fun _ => rfl) (fun _ => rfl) entry.2
  simp only [HeaderMatcher.ofSent, Message.Matcher.ofEntry, pattern, HeaderMatcher.denoted]

theorem QueryParameterMatcher.ofSent_ofEntry (entry : String × StringMatch) :
    QueryParameterMatcher.ofSent (Message.Matcher.ofEntry entry) = .denoted entry := by
  have pattern := preferred?_eq TextPattern.exact .leading .regex .ofSent
    (fun _ => rfl) (fun _ => rfl) (fun _ => rfl) entry.2
  simp only [QueryParameterMatcher.ofSent, Message.Matcher.ofEntry,
    QueryParameterMatcher.denoted, ← pattern, Option.map_map]
  rfl

theorem qualifiedHost_eq (host scope : String) :
    Message.qualifiedHost host scope = qualified host scope := by
  simp only [Message.qualifiedHost, qualified, String.append_assoc]

theorem clusterName_eq (endpoint : Endpoint) (scope : String) :
    Message.clusterName endpoint scope = clusterOf scope endpoint := by
  simp only [Message.clusterName, clusterOf, qualifiedHost_eq]

theorem ClusterSpecifier.ofSent_ofDestinations (scope : String)
    (destinations : List RouteDestination) :
    ClusterSpecifier.ofSent (Message.ClusterChoice.ofDestinations scope destinations) =
      .denoted scope destinations := by
  match destinations with
  | [⟨⟨endpoint, some fallback⟩, weight⟩] =>
    simp [Message.ClusterChoice.ofDestinations, ofSent, denoted, clusterName_eq]
  | [⟨⟨endpoint, none⟩, weight⟩] =>
    simp [Message.ClusterChoice.ofDestinations, ofSent, denoted, clusterName_eq]
  | [] => rfl
  | first :: second :: others =>
    simp [Message.ClusterChoice.ofDestinations, ofSent, denoted, clusterName_eq,
      ClusterWeight.ofSent, Function.comp_def]

theorem Route.ofSent_ofHttpRoute (scope : String) (http : HttpRoute) :
    Route.ofSent (Message.Route.ofHttpRoute scope http) = .denoted scope http := by
  simp [Route.ofSent, Message.Route.ofHttpRoute, Route.denoted, List.map_flatMap,
    Function.comp_def, HeaderMatcher.ofSent_ofEntry, QueryParameterMatcher.ofSent_ofEntry,
    ClusterSpecifier.ofSent_ofDestinations]

/-- A route configuration says what the virtual service denotes. -/
theorem RouteConfiguration.ofSent_ofPolicy (name scope : String) (service : VirtualService) :
    RouteConfiguration.ofSent (Message.RouteConfiguration.ofPolicy name scope service) =
      .denoted name scope service := by
  simp [RouteConfiguration.ofSent, VirtualHost.ofSent, Message.RouteConfiguration.ofPolicy,
    RouteConfiguration.denoted, qualifiedHost_eq, Function.comp_def, Route.ofSent_ofHttpRoute]

/-- The weights that a route is sent with fit 32 bits. -/
theorem fits_ofDestinations (scope : String) {destinations : List RouteDestination}
    (fit : ∀ destination ∈ destinations, Fits32 destination.weight) :
    (Message.ClusterChoice.ofDestinations scope destinations).Fits := by
  unfold Message.ClusterChoice.ofDestinations
  split
  · split <;> trivial
  · intro cluster member
    obtain ⟨destination, listed, rfl⟩ := List.mem_map.1 member
    have range := fit destination listed
    simp only [Fits32] at range
    dsimp only
    omega

/-! ## What is read of each message -/

/-- Of a rate limit is read what its policy denotes. -/
theorem RateLimit.read?_ofPolicy (name : String) {policy : Policy.RateLimit}
    (threshold : Fits64 policy.threshold) (statDuration : Fits32 policy.statDurationSeconds) :
    RateLimit.read? (Message.RateLimit.ofPolicy name policy).fields =
      some (.denoted name policy) := by
  rw [RateLimit.read?_fields threshold statDuration]
  simp [RateLimit.denoted, Message.RateLimit.ofPolicy, code_metricType, code_limitMode,
    Message.TimeUnit.code]

/-- Of a throttling is read what its policy denotes. -/
theorem Throttling.read?_ofPolicy (name : String) (policy : Policy.Throttling) :
    Throttling.read? (Message.Throttling.ofPolicy name policy).fields =
      some (.denoted name policy) := by
  have fits (duration : String) : Fits64 (Message.millis duration) :=
    millis_eq duration ▸ fits64_millis64 duration
  rw [Throttling.read?_fields (fits _) (fits _)]
  simp [Throttling.denoted, Message.Throttling.ofPolicy, millis_eq]

/-- Of a concurrency limit is read what its policy denotes. -/
theorem ConcurrencyLimit.read?_ofPolicy (name : String) {policy : Policy.ConcurrencyLimit}
    (maxConcurrency : Fits64 policy.maxConcurrency) :
    ConcurrencyLimit.read? (Message.ConcurrencyLimit.ofPolicy name policy).fields =
      some (.denoted name policy) := by
  rw [ConcurrencyLimit.read?_fields maxConcurrency]
  simp [ConcurrencyLimit.denoted, Message.ConcurrencyLimit.ofPolicy, code_limitMode]

/-- A circuit breaker is sent with a ratio in normal form. -/
theorem normal_triggerRatio (name : String) (policy : Policy.CircuitBreaker) :
    (Message.CircuitBreaker.ofPolicy name policy).triggerRatio.Normal := by
  simpa [Message.CircuitBreaker.ofPolicy, fraction_eq] using normal_fraction policy.triggerRatio

/-- Of a circuit breaker is read what its policy denotes, but for the sign of a zero. -/
theorem CircuitBreaker.read?_ofPolicy (name : String) {policy : Policy.CircuitBreaker}
    (minRequestAmount : Fits32 policy.minRequestAmount) :
    CircuitBreaker.read? (Message.CircuitBreaker.ofPolicy name policy).fields =
      some { denoted name policy with
        triggerRatio := (fraction policy.triggerRatio).withoutZeroSign } := by
  have statDuration : Fits64 (Message.millis policy.statDuration) :=
    millis_eq policy.statDuration ▸ fits64_millis64 policy.statDuration
  have fits (duration : String) : Fits32 (Message.millis32 duration) :=
    millis32_eq duration ▸ fits32_millis32 duration
  rw [CircuitBreaker.read?_fields (normal_triggerRatio name policy) statDuration (fits _)
    minRequestAmount (fits _)]
  simp [CircuitBreaker.denoted, Message.CircuitBreaker.ofPolicy, code_breakerStrategy, millis_eq,
    millis32_eq, fraction_eq, Message.TimeUnit.code]

/-- Of a fault-tolerance rule is read what its policy denotes. -/
theorem FaultTolerance.read?_ofPolicy (policy : Policy.FaultTolerance) :
    FaultTolerance.read? (Message.FaultTolerance.ofPolicy policy).fields =
      some (.denoted policy) := by
  rw [FaultTolerance.read?_fields]
  simp [FaultTolerance.denoted, Message.FaultTolerance.ofPolicy]

/-- Of a route configuration is read what the virtual service denotes. -/
theorem RouteConfiguration.read?_ofPolicy (name scope : String) {service : VirtualService}
    (fit : ∀ http ∈ service.http, ∀ destination ∈ http.route, Fits32 destination.weight) :
    RouteConfiguration.read? (Message.RouteConfiguration.ofPolicy name scope service).fields =
      some (.denoted name scope service) := by
  have choices : ∀ host ∈ (Message.RouteConfiguration.ofPolicy name scope service).virtualHosts,
      ∀ route ∈ host.routes, route.choice.Fits := by
    intro host member route listed
    obtain rfl := List.mem_singleton.1 member
    obtain ⟨http, present, rfl⟩ := List.mem_map.1 listed
    exact fits_ofDestinations scope (fit http present)
  rw [RouteConfiguration.read?_fields choices, RouteConfiguration.ofSent_ofPolicy]

end Received

end RulePlane
