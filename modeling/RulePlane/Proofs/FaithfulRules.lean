import RulePlane.Proofs.DenotedRules

/-!
# Rules say what policies denote

Every object that can be read as its kind has a rule, the rule can be read, and what is read is what
the policy denotes (`Faithful`). So two objects of a kind have the same bytes only if they denote
the same. This holds for each kind that is supported from the start.

Ratios are compared up to two things: both zeros are left out of a message, so a negative one is
read as a zero without sign, and what is no number has a sign without meaning.
-/

namespace RulePlane

open Wire
open Number (Binary64)

namespace Received

/-- The rules made from resources say what the resources denote. -/
structure Faithful (makeRule : RuleMaker) (denoted? : Resource → Option Content) : Prop where
  /-- A resource that denotes something has a rule, and no other one has. -/
  made : ∀ resource, (makeRule resource).isSome = (denoted? resource).isSome
  /-- What is read of the rule is what is denoted. -/
  read : ∀ {resource rule content}, makeRule resource = some rule →
    denoted? resource = some content →
      rule.content? = some (content.mapRatio Binary64.withoutZeroSign)
  /-- Rules with the same bytes come from resources that denote the same. -/
  apart : ∀ {resource other rule otherRule content otherContent},
    makeRule resource = some rule → makeRule other = some otherRule →
    denoted? resource = some content → denoted? other = some otherContent →
    rule.value = otherRule.value →
      content.mapRatio Binary64.withoutIdleSign = otherContent.mapRatio Binary64.withoutIdleSign

/-- Without the sign of a zero a number is still the same without any idle sign. -/
theorem withoutIdleSign_withoutZeroSign (number : Binary64) :
    number.withoutZeroSign.withoutIdleSign = number.withoutIdleSign := by
  cases number with
  | nan negative => rfl
  | infinite negative => rfl
  | finite negative mantissa exponent =>
    by_cases zero : mantissa = 0
    · simp [Binary64.withoutZeroSign, Binary64.withoutIdleSign, Binary64.isZero, zero,
        Binary64.zero]
    · simp [Binary64.withoutZeroSign, Binary64.withoutIdleSign, Binary64.isZero, zero]

/-- What is the same without the signs of zeros is the same without any idle sign. -/
theorem Content.mapRatio_withoutIdleSign (content : Content) :
    (content.mapRatio Binary64.withoutZeroSign).mapRatio Binary64.withoutIdleSign =
      content.mapRatio Binary64.withoutIdleSign := by
  cases content <;> simp [mapRatio, withoutIdleSign_withoutZeroSign]

/-- A rule is read by the reader of its address from fields that fit. -/
theorem content?_writeFields {typeUrl : String} {fields : List Field} {content : Content}
    {read : List Field → Option Content} (known : reader? typeUrl = some read)
    (fit : Fit fields) (reads : read fields = some content) :
    Rule.content? ⟨typeUrl, writeFields fields⟩ = some content := by
  simp [Rule.content?, known, readFields?_writeFields fit, reads]

section Kinds

variable {π : Type} {ofDocument? : Document → Option π} {typeUrl : String}
  {fields : Resource → π → List Field} {denoted : Resource → π → Content} {makeRule : RuleMaker}
  {denoted? : Resource → Option Content} {reader : List Field → Option Content}

/-- Rules are faithful if their fields are read as what each policy denotes. -/
theorem Faithful.of_fields
    (makes : ∀ resource, makeRule resource = (resource.spec.bind ofDocument?).bind fun policy =>
      some ⟨typeUrl, writeFields (fields resource policy)⟩)
    (denotes : ∀ resource, denoted? resource =
      (resource.spec.bind ofDocument?).map (denoted resource))
    (known : reader? typeUrl = some reader)
    (reads : ∀ resource document policy, ofDocument? document = some policy →
      Fit (fields resource policy) ∧ reader (fields resource policy) =
        some ((denoted resource policy).mapRatio Binary64.withoutZeroSign)) :
    Faithful makeRule denoted? := by
  have opened : ∀ {resource rule content}, makeRule resource = some rule →
      denoted? resource = some content → ∃ document policy,
        ofDocument? document = some policy ∧ content = denoted resource policy ∧
          rule = ⟨typeUrl, writeFields (fields resource policy)⟩ := by
    intro resource rule content made given
    obtain ⟨policy, parsed, same⟩ := Option.bind_eq_some_iff.1 ((makes resource).symm.trans made)
    rw [denotes, parsed] at given
    cases given
    cases same
    obtain ⟨document, _, parsed⟩ := Option.bind_eq_some_iff.1 parsed
    exact ⟨document, policy, parsed, rfl, rfl⟩
  have read : ∀ {resource rule content}, makeRule resource = some rule →
      denoted? resource = some content →
        rule.content? = some (content.mapRatio Binary64.withoutZeroSign) := by
    intro resource rule content made given
    obtain ⟨document, policy, parsed, rfl, rfl⟩ := opened made given
    obtain ⟨fit, exact⟩ := reads resource document policy parsed
    exact content?_writeFields known fit exact
  refine ⟨fun resource => ?_, read, ?_⟩
  · rw [makes, denotes]
    cases resource.spec.bind ofDocument? <;> rfl
  · intro resource other rule otherRule content otherContent made otherMade given otherGiven same
    -- Rules of one kind have one address, so with the same bytes they are the same rule.
    have sameRule : rule = otherRule := by
      obtain ⟨_, _, _, _, first⟩ := opened made given
      obtain ⟨_, _, _, _, second⟩ := opened otherMade otherGiven
      simp_all
    have readBoth : content.mapRatio Binary64.withoutZeroSign =
        otherContent.mapRatio Binary64.withoutZeroSign := by
      have first := read made given
      rw [sameRule, read otherMade otherGiven] at first
      exact (Option.some.inj first).symm
    have compared := congrArg (Content.mapRatio Binary64.withoutIdleSign) readBoth
    rwa [Content.mapRatio_withoutIdleSign, Content.mapRatio_withoutIdleSign] at compared

end Kinds

/-! ## The supported kinds -/

/-- Rules of rate limits are faithful. -/
theorem faithful_rateLimit : Faithful Rule.ofRateLimit?
    (denoted? ⟨"fault-tolerance.opensergo.io/v1alpha1/RateLimitStrategy"⟩) := by
  apply Faithful.of_fields (fun _ => rfl) (fun _ => rfl) rfl
  intro resource document policy parsed
  obtain ⟨threshold, statDuration⟩ := Policy.RateLimit.reads_fit document policy parsed
  have read := RateLimit.read?_ofPolicy resource.anyName threshold statDuration
  exact ⟨RateLimit.fit_fields _, congrArg (Option.map Content.rateLimit) read⟩

/-- Rules of throttlings are faithful. -/
theorem faithful_throttling : Faithful Rule.ofThrottling?
    (denoted? ⟨"fault-tolerance.opensergo.io/v1alpha1/ThrottlingStrategy"⟩) := by
  apply Faithful.of_fields (fun _ => rfl) (fun _ => rfl) rfl
  intro resource document policy parsed
  have read := Throttling.read?_ofPolicy resource.anyName policy
  exact ⟨Throttling.fit_fields _, congrArg (Option.map Content.throttling) read⟩

/-- Rules of concurrency limits are faithful. -/
theorem faithful_concurrencyLimit : Faithful Rule.ofConcurrencyLimit?
    (denoted? ⟨"fault-tolerance.opensergo.io/v1alpha1/ConcurrencyLimitStrategy"⟩) := by
  apply Faithful.of_fields (fun _ => rfl) (fun _ => rfl) rfl
  intro resource document policy parsed
  have maxConcurrency := Policy.ConcurrencyLimit.reads_fit document policy parsed
  have read := ConcurrencyLimit.read?_ofPolicy resource.anyName maxConcurrency
  exact ⟨ConcurrencyLimit.fit_fields _, congrArg (Option.map Content.concurrencyLimit) read⟩

/-- Rules of circuit breakers are faithful. -/
theorem faithful_circuitBreaker : Faithful Rule.ofCircuitBreaker?
    (denoted? ⟨"fault-tolerance.opensergo.io/v1alpha1/CircuitBreakerStrategy"⟩) := by
  apply Faithful.of_fields (fun _ => rfl) (fun _ => rfl) rfl
  intro resource document policy parsed
  have minRequestAmount := Policy.CircuitBreaker.reads_fit document policy parsed
  have read := CircuitBreaker.read?_ofPolicy resource.anyName minRequestAmount
  exact ⟨CircuitBreaker.fit_fields (normal_triggerRatio _ _),
    congrArg (Option.map Content.circuitBreaker) read⟩

/-- Rules of fault-tolerance rules are faithful. -/
theorem faithful_faultTolerance : Faithful Rule.ofFaultTolerance?
    (denoted? ⟨"fault-tolerance.opensergo.io/v1alpha1/FaultToleranceRule"⟩) := by
  apply Faithful.of_fields (fun _ => rfl) (fun _ => rfl) rfl
  intro resource document policy parsed
  have read := FaultTolerance.read?_ofPolicy policy
  exact ⟨FaultTolerance.fit_fields _, congrArg (Option.map Content.faultTolerance) read⟩

/-- Rules of virtual services are faithful. -/
theorem faithful_virtualService : Faithful Rule.ofVirtualService?
    (denoted? ⟨"networking.istio.io/v1beta1/VirtualService"⟩) := by
  apply Faithful.of_fields (fun _ => rfl) (fun _ => rfl) rfl
  intro resource document service parsed
  have weights := Policy.VirtualService.reads_fit document service parsed
  have read := RouteConfiguration.read?_ofPolicy resource.anyName resource.scopeOrEmpty weights
  exact ⟨RouteConfiguration.fit_fields _, congrArg (Option.map Content.routeConfiguration) read⟩

/-- Rules of every kind that is supported from the start say what the resources denote: each
    resource that can be read as its kind has a rule, which is read as exactly what the resource
    denotes, and the bytes tell apart whatever denotes something else. -/
theorem faithful_builtIn {kind : Kind} {entry : KindEntry}
    (supported : KindTable.builtIn.find? kind = some entry) :
    Faithful entry.makeRule (denoted? kind) := by
  obtain ⟨listed, member, same⟩ := List.mem_map.1 (Table.mem_of_find?_ofList supported)
  cases same
  simp only [List.mem_cons, List.not_mem_nil, or_false] at member
  rcases member with rfl | rfl | rfl | rfl | rfl | rfl
  · exact faithful_rateLimit
  · exact faithful_throttling
  · exact faithful_concurrencyLimit
  · exact faithful_circuitBreaker
  · exact faithful_faultTolerance
  · exact faithful_virtualService

/-- A circuit breaker with a negative zero for a ratio, a duration that fits 64 bits only, and one
    that cannot be read. -/
def longBreaker : Resource where
  name := some "slow"
  generatedName := none
  scope := some "shop"
  labels := .none
  version := none
  spec := some (.record
    [("strategy", .text "SlowRequestRatio"), ("triggerRatio", .text "-0%"),
      ("statDuration", .text "30d"), ("recoveryTimeout", .text "30d"),
      ("minRequestAmount", .integer (-5)),
      ("slowConditions", .record [("maxAllowedRt", .text "soon")])])

/-- The rule of a circuit breaker is read with its long duration only where there is room for it,
    and with a zero for a negative one. -/
theorem faithful_builtIn_longBreaker :
    ∃ entry rule, KindTable.builtIn.find?
        ⟨"fault-tolerance.opensergo.io/v1alpha1/CircuitBreakerStrategy"⟩ = some entry ∧
      entry.makeRule longBreaker = some rule ∧
      rule.content? = some (.circuitBreaker {
        name := "slow"
        strategy := 1
        triggerRatio := .zero false
        statDuration := 2592000000
        statDurationTimeUnit := 1
        recoveryTimeout := -1
        recoveryTimeoutTimeUnit := 1
        minRequestAmount := -5
        slowCondition := some { maxAllowedRtMillis := -1 }
        errorCondition := some {} }) := by
  have supported : KindTable.builtIn.find?
      ⟨"fault-tolerance.opensergo.io/v1alpha1/CircuitBreakerStrategy"⟩ =
        some (KindTable.faultTolerance "CircuitBreakerStrategy" "circuitbreakerstrategies"
          Rule.ofCircuitBreaker?) := rfl
  have faithful := faithful_builtIn supported
  have denoted : denoted? ⟨"fault-tolerance.opensergo.io/v1alpha1/CircuitBreakerStrategy"⟩
      longBreaker = some (.circuitBreaker {
        name := "slow"
        strategy := 1
        triggerRatio := .zero true
        statDuration := 2592000000
        statDurationTimeUnit := 1
        recoveryTimeout := -1
        recoveryTimeoutTimeUnit := 1
        minRequestAmount := -5
        slowCondition := some { maxAllowedRtMillis := -1 }
        errorCondition := some {} }) := by
    decide +kernel
  have given := faithful.made longBreaker
  rw [denoted, Option.isSome_some] at given
  obtain ⟨rule, made⟩ := Option.isSome_iff_exists.1 given
  refine ⟨_, rule, supported, made, ?_⟩
  rw [faithful.read made denoted]
  rfl

end Received

end RulePlane
