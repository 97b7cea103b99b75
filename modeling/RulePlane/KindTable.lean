import RulePlane.Rule.FaultTolerance
import RulePlane.Rule.Routing
import RulePlane.Table

/-!
# Supported kinds

The kinds of policy resources that clients may subscribe to: where the cluster serves the resources
of each, and how a rule is made from one.
-/

namespace RulePlane

/-- Where a cluster serves the resources of a kind. -/
structure ApiResource where
  group : String
  version : String
  apiVersion : String
  kind : String
  plural : String
deriving DecidableEq, Repr, Inhabited

/-- The path under which the cluster lists and watches the resources of all namespaces. -/
def ApiResource.path (resource : ApiResource) : String :=
  "/apis/" ++ resource.group ++ "/" ++ resource.version ++ "/" ++ resource.plural

/-- How a rule is made from a resource; `none` if the resource is malformed. -/
abbrev RuleMaker := Resource → Option Rule

/-- A supported kind. -/
structure KindEntry where
  kind : Kind
  resource : ApiResource
  makeRule : RuleMaker

/-- The supported kinds, by kind. -/
abbrev KindTable := Table Kind KindEntry

namespace KindTable

/-- The table of a list of entries; of a repeated kind the last entry counts. -/
def ofList (entries : List KindEntry) : KindTable :=
  Table.ofList (entries.map fun entry => (entry.kind, entry))

/-- An entry for a kind that the cluster serves in a group and version. -/
def entry (group version name plural : String) (makeRule : RuleMaker) : KindEntry where
  kind := ⟨group ++ "/" ++ version ++ "/" ++ name⟩
  resource := { group, version, apiVersion := group ++ "/" ++ version, kind := name, plural }
  makeRule := makeRule

/-- An entry for a fault-tolerance kind. -/
def faultTolerance (name plural : String) (makeRule : RuleMaker) : KindEntry :=
  entry "fault-tolerance.opensergo.io" "v1alpha1" name plural makeRule

/-- The kinds that are supported from the start. -/
def builtIn : KindTable :=
  ofList
    [faultTolerance "RateLimitStrategy" "ratelimitstrategies" Rule.ofRateLimit?,
      faultTolerance "ThrottlingStrategy" "throttlingstrategies" Rule.ofThrottling?,
      faultTolerance "ConcurrencyLimitStrategy" "concurrencylimitstrategies"
        Rule.ofConcurrencyLimit?,
      faultTolerance "CircuitBreakerStrategy" "circuitbreakerstrategies"
        Rule.ofCircuitBreaker?,
      faultTolerance "FaultToleranceRule" "faulttolerancerules" Rule.ofFaultTolerance?,
      entry "networking.istio.io" "v1beta1" "VirtualService" "virtualservices"
        Rule.ofVirtualService?]

end KindTable

end RulePlane
