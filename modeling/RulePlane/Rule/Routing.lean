import RulePlane.Message.Route
import RulePlane.Policy.VirtualService
import RulePlane.Resource
import RulePlane.Rule

/-!
# Rules of virtual services

What clients are told of a virtual service: one virtual host with a route for each of the service's
routes, in order. Hosts are qualified with the namespace of the resource, and clusters are named
after a qualified host and a subset.
-/

namespace RulePlane

open Policy

/-- The address of a route configuration. -/
def Rule.routeConfigurationTypeUrl : String :=
  "type.googleapis.com/envoy.config.route.v3.RouteConfiguration"

/-- The full name of a host in a namespace. -/
def Message.qualifiedHost (host scope : String) : String :=
  host ++ "." ++ scope ++ ".svc.cluster.local"

/-- The cluster of a subset of a host. -/
def Message.clusterName (endpoint : Endpoint) (scope : String) : String :=
  "outbound||" ++ endpoint.subset ++ "|" ++ qualifiedHost endpoint.host scope

/-- A text that is given and not empty. -/
def Policy.given (text : Option String) : Option String := text.filter (· ≠ "")

/-- The pattern that counts: the first one given of exact, leading and regular expression. -/
def Message.Pattern.ofMatch? (request : StringMatch) : Option Message.Pattern :=
  (given request.exact).map .exact <|> (given request.leading).map .leading <|>
    (given request.regex).map .regex

/-- The matcher of a named pattern. -/
def Message.Matcher.ofEntry (entry : String × StringMatch) : Message.Matcher :=
  ⟨entry.1, Pattern.ofMatch? entry.2⟩

/-- How a route chooses its cluster. A single destination is chosen by name, or with its fallback;
    of several each has its weight, a negative one counting as zero, and no fallback. -/
def Message.ClusterChoice.ofDestinations (scope : String) :
    List RouteDestination → Message.ClusterChoice
  | [only] =>
      match only.destination.fallback with
      | some fallback =>
          .withFallback (clusterName only.destination.endpoint scope) (clusterName fallback scope)
      | none => .single (clusterName only.destination.endpoint scope)
  | destinations =>
      .weighted (destinations.map fun each =>
        ⟨clusterName each.destination.endpoint scope, each.weight.toNat⟩)

/-- What clients are told of a route: all matchers of its match requests, request by request. -/
def Message.Route.ofHttpRoute (scope : String) (http : HttpRoute) : Message.Route where
  headers := http.requests.flatMap fun request => request.headers.map Matcher.ofEntry
  queryParameters := http.requests.flatMap fun request => request.queryParams.map Matcher.ofEntry
  choice := .ofDestinations scope http.route

/-- What clients are told of a virtual service. -/
def Message.RouteConfiguration.ofPolicy (name scope : String) (service : VirtualService) :
    Message.RouteConfiguration where
  name := name
  virtualHosts := [{
    name := name
    domains := service.hosts.map fun host => qualifiedHost host scope
    routes := service.http.map (Route.ofHttpRoute scope) }]

/-- The rule of a virtual service. -/
def Rule.ofVirtualService? (resource : Resource) : Option Rule := do
  let service ← resource.spec.bind VirtualService.ofDocument?
  some ⟨routeConfigurationTypeUrl,
    Wire.writeFields
      (Message.RouteConfiguration.ofPolicy resource.anyName resource.scopeOrEmpty service).fields⟩

end RulePlane
