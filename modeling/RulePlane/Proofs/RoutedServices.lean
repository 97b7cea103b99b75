import Mathlib.Data.List.Forall2
import RulePlane.Proofs.FaithfulRules

/-!
# What routes keep of a virtual service

A client that reads the rule of a virtual service finds everything that the service says, in the
order in which it says it. `service_routed` compares what is read with the service piece by piece:
the hosts with the domains, the routes of the service with those of the virtual host, and within a
route the patterns with the matchers and the destinations with the choice of a cluster. The
comparisons are relations of their own (`Preferred`, `Sends`, `Serves`), so they say what a route
has to hold without computing it.

The patterns of a match request come in a map, which is read in ascending order of its names
(`reads_record`).
-/

namespace RulePlane

/-! ## Maps are read in ascending order -/

namespace Document

/-- Reading the values of some entries keeps their names. -/
theorem map_fst_of_mapM {α : Type} {read : Document → Option α} {entries : List (String × Document)}
    {found : List (String × α)}
    (each : (entries.mapM fun entry => (read entry.2).map (Prod.mk entry.1)) = some found) :
    found.map Prod.fst = entries.map Prod.fst := by
  induction entries generalizing found with
  | nil =>
    cases each
    rfl
  | cons first rest inductionHypothesis =>
    rw [List.mapM_cons] at each
    obtain ⟨entry, one, each⟩ := Option.bind_eq_some_iff.1 each
    obtain ⟨others, next, same⟩ := Option.bind_eq_some_iff.1 each
    obtain ⟨value, -, rfl⟩ := Option.map_eq_some_iff.1 one
    cases same
    rw [List.map_cons, List.map_cons, inductionHypothesis next]

/-- The entries of a record are read in ascending order of their names, each name once. -/
theorem reads_record {α : Type} (read : Document → Option α) :
    Reads (recordOf? read) fun entries =>
      entries.Pairwise fun first second => first.1 < second.1 := by
  intro document found record
  cases document with
  | record entries =>
    have ascending := ordered_ascending (fun entry : String × Document => [entry.1]) entries
    simp only [List.cons_lt_cons_iff, List.lt_irrefl, and_false, or_false] at ascending
    have names := map_fst_of_mapM record
    rw [← List.pairwise_map, names, List.pairwise_map]
    exact ascending
  | _ => cases record

end Document

namespace Policy

open Document

/-- Patterns in strictly ascending order of the names that they are for. -/
def Ascending (entries : List (String × StringMatch)) : Prop :=
  entries.Pairwise fun first second => first.1 < second.1

/-- The patterns of a match request ascend. -/
theorem MatchRequest.reads_ascending : Reads MatchRequest.ofDocument? fun request =>
    Ascending request.headers ∧ Ascending request.queryParams :=
  reads_structure <|
    yields_bind (yields_defaulted (reads_record _) List.Pairwise.nil _) fun _ headers =>
    yields_bind (yields_defaulted (reads_record _) List.Pairwise.nil _) fun _ queryParams =>
    yields_pure ⟨headers, queryParams⟩

/-- The patterns of all match requests of a route ascend. -/
theorem HttpRoute.reads_ascending : Reads HttpRoute.ofDocument? fun http =>
    ∀ request ∈ http.requests, Ascending request.headers ∧ Ascending request.queryParams :=
  reads_structure <|
    yields_bind (yields_defaulted (reads_any _) trivial _) fun _ _ =>
    yields_bind (yields_defaulted (reads_sequence MatchRequest.reads_ascending)
      (fun _ none => absurd none List.not_mem_nil) _) fun _ requests =>
    yields_bind (yields_defaulted (reads_any _) trivial _) fun _ _ =>
    yields_pure requests

/-- The patterns of all match requests of a virtual service ascend. -/
theorem VirtualService.reads_ascending : Reads VirtualService.ofDocument? fun service =>
    ∀ http ∈ service.http, ∀ request ∈ http.requests,
      Ascending request.headers ∧ Ascending request.queryParams :=
  reads_structure <|
    yields_bind (yields_defaulted (reads_any _) trivial _) fun _ _ =>
    yields_bind (yields_defaulted (reads_sequence HttpRoute.reads_ascending)
      (fun _ none => absurd none List.not_mem_nil) _) fun _ http =>
    yields_pure http

end Policy

namespace Received

open Policy

/-! ## What a route has to hold -/

/-- A form of a pattern counts as not given: it is missing or empty. -/
def Unset (form : Option String) : Prop := form = none ∨ form = some ""

/-- The pattern that counts is the first form that is given and not empty, of exact, leading and
    regular expression; there is none if no form is given. -/
inductive Preferred {α : Type} (exact leading : String → α) (regex : RegexMatcher → α)
    (request : StringMatch) : Option α → Prop where
  | exact {text : String} (given : request.exact = some text) (filled : text ≠ "") :
      Preferred exact leading regex request (some (exact text))
  | leading {text : String} (noExact : Unset request.exact)
      (given : request.leading = some text) (filled : text ≠ "") :
      Preferred exact leading regex request (some (leading text))
  | regex {text : String} (noExact : Unset request.exact) (noLeading : Unset request.leading)
      (given : request.regex = some text) (filled : text ≠ "") :
      Preferred exact leading regex request (some (regex { regex := text }))
  | none (noExact : Unset request.exact) (noLeading : Unset request.leading)
      (noRegex : Unset request.regex) : Preferred exact leading regex request none

/-- A matcher of a header keeps a named pattern. -/
structure HeaderMatcher.Keeps (entry : String × StringMatch) (matcher : HeaderMatcher) : Prop where
  name : matcher.name = entry.1
  pattern : Preferred .exact .leading .regex entry.2 matcher.pattern

/-- A matcher of a query parameter keeps a named pattern. -/
structure QueryParameterMatcher.Keeps (entry : String × StringMatch)
    (matcher : QueryParameterMatcher) : Prop where
  name : matcher.name = entry.1
  pattern : ∃ pattern : Option TextPattern, Preferred .exact .leading .regex entry.2 pattern ∧
    matcher.stringMatch = pattern.map fun pattern => { pattern := some pattern }

/-- A weighted cluster keeps a destination: its weight is that of the destination, or zero for a
    negative one. -/
structure ClusterWeight.Keeps (scope : String) (destination : RouteDestination)
    (cluster : ClusterWeight) : Prop where
  name : cluster.name = clusterOf scope destination.destination.endpoint
  weight : ∃ weight : Nat, cluster.weight = some weight ∧
    (0 ≤ destination.weight → (weight : Int) = destination.weight) ∧
    (destination.weight < 0 → weight = 0)

/-- How requests are sent to destinations: to a single one by its cluster or by the plugin that
    falls back, to none or several by the weights of their clusters. -/
inductive ClusterSpecifier.Sends (scope : String) :
    List RouteDestination → ClusterSpecifier → Prop where
  | single (endpoint : Endpoint) (weight : Int) :
      Sends scope [⟨⟨endpoint, none⟩, weight⟩] (.cluster (clusterOf scope endpoint))
  | withFallback (endpoint fallback : Endpoint) (weight : Int) :
      Sends scope [⟨⟨endpoint, some fallback⟩, weight⟩]
        (.inlinePlugin (.fallback (clusterOf scope endpoint) (clusterOf scope fallback)))
  | weighted {destinations : List RouteDestination} {clusters : List ClusterWeight}
      (several : destinations.length ≠ 1)
      (kept : List.Forall₂ (ClusterWeight.Keeps scope) destinations clusters) :
      Sends scope destinations (.weightedClusters { clusters })

/-- A route serves a route of a virtual service: it matches by all patterns of all match requests,
    request by request, and sends requests to the destinations. -/
structure Route.Serves (scope : String) (http : HttpRoute) (route : Route) : Prop where
  requests : ∃ requests, route.requests = some requests ∧
    List.Forall₂ HeaderMatcher.Keeps (http.requests.flatMap MatchRequest.headers)
      requests.headers ∧
    List.Forall₂ QueryParameterMatcher.Keeps (http.requests.flatMap MatchRequest.queryParams)
      requests.queryParameters
  action : ∃ specifier, route.action = some { clusterSpecifier := some specifier } ∧
    ClusterSpecifier.Sends scope http.route specifier

/-! ## What a route holds -/

/-- A form that does not count is not given. -/
theorem unset_of_given {form : Option String} (missing : given form = none) : Unset form := by
  cases form with
  | none => exact Or.inl rfl
  | some text =>
    have empty : text = "" := by simpa [given, Option.filter] using missing
    exact Or.inr (congrArg some empty)

/-- A form that counts is given and not empty. -/
theorem filled_of_given {form : Option String} {text : String} (found : given form = some text) :
    form = some text ∧ text ≠ "" := by
  simpa [given, Option.filter_eq_some_iff] using found

/-- The pattern that is denoted is the one that counts. -/
theorem preferred_preferred? {α : Type} (exact leading : String → α) (regex : RegexMatcher → α)
    (request : StringMatch) :
    Preferred exact leading regex request (preferred? exact leading regex request) := by
  unfold preferred?
  cases first : given request.exact with
  | some text =>
    obtain ⟨found, filled⟩ := filled_of_given first
    exact .exact found filled
  | none =>
    have noExact := unset_of_given first
    cases second : given request.leading with
    | some text =>
      obtain ⟨found, filled⟩ := filled_of_given second
      exact .leading noExact found filled
    | none =>
      have noLeading := unset_of_given second
      cases third : given request.regex with
      | some text =>
        obtain ⟨found, filled⟩ := filled_of_given third
        exact .regex noExact noLeading found filled
      | none => exact .none noExact noLeading (unset_of_given third)

/-- Things that are made one by one correspond one by one. -/
theorem forall₂_map {α β : Type} {relation : α → β → Prop} {make : α → β}
    (each : ∀ item, relation item (make item)) (items : List α) :
    List.Forall₂ relation items (items.map make) :=
  List.forall₂_map_right_iff.2 (List.forall₂_same.2 fun item _ => each item)

/-- The cluster that a destination denotes keeps it. -/
theorem ClusterWeight.keeps (scope : String) (destination : RouteDestination) :
    ClusterWeight.Keeps scope destination
      { name := clusterOf scope destination.destination.endpoint
        weight := some destination.weight.toNat } where
  name := rfl
  weight := ⟨_, rfl, Int.toNat_of_nonneg, fun negative => Int.toNat_of_nonpos negative.le⟩

/-- What the destinations of a route denote sends requests to them. -/
theorem ClusterSpecifier.sends (scope : String) (destinations : List RouteDestination) :
    ClusterSpecifier.Sends scope destinations (.denoted scope destinations) := by
  match destinations with
  | [⟨⟨endpoint, some fallback⟩, weight⟩] => exact .withFallback endpoint fallback weight
  | [⟨⟨endpoint, none⟩, weight⟩] => exact .single endpoint weight
  | [] => exact .weighted (by simp) .nil
  | first :: second :: others =>
    have several : (first :: second :: others).length ≠ 1 := by simp
    simp only [denoted]
    exact .weighted several (forall₂_map (ClusterWeight.keeps scope) _)

/-- What a route of a virtual service denotes serves it. -/
theorem Route.serves (scope : String) (http : HttpRoute) :
    Route.Serves scope http (.denoted scope http) where
  requests := ⟨_, rfl,
    forall₂_map (fun entry => ⟨rfl, preferred_preferred? _ _ _ entry.2⟩) _,
    forall₂_map (fun entry => ⟨rfl, _, preferred_preferred? _ _ _ entry.2, rfl⟩) _⟩
  action := ⟨_, rfl, ClusterSpecifier.sends scope http.route⟩

/-- Every virtual service has a rule, and what a client reads of it is a route configuration with a
    single virtual host, both under the name of the resource. Its domains are the hosts of the
    service, each with the namespace of the resource, and its routes serve the routes of the service
    one by one. The patterns of each match request stand in ascending order of their names. -/
theorem service_routed (resource : Resource) (service : VirtualService)
    (parsed : resource.spec.bind VirtualService.ofDocument? = some service) :
    ∃ rule host, Rule.ofVirtualService? resource = some rule ∧
      rule.content? = some (.routeConfiguration {
        name := resource.anyName
        virtualHosts := [host] }) ∧
      host.name = resource.anyName ∧
      host.domains = service.hosts.map (qualified · resource.scopeOrEmpty) ∧
      List.Forall₂ (Route.Serves resource.scopeOrEmpty) service.http host.routes ∧
      ∀ http ∈ service.http, ∀ request ∈ http.requests,
        Ascending request.headers ∧ Ascending request.queryParams := by
  have denotes : denoted? ⟨"networking.istio.io/v1beta1/VirtualService"⟩ resource =
      some (.routeConfiguration (.denoted resource.anyName resource.scopeOrEmpty service)) :=
    congrArg (Option.map _) parsed
  have made := faithful_virtualService.made resource
  rw [denotes, Option.isSome_some] at made
  obtain ⟨rule, made⟩ := Option.isSome_iff_exists.1 made
  obtain ⟨document, -, read⟩ := Option.bind_eq_some_iff.1 parsed
  exact ⟨rule, _, made, faithful_virtualService.read made denotes, rfl, rfl,
    forall₂_map (Route.serves resource.scopeOrEmpty) service.http,
    VirtualService.reads_ascending document service read⟩

/-- A virtual service with two match requests, whose headers are not in order and one of which has
    an empty exact form; the first of its routes has no destination, the second falls back, and the
    third has two destinations, one of them with a negative weight. -/
def splitReviews : Resource where
  name := some "reviews"
  generatedName := none
  scope := some "shop"
  labels := .none
  version := none
  spec := some (.record
    [("hosts", .sequence [.text "reviews", .text "ratings"]),
      ("http", .sequence
        [.record [("match", .sequence
            [.record [("headers", .record
                [("x-tag", .record [("exact", .text ""), ("prefix", .text "gray")]),
                  ("cookie", .record [("regex", .text "a.*")])])],
              .record [("headers", .record [("agent", .record [])])]])],
          .record [("route", .sequence
            [.record [("destination", .record
              [("host", .text "reviews"), ("subset", .text "v2"),
                ("fallback", .record [("host", .text "reviews")])])]])],
          .record [("route", .sequence
            [.record [("destination", .record [("host", .text "a")]), ("weight", .integer 5)],
              .record [("destination", .record [("host", .text "b")]),
                ("weight", .integer (-1))]])]])])

/-- What the specification of the virtual service is read as. -/
def splitService : VirtualService where
  hosts := ["reviews", "ratings"]
  http :=
    [⟨none, [⟨[("cookie", ⟨none, none, some "a.*"⟩), ("x-tag", ⟨some "", some "gray", none⟩)], []⟩,
        ⟨[("agent", ⟨none, none, none⟩)], []⟩], []⟩,
      ⟨none, [], [⟨⟨⟨"reviews", "v2"⟩, some ⟨"reviews", ""⟩⟩, 0⟩]⟩,
      ⟨none, [], [⟨⟨⟨"a", ""⟩, none⟩, 5⟩, ⟨⟨⟨"b", ""⟩, none⟩, -1⟩]⟩]

/-- The rule of the virtual service has a domain for each host and a route for each route. -/
theorem service_routed_split :
    splitReviews.spec.bind VirtualService.ofDocument? = some splitService ∧
      ∃ rule host, Rule.ofVirtualService? splitReviews = some rule ∧
        rule.content? = some (.routeConfiguration { name := "reviews", virtualHosts := [host] }) ∧
        host.name = "reviews" ∧
        host.domains = ["reviews.shop.svc.cluster.local", "ratings.shop.svc.cluster.local"] ∧
        List.Forall₂ (Route.Serves "shop") splitService.http host.routes := by
  have parsed : splitReviews.spec.bind VirtualService.ofDocument? = some splitService := by
    decide +kernel
  obtain ⟨rule, host, made, read, named, domains, served, -⟩ :=
    service_routed splitReviews splitService parsed
  refine ⟨parsed, rule, host, made, read, named, domains.trans ?_, served⟩
  decide +kernel

end Received

end RulePlane
