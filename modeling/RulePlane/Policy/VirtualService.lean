import RulePlane.Document

/-!
# Virtual services

The specification of a virtual service: which requests to a set of hosts go to which destinations.
The order of the fields is part of the format, as in the other policies.
-/

namespace RulePlane.Policy

open Document

/-- A pattern for a text. Of several given forms `exact` wins over `leading` and `leading` over
    `regex`; an empty form counts as not given. -/
structure StringMatch where
  exact : Option String
  leading : Option String
  regex : Option String
deriving DecidableEq, Repr

/-- Patterns for the headers and query parameters of a request, in ascending order of name. -/
structure MatchRequest where
  headers : List (String × StringMatch)
  queryParams : List (String × StringMatch)
deriving DecidableEq, Repr

/-- A subset of a host. -/
structure Endpoint where
  host : String
  subset : String
deriving DecidableEq, Repr

/-- Where requests go, and where they go instead when no endpoint there is healthy. -/
structure Destination where
  endpoint : Endpoint
  fallback : Option Endpoint
deriving DecidableEq, Repr

/-- A destination and its share of the requests. -/
structure RouteDestination where
  destination : Destination
  weight : Int
deriving DecidableEq, Repr

/-- What is done with the requests that one of the match requests describes. -/
structure HttpRoute where
  name : Option String
  requests : List MatchRequest
  route : List RouteDestination
deriving DecidableEq, Repr

/-- The hosts of a service and its routes. -/
structure VirtualService where
  hosts : List String
  http : List HttpRoute
deriving DecidableEq, Repr

/-- Read a pattern. -/
def StringMatch.ofDocument? : Document → Option StringMatch :=
  structure? do
    let exact ← defaulted "exact" none (optional? text?)
    let leading ← defaulted "prefix" none (optional? text?)
    let regex ← defaulted "regex" none (optional? text?)
    pure { exact, leading, regex }

/-- Read a match request. -/
def MatchRequest.ofDocument? : Document → Option MatchRequest :=
  structure? do
    let headers ← defaulted "headers" [] (recordOf? StringMatch.ofDocument?)
    let queryParams ← defaulted "queryParams" [] (recordOf? StringMatch.ofDocument?)
    pure { headers, queryParams }

/-- Read an endpoint. -/
def Endpoint.ofDocument? : Document → Option Endpoint :=
  structure? do
    let host ← required "host" text?
    let subset ← defaulted "subset" "" text?
    pure { host, subset }

/-- Read a destination. -/
def Destination.ofDocument? : Document → Option Destination :=
  structure? do
    let host ← required "host" text?
    let subset ← defaulted "subset" "" text?
    let fallback ← defaulted "fallback" none (optional? Endpoint.ofDocument?)
    pure { endpoint := { host, subset }, fallback }

/-- Read a destination with its weight. -/
def RouteDestination.ofDocument? : Document → Option RouteDestination :=
  structure? do
    let destination ← required "destination" Destination.ofDocument?
    let weight ← defaulted "weight" 0 int32?
    pure { destination, weight }

/-- Read a route. -/
def HttpRoute.ofDocument? : Document → Option HttpRoute :=
  structure? do
    let name ← defaulted "name" none (optional? text?)
    let requests ← defaulted "match" [] (sequenceOf? MatchRequest.ofDocument?)
    let route ← defaulted "route" [] (sequenceOf? RouteDestination.ofDocument?)
    pure { name, requests, route }

/-- Read a virtual service. -/
def VirtualService.ofDocument? : Document → Option VirtualService :=
  structure? do
    let hosts ← defaulted "hosts" [] (sequenceOf? text?)
    let http ← defaulted "http" [] (sequenceOf? HttpRoute.ofDocument?)
    pure { hosts, http }

end RulePlane.Policy
