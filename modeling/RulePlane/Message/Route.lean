import RulePlane.Wire.Field

/-!
# Route messages

The message in which the routes of a virtual service reach clients. A route chooses its cluster in
one of three ways: by name, by weight among several, or by a plugin that falls back to a second
cluster when the first has no healthy endpoint.
-/

namespace RulePlane.Message

open Wire

/-- A pattern for a text. -/
inductive Pattern where
  | exact (text : String)
  | leading (text : String)
  | regex (text : String)
deriving DecidableEq, Repr

/-- A named value of a request and the pattern it has to match; without a pattern it has to be
    present. -/
structure Matcher where
  name : String
  pattern : Option Pattern
deriving DecidableEq, Repr

/-- A cluster and its share of the requests. -/
structure WeightedCluster where
  name : String
  weight : Nat
deriving DecidableEq, Repr

/-- How a route chooses its cluster. -/
inductive ClusterChoice where
  | single (cluster : String)
  | weighted (clusters : List WeightedCluster)
  | withFallback (routing fallback : String)
deriving DecidableEq, Repr

/-- Which requests a route takes, and where it sends them. -/
structure Route where
  headers : List Matcher
  queryParameters : List Matcher
  choice : ClusterChoice
deriving DecidableEq, Repr

/-- A group of domains with the same routes. -/
structure VirtualHost where
  name : String
  domains : List String
  routes : List Route
deriving DecidableEq, Repr

/-- The routes of a service. -/
structure RouteConfiguration where
  name : String
  virtualHosts : List VirtualHost
deriving DecidableEq, Repr

/-- The name of the plugin that implements fallbacks. -/
def fallbackPlugin : String := "envoy.router.cluster_specifier_plugin.cluster_fallback"

/-- The address of the plugin's configuration. -/
def fallbackTypeUrl : String :=
  "type.googleapis.com/io.opensergo.proto.router.v1.ClusterFallbackConfig"

/-- The fields of a regular expression. -/
def regexFields (text : String) : List Field := textField 2 text

/-- The field of a header matcher that holds its pattern. -/
def Pattern.headerField : Pattern → Field
  | exact text => setTextField 4 text
  | leading text => setTextField 9 text
  | regex text => messageField 11 (regexFields text)

/-- The field of a text matcher that holds its pattern. -/
def Pattern.textField : Pattern → Field
  | exact text => setTextField 1 text
  | leading text => setTextField 2 text
  | regex text => messageField 5 (regexFields text)

/-- The fields of a header matcher. -/
def Matcher.headerFields (matcher : Matcher) : List Field :=
  Wire.textField 1 matcher.name ++ (matcher.pattern.map Pattern.headerField).toList

/-- The fields of a query parameter matcher. -/
def Matcher.queryFields (matcher : Matcher) : List Field :=
  Wire.textField 1 matcher.name ++
    (matcher.pattern.map fun pattern => messageField 5 [pattern.textField]).toList

/-- The fields of a weighted cluster. The weight is a message of its own, so a weight of zero is
    told apart from none. -/
def WeightedCluster.fields (cluster : WeightedCluster) : List Field :=
  Wire.textField 1 cluster.name ++ [messageField 3 (intField 1 cluster.weight)]

/-- The fields of the plugin's configuration. -/
def fallbackConfigFields (routing fallback : String) : List Field :=
  [messageField 1 (Wire.textField 1 routing ++ Wire.textField 2 fallback)]

/-- The fields of the plugin, with its configuration as an addressed message. -/
def fallbackPluginFields (routing fallback : String) : List Field :=
  [messageField 1
    (Wire.textField 1 fallbackPlugin ++
      [messageField 2
        (Wire.textField 1 fallbackTypeUrl ++
          bytesField 2 (writeFields (fallbackConfigFields routing fallback)))])]

/-- The field of a route's action that holds its choice of a cluster. -/
def ClusterChoice.field : ClusterChoice → Field
  | single cluster => setTextField 1 cluster
  | weighted clusters =>
      messageField 3 (clusters.map fun cluster => messageField 1 cluster.fields)
  | withFallback routing fallback => messageField 39 (fallbackPluginFields routing fallback)

/-- The fields of a route. -/
def Route.fields (route : Route) : List Field :=
  [messageField 1
      (route.headers.map (fun matcher => messageField 6 matcher.headerFields) ++
        route.queryParameters.map (fun matcher => messageField 7 matcher.queryFields)),
    messageField 2 [route.choice.field]]

/-- The fields of a virtual host. -/
def VirtualHost.fields (host : VirtualHost) : List Field :=
  Wire.textField 1 host.name ++ host.domains.map (setTextField 2) ++
    host.routes.map (fun route => messageField 3 route.fields)

/-- The fields of a route configuration. -/
def RouteConfiguration.fields (configuration : RouteConfiguration) : List Field :=
  Wire.textField 1 configuration.name ++
    configuration.virtualHosts.map (fun host => messageField 2 host.fields)

end RulePlane.Message
