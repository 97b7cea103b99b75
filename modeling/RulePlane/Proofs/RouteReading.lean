import RulePlane.Message.Route
import RulePlane.Proofs.FieldReading

/-!
# Route messages as clients read them

The messages of the route schema, each with the reader that its declaration calls for. A choice of
which the schema has several members is a type of its own; one that has a single member is read like
a nested message, which is what the format makes of it.

What an extension carries is a message under an address, and is read by the rules of the type that
the address names. The configuration of fallbacks is the only such type here; anything else is kept
as bytes.

For each message there is a law that its reader gives back what the writer was given, for weights
that fit 32 bits.
-/

namespace RulePlane.Received

open Wire

/-- A regular expression. -/
structure RegexMatcher where
  regex : String
deriving DecidableEq, Repr

/-- What a header is compared with. -/
inductive HeaderPattern where
  | exact (text : String)
  | leading (text : String)
  | regex (matcher : RegexMatcher)
deriving DecidableEq, Repr

/-- A matcher of a header. -/
structure HeaderMatcher where
  name : String
  pattern : Option HeaderPattern
deriving DecidableEq, Repr

/-- What a text is compared with. -/
inductive TextPattern where
  | exact (text : String)
  | leading (text : String)
  | regex (matcher : RegexMatcher)
deriving DecidableEq, Repr

/-- A matcher of a text. -/
structure StringMatcher where
  pattern : Option TextPattern
deriving DecidableEq, Repr

/-- A matcher of a query parameter. -/
structure QueryParameterMatcher where
  name : String
  stringMatch : Option StringMatcher
deriving DecidableEq, Repr

/-- The clusters between which a fallback chooses. -/
structure FallbackClusters where
  routingCluster : String
  fallbackCluster : String
deriving DecidableEq, Repr

/-- The configuration of a fallback. -/
structure ClusterFallbackConfig where
  config : Option FallbackClusters
deriving DecidableEq, Repr

/-- A message under an address, read by the rules of its type if that is known. -/
inductive Addressed where
  | clusterFallback (config : ClusterFallbackConfig)
  | unknown (typeUrl : String) (value : Bytes)
deriving DecidableEq, Repr

/-- A named extension with its configuration. -/
structure TypedExtensionConfig where
  name : String
  typedConfig : Option Addressed
deriving DecidableEq, Repr

/-- A plugin that chooses the cluster. -/
structure ClusterSpecifierPlugin where
  extension : Option TypedExtensionConfig
deriving DecidableEq, Repr

/-- A cluster and its weight, where a weight of zero is not the same as none. -/
structure ClusterWeight where
  name : String
  weight : Option Nat
deriving DecidableEq, Repr

/-- Clusters that share the requests. -/
structure WeightedCluster where
  clusters : List ClusterWeight
deriving DecidableEq, Repr

/-- How a cluster is chosen. -/
inductive ClusterSpecifier where
  | cluster (name : String)
  | weightedClusters (weighted : WeightedCluster)
  | inlinePlugin (plugin : ClusterSpecifierPlugin)
deriving DecidableEq, Repr

/-- Where requests go. -/
structure RouteAction where
  clusterSpecifier : Option ClusterSpecifier
deriving DecidableEq, Repr

/-- Which requests go there. -/
structure RouteMatch where
  headers : List HeaderMatcher
  queryParameters : List QueryParameterMatcher
deriving DecidableEq, Repr

/-- A route. -/
structure Route where
  requests : Option RouteMatch
  action : Option RouteAction
deriving DecidableEq, Repr

/-- A group of domains with the same routes. -/
structure VirtualHost where
  name : String
  domains : List String
  routes : List Route
deriving DecidableEq, Repr

/-- The routes of a service. -/
structure RouteConfiguration where
  name : String
  virtualHosts : List VirtualHost
deriving DecidableEq, Repr

/-! ## Readers -/

/-- Read a regular expression. -/
def RegexMatcher.read? (fields : List Field) : Option RegexMatcher := do
  let regex ← scalar? Payload.text? "" 2 fields
  some { regex }

/-- The members of a header's pattern. -/
def HeaderPattern.members : List (Nat × (List Payload → Option HeaderPattern)) :=
  [(4, fun payloads => (lastValue? Payload.text? "" payloads).map exact),
    (9, fun payloads => (lastValue? Payload.text? "" payloads).map leading),
    (11, fun payloads => (merged? RegexMatcher.read? payloads).map regex)]

/-- Read a matcher of a header. -/
def HeaderMatcher.read? (fields : List Field) : Option HeaderMatcher := do
  let name ← scalar? Payload.text? "" 1 fields
  let pattern ← choice? HeaderPattern.members fields
  some { name, pattern }

/-- The members of a text's pattern. -/
def TextPattern.members : List (Nat × (List Payload → Option TextPattern)) :=
  [(1, fun payloads => (lastValue? Payload.text? "" payloads).map exact),
    (2, fun payloads => (lastValue? Payload.text? "" payloads).map leading),
    (5, fun payloads => (merged? RegexMatcher.read? payloads).map regex)]

/-- Read a matcher of a text. -/
def StringMatcher.read? (fields : List Field) : Option StringMatcher := do
  let pattern ← choice? TextPattern.members fields
  some { pattern }

/-- Read a matcher of a query parameter. -/
def QueryParameterMatcher.read? (fields : List Field) : Option QueryParameterMatcher := do
  let name ← scalar? Payload.text? "" 1 fields
  let stringMatch ← nested? StringMatcher.read? 5 fields
  some { name, stringMatch }

/-- Read the clusters of a fallback. -/
def FallbackClusters.read? (fields : List Field) : Option FallbackClusters := do
  let routingCluster ← scalar? Payload.text? "" 1 fields
  let fallbackCluster ← scalar? Payload.text? "" 2 fields
  some { routingCluster, fallbackCluster }

/-- Read the configuration of a fallback. -/
def ClusterFallbackConfig.read? (fields : List Field) : Option ClusterFallbackConfig := do
  let config ← nested? FallbackClusters.read? 1 fields
  some { config }

/-- Read a message under an address. -/
def Addressed.read? (fields : List Field) : Option Addressed := do
  let typeUrl ← scalar? Payload.text? "" 1 fields
  let value ← scalar? Payload.bytes? [] 2 fields
  if typeUrl = "type.googleapis.com/io.opensergo.proto.router.v1.ClusterFallbackConfig" then do
    let inner ← readFields? value
    let config ← ClusterFallbackConfig.read? inner
    some (clusterFallback config)
  else some (unknown typeUrl value)

/-- Read a named extension. -/
def TypedExtensionConfig.read? (fields : List Field) : Option TypedExtensionConfig := do
  let name ← scalar? Payload.text? "" 1 fields
  let typedConfig ← nested? Addressed.read? 2 fields
  some { name, typedConfig }

/-- Read a plugin. -/
def ClusterSpecifierPlugin.read? (fields : List Field) : Option ClusterSpecifierPlugin := do
  let extension ← nested? TypedExtensionConfig.read? 1 fields
  some { extension }

/-- Read a cluster and its weight, which is wrapped in a message. -/
def ClusterWeight.read? (fields : List Field) : Option ClusterWeight := do
  let name ← scalar? Payload.text? "" 1 fields
  let weight ← nested? (scalar? Payload.uint32? 0 1) 3 fields
  some { name, weight }

/-- Read clusters that share the requests. -/
def WeightedCluster.read? (fields : List Field) : Option WeightedCluster := do
  let clusters ← repeated? (Payload.message? ClusterWeight.read?) 1 fields
  some { clusters }

/-- The members of the choice of a cluster. -/
def ClusterSpecifier.members : List (Nat × (List Payload → Option ClusterSpecifier)) :=
  [(1, fun payloads => (lastValue? Payload.text? "" payloads).map cluster),
    (3, fun payloads => (merged? WeightedCluster.read? payloads).map weightedClusters),
    (39, fun payloads => (merged? ClusterSpecifierPlugin.read? payloads).map inlinePlugin)]

/-- Read where requests go. -/
def RouteAction.read? (fields : List Field) : Option RouteAction := do
  let clusterSpecifier ← choice? ClusterSpecifier.members fields
  some { clusterSpecifier }

/-- Read which requests go there. -/
def RouteMatch.read? (fields : List Field) : Option RouteMatch := do
  let headers ← repeated? (Payload.message? HeaderMatcher.read?) 6 fields
  let queryParameters ← repeated? (Payload.message? QueryParameterMatcher.read?) 7 fields
  some { headers, queryParameters }

/-- Read a route. -/
def Route.read? (fields : List Field) : Option Route := do
  let requests ← nested? RouteMatch.read? 1 fields
  let action ← nested? RouteAction.read? 2 fields
  some { requests, action }

/-- Read a group of domains. -/
def VirtualHost.read? (fields : List Field) : Option VirtualHost := do
  let name ← scalar? Payload.text? "" 1 fields
  let domains ← repeated? Payload.text? 2 fields
  let routes ← repeated? (Payload.message? Route.read?) 3 fields
  some { name, domains, routes }

/-- Read the routes of a service. -/
def RouteConfiguration.read? (fields : List Field) : Option RouteConfiguration := do
  let name ← scalar? Payload.text? "" 1 fields
  let virtualHosts ← repeated? (Payload.message? VirtualHost.read?) 2 fields
  some { name, virtualHosts }

/-! ## Patterns -/

/-- The regular expression of a text is read back. -/
theorem RegexMatcher.read?_fields (text : String) :
    RegexMatcher.read? (Message.regexFields text) = some { regex := text } := by
  simp [RegexMatcher.read?, Message.regexFields, scalar?]

theorem RegexMatcher.fit_fields (text : String) : Fit (Message.regexFields text) := by
  simp [Message.regexFields]

/-- A pattern as it is read from a header's matcher. -/
def HeaderPattern.ofSent : Message.Pattern → HeaderPattern
  | .exact text => exact text
  | .leading text => leading text
  | .regex text => regex { regex := text }

/-- A pattern as it is read from a text's matcher. -/
def TextPattern.ofSent : Message.Pattern → TextPattern
  | .exact text => exact text
  | .leading text => leading text
  | .regex text => regex { regex := text }

/-- A matcher as it is read as one of a header. -/
def HeaderMatcher.ofSent (matcher : Message.Matcher) : HeaderMatcher where
  name := matcher.name
  pattern := matcher.pattern.map HeaderPattern.ofSent

/-- A matcher as it is read as one of a query parameter. -/
def QueryParameterMatcher.ofSent (matcher : Message.Matcher) : QueryParameterMatcher where
  name := matcher.name
  stringMatch := matcher.pattern.map fun pattern => { pattern := some (.ofSent pattern) }

theorem fits_headerField (pattern : Message.Pattern) : pattern.headerField.Fits := by
  cases pattern <;> simp [Message.Pattern.headerField]

theorem fits_patternField (pattern : Message.Pattern) : pattern.textField.Fits := by
  cases pattern <;> simp [Message.Pattern.textField]

theorem HeaderMatcher.fit_fields (matcher : Message.Matcher) : Fit matcher.headerFields := by
  cases given : matcher.pattern <;> simp [Message.Matcher.headerFields, given, fits_headerField]

theorem QueryParameterMatcher.fit_fields (matcher : Message.Matcher) : Fit matcher.queryFields := by
  cases given : matcher.pattern <;> simp [Message.Matcher.queryFields, given]

/-- A text in one part is read back as a member of a choice. -/
theorem lastValue?_text {α : Type} (member : String → α) (text : String) :
    (lastValue? Payload.text? "" [.delimited (textBytes text)]).map member =
      some (member text) := by
  rw [lastValue?_single (text?_textBytes text), Option.map_some]

/-- A regular expression in one part is read back as a member of a choice. -/
theorem merged?_regex {α : Type} (member : RegexMatcher → α) (text : String) :
    (merged? RegexMatcher.read? [.delimited (writeFields (Message.regexFields text))]).map member =
      some (member { regex := text }) := by
  rw [merged?_single (RegexMatcher.fit_fields text), RegexMatcher.read?_fields, Option.map_some]

/-- A matcher of a header is read back. -/
theorem HeaderMatcher.read?_fields (matcher : Message.Matcher) :
    HeaderMatcher.read? matcher.headerFields = some (.ofSent matcher) := by
  have name : scalar? Payload.text? "" 1 matcher.headerFields = some matcher.name := by
    cases given : matcher.pattern with
    | none => simp [scalar?, Message.Matcher.headerFields, given]
    | some pattern =>
      cases pattern <;> simp [scalar?, Message.Matcher.headerFields, given,
        Message.Pattern.headerField]
  -- The name belongs to no member of the choice, so the field of the pattern is all of it.
  have unnamed : ofMembers HeaderPattern.members (Wire.textField 1 matcher.name) = [] :=
    ofMembers_textField (by simp [HeaderPattern.members]) _
  have pattern : choice? HeaderPattern.members matcher.headerFields =
      some (matcher.pattern.map HeaderPattern.ofSent) := by
    cases given : matcher.pattern with
    | none =>
      apply choice?_none
      simp [Message.Matcher.headerFields, given, unnamed]
    | some pattern =>
      have counts : (HeaderPattern.members.lookup pattern.headerField.number).isSome = true := by
        cases pattern <;> rfl
      have only : ofMembers HeaderPattern.members matcher.headerFields =
          [pattern.headerField] := by
        simp [Message.Matcher.headerFields, given, unnamed, counts]
      cases pattern with
      | exact text => exact choice?_single only rfl (lastValue?_text _ text)
      | leading text => exact choice?_single only rfl (lastValue?_text _ text)
      | regex text => exact choice?_single only rfl (merged?_regex _ text)
  simp [HeaderMatcher.read?, name, pattern, HeaderMatcher.ofSent]

/-- A matcher of a text is read back. -/
theorem StringMatcher.read?_fields (pattern : Message.Pattern) :
    StringMatcher.read? [pattern.textField] = some { pattern := some (.ofSent pattern) } := by
  have only : ofMembers TextPattern.members [pattern.textField] = [pattern.textField] := by
    cases pattern <;> simp [TextPattern.members, Message.Pattern.textField]
  have chosen : choice? TextPattern.members [pattern.textField] =
      some (some (.ofSent pattern)) := by
    cases pattern with
    | exact text => exact choice?_single only rfl (lastValue?_text _ text)
    | leading text => exact choice?_single only rfl (lastValue?_text _ text)
    | regex text => exact choice?_single only rfl (merged?_regex _ text)
  simp [StringMatcher.read?, chosen]

/-- A matcher of a query parameter is read back. -/
theorem QueryParameterMatcher.read?_fields (matcher : Message.Matcher) :
    QueryParameterMatcher.read? matcher.queryFields = some (.ofSent matcher) := by
  cases given : matcher.pattern with
  | none =>
    have missing : nested? StringMatcher.read? 5 matcher.queryFields = some none :=
      nested?_none _ (by simp [Message.Matcher.queryFields, given])
    simp only [QueryParameterMatcher.read?, missing]
    simp [scalar?, Message.Matcher.queryFields, given, QueryParameterMatcher.ofSent]
  | some pattern =>
    have stringMatch : nested? StringMatcher.read? 5 matcher.queryFields =
        some (some { pattern := some (.ofSent pattern) }) :=
      nested?_single (by simp [Message.Matcher.queryFields, given])
        (by simp [fits_patternField]) (StringMatcher.read?_fields pattern)
    simp only [QueryParameterMatcher.read?, stringMatch]
    simp [scalar?, Message.Matcher.queryFields, given, QueryParameterMatcher.ofSent]

/-! ## Choices of a cluster -/

/-- The fields of the clusters of a fallback. -/
theorem FallbackClusters.read?_fields (routing fallback : String) :
    FallbackClusters.read? (Wire.textField 1 routing ++ Wire.textField 2 fallback) =
      some { routingCluster := routing, fallbackCluster := fallback } := by
  simp [FallbackClusters.read?, scalar?]

theorem ClusterFallbackConfig.fit_fields (routing fallback : String) :
    Fit (Message.fallbackConfigFields routing fallback) := by
  simp [Message.fallbackConfigFields]

/-- The configuration of a fallback is read back. -/
theorem ClusterFallbackConfig.read?_fields (routing fallback : String) :
    ClusterFallbackConfig.read? (Message.fallbackConfigFields routing fallback) =
      some { config := some { routingCluster := routing, fallbackCluster := fallback } } := by
  have config : nested? FallbackClusters.read? 1 (Message.fallbackConfigFields routing fallback) =
      some (some { routingCluster := routing, fallbackCluster := fallback }) :=
    nested?_single (by simp [Message.fallbackConfigFields]) (by simp)
      (FallbackClusters.read?_fields routing fallback)
  simp [ClusterFallbackConfig.read?, config]

/-- The plugin that falls back from one cluster to another, as it is read. -/
def ClusterSpecifierPlugin.fallback (routing fallback : String) : ClusterSpecifierPlugin where
  extension := some {
    name := "envoy.router.cluster_specifier_plugin.cluster_fallback"
    typedConfig := some (.clusterFallback {
      config := some { routingCluster := routing, fallbackCluster := fallback } }) }

/-- The addressed configuration of a fallback is read back. -/
theorem Addressed.read?_fields (routing fallback : String) :
    Addressed.read? (Wire.textField 1 Message.fallbackTypeUrl ++
      bytesField 2 (writeFields (Message.fallbackConfigFields routing fallback))) =
      some (.clusterFallback {
        config := some { routingCluster := routing, fallbackCluster := fallback } }) := by
  have known : Message.fallbackTypeUrl =
      "type.googleapis.com/io.opensergo.proto.router.v1.ClusterFallbackConfig" := rfl
  simp [Addressed.read?, scalar?, known,
    readFields?_writeFields (ClusterFallbackConfig.fit_fields routing fallback),
    ClusterFallbackConfig.read?_fields]

/-- A named extension is read back if its configuration is. -/
theorem TypedExtensionConfig.read?_fields {config : List Field} {value : Addressed}
    (fit : Fit config) (reads : Addressed.read? config = some value) (name : String) :
    TypedExtensionConfig.read? (Wire.textField 1 name ++ [messageField 2 config]) =
      some { name := name, typedConfig := some value } := by
  have typedConfig : nested? Addressed.read? 2
      (Wire.textField 1 name ++ [messageField 2 config]) = some (some value) :=
    nested?_single (by simp) fit reads
  simp only [TypedExtensionConfig.read?, typedConfig]
  simp [scalar?]

/-- The plugin of a fallback is read back. -/
theorem ClusterSpecifierPlugin.read?_fields (routing fallback : String) :
    ClusterSpecifierPlugin.read? (Message.fallbackPluginFields routing fallback) =
      some (.fallback routing fallback) := by
  have extension := TypedExtensionConfig.read?_fields (by simp)
    (Addressed.read?_fields routing fallback) Message.fallbackPlugin
  have outer : nested? TypedExtensionConfig.read? 1
      (Message.fallbackPluginFields routing fallback) = some (some _) :=
    nested?_single (by simp [Message.fallbackPluginFields]) (by simp) extension
  simp [ClusterSpecifierPlugin.read?, outer, ClusterSpecifierPlugin.fallback,
    Message.fallbackPlugin]

theorem ClusterSpecifierPlugin.fit_fields (routing fallback : String) :
    Fit (Message.fallbackPluginFields routing fallback) := by
  simp [Message.fallbackPluginFields]

/-- A cluster and its weight as they are read. -/
def ClusterWeight.ofSent (cluster : Message.WeightedCluster) : ClusterWeight where
  name := cluster.name
  weight := some cluster.weight

/-- A cluster and its weight are read back, also a weight of zero. -/
theorem ClusterWeight.read?_fields {cluster : Message.WeightedCluster}
    (fits : cluster.weight < 0x100000000) :
    ClusterWeight.read? cluster.fields = some (.ofSent cluster) := by
  have inner : scalar? Payload.uint32? 0 1 (intField 1 cluster.weight) = some cluster.weight := by
    simp [scalar?, lastValue?_uint32 _ fits]
  have weight : nested? (scalar? Payload.uint32? 0 1) 3 cluster.fields =
      some (some cluster.weight) :=
    nested?_single (by simp [Message.WeightedCluster.fields]) (by simp) inner
  simp only [ClusterWeight.read?, weight]
  simp [scalar?, Message.WeightedCluster.fields, ClusterWeight.ofSent]

theorem ClusterWeight.fit_fields (cluster : Message.WeightedCluster) : Fit cluster.fields := by
  simp [Message.WeightedCluster.fields]

/-- Clusters that share the requests are read back, in order. -/
theorem WeightedCluster.read?_fields {clusters : List Message.WeightedCluster}
    (fit : ∀ cluster ∈ clusters, cluster.weight < 0x100000000) :
    WeightedCluster.read? (clusters.map fun cluster => messageField 1 cluster.fields) =
      some { clusters := clusters.map ClusterWeight.ofSent } := by
  have read : repeated? (Payload.message? ClusterWeight.read?) 1
      (clusters.map fun cluster => messageField 1 cluster.fields) =
        some (clusters.map ClusterWeight.ofSent) := by
    simp only [repeated?, occurrences_map_messageField, if_true]
    exact mapM_messages (fun cluster _ => ClusterWeight.fit_fields cluster)
      fun cluster member => ClusterWeight.read?_fields (fit cluster member)
  simp [WeightedCluster.read?, read]

/-- A choice of a cluster as it is read. -/
def ClusterSpecifier.ofSent : Message.ClusterChoice → ClusterSpecifier
  | .single name => cluster name
  | .weighted clusters => weightedClusters { clusters := clusters.map ClusterWeight.ofSent }
  | .withFallback routing fallback => inlinePlugin (.fallback routing fallback)

end RulePlane.Received

namespace RulePlane.Message

/-- Whether the weights of a choice fit 32 bits. -/
def ClusterChoice.Fits : ClusterChoice → Prop
  | weighted clusters => ∀ cluster ∈ clusters, cluster.weight < 0x100000000
  | _ => True

end RulePlane.Message

namespace RulePlane.Received

open Wire

/-- The action of a route is read back as the member that its choice of a cluster is. -/
theorem RouteAction.read?_fields {choice : Message.ClusterChoice} (fits : choice.Fits) :
    RouteAction.read? [choice.field] = some { clusterSpecifier := some (.ofSent choice) } := by
  have counts : (ClusterSpecifier.members.lookup choice.field.number).isSome = true := by
    cases choice <;> rfl
  have only : ofMembers ClusterSpecifier.members [choice.field] = [choice.field] := by
    simp [counts]
  have chosen : choice? ClusterSpecifier.members [choice.field] =
      some (some (.ofSent choice)) := by
    cases choice with
    | single name => exact choice?_single only rfl (lastValue?_text _ name)
    | weighted clusters =>
      refine choice?_single only rfl ?_
      simp [Message.ClusterChoice.field, merged?_single, WeightedCluster.read?_fields fits,
        ClusterSpecifier.ofSent]
    | withFallback routing fallback =>
      refine choice?_single only rfl ?_
      simp [Message.ClusterChoice.field, ClusterSpecifier.ofSent,
        merged?_single (ClusterSpecifierPlugin.fit_fields routing fallback),
        ClusterSpecifierPlugin.read?_fields]
  simp [RouteAction.read?, chosen]

theorem RouteAction.fit_fields (choice : Message.ClusterChoice) : Fit [choice.field] := by
  cases choice <;> simp [Message.ClusterChoice.field]

/-! ## Routes -/

/-- A route as it is read. -/
def Route.ofSent (route : Message.Route) : Route where
  requests := some {
    headers := route.headers.map HeaderMatcher.ofSent
    queryParameters := route.queryParameters.map QueryParameterMatcher.ofSent }
  action := some { clusterSpecifier := some (.ofSent route.choice) }

/-- Which requests a route takes is read back, in order. -/
theorem RouteMatch.read?_fields (headers queryParameters : List Message.Matcher) :
    RouteMatch.read?
      (headers.map (fun matcher => messageField 6 matcher.headerFields) ++
        queryParameters.map (fun matcher => messageField 7 matcher.queryFields)) =
      some { headers := headers.map HeaderMatcher.ofSent
             queryParameters := queryParameters.map QueryParameterMatcher.ofSent } := by
  have readHeaders := mapM_messages (fun matcher _ => HeaderMatcher.fit_fields matcher)
    fun matcher (_ : matcher ∈ headers) => HeaderMatcher.read?_fields matcher
  have readParameters := mapM_messages
    (fun matcher _ => QueryParameterMatcher.fit_fields matcher)
    fun matcher (_ : matcher ∈ queryParameters) => QueryParameterMatcher.read?_fields matcher
  simp [RouteMatch.read?, repeated?, readHeaders, readParameters]

/-- A route is read back. -/
theorem Route.read?_fields {route : Message.Route} (fits : route.choice.Fits) :
    Route.read? route.fields = some (.ofSent route) := by
  have requests : nested? RouteMatch.read? 1 route.fields = some (some _) :=
    nested?_single (by simp [Message.Route.fields]) (by simp)
      (RouteMatch.read?_fields route.headers route.queryParameters)
  have action : nested? RouteAction.read? 2 route.fields = some (some _) :=
    nested?_single (by simp [Message.Route.fields]) (RouteAction.fit_fields route.choice)
      (RouteAction.read?_fields fits)
  simp [Route.read?, requests, action, Route.ofSent]

theorem Route.fit_fields (route : Message.Route) : Fit route.fields := by
  simp [Message.Route.fields]

/-- A group of domains as it is read. -/
def VirtualHost.ofSent (host : Message.VirtualHost) : VirtualHost where
  name := host.name
  domains := host.domains
  routes := host.routes.map Route.ofSent

/-- A group of domains is read back. -/
theorem VirtualHost.read?_fields {host : Message.VirtualHost}
    (fit : ∀ route ∈ host.routes, route.choice.Fits) :
    VirtualHost.read? host.fields = some (.ofSent host) := by
  have domains : repeated? Payload.text? 2 host.fields = some host.domains := by
    simpa [repeated?, Message.VirtualHost.fields] using mapM_texts host.domains
  have routes : repeated? (Payload.message? Route.read?) 3 host.fields =
      some (host.routes.map Route.ofSent) := by
    simpa [repeated?, Message.VirtualHost.fields] using
      mapM_messages (fun route _ => Route.fit_fields route)
        fun route member => Route.read?_fields (fit route member)
  simp only [VirtualHost.read?, domains, routes]
  simp [scalar?, Message.VirtualHost.fields, VirtualHost.ofSent]

theorem VirtualHost.fit_fields (host : Message.VirtualHost) : Fit host.fields := by
  simp [Message.VirtualHost.fields]

/-- The routes of a service as they are read. -/
def RouteConfiguration.ofSent (configuration : Message.RouteConfiguration) :
    RouteConfiguration where
  name := configuration.name
  virtualHosts := configuration.virtualHosts.map VirtualHost.ofSent

/-- The routes of a service are read back. -/
theorem RouteConfiguration.read?_fields {configuration : Message.RouteConfiguration}
    (fit : ∀ host ∈ configuration.virtualHosts, ∀ route ∈ host.routes, route.choice.Fits) :
    RouteConfiguration.read? configuration.fields = some (.ofSent configuration) := by
  have virtualHosts : repeated? (Payload.message? VirtualHost.read?) 2 configuration.fields =
      some (configuration.virtualHosts.map VirtualHost.ofSent) := by
    simpa [repeated?, Message.RouteConfiguration.fields] using
      mapM_messages (fun host _ => VirtualHost.fit_fields host)
        fun host member => VirtualHost.read?_fields (fit host member)
  simp only [RouteConfiguration.read?, virtualHosts]
  simp [scalar?, Message.RouteConfiguration.fields, RouteConfiguration.ofSent]

theorem RouteConfiguration.fit_fields (configuration : Message.RouteConfiguration) :
    Fit configuration.fields := by
  simp [Message.RouteConfiguration.fields]

end RulePlane.Received
