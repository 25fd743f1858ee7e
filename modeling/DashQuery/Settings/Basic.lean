import DashQuery.Label.Table
import DashQuery.Metric.RuleTable

/-!
# Settings

The settings are the classification rules and the label table.  The built-in ones serve the metrics
of a router: the exact rule for the size of the cache stands in front of the broad rule that would
make it a histogram.
-/

namespace DashQuery

/-- The rules and labels that conversion works with. -/
structure Settings where
  rules : List Metric.Rule
  labels : Label.Table
  deriving DecidableEq

namespace Settings

/-- The built-in rules. -/
def builtinRules : List Metric.Rule :=
  [⟨"^apollo\\.router\\.cache\\.size", .gauge⟩,
   ⟨"duration|.time|.size|request.body|evaluated_plans|evaluated_paths", .histogram⟩,
   ⟨"operations|error|.total|active_requests|active_jobs", .sum⟩,
   ⟨"cache|session|connections|pipelines|license|federation|jemalloc|queued", .gauge⟩,
   ⟨Metric.defaultPattern, .gauge⟩]

/-- The attributes whose label is not their name with underscores for dots. -/
def builtinLabels : Label.Table :=
  .ofList
    [("http.response.status_code", .name "http_status_code"),
     ("subgraph.name", .name "subgraph_name"),
     ("host", .name "dash0_resource_name"),
     ("pod_name", .name "dash0_resource_name"),
     ("container_id", .name "dash0_resource_id"),
     ("environment", .name "env"),
     ("apollo_router_cache_kind", .name "kind")]

/-- The settings without any file or environment. -/
def builtin : Settings := ⟨builtinRules, builtinLabels⟩

end Settings

end DashQuery
