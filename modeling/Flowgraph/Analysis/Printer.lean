import Flowgraph.Analysis

/-!
# Writing analyses

An analysis is written as an object; the parts of it have forms of their own.
-/
namespace Flowgraph

/-- What the busiest node is written as. -/
def BusiestNode.toJson (node : BusiestNode) : Json :=
  .object [("node_id", .string node.node), ("class_type", .string node.classType),
    ("inputs", .ofCount node.inputs)]

/-- What the usage of an output slot is written as. -/
def OutputUsage.toJson (usage : OutputUsage) : Json :=
  .object [("node_id", .string usage.source.node), ("output_index", .ofSlot usage.source.slot),
    ("consumers", .ofCount usage.consumers)]

/-- What the distribution of connections is written as. -/
def ConnectionStats.toJson (stats : ConnectionStats) : Json :=
  .object [("total", .ofCount stats.total),
    ("most_connected", (stats.busiest.map BusiestNode.toJson).getD .null),
    ("output_usage", .array (stats.usage.map OutputUsage.toJson))]

/-- What a complexity is written as. -/
def Complexity.toJson (c : Complexity) : Json :=
  .object [("node_count", .ofCount c.nodes), ("connection_count", .ofCount c.connections),
    ("max_depth", .ofCount c.depth), ("custom_node_count", .ofCount c.custom),
    ("score", .number (.float c.score))]

/-- What a loader is written as. -/
def ModelLoader.toJson (loader : ModelLoader) : Json :=
  .object [("node_id", .string loader.node), ("class_type", .string loader.classType),
    ("category", .string loader.category), ("field", .string loader.field),
    ("filename", .string loader.file), ("inferred", .bool loader.inferred)]

/-- What the categories are written as. -/
def Category.tableJson (categories : List (Category × List String)) : Json :=
  .object (categories.map fun (category, ids) => (category.name, .ofStrings ids))

/-- The fields that an analysis is written as. -/
def Analysis.fields (analysis : Analysis) : List (String × Json) :=
  let (order, cycle) : Json × Json := match analysis.order with
    | .ok order => (.ofStrings order, .null)
    | .error refusal => (.null, .string refusal.message)
  [("fingerprint", .string analysis.fingerprint), ("node_count", .ofCount analysis.nodeCount),
    ("execution_order", order), ("cycle", cycle),
    ("connection_stats", analysis.connections.toJson),
    ("complexity", analysis.complexity.toJson),
    ("complexity_level", .string analysis.complexity.level.name),
    ("categories", Category.tableJson analysis.categories),
    ("isolated_nodes", .ofStrings analysis.isolated),
    ("custom_nodes", .ofStrings analysis.customTypes),
    ("model_loaders", .array (analysis.loaders.map ModelLoader.toJson)),
    ("issues", .ofStrings analysis.issues)]

/-- What an analysis is written as. -/
def Analysis.toJson (analysis : Analysis) : Json := .object analysis.fields

end Flowgraph
