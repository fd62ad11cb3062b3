import ShaderGraph.Failure
import ShaderGraph.Graph.Reference
import ShaderGraph.Table

/-!
# Graphs of calls

A node of a graph is a call whose arguments may refer to the results of other
nodes. Nodes are numbered as they are registered and a number is never given
twice. The inputs of a node are determined when a graph is analyzed.
-/

namespace ShaderGraph

/-- A call with the inputs that were found for it. -/
structure Node where
  function : String
  arguments : List String
  inputs : List String := []
  isResolved : Bool := false
  deriving DecidableEq

/-- The nodes by their names, and how many were registered so far. -/
structure Graph where
  nodes : Table Node := []
  registered : Nat := 0
  deriving DecidableEq

namespace Node

/-- The nodes that the arguments of a node refer to, in their order. -/
def references (node : Node) : List String :=
  node.arguments.flatMap Reference.inText

end Node

namespace Graph

/-- The name of the node with a number. -/
def nodeName (number : Nat) : String := s!"shader_{number}"

/-- The node of a name. -/
def find? (graph : Graph) (name : String) : Option Node :=
  graph.nodes.find? name

/-- Whether a node is registered. -/
def has (graph : Graph) (name : String) : Bool :=
  graph.nodes.has name

/-- The name of the next node. -/
def nextName (graph : Graph) : String :=
  nodeName (graph.registered + 1)

/-- Register a call under the next name. -/
def add (graph : Graph) (function : String) (arguments : List String) : Graph :=
  { nodes := graph.nodes.set graph.nextName { function, arguments }
    registered := graph.registered + 1 }

/-- The graph without a node. -/
def remove (graph : Graph) (name : String) : Graph :=
  { graph with nodes := graph.nodes.erase name }

/-- The nodes that refer to a node. -/
def dependents (graph : Graph) (name : String) : List String :=
  (List.filter (fun entry => entry.2.references.contains name) graph.nodes).map Prod.fst

/-- The graph without nodes. Their numbers are not given again. -/
def clear (graph : Graph) : Graph :=
  { graph with nodes := [] }

/-- Find the inputs of a node. A reference to a node that is not registered
leaves the node unresolved. -/
def resolve (graph : Graph) (name : String) : Except Failure Unit × Graph :=
  match graph.find? name with
  | none => (.error (.missingKey name), graph)
  | some node =>
      match node.references.find? fun reference => !graph.has reference with
      | some reference =>
          (.error (.unresolvedReference name reference),
            { graph with nodes := graph.nodes.set name { node with isResolved := false } })
      | none =>
          let inputs := node.references.eraseDups
          (.ok (),
            { graph with nodes := graph.nodes.set name { node with inputs, isResolved := true } })

/-- Find the inputs of nodes up to the first that cannot be resolved. -/
def resolveEach : List String -> Graph -> Except Failure Unit × Graph
  | [], graph => (.ok (), graph)
  | name :: rest, graph =>
      match graph.resolve name with
      | (.error failure, changed) => (.error failure, changed)
      | (.ok _, changed) => resolveEach rest changed

/-- Find the inputs of all nodes. -/
def resolveAll (graph : Graph) : Except Failure Unit × Graph :=
  resolveEach graph.nodes.names graph

end Graph
end ShaderGraph
