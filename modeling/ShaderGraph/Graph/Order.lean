import ShaderGraph.Graph.Basic

/-!
# Dependency order

A node is visited after all of its inputs. The nodes on the way from the output
to the node in visit are remembered: meeting one of them again closes a cycle.
-/

namespace ShaderGraph

/-- The progress of a traversal: the nodes whose inputs are being visited, the
innermost first, and the nodes that are done, each after its inputs. -/
structure Traversal where
  path : List String := []
  order : List String := []
  deriving DecidableEq

namespace Graph

/-- Visit a node on behalf of the node that it is an input of. The number bounds
the length of the way. -/
def visit (graph : Graph) : Nat -> String -> String -> Traversal -> Except Failure Traversal
  | 0, _, name, _ => .error (.unknownNode name)
  | bound + 1, parent, name, traversal =>
      match graph.find? name with
      | none => .error (.unknownNode name)
      | some node =>
          if traversal.path.contains name then .error (.circular parent name)
          else if traversal.order.contains name then .ok traversal
          else do
            let inner <- node.inputs.foldlM
              (fun traversal input => graph.visit bound name input traversal)
              { traversal with path := name :: traversal.path }
            return { path := traversal.path, order := inner.order ++ [name] }

/-- The nodes that an output depends on and the output itself, each after its
inputs. -/
def orderOf (graph : Graph) (output : String) : Except Failure (List String) := do
  let traversal <- graph.visit (graph.nodes.length + 1) output output {}
  return traversal.order

/-- Find the inputs of all nodes and order those that an output depends on. -/
def analyze (graph : Graph) (output : String) : Except Failure (List String) × Graph :=
  match graph.resolveAll with
  | (.error failure, changed) => (.error failure, changed)
  | (.ok _, changed) => (changed.orderOf output, changed)

end Graph
end ShaderGraph
