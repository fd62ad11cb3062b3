/-!
# Keys of cached shaders

A cached shader of one call is found by the name of the function and the texts of
the arguments, joined by underscores; underscores inside of a part are escaped,
so different calls have different keys. A cached shader of a graph is found by
the written calls of its nodes.
-/

namespace ShaderGraph
namespace Key

/-- A part of a key with its underscores and backslashes escaped. -/
def escape : List Char -> List Char
  | [] => []
  | first :: rest =>
      if first == '\\' || first == '_' then '\\' :: first :: escape rest
      else first :: escape rest

/-- Escaped parts joined by underscores. -/
def joinParts : List (List Char) -> List Char
  | [] => []
  | [part] => escape part
  | part :: others => escape part ++ '_' :: joinParts others

/-- The key of a call. -/
def ofCall (name : String) (arguments : List String) : String :=
  String.ofList (joinParts ((name :: arguments).map String.toList))

/-- A call as it is written in the key of a graph. -/
def written (name : String) (arguments : List String) : String :=
  name ++ "(" ++ ",".intercalate arguments ++ ")"

/-- The key of a graph with the given calls in the order of its nodes. -/
def ofGraph (calls : List (String × List String)) : String :=
  "graph_" ++ "_".intercalate (calls.map fun call => written call.1 call.2)

end Key
end ShaderGraph
