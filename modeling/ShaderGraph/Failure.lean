import ShaderGraph.Expression.Fault
import ShaderGraph.Files.Tree
import ShaderGraph.Trace.Traced

/-!
# Failures

The causes for which an operation ends without an answer. Some of them belong
to the work on shaders and are reported where a request is served; the others
pass through every operation.
-/

namespace ShaderGraph

/-- Why a shader could not be compiled. -/
inductive CompileError
  | includeUnreadable
      (target directory : String)
      (error : FileError)
  | rejected (message : String)
  | noWindowSystem
  | noWindow
  deriving DecidableEq

/-- The report of a failed compilation. -/
def CompileError.message : CompileError -> String
  | .includeUnreadable target directory error =>
      s!"Cannot resolve #include \"{target}\" from {directory}: " ++ error.message
  | .rejected message => message
  | .noWindowSystem => "glfw could not be initialized."
  | .noWindow => "Failed to create a hidden glfw window."

/-- Why an operation has no answer. -/
inductive Failure
  | unmatchedParenthesis (rest : String)
  | circular (source target : String)
  | unknownNode (node : String)
  | unresolvedReference (node reference : String)
  | functionNotFound (name : String)
  | sourceUnavailable (name : String)
  | compilation (error : CompileError)
  | fault (fault : Fault)
  | divisionByZero
  | overflow
  | missingKey (key : String)
  | emptySequence
  | outsideText
  | abstractStrategy
  | malformed (error : FormatError)
  | tooDeep
  | raised (message : String)
  deriving DecidableEq

namespace Failure

/-- The report of a failure. -/
def message : Failure -> String
  | .unmatchedParenthesis rest => "Unmatched parentheses in: " ++ rest
  | .circular source target =>
      s!"Circular dependency detected involving: {source} -> {target}"
  | .unknownNode node => s!"Unknown node '{node}'"
  | .unresolvedReference node reference =>
      s!"Node '{node}' references unknown node '{reference}'"
  | .functionNotFound name => s!"Function '{name}' not found in GLSL built-ins or plugins"
  | .sourceUnavailable name => s!"Failed to load GLSL code for function: {name}"
  | .compilation error => error.message
  | .fault cause => cause.message
  | .divisionByZero => "float division by zero"
  | .overflow => "int too large to convert to float"
  | .missingKey key => Text.quoted key
  | .emptySequence => "list index out of range"
  | .outsideText => "string index out of range"
  | .abstractStrategy => ""
  | .malformed error => error.message
  | .tooDeep => "maximum recursion depth exceeded"
  | .raised message => message

/-- Whether a failure belongs to the work on shaders. -/
def isDomestic : Failure -> Bool
  | .unmatchedParenthesis _ => true
  | .circular _ _ => true
  | .unknownNode _ => true
  | .unresolvedReference _ _ => true
  | .functionNotFound _ => true
  | .sourceUnavailable _ => true
  | .compilation _ => true
  | .fault _ => true
  | _ => false

/-- The failure of an evaluation that has no value. -/
def ofObstacle : Obstacle -> Failure
  | .fault cause => .fault cause
  | .divisionByZero => .divisionByZero
  | .overflow => .overflow

end Failure

/-- A computation that may fail, and keeps its trace when it does. -/
abbrev Attempt (Value : Type) := ExceptT Failure Traced Value

end ShaderGraph
