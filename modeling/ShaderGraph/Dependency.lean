import ShaderGraph.Call
import ShaderGraph.Failure
import ShaderGraph.Vocabulary

/-!
# Functions that a call depends on

The arguments of a call may call further functions, at any depth. Each of them
must be built in or come from a plugin; the first one that is neither, the
called function itself before all others and those in ascending order, makes the
call invalid.
-/

namespace ShaderGraph

namespace Call

/-- The position of the parenthesis that closes the one at a position. A negative
position counts from the end of the text, and the text is then read on from its
start. The report of a missing parenthesis starts one character earlier, which
for the start of the text is its last character. -/
def closingFrom (text : List Char) (position : Int) : Except Failure Int :=
  if position < -text.length then .error .outsideText
  else
    let rest :=
      if 0 <= position then text.drop position.toNat
      else text.drop (text.length + position).toNat ++ text
    match closing? 0 rest with
    | some length => .ok (position + length)
    | none =>
        let start := if 0 < position then position - 1 else text.length + position - 1
        .error (.unmatchedParenthesis (String.ofList (text.drop start.toNat)))

/-- The calls of a text. Those that are not closed are reported and left out. -/
def collect : List Found -> Traced (List Call)
  | [] => pure []
  | .call call :: rest => do
      let others <- collect rest
      return call :: others
  | .unclosed text :: rest => do
      Traced.log .warning (Failure.unmatchedParenthesis (String.ofList text)).message
      collect rest

/-- The calls of a text, from left to right and at every depth. -/
def extract (text : String) : Traced (List Call) :=
  collect (inText text)

end Call

/-- The calls and the functions that the arguments of a call depend on. The
classified names are those up to the first unknown one. -/
structure Analysis where
  main : String
  arguments : List String
  calls : Table Call
  classified : Table Origin
  deriving DecidableEq

namespace Analysis

/-- Keep the first call of every name. -/
def note (found : Table Call) (call : Call) : Table Call :=
  if found.has call.name then found else found ++ [(call.name, call)]

/-- The first call of every name in texts and in the arguments of the calls
there, down to the given depth. -/
def discover : Nat -> List String -> Table Call -> Traced (Table Call)
  | 0, _, found => pure found
  | depth + 1, texts, found =>
      texts.foldlM (fun found text => do
        let calls <- Call.extract text
        calls.foldlM (fun found call => discover depth call.arguments (note found call)) found)
        found

/-- The depth beyond which texts have no calls: each call is longer than its
arguments. -/
def depthBound (texts : List String) : Nat :=
  (texts.map String.length).foldr max 0 + 1

/-- Classify names up to the first unknown one. -/
def classifyAll (vocabulary : Vocabulary) : List String -> Table Origin
  | [] => []
  | name :: rest =>
      match vocabulary.classify name with
      | .unknown => [(name, .unknown)]
      | origin => (name, origin) :: classifyAll vocabulary rest

/-- The first name that is neither built in nor offered by a plugin. -/
def unknown? (analysis : Analysis) : Option String :=
  (List.find? (fun entry => entry.2 == Origin.unknown) analysis.classified).map Prod.fst

/-- Whether all functions are known. -/
def isValid (analysis : Analysis) : Bool :=
  analysis.unknown?.isNone

/-- The report of the unknown function, if there is one. -/
def message (analysis : Analysis) : String :=
  match analysis.unknown? with
  | none => ""
  | some name => (Failure.functionNotFound name).message

/-- The functions that plugins offer, in ascending order. -/
def pluginFunctions (analysis : Analysis) : List String :=
  Text.sortedNames
    ((List.filter (fun entry => entry.2.isPlugin) analysis.classified).map Prod.fst)

/-- The built-in functions and types, in ascending order. -/
def builtinFunctions (analysis : Analysis) : List String :=
  Text.sortedNames
    ((List.filter (fun entry => entry.2 == Origin.builtin) analysis.classified).map Prod.fst)

end Analysis

namespace Vocabulary

/-- Analyze a call of a function with arguments. -/
def analyze
    (vocabulary : Vocabulary)
    (name : String)
    (arguments : List String) : Traced Analysis := do
  let calls <- Analysis.discover (Analysis.depthBound arguments) arguments []
  let others := (Text.sortedNames calls.names).filter fun other => !(other == name)
  let analysis : Analysis :=
    { main := name, arguments, calls
      classified := Analysis.classifyAll vocabulary (name :: others) }
  if !analysis.isValid then Traced.log .error analysis.message
  return analysis

end Vocabulary
end ShaderGraph
