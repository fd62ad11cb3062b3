import ShaderGraph.Graphics.Program
import ShaderGraph.Failure

/-!
# Artifacts

An artifact is a generated shader with the program that was compiled from it. It
owns its program: compiling again and cleaning up release it. The stored values
of uniforms have single precision.
-/

namespace ShaderGraph

/-- The state of an artifact. -/
inductive ArtifactState
  | created
  | idle
  | connected
  | error
  deriving DecidableEq

/-- The word for a state. -/
def ArtifactState.label : ArtifactState -> String
  | .created => "created"
  | .idle => "idle"
  | .connected => "connected"
  | .error => "error"

/-- A shader for a call, its program, and the values of its uniforms. -/
structure Artifact where
  function : String
  arguments : List String
  vertex : String := ""
  fragment : String := ""
  code : String := ""
  directory : String := ""
  returnType : String := ""
  program : Option Program := none
  message : String := ""
  state : ArtifactState := .created
  refreshesTime : Bool := false
  refreshesResolution : Bool := false
  numbers : Table Float := []
  pairs : Table (Float × Float) := []

namespace Artifact

/-- A number with single precision. -/
def single (value : Float) : Float := value.toFloat32.toFloat

/-- Whether both stages have a source. -/
def hasSource (artifact : Artifact) : Bool :=
  !artifact.vertex.isEmpty && !artifact.fragment.isEmpty

/-- Whether the program can be used. -/
def isReady (artifact : Artifact) : Bool :=
  artifact.program.isSome && (artifact.state = .idle || artifact.state = .connected)

/-- Whether the last attempt failed. -/
def hasError (artifact : Artifact) : Bool :=
  artifact.state = .error

/-- The status of an artifact in a word. -/
def status (artifact : Artifact) : String :=
  if artifact.hasError then "ERROR"
  else if artifact.isReady then "COMPILED"
  else if artifact.hasSource then "READY_TO_COMPILE"
  else "NOT_READY"

/-- An artifact in one line. -/
def describe (artifact : Artifact) : String :=
  s!"ShaderArtifact({Text.quoted artifact.function}, " ++
    s!"{Text.quotedList artifact.arguments}, {artifact.status})"

/-- Set the sources of both stages. -/
def setSource (artifact : Artifact) (vertex fragment : String) : Artifact :=
  { artifact with vertex, fragment }

/-- Record an error. The program is kept. -/
def fail (artifact : Artifact) (message : String) : Traced Artifact := do
  Traced.log .error s!"Shader '{artifact.function}' error: {message}"
  return { artifact with message, state := .error }

/-- Release the program, if there is one. -/
def release (artifact : Artifact) : Traced Artifact :=
  match artifact.program with
  | none => pure artifact
  | some program => do
      Traced.emit (.programReleased program.number)
      return { artifact with program := none }

/-- Take over the outcome of a compilation, and tell whether it has a program.
The program before it is released. -/
def receive
    (artifact : Artifact)
    (outcome : Except CompileError Program) : Traced (Bool × Artifact) := do
  match outcome with
  | .error error => return (false, <- artifact.fail error.message)
  | .ok program =>
      let released <- artifact.release
      return (true, { released with program := some program, message := "", state := .idle })

/-- Mark a ready artifact as connected. -/
def connect (artifact : Artifact) : Artifact :=
  if artifact.isReady then { artifact with state := .connected } else artifact

/-- Mark a connected artifact as idle. -/
def disconnect (artifact : Artifact) : Artifact :=
  if artifact.state = .connected then { artifact with state := .idle } else artifact

/-- Release the program and start anew, unless there was an error. -/
def cleanUp (artifact : Artifact) : Traced Artifact := do
  let released <- artifact.release
  return if released.state = .error then released else { released with state := .created }

/-- Store the value of a uniform that is a number. -/
def setNumber (artifact : Artifact) (name : String) (value : Float) : Artifact :=
  { artifact with numbers := artifact.numbers.set name (single value) }

/-- Store the value of a uniform that is a pair. -/
def setPair (artifact : Artifact) (name : String) (first second : Float) : Artifact :=
  { artifact with pairs := artifact.pairs.set name (single first, single second) }

/-- Store the time and the resolution of a frame where they are asked for. -/
def refresh (artifact : Artifact) (elapsed width height : Float) : Artifact :=
  let timed := if artifact.refreshesTime then artifact.setNumber "time" elapsed else artifact
  if timed.refreshesResolution then timed.setPair "resolution" width height else timed

/-- Hand the stored values to a program. -/
def applyTo (artifact : Artifact) (program : Program) : Program :=
  let numbered := artifact.numbers.foldl
    (fun program entry => program.assign entry.1 (.number entry.2)) program
  artifact.pairs.foldl
    (fun program entry => program.assign entry.1 (.pair entry.2.1 entry.2.2)) numbered

/-- Hand the stored values to the program, if there is one. -/
def apply (artifact : Artifact) : Artifact :=
  { artifact with program := artifact.program.map artifact.applyTo }

end Artifact
end ShaderGraph
