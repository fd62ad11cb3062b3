import ShaderGraph.Graphics.Program
import ShaderGraph.Shader.Include

/-!
# Compilation

A compiler resolves the includes of both stages and hands them to a graphics
context. A compiler without a context of its own shares the one of a hidden
window, which is made when it is first needed. Every failure is reported.
-/

namespace ShaderGraph

/-- Whether the window system can be started and can make a window. -/
structure WindowSystem where
  starts : Bool := true
  makesWindow : Bool := true
  deriving DecidableEq

/-- Where a compiler gets its context from. -/
inductive Access
  | given
  | hidden
  deriving DecidableEq

/-- The state of the graphics: the window system, whether the hidden window was
made, the number of programs, and the stages that were handed over last. -/
structure Graphics where
  windows : WindowSystem := {}
  isShared : Bool := false
  programs : Nat := 0
  last : Option (String × String) := none
  deriving DecidableEq

/-- A computation on graphics that may fail to compile. -/
abbrev Rendering (Value : Type) := ExceptT CompileError (StateT Graphics Traced) Value

namespace Graphics

/-- One event of a rendering. -/
def emit (event : Event) : Rendering Unit :=
  liftM (Traced.emit event)

/-- Make the hidden window and the context that compilers share. -/
def makeShared : Rendering Unit := do
  emit .windowSystemStarted
  if !(<- get).windows.starts then throw .noWindowSystem
  emit (.windowHinted .invisible)
  emit (.windowHinted .majorVersion)
  emit (.windowHinted .minorVersion)
  emit (.windowHinted .coreProfile)
  emit (.windowHinted .forwardCompatible)
  emit .windowRequested
  if !(<- get).windows.makesWindow then
    emit .windowSystemStopped
    throw .noWindow
  emit .windowSelected
  emit .contextMade
  modify fun graphics => { graphics with isShared := true }

/-- Make sure that there is a context. -/
def acquire : Access -> Rendering Unit
  | .given => pure ()
  | .hidden => do
      if !(<- get).isShared then makeShared

/-- The directive that makes a driver reject a stage. -/
def errorMark : List Char := ['#', 'e', 'r', 'r', 'o', 'r', ' ']

/-- The first error directive of a stage, up to the end of its line. -/
def rejection? : List Char -> Option (List Char)
  | [] => none
  | first :: rest =>
      if errorMark.isPrefixOf (first :: rest) then
        some ((first :: rest).takeWhile (· != '\n'))
      else rejection? rest

/-- Make a program of two stages, unless the driver rejects the fragment stage. -/
def link (vertex fragment : String) : Rendering Program := do
  modify fun graphics => { graphics with last := some (vertex, fragment) }
  match rejection? fragment.toList with
  | some reason => throw (.rejected ("driver: " ++ String.ofList reason))
  | none =>
      let number := (<- get).programs + 1
      modify fun graphics => { graphics with programs := number }
      emit (.programMade number)
      return { number, uniforms := Program.declaredUniforms fragment }

/-- What a failure is reported as. One that is no failure of a compilation is
reported by its message. -/
def reported : Failure -> CompileError
  | .compilation error => error
  | failure => .rejected failure.message

/-- Resolve the includes of two stages and make a program of them. -/
def build
    (files : FileTree)
    (access : Access)
    (vertex fragment directory : String) : Rendering Program := do
  let vertex <- liftM ((Include.resolve files directory vertex).mapError reported)
  let fragment <- liftM ((Include.resolve files directory fragment).mapError reported)
  acquire access
  link vertex fragment

/-- Compile two stages and report a failure. -/
def compile
    (files : FileTree)
    (access : Access)
    (vertex fragment directory : String) :
    StateT Graphics Traced (Except CompileError Program) := do
  let outcome <- (build files access vertex fragment directory).run
  match outcome with
  | .ok program => return .ok program
  | .error error =>
      Traced.log .error ("Shader compilation failed. Details:\n" ++ error.message)
      return .error error

end Graphics
end ShaderGraph
