/-!
# Events

Everything that an operation reports or does outside of the library is an event
of its trace: records of a log, and what happens to programs, plugins, the
observer of a directory, and the window that carries a graphics context.
-/

namespace ShaderGraph

/-- The weight of a record. -/
inductive Level
  | info
  | warning
  | error
  deriving DecidableEq

/-- The word that stands before the message of a record. -/
def Level.label : Level -> String
  | .info => "INFO"
  | .warning => "WARNING"
  | .error => "ERROR"

/-- The order of the levels by weight. -/
def Level.weight : Level -> Nat
  | .info => 0
  | .warning => 1
  | .error => 2

/-- What a hidden window is asked for before it is made. -/
inductive WindowHint
  | invisible
  | majorVersion
  | minorVersion
  | coreProfile
  | forwardCompatible
  deriving DecidableEq

/-- Something that was reported or done. Programs and libraries are told apart
by their numbers. -/
inductive Event
  | record (level : Level) (message : String)
  | programMade (number : Nat)
  | programReleased (number : Nat)
  | libraryOpened (serial : Nat)
  | libraryClosed (serial : Nat)
  | instanceMade (serial : Nat)
  | instanceReleased (serial : Nat) (farewell : Option String)
  | observerScheduled (root : String)
  | observerStarted
  | observerStopped
  | observerJoined
  | windowSystemStarted
  | windowHinted (hint : WindowHint)
  | windowRequested
  | windowSelected
  | windowSystemStopped
  | contextMade
  deriving DecidableEq

/-- The line that a record is written as. -/
def Level.line (level : Level) (message : String) : String :=
  level.label ++ ": " ++ message

end ShaderGraph
