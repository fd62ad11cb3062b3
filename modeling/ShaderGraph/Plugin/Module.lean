import ShaderGraph.Decimal.Notation
import ShaderGraph.Plugin.Function
import ShaderGraph.Text.Quoted

/-!
# Plugin modules

A plugin module is described by what its symbols do when they are called: the
one that tells the version of the interface, the one that makes the plugin, the
one that destroys it, and the one that informs about it.
-/

namespace ShaderGraph

/-- A value that a module reports as its version. -/
inductive Reported
  | nothing
  | flag (value : Bool)
  | integer (value : Int)
  | real (value : Float)
  | text (value : String)
  | list (values : List Reported)
  | dictionary (entries : List (String × Reported))

namespace Reported

mutual

/-- The form in which a value is shown inside of a list or a dictionary. -/
def inner : Reported -> String
  | .nothing => "None"
  | .flag value => if value then "True" else "False"
  | .integer value => toString value
  | .real value => Decimal.write value
  | .text value => Text.quoted value
  | .list values => "[" ++ ", ".intercalate (innerAmong values) ++ "]"
  | .dictionary entries => "\x7b" ++ ", ".intercalate (innerEntries entries) ++ "\x7d"

/-- The forms of the values of a list. -/
def innerAmong : List Reported -> List String
  | [] => []
  | first :: rest => inner first :: innerAmong rest

/-- The forms of the entries of a dictionary. -/
def innerEntries : List (String × Reported) -> List String
  | [] => []
  | (name, value) :: rest => (Text.quoted name ++ ": " ++ inner value) :: innerEntries rest

end

/-- The form in which a value is shown in a message. -/
def shown : Reported -> String
  | .text value => value
  | value => value.inner

/-- Whether a value equals a whole number. A flag counts as zero or one. -/
def isInteger (expected : Int) : Reported -> Bool
  | .flag value => (if value then 1 else 0) = expected
  | .integer value => value = expected
  | .real value => (Decimal.ofInteger? expected).any (· == value)
  | _ => false

end Reported

/-- What a symbol of a module does when it is called. A symbol may be absent, or
be there without being callable, which is the same. -/
inductive Symbol (Result : Type)
  | absent
  | raises (message : String)
  | returns (result : Result)

namespace Symbol

/-- Whether a symbol can be called. -/
def isCallable : Symbol Result -> Bool
  | .absent => false
  | _ => true

end Symbol

/-- What the maker of a module returns. -/
inductive Made
  | plugin (plugin : Plugin)
  | none
  | foreign

/-- A plugin module. The destroyer may raise; otherwise it takes leave of the
instance by its name. -/
structure Module where
  importError : Option String := none
  version : Symbol Reported := .absent
  create : Symbol Made := .returns (.plugin {})
  destroy : Symbol Unit := .returns ()
  info : Symbol String := .returns "info"

end ShaderGraph
