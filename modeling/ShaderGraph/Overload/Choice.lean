import ShaderGraph.Argument.Description
import ShaderGraph.Plugin.Function

/-!
# The choice of an overload

Overloads are chosen by numbers of components. A single vector that all
arguments fill exactly comes first, then parameters that the arguments match one
by one, then parameters with the same number of components in total. Otherwise
the single parameter nearest in size is taken.
-/

namespace ShaderGraph

/-- A rule that chooses one of the overloads of a function for arguments. -/
abbrev Strategy := List Overload -> List Argument -> Except Failure (Option Overload)

namespace Argument

/-- The number of components of all arguments. -/
def totalComponents (arguments : List Argument) : Nat :=
  componentTotal (arguments.map Argument.type)

/-- Whether a type is that of numbers or of vectors of numbers. -/
def isNumeric (type : String) : Bool :=
  type == "float" || ['v', 'e', 'c'].isPrefixOf type.toList

/-- Whether arguments may be packed into one vector of a type. -/
def canCombine (arguments : List Argument) (type : String) : Bool :=
  isNumeric type && arguments.all fun argument => isNumeric argument.type

end Argument

namespace Overload

/-- The numbers of components of the parameters. -/
def sizes (overload : Overload) : List Nat :=
  overload.parameters.map componentCount

/-- The number of components of the first parameter. -/
def size (overload : Overload) : Nat :=
  overload.sizes.headD 1

/-- The overloads with one parameter. -/
def singles (overloads : List Overload) : List Overload :=
  overloads.filter fun overload => overload.parameters.length = 1

/-- The overloads with several parameters. -/
def multiples (overloads : List Overload) : List Overload :=
  overloads.filter fun overload => overload.parameters.length > 1

/-- Whether arguments fill the first parameter exactly. -/
def combines (arguments : List Argument) (overload : Overload) : Bool :=
  overload.size = Argument.totalComponents arguments &&
    Argument.canCombine arguments (overload.parameters.headD "")

/-- Whether each argument has the size of its parameter. -/
def matchesSlots (arguments : List Argument) (overload : Overload) : Bool :=
  overload.sizes = arguments.map fun argument => componentCount argument.type

/-- Whether arguments and parameters have equally many components in total. -/
def matchesTotal (arguments : List Argument) (overload : Overload) : Bool :=
  componentTotal overload.parameters = Argument.totalComponents arguments

/-- How far the first parameter is from a size. Of two equally far sizes the
smaller one counts as farther. -/
def distance (total : Nat) (overload : Overload) : Nat :=
  if overload.size < total then 2 * (total - overload.size) + 1
  else 2 * (overload.size - total)

/-- The first overload whose parameter is nearest to a size. -/
def nearest? (total : Nat) : List Overload -> Option Overload
  | [] => none
  | first :: rest =>
      match nearest? total rest with
      | none => some first
      | some other =>
          if other.distance total < first.distance total then some other else some first

/-- The overload that fits arguments best by numbers of components. -/
def best? (overloads : List Overload) (arguments : List Argument) : Option Overload :=
  (((singles overloads).find? (combines arguments)).or
    ((multiples overloads).find? (matchesSlots arguments))).or
  (((multiples overloads).find? (matchesTotal arguments)).or
    ((nearest? (Argument.totalComponents arguments) (singles overloads)).or
      overloads.head?))

end Overload

namespace Strategy

/-- Choose by numbers of components. -/
def byComponents : Strategy := fun overloads arguments =>
  .ok (Overload.best? overloads arguments)

/-- Choose the last overload, of which there must be one. -/
def last : Strategy := fun overloads _ =>
  match overloads.getLast? with
  | none => .error .emptySequence
  | some overload => .ok (some overload)

/-- A strategy that is yet to be made. -/
def pending : Strategy := fun _ _ => .error .abstractStrategy

end Strategy
end ShaderGraph
