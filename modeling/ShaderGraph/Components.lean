/-!
# Components of types

Vectors have two to four components, and everything else counts as one. The
components of a vector are named by the letters of the position.
-/

namespace ShaderGraph

/-- The letters of the components in their order. -/
def componentLetters : List Char := ['x', 'y', 'z', 'w']

/-- The number of components of a type: that of a vector of any kind of
element is its last character, and all other types count as one. -/
def componentCount (type : String) : Nat :=
  match type.toList.reverse with
  | '2' :: 'c' :: 'e' :: 'v' :: _ => 2
  | '3' :: 'c' :: 'e' :: 'v' :: _ => 3
  | '4' :: 'c' :: 'e' :: 'v' :: _ => 4
  | _ => 1

/-- The number of components of several types together. -/
def componentTotal (types : List String) : Nat :=
  (types.map componentCount).foldr (· + ·) 0

/-- The type of a selection of the given number of components. -/
def selectionType : Nat -> String
  | 2 => "vec2"
  | 3 => "vec3"
  | 4 => "vec4"
  | _ => "float"

/-- The letters that select from the given number of components, of which there
are at least one and at most four. -/
def supportedLetters (count : Int) : List Char :=
  componentLetters.take (max 1 (min count 4)).toNat

end ShaderGraph
