import ShaderGraph.Table
import ShaderGraph.Text.Character
import ShaderGraph.Text.Lines

/-!
# Programs

A program is what a graphics context makes of a vertex stage and a fragment
stage. It knows the uniforms that the fragment stage declares, each on a line of
its own, and the values that were assigned to them.
-/

namespace ShaderGraph

/-- The value of a uniform: a number or a pair of numbers. -/
inductive UniformValue
  | number (value : Float)
  | pair (first second : Float)

/-- A program by its number, with its uniforms and their values. -/
structure Program where
  number : Nat
  uniforms : List String
  values : Table UniformValue := []

namespace Program

/-- The word that the declaration of a uniform starts with. -/
def uniformWord : List Char := ['u', 'n', 'i', 'f', 'o', 'r', 'm']

/-- The name of the uniform that a line declares: the declaration has three
words with a space between each two of them, and a semicolon. -/
def declaredUniform? (line : List Char) : Option String :=
  match line.dropWhile Text.isWord with
  | ' ' :: afterWord =>
      match afterWord.dropWhile Text.isWord with
      | ' ' :: afterType =>
          let name := afterType.takeWhile Text.isWord
          let hasType := !(afterWord.takeWhile Text.isWord).isEmpty
          let isClosed := (afterType.dropWhile Text.isWord).head? == some ';'
          if line.takeWhile Text.isWord == uniformWord && hasType && !name.isEmpty && isClosed then
            some (String.ofList name)
          else none
      | _ => none
  | _ => none

/-- The uniforms that a fragment stage declares. -/
def declaredUniforms (fragment : String) : List String :=
  (Text.lines fragment.toList).filterMap declaredUniform?

/-- Assign a value to a uniform. Names of no uniform are ignored. -/
def assign (program : Program) (name : String) (value : UniformValue) : Program :=
  if program.uniforms.contains name then
    { program with values := program.values.set name value }
  else program

end Program
end ShaderGraph
