/-!
# Frames of generated shaders

Every shader has the same vertex stage. The fragment stage has a place for
uniforms, for functions and for the lines of the main function, the last of
which turns the result into a color.
-/

namespace ShaderGraph
namespace Shader

/-- The vertex stage of every shader. -/
def vertexStage : String :=
  "#version 150\n\nuniform mat4 modelViewProjectionMatrix;\n\nin vec4 position;\n" ++
  "in vec2 texcoord;\n\nout vec2 vTexCoord;\n\nvoid main() \x7b\n" ++
  "    vTexCoord = texcoord;\n    gl_Position = modelViewProjectionMatrix * position;\n\x7d\n"

/-- A fragment stage from its uniforms, its functions and the lines of its main
function. -/
def fragmentStage (uniforms functions : String) (lines : List String) : String :=
  "#version 150\n\nin vec2 vTexCoord;\nout vec4 outputColor;\n\n" ++ uniforms ++ "\n\n" ++
    functions ++ "\n\nvoid main() \x7b\n" ++ "\n".intercalate lines ++ "\n\x7d\n"

/-- The color that a result of a type stands for. Types other than those of
numbers and vectors of numbers count as numbers. -/
def color (type result : String) : String :=
  match type with
  | "vec2" => s!"vec4({result}.xy, 0.0, 1.0)"
  | "vec3" => s!"vec4({result}, 1.0)"
  | "vec4" => result
  | _ => s!"vec4(vec3({result}), 1.0)"

/-- The statement that hands the color of a result to the output. -/
def outputStatement (type result : String) : String :=
  s!"outputColor = {color type result};"

end Shader
end ShaderGraph
