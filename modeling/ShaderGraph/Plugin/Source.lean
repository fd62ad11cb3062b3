import ShaderGraph.Failure
import ShaderGraph.Plugin.Function

/-!
# Sources of functions

The source of a function is a file in the resource directory of its plugin. A
plugin is asked for by its alias; without one the first plugin that offers the
function is taken. A source that cannot be opened is empty; one that can be no
text is a failure.
-/

namespace ShaderGraph
namespace Catalogue

/-- The alias that a function is looked up under. -/
def aliasFor?
    (catalogue : Catalogue)
    (name : String)
    (pluginAlias : Option String) : Option String :=
  match pluginAlias with
  | none => catalogue.owner? name
  | some pluginAlias => if pluginAlias.isEmpty then catalogue.owner? name else some pluginAlias

/-- The path of the source of a function. A plugin without an alias has none. -/
def sourcePath?
    (catalogue : Catalogue)
    (name : String)
    (pluginAlias : Option String := none) : Option String :=
  match catalogue.aliasFor? name pluginAlias with
  | none => none
  | some found =>
      if found.isEmpty then none
      else
        match Table.find? catalogue found with
        | none => none
        | some plugin =>
            (plugin.find? name).map fun function => Path.join plugin.path function.file

/-- The source of a function. -/
def loadSource
    (catalogue : Catalogue)
    (files : FileTree)
    (name : String)
    (pluginAlias : Option String := none) : Attempt String :=
  match catalogue.sourcePath? name pluginAlias with
  | none => pure ""
  | some path =>
      match files.read path with
      | .ok text => pure text
      | .error (.refused error) => do
          liftM (Traced.log .error (s!"Failed to read GLSL file {path}: " ++ error.message))
          return ""
      | .error (.malformed error) => throw (.malformed error)

end Catalogue
end ShaderGraph
