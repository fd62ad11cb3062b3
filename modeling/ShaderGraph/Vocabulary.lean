import ShaderGraph.Builtins
import ShaderGraph.Plugin.Function

/-!
# What can be called

A name can be called when it is a built-in function, the constructor of a
built-in type, or a function that a loaded plugin offers. The built-in names win
over those of plugins.
-/

namespace ShaderGraph

/-- The built-in names and the loaded plugins. -/
structure Vocabulary where
  builtins : Builtins := {}
  catalogue : Catalogue := []

/-- Where a called name comes from. A function of a plugin comes with the alias
of the plugin. -/
inductive Origin
  | builtin
  | plugin (pluginAlias : String)
  | unknown
  deriving DecidableEq

/-- Whether a name comes from a plugin. -/
def Origin.isPlugin : Origin -> Bool
  | .plugin _ => true
  | _ => false

namespace Vocabulary

/-- The alias that a plugin without an alias is reported under. -/
def namelessAlias : String := "unknown_plugin"

/-- Where a name comes from. -/
def classify (vocabulary : Vocabulary) (name : String) : Origin :=
  if vocabulary.builtins.isCallable name then .builtin
  else
    match vocabulary.catalogue.owner? name with
    | none => .unknown
    | some pluginAlias => .plugin (if pluginAlias.isEmpty then namelessAlias else pluginAlias)

end Vocabulary
end ShaderGraph
