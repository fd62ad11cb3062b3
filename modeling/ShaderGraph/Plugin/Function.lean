import ShaderGraph.Table

/-!
# Functions of plugins

A plugin offers functions of the shading language. Each has a file with its
source and the overloads that the source defines.
-/

namespace ShaderGraph

/-- One signature of a function. -/
structure Overload where
  returnType : String
  parameters : List String
  deriving DecidableEq

/-- A function that a plugin offers. Its file is named relative to the resource
directory of the plugin. -/
structure Function where
  name : String
  file : String
  category : String
  overloads : List Overload
  deriving DecidableEq

/-- What a plugin module hands out: a described table of functions. The path is
the resource directory, which is set on loading. -/
structure Plugin where
  name : String := "unnamed"
  version : String := "0.0.0"
  author : String := "unknown"
  functions : List Function := []
  path : String := ""
  deriving DecidableEq

namespace Plugin

/-- The first function of a name. -/
def find? (plugin : Plugin) (name : String) : Option Function :=
  plugin.functions.find? fun function => function.name == name

/-- The names of all functions. -/
def names (plugin : Plugin) : List String :=
  plugin.functions.map Function.name

/-- The names of the functions of a category. -/
def namesInCategory (plugin : Plugin) (category : String) : List String :=
  (plugin.functions.filter fun function => function.category == category).map Function.name

/-- The names of the functions with an overload of a return type. -/
def namesReturning (plugin : Plugin) (type : String) : List String :=
  (plugin.functions.filter fun function =>
    function.overloads.any fun overload => overload.returnType == type).map Function.name

end Plugin

/-- The loaded plugins in the order of their loading, each under its alias. This
is all that the generators of code look at. -/
abbrev Catalogue := Table Plugin

namespace Catalogue

/-- The first function of a name. -/
def find? (catalogue : Catalogue) (name : String) : Option Function :=
  catalogue.findSome? fun entry => entry.2.find? name

/-- The first function of a name in the plugin of an alias, or in any plugin if
no alias is given. -/
def findIn? (catalogue : Catalogue) (name : String) : Option String -> Option Function
  | none => catalogue.find? name
  | some pluginAlias => (Table.find? catalogue pluginAlias).bind (·.find? name)

/-- The alias of the first plugin that offers a function of a name. -/
def owner? (catalogue : Catalogue) (name : String) : Option String :=
  (List.find? (fun entry => (entry.2.find? name).isSome) catalogue).map Prod.fst

end Catalogue
end ShaderGraph
