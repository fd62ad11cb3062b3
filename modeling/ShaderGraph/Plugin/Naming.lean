import ShaderGraph.Files.Tree
import ShaderGraph.Trace.Traced

/-!
# Names of plugin files

A plugin lives in a file with a fixed ending, in a directory of its own. The
name of the file without that ending, and without the common mark of libraries,
is its alias; the directory holds its resources.
-/

namespace ShaderGraph
namespace Plugin

/-- The ending of the names of plugin files. -/
def fileEnding : String := "_plugin.py"

/-- The ending of the names of all modules. -/
def moduleEnding : String := ".py"

/-- The mark of libraries that an alias leaves out. -/
def libraryMark : String := "lib"

/-- Whether a name ends with an ending. -/
def hasEnding (ending name : String) : Bool :=
  ending.toList.isSuffixOf name.toList

/-- A name without a mark at its start. -/
def withoutMark (mark name : String) : String :=
  if mark.toList.isPrefixOf name.toList then String.ofList (name.toList.drop mark.length)
  else name

/-- A name without an ending. -/
def withoutEnding (ending name : String) : String :=
  if hasEnding ending name then String.ofList (name.toList.take (name.length - ending.length))
  else name

/-- The alias of the plugin in a file. -/
def aliasOf (path : String) : String :=
  withoutEnding fileEnding (withoutMark libraryMark (Path.name path))

/-- The directory with the resources of the plugin in a file, with a slash at its
end. -/
def resourceDirectory (path : String) : String :=
  let parent := Path.directory path
  if parent.isEmpty then "./" else parent ++ "/"

/-- The plugin files one directory below a root, in ascending order. A root that
does not exist is reported. -/
def findFiles (files : FileTree) (root : String) : Traced (List String) := do
  let start := Path.tidy root
  if files.isDirectory start then
    let directories :=
      ((files.children start).map (Path.child start)).filter files.isDirectory
    return directories.flatMap fun directory =>
      ((files.children directory).filter (hasEnding fileEnding)).map (Path.child directory)
  else
    Traced.log .warning s!"Plugin directory does not exist: {start}"
    return []

end Plugin
end ShaderGraph
