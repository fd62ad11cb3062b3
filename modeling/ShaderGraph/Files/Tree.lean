import ShaderGraph.Files.Path
import ShaderGraph.Plugin.Module
import ShaderGraph.Text.Lines
import ShaderGraph.Text.Sorted

/-!
# File trees

A file tree holds texts, plugin modules and directories, each at the segments
that lead to it from the root. A path is followed segment by segment, so every
directory on the way must exist. Absolute paths start at the root, all others at
the working directory. A step up from the root stays at the root. Names and paths
can have any length.
-/

namespace ShaderGraph

/-- What stands at a place of a file tree. The bytes of a file may be no text,
which a reader of texts reports. -/
inductive Content
  | directory
  | text (text : String)
  | binary (report : String)
  | module (module : Module)

/-- Why a file cannot be opened. -/
inductive FileError
  | missing (path : String)
  | isDirectory (path : String)
  | notDirectory (path : String)
  deriving DecidableEq

/-- The report of a file that cannot be opened. -/
def FileError.message : FileError -> String
  | .missing path => "[Errno 2] No such file or directory: " ++ Text.quoted path
  | .isDirectory path => "[Errno 21] Is a directory: " ++ Text.quoted path
  | .notDirectory path => "[Errno 20] Not a directory: " ++ Text.quoted path

/-- What can be no path or no text: a path with a null character, and bytes that
cannot be decoded. -/
inductive FormatError
  | nullCharacter
  | undecodable (report : String)
  deriving DecidableEq

/-- The report of what can be no path or no text. -/
def FormatError.message : FormatError -> String
  | .nullCharacter => "embedded null byte"
  | .undecodable report => report

/-- Why the text of a file cannot be read. -/
inductive ReadError
  | refused (error : FileError)
  | malformed (error : FormatError)
  deriving DecidableEq

/-- The entries of a tree, each with the segments of its place, and the place
that relative paths start at. -/
structure FileTree where
  entries : List (List String × Content) := []
  workingDirectory : List String := []

namespace FileTree

/-- What stands at a place. The place without segments is the root. -/
def content? (files : FileTree) (place : List String) : Option Content :=
  if place.isEmpty then some .directory else List.lookup place files.entries

/-- Whether a place is a directory. -/
def isDirectoryAt (files : FileTree) (place : List String) : Bool :=
  match files.content? place with
  | some .directory => true
  | _ => false

/-- Follow the segments of a path from a place. The root is its own parent. -/
def follow (files : FileTree) (path : String) :
    List String -> List String -> Except FileError (List String)
  | place, [] => .ok place
  | place, segment :: rest =>
      if !files.isDirectoryAt place then .error (.notDirectory path)
      else if segment == "" || segment == "." then files.follow path place rest
      else if segment == ".." then files.follow path place.dropLast rest
      else if (files.content? (place ++ [segment])).isSome then
        files.follow path (place ++ [segment]) rest
      else .error (.missing path)

/-- The place that a path starts at. -/
def origin (files : FileTree) (path : String) : List String :=
  if Path.isAbsolute path then [] else files.workingDirectory

/-- The place that a path leads to. The empty path leads nowhere, and neither
does one with a null character. -/
def locate (files : FileTree) (path : String) : Except FileError (List String) :=
  if path.isEmpty || Path.hasNull path then .error (.missing path)
  else files.follow path (files.origin path) (Path.segments path)

/-- What a path leads to. -/
def contentAt? (files : FileTree) (path : String) : Option Content :=
  match files.locate path with
  | .ok place => files.content? place
  | .error _ => none

/-- Whether a path leads to a file. -/
def isFile (files : FileTree) (path : String) : Bool :=
  match files.contentAt? path with
  | some .directory => false
  | some _ => true
  | none => false

/-- Whether a path leads to a directory. -/
def isDirectory (files : FileTree) (path : String) : Bool :=
  match files.contentAt? path with
  | some .directory => true
  | _ => false

/-- The text of the file that a path leads to. -/
def read (files : FileTree) (path : String) : Except ReadError String :=
  if Path.hasNull path then .error (.malformed .nullCharacter)
  else
    match files.locate path with
    | .error error => .error (.refused error)
    | .ok place =>
        match files.content? place with
        | some (.text text) => .ok (String.ofList (Text.unifyLineBreaks text.toList))
        | some (.binary report) => .error (.malformed (.undecodable report))
        | some (.module _) => .ok ""
        | some .directory => .error (.refused (.isDirectory path))
        | none => .error (.refused (.missing path))

/-- The names of what stands directly in a directory, in ascending order. -/
def children (files : FileTree) (path : String) : List String :=
  match files.locate path with
  | .error _ => []
  | .ok place =>
      Text.sortedNames (files.entries.filterMap fun entry =>
        if entry.1.dropLast = place then entry.1.getLast? else none)

/-- Put something at a place, in place of what stood there. -/
def put (files : FileTree) (place : List String) (content : Content) : FileTree :=
  let entries :=
    if files.entries.any fun entry => entry.1 == place then
      files.entries.map fun entry => if entry.1 == place then (place, content) else entry
    else files.entries ++ [(place, content)]
  { files with entries }

/-- Make a directory unless something stands at its place. -/
def makeDirectory (files : FileTree) (place : List String) : FileTree :=
  if (files.content? place).isSome then files else files.put place .directory

/-- Put something at the end of a path and make the directories on the way. A
path that ends with a slash makes a directory. -/
def write (files : FileTree) (path : String) (content : Content) : FileTree :=
  let place := files.origin path ++ Path.moves path
  let parents := (List.range place.length).map fun count => place.take count
  let prepared := parents.foldl makeDirectory files
  if path.toList.getLast? == some '/' then prepared.makeDirectory place
  else prepared.put place content

/-- The tree without the file at the end of a path. -/
def remove (files : FileTree) (path : String) : FileTree :=
  match files.locate path with
  | .ok place => { files with entries := files.entries.filter fun entry => !(entry.1 == place) }
  | .error _ => files

end FileTree
end ShaderGraph
