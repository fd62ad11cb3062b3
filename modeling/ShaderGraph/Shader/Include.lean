import ShaderGraph.Failure
import ShaderGraph.Shader.Directive

/-!
# Inclusion of files

Every include directive of a source is replaced by the text of its file, which
may include further files relative to its own directory. Each path is included
once: all later directives that lead to it are replaced by nothing. Without a
directory to start from nothing is included.

One file has many paths, and a step up from the root stays at the root, so files
can include themselves without end. The resolution therefore fails where files
are nested deeper than a limit.
-/

namespace ShaderGraph
namespace Include

/-- A computation that knows which paths were included before. -/
abbrev Inclusion (Value : Type) := StateT (List String) (Except Failure) Value

/-- How deep files can include each other. Each of them takes three calls of the
thousand that can be pending at a time, of which some belong to the caller. -/
def depthLimit : Nat := 320

/-- Where a target leads to from a directory. -/
def pathOf (directory target : String) : String :=
  Path.normalize (Path.join directory target)

/-- The failure of a directive whose file cannot be read. A file that cannot be
opened is reported with the directive; what can be no path or no text is not. -/
def failureOf (directory target : String) : ReadError -> Failure
  | .refused error => .compilation (.includeUnreadable target directory error)
  | .malformed error => .malformed error

/-- The text that a part stands for. A file that was not included before is read
and its text expanded by the given function. -/
def expandPiece
    (files : FileTree)
    (expand : String -> List Char -> Inclusion (List Char))
    (directory : String) : Directive.Piece -> Inclusion (List Char)
  | .character value => pure [value]
  | .directive target => do
      let path := pathOf directory target
      if (<- get).contains path then return []
      modify (path :: ·)
      match files.read path with
      | .error error => throw (failureOf directory target error)
      | .ok text => expand (Path.directory path) text.toList

/-- A text with its directives expanded, if its files are nested less deeply than
the given depth. -/
def expand (files : FileTree) : Nat -> String -> List Char -> Inclusion (List Char)
  | 0, _, _ => throw .tooDeep
  | depth + 1, directory, text =>
      if directory.isEmpty then pure text
      else do
        let parts <- (Directive.split text).mapM
          (expandPiece files (expand files depth) directory)
        return parts.flatten

/-- A source with all its directives expanded, if its files are nested at most as
deep as a limit. -/
def resolve
    (files : FileTree)
    (directory source : String)
    (limit : Nat := depthLimit) : Except Failure String :=
  match (expand files (limit + 1) directory source.toList).run [] with
  | .error failure => .error failure
  | .ok (text, _) => .ok (String.ofList text)

end Include
end ShaderGraph
