/-!
# Paths

A path is a text whose segments are separated by slashes. The functions of this
module work on the text alone and never look at files.
-/

namespace ShaderGraph
namespace Path

/-- The stretches of a text between its slashes. -/
def segmentChars : List Char -> List (List Char)
  | [] => [[]]
  | first :: rest =>
      if first == '/' then [] :: segmentChars rest
      else
        match segmentChars rest with
        | [] => [[first]]
        | segment :: others => (first :: segment) :: others

/-- The stretches of a path between its slashes. -/
def segments (path : String) : List String :=
  (segmentChars path.toList).map String.ofList

/-- Segments joined by slashes. -/
def ofSegments (segments : List String) : String :=
  "/".intercalate segments

/-- The segments that move: all but the empty ones and the single points. -/
def moves (path : String) : List String :=
  (segments path).filter fun segment => segment != "" && segment != "."

/-- Whether a path starts at the root. -/
def isAbsolute (path : String) : Bool :=
  path.toList.head? == some '/'

/-- Whether a path has a null character, which no file can be opened under. -/
def hasNull (path : String) : Bool :=
  path.toList.contains '\x00'

/-- The slashes that a tidied path starts with: two are kept, more are one. -/
def leadingSlashes (path : String) : String :=
  match path.toList with
  | '/' :: '/' :: '/' :: _ => "/"
  | '/' :: '/' :: _ => "//"
  | '/' :: _ => "/"
  | _ => ""

/-- A path behind a directory, unless it is absolute. -/
def join (directory path : String) : String :=
  if isAbsolute path then path
  else if directory.isEmpty || directory.toList.getLast? == some '/' then directory ++ path
  else directory ++ "/" ++ path

/-- The directory part of a path: what stands before the last slash, without the
slashes at its end. -/
def directory (path : String) : String :=
  let upToSlash := (path.toList.reverse.dropWhile (· != '/')).reverse
  if upToSlash.all (· == '/') then String.ofList upToSlash
  else String.ofList (upToSlash.reverse.dropWhile (· == '/')).reverse

/-- Append a move to the moves before it, given in reverse. A step up takes back
the move before it; at the start of a relative path it stays. -/
def pushMove (absolute : Bool) (before : List String) (move : String) : List String :=
  if move == ".." then
    match before with
    | [] => if absolute then [] else [".."]
    | previous :: earlier => if previous == ".." then move :: before else earlier
  else move :: before

/-- A path in its shortest form, with steps up taken back. -/
def normalize (path : String) : String :=
  let kept := ((moves path).foldl (pushMove (isAbsolute path)) []).reverse
  let text := leadingSlashes path ++ ofSegments kept
  if text.isEmpty then "." else text

/-- A path without empty segments and single points. -/
def tidy (path : String) : String :=
  let text := leadingSlashes path ++ ofSegments (moves path)
  if text.isEmpty then "." else text

/-- The last segment of a path that moves. -/
def name (path : String) : String :=
  (moves path).getLast?.getD ""

/-- A path without the slashes and points that change nothing, extended by a
segment. -/
def child (path segment : String) : String :=
  let parent := tidy path
  if parent == "." then segment
  else if parent.toList.getLast? == some '/' then parent ++ segment
  else parent ++ "/" ++ segment

end Path
end ShaderGraph
