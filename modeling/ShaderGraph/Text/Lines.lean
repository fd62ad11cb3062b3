/-!
# Lines

A line may end with a line feed, a carriage return, or both. Read texts have
line feeds only.
-/

namespace ShaderGraph
namespace Text

/-- A text with line feeds for all its line breaks. -/
def unifyLineBreaks : List Char -> List Char
  | [] => []
  | '\r' :: '\n' :: rest => '\n' :: unifyLineBreaks rest
  | first :: rest => (if first == '\r' then '\n' else first) :: unifyLineBreaks rest

/-- The lines of a text, which line feeds separate. -/
def lines : List Char -> List (List Char)
  | [] => [[]]
  | first :: rest =>
      if first == '\n' then [] :: lines rest
      else
        match lines rest with
        | [] => [[first]]
        | line :: others => (first :: line) :: others

end Text
end ShaderGraph
