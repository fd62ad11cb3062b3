import ShaderGraph.Text.Equivalence

/-!
# The normal form of identifiers

Two identifiers are the same name when they differ only in how their characters
are written: in the style of a letter, in its width, or in whether a letter and
its mark are one character or two. The normal form takes every character apart,
sorts the marks behind each base, and puts together what has a character of its
own. Text of ASCII characters is its own normal form.
-/

namespace ShaderGraph
namespace Text

/-! ## Syllables of two and three letters -/

/-- The two parts of a syllable character: a syllable without its last letter and
that letter, or the first two letters. -/
def syllableParts? (code : Nat) : Option (Nat × Nat) :=
  if 0xAC00 <= code && code <= 0xD7A3 then
    let index := code - 0xAC00
    if index % 28 = 0 then some (0x1100 + index / 588, 0x1161 + index % 588 / 28)
    else some (code - index % 28, 0x11A7 + index % 28)
  else none

/-- The syllable character of two parts. -/
def syllable? (first second : Nat) : Option Nat :=
  if 0x1100 <= first && first < 0x1113 && 0x1161 <= second && second < 0x1176 then
    some (0xAC00 + (first - 0x1100) * 588 + (second - 0x1161) * 28)
  else if 0xAC00 <= first && first <= 0xD7A3 && (first - 0xAC00) % 28 = 0 &&
      0x11A7 < second && second < 0x11C3 then
    some (first + (second - 0x11A7))
  else none

/-! ## Taking characters apart -/

/-- The tables of characters that stand for one other character. -/
def variantTables : List CharacterRuns := [
  letterVariants, ideographVariants, presentationVariants, widthVariants,
  mathematicalVariants, supplementaryIdeographVariants]

/-- The characters that a character stands for, or the parts that it has. -/
def parts? (code : Nat) : Option (List Nat) :=
  match syllableParts? code with
  | some (first, second) => some [first, second]
  | none =>
      match variantTables.findSome? fun runs => runs.find? code with
      | some other => some [other]
      | none =>
          match textVariants.lookup code with
          | some others => some others
          | none =>
              ((firstComposites.lookup code).or (furtherComposites.lookup code)).map
                fun parts => [parts.1, parts.2]

/-- The characters that a character is made of, when parts are taken apart as
often as the first argument says. -/
def takeApart : Nat -> Nat -> List Nat
  | 0, code => [code]
  | rounds + 1, code =>
      match parts? code with
      | none => [code]
      | some parts => parts.flatMap (takeApart rounds)

/-- No character has parts that are nested deeper. -/
def partDepth : Nat := 8

/-! ## Sorting marks -/

/-- The combining class of a character; that of a base is zero. -/
def markClass (code : Nat) : Nat :=
  match markClasses.find? fun run => run.1 <= code && code <= run.2.1 with
  | some run => run.2.2
  | none => 0

/-- Write a character behind a text, whose last character comes first. A mark
goes before the marks of a higher class. -/
def insertMark (code : Nat) : List Nat -> List Nat
  | [] => [code]
  | last :: earlier =>
      if 0 < markClass code && markClass code < markClass last then
        last :: insertMark code earlier
      else code :: last :: earlier

/-- A text whose marks are sorted by their classes behind each base. -/
def sortMarks (codes : List Nat) : List Nat :=
  (codes.foldl (fun written code => insertMark code written) []).reverse

/-! ## Putting characters together -/

/-- The character of a base and a mark. -/
def composite? (first second : Nat) : Option Nat :=
  (syllable? first second).or <|
    ((firstComposites ++ furtherComposites).find? fun composite =>
      composite.2 == (first, second) && !uncomposed.contains composite.1).map Prod.fst

/-- Put together a base and the marks behind it. The marks that stay are those
read so far, the last one first. A mark reaches the base unless a mark before it
has the same class or a higher one. -/
def putTogetherBehind (base : Nat) (kept : List Nat) : List Nat -> List Nat
  | [] => base :: kept.reverse
  | code :: rest =>
      let reaches := match kept with
        | [] => true
        | last :: _ => markClass last < markClass code
      match if reaches then composite? base code else none with
      | some composite => putTogetherBehind composite kept rest
      | none =>
          if markClass code = 0 then base :: kept.reverse ++ putTogetherBehind code [] rest
          else putTogetherBehind base (code :: kept) rest

/-- Put together every base and the marks behind it. -/
def putTogether : List Nat -> List Nat
  | [] => []
  | code :: rest =>
      if markClass code = 0 then putTogetherBehind code [] rest
      else code :: putTogether rest

/-! ## Normal form -/

/-- The normal form of a text. -/
def normalForm (text : List Char) : List Char :=
  if text.all fun character => character.toNat < 0x80 then text
  else
    let parts := text.flatMap fun character => takeApart partDepth character.toNat
    (putTogether (sortMarks parts)).map Char.ofNat

end Text
end ShaderGraph
