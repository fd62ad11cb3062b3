import ShaderGraph.Expression.Scan

/-!
# The grammar of expressions

A reader of the grammar takes tokens from the front of a list and returns an
expression. It never goes back: the token that it fails at is the first one
that no expression with the tokens before it could go on with. A reader knows
tokens by their numbers only, and `parse?` finds out where they stand. Every
function of the grammar takes a bound on the depth of its calls, which `parse?`
chooses large enough for the number of tokens.
-/

namespace ShaderGraph

/-- A kind of token and the number of the token in its text. -/
structure Mark where
  kind : TokenKind
  number : Nat

/-- A reader that fails with the number of the token it cannot go on with. -/
abbrev Reader := StateT (List Mark) (Except Nat)

namespace Reader

/-- The next token. Behind the end there is nothing but the end. -/
def peek : Reader Mark := do
  match ← get with
  | [] => pure ⟨.stop, 0⟩
  | mark :: _ => pure mark

/-- The token behind the next one. -/
def peekSecond : Reader Mark := do
  match ← get with
  | _ :: mark :: _ => pure mark
  | _ => pure ⟨.stop, 0⟩

/-- Take the next token. -/
def advance : Reader Unit :=
  modify (List.drop 1)

/-- Fail at the next token. -/
def refuse : Reader Value := do
  throw (← peek).number

/-- Whether the next token is of a kind. -/
def isNext (kind : TokenKind) : Reader Bool := do
  return (← peek).kind = kind

/-- Take the next token if it is of a kind. -/
def accept (kind : TokenKind) : Reader Bool := do
  if ← isNext kind then
    advance
    return true
  else return false

/-- Take a token of a kind or fail. -/
def require (kind : TokenKind) : Reader Unit := do
  if !(← accept kind) then refuse

/-- The number of the next token, which stands for the column of an expression. -/
def here : Reader Nat := do
  return (← peek).number

/-- Whether the next tokens are a name and the sign that gives it a value. -/
def isNaming : Reader Bool := do
  match (← peek).kind with
  | .identifier _ => return (← peekSecond).kind = .symbol ":="
  | _ => return false

/-- Whether the next token starts the clauses of a comprehension. -/
def isComprehension : Reader Bool := do
  return (← peek).kind = .keyword "for" || (← peek).kind = .keyword "async"

/-- Split tokens behind the end of a field. The number counts the ends of fields
inside of it that are still to come. -/
def splitField : Nat -> List Mark -> List Mark × List Mark
  | _, [] => ([], [])
  | inner, mark :: rest =>
      match mark.kind, inner with
      | .stop, 0 => ([mark], rest)
      | .invalid, 0 => ([mark], rest)
      | .stop, inner + 1 => (splitField inner rest).map (mark :: ·) id
      | .invalid, inner + 1 => (splitField inner rest).map (mark :: ·) id
      | .formatted (some count), inner => (splitField (inner + count) rest).map (mark :: ·) id
      | _, inner => (splitField inner rest).map (mark :: ·) id

/-- Take the tokens of fields. -/
def takeFields : Nat -> Reader (List (List Mark))
  | 0 => return []
  | count + 1 => do
      let (field, rest) := splitField 0 (← get)
      set rest
      return field :: (← takeFields count)

end Reader

namespace Grammar

open Reader

/-- The place in the order of precedence of the operators between operands, and
the operator if it has a value. -/
def operatorOf? : TokenKind -> Option (Nat × Option Operator)
  | .symbol "|" => some (1, none)
  | .symbol "^" => some (2, some .power)
  | .symbol "&" => some (3, none)
  | .symbol "<<" => some (4, none)
  | .symbol ">>" => some (4, none)
  | .symbol "+" => some (5, some .add)
  | .symbol "-" => some (5, some .subtract)
  | .symbol "*" => some (6, some .multiply)
  | .symbol "/" => some (6, some .divide)
  | .symbol "//" => some (6, none)
  | .symbol "%" => some (6, some .modulo)
  | .symbol "@" => some (6, none)
  | _ => none

/-- Two operands joined by an operator. -/
def joined (column : Nat) (operator : Option Operator) (left right : Expression) : Expression :=
  match operator with
  | some operator => .binary column operator left right
  | none => .other column .binaryOperation [left, right]

/-- Whether an expression may stand as the target of an assignment. -/
def isTarget : Expression -> Bool
  | .name _ _ => true
  | .other _ .member _ => true
  | .other _ .subscript _ => true
  | .other _ .starred [part] => isTarget part
  | .other _ .tuple parts => areTargets parts
  | .other _ .list parts => areTargets parts
  | _ => false
where
  /-- Whether all expressions of a list may stand as targets. -/
  areTargets : List Expression -> Bool
    | [] => true
    | first :: rest => isTarget first && areTargets rest

/-- Whether an expression is a starred one. -/
def isStarred : Expression -> Bool
  | .other _ .starred _ => true
  | _ => false

/-- The kinds of parameters that a parameter list may still hold. -/
inductive Parameters
  | positional (any defaulted slashed : Bool)
  | bareStar
  | keywordOnly
  | finished
  deriving DecidableEq

/-- Take a comparison operator if one comes next. -/
def comparison? : Reader Bool := do
  match (← peek).kind with
  | .symbol "==" | .symbol "!=" | .symbol "<" | .symbol "<=" | .symbol ">" | .symbol ">=" =>
      advance
      return true
  | .keyword "in" =>
      advance
      return true
  | .keyword "is" =>
      advance
      let _ ← accept (.keyword "not")
      return true
  | .keyword "not" =>
      advance
      require (.keyword "in")
      return true
  | _ => return false

/-- Take the further texts that are written behind a text, with the tokens of their
fields. The flags tell whether the texts are bytes and whether one of them is
formatted. -/
def texts (bytes formatted : Bool) (bodies : List (Option (List (List Mark)))) :
    Nat -> Reader (Bool × List (Option (List (List Mark))))
  | 0 => refuse
  | fuel + 1 => do
      match (← peek).kind with
      | .text more =>
          if more != bytes then refuse
          else
            advance
            texts bytes formatted bodies fuel
      | .formatted none =>
          if bytes then refuse
          else
            advance
            texts bytes true (bodies ++ [none]) fuel
      | .formatted (some count) =>
          if bytes then refuse
          else
            advance
            let fields ← takeFields count
            texts bytes true (bodies ++ [some fields]) fuel
      | _ => return (formatted, bodies)

mutual

/-- A conditional, a function without a name, or a disjunction. -/
def expression : Nat -> Reader Expression
  | 0 => refuse
  | fuel + 1 => do
      let column ← here
      if ← accept (.keyword "lambda") then
        let defaults ← parameters fuel (.positional false false false) []
        let body ← expression fuel
        return .other column .lambda (defaults ++ [body])
      let value ← disjunction fuel
      if ← accept (.keyword "if") then
        let condition ← disjunction fuel
        require (.keyword "else")
        let alternative ← expression fuel
        return .other column .conditional [condition, value, alternative]
      else return value

/-- An expression, or the assignment of one to a name. -/
def namedExpression : Nat -> Reader Expression
  | 0 => refuse
  | fuel + 1 => do
      let column ← here
      match (← peek).kind with
      | .identifier name =>
          if (← peekSecond).kind = .symbol ":=" then
            advance
            advance
            let value ← expression fuel
            return .other column .assignment [.name column name, value]
          else expression fuel
      | _ => expression fuel

/-- A named expression, or a starred operand. -/
def starredOrNamed : Nat -> Reader Expression
  | 0 => refuse
  | fuel + 1 => do
      let column ← here
      if ← accept (.symbol "*") then
        let operand ← operation fuel 1
        return .other column .starred [operand]
      else namedExpression fuel

/-- The parameters of a function without a name, up to the colon. The result
are the default values. -/
def parameters : Nat -> Parameters -> List Expression -> Reader (List Expression)
  | 0, _, _ => refuse
  | fuel + 1, state, defaults => do
      let isEnd ← if state = .bareStar then pure false else accept (.symbol ":")
      if isEnd then return defaults
      match (← peek).kind, state with
      | .symbol "/", .positional true defaulted false =>
          advance
          afterParameter fuel (.positional true defaulted true) defaults
      | .symbol "*", .positional _ _ _ =>
          advance
          match (← peek).kind with
          | .identifier _ =>
              advance
              afterParameter fuel .keywordOnly defaults
          | .symbol "," =>
              advance
              parameters fuel .bareStar defaults
          | _ => refuse
      | .symbol "**", .bareStar => refuse
      | .symbol "**", .finished => refuse
      | .symbol "**", _ =>
          advance
          match (← peek).kind with
          | .identifier _ =>
              advance
              afterParameter fuel .finished defaults
          | _ => refuse
      | .identifier _, .finished => refuse
      | .identifier _, .positional _ defaulted slashed =>
          advance
          if ← accept (.symbol "=") then
            let value ← expression fuel
            afterParameter fuel (.positional true true slashed) (defaults ++ [value])
          else if defaulted then refuse
          else afterParameter fuel (.positional true false slashed) defaults
      | .identifier _, _ =>
          advance
          if ← accept (.symbol "=") then
            let value ← expression fuel
            afterParameter fuel .keywordOnly (defaults ++ [value])
          else afterParameter fuel .keywordOnly defaults
      | _, _ => refuse

/-- What follows a parameter: a comma and further ones, or the colon. -/
def afterParameter : Nat -> Parameters -> List Expression -> Reader (List Expression)
  | 0, _, _ => refuse
  | fuel + 1, state, defaults => do
      if ← accept (.symbol ",") then parameters fuel state defaults
      else
        require (.symbol ":")
        return defaults

/-- Conjunctions joined by `or`. -/
def disjunction : Nat -> Reader Expression
  | 0 => refuse
  | fuel + 1 => do
      let column ← here
      let first ← conjunction fuel
      let others ← disjuncts fuel
      if others.isEmpty then return first
      else return .other column .booleanOperation (first :: others)

/-- The further conjunctions of a disjunction. -/
def disjuncts : Nat -> Reader (List Expression)
  | 0 => refuse
  | fuel + 1 => do
      if ← accept (.keyword "or") then
        let next ← conjunction fuel
        return next :: (← disjuncts fuel)
      else return []

/-- Inversions joined by `and`. -/
def conjunction : Nat -> Reader Expression
  | 0 => refuse
  | fuel + 1 => do
      let column ← here
      let first ← inversion fuel
      let others ← conjuncts fuel
      if others.isEmpty then return first
      else return .other column .booleanOperation (first :: others)

/-- The further inversions of a conjunction. -/
def conjuncts : Nat -> Reader (List Expression)
  | 0 => refuse
  | fuel + 1 => do
      if ← accept (.keyword "and") then
        let next ← inversion fuel
        return next :: (← conjuncts fuel)
      else return []

/-- A comparison, which may be negated. -/
def inversion : Nat -> Reader Expression
  | 0 => refuse
  | fuel + 1 => do
      let column ← here
      if ← accept (.keyword "not") then
        let operand ← inversion fuel
        return .other column .unaryOperation [operand]
      let first ← operation fuel 1
      let others ← compared fuel
      if others.isEmpty then return first
      else return .other column .comparison (first :: others)

/-- The further operands of a comparison. -/
def compared : Nat -> Reader (List Expression)
  | 0 => refuse
  | fuel + 1 => do
      if ← comparison? then
        let next ← operation fuel 1
        return next :: (← compared fuel)
      else return []

/-- Operands joined by operators of at least the given precedence. -/
def operation : Nat -> Nat -> Reader Expression
  | 0, _ => refuse
  | fuel + 1, least => do
      let column ← here
      let first ← factor fuel
      operationAfter fuel least column first

/-- The operators and operands behind a first operand. Operators of one
precedence group from the left. -/
def operationAfter : Nat -> Nat -> Nat -> Expression -> Reader Expression
  | 0, _, _, _ => refuse
  | fuel + 1, least, column, left => do
      match operatorOf? (← peek).kind with
      | some (precedence, operator) =>
          if precedence < least then return left
          else
            advance
            let right ← operation fuel (precedence + 1)
            operationAfter fuel least column (joined column operator left right)
      | none => return left

/-- A power, which may have signs in front. -/
def factor : Nat -> Reader Expression
  | 0 => refuse
  | fuel + 1 => do
      let column ← here
      if ← accept (.symbol "+") then return .signed column false (← factor fuel)
      else if ← accept (.symbol "-") then return .signed column true (← factor fuel)
      else if ← accept (.symbol "~") then
        return .other column .unaryOperation [← factor fuel]
      else
        let base ← awaited fuel
        if ← accept (.symbol "**") then
          let exponent ← factor fuel
          return .binary column .power base exponent
        else return base

/-- A primary, which may be waited for. -/
def awaited : Nat -> Reader Expression
  | 0 => refuse
  | fuel + 1 => do
      let column ← here
      if ← accept (.keyword "await") then return .other column .await [← primary fuel]
      else primary fuel

/-- An atom with what is selected from it. -/
def primary : Nat -> Reader Expression
  | 0 => refuse
  | fuel + 1 => do
      let column ← here
      let first ← atom fuel
      trailers fuel column first

/-- Attributes, calls and subscripts behind a primary. -/
def trailers : Nat -> Nat -> Expression -> Reader Expression
  | 0, _, _ => refuse
  | fuel + 1, column, value => do
      if ← accept (.symbol ".") then
        match (← peek).kind with
        | .identifier _ =>
            advance
            trailers fuel column (.other column .member [value])
        | _ => refuse
      else if ← isNext (.symbol "(") then
        let opening ← here
        advance
        let (positional, named) ← arguments fuel opening true false false
        trailers fuel column (.call column value positional named)
      else if ← accept (.symbol "[") then
        let start ← here
        let first ← slice fuel
        if (← isNext (.symbol ",")) || isStarred first then
          let others ← slices fuel
          require (.symbol "]")
          trailers fuel column
            (.other column .subscript [value, .other start .tuple (first :: others)])
        else
          require (.symbol "]")
          trailers fuel column (.other column .subscript [value, first])
      else return value

/-- The arguments of a call, up to the closing parenthesis: the positional ones
and whether there are named ones. Known are the column of the opening
parenthesis and whether no argument came before, whether a named one did, and
whether a spread dictionary did. -/
def arguments : Nat -> Nat -> Bool -> Bool -> Bool -> Reader (List Expression × Bool)
  | 0, _, _, _, _ => refuse
  | fuel + 1, opening, isFirst, named, spread => do
      if ← accept (.symbol ")") then return ([], named)
      let column ← here
      match (← peek).kind with
      | .symbol "*" =>
          if spread then refuse
          else
            advance
            let operand ← expression fuel
            let (others, anyNamed) ← argumentsAfter fuel opening named spread
            return (.other column .starred [operand] :: others, anyNamed)
      | .symbol "**" =>
          advance
          let _ ← expression fuel
          argumentsAfter fuel opening true true
      | .identifier _ =>
          if (← peekSecond).kind = .symbol "=" then
            advance
            advance
            let _ ← expression fuel
            argumentsAfter fuel opening true spread
          else positionalArgument fuel opening isFirst named spread
      | _ => positionalArgument fuel opening isFirst named spread

/-- A positional argument and those behind it. A generator needs no parentheses
of its own if it is the only argument. Behind a named argument there is none, and
a name there fails where its value should follow. -/
def positionalArgument : Nat -> Nat -> Bool -> Bool -> Bool -> Reader (List Expression × Bool)
  | 0, _, _, _, _ => refuse
  | fuel + 1, opening, isFirst, named, spread => do
      if named then
        match (← peek).kind with
        | .identifier _ => throw (← peekSecond).number
        | _ => refuse
      else
        let value ← namedExpression fuel
        if isFirst && (← isComprehension) then
          let clauses ← comprehension fuel
          require (.symbol ")")
          return ([.other opening .generator (value :: clauses)], false)
        else
          let (others, anyNamed) ← argumentsAfter fuel opening named spread
          return (value :: others, anyNamed)

/-- What follows an argument: a comma and further ones, or the parenthesis. -/
def argumentsAfter : Nat -> Nat -> Bool -> Bool -> Reader (List Expression × Bool)
  | 0, _, _, _ => refuse
  | fuel + 1, opening, named, spread => do
      if ← accept (.symbol ",") then arguments fuel opening false named spread
      else
        require (.symbol ")")
        return ([], named)

/-- One selector of a subscript. -/
def slice : Nat -> Reader Expression
  | 0 => refuse
  | fuel + 1 => do
      let column ← here
      if ← accept (.symbol "*") then
        return .other column .starred [← expression fuel]
      else if ← accept (.symbol ":") then sliceAfter fuel column []
      else
        let isNamed ← isNaming
        let first ← namedExpression fuel
        let isBound ← if isNamed then pure false else accept (.symbol ":")
        if isBound then sliceAfter fuel column [first] else return first

/-- The bounds of a slice behind its first colon. -/
def sliceAfter : Nat -> Nat -> List Expression -> Reader Expression
  | 0, _, _ => refuse
  | fuel + 1, column, bounds => do
      let bound ← optionalBound fuel
      if ← accept (.symbol ":") then
        let step ← optionalBound fuel
        return .other column .slice (bounds ++ bound ++ step)
      else return .other column .slice (bounds ++ bound)

/-- A bound of a slice, unless it is left out. -/
def optionalBound : Nat -> Reader (List Expression)
  | 0 => refuse
  | fuel + 1 => do
      match (← peek).kind with
      | .symbol ":" | .symbol "," | .symbol "]" => return []
      | _ => return [← expression fuel]

/-- The further selectors of a subscript. -/
def slices : Nat -> Reader (List Expression)
  | 0 => refuse
  | fuel + 1 => do
      if ← accept (.symbol ",") then
        if ← isNext (.symbol "]") then return []
        else
          let next ← slice fuel
          return next :: (← slices fuel)
      else return []

/-- The clauses of a comprehension. -/
def comprehension : Nat -> Reader (List Expression)
  | 0 => refuse
  | fuel + 1 => do
      let _ ← accept (.keyword "async")
      require (.keyword "for")
      let target ← targets fuel
      require (.keyword "in")
      let source ← disjunction fuel
      let conditions ← conditions fuel
      if ← isComprehension then
        return target :: source :: conditions ++ (← comprehension fuel)
      else return target :: source :: conditions

/-- The conditions of a clause of a comprehension. -/
def conditions : Nat -> Reader (List Expression)
  | 0 => refuse
  | fuel + 1 => do
      if ← accept (.keyword "if") then
        let condition ← disjunction fuel
        return condition :: (← conditions fuel)
      else return []

/-- The targets of a clause of a comprehension. -/
def targets : Nat -> Reader Expression
  | 0 => refuse
  | fuel + 1 => do
      let column ← here
      let first ← target fuel
      if ← isNext (.symbol ",") then
        let others ← targetsAfter fuel
        return .other column .tuple (first :: others)
      else return first

/-- The further targets of a clause. -/
def targetsAfter : Nat -> Reader (List Expression)
  | 0 => refuse
  | fuel + 1 => do
      if ← accept (.symbol ",") then
        if ← isNext (.keyword "in") then return []
        else
          let next ← target fuel
          return next :: (← targetsAfter fuel)
      else return []

/-- One target of a clause. -/
def target : Nat -> Reader Expression
  | 0 => refuse
  | fuel + 1 => do
      let column ← here
      let starred ← accept (.symbol "*")
      let value ← primary fuel
      if !isTarget value then refuse
      else if starred then return .other column .starred [value]
      else return value

/-- A number, a name, a constant, a text, or what stands in brackets. -/
def atom : Nat -> Reader Expression
  | 0 => refuse
  | fuel + 1 => do
      let column ← here
      match (← peek).kind with
      | .number value =>
          advance
          return .number column value
      | .imaginary =>
          advance
          return .other column .constant []
      | .identifier name =>
          advance
          return .name column name
      | .keyword "True" | .keyword "False" | .keyword "None" | .symbol "..." =>
          advance
          return .other column .constant []
      | .text bytes =>
          let (formatted, bodies) ← texts bytes false [] fuel
          if formatted then return .other column .formattedText (← fields fuel bodies)
          else return .other column .constant []
      | .formatted _ =>
          let (_, bodies) ← texts false true [] fuel
          return .other column .formattedText (← fields fuel bodies)
      | .symbol "(" =>
          advance
          parenthesis fuel column
      | .symbol "[" =>
          advance
          if ← accept (.symbol "]") then return .other column .list []
          else
            let first ← starredOrNamed fuel
            if !isStarred first && (← isComprehension) then
              let clauses ← comprehension fuel
              require (.symbol "]")
              return .other column .listComprehension (first :: clauses)
            else
              let others ← elements fuel (.symbol "]")
              return .other column .list (first :: others)
      | .symbol "\x7b" =>
          advance
          brace fuel column
      | _ => refuse

/-- What stands behind an opening parenthesis. -/
def parenthesis : Nat -> Nat -> Reader Expression
  | 0, _ => refuse
  | fuel + 1, column => do
      if ← accept (.symbol ")") then return .other column .tuple []
      else if ← isNext (.keyword "yield") then
        let value ← yielded fuel
        require (.symbol ")")
        return value
      else
        let first ← starredOrNamed fuel
        if !isStarred first && (← isComprehension) then
          let clauses ← comprehension fuel
          require (.symbol ")")
          return .other column .generator (first :: clauses)
        else if ← isNext (.symbol ",") then
          let others ← elements fuel (.symbol ")")
          return .other column .tuple (first :: others)
        else if isStarred first then refuse
        else
          require (.symbol ")")
          return first

/-- What stands behind an opening brace. -/
def brace : Nat -> Nat -> Reader Expression
  | 0, _ => refuse
  | fuel + 1, column => do
      if ← accept (.symbol "\x7d") then return .other column .dictionary []
      else if ← accept (.symbol "**") then
        let first ← operation fuel 1
        let others ← entries fuel
        return .other column .dictionary (first :: others)
      else
        let isNamed ← isNaming
        let first ← starredOrNamed fuel
        let isKey ← if isNamed || isStarred first then pure false else accept (.symbol ":")
        if isKey then
          let value ← entryValue fuel
          if ← isComprehension then
            let clauses ← comprehension fuel
            require (.symbol "\x7d")
            return .other column .dictionaryComprehension (first :: value :: clauses)
          else
            let others ← entries fuel
            return .other column .dictionary (first :: value :: others)
        else if !isStarred first && (← isComprehension) then
          let clauses ← comprehension fuel
          require (.symbol "\x7d")
          return .other column .setComprehension (first :: clauses)
        else
          let others ← elements fuel (.symbol "\x7d")
          return .other column .set (first :: others)

/-- The further elements of a list, a tuple or a set, up to its end. -/
def elements : Nat -> TokenKind -> Reader (List Expression)
  | 0, _ => refuse
  | fuel + 1, closing => do
      if ← accept closing then return []
      else
        require (.symbol ",")
        if ← accept closing then return []
        else
          let next ← starredOrNamed fuel
          return next :: (← elements fuel closing)

/-- The further entries of a dictionary, up to its end. -/
def entries : Nat -> Reader (List Expression)
  | 0 => refuse
  | fuel + 1 => do
      if ← accept (.symbol "\x7d") then return []
      else
        require (.symbol ",")
        if ← accept (.symbol "\x7d") then return []
        else if ← accept (.symbol "**") then
          let next ← operation fuel 1
          return next :: (← entries fuel)
        else
          let key ← expression fuel
          require (.symbol ":")
          let value ← entryValue fuel
          return key :: value :: (← entries fuel)

/-- The value of an entry of a dictionary. A star before it is refused once its
operand is read. -/
def entryValue : Nat -> Reader Expression
  | 0 => refuse
  | fuel + 1 => do
      let start ← here
      if ← accept (.symbol "*") then
        let _ ← operation fuel 1
        throw start
      else expression fuel

/-- A yielded value. -/
def yielded : Nat -> Reader Expression
  | 0 => refuse
  | fuel + 1 => do
      let column ← here
      require (.keyword "yield")
      if ← accept (.keyword "from") then
        return .other column .yieldFrom [← expression fuel]
      else if ← isNext (.symbol ")") then return .other column .yield []
      else return .other column .yield [← starredExpressions fuel]

/-- Expressions separated by commas, of which some may be starred. -/
def starredExpressions : Nat -> Reader Expression
  | 0 => refuse
  | fuel + 1 => do
      let column ← here
      let first ← starredExpression fuel
      if ← isNext (.symbol ",") then
        let others ← starredExpressionsAfter fuel
        return .other column .tuple (first :: others)
      else return first

/-- The further expressions of such a list. -/
def starredExpressionsAfter : Nat -> Reader (List Expression)
  | 0 => refuse
  | fuel + 1 => do
      if ← accept (.symbol ",") then
        match (← peek).kind with
        | .symbol ")" | .stop | .lineBreak => return []
        | _ =>
            let next ← starredExpression fuel
            return next :: (← starredExpressionsAfter fuel)
      else return []

/-- An expression or a starred operand. -/
def starredExpression : Nat -> Reader Expression
  | 0 => refuse
  | fuel + 1 => do
      let column ← here
      if ← accept (.symbol "*") then
        return .other column .starred [← operation fuel 1]
      else expression fuel

/-- The expressions in the fields of formatted texts. -/
def fields : Nat -> List (Option (List (List Mark))) -> Reader (List Expression)
  | 0, _ => refuse
  | _, [] => return []
  | _, none :: _ => refuse
  | fuel + 1, some marks :: others => do
      let first ← fieldExpressions fuel marks
      return first ++ (← fields fuel others)

/-- The expressions of a list of fields, each with its own tokens. -/
def fieldExpressions : Nat -> List (List Mark) -> Reader (List Expression)
  | 0, _ => refuse
  | _, [] => return []
  | fuel + 1, marks :: others => do
      let outside ← get
      set marks
      let value ← starredExpressions fuel
      set outside
      return value :: (← fieldExpressions fuel others)

end

/-- Take the line breaks at the end of a text, and the end. -/
def finish : Nat -> Reader Unit
  | 0 => refuse
  | fuel + 1 => do
      if ← accept .lineBreak then finish fuel
      else require .stop

/-- The further expressions of a list at the outermost level. -/
def outermostAfter (bound : Nat) : Nat -> Reader (List Expression)
  | 0 => refuse
  | fuel + 1 => do
      if ← accept (.symbol ",") then
        match (← peek).kind with
        | .stop | .lineBreak => return []
        | _ =>
            let next ← expression bound
            return next :: (← outermostAfter bound fuel)
      else return []

/-- A whole text: an expression, or several separated by commas. -/
def outermost (bound : Nat) : Reader Expression := do
  let column ← here
  let first ← expression bound
  let value ←
    if ← isNext (.symbol ",") then
      let others ← outermostAfter bound bound
      pure (.other column .tuple (first :: others))
    else pure first
  finish bound
  return value

end Grammar

namespace Expression

/-- Kinds of tokens with their numbers, from a number on. -/
def marksFrom (number : Nat) : List TokenKind -> List Mark
  | [] => []
  | kind :: rest => ⟨kind, number⟩ :: marksFrom (number + 1) rest

/-- What the grammar makes of tokens of given kinds. -/
def ofKinds (kinds : List TokenKind) : Except Nat Expression :=
  (Grammar.outermost (32 * (kinds.length + 2))).run' (marksFrom 1 kinds)

/-- The place of the token with a number. -/
def placeOf (tokens : List Token) (number : Nat) : Place :=
  match number with
  | 0 => ⟨0, 0⟩
  | position + 1 => (tokens[position]?.map Token.place).getD ⟨0, 0⟩

/-- The expression that a text is, or the place of the first token that no
expression could go on with, at the latest that of an invalid one. -/
def parse? (text : List Char) : Except Place Expression :=
  let tokens := Token.all text
  match ofKinds (tokens.map Token.kind), tokens.find? fun token => token.kind = .invalid with
  | .error stuck, _ => .error (placeOf tokens stuck)
  | .ok _, some invalid => .error invalid.place
  | .ok expression, none =>
      .ok (expression.relocate fun number => (placeOf tokens number).column)

end Expression
end ShaderGraph
