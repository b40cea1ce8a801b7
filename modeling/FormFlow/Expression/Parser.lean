import FormFlow.Expression.Lexer
import FormFlow.Expression.Tree
import FormFlow.Text.Search

/-!
# Reading conditions

From the loosest operator to the tightest, all to the left:

    disjunction := conjunction ("or" conjunction)*
    conjunction := comparison ("and" comparison)*
    comparison  := operand (("==" | "!=" | "<" | "<=" | ">" | ">=" | "in") operand)?
    operand     := "(" disjunction ")" | "[" (operand ","?)* "]" | text | number | bool | path

What stands in brackets is one level deeper than the brackets, and the operand after the n-th link
of a chain is n levels deeper than the chain. The parsers of one level are a record, built from
the record of the level below; at the last level there is none below, and going deeper is a fault.
-/

namespace FormFlow

/-- A parser takes tokens from the front and leaves the others. -/
abbrev Parser (α : Type) := List Token → Except SyntaxFault (α × List Token)

namespace Parser

/-- The parsers at one level of nesting. -/
structure Level where
  operand : Parser Expr
  /-- The links of an `and` chain that follow a left side. -/
  moreAnd : Expr → Parser Expr
  /-- The links of an `or` chain that follow a left side. -/
  moreOr : Expr → Parser Expr

namespace Level

def comparison (level : Level) : Parser Expr := fun tokens => do
  let (left, rest) ← level.operand tokens
  match rest with
  | ⟨.comparison op, _⟩ :: rest =>
      let (right, rest) ← level.operand rest
      .ok (.compare op left right, rest)
  | rest => .ok (left, rest)

def conjunction (level : Level) : Parser Expr := fun tokens => do
  let (left, rest) ← level.comparison tokens
  level.moreAnd left rest

def disjunction (level : Level) : Parser Expr := fun tokens => do
  let (left, rest) ← level.conjunction tokens
  level.moreOr left rest

end Level

/-- The level below, or a fault at the first of the tokens that are left. -/
def descend (below : Option Level) (tokens : List Token) : Except SyntaxFault Level :=
  match below with
  | some level => .ok level
  | none => .error (.tooDeep (tokens.head?.elim 0 Token.column))

/-- The items of a list up to its closing bracket, with at most one comma after each. Every item
takes at least one token, so a budget of as many items as there are tokens is never short; when it
is spent there are no tokens left. -/
def listItems (operand : Parser Expr) : Nat → Parser (List Expr)
  | 0, _ => .error .unexpectedEnd
  | _ + 1, [] => .error .unexpectedEnd
  | budget + 1, token :: rest =>
      if token.kind = .closeBracket then .ok ([], rest)
      else do
        let (item, rest) ← operand (token :: rest)
        let rest := match rest with
          | ⟨.comma, _⟩ :: rest => rest
          | rest => rest
        let (items, rest) ← listItems operand budget rest
        .ok (item :: items, rest)

/-- One token, which must close a parenthesis. -/
def closing (inner : Expr) : Parser Expr
  | [] => .error .unexpectedEnd
  | token :: rest =>
      if token.kind = .closeParen then .ok (inner, rest)
      else .error (.unexpectedToken token .closeParen)

/-- A lookup by the names between the dots of a word. -/
def pathOf (name : String) : Expr :=
  let (root, fields) := Text.pieces '.' name.toList
  .path (String.ofList root) (fields.map String.ofList)

def operandAbove (below : Option Level) : Parser Expr
  | [] => .error .unexpectedEnd
  | token :: rest =>
      match token.kind with
      | .openParen => do
        let level ← descend below rest
        let (inner, rest) ← level.disjunction rest
        closing inner rest
      | .openBracket => do
        let level ← descend below rest
        let (items, rest) ← listItems level.operand rest.length rest
        .ok (.list items, rest)
      | .text content => .ok (.literal (.text content), rest)
      | .number value => .ok (.literal (.number value), rest)
      | .bool value => .ok (.literal (.bool value), rest)
      | .word name => .ok (pathOf name, rest)
      | _ => .error (.unexpectedToken token .operand)

def moreAndAbove (below : Option Level) (left : Expr) : Parser Expr
  | ⟨.and, column⟩ :: rest => do
    let level ← descend below (⟨.and, column⟩ :: rest)
    let (right, rest) ← level.comparison rest
    level.moreAnd (.and left right) rest
  | tokens => .ok (left, tokens)

def moreOrAbove (below : Option Level) (left : Expr) : Parser Expr
  | ⟨.or, column⟩ :: rest => do
    let level ← descend below (⟨.or, column⟩ :: rest)
    let (right, rest) ← level.conjunction rest
    level.moreOr (.or left right) rest
  | tokens => .ok (left, tokens)

/-- The parsers above a level, or at the last one. -/
def Level.above (below : Option Level) : Level where
  operand := operandAbove below
  moreAnd := moreAndAbove below
  moreOr := moreOrAbove below

/-- The parsers that may go `n` levels deeper. -/
def Level.ofDepth : Nat → Level
  | 0 => Level.above none
  | n + 1 => Level.above (some (Level.ofDepth n))

end Parser

namespace Expr

/-- The tree of a complete row of tokens. -/
def ofTokens? (tokens : List Token) : Except SyntaxFault Expr :=
  if tokens.isEmpty then .error .empty
  else do
    let (tree, rest) ← (Parser.Level.ofDepth maxDepth).disjunction tokens
    match rest with
    | [] => .ok tree
    | token :: _ => .error (.trailingInput token)

/-- The tree of a source text. -/
def parse (source : String) : Except SyntaxFault Expr := do
  ofTokens? (← tokenize source.toList)

end Expr

end FormFlow
