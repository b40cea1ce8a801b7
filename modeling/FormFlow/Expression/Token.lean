import FormFlow.Number.Basic

/-!
# Tokens

The words of conditions and validator scripts. A token knows the column of its first character,
counted in characters from one, and how messages call it.
-/

namespace FormFlow

/-- The comparisons that stand between two operands. -/
inductive Comparison where
  | eq | ne | lt | le | gt | ge | within
deriving DecidableEq

def Comparison.symbol : Comparison → String
  | .eq => "=="
  | .ne => "!="
  | .lt => "<"
  | .le => "<="
  | .gt => ">"
  | .ge => ">="
  | .within => "in"

inductive TokenKind where
  | openParen
  | closeParen
  | openBracket
  | closeBracket
  | comma
  /-- A single equals sign, which only scripts use. -/
  | assign
  | comparison (op : Comparison)
  | and
  | or
  | text (content : String)
  | number (value : Number)
  | bool (value : Bool)
  /-- A name, or several joined by dots. -/
  | word (name : String)
deriving DecidableEq

structure Token where
  kind : TokenKind
  column : Nat
deriving DecidableEq

/-- How messages call a token. -/
def TokenKind.describe : TokenKind → String
  | .openParen => "("
  | .closeParen => ")"
  | .openBracket => "["
  | .closeBracket => "]"
  | .comma => ","
  | .assign => "="
  | .comparison op => op.symbol
  | .and => "and"
  | .or => "or"
  | .text content => s!"'{content}'"
  | .number value => value.text
  | .bool value => if value then "true" else "false"
  | .word name => name

def Token.describe (token : Token) : String :=
  token.kind.describe

/-- The name that a word token carries. -/
def Token.word? (token : Token) : Option String :=
  match token.kind with
  | .word name => some name
  | _ => none

end FormFlow
