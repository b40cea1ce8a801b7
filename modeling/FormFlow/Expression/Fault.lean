import FormFlow.Expression.Token
import FormFlow.Value.Compare

/-!
# What can be wrong with a condition

A source may fail to be read (`SyntaxFault`), and a tree that was read may fail to be evaluated
(`EvalFault`). Each fault is a cause; the wording is in one function for each type.
-/

namespace FormFlow

/-- How many levels deep a condition may be nested. -/
def maxDepth : Nat := 128

/-- What a parser was looking for when it met another token. -/
inductive Expected where
  | closeParen
  | operand
deriving DecidableEq

def Expected.describe : Expected → String
  | .closeParen => "')'"
  | .operand => "value"

/-- Why a source is no condition. -/
inductive SyntaxFault where
  /-- There is no token at all. -/
  | empty
  | unexpectedCharacter (column : Nat) (character : Char)
  | unterminatedText (column : Nat)
  | invalidNumber (digits : String)
  | unexpectedToken (found : Token) (expected : Expected)
  | unexpectedEnd
  /-- A complete condition is followed by another token. -/
  | trailingInput (found : Token)
  | tooDeep (column : Nat)
deriving DecidableEq

def SyntaxFault.message : SyntaxFault → String
  | .empty => "empty expression"
  | .unexpectedCharacter column character =>
      s!"column {column}: unexpected character '{character}'"
  | .unterminatedText column => s!"column {column}: unterminated string literal"
  | .invalidNumber digits => s!"invalid number literal '{digits}'"
  | .unexpectedToken found expected =>
      s!"column {found.column}: expected {expected.describe}, found '{found.describe}'"
  | .unexpectedEnd => "unexpected end of expression"
  | .trailingInput found =>
      s!"column {found.column}: unexpected '{found.describe}' after complete expression"
  | .tooDeep column => s!"column {column}: nested deeper than {maxDepth} levels"

/-- The column a syntax fault points at, if it carries one. -/
def SyntaxFault.column? : SyntaxFault → Option Nat
  | .unexpectedCharacter column _ => some column
  | .unterminatedText column => some column
  | .unexpectedToken found _ => some found.column
  | .trailingInput found => some found.column
  | .tooDeep column => some column
  | .empty | .invalidNumber _ | .unexpectedEnd => none

/-- Why an evaluation stopped. -/
inductive EvalFault where
  | type (fault : TypeFault)
  | fuelExhausted
  | deadlineExceeded
deriving DecidableEq

def EvalFault.message : EvalFault → String
  | .type fault => s!"type error: {fault.message}"
  | .fuelExhausted => "step budget exhausted"
  | .deadlineExceeded => "deadline exceeded"

end FormFlow
