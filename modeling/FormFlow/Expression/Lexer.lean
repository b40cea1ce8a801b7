import FormFlow.Expression.Fault
import FormFlow.Text.Blank
import FormFlow.Text.Digits
import FormFlow.Unicode.Alphabetic
import FormFlow.Unicode.Numeric

/-!
# Reading tokens

Tokens are read one after the other, each as long as it can be, with white space between them
skipped. A *lexeme* is what one token takes up: its kind and how many characters follow its first
one, so the rest of the source is what remains after dropping them.
-/

namespace FormFlow

open Unicode (isWhiteSpace isAlphabetic isNumeric)

/-- What stands at the beginning of a source. -/
structure Lexeme where
  kind : TokenKind
  /-- How many characters follow the first. -/
  extra : Nat

/-- Why no token stands at the beginning of a source. -/
inductive LexemeFault where
  | unexpectedCharacter
  | unterminatedText
  | invalidNumber (digits : String)

/-- The syntax fault for a lexeme that should have begun with `first` at `column`. -/
def LexemeFault.at (column : Nat) (first : Char) : LexemeFault → SyntaxFault
  | .unexpectedCharacter => .unexpectedCharacter column first
  | .unterminatedText => .unterminatedText column
  | .invalidNumber digits => .invalidNumber digits

namespace Lexeme

/-- The content of a text literal after its opening quote, and how many characters it takes up with
the closing quote. A backslash takes its meaning away from a quote or a backslash; before any other
character it stands for itself. -/
def textContent? (quote : Char) : List Char → Option (List Char × Nat)
  | [] => none
  | ['\\'] => none
  | '\\' :: c :: rest => do
    let (content, used) ← textContent? quote rest
    if c = '\'' ∨ c = '"' ∨ c = '\\' then some (c :: content, used + 2)
    else some ('\\' :: c :: content, used + 2)
  | c :: rest =>
      if c = quote then some ([], 1)
      else do
        let (content, used) ← textContent? quote rest
        some (c :: content, used + 1)

/-- Characters of a number literal. -/
def isNumberChar (c : Char) : Bool :=
  Text.isDigit c || c == '.'

/-- The number written by digits with at most one point among them. Without a point it is an integer
if it fits 64 bits with sign; otherwise it is the nearest double. -/
def number? (digits : List Char) : Option Number :=
  let (whole, fraction) := Text.pieces '.' digits
  match fraction with
  | [] =>
      let value := Text.digitsValue whole
      if Number.isExact value then some (.int value)
      else (Binary64.ofRatio? false value 1).map .float
  | [places] =>
      let digits := Text.digitsValue (whole ++ places)
      (Binary64.ofRatio? false digits (Nat.pow 10 places.length)).map .float
  | _ => none

/-- Characters that a word may begin with. -/
def isWordStart (c : Char) : Bool :=
  isAlphabetic c || c == '_'

/-- Characters that a word may go on with. -/
def isWordChar (c : Char) : Bool :=
  isAlphabetic c || isNumeric c || c == '_' || c == '.'

/-- Keywords are recognised in any mixture of ASCII cases; every other word is a name. -/
def wordKind (word : List Char) : TokenKind :=
  match String.ofList (word.map Char.toLower) with
  | "and" => .and
  | "or" => .or
  | "in" => .comparison .within
  | "true" | "yes" => .bool true
  | "false" | "no" => .bool false
  | _ => .word (String.ofList word)

/-- The kind of an operator or bracket of one or two characters. -/
def operator? : Char → List Char → Option Lexeme
  | '=', '=' :: _ => some ⟨.comparison .eq, 1⟩
  | '!', '=' :: _ => some ⟨.comparison .ne, 1⟩
  | '<', '=' :: _ => some ⟨.comparison .le, 1⟩
  | '>', '=' :: _ => some ⟨.comparison .ge, 1⟩
  | '<', _ => some ⟨.comparison .lt, 0⟩
  | '>', _ => some ⟨.comparison .gt, 0⟩
  | '=', _ => some ⟨.assign, 0⟩
  | '(', _ => some ⟨.openParen, 0⟩
  | ')', _ => some ⟨.closeParen, 0⟩
  | '[', _ => some ⟨.openBracket, 0⟩
  | ']', _ => some ⟨.closeBracket, 0⟩
  | ',', _ => some ⟨.comma, 0⟩
  | _, _ => none

/-- Does a number literal begin here? It may begin with a point if a digit follows. -/
def startsNumber (first : Char) (rest : List Char) : Bool :=
  Text.isDigit first || (first == '.' && rest.head?.any Text.isDigit)

/-- The token that begins with `first`, which is no white space. -/
def read (first : Char) (rest : List Char) : Except LexemeFault Lexeme :=
  match operator? first rest with
  | some lexeme => .ok lexeme
  | none =>
      if first = '\'' ∨ first = '"' then
        match textContent? first rest with
        | some (content, used) => .ok ⟨.text (String.ofList content), used⟩
        | none => .error .unterminatedText
      else if startsNumber first rest then
        let more := rest.takeWhile isNumberChar
        match number? (first :: more) with
        | some value => .ok ⟨.number value, more.length⟩
        | none => .error (.invalidNumber (String.ofList (first :: more)))
      else if isWordStart first then
        let more := rest.takeWhile isWordChar
        .ok ⟨wordKind (first :: more), more.length⟩
      else .error .unexpectedCharacter

end Lexeme

/-- The tokens of a source whose first character stands at `column`. -/
def tokensFrom (column : Nat) : List Char → Except SyntaxFault (List Token)
  | [] => .ok []
  | c :: rest =>
      if isWhiteSpace c then tokensFrom (column + 1) rest
      else
        match Lexeme.read c rest with
        | .error fault => .error (fault.at column c)
        | .ok lexeme =>
            match tokensFrom (column + 1 + lexeme.extra) (rest.drop lexeme.extra) with
            | .error fault => .error fault
            | .ok tokens => .ok (⟨lexeme.kind, column⟩ :: tokens)
termination_by source => source.length
decreasing_by all_goals simp only [List.length_cons, List.length_drop]; omega

/-- The tokens of a source. -/
def tokenize (source : List Char) : Except SyntaxFault (List Token) :=
  tokensFrom 1 source

end FormFlow
