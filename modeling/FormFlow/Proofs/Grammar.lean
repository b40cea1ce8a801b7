import FormFlow.Expression.Parser

/-!
# The grammar of conditions

A derivation says how a row of tokens makes a tree, at a level of nesting and within a limit on
levels. It knows nothing of the order in which a reader looks at the tokens. What stands in brackets
is derived one level deeper than the brackets, and each side of a chain one level deeper than the
side before it; only the first side is derived at the level of the chain.
-/

namespace FormFlow

/-- What joins the sides of a chain. -/
inductive Connective where
  | and
  | or
deriving DecidableEq

namespace Connective

def kind : Connective → TokenKind
  | .and => .and
  | .or => .or

def join : Connective → Expr → Expr → Expr
  | .and => .and
  | .or => .or

end Connective

/-- The kind of the token that a literal is written as. -/
def Literal.kind : Literal → TokenKind
  | .text content => .text content
  | .number value => .number value
  | .bool value => .bool value

/-- The phrases of which conditions are made. -/
inductive Phrase where
  /-- Sides joined by a connective. -/
  | chain (link : Connective)
  /-- The links of a chain after what has been joined so far. -/
  | links (link : Connective) (left : Expr)
  | comparison
  | operand
  /-- The items of a list and the bracket that closes it. -/
  | items

/-- What a chain joins: `or` joins chains of `and`, and `and` joins comparisons. -/
def Connective.side : Connective → Phrase
  | .or => .chain .and
  | .and => .comparison

/-- A whole condition. -/
abbrev Phrase.condition : Phrase := .chain .or

/-- A comma, if there is one. -/
def separator (column : Option Nat) : List Token :=
  (column.map (Token.mk .comma)).toList

/-- How tokens make the tree of a phrase at a level. A chain is folded to the left. -/
inductive Derivation (limit : Nat) : Phrase → Nat → List Token → Expr → Type
  | chain {link : Connective} {level : Nat} {ours more : List Token} {first tree : Expr}
      (side : Derivation limit link.side level ours first)
      (links : Derivation limit (.links link first) level more tree) :
      Derivation limit (.chain link) level (ours ++ more) tree
  | done {link : Connective} {level : Nat} {left : Expr} :
      Derivation limit (.links link left) level [] left
  | link {link : Connective} {level : Nat} {ours more : List Token} {left right tree : Expr}
      (column : Nat) (hwithin : level + 1 ≤ limit)
      (side : Derivation limit link.side (level + 1) ours right)
      (links : Derivation limit (.links link (link.join left right)) (level + 1) more tree) :
      Derivation limit (.links link left) level (⟨link.kind, column⟩ :: (ours ++ more)) tree
  | bare {level : Nat} {ours : List Token} {tree : Expr}
      (operand : Derivation limit .operand level ours tree) :
      Derivation limit .comparison level ours tree
  | compare {level : Nat} {ours others : List Token} {left right : Expr}
      (first : Derivation limit .operand level ours left) (op : Comparison) (column : Nat)
      (second : Derivation limit .operand level others right) :
      Derivation limit .comparison level (ours ++ ⟨.comparison op, column⟩ :: others)
        (.compare op left right)
  | literal {level : Nat} (value : Literal) (column : Nat) :
      Derivation limit .operand level [⟨value.kind, column⟩] (.literal value)
  /-- A path is written as its names with dots between them. -/
  | path {level : Nat} {name root : String} {fields : List String} (column : Nat)
      (hnames : name.toList.splitOn '.' = (root :: fields).map String.toList) :
      Derivation limit .operand level [⟨.word name, column⟩] (.path root fields)
  | parens {level : Nat} {ours : List Token} {tree : Expr} (opening closing : Nat)
      (hwithin : level + 1 ≤ limit) (inner : Derivation limit .condition (level + 1) ours tree) :
      Derivation limit .operand level
        (⟨.openParen, opening⟩ :: (ours ++ [⟨.closeParen, closing⟩])) tree
  | list {level : Nat} {ours : List Token} {tree : Expr} (opening : Nat)
      (hwithin : level + 1 ≤ limit) (items : Derivation limit .items (level + 1) ours tree) :
      Derivation limit .operand level (⟨.openBracket, opening⟩ :: ours) tree
  | close {level : Nat} (closing : Nat) :
      Derivation limit .items level [⟨.closeBracket, closing⟩] (.list [])
  | item {level : Nat} {ours more : List Token} {first : Expr} {rest : List Expr}
      (operand : Derivation limit .operand level ours first) (comma : Option Nat)
      (items : Derivation limit .items level more (.list rest)) :
      Derivation limit .items level (ours ++ (separator comma ++ more)) (.list (first :: rest))

/-- Can the tokens be derived as a phrase with this tree? -/
def Derives (limit : Nat) (phrase : Phrase) (level : Nat) (tokens : List Token) (tree : Expr) :
    Prop :=
  Nonempty (Derivation limit phrase level tokens tree)

end FormFlow
