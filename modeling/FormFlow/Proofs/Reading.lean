import FormFlow.Proofs.Grammar

/-!
# Reading with a counter

A reader of conditions counts how deep it is. It counts one level more at a bracket and at each link
of a chain, one level less at the bracket that closes, and at the end of a chain it goes back to
where the chain began. The parsers have no counter: each stands at a level of its own. What they
read is what a reader with a counter reads, and the counter always ends where it began.
-/

namespace FormFlow

/-- What a reader has before it: the tokens that are left, and how deep it is. -/
structure Cursor where
  tokens : List Token
  depth : Nat

def TokenKind.isComparison : TokenKind → Bool
  | .comparison _ => true
  | _ => false

/-- What is left after a comma, if one comes first. -/
def pastComma : List Token → List Token
  | ⟨.comma, _⟩ :: rest => rest
  | tokens => tokens

/-- What a reader with a counter makes of the tokens before it, and what is before it afterwards.
The counter may not pass the limit. -/
inductive Reading (limit : Nat) : Phrase → Cursor → Expr → Cursor → Prop
  | chain {link : Connective} {start next last : Cursor} {first tree : Expr}
      (side : Reading limit link.side start first next)
      (links : Reading limit (.links link first) next tree last) :
      Reading limit (.chain link) start tree ⟨last.tokens, start.depth⟩
  | done {link : Connective} {left : Expr} {start : Cursor}
      (hstop : ∀ token ∈ start.tokens.head?, token.kind ≠ link.kind) :
      Reading limit (.links link left) start left start
  | link {link : Connective} {left right tree : Expr} {column depth : Nat} {rest : List Token}
      {next last : Cursor} (hwithin : depth + 1 ≤ limit)
      (side : Reading limit link.side ⟨rest, depth + 1⟩ right next)
      (links : Reading limit (.links link (link.join left right)) next tree last) :
      Reading limit (.links link left) ⟨⟨link.kind, column⟩ :: rest, depth⟩ tree last
  | bare {start last : Cursor} {tree : Expr} (operand : Reading limit .operand start tree last)
      (hstop : ∀ token ∈ last.tokens.head?, token.kind.isComparison = false) :
      Reading limit .comparison start tree last
  | compare {start last : Cursor} {left right : Expr} {op : Comparison} {column depth : Nat}
      {rest : List Token}
      (first : Reading limit .operand start left ⟨⟨.comparison op, column⟩ :: rest, depth⟩)
      (second : Reading limit .operand ⟨rest, depth⟩ right last) :
      Reading limit .comparison start (.compare op left right) last
  | literal {depth : Nat} {rest : List Token} (value : Literal) (column : Nat) :
      Reading limit .operand ⟨⟨value.kind, column⟩ :: rest, depth⟩ (.literal value) ⟨rest, depth⟩
  | path {depth : Nat} {rest : List Token} (name : String) (column : Nat) :
      Reading limit .operand ⟨⟨.word name, column⟩ :: rest, depth⟩ (Parser.pathOf name)
        ⟨rest, depth⟩
  | parens {opening closing depth inside : Nat} {rest left : List Token} {tree : Expr}
      (hwithin : depth + 1 ≤ limit)
      (inner : Reading limit .condition ⟨rest, depth + 1⟩ tree
        ⟨⟨.closeParen, closing⟩ :: left, inside⟩) :
      Reading limit .operand ⟨⟨.openParen, opening⟩ :: rest, depth⟩ tree ⟨left, inside - 1⟩
  | list {opening depth : Nat} {rest : List Token} {tree : Expr} {last : Cursor}
      (hwithin : depth + 1 ≤ limit) (items : Reading limit .items ⟨rest, depth + 1⟩ tree last) :
      Reading limit .operand ⟨⟨.openBracket, opening⟩ :: rest, depth⟩ tree
        ⟨last.tokens, last.depth - 1⟩
  | close {closing depth : Nat} {rest : List Token} :
      Reading limit .items ⟨⟨.closeBracket, closing⟩ :: rest, depth⟩ (.list []) ⟨rest, depth⟩
  | item {start next last : Cursor} {first : Expr} {rest : List Expr}
      (operand : Reading limit .operand start first next)
      (items : Reading limit .items ⟨pastComma next.tokens, next.depth⟩ (.list rest) last) :
      Reading limit .items start (.list (first :: rest)) last

/-- Is a phrase read from its beginning, and not from somewhere inside a chain? -/
def Phrase.Whole : Phrase → Prop
  | .links _ _ => False
  | .chain _ | .comparison | .operand | .items => True

theorem Connective.side_whole (link : Connective) : link.side.Whole := by
  cases link <;> exact trivial

namespace Reading

variable {limit : Nat} {phrase : Phrase} {start last : Cursor} {tree : Expr}

/-- After a phrase the counter is back where it was before. -/
theorem depth_eq (reading : Reading limit phrase start tree last) (whole : phrase.Whole) :
    last.depth = start.depth := by
  induction reading with
  | chain => rfl
  | done => exact whole.elim
  | link => exact whole.elim
  | bare _ _ ih => exact ih trivial
  | compare _ _ firstIh secondIh => exact (secondIh trivial).trans (firstIh trivial)
  | literal => rfl
  | path => rfl
  | parens _ _ ih =>
      have hinside := ih trivial
      simp only at hinside ⊢
      omega
  | list _ _ ih =>
      have hinside := ih trivial
      simp only at hinside ⊢
      omega
  | close => rfl
  | item _ _ operandIh itemsIh => exact (itemsIh trivial).trans (operandIh trivial)

end Reading

/-! ## What the parsers read -/

theorem Except.bind_eq_ok_iff {ε α β : Type} {first : Except ε α} {next : α → Except ε β}
    {result : β} :
    (first >>= next) = .ok result ↔ ∃ found, first = .ok found ∧ next found = .ok result := by
  cases first <;> simp [bind, Except.bind]

namespace Parser

namespace Level

/-- The parser for what a connective joins. -/
def side (level : Level) : Connective → Parser Expr
  | .or => level.conjunction
  | .and => level.comparison

/-- The parser for the links of a chain. -/
def more (level : Level) : Connective → Expr → Parser Expr
  | .or => level.moreOr
  | .and => level.moreAnd

/-- The parser for a phrase. -/
def read (level : Level) : Phrase → Parser Expr
  | .chain .or => level.disjunction
  | .chain .and => level.conjunction
  | .links link left => level.more link left
  | .comparison => level.comparison
  | .operand => level.operand
  | .items => fun tokens => do
    let (items, rest) ← listItems level.operand tokens.length tokens
    .ok (.list items, rest)

theorem read_side (level : Level) (link : Connective) : level.read link.side = level.side link := by
  cases link <;> rfl

theorem read_chain (level : Level) (link : Connective) (tokens : List Token) :
    level.read (.chain link) tokens =
      level.side link tokens >>= fun found => level.more link found.1 found.2 := by
  cases link <;> rfl

theorem more_nil (below : Option Level) (link : Connective) (left : Expr) :
    (Level.above below).more link left [] = .ok (left, []) := by
  cases link <;> rfl

/-- The links of a chain go on when the connective comes next, and stop otherwise. -/
theorem more_cons (below : Option Level) (link : Connective) (left : Expr) (token : Token)
    (rest : List Token) :
    (Level.above below).more link left (token :: rest) =
      if token.kind = link.kind then
        descend below (token :: rest) >>= fun level =>
          level.side link rest >>= fun found =>
            level.more link (link.join left found.1) found.2
      else .ok (left, token :: rest) := by
  obtain ⟨kind, column⟩ := token
  by_cases h : kind = link.kind
  · subst h
    rw [if_pos rfl]
    cases link <;> rfl
  · rw [if_neg h]
    cases link <;> cases kind <;> first | rfl | exact absurd rfl h

end Level

theorem descend_eq_ok_iff {below : Option Level} {tokens : List Token} {level : Level} :
    descend below tokens = .ok level ↔ below = some level := by
  cases below <;> simp [descend]

theorem closing_eq_ok_iff {inner tree : Expr} {tokens rest : List Token} :
    closing inner tokens = .ok (tree, rest) ↔
      tree = inner ∧ ∃ column, tokens = ⟨.closeParen, column⟩ :: rest := by
  constructor
  · intro h
    cases tokens with
    | nil => cases h
    | cons token others =>
        obtain ⟨kind, column⟩ := token
        rw [closing] at h
        split at h
        next hkind =>
          cases h
          exact ⟨rfl, column, by rw [← hkind]⟩
        next => cases h
  · rintro ⟨rfl, column, rfl⟩
    rfl

/-- A list ends with its closing bracket, or goes on with an item and at most one comma. -/
theorem listItems_cons (operand : Parser Expr) (budget : Nat) (token : Token)
    (rest : List Token) :
    listItems operand (budget + 1) (token :: rest) =
      if token.kind = .closeBracket then .ok ([], rest)
      else
        operand (token :: rest) >>= fun found =>
          listItems operand budget (pastComma found.2) >>= fun items =>
            .ok (found.1 :: items.1, items.2) := rfl

section Soundness

variable {limit depth : Nat} {below : Option Level} {level : Level} {tree : Expr}
  {tokens rest : List Token}

/-- What the parsers of a level read, a reader reads whose counter stands at `depth`. -/
def Level.Sound (limit : Nat) (level : Level) (depth : Nat) : Prop :=
  ∀ phrase tokens tree rest, level.read phrase tokens = .ok (tree, rest) →
    ∃ last, Reading limit phrase ⟨tokens, depth⟩ tree ⟨rest, last⟩

/-- The counter is back after a phrase that does not begin inside a chain. -/
theorem Level.Sound.whole (sound : level.Sound limit depth) {phrase : Phrase}
    (whole : phrase.Whole) (h : level.read phrase tokens = .ok (tree, rest)) :
    Reading limit phrase ⟨tokens, depth⟩ tree ⟨rest, depth⟩ := by
  obtain ⟨last, reading⟩ := sound phrase tokens tree rest h
  obtain rfl : last = depth := reading.depth_eq whole
  exact reading

theorem listItems_sound {operand : Parser Expr} {budget : Nat} {items : List Expr}
    (hsound : ∀ tokens tree rest, operand tokens = .ok (tree, rest) →
      Reading limit .operand ⟨tokens, depth⟩ tree ⟨rest, depth⟩)
    (h : listItems operand budget tokens = .ok (items, rest)) :
    Reading limit .items ⟨tokens, depth⟩ (.list items) ⟨rest, depth⟩ := by
  induction budget generalizing tokens items with
  | zero => cases h
  | succ budget ih =>
      cases tokens with
      | nil => cases h
      | cons token others =>
          rw [listItems_cons] at h
          split at h
          next hkind =>
            cases h
            obtain ⟨kind, column⟩ := token
            obtain rfl : kind = .closeBracket := hkind
            exact .close
          next =>
            obtain ⟨⟨first, left⟩, hfirst, h⟩ := Except.bind_eq_ok_iff.mp h
            obtain ⟨⟨more, _⟩, hmore, h⟩ := Except.bind_eq_ok_iff.mp h
            cases h
            exact .item (hsound _ _ _ hfirst) (ih hmore)

section Above

variable (hbelow : ∀ level ∈ below, depth + 1 ≤ limit ∧ level.Sound limit (depth + 1))

include hbelow

theorem operandAbove_sound (h : operandAbove below tokens = .ok (tree, rest)) :
    Reading limit .operand ⟨tokens, depth⟩ tree ⟨rest, depth⟩ := by
  cases tokens with
  | nil => cases h
  | cons token others =>
      obtain ⟨kind, column⟩ := token
      cases kind with
      | openParen =>
          obtain ⟨level, hlevel, h⟩ := Except.bind_eq_ok_iff.mp h
          obtain ⟨⟨inner, left⟩, hinner, h⟩ := Except.bind_eq_ok_iff.mp h
          obtain ⟨rfl, closing, rfl⟩ := closing_eq_ok_iff.mp h
          obtain ⟨hwithin, sound⟩ := hbelow level (descend_eq_ok_iff.mp hlevel)
          exact .parens hwithin (sound.whole trivial hinner)
      | openBracket =>
          obtain ⟨level, hlevel, h⟩ := Except.bind_eq_ok_iff.mp h
          obtain ⟨⟨items, left⟩, hitems, h⟩ := Except.bind_eq_ok_iff.mp h
          cases h
          obtain ⟨hwithin, sound⟩ := hbelow level (descend_eq_ok_iff.mp hlevel)
          have hoperand : ∀ tokens tree rest, level.operand tokens = .ok (tree, rest) →
              Reading limit .operand ⟨tokens, depth + 1⟩ tree ⟨rest, depth + 1⟩ :=
            fun _ _ _ hread => sound.whole trivial hread
          have hinner := listItems_sound hoperand hitems
          exact .list hwithin hinner
      | text content => cases h; exact .literal (.text content) column
      | number value => cases h; exact .literal (.number value) column
      | bool value => cases h; exact .literal (.bool value) column
      | word name => cases h; exact .path name column
      | closeParen | closeBracket | comma | assign | comparison | and | or => cases h

theorem more_sound {link : Connective} {left : Expr}
    (h : (Level.above below).more link left tokens = .ok (tree, rest)) :
    ∃ last, Reading limit (.links link left) ⟨tokens, depth⟩ tree ⟨rest, last⟩ := by
  cases tokens with
  | nil =>
      rw [Level.more_nil] at h
      cases h
      exact ⟨depth, .done (by simp)⟩
  | cons token others =>
      rw [Level.more_cons] at h
      split at h
      next hkind =>
        obtain ⟨level, hlevel, h⟩ := Except.bind_eq_ok_iff.mp h
        obtain ⟨⟨right, left⟩, hright, h⟩ := Except.bind_eq_ok_iff.mp h
        obtain ⟨hwithin, sound⟩ := hbelow level (descend_eq_ok_iff.mp hlevel)
        rw [← Level.read_side] at hright
        obtain ⟨last, hlinks⟩ := sound (.links link _) _ _ _ h
        obtain ⟨kind, column⟩ := token
        obtain rfl : kind = link.kind := hkind
        exact ⟨last, .link hwithin (sound.whole link.side_whole hright) hlinks⟩
      next hkind =>
        cases h
        exact ⟨depth, .done (by simpa using hkind)⟩

theorem comparison_sound (h : (Level.above below).comparison tokens = .ok (tree, rest)) :
    Reading limit .comparison ⟨tokens, depth⟩ tree ⟨rest, depth⟩ := by
  obtain ⟨⟨left, others⟩, hleft, h⟩ := Except.bind_eq_ok_iff.mp h
  have hfirst := operandAbove_sound hbelow hleft
  dsimp only at h
  split at h
  next op column others =>
    obtain ⟨⟨right, _⟩, hright, h⟩ := Except.bind_eq_ok_iff.mp h
    cases h
    exact .compare hfirst (operandAbove_sound hbelow hright)
  next hstop =>
    cases h
    refine .bare hfirst ?_
    rintro ⟨kind, column⟩ hhead
    cases kind with
    | comparison op =>
        obtain ⟨others, rfl⟩ := List.head?_eq_some_iff.mp hhead
        exact absurd rfl (hstop op column others)
    | _ => rfl

theorem Level.above_sound : (Level.above below).Sound limit depth := by
  -- both chains are read alike, and the one of `or` reads those of `and` as its sides
  have hchain : ∀ link, (∀ tokens tree rest,
        (Level.above below).read link.side tokens = .ok (tree, rest) →
          Reading limit link.side ⟨tokens, depth⟩ tree ⟨rest, depth⟩) →
      ∀ tokens tree rest, (Level.above below).read (.chain link) tokens = .ok (tree, rest) →
        Reading limit (.chain link) ⟨tokens, depth⟩ tree ⟨rest, depth⟩ := by
    intro link hside tokens tree rest h
    rw [Level.read_chain] at h
    obtain ⟨⟨first, left⟩, hfirst, h⟩ := Except.bind_eq_ok_iff.mp h
    rw [← Level.read_side] at hfirst
    obtain ⟨last, hlinks⟩ := more_sound hbelow h
    exact .chain (hside _ _ _ hfirst) hlinks
  have hconjunction := hchain .and fun _ _ _ => comparison_sound hbelow
  intro phrase tokens tree rest h
  cases phrase with
  | chain link =>
      cases link with
      | and => exact ⟨depth, hconjunction _ _ _ h⟩
      | or => exact ⟨depth, hchain .or hconjunction _ _ _ h⟩
  | links link left => exact more_sound hbelow h
  | comparison => exact ⟨depth, comparison_sound hbelow h⟩
  | operand => exact ⟨depth, operandAbove_sound hbelow h⟩
  | items =>
      obtain ⟨⟨items, left⟩, hitems, h⟩ := Except.bind_eq_ok_iff.mp h
      cases h
      exact ⟨depth, listItems_sound (fun _ _ _ => operandAbove_sound hbelow) hitems⟩

end Above

/-- The parsers that may go `n` levels deeper read what a reader reads whose counter is `n` short of
the limit. -/
theorem Level.ofDepth_sound (n : Nat) (h : depth + n = limit) :
    (Level.ofDepth n).Sound limit depth := by
  induction n generalizing depth with
  | zero => exact Level.above_sound (by simp)
  | succ n ih =>
      refine Level.above_sound ?_
      rintro level ⟨⟩
      exact ⟨by omega, ih (by omega)⟩

end Soundness

end Parser

/-! ## What a reader reads can be derived -/

/-- A path has the names between the dots of its word. -/
theorem Parser.pathOf_eq_iff {name root : String} {fields : List String} :
    pathOf name = .path root fields ↔
      name.toList.splitOn '.' = (root :: fields).map String.toList := by
  rw [← Text.pieces_eq_splitOn]
  constructor
  · intro h
    cases h
    simp [Function.comp_def]
  · intro h
    obtain ⟨hroot, hfields⟩ := List.cons.inj h
    simp only [pathOf, hroot, hfields]
    simp [Function.comp_def]

/-- At most one comma is passed. -/
theorem exists_eq_pastComma (tokens : List Token) :
    ∃ comma, tokens = separator comma ++ pastComma tokens := by
  unfold pastComma
  split
  next column rest => exact ⟨some column, rfl⟩
  next => exact ⟨none, rfl⟩

/-- A reader takes tokens from the front, and they derive the tree at the level where it began. -/
theorem Reading.derives {limit : Nat} {phrase : Phrase} {start last : Cursor} {tree : Expr}
    (reading : Reading limit phrase start tree last) :
    ∃ ours, start.tokens = ours ++ last.tokens ∧
      Derives limit phrase start.depth ours tree := by
  induction reading with
  | @chain link _ _ _ _ _ hside hlinks sideIh linksIh =>
      obtain ⟨ours, hours, ⟨first⟩⟩ := sideIh
      obtain ⟨more, hmore, ⟨rest⟩⟩ := linksIh
      rw [hside.depth_eq link.side_whole] at rest
      exact ⟨ours ++ more, by rw [hours, hmore, List.append_assoc], ⟨.chain first rest⟩⟩
  | done => exact ⟨[], rfl, ⟨.done⟩⟩
  | @link link _ _ _ column _ _ _ _ hwithin hside _ sideIh linksIh =>
      obtain ⟨ours, hours, ⟨right⟩⟩ := sideIh
      obtain ⟨more, hmore, ⟨rest⟩⟩ := linksIh
      rw [hside.depth_eq link.side_whole] at rest
      refine ⟨⟨link.kind, column⟩ :: (ours ++ more), ?_, ⟨.link column hwithin right rest⟩⟩
      simp only at hours
      rw [hours, hmore, List.cons_append, List.append_assoc]
  | bare _ _ ih =>
      obtain ⟨ours, hours, ⟨operand⟩⟩ := ih
      exact ⟨ours, hours, ⟨.bare operand⟩⟩
  | @compare _ _ _ _ op column _ _ hfirst _ firstIh secondIh =>
      obtain ⟨ours, hours, ⟨left⟩⟩ := firstIh
      obtain ⟨others, hothers, ⟨right⟩⟩ := secondIh
      have hdepth := hfirst.depth_eq trivial
      simp only at hdepth hours hothers right
      rw [hdepth] at right
      refine ⟨ours ++ ⟨.comparison op, column⟩ :: others, ?_, ⟨.compare left op column right⟩⟩
      rw [hours, hothers, List.append_assoc, List.cons_append]
  | literal value column => exact ⟨[⟨value.kind, column⟩], rfl, ⟨.literal value column⟩⟩
  | path name column =>
      exact ⟨[⟨.word name, column⟩], rfl, ⟨.path column (Parser.pathOf_eq_iff.mp rfl)⟩⟩
  | @parens opening closing _ _ _ left _ hwithin _ ih =>
      obtain ⟨ours, hours, ⟨inner⟩⟩ := ih
      refine ⟨⟨.openParen, opening⟩ :: (ours ++ [⟨.closeParen, closing⟩]), ?_,
        ⟨.parens opening closing hwithin inner⟩⟩
      simp only at hours
      rw [hours]
      simp
  | @list opening _ _ _ _ hwithin _ ih =>
      obtain ⟨ours, hours, ⟨items⟩⟩ := ih
      refine ⟨⟨.openBracket, opening⟩ :: ours, ?_, ⟨.list opening hwithin items⟩⟩
      simp only at hours
      rw [hours, List.cons_append]
  | @close closing => exact ⟨[⟨.closeBracket, closing⟩], rfl, ⟨.close closing⟩⟩
  | @item _ next _ _ _ hoperand _ operandIh itemsIh =>
      obtain ⟨ours, hours, ⟨first⟩⟩ := operandIh
      obtain ⟨more, hmore, ⟨rest⟩⟩ := itemsIh
      obtain ⟨comma, hcomma⟩ := exists_eq_pastComma next.tokens
      simp only at hmore rest
      rw [hoperand.depth_eq trivial] at rest
      refine ⟨ours ++ (separator comma ++ more), ?_, ⟨.item first comma rest⟩⟩
      rw [hours, hcomma, hmore]
      simp

end FormFlow
