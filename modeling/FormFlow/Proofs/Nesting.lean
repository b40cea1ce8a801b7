import FormFlow.Proofs.Acceptance

/-!
# How deep an accepted tree is

The counter of a reader says how far the reader went down, and not how deep the tree becomes. The
left side of a link is read before the link and no deeper than its chain, and yet it stands below
the link in the tree. So the levels bound the lists and links on a path if a step to a left side is
free, but not if it counts as every other step does: then the bound grows with the square of the
levels, and it is reached. A row of tokens that is too short for it, with no more opening brackets
and connectives than there are levels, has no such tree.
-/

namespace FormFlow

open FormFlow.Parser (Level)

namespace Expr

mutual

/-- The most lists and links on a path into a tree, where a link counts `cost` on the way to its
left side. -/
def depthBy (cost : Nat) : Expr → Nat
  | .literal _ | .path _ _ => 0
  | .list items => depthByItems cost items + 1
  | .compare _ left right => max (depthBy cost left) (depthBy cost right)
  | .and left right | .or left right => max (depthBy cost left + cost) (depthBy cost right + 1)

def depthByItems (cost : Nat) : List Expr → Nat
  | [] => 0
  | item :: rest => max (depthBy cost item) (depthByItems cost rest)

end

/-- The most lists and links on a path from the root of a tree to a leaf. -/
def depth (tree : Expr) : Nat :=
  tree.depthBy 1

/-- The most lists and links on a path from the root to a leaf, without the links that are left for
their left side. -/
def descents (tree : Expr) : Nat :=
  tree.depthBy 0

theorem depthBy_join (cost : Nat) (link : Connective) (left right : Expr) :
    (link.join left right).depthBy cost =
      max (left.depthBy cost + cost) (right.depthBy cost + 1) := by
  cases link <;> simp only [Connective.join, depthBy]

theorem depthBy_list_nil (cost : Nat) : (Expr.list []).depthBy cost = 1 := by
  simp only [depthBy, depthByItems]

theorem depthBy_list_cons (cost : Nat) (first : Expr) (rest : List Expr) :
    (Expr.list (first :: rest)).depthBy cost =
      max (first.depthBy cost + 1) ((Expr.list rest).depthBy cost) := by
  simp only [depthBy, depthByItems]
  omega

end Expr

/-! ## Levels and depth -/

section Reach

variable (cost : Nat)

/-- How deep an operand can be with so many levels below it. In brackets there can be a chain with a
link for each level that is left, which stands in a chain of as many links. -/
def operandReach : Nat → Nat
  | 0 => 0
  | room + 1 => max (operandReach room + 2 * (cost * room)) (operandReach room + 1)

/-- How deep a phrase can be with so many levels below it. -/
def Phrase.reach (room : Nat) : Phrase → Nat
  | .operand | .comparison => operandReach cost room
  | .items => operandReach cost room + 1
  | .chain .and => operandReach cost room + cost * room
  | .chain .or => operandReach cost room + 2 * (cost * room)
  | .links .and left =>
      max (left.depthBy cost + cost * room) (operandReach cost room + cost * room)
  | .links .or left =>
      max (left.depthBy cost + cost * room) (operandReach cost room + 2 * (cost * room))

theorem Phrase.reach_chain (room : Nat) (link : Connective) :
    (Phrase.chain link).reach cost room = link.side.reach cost room + cost * room := by
  cases link <;> simp only [reach, Connective.side]
  omega

theorem Phrase.reach_links (room : Nat) (link : Connective) (left : Expr) :
    (Phrase.links link left).reach cost room =
      max (left.depthBy cost) (link.side.reach cost room) + cost * room := by
  cases link <;> simp only [reach, Connective.side] <;> omega

/-- A side reaches deeper by one at least with one more level below it. -/
theorem Connective.reach_side_succ (room : Nat) (link : Connective) :
    link.side.reach cost room + 1 ≤ link.side.reach cost (room + 1) := by
  cases link <;> simp only [side, Phrase.reach, operandReach, Nat.mul_succ] <;> omega

end Reach

/-- The levels below a phrase bound the depth of its tree. -/
theorem Derivation.depthBy_le {limit level : Nat} {phrase : Phrase} {tokens : List Token}
    {tree : Expr} (cost : Nat) (derivation : Derivation limit phrase level tokens tree) {room : Nat}
    (h : level + room = limit) : tree.depthBy cost ≤ phrase.reach cost room := by
  induction derivation generalizing room with
  | @chain link _ _ _ first tree _ _ sideIh linksIh =>
      have hside := sideIh h
      have hlinks := linksIh h
      rw [Phrase.reach_links] at hlinks
      rw [Phrase.reach_chain]
      omega
  | done =>
      rw [Phrase.reach_links]
      omega
  | @link link _ _ _ left right _ _ _ _ _ sideIh linksIh =>
      obtain _ | room := room
      · omega
      -- the right side and the links after it have one level less below them, and what is joined
      -- so far may be deeper by the cost of one link
      have hside := @sideIh room (by omega)
      have hlinks := @linksIh room (by omega)
      have hmore := link.reach_side_succ cost room
      rw [Phrase.reach_links, Expr.depthBy_join] at hlinks
      rw [Phrase.reach_links, Nat.mul_succ]
      omega
  | bare _ ih => exact ih h
  | compare _ _ _ _ firstIh secondIh =>
      rw [Expr.depthBy]
      exact Nat.max_le.mpr ⟨firstIh h, secondIh h⟩
  | literal => simp [Expr.depthBy]
  | path => simp [Expr.depthBy]
  | parens _ _ _ _ ih =>
      obtain _ | room := room
      · omega
      exact Nat.le_trans (@ih room (by omega)) (Nat.le_max_left ..)
  | list _ _ _ ih =>
      obtain _ | room := room
      · omega
      exact Nat.le_trans (@ih room (by omega)) (Nat.le_max_right ..)
  | close =>
      rw [Expr.depthBy_list_nil]
      exact Nat.le_add_left ..
  | item _ _ _ operandIh itemsIh =>
      rw [Expr.depthBy_list_cons]
      exact Nat.max_le.mpr ⟨Nat.succ_le_succ (operandIh h), itemsIh h⟩

theorem operandReach_zero (room : Nat) : operandReach 0 room = room := by
  induction room with
  | zero => rfl
  | succ room ih =>
      rw [operandReach, ih]
      omega

theorem operandReach_one_succ (room : Nat) : operandReach 1 (room + 1) = room * (room + 1) + 1 := by
  induction room with
  | zero => rfl
  | succ room ih =>
      rw [operandReach, ih]
      simp only [Nat.mul_succ, Nat.succ_mul]
      omega

namespace Derives

variable {limit : Nat} {tokens : List Token} {tree : Expr}

/-- The levels bound a tree if a step to a left side is free. -/
theorem descents_le (derives : Derives limit .condition 0 tokens tree) : tree.descents ≤ limit := by
  obtain ⟨derivation⟩ := derives
  have h : tree.descents ≤ _ := derivation.depthBy_le 0 (Nat.zero_add limit)
  simp only [Phrase.reach, operandReach_zero] at h
  omega

theorem depth_le (derives : Derives limit .condition 0 tokens tree) :
    tree.depth ≤ limit * (limit + 1) + 1 := by
  obtain ⟨derivation⟩ := derives
  have h : tree.depth ≤ _ := derivation.depthBy_le 1 (Nat.zero_add limit)
  cases limit with
  | zero => exact Nat.le_trans h (by decide)
  | succ limit =>
      simp only [Phrase.reach, operandReach_one_succ, Nat.mul_succ, Nat.succ_mul] at h ⊢
      omega

end Derives

/-! ## Tokens and depth -/

/-- Does a token open a list or link two sides? -/
def Token.nests (token : Token) : Bool :=
  token.kind = .openBracket || token.kind = .and || token.kind = .or

theorem Connective.nests_kind (link : Connective) (column : Nat) :
    Token.nests ⟨link.kind, column⟩ = true := by
  cases link <;> rfl

/-- How deep a phrase is before any of its tokens. -/
def Phrase.given : Phrase → Nat
  | .links _ left => left.depth
  | .items => 1
  | .chain _ | .comparison | .operand => 0

theorem Connective.given_side (link : Connective) : link.side.given = 0 := by
  cases link <;> rfl

/-- Each list and each link on a path has a token of its own. -/
theorem Derivation.depth_le_countP {limit level : Nat} {phrase : Phrase} {tokens : List Token}
    {tree : Expr} (derivation : Derivation limit phrase level tokens tree) :
    tree.depth ≤ phrase.given + tokens.countP Token.nests := by
  induction derivation with
  | @chain link _ _ _ _ _ _ _ sideIh linksIh =>
      rw [link.given_side] at sideIh
      rw [List.countP_append]
      simp only [Phrase.given] at linksIh ⊢
      omega
  | done => exact Nat.le_add_right ..
  | @link link _ _ _ left right _ column _ _ _ sideIh linksIh =>
      have hjoin : (link.join left right).depth = max (left.depth + 1) (right.depth + 1) :=
        Expr.depthBy_join 1 link left right
      rw [link.given_side] at sideIh
      rw [List.countP_cons_of_pos (link.nests_kind column), List.countP_append]
      simp only [Phrase.given, hjoin] at linksIh ⊢
      omega
  | bare _ ih => exact ih
  | @compare _ _ _ left right _ op _ _ firstIh secondIh =>
      have hcompare : (Expr.compare op left right).depth = max left.depth right.depth := by
        rw [Expr.depth, Expr.depthBy]; rfl
      rw [List.countP_append, List.countP_cons, hcompare]
      simp only [Phrase.given] at firstIh secondIh ⊢
      omega
  | literal => simp [Expr.depth, Expr.depthBy]
  | path => simp [Expr.depth, Expr.depthBy]
  | parens _ _ _ _ ih =>
      rw [List.countP_cons, List.countP_append]
      exact Nat.le_trans ih (by simp only [Phrase.given]; omega)
  | list _ _ _ ih =>
      rw [List.countP_cons_of_pos rfl]
      exact Nat.le_trans ih (by simp only [Phrase.given]; omega)
  | close => exact Nat.le_trans (Nat.le_of_eq (Expr.depthBy_list_nil 1)) (Nat.le_add_right ..)
  | @item _ _ _ first rest _ _ _ operandIh itemsIh =>
      have hlist : (Expr.list (first :: rest)).depth =
          max (first.depth + 1) (Expr.list rest).depth := Expr.depthBy_list_cons 1 first rest
      rw [List.countP_append, List.countP_append, hlist]
      simp only [Phrase.given] at operandIh itemsIh ⊢
      omega

/-! ## The deepest trees -/

section Deepest

variable {limit level : Nat} {tokens : List Token} {tree : Expr}

/-- Links with the same word on the right of each. -/
def sameLinks (link : Connective) : Nat → List Token
  | 0 => []
  | n + 1 => ⟨link.kind, 0⟩ :: ([⟨(Literal.bool true).kind, 0⟩] ++ sameLinks link n)

/-- A word is a side of a chain. -/
theorem derives_side (link : Connective) :
    Derives limit link.side level [⟨(Literal.bool true).kind, 0⟩] (.literal (.bool true)) := by
  have word : Derivation limit .comparison level [⟨(Literal.bool true).kind, 0⟩] _ :=
    .bare (.literal (.bool true) 0)
  cases link with
  | and => exact ⟨word⟩
  | or =>
      have conjunction : Derivation limit (.chain .and) level ([_] ++ []) _ := .chain word .done
      exact ⟨conjunction⟩

/-- There can be a link for each level that is left, and every one of them wraps what is on its
left. -/
theorem derives_sameLinks (link : Connective) (n : Nat) (left : Expr) (h : level + n ≤ limit) :
    ∃ tree, Derives limit (.links link left) level (sameLinks link n) tree ∧
      tree.depth = left.depth + n := by
  induction n generalizing level left with
  | zero => exact ⟨left, ⟨.done⟩, rfl⟩
  | succ n ih =>
      obtain ⟨side⟩ : Derives limit link.side (level + 1) _ _ := derives_side link
      obtain ⟨tree, ⟨links⟩, hdepth⟩ :=
        @ih (level + 1) (link.join left (.literal (.bool true))) (by omega)
      have hjoin : (link.join left (.literal (.bool true))).depth = left.depth + 1 := by
        rw [Expr.depth, Expr.depthBy_join]
        simp only [Expr.depthBy, Expr.depth]
        omega
      exact ⟨tree, ⟨.link 0 (by omega) side links⟩, by omega⟩

/-- An operand in a chain of both connectives, with a link for each level that is left. -/
theorem Derives.wrapped (n : Nat) (derives : Derives limit .operand level tokens tree)
    (h : level + n ≤ limit) :
    ∃ more wrapped, Derives limit .condition level more wrapped ∧
      wrapped.depth = tree.depth + 2 * n := by
  obtain ⟨operand⟩ := derives
  obtain ⟨inner, ⟨ands⟩, hinner⟩ := derives_sameLinks .and n tree h
  obtain ⟨outer, ⟨ors⟩, houter⟩ := derives_sameLinks .or n inner h
  exact ⟨_, outer, ⟨.chain (.chain (.bare operand) ands) ors⟩, by omega⟩

theorem exists_derives_depth (room : Nat) (h : level + (room + 1) = limit) :
    ∃ tokens tree, Derives limit .condition level tokens tree ∧
      tree.depth = (room + 1) * (room + 2) + 1 := by
  induction room generalizing level with
  | zero =>
      have hoperand : Derives limit .operand level _ _ := ⟨.list 0 (by omega) (.close 0)⟩
      obtain ⟨tokens, tree, derives, hdepth⟩ := hoperand.wrapped 1 (by omega)
      have hempty : (Expr.list []).depth = 1 := Expr.depthBy_list_nil 1
      exact ⟨tokens, tree, derives, by omega⟩
  | succ room ih =>
      -- the deepest condition of the level below, in parentheses, begins both chains
      obtain ⟨inside, inner, ⟨condition⟩, hinner⟩ := @ih (level + 1) (by omega)
      have hoperand : Derives limit .operand level _ inner :=
        ⟨.parens 0 0 (by omega) condition⟩
      obtain ⟨tokens, tree, derives, hdepth⟩ := hoperand.wrapped (room + 2) (by omega)
      refine ⟨tokens, tree, derives, ?_⟩
      rw [hdepth, hinner]
      simp only [Nat.mul_add, Nat.add_mul]
      omega

/-- The bound on the depth of accepted trees is reached. -/
theorem exists_deepest :
    ∃ tokens tree, Expr.ofTokens? tokens = .ok tree ∧
      tree.depth = maxDepth * (maxDepth + 1) + 1 := by
  obtain ⟨tokens, tree, derives, hdepth⟩ : ∃ tokens tree,
      Derives maxDepth .condition 0 tokens tree ∧ tree.depth = maxDepth * (maxDepth + 1) + 1 :=
    exists_derives_depth 127 rfl
  exact ⟨tokens, tree, Expr.ofTokens?_eq_ok_iff.mpr derives, hdepth⟩

end Deepest

/-! ## Refused tokens -/

/-- An outcome is the other one, unless there were not enough levels for it. -/
def Agrees {α : Type} (outcome other : Except SyntaxFault α) : Prop :=
  outcome = other ∨ ∃ column, outcome = .error (.tooDeep column)

namespace Agrees

variable {α β : Type} {outcome other : Except SyntaxFault α}

theorem refl (outcome : Except SyntaxFault α) : Agrees outcome outcome :=
  .inl rfl

theorem bind {next after : α → Except SyntaxFault β} (h : Agrees outcome other)
    (hnext : ∀ found, Agrees (next found) (after found)) :
    Agrees (outcome >>= next) (other >>= after) := by
  obtain rfl | ⟨column, rfl⟩ := h
  · cases outcome with
    | error fault => exact .refl _
    | ok found => exact hnext found
  · exact .inr ⟨column, rfl⟩

end Agrees

namespace Parser

/-- The parsers of a level read what those of the other read, or have too few levels below them. -/
structure Level.Within (level other : Level) : Prop where
  operand : ∀ tokens, Agrees (level.operand tokens) (other.operand tokens)
  more : ∀ link left tokens, Agrees (level.more link left tokens) (other.more link left tokens)

namespace Level.Within

variable {level other : Level}

theorem comparison (h : level.Within other) (tokens : List Token) :
    Agrees (level.comparison tokens) (other.comparison tokens) := by
  refine (h.operand tokens).bind fun found => ?_
  dsimp only
  split
  next => exact (h.operand _).bind fun _ => .refl _
  next => exact .refl _

theorem side (h : level.Within other) (link : Connective) (tokens : List Token) :
    Agrees (level.side link tokens) (other.side link tokens) := by
  cases link with
  | and => exact h.comparison tokens
  | or => exact (h.comparison tokens).bind fun found => h.more .and found.1 found.2

theorem disjunction (h : level.Within other) (tokens : List Token) :
    Agrees (level.disjunction tokens) (other.disjunction tokens) :=
  (h.side .or tokens).bind fun found => h.more .or found.1 found.2

theorem listItems (h : level.Within other) (budget : Nat) (tokens : List Token) :
    Agrees (listItems level.operand budget tokens) (listItems other.operand budget tokens) := by
  induction budget generalizing tokens with
  | zero => exact .refl _
  | succ budget ih =>
      cases tokens with
      | nil => exact .refl _
      | cons token rest =>
          rw [listItems_cons, listItems_cons]
          split
          next => exact .refl _
          next => exact (h.operand _).bind fun found => (ih _).bind fun _ => .refl _

end Level.Within

section Above

variable {below deeper : Option Level}
  (h : ∀ level ∈ below, ∃ other, deeper = some other ∧ level.Within other)

include h

/-- Going down agrees if what is done below does. -/
theorem descend_agrees {α : Type} {next after : Level → Except SyntaxFault α}
    (tokens : List Token)
    (hnext : ∀ level other, level.Within other → Agrees (next level) (after other)) :
    Agrees (descend below tokens >>= next) (descend deeper tokens >>= after) := by
  cases below with
  | none => exact .inr ⟨_, rfl⟩
  | some level =>
      obtain ⟨other, rfl, within⟩ := h level rfl
      exact hnext level other within

theorem operandAbove_agrees (tokens : List Token) :
    Agrees (operandAbove below tokens) (operandAbove deeper tokens) := by
  cases tokens with
  | nil => exact .refl _
  | cons token rest =>
      obtain ⟨kind, column⟩ := token
      cases kind with
      | openParen =>
          exact descend_agrees h rest fun level other within =>
            (within.disjunction rest).bind fun _ => .refl _
      | openBracket =>
          exact descend_agrees h rest fun level other within =>
            (within.listItems _ rest).bind fun _ => .refl _
      | _ => exact .refl _

theorem more_agrees (link : Connective) (left : Expr) (tokens : List Token) :
    Agrees ((Level.above below).more link left tokens)
      ((Level.above deeper).more link left tokens) := by
  cases tokens with
  | nil =>
      rw [Level.more_nil, Level.more_nil]
      exact .refl _
  | cons token rest =>
      rw [Level.more_cons, Level.more_cons]
      split
      next =>
        exact descend_agrees h _ fun level other within =>
          (within.side link rest).bind fun found => within.more link _ found.2
      next => exact .refl _

theorem Level.above_within : (Level.above below).Within (Level.above deeper) where
  operand := operandAbove_agrees h
  more := more_agrees h

end Above

/-- More levels change nothing but that the last of them is reached later. -/
theorem Level.ofDepth_within {n m : Nat} (h : n ≤ m) :
    (Level.ofDepth n).Within (Level.ofDepth m) := by
  induction n generalizing m with
  | zero =>
      obtain _ | m := m <;> exact Level.above_within (by simp)
  | succ n ih =>
      obtain _ | m := m
      · omega
      refine Level.above_within ?_
      rintro level ⟨⟩
      exact ⟨Level.ofDepth m, rfl, ih (by omega)⟩

end Parser

/-- Tokens that can be derived within some limit are refused for their depth only. -/
theorem Derives.accepted_or_tooDeep {limit : Nat} {tokens : List Token} {tree : Expr}
    (derives : Derives limit .condition 0 tokens tree) :
    Expr.ofTokens? tokens = .ok tree ∨
      ∃ column, Expr.ofTokens? tokens = .error (.tooDeep column) := by
  obtain hwithin | hbeyond := Nat.le_total limit maxDepth
  · obtain ⟨derivation⟩ := derives
    exact .inl (Expr.ofTokens?_eq_ok_iff.mpr (derivation.roomier (by omega)))
  · have hread := derives.disjunction
    cases tokens with
    | nil => cases limit <;> cases hread
    | cons token others =>
        have agrees := (Level.ofDepth_within hbeyond).disjunction (token :: others)
        rw [hread] at agrees
        rw [Expr.ofTokens?_cons]
        obtain h | ⟨column, h⟩ := agrees
        · rw [h]
          exact .inl rfl
        · rw [h]
          exact .inr ⟨column, rfl⟩

/-! ## The limit on levels and the depth of trees -/

/-- What the limit on levels says about a tree that was made of tokens. -/
structure Expr.Bounded (tokens : List Token) (tree : Expr) : Prop where
  descents : tree.descents ≤ maxDepth
  depth : tree.depth ≤ maxDepth * (maxDepth + 1) + 1
  short : tokens.countP Token.nests ≤ maxDepth → tree.depth ≤ maxDepth

theorem Expr.bounded_of_ofTokens? {tokens : List Token} {tree : Expr}
    (h : Expr.ofTokens? tokens = .ok tree) : tree.Bounded tokens := by
  have derives := Expr.ofTokens?_eq_ok_iff.mp h
  have hcount : tree.depth ≤ tokens.countP Token.nests := by
    obtain ⟨derivation⟩ := derives
    simpa [Phrase.given] using derivation.depth_le_countP
  exact ⟨derives.descents_le, derives.depth_le, fun hshort => Nat.le_trans hcount hshort⟩

/-- A tree that is accepted is no deeper than the limit if steps to a left side are free, or if
there are no more opening brackets and connectives than the limit; in any case it is no deeper than
about the square of the limit. Tokens that can be derived are accepted or refused for their depth,
and those of a tree that is too deep even with free steps to a left side are refused. -/
theorem accepted_tree_bounded (tokens : List Token) (source : String) :
    (∀ tree, Expr.ofTokens? tokens = .ok tree → tree.Bounded tokens) ∧
    (∀ tree, Expr.parse source = .ok tree →
      ∃ read, tokenize source.toList = .ok read ∧ tree.Bounded read) ∧
    (∀ limit tree, Derives limit .condition 0 tokens tree →
      Expr.ofTokens? tokens = .ok tree ∨
        ∃ column, Expr.ofTokens? tokens = .error (.tooDeep column)) ∧
    ∀ limit tree, Derives limit .condition 0 tokens tree → maxDepth < tree.descents →
      ∃ column, Expr.ofTokens? tokens = .error (.tooDeep column) := by
  refine ⟨?_, ?_, ?_, ?_⟩
  · intro tree h
    exact Expr.bounded_of_ofTokens? h
  · intro tree h
    obtain ⟨read, hread, h⟩ := Except.bind_eq_ok_iff.mp h
    exact ⟨read, hread, Expr.bounded_of_ofTokens? h⟩
  · intro limit tree derives
    exact derives.accepted_or_tooDeep
  · intro limit tree derives hdeep
    obtain h | hrefused := derives.accepted_or_tooDeep
    · have hle := (Expr.bounded_of_ofTokens? h).descents
      omega
    · exact hrefused

/-- Lists inside each other down to the limit, and a link after them. -/
theorem parse_deeper_than_limit :
    ∃ tree, Expr.parse (String.ofList
        (List.replicate 128 '[' ++ List.replicate 128 ']' ++ " or a".toList)) = .ok tree ∧
      maxDepth < tree.depth := by
  have h : (Expr.parse (String.ofList
      (List.replicate 128 '[' ++ List.replicate 128 ']' ++ " or a".toList))).toOption.map
        Expr.depth = some (maxDepth + 1) := by
    rw [Expr.parse, String.toList_ofList]
    decide +kernel
  generalize Expr.parse _ = outcome at h ⊢
  cases outcome with
  | error fault => cases h
  | ok tree => exact ⟨tree, rfl, Nat.le_of_eq (Option.some.inj h).symm⟩

end FormFlow
