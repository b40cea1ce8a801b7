import FormFlow.Proofs.Reading

/-!
# One derivation for each condition

The parsers read every row of tokens that can be derived, whatever follows it, provided that what
follows does not go on with the phrase. So tokens have at most one tree, and from that it follows
that they have at most one derivation.
-/

namespace FormFlow

open FormFlow.Parser (Level)

/-- Can a phrase that could end here go on with a token of this kind? -/
def Phrase.goesOn : Phrase → TokenKind → Bool
  | .operand, _ | .items, _ => false
  | .comparison, kind => kind.isComparison
  | .chain .and, kind | .links .and _, kind => kind.isComparison || kind = .and
  | .chain .or, kind | .links .or _, kind => kind.isComparison || kind = .and || kind = .or

/-- A phrase that could end here does not go on with the tokens that follow. -/
def Phrase.Stops (phrase : Phrase) (tokens : List Token) : Prop :=
  ∀ token ∈ tokens.head?, phrase.goesOn token.kind = false

namespace Phrase

variable {link : Connective} {left : Expr} {tokens : List Token}

theorem stops_nil (phrase : Phrase) : phrase.Stops [] := by
  simp [Stops]

theorem stops_cons {phrase : Phrase} {token : Token} :
    phrase.Stops (token :: tokens) ↔ phrase.goesOn token.kind = false := by
  simp [Stops]

theorem stops_operand (tokens : List Token) : Phrase.operand.Stops tokens := fun _ _ => rfl

theorem stops_items (tokens : List Token) : Phrase.items.Stops tokens := fun _ _ => rfl

/-- A chain goes on where its side does, and with its connective. -/
theorem goesOn_chain (link : Connective) (kind : TokenKind) :
    (chain link).goesOn kind = (link.side.goesOn kind || kind = link.kind) := by
  cases link <;> rfl

theorem goesOn_links (link : Connective) (left : Expr) (kind : TokenKind) :
    (links link left).goesOn kind = (chain link).goesOn kind := by
  cases link <;> rfl

theorem stops_links : (links link left).Stops tokens ↔ (chain link).Stops tokens := by
  simp only [Stops, goesOn_links]

theorem stops_chain :
    (chain link).Stops tokens ↔
      link.side.Stops tokens ∧ ∀ token ∈ tokens.head?, token.kind ≠ link.kind := by
  simp only [Stops, goesOn_chain, Bool.or_eq_false_iff, decide_eq_false_iff_not, ← forall_and]

/-- The side of a chain ends before the connective. -/
theorem side_stops_kind (link : Connective) (column : Nat) :
    link.side.Stops (⟨link.kind, column⟩ :: tokens) := by
  cases link <;> simp [stops_cons, Connective.side, goesOn, Connective.kind, TokenKind.isComparison]

end Phrase

/-! ## Where phrases begin and end -/

namespace Derivation

variable {limit level : Nat} {tokens rest : List Token} {tree left : Expr} {link : Connective}

/-- An operand is not empty, and begins with neither a comma nor a closing bracket. -/
theorem operand_head (derivation : Derivation limit .operand level tokens tree) :
    ∃ token others, tokens = token :: others ∧ token.kind ≠ .comma ∧
      token.kind ≠ .closeBracket := by
  cases derivation with
  | literal value column => exact ⟨_, _, rfl, by cases value <;> simp [Literal.kind]⟩
  | path => exact ⟨_, _, rfl, by simp⟩
  | parens => exact ⟨_, _, rfl, by simp⟩
  | list => exact ⟨_, _, rfl, by simp⟩

theorem items_head (derivation : Derivation limit .items level tokens tree) :
    ∃ token others, tokens = token :: others ∧ token.kind ≠ .comma := by
  cases derivation with
  | close => exact ⟨_, _, rfl, by simp⟩
  | item operand =>
      obtain ⟨token, others, rfl, hcomma, -⟩ := operand.operand_head
      exact ⟨token, _, List.cons_append .., hcomma⟩

/-- What follows a side in a chain does not go on with the side. -/
theorem links_stops (derivation : Derivation limit (.links link left) level tokens tree)
    (stops : (Phrase.links link left).Stops rest) : link.side.Stops (tokens ++ rest) := by
  cases derivation with
  | done => exact (Phrase.stops_chain.mp (Phrase.stops_links.mp stops)).1
  | link => exact Phrase.side_stops_kind link _

/-- The rest of a list begins after the comma. -/
theorem pastComma_separator (derivation : Derivation limit .items level tokens tree)
    (comma : Option Nat) : pastComma (separator comma ++ (tokens ++ rest)) = tokens ++ rest := by
  cases comma with
  | some column => rfl
  | none =>
      obtain ⟨⟨kind, column⟩, others, rfl, hcomma⟩ := derivation.items_head
      change pastComma (⟨kind, column⟩ :: (others ++ rest)) = ⟨kind, column⟩ :: (others ++ rest)
      cases kind <;> first | rfl | exact absurd rfl hcomma

end Derivation

/-! ## The parsers find every derivation -/

/-- The parsers of a level take exactly these tokens for a phrase, with the rest after them. The
items of a list are found with any budget that is not short. -/
def Parser.Level.Takes (level : Level) (ours rest : List Token) (tree : Expr) : Phrase → Prop
  | .items => ∃ items, tree = .list items ∧ ∀ budget, ours.length ≤ budget →
      Parser.listItems level.operand budget (ours ++ rest) = .ok (items, rest)
  | phrase => level.read phrase (ours ++ rest) = .ok (tree, rest)

theorem Parser.Level.takes_side {level : Level} {ours rest : List Token} {tree : Expr}
    {link : Connective} :
    level.Takes ours rest tree link.side ↔ level.side link (ours ++ rest) = .ok (tree, rest) := by
  cases link <;> rfl

theorem Parser.Level.takes_operand {level : Level} {ours rest : List Token} {tree : Expr} :
    level.Takes ours rest tree .operand ↔ level.operand (ours ++ rest) = .ok (tree, rest) :=
  Iff.rfl

/-- Tokens that can be derived are read as they are derived. -/
theorem Derivation.takes {limit level : Nat} {phrase : Phrase} {tokens : List Token} {tree : Expr}
    (derivation : Derivation limit phrase level tokens tree) {n : Nat} (h : level + n = limit)
    {rest : List Token} (stops : phrase.Stops rest) :
    (Level.ofDepth n).Takes tokens rest tree phrase := by
  induction derivation generalizing n rest with
  | @chain link _ ours more first tree _ links sideIh linksIh =>
      have hside := Level.takes_side.mp
        (sideIh h (links.links_stops (Phrase.stops_links.mpr stops)))
      have hlinks : (Level.ofDepth n).more link first (more ++ rest) = .ok (tree, rest) :=
        linksIh h (Phrase.stops_links.mpr stops)
      change (Level.ofDepth n).read (.chain link) _ = _
      rw [List.append_assoc, Level.read_chain, hside]
      exact hlinks
  | @done link _ left =>
      change (Level.ofDepth n).more link left rest = _
      have hstop := (Phrase.stops_chain.mp (Phrase.stops_links.mp stops)).2
      obtain ⟨below, hn⟩ : ∃ below, Level.ofDepth n = Level.above below := by
        cases n <;> exact ⟨_, rfl⟩
      rw [hn]
      cases rest with
      | nil => exact Level.more_nil ..
      | cons token others =>
          rw [Level.more_cons, if_neg (hstop token rfl)]
  | @link link _ ours more left right tree column hwithin _ links sideIh linksIh =>
      obtain _ | n := n
      · omega
      have hlater : (Phrase.links link (link.join left right)).Stops rest :=
        Phrase.stops_links.mpr (Phrase.stops_links.mp stops)
      have hside := Level.takes_side.mp (sideIh (by omega : _ + n = _) (links.links_stops hlater))
      have hlinks : (Level.ofDepth n).more link (link.join left right) (more ++ rest) =
          .ok (tree, rest) := linksIh (by omega) hlater
      change (Level.above (some (Level.ofDepth n))).more link left
        (⟨link.kind, column⟩ :: (ours ++ more ++ rest)) = _
      rw [Level.more_cons, if_pos rfl, List.append_assoc]
      change (Level.side _ _ _ >>= _) = _
      rw [hside]
      exact hlinks
  | bare operand ih =>
      have hoperand := Level.takes_operand.mp (ih h (Phrase.stops_operand rest))
      change (Level.ofDepth n).comparison _ = _
      rw [Level.comparison, hoperand]
      cases rest with
      | nil => rfl
      | cons token others =>
          have hstop := Phrase.stops_cons.mp stops
          obtain ⟨kind, column⟩ := token
          cases kind with
          | comparison op => cases hstop
          | _ => rfl
  | @compare _ ours others left right first op column second firstIh secondIh =>
      have hfirst := Level.takes_operand.mp
        (firstIh h (Phrase.stops_operand (⟨.comparison op, column⟩ :: (others ++ rest))))
      have hsecond := Level.takes_operand.mp (secondIh h (Phrase.stops_operand rest))
      change (Level.ofDepth n).comparison _ = _
      rw [List.append_assoc, List.cons_append, Level.comparison, hfirst]
      change ((Level.ofDepth n).operand (others ++ rest) >>= _) = _
      rw [hsecond]
      rfl
  | literal value column => cases n <;> cases value <;> rfl
  | path column hnames =>
      have hpath := Parser.pathOf_eq_iff.mpr hnames
      rw [← hpath]
      cases n <;> rfl
  | @parens _ ours _ opening closing hwithin inner ih =>
      obtain _ | n := n
      · omega
      have hstop : Phrase.condition.Stops (⟨.closeParen, closing⟩ :: rest) :=
        Phrase.stops_cons.mpr rfl
      have hinner : (Level.ofDepth n).disjunction _ = _ := ih (by omega) hstop
      change ((Level.ofDepth n).disjunction (ours ++ [⟨.closeParen, closing⟩] ++ rest) >>= _) = _
      rw [List.append_assoc, List.singleton_append, hinner]
      rfl
  | @list _ ours _ opening hwithin items ih =>
      obtain _ | n := n
      · omega
      obtain ⟨items, rfl, hitems⟩ := ih (by omega : _ + n = _) (Phrase.stops_items rest)
      change (Parser.listItems (Level.ofDepth n).operand (ours ++ rest).length (ours ++ rest) >>=
        _) = _
      rw [hitems _ (by simp)]
      rfl
  | close closing =>
      refine ⟨[], rfl, fun budget hbudget => ?_⟩
      obtain _ | budget := budget
      · simp at hbudget
      rfl
  | @item _ ours more first _ operand comma items operandIh itemsIh =>
      obtain ⟨found, hfound, hitems⟩ := itemsIh h (Phrase.stops_items rest)
      obtain rfl := Expr.list.inj hfound
      refine ⟨_, rfl, fun budget hbudget => ?_⟩
      obtain ⟨token, others, rfl, -, hkind⟩ := operand.operand_head
      obtain _ | budget := budget
      · simp at hbudget
      have hoperand := Level.takes_operand.mp
        (operandIh h (Phrase.stops_operand (separator comma ++ (more ++ rest))))
      have hmore : more.length ≤ budget := by
        simp only [List.length_append, List.length_cons] at hbudget
        omega
      rw [List.append_assoc, List.append_assoc, List.cons_append, Parser.listItems_cons,
        if_neg hkind, ← List.cons_append, hoperand]
      change (Parser.listItems _ _ (pastComma _) >>= _) = _
      rw [items.pastComma_separator, hitems budget hmore]
      rfl

/-! ## No other derivation -/

theorem Parser.Level.Takes.unique {level : Level} {ours rest others left : List Token}
    {tree other : Expr} {phrase : Phrase} (hfirst : level.Takes ours rest tree phrase)
    (hsecond : level.Takes others left other phrase) (hsame : ours ++ rest = others ++ left) :
    tree = other ∧ rest = left := by
  cases phrase with
  | items =>
      obtain ⟨items, rfl, hfirst⟩ := hfirst
      obtain ⟨more, rfl, hsecond⟩ := hsecond
      have h := hfirst (ours ++ rest).length (by simp)
      rw [hsame, hsecond _ (by simp)] at h
      cases h
      exact ⟨rfl, rfl⟩
  | _ =>
      have h := Eq.trans (congrArg _ hsame.symm) (Eq.trans hfirst rfl)
      have := Eq.trans hsecond.symm h
      cases this
      exact ⟨rfl, rfl⟩

theorem Literal.kind_injective {value other : Literal} (h : value.kind = other.kind) :
    value = other := by
  cases value <;> cases other <;> simp_all [Literal.kind]

namespace Derivation

variable {limit level : Nat} {phrase : Phrase} {tokens others rest left : List Token}
  {tree other : Expr}

/-- Where a phrase ends is settled by the tokens, and so is its tree. -/
theorem split (first : Derivation limit phrase level tokens tree)
    (second : Derivation limit phrase level others other) (hwithin : level ≤ limit)
    (hsame : tokens ++ rest = others ++ left) (stops : phrase.Stops rest)
    (stopsLeft : phrase.Stops left) : tokens = others ∧ tree = other ∧ rest = left := by
  obtain ⟨n, h⟩ := Nat.exists_eq_add_of_le hwithin
  obtain ⟨htree, rfl⟩ := (first.takes h.symm stops).unique (second.takes h.symm stopsLeft) hsame
  exact ⟨List.append_cancel_right hsame, htree, rfl⟩

/-- Two derivations of the same tokens are the same. -/
theorem unique (first : Derivation limit phrase level tokens tree) (hwithin : level ≤ limit)
    (second : Derivation limit phrase level others other) (hsame : others = tokens) :
    other = tree ∧ HEq second first := by
  induction first generalizing others other with
  | @chain link _ _ more _ _ side links sideIh linksIh =>
      cases second with
      | chain side' links' =>
          -- neither side goes on with what follows it, so both end at the same token
          have hstops := links.links_stops (Phrase.stops_nil _)
          have hstops' := links'.links_stops (Phrase.stops_nil _)
          rw [List.append_nil] at hstops hstops'
          obtain ⟨rfl, rfl, rfl⟩ := side'.split side hwithin hsame hstops' hstops
          obtain ⟨-, hside⟩ := sideIh hwithin side' rfl
          obtain ⟨rfl, hlinks⟩ := linksIh hwithin links' rfl
          cases hside
          cases hlinks
          exact ⟨rfl, .rfl⟩
  | done =>
      cases second with
      | done => exact ⟨rfl, .rfl⟩
      | link => cases hsame
  | link column hdeeper side links sideIh linksIh =>
      cases second with
      | done => cases hsame
      | link column' hdeeper' side' links' =>
          obtain ⟨htoken, hmore⟩ := List.cons.inj hsame
          cases htoken
          have hstops := links.links_stops (Phrase.stops_nil _)
          have hstops' := links'.links_stops (Phrase.stops_nil _)
          rw [List.append_nil] at hstops hstops'
          obtain ⟨rfl, rfl, rfl⟩ := side'.split side hdeeper hmore hstops' hstops
          obtain ⟨-, hside⟩ := sideIh hdeeper side' rfl
          obtain ⟨rfl, hlinks⟩ := linksIh hdeeper links' rfl
          cases hside
          cases hlinks
          exact ⟨rfl, .rfl⟩
  | bare operand ih =>
      cases second with
      | bare operand' =>
          obtain ⟨rfl, hoperand⟩ := ih hwithin operand' hsame
          subst hsame
          cases hoperand
          exact ⟨rfl, .rfl⟩
      | compare first op column second =>
          have h := first.split operand hwithin (hsame.trans (List.append_nil _).symm)
            (Phrase.stops_operand _) (Phrase.stops_operand _)
          cases h.2.2
  | compare first op column second firstIh secondIh =>
      cases second with
      | bare operand =>
          have h := operand.split first hwithin ((List.append_nil _).trans hsame)
            (Phrase.stops_operand _) (Phrase.stops_operand _)
          cases h.2.2
      | compare first' op' column' second' =>
          obtain ⟨rfl, rfl, hrest⟩ := first'.split first hwithin hsame
            (Phrase.stops_operand _) (Phrase.stops_operand _)
          cases hrest
          obtain ⟨-, hfirst⟩ := firstIh hwithin first' rfl
          obtain ⟨rfl, hsecond⟩ := secondIh hwithin second' rfl
          cases hfirst
          cases hsecond
          exact ⟨rfl, .rfl⟩
  | literal value column =>
      cases second with
      | literal value' column' =>
          obtain ⟨hkind, rfl⟩ := Token.mk.inj (List.singleton_inj.mp hsame)
          obtain rfl := Literal.kind_injective hkind
          exact ⟨rfl, .rfl⟩
      | path | parens | list => cases value <;> cases hsame
  | path column hnames =>
      cases second with
      | literal value' => cases value' <;> cases hsame
      | path column' hnames' =>
          cases hsame
          have hpath := (Parser.pathOf_eq_iff.mpr hnames').symm.trans
            (Parser.pathOf_eq_iff.mpr hnames)
          cases hpath
          exact ⟨rfl, .rfl⟩
      | parens | list => cases hsame
  | parens opening closing hdeeper inner ih =>
      cases second with
      | literal value' => cases value' <;> cases hsame
      | path | list => cases hsame
      | parens opening' closing' hdeeper' inner' =>
          obtain ⟨hopen, hmore⟩ := List.cons.inj hsame
          cases hopen
          obtain ⟨rfl, rfl, hclose⟩ := inner'.split inner hdeeper hmore
            (Phrase.stops_cons.mpr rfl) (Phrase.stops_cons.mpr rfl)
          cases hclose
          obtain ⟨-, hinner⟩ := ih hdeeper inner' rfl
          cases hinner
          exact ⟨rfl, .rfl⟩
  | list opening hdeeper items ih =>
      cases second with
      | literal value' => cases value' <;> cases hsame
      | path | parens => cases hsame
      | list opening' hdeeper' items' =>
          obtain ⟨hopen, rfl⟩ := List.cons.inj hsame
          cases hopen
          obtain ⟨rfl, hitems⟩ := ih hdeeper items' rfl
          cases hitems
          exact ⟨rfl, .rfl⟩
  | close closing =>
      cases second with
      | close closing' =>
          cases hsame
          exact ⟨rfl, .rfl⟩
      | item operand comma items =>
          obtain ⟨token, more, rfl, -, hkind⟩ := operand.operand_head
          exact absurd (congrArg Token.kind (List.cons.inj hsame).1) hkind
  | item operand comma items operandIh itemsIh =>
      cases second with
      | close closing' =>
          obtain ⟨token, more, rfl, -, hkind⟩ := operand.operand_head
          exact absurd (congrArg Token.kind (List.cons.inj hsame).1).symm hkind
      | item operand' comma' items' =>
          obtain ⟨rfl, rfl, hrest⟩ := operand'.split operand hwithin hsame
            (Phrase.stops_operand _) (Phrase.stops_operand _)
          have hitems : _ = _ := congrArg pastComma hrest
          have h : pastComma (separator comma ++ (_ ++ [])) = _ :=
            items.pastComma_separator comma
          have h' : pastComma (separator comma' ++ (_ ++ [])) = _ :=
            items'.pastComma_separator comma'
          rw [List.append_nil] at h h'
          rw [h, h'] at hitems
          subst hitems
          obtain rfl : comma' = comma := by
            cases comma <;> cases comma' <;> simp_all [separator]
          obtain ⟨-, hoperand⟩ := operandIh hwithin operand' rfl
          obtain ⟨hlist, hitems⟩ := itemsIh hwithin items' rfl
          cases hlist
          cases hoperand
          cases hitems
          exact ⟨rfl, .rfl⟩

end Derivation

end FormFlow
