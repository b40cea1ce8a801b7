import FormFlow.Proofs.Unambiguous

/-!
# What is accepted

A row of tokens is accepted exactly when it can be derived as a condition, and its tree is the one
that is derived. A token that is left over is an error, and so is a second comparison right after
the operand of a first.
-/

namespace FormFlow

open FormFlow.Parser (Level)

variable {limit : Nat} {phrase : Phrase} {tokens rest : List Token} {tree : Expr}

/-- There is room for a derivation at every level with as much room below it. -/
theorem Derivation.roomier {level other bound : Nat}
    (derivation : Derivation limit phrase level tokens tree)
    (hroom : other + limit ≤ bound + level) :
    Derives bound phrase other tokens tree := by
  induction derivation generalizing other with
  | chain _ _ sideIh linksIh =>
      obtain ⟨side⟩ := sideIh hroom
      obtain ⟨links⟩ := linksIh hroom
      exact ⟨.chain side links⟩
  | done => exact ⟨.done⟩
  | link column hwithin _ _ sideIh linksIh =>
      obtain ⟨side⟩ := @sideIh (other + 1) (by omega)
      obtain ⟨links⟩ := @linksIh (other + 1) (by omega)
      exact ⟨.link column (by omega) side links⟩
  | bare _ ih =>
      obtain ⟨operand⟩ := ih hroom
      exact ⟨.bare operand⟩
  | compare _ op column _ firstIh secondIh =>
      obtain ⟨first⟩ := firstIh hroom
      obtain ⟨second⟩ := secondIh hroom
      exact ⟨.compare first op column second⟩
  | literal value column => exact ⟨.literal value column⟩
  | path column hnames => exact ⟨.path column hnames⟩
  | parens opening closing hwithin _ ih =>
      obtain ⟨inner⟩ := @ih (other + 1) (by omega)
      exact ⟨.parens opening closing (by omega) inner⟩
  | list opening hwithin _ ih =>
      obtain ⟨items⟩ := @ih (other + 1) (by omega)
      exact ⟨.list opening (by omega) items⟩
  | close closing => exact ⟨.close closing⟩
  | item _ comma _ operandIh itemsIh =>
      obtain ⟨operand⟩ := operandIh hroom
      obtain ⟨items⟩ := itemsIh hroom
      exact ⟨.item operand comma items⟩

/-! ## Accepted tokens -/

/-- A row of tokens that can be derived as a condition is read to its end. -/
theorem Derives.disjunction (derives : Derives limit .condition 0 tokens tree) :
    (Level.ofDepth limit).disjunction tokens = .ok (tree, []) := by
  obtain ⟨derivation⟩ := derives
  have h : (Level.ofDepth limit).disjunction (tokens ++ []) = .ok (tree, []) :=
    derivation.takes (Nat.zero_add limit) (Phrase.stops_nil _)
  rwa [List.append_nil] at h

/-- Tokens are read as a condition, and none may be left. -/
theorem Expr.ofTokens?_cons (first : Token) (others : List Token) :
    Expr.ofTokens? (first :: others) =
      (Level.ofDepth maxDepth).disjunction (first :: others) >>= fun found =>
        match found.2 with
        | [] => .ok found.1
        | token :: _ => .error (.trailingInput token) := rfl

theorem Expr.ofTokens?_eq_ok_iff :
    Expr.ofTokens? tokens = .ok tree ↔ Derives maxDepth .condition 0 tokens tree := by
  cases tokens with
  | nil =>
      constructor
      · intro h
        cases h
      · intro derives
        cases derives.disjunction
  | cons first others =>
      rw [ofTokens?_cons]
      constructor
      · intro h
        obtain ⟨⟨found, rest⟩, hfound, h⟩ := Except.bind_eq_ok_iff.mp h
        cases rest with
        | cons token rest => cases h
        | nil =>
            cases h
            have sound : (Level.ofDepth maxDepth).Sound maxDepth 0 :=
              Level.ofDepth_sound maxDepth (Nat.zero_add _)
            have reading : Reading maxDepth .condition ⟨first :: others, 0⟩ found ⟨[], 0⟩ :=
              sound.whole trivial hfound
            obtain ⟨ours, hours, derives⟩ := reading.derives
            obtain rfl : first :: others = ours := hours.trans (List.append_nil ours)
            exact derives
      · intro derives
        rw [derives.disjunction]
        rfl

/-! ## Comparisons -/

/-- May a phrase end with the right side of a comparison? -/
def Phrase.mayEndCompared : Phrase → Prop
  | .operand | .items => False
  | .chain _ | .links _ _ | .comparison => True

/-- After a comparison inside a phrase come an operand and then, unless the phrase ends here,
something that is no comparison. -/
def Phrase.Follows (limit : Nat) (phrase : Phrase) (tokens : List Token) : Prop :=
  ∃ ours value more, tokens = ours ++ more ∧ Derives limit .operand 0 ours value ∧
    (∀ token ∈ more.head?, token.kind.isComparison = false) ∧
    (more = [] → phrase.mayEndCompared)

theorem Phrase.Follows.append {after more : List Token} {whole : Phrase}
    (follows : phrase.Follows limit after)
    (hmore : phrase.mayEndCompared → (∀ token ∈ more.head?, token.kind.isComparison = false) ∧
      (more = [] → whole.mayEndCompared)) : whole.Follows limit (after ++ more) := by
  obtain ⟨ours, value, left, rfl, derives, hleft, hend⟩ := follows
  refine ⟨ours, value, left ++ more, List.append_assoc .., derives, ?_⟩
  cases left with
  | nil => exact hmore (hend rfl)
  | cons token left => exact ⟨hleft, fun h => absurd h (by simp)⟩

theorem Phrase.Follows.within {after : List Token} {whole : Phrase}
    (follows : phrase.Follows limit after) (h : phrase.mayEndCompared → whole.mayEndCompared) :
    whole.Follows limit after := by
  obtain ⟨ours, value, left, rfl, derives, hleft, hend⟩ := follows
  exact ⟨ours, value, left, rfl, derives, hleft, fun hnil => h (hend hnil)⟩

/-- A token of two rows is in the first or in the second. -/
theorem append_eq_append_cons {α : Type} {first second before after : List α} {middle : α}
    (h : first ++ second = before ++ middle :: after) :
    (∃ more, first = before ++ middle :: more ∧ after = more ++ second) ∨
      ∃ more, second = more ++ middle :: after := by
  rcases List.append_eq_append_iff.mp h with ⟨more, -, hmore⟩ | ⟨more, hmore, hsecond⟩
  · exact .inr ⟨more, hmore⟩
  · cases more with
    | nil => exact .inr ⟨[], hsecond.symm⟩
    | cons token more =>
        obtain ⟨rfl, rfl⟩ := List.cons.inj hsecond
        exact .inl ⟨more, hmore, rfl⟩

theorem Connective.isComparison_kind (link : Connective) : link.kind.isComparison = false := by
  cases link <;> rfl

theorem Literal.isComparison_kind (value : Literal) : value.kind.isComparison = false := by
  cases value <;> rfl

/-- A row that begins with something else has its comparison further on. -/
theorem cons_eq_append_cons {token compared : Token} {row before after : List Token}
    (h : token :: row = before ++ compared :: after) (hkind : token.kind.isComparison = false)
    (hcompared : compared.kind.isComparison = true) :
    ∃ more, row = more ++ compared :: after := by
  cases before with
  | nil =>
      obtain ⟨rfl, -⟩ := List.cons.inj h
      exact absurd hcompared (by simp [hkind])
  | cons first before => exact ⟨before, (List.cons.inj h).2⟩

/-- Whatever is derived, a comparison in it is followed by an operand and no other comparison. -/
theorem Derivation.follows {level : Nat} (derivation : Derivation limit phrase level tokens tree)
    {before after : List Token} {compared : Token} (hcompared : compared.kind.isComparison = true)
    (h : tokens = before ++ compared :: after) : phrase.Follows limit after := by
  induction derivation generalizing before after with
  | @chain link _ ours more _ _ side links sideIh linksIh =>
      -- the comparison is in the side, and then the links follow it, or it is in the links
      rcases append_eq_append_cons h with ⟨left, hours, rfl⟩ | ⟨left, hmore⟩
      · refine (sideIh hours).append fun _ => ⟨?_, fun _ => trivial⟩
        cases links with
        | done => simp
        | link => simp [link.isComparison_kind]
      · exact (linksIh hmore).within fun _ => trivial
  | done => simp at h
  | @link link _ ours more _ _ _ column _ side links sideIh linksIh =>
      obtain ⟨left, h⟩ := cons_eq_append_cons h link.isComparison_kind hcompared
      rcases append_eq_append_cons h with ⟨left, hours, rfl⟩ | ⟨left, hmore⟩
      · refine (sideIh hours).append fun _ => ⟨?_, fun _ => trivial⟩
        cases links with
        | done => simp
        | link => simp [link.isComparison_kind]
      · exact linksIh hmore
  | bare _ ih => exact (ih h).within fun _ => trivial
  | @compare level ours others _ right first op column second firstIh secondIh =>
      rcases append_eq_append_cons h with ⟨left, hours, rfl⟩ | ⟨left, hothers⟩
      · exact (firstIh hours).append False.elim
      · cases left with
        | nil =>
            obtain ⟨-, rfl⟩ := List.cons.inj hothers
            exact ⟨others, right, [], (List.append_nil _).symm, second.roomier (by omega),
              by simp, fun _ => trivial⟩
        | cons token left => exact (secondIh (List.cons.inj hothers).2).within False.elim
  | literal value column =>
      obtain ⟨left, h⟩ := cons_eq_append_cons h value.isComparison_kind hcompared
      simp at h
  | path =>
      obtain ⟨left, h⟩ := cons_eq_append_cons h rfl hcompared
      simp at h
  | parens opening closing _ _ ih =>
      obtain ⟨left, h⟩ := cons_eq_append_cons h rfl hcompared
      rcases append_eq_append_cons h with ⟨left, hours, rfl⟩ | ⟨left, hclose⟩
      · exact (ih hours).append fun _ => ⟨by simp [TokenKind.isComparison], by simp⟩
      · obtain ⟨left, h⟩ := cons_eq_append_cons hclose rfl hcompared
        simp at h
  | list opening _ _ ih =>
      obtain ⟨left, h⟩ := cons_eq_append_cons h rfl hcompared
      exact (ih h).within False.elim
  | close closing =>
      obtain ⟨left, h⟩ := cons_eq_append_cons h rfl hcompared
      simp at h
  | @item _ ours more _ _ _ comma _ operandIh itemsIh =>
      rcases append_eq_append_cons h with ⟨left, hours, rfl⟩ | ⟨left, hmore⟩
      · exact (operandIh hours).append False.elim
      · cases comma with
        | none => exact itemsIh hmore
        | some column =>
            obtain ⟨left, h⟩ := cons_eq_append_cons hmore rfl hcompared
            exact itemsIh h

/-- Two comparisons with only an operand between them are in no condition. -/
theorem Derives.not_compared_twice {level : Nat} {before ours after : List Token} {value : Expr}
    {first second : Token} (hfirst : first.kind.isComparison = true)
    (hsecond : second.kind.isComparison = true)
    (hoperand : Derives limit .operand level ours value) :
    ¬ Derives limit .condition 0 (before ++ first :: (ours ++ second :: after)) tree := by
  rintro ⟨derivation⟩
  obtain ⟨others, other, more, hours, ⟨found⟩, hmore, -⟩ := derivation.follows hfirst rfl
  obtain ⟨operand⟩ := hoperand
  have hlifted : Derives limit .operand 0 ours value := operand.roomier (by omega)
  obtain ⟨operand⟩ := hlifted
  obtain ⟨-, -, rfl⟩ := operand.split found (Nat.zero_le _) hours (Phrase.stops_operand _)
    (Phrase.stops_operand _)
  exact absurd hsecond (by simp [hmore second rfl])

/-! ## The grammar and the parsers -/

/-- Tokens are accepted exactly when they derive a condition, with the tree that they derive.
The tree and its derivation are unique. A token that is left over is an error. No operand stands
between two comparisons. Whatever is read at a level, a reader with a counter reads with the
counter at that level, and its counter is back there after every phrase that it reads on the way. -/
theorem accepted_tokens_follow_grammar :
    (∀ tokens tree,
      Expr.ofTokens? tokens = .ok tree ↔ Derives maxDepth .condition 0 tokens tree) ∧
    (∀ tokens, Subsingleton (Σ tree, Derivation maxDepth .condition 0 tokens tree)) ∧
    (∀ tokens tree token rest,
      (Level.ofDepth maxDepth).disjunction tokens = .ok (tree, token :: rest) →
      Expr.ofTokens? tokens = .error (.trailingInput token)) ∧
    (∀ before first level ours value second after tree,
      first.kind.isComparison = true → second.kind.isComparison = true →
      Derives maxDepth .operand level ours value →
      Expr.ofTokens? (before ++ first :: (ours ++ second :: after)) ≠ .ok tree) ∧
    (∀ phrase start tree last, Reading maxDepth phrase start tree last → phrase.Whole →
      last.depth = start.depth) ∧
    ∀ depth n, depth + n = maxDepth → ∀ phrase tokens tree rest, phrase.Whole →
      (Level.ofDepth n).read phrase tokens = .ok (tree, rest) →
      Reading maxDepth phrase ⟨tokens, depth⟩ tree ⟨rest, depth⟩ := by
  refine ⟨?_, ?_, ?_, ?_, ?_, ?_⟩
  · intro tokens tree
    exact Expr.ofTokens?_eq_ok_iff
  · intro tokens
    constructor
    rintro ⟨tree, first⟩ ⟨other, second⟩
    obtain ⟨rfl, hsame⟩ := second.unique (Nat.zero_le _) first rfl
    cases hsame
    rfl
  · intro tokens tree token rest h
    cases tokens with
    | nil => cases h
    | cons first others =>
        rw [Expr.ofTokens?_cons, h]
        rfl
  · intro before first level ours value second after tree hfirst hsecond hoperand h
    exact hoperand.not_compared_twice hfirst hsecond (Expr.ofTokens?_eq_ok_iff.mp h)
  · intro phrase start tree last reading whole
    exact reading.depth_eq whole
  · intro depth n h phrase tokens tree rest whole hread
    exact (Level.ofDepth_sound n h).whole whole hread

end FormFlow
