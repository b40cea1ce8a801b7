import FormFlow.Proofs.Surfacing
import FormFlow.Proofs.Tokens
import FormFlow.Proofs.ValueOrder

/-!
# Equality and order together

Equality compares integers of 64 bits exactly, and the order compares them as doubles. Where it
comes to integers that are rounded to one double, two values are neither equal nor one of them less
than the other. Everywhere else exactly one of the three holds, and with an integer literal a
condition says of an integer what there is to say of integers. Below 2^53 no integers are rounded to
one double.
-/

namespace FormFlow

namespace Value

/-- Integers that collide decide about the order of two values: they stand at the first place where
the values differ. -/
inductive Blurred : Value → Value → Prop
  | numbers {m n : Number} (h : Number.Collide m n) : Blurred (.number m) (.number n)
  | first {a b : Value} {as bs : List Value} (h : Blurred a b) :
      Blurred (.list (a :: as)) (.list (b :: bs))
  | later {a b : Value} {as bs : List Value} (hequal : looseEq a b = true)
      (h : Blurred (.list as) (.list bs)) : Blurred (.list (a :: as)) (.list (b :: bs))

theorem Blurred.collide {a b : Value} (h : Blurred a b) : Collide a b := by
  induction h with
  | numbers h => exact .numbers h
  | @first a b as bs _ ih =>
      have hfirst : (a :: as)[0]? = some a := rfl
      exact .items hfirst rfl ih
  | @later a b as bs _ _ ih =>
      obtain _ | @⟨_, _, place, x, y, hx, hy, h⟩ := ih
      have hlater : (a :: as)[place + 1]? = some x := hx
      exact .items hlater hy h

theorem blurred_of_asNumber? {a b : Value} {m n : Number} (ha : a.asNumber? = some m)
    (hb : b.asNumber? = some n) : Blurred a b ↔ Number.Collide m n := by
  constructor
  · intro h
    cases h with
    | numbers h =>
        cases ha
        cases hb
        exact h
    | first | later => cases ha
  · intro h
    cases collide_of_asNumber? ha hb h with
    | numbers h => exact .numbers h
    | items | fields => cases ha

/-- Only the first items that differ decide. -/
theorem blurred_cons_iff {a b : Value} {as bs : List Value} :
    Blurred (.list (a :: as)) (.list (b :: bs)) ↔
      if looseEq a b = true then Blurred (.list as) (.list bs) else Blurred a b := by
  split
  next hequal =>
    refine ⟨fun h => ?_, .later hequal⟩
    cases h with
    | first h => exact absurd hequal (by rw [h.collide.looseEq]; decide)
    | later _ h => exact h
  next hdifferent =>
    refine ⟨fun h => ?_, .first⟩
    cases h with
    | first h => exact h
    | later hequal _ => exact absurd hequal hdifferent

theorem orderItems_eq_iff {as bs : List Value} {o : Ordering}
    (hitems : ∀ a ∈ as, ∀ b o, order a b = .ok o → (o = .eq ↔ looseEq a b = true ∨ Blurred a b))
    (h : orderItems as bs = .ok o) :
    o = .eq ↔ looseEqItems as bs = true ∨ Blurred (.list as) (.list bs) := by
  induction as generalizing bs with
  | nil =>
      cases bs with
      | nil =>
          cases h
          exact iff_of_true rfl (.inl rfl)
      | cons b bs =>
          cases h
          exact iff_of_false nofun (by rintro (h | h) <;> cases h)
  | cons a as ih =>
      cases bs with
      | nil =>
          cases h
          exact iff_of_false nofun (by rintro (h | h) <;> cases h)
      | cons b bs =>
          obtain ⟨hfirst, hrest⟩ := List.forall_mem_cons.mp hitems
          rw [orderItems] at h
          rw [blurred_cons_iff, looseEqItems]
          split at h
          next hequal => simpa [hequal] using ih hrest h
          next hdifferent => simpa [hdifferent] using hfirst b o h

/-- The order places two values on one level if they are equal or if integers that collide decide,
and never otherwise. -/
theorem order_eq_iff {a b : Value} {o : Ordering} (h : order a b = .ok o) :
    o = .eq ↔ looseEq a b = true ∨ Blurred a b := by
  induction a using byParts generalizing b o with
  | step a ih =>
      cases ordered a b with
      | numbers hm hn =>
          rw [order_of_asNumber? hm hn] at h
          cases h
          rw [Number.order_eq_iff, looseEq_of_asNumber? hm hn, blurred_of_asNumber? hm hn]
          exact Number.units_eq_iff
      | texts a b =>
          rw [order] at h
          cases h
          rw [looseEq, decide_eq_true_eq, Std.LawfulEqCmp.compare_eq_iff_eq]
          exact ⟨.inl, fun h => h.resolve_right (by rintro ⟨⟩)⟩
      | lists as bs =>
          rw [order] at h
          rw [looseEq]
          exact orderItems_eq_iff (fun a hmem b o => ih a hmem) h
      | apart h' =>
          rw [h'] at h
          cases h

/-- Exactly one of less, equal and greater is true, and at most and at least are made of them. -/
def Coherent (a b : Value) : Prop :=
  ∃ less equal greater, compare .lt a b = .ok less ∧ compare .eq a b = .ok equal ∧
    compare .gt a b = .ok greater ∧ [less, equal, greater].count true = 1 ∧
    compare .le a b = .ok (less || equal) ∧ compare .ge a b = .ok (greater || equal)

/-- What an order says settles every comparison by order. -/
theorem byOrder_of_order {a b : Value} {o : Ordering} (ha : a.kind ≠ .null) (hb : b.kind ≠ .null)
    (h : order a b = .ok o) (op : Comparison) : byOrder op a b = .ok (op.accepts o) := by
  rw [byOrder, if_neg (not_or.mpr ⟨ha, hb⟩), h]
  rfl

theorem coherent_iff {a b : Value} {o : Ordering} (ha : a.kind ≠ .null) (hb : b.kind ≠ .null)
    (h : order a b = .ok o) : Coherent a b ↔ (o = .eq ↔ looseEq a b = true) := by
  have hknown := byOrder_of_order ha hb h
  have hlt : compare .lt a b = .ok (o = .lt) := hknown .lt
  have hgt : compare .gt a b = .ok (o = .gt) := hknown .gt
  have hle : compare .le a b = .ok (o ≠ .gt) := hknown .le
  have hge : compare .ge a b = .ok (o ≠ .lt) := hknown .ge
  have heq : compare .eq a b = .ok (looseEq a b) := rfl
  simp only [Coherent, hlt, hgt, hle, hge, heq, Except.ok.injEq]
  cases o <;> cases looseEq a b <;> decide

/-- Values that have an order are coherent unless they are blurred. -/
theorem coherent_iff_not_blurred {a b : Value} {outcome : Bool} (ha : a.kind ≠ .null)
    (hb : b.kind ≠ .null) (h : compare .lt a b = .ok outcome) :
    Coherent a b ↔ ¬ Blurred a b := by
  change byOrder .lt a b = _ at h
  rw [byOrder, if_neg (not_or.mpr ⟨ha, hb⟩)] at h
  cases horder : order a b with
  | error fault =>
      rw [horder] at h
      cases h
  | ok o =>
      rw [coherent_iff ha hb horder, order_eq_iff horder]
      constructor
      · intro hcoherent hblurred
        exact absurd (hcoherent.mp (.inr hblurred)) (by rw [hblurred.collide.looseEq]; decide)
      · exact fun hclear => or_iff_left hclear

end Value

/-! ## Integers -/

/-- What a comparison says of integers. None holds another. -/
def Comparison.ofInts : Comparison → Int → Int → Bool
  | .eq, x, n => x = n
  | .ne, x, n => x ≠ n
  | .lt, x, n => x < n
  | .le, x, n => x ≤ n
  | .gt, x, n => n < x
  | .ge, x, n => n ≤ x
  | .within, _, _ => false

theorem Comparison.accepts_compare {op : Comparison} (x n : Int) :
    op.accepts (compare x n) = op.ofInts x n := by
  cases h : compare x n with
  | lt =>
      have hlt := Int.compare_eq_lt.mp h
      cases op <;> simp [accepts, ofInts] <;> omega
  | eq =>
      have heq := Int.compare_eq_eq.mp h
      cases op <;> simp [accepts, ofInts] <;> omega
  | gt =>
      have hgt := Int.compare_eq_gt.mp h
      cases op <;> simp [accepts, ofInts] <;> omega

/-- Integers that do not collide are ordered as integers. -/
theorem Number.order_int {x n : Int} (hx : isExact x = true) (hn : isExact n = true)
    (h : ¬ Collide (.int x) (.int n)) : (int x).order (.int n) = compare x n := by
  have happart : x ≠ n → (int x).units ≠ (int n).units := fun hdifferent hsame =>
    h ⟨hx, hn, hdifferent, hsame⟩
  rw [order]
  cases hxn : compare x n with
  | lt =>
      have hlt := Int.compare_eq_lt.mp hxn
      rw [Int.compare_eq_lt]
      have hle := units_mono (Int.le_of_lt hlt)
      have hne := happart (Int.ne_of_lt hlt)
      omega
  | eq =>
      rw [Int.compare_eq_eq.mp hxn, Int.compare_eq_eq]
  | gt =>
      have hgt := Int.compare_eq_gt.mp hxn
      rw [Int.compare_eq_gt]
      have hle := units_mono (Int.le_of_lt hgt)
      have hne := happart (Int.ne_of_gt hgt)
      omega

namespace Value

theorem byOrder_number (op : Comparison) (m n : Number) :
    byOrder op (.number m) (.number n) = .ok (op.accepts (m.order n)) :=
  byOrder_of_order (by simp [kind]) (by simp [kind]) (by rw [order]) op

variable {x n : Int}

theorem looseEq_int (hx : Number.isExact x = true) (hn : Number.isExact n = true) :
    looseEq (.number (.int x)) (.number (.int n)) = decide (x = n) := by
  rw [looseEq, Number.sameValue, hx, hn]
  rfl

/-- Equality says of integers of 64 bits what there is to say, and without a collision so does the
order. -/
theorem compare_int (hx : Number.isExact x = true) (hn : Number.isExact n = true)
    {op : Comparison} (h : op = .eq ∨ op = .ne ∨ ¬ Number.Collide (.int x) (.int n)) :
    compare op (.number (.int x)) (.number (.int n)) = .ok (op.ofInts x n) := by
  have heq := looseEq_int hx hn
  have hne : (!looseEq (.number (.int x)) (.number (.int n))) = decide (x ≠ n) := by
    rw [heq, decide_not]
  rcases h with rfl | rfl | hapart
  · exact congrArg Except.ok heq
  · exact congrArg Except.ok hne
  · have hknown : ∀ op : Comparison,
        byOrder op (.number (.int x)) (.number (.int n)) = .ok (op.ofInts x n) := by
      intro op
      rw [byOrder_number, Number.order_int hx hn hapart, Comparison.accepts_compare]
    cases op with
    | eq => exact congrArg Except.ok heq
    | ne => exact congrArg Except.ok hne
    | within => rfl
    | lt | le | gt | ge => exact hknown _

/-- Of integers that collide, each is at most the other. -/
theorem compare_int_of_collide (h : Number.Collide (.int x) (.int n)) :
    compare .le (.number (.int x)) (.number (.int n)) = .ok true ∧
      compare .ge (.number (.int x)) (.number (.int n)) = .ok true := by
  obtain ⟨-, -, -, hdouble⟩ := h
  have hlevel : (Number.int x).order (.int n) = .eq := Number.order_eq_iff.mpr hdouble
  have hknown : ∀ op, byOrder op (.number (.int x)) (.number (.int n)) = .ok (op.accepts .eq) := by
    intro op
    rw [byOrder_number, hlevel]
  exact ⟨hknown .le, hknown .ge⟩

end Value

/-- A name and an integer literal with a symbol between them are read as their comparison. -/
theorem Expr.parse_comparison {op : Comparison} {digits : List Char} {n : Nat} (hop : op ≠ .within)
    (hdigits : Text.natural? digits = some n) (hn : Number.isExact n = true) :
    parse ("x " ++ op.symbol ++ " " ++ String.ofList digits) =
      .ok (.compare op (.path "x" []) (.literal (.number (.int n)))) := by
  have hsource : ("x " ++ op.symbol ++ " " ++ String.ofList digits).toList =
      'x' :: ' ' :: (op.symbol.toList ++ ' ' :: digits) := by
    simp
  have hliteral : tokensFrom (3 + op.symbol.length) (' ' :: digits) =
      .ok [⟨.number (.int n), 4 + op.symbol.length⟩] := by
    rw [tokensFrom_white (by decide), tokensFrom_digits hdigits hn, Nat.add_right_comm]
  have hsymbol : tokensFrom 2 (' ' :: (op.symbol.toList ++ ' ' :: digits)) =
      .ok [⟨.comparison op, 3⟩, ⟨.number (.int n), 4 + op.symbol.length⟩] := by
    rw [tokensFrom_white (by decide), tokensFrom_symbol hop hliteral]
  have htokens : tokenize ("x " ++ op.symbol ++ " " ++ String.ofList digits).toList =
      .ok [⟨.word "x", 1⟩, ⟨.comparison op, 3⟩,
        ⟨.number (.int n), 4 + op.symbol.length⟩] := by
    rw [hsource]
    exact tokensFrom_lexeme ⟨.word "x", 0⟩ (by decide +kernel) rfl hsymbol
  rw [parse, htokens]
  rfl

/-- A comparison of a name with an integer literal says what the comparison of the values says. -/
theorem evaluate_comparison {context : Fields Value} {op : Comparison} {digits : List Char}
    {value : Value} {n : Nat} {outcome : Bool} (hop : op ≠ .within)
    (hx : context.get? "x" = some value) (hdigits : Text.natural? digits = some n)
    (hn : Number.isExact n = true)
    (h : Value.compare op value (.number (.int n)) = .ok outcome) :
    evaluate ("x " ++ op.symbol ++ " " ++ String.ofList digits) context = outcome := by
  have hplain : Unicode.isWhiteSpace 'x' = false := by decide
  have hsource :
      Text.isBlank ("x " ++ op.symbol ++ " " ++ String.ofList digits).toList = false := by
    simp [Text.isBlank, hplain]
  have hlookup : Value.lookup context "x" [] = value := by
    rw [Value.lookup, hx]
    rfl
  rw [evaluate_eq hsource, Expr.parse_comparison hop hdigits hn]
  simp [Except.toOption, Expr.value?_compare, Expr.value?_path, Expr.value?_literal,
    Literal.value, hlookup, h, Value.truthy]

open Value

/-- Equality and order fit together but for integers that collide. Two values that have an order are
coherent exactly if no such integers decide about them. With an integer literal, every comparison of
an integer is the one of integers exactly if the two do not collide, and `==` and `!=` always are.
Integers that collide are at least 2^53 away from zero. -/
theorem comparisons_are_coherent (a b : Value) (context : Fields Value) (x : Int)
    (digits : List Char) (n : Nat) :
    (a.kind ≠ .null → b.kind ≠ .null → (∃ outcome, compare .lt a b = .ok outcome) →
      (a.Coherent b ↔ ¬ a.Blurred b)) ∧
    (context.get? "x" = some (.number (.int x)) → Number.isExact x →
      Text.natural? digits = some n → Number.isExact n →
      let answer := fun op : Comparison =>
        evaluate ("x " ++ op.symbol ++ " " ++ String.ofList digits) context
      answer .eq = decide (x = n) ∧ answer .ne = decide (x ≠ n) ∧
        ((∀ op : Comparison, op ≠ .within → answer op = op.ofInts x n) ↔
          ¬ Number.Collide (.int x) (.int n))) ∧
    (Number.Collide (.int x) (.int n) →
      2 * Binary64.binade ≤ x.natAbs ∧ 2 * Binary64.binade ≤ n) := by
  refine ⟨?_, ?_, ?_⟩
  · rintro ha hb ⟨outcome, h⟩
    exact coherent_iff_not_blurred ha hb h
  · intro hget hx hdigits hn answer
    have hanswer : ∀ op : Comparison, op ≠ .within →
        (op = .eq ∨ op = .ne ∨ ¬ Number.Collide (.int x) (.int n)) → answer op = op.ofInts x n :=
      fun op hop h => evaluate_comparison hop hget hdigits hn (compare_int hx hn h)
    refine ⟨hanswer .eq nofun (.inl rfl), hanswer .ne nofun (.inr (.inl rfl)), ?_, ?_⟩
    · intro hagree hcollide
      obtain ⟨hatMost, hatLeast⟩ := compare_int_of_collide hcollide
      have hle : answer .le = true := evaluate_comparison nofun hget hdigits hn hatMost
      have hge : answer .ge = true := evaluate_comparison nofun hget hdigits hn hatLeast
      rw [hagree .le nofun, Comparison.ofInts, decide_eq_true_eq] at hle
      rw [hagree .ge nofun, Comparison.ofInts, decide_eq_true_eq] at hge
      obtain ⟨-, -, hdifferent, -⟩ := hcollide
      exact hdifferent (Int.le_antisymm hle hge)
    · exact fun hapart op hop => hanswer op hop (.inr (.inr hapart))
  · exact Number.Collide.large

/-- Lists that begin with true and with one differ in their second items and are coherent there, and
seven is at least seven. The first integers that collide are 2^53 and the next. -/
theorem comparisons_are_coherent_drafts :
    let draft : Value := .list [.bool true, .string "draft"]
    let final : Value := .list [.number (.int 1), .string "final"]
    draft.Coherent final ∧
      evaluate "x >= 007" [("x", .number (.int 7))] = true ∧
      2 * Binary64.binade ≤ (9007199254740993 : Int).natAbs := by
  intro draft final
  have hone : looseEq (.bool true) (.number (.int 1)) = true := by decide +kernel
  have hdraft : looseEq (.string "draft") (.string "final") = false := by decide
  have hless : compare .lt draft final = .ok true := by
    change byOrder .lt draft final = _
    rw [byOrder, if_neg (by decide), order, orderItems, if_pos hone, orderItems,
      if_neg (by rw [hdraft]; decide), order]
    rfl
  have hclear : ¬ draft.Blurred final := by
    change ¬ Blurred (.list [_, _]) (.list [_, _])
    rw [blurred_cons_iff, if_pos hone, blurred_cons_iff, if_neg (by rw [hdraft]; decide)]
    rintro ⟨⟩
  have hseven : ¬ Number.Collide (.int 7) (.int (7 : Nat)) := Number.Collide.irrefl _
  have hcollide : Number.Collide (.int 9007199254740993) (.int (9007199254740992 : Nat)) :=
    ⟨rfl, rfl, by decide, by decide +kernel⟩
  obtain ⟨hvalues, hints, -⟩ :=
    comparisons_are_coherent draft final [("x", .number (.int 7))] 7 ['0', '0', '7'] 7
  obtain ⟨-, -, hagree⟩ := hints rfl rfl rfl rfl
  obtain ⟨-, -, hlarge⟩ :=
    comparisons_are_coherent draft final [] 9007199254740993 [] 9007199254740992
  refine ⟨(hvalues (by decide) (by decide) ⟨true, hless⟩).mpr hclear, ?_, ?_⟩
  · exact hagree.mpr hseven .ge (by decide)
  · exact (hlarge hcollide).1

/-- An integer above 2^53 is rounded to it: it is neither less than it nor equal to it nor greater,
and yet at most as great. -/
theorem comparisons_are_not_coherent :
    let above : Value := .number (.int 9007199254740993)
    let even : Value := .number (.int 9007199254740992)
    compare .lt above even = .ok false ∧ compare .eq above even = .ok false ∧
      compare .gt above even = .ok false ∧ compare .le above even = .ok true ∧
      evaluate "x <= 9007199254740992" [("x", above)] = true := by
  refine ⟨congrArg Except.ok ?_, congrArg Except.ok ?_, congrArg Except.ok ?_,
    congrArg Except.ok ?_, ?_⟩ <;> decide +kernel

end FormFlow
