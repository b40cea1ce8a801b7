import FormFlow.Proofs.LooseEquality

/-!
# The order of values

Numbers and truth values are ordered as doubles, texts by code points, lists by the first items that
are not equal, and nothing else has an order. Read from the other side, every comparison gives the
mirrored answer or the mirrored fault: equality does not depend on the sides, so lists differ first
at the same place.
-/

namespace FormFlow

/-- The fault of a comparison whose sides are exchanged. -/
def TypeFault.mirrored : TypeFault → TypeFault
  | .unordered left right => .unordered right left
  | .notText needle => .notText needle

namespace Value

theorem order_of_asNumber? {a b : Value} {m n : Number} (ha : a.asNumber? = some m)
    (hb : b.asNumber? = some n) : order a b = .ok (m.order n) := by
  match a, b, ha, hb with
  | .bool _, .bool _, rfl, rfl | .bool _, .number _, rfl, rfl | .number _, .bool _, rfl, rfl
  | .number _, .number _, rfl, rfl => rw [order]

/-- What the order of two values comes down to, one level deep. -/
inductive Ordered : Value → Value → Prop
  | numbers {a b : Value} {m n : Number} (ha : a.asNumber? = some m) (hb : b.asNumber? = some n) :
      Ordered a b
  | texts (a b : String) : Ordered (.string a) (.string b)
  | lists (as bs : List Value) : Ordered (.list as) (.list bs)
  | apart {a b : Value} (h : order a b = .error (.unordered a.kind b.kind))
      (h' : order b a = .error (.unordered b.kind a.kind)) : Ordered a b

theorem ordered (a b : Value) : Ordered a b := by
  cases a <;> cases b
  case bool.bool | bool.number | number.bool | number.number => exact .numbers rfl rfl
  case string.string a b => exact .texts a b
  case list.list as bs => exact .lists as bs
  all_goals exact .apart (by simp [order]) (by simp [order])

/-- What an order is when the sides are exchanged. -/
def turned (outcome : Except TypeFault Ordering) : Except TypeFault Ordering :=
  (outcome.map Ordering.swap).mapError .mirrored

/-- Lists are turned around if their items are: they differ first at the same place. -/
theorem orderItems_mirror {as bs : List Value} (hhas : WellFormedItems as)
    (hbs : WellFormedItems bs)
    (hitems : ∀ a ∈ as, ∀ b : Value, b.WellFormed → order a b = turned (order b a)) :
    orderItems as bs = turned (orderItems bs as) := by
  induction as generalizing bs with
  | nil => cases bs <;> rfl
  | cons a as ih =>
      cases bs with
      | nil => rfl
      | cons b bs =>
          obtain ⟨hfirst, hrest⟩ := List.forall_mem_cons.mp hitems
          rw [orderItems, orderItems, looseEq_comm hhas.1 hbs.1, ih hhas.2 hbs.2 hrest,
            hfirst b hbs.1]
          split <;> rfl

/-- The order of two values is that of the exchanged ones, turned around. -/
theorem order_mirror {a b : Value} (ha : a.WellFormed) (hb : b.WellFormed) :
    order a b = turned (order b a) := by
  induction a using byParts generalizing b with
  | step a ih =>
      cases ordered a b with
      | numbers hm hn =>
          rw [order_of_asNumber? hm hn, order_of_asNumber? hn hm, ← Number.order_swap]
          rfl
      | texts a b =>
          have hswap : Ord.compare a b = (Ord.compare b a).swap := Std.OrientedCmp.eq_swap
          rw [order, order, hswap]
          rfl
      | lists as bs =>
          rw [order, order]
          apply orderItems_mirror ha hb
          intro a hmem b hb
          exact ih a hmem (wellFormedItems_iff.mp ha a hmem) hb
      | apart h h' =>
          rw [h, h']
          rfl

/-- A comparison by order. -/
def byOrder (op : Comparison) (a b : Value) : Except TypeFault Bool :=
  if a.kind = .null ∨ b.kind = .null then .ok false else (order a b).map op.accepts

theorem byOrder_mirror {op other : Comparison} {a b : Value} (ha : a.WellFormed)
    (hb : b.WellFormed) (hturned : ∀ o : Ordering, op.accepts o.swap = other.accepts o) :
    byOrder op a b = (byOrder other b a).mapError .mirrored := by
  unfold byOrder
  by_cases hnull : a.kind = .null ∨ b.kind = .null
  · rw [if_pos hnull, if_pos hnull.symm]
    rfl
  · rw [if_neg hnull, if_neg fun h => hnull h.symm, order_mirror ha hb]
    cases order b a with
    | error fault => rfl
    | ok o => exact congrArg Except.ok (hturned o)

end Value

open Value

/-- A comparison can be read from either side. Exchanged sides are equal or unequal alike, and less
and greater, at most and at least, change places: with the same answer, or with a fault on both
sides, which names the two kinds in the other order. -/
theorem comparisons_mirror {a b : Value} (ha : a.WellFormed) (hb : b.WellFormed) :
    compare .eq a b = compare .eq b a ∧
    compare .ne a b = compare .ne b a ∧
    compare .lt a b = (compare .gt b a).mapError .mirrored ∧
    compare .le a b = (compare .ge b a).mapError .mirrored := by
  refine ⟨?_, ?_, ?_, ?_⟩
  · exact congrArg Except.ok (looseEq_comm ha hb)
  · exact congrArg (fun equal => Except.ok !equal) (looseEq_comm ha hb)
  · exact byOrder_mirror ha hb fun o => by cases o <;> rfl
  · exact byOrder_mirror ha hb fun o => by cases o <;> rfl

/-- Two equal requests, an amount as an integer and as a double among their fields, and after them a
text and a truth value that have no order. -/
theorem comparisons_mirror_requests :
    let two : Binary64 := ⟨false, ⟨0x4000000000000000, by decide⟩⟩
    let first : Value := .list
      [.object [("amount", .number (.int 2)), ("urgent", .bool true)], .string "late"]
    let second : Value := .list
      [.object [("amount", .number (.float two)), ("urgent", .number (.int 1))], .bool true]
    compare .eq first second = compare .eq second first ∧
      compare .gt second first = .error (.unordered .bool .string) ∧
      compare .lt first second = .error (.unordered .string .bool) := by
  intro two first second
  have hnames : "amount" < "urgent" := by decide
  have hsorted : ∀ a b : Value, Fields.Sorted [("amount", a), ("urgent", b)] :=
    fun a b => List.pairwise_pair.mpr hnames
  have hfirst : first.WellFormed := by
    simp [first, WellFormed, WellFormedItems, WellFormedFields, hsorted]
  have hsecond : second.WellFormed := by
    simp [second, WellFormed, WellFormedItems, WellFormedFields, hsorted]
  have hrequest : looseEq
      (.object [("amount", .number (.float two)), ("urgent", .number (.int 1))])
      (.object [("amount", .number (.int 2)), ("urgent", .bool true)]) = true := by
    decide +kernel
  have hgt : compare .gt second first = .error (.unordered .bool .string) := by
    change byOrder .gt second first = _
    rw [byOrder, if_neg (by decide), order, orderItems, if_pos hrequest]
    rfl
  obtain ⟨heq, -, hlt, -⟩ := comparisons_mirror hfirst hsecond
  refine ⟨heq, hgt, ?_⟩
  rw [hlt, hgt]
  rfl

end FormFlow
