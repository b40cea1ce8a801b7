import FormFlow.Expression.Eval
import FormFlow.Proofs.Rounding
import Mathlib.Data.List.Perm.Subperm

/-!
# Equality of values

Equality looks at one level of two values and then at their parts: the items at each place of two
lists, the values under each name of two objects. In well-formed values it is reflexive and
symmetric. It is not transitive, because two integers of 64 bits are compared exactly and all other
numbers as doubles: a number between two integers that are rounded to one double equals both. That
is the only exception.
-/

namespace FormFlow

namespace Fields

variable {α : Type} {fields others : Fields α}

theorem mem_of_get? {name : String} {value : α} (h : fields.get? name = some value) :
    (name, value) ∈ fields := by
  induction fields with
  | nil => cases h
  | cons entry rest ih =>
      obtain ⟨key, first⟩ := entry
      rw [get?_cons] at h
      split at h
      next hsame =>
        subst hsame
        cases h
        exact List.mem_cons_self
      next => exact List.mem_cons_of_mem _ (ih h)

theorem Sorted.get?_of_mem (sorted : fields.Sorted) {name : String} {value : α}
    (h : (name, value) ∈ fields) : fields.get? name = some value := by
  induction fields with
  | nil => cases h
  | cons entry rest ih =>
      obtain ⟨key, first⟩ := entry
      obtain ⟨habove, htail⟩ := List.pairwise_cons.mp sorted
      rw [get?_cons]
      rcases List.mem_cons.mp h with hfirst | hrest
      · cases hfirst
        rw [if_pos rfl]
      · rw [if_neg (String.ne_of_lt (habove _ hrest)), ih htail hrest]

theorem get?_isSome_iff {name : String} : (fields.get? name).isSome ↔ name ∈ fields.keys := by
  induction fields with
  | nil => simp [keys]
  | cons entry rest ih =>
      obtain ⟨key, first⟩ := entry
      rw [get?_cons, keys, List.map_cons, List.mem_cons]
      by_cases hsame : key = name
      · simp [hsame]
      · rw [if_neg hsame, ih, keys]
        simp [Ne.symm hsame]

theorem exists_get?_of_keys_eq (hkeys : fields.keys = others.keys) {name : String} {value : α}
    (h : fields.get? name = some value) : ∃ other, others.get? name = some other := by
  have hname : name ∈ fields.keys := get?_isSome_iff.mp (by rw [h]; rfl)
  exact Option.isSome_iff_exists.mp (get?_isSome_iff.mpr (hkeys ▸ hname))

/-- Fields in ascending order with no fewer entries, among which every name of the others occurs,
have the same names. -/
theorem Sorted.keys_eq (sorted : fields.Sorted) (sorted' : others.Sorted)
    (hlength : others.length ≤ fields.length)
    (hnames : ∀ name ∈ fields.keys, name ∈ others.keys) : fields.keys = others.keys := by
  have hless : fields.keys.Pairwise (· < ·) := List.pairwise_map.mpr sorted
  have hless' : others.keys.Pairwise (· < ·) := List.pairwise_map.mpr sorted'
  have hnodup : fields.keys.Nodup := hless.imp String.ne_of_lt
  have hperm : fields.keys.Perm others.keys := by
    apply (List.subperm_of_subset hnodup hnames).perm_of_length_le
    rwa [keys, keys, List.length_map, List.length_map]
  exact hperm.eq_of_pairwise (fun a b _ _ hab hba => absurd hab (String.lt_asymm hba)) hless hless'

end Fields

namespace Value

/-! ## Induction -/

/-- The items of a list and the values in an object. -/
def parts : Value → List Value
  | .list items => items
  | .object fields => fields.map Prod.snd
  | _ => []

theorem sizeOf_part {value part : Value} (h : part ∈ value.parts) :
    sizeOf part < sizeOf value := by
  cases value with
  | list items =>
      have hlt : sizeOf part < sizeOf items := List.sizeOf_lt_of_mem h
      simp only [list.sizeOf_spec]
      omega
  | object fields =>
      obtain ⟨entry, hentry, rfl⟩ := List.mem_map.mp h
      have hlt := List.sizeOf_lt_of_mem hentry
      cases entry
      simp only [object.sizeOf_spec, Prod.mk.sizeOf_spec] at hlt ⊢
      omega
  | _ => cases h

/-- Induction over the parts of a value. -/
@[elab_as_elim]
theorem byParts {motive : Value → Prop}
    (step : ∀ value, (∀ part ∈ value.parts, motive part) → motive value) (value : Value) :
    motive value :=
  step value fun part _ => byParts step part
termination_by sizeOf value
decreasing_by exact sizeOf_part ‹_›

/-! ## One level of equality -/

/-- The number that a value is compared as. -/
def asNumber? : Value → Option Number
  | .number value => some value
  | .bool value => some (.ofBool value)
  | _ => none

theorem looseEq_of_asNumber? {a b : Value} {m n : Number} (ha : a.asNumber? = some m)
    (hb : b.asNumber? = some n) : looseEq a b = m.sameValue n := by
  match a, b, ha, hb with
  | .bool a, .bool b, rfl, rfl => cases a <;> cases b <;> decide
  | .bool a, .number n, rfl, rfl =>
      rw [looseEq, Bool.eq_iff_iff, decide_eq_true_eq, Number.sameValue_iff]
      exact (and_iff_left (Number.Collide.not_ofBool a n)).symm
  | .number m, .bool b, rfl, rfl =>
      rw [looseEq, Bool.eq_iff_iff, decide_eq_true_eq, Number.sameValue_iff]
      exact (and_iff_left fun h => Number.Collide.not_ofBool b m h.symm).symm
  | .number m, .number n, rfl, rfl => rw [looseEq]

theorem wellFormedItems_iff {items : List Value} :
    WellFormedItems items ↔ ∀ item ∈ items, item.WellFormed := by
  induction items with
  | nil => simp [WellFormedItems]
  | cons item rest ih => rw [WellFormedItems, ih, List.forall_mem_cons]

theorem wellFormedFields_iff {fields : List (String × Value)} :
    WellFormedFields fields ↔ ∀ entry ∈ fields, entry.2.WellFormed := by
  induction fields with
  | nil => simp [WellFormedFields]
  | cons entry rest ih => rw [WellFormedFields, ih, List.forall_mem_cons]

/-- Lists are equal if they are of one length and hold equal items at each place. -/
theorem looseEqItems_iff {as bs : List Value} : looseEqItems as bs = true ↔
    as.length = bs.length ∧ ∀ (place : Nat) a b, as[place]? = some a → bs[place]? = some b →
      looseEq a b = true := by
  induction as generalizing bs with
  | nil => cases bs <;> simp [looseEqItems]
  | cons a as ih =>
      cases bs with
      | nil => simp [looseEqItems]
      | cons b bs =>
          rw [looseEqItems, Bool.and_eq_true, ih, List.length_cons, List.length_cons,
            Nat.add_right_cancel_iff]
          constructor
          · rintro ⟨hfirst, hlength, hrest⟩
            refine ⟨hlength, fun place x y hx hy => ?_⟩
            cases place with
            | zero =>
                cases hx
                cases hy
                exact hfirst
            | succ place => exact hrest place x y hx hy
          · rintro ⟨hlength, hplaces⟩
            exact ⟨hplaces 0 a b rfl rfl, hlength, fun place => hplaces (place + 1)⟩

theorem looseEqFields_iff {fields others : Fields Value} : looseEqFields fields others = true ↔
    ∀ entry ∈ fields, ∃ other, others.get? entry.1 = some other ∧
      looseEq entry.2 other = true := by
  induction fields with
  | nil => simp [looseEqFields]
  | cons entry rest ih =>
      rw [looseEqFields, Bool.and_eq_true, ih, List.forall_mem_cons]
      apply and_congr_left'
      cases others.get? entry.1 <;> simp

/-- Objects are equal if they have the same names and equal fields under each of them. -/
theorem looseEq_object_iff {fields others : Fields Value} (sorted : fields.Sorted)
    (sorted' : others.Sorted) : looseEq (.object fields) (.object others) = true ↔
      fields.keys = others.keys ∧ ∀ name a b, fields.get? name = some a →
        others.get? name = some b → looseEq a b = true := by
  rw [looseEq, Bool.and_eq_true, decide_eq_true_eq, looseEqFields_iff]
  constructor
  · rintro ⟨hlength, hfields⟩
    refine ⟨sorted.keys_eq sorted' (Nat.le_of_eq hlength.symm) ?_, ?_⟩
    · intro name hname
      obtain ⟨entry, hentry, rfl⟩ := List.mem_map.mp hname
      obtain ⟨other, hother, -⟩ := hfields entry hentry
      exact Fields.get?_isSome_iff.mp (by rw [hother]; rfl)
    · intro name a b ha hb
      obtain ⟨other, hother, heq⟩ := hfields (name, a) (Fields.mem_of_get? ha)
      obtain rfl := Option.some.inj (hother.symm.trans hb)
      exact heq
  · rintro ⟨hkeys, hfields⟩
    have hlength := congrArg List.length hkeys
    rw [Fields.keys, Fields.keys, List.length_map, List.length_map] at hlength
    refine ⟨hlength, fun (name, a) hentry => ?_⟩
    have ha := sorted.get?_of_mem hentry
    obtain ⟨b, hb⟩ := Fields.exists_get?_of_keys_eq hkeys ha
    exact ⟨b, hb, hfields name a b ha hb⟩

/-- What makes two values equal, one level deep. -/
inductive Equal : Value → Value → Prop
  | null : Equal .null .null
  | numbers {a b : Value} {m n : Number} (ha : a.asNumber? = some m) (hb : b.asNumber? = some n)
      (hsame : m.sameValue n = true) : Equal a b
  | text (text : String) : Equal (.string text) (.string text)
  | lists {as bs : List Value} (hlength : as.length = bs.length)
      (hitems : ∀ (place : Nat) a b, as[place]? = some a → bs[place]? = some b →
        looseEq a b = true) : Equal (.list as) (.list bs)
  | objects {fields others : Fields Value} (hkeys : fields.keys = others.keys)
      (hvalues : ∀ name a b, fields.get? name = some a → others.get? name = some b →
        looseEq a b = true) : Equal (.object fields) (.object others)

theorem looseEq_iff {a b : Value} (ha : a.WellFormed) (hb : b.WellFormed) :
    looseEq a b = true ↔ Equal a b := by
  constructor
  · intro h
    match a, b, h with
    | .null, .null, _ => exact .null
    | .bool _, .bool _, h | .bool _, .number _, h | .number _, .bool _, h
    | .number _, .number _, h =>
        rw [looseEq_of_asNumber? rfl rfl] at h
        exact .numbers rfl rfl h
    | .string _, .string _, h =>
        rw [looseEq, decide_eq_true_eq] at h
        subst h
        exact .text _
    | .list as, .list bs, h =>
        rw [looseEq, looseEqItems_iff] at h
        exact .lists h.1 h.2
    | .object fields, .object others, h =>
        rw [WellFormed] at ha hb
        rw [looseEq_object_iff ha.1 hb.1] at h
        exact .objects h.1 h.2
  · intro h
    cases h with
    | null => rw [looseEq]
    | numbers hm hn hsame => rw [looseEq_of_asNumber? hm hn, hsame]
    | text => rw [looseEq, decide_eq_true_eq]
    | lists hlength hitems => rw [looseEq, looseEqItems_iff]; exact ⟨hlength, hitems⟩
    | objects hkeys hvalues =>
        rw [WellFormed] at ha hb
        rw [looseEq_object_iff ha.1 hb.1]
        exact ⟨hkeys, hvalues⟩

theorem WellFormed.item {items : List Value} {place : Nat} {item : Value}
    (h : (Value.list items).WellFormed) (hitem : items[place]? = some item) : item.WellFormed := by
  rw [WellFormed, wellFormedItems_iff] at h
  exact h item (List.mem_of_getElem? hitem)

theorem WellFormed.field {fields : Fields Value} {name : String} {value : Value}
    (h : (Value.object fields).WellFormed) (hvalue : fields.get? name = some value) :
    value.WellFormed := by
  rw [WellFormed, wellFormedFields_iff] at h
  exact h.2 (name, value) (Fields.mem_of_get? hvalue)

theorem exists_item_of_length_eq {as bs : List Value} (hlength : as.length = bs.length)
    {place : Nat} {a : Value} (h : as[place]? = some a) : ∃ b, bs[place]? = some b := by
  have hplace : place < as.length := (List.getElem?_eq_some_iff.mp h).1
  exact ⟨bs[place], List.getElem?_eq_getElem (hlength ▸ hplace)⟩

theorem item_mem_parts {items : List Value} {place : Nat} {item : Value}
    (h : items[place]? = some item) : item ∈ (Value.list items).parts :=
  List.mem_of_getElem? h

theorem field_mem_parts {fields : Fields Value} {name : String} {value : Value}
    (h : fields.get? name = some value) : value ∈ (Value.object fields).parts :=
  List.mem_map.mpr ⟨(name, value), Fields.mem_of_get? h, rfl⟩

/-! ## Laws of equality -/

/-- Every value equals itself. -/
theorem looseEq_self {a : Value} (ha : a.WellFormed) : looseEq a a = true := by
  induction a using byParts with
  | step a ih =>
      rw [looseEq_iff ha ha]
      cases a with
      | null => exact .null
      | bool value => exact .numbers rfl rfl (Number.sameValue_self _)
      | number value => exact .numbers rfl rfl (Number.sameValue_self _)
      | string text => exact .text text
      | list items =>
          refine .lists rfl fun place a b hfirst hsecond => ?_
          obtain rfl := Option.some.inj (hfirst.symm.trans hsecond)
          exact ih a (item_mem_parts hfirst) (ha.item hfirst)
      | object fields =>
          refine .objects rfl fun name a b hfirst hsecond => ?_
          obtain rfl := Option.some.inj (hfirst.symm.trans hsecond)
          exact ih a (field_mem_parts hfirst) (ha.field hfirst)

/-- Equality does not depend on which value stands on which side. -/
theorem looseEq_symm {a b : Value} (ha : a.WellFormed) (hb : b.WellFormed)
    (h : looseEq a b = true) : looseEq b a = true := by
  induction a using byParts generalizing b with
  | step a ih =>
      rw [looseEq_iff hb ha]
      cases (looseEq_iff ha hb).mp h with
      | null => exact .null
      | numbers hm hn hsame => exact .numbers hn hm (Number.sameValue_comm.trans hsame)
      | text text => exact .text text
      | lists hlength hitems =>
          refine .lists hlength.symm fun place b a hitem hitem' => ?_
          exact ih a (item_mem_parts hitem') (ha.item hitem') (hb.item hitem)
            (hitems place a b hitem' hitem)
      | objects hkeys hvalues =>
          refine .objects hkeys.symm fun name b a hvalue hvalue' => ?_
          exact ih a (field_mem_parts hvalue') (ha.field hvalue') (hb.field hvalue)
            (hvalues name a b hvalue' hvalue)

theorem looseEq_comm {a b : Value} (ha : a.WellFormed) (hb : b.WellFormed) :
    looseEq a b = looseEq b a :=
  Bool.eq_iff_iff.mpr ⟨looseEq_symm ha hb, looseEq_symm hb ha⟩

/-- At one place in both of two values stand integers that collide. -/
inductive Collide : Value → Value → Prop
  | numbers {m n : Number} (h : Number.Collide m n) : Collide (.number m) (.number n)
  | items {as bs : List Value} {place : Nat} {a b : Value} (ha : as[place]? = some a)
      (hb : bs[place]? = some b) (h : Collide a b) : Collide (.list as) (.list bs)
  | fields {fields others : Fields Value} {name : String} {a b : Value}
      (ha : fields.get? name = some a) (hb : others.get? name = some b) (h : Collide a b) :
      Collide (.object fields) (.object others)

/-- Values with a collision are not equal. -/
theorem Collide.looseEq {a b : Value} (h : Collide a b) : looseEq a b = false := by
  induction h with
  | numbers h =>
      rw [Value.looseEq, Bool.eq_false_iff, ne_eq, Number.sameValue_iff]
      exact fun hsame => hsame.2 h
  | items ha hb _ ih =>
      rw [Value.looseEq, Bool.eq_false_iff, ne_eq, looseEqItems_iff]
      rintro ⟨-, hitems⟩
      exact absurd (hitems _ _ _ ha hb) (by rw [ih]; decide)
  | fields ha hb _ ih =>
      rw [Value.looseEq, Bool.eq_false_iff, ne_eq, Bool.and_eq_true, looseEqFields_iff]
      rintro ⟨-, hvalues⟩
      obtain ⟨other, hother, heq⟩ := hvalues _ (Fields.mem_of_get? ha)
      obtain rfl := Option.some.inj (hother.symm.trans hb)
      exact absurd heq (by rw [ih]; decide)

theorem collide_of_asNumber? {a b : Value} {m n : Number} (ha : a.asNumber? = some m)
    (hb : b.asNumber? = some n) (h : Number.Collide m n) : Collide a b := by
  match a, b, ha, hb with
  | .number _, .number _, rfl, rfl => exact .numbers h
  | .bool value, _, rfl, _ => exact absurd h (Number.Collide.not_ofBool value _)
  | .number _, .bool value, rfl, rfl => exact absurd h.symm (Number.Collide.not_ofBool value _)

/-- Values that equal a third are equal, unless there is a collision between them. -/
theorem looseEq_trans {a b c : Value} (ha : a.WellFormed) (hb : b.WellFormed) (hc : c.WellFormed)
    (hab : looseEq a b = true) (hbc : looseEq b c = true) (hac : ¬ Collide a c) :
    looseEq a c = true := by
  induction a using byParts generalizing b c with
  | step a ih =>
      rw [looseEq_iff ha hc]
      rw [looseEq_iff ha hb] at hab
      rw [looseEq_iff hb hc] at hbc
      cases hab with
      | null => exact hbc
      | text text => exact hbc
      | numbers hm hn hsame =>
          cases hbc with
          | numbers hn' hp hsame' =>
              obtain rfl := Option.some.inj (hn.symm.trans hn')
              have hfirst := (Number.sameValue_iff.mp hsame).1
              have hsecond := (Number.sameValue_iff.mp hsame').1
              exact .numbers hm hp (Number.sameValue_iff.mpr
                ⟨hfirst.trans hsecond, fun h => hac (collide_of_asNumber? hm hp h)⟩)
          | _ => cases hn
      | lists hlength hitems =>
          cases hbc with
          | numbers hn => cases hn
          | lists hlength' hitems' =>
              refine .lists (hlength.trans hlength') fun place a c hitem hitem' => ?_
              obtain ⟨b, hmiddle⟩ := exists_item_of_length_eq hlength hitem
              exact ih a (item_mem_parts hitem) (ha.item hitem) (hb.item hmiddle) (hc.item hitem')
                (hitems place a b hitem hmiddle) (hitems' place b c hmiddle hitem')
                fun h => hac (.items hitem hitem' h)
      | objects hkeys hvalues =>
          cases hbc with
          | numbers hn => cases hn
          | objects hkeys' hvalues' =>
              refine .objects (hkeys.trans hkeys') fun name a c hvalue hvalue' => ?_
              obtain ⟨b, hmiddle⟩ := Fields.exists_get?_of_keys_eq hkeys hvalue
              exact ih a (field_mem_parts hvalue) (ha.field hvalue) (hb.field hmiddle)
                (hc.field hvalue') (hvalues name a b hvalue hmiddle)
                (hvalues' name b c hmiddle hvalue') fun h => hac (.fields hvalue hvalue' h)

/-- Two values that equal a third are equal exactly if there is no collision between them. -/
theorem looseEq_iff_not_collide {a b c : Value} (ha : a.WellFormed) (hb : b.WellFormed)
    (hc : c.WellFormed) (hab : looseEq a b = true) (hbc : looseEq b c = true) :
    looseEq a c = true ↔ ¬ Collide a c := by
  constructor
  · intro h hcollide
    rw [hcollide.looseEq] at h
    cases h
  · exact looseEq_trans ha hb hc hab hbc

/-- An item is equal to both or to neither of two equal values, unless it is equal to one of them
and collides with the other. -/
theorem any_looseEq_congr {a b : Value} {items : List Value} (ha : a.WellFormed)
    (hb : b.WellFormed) (hitems : (Value.list items).WellFormed) (hab : looseEq a b = true)
    (hapart : ∀ item ∈ items, (looseEq a item = true → ¬ Collide b item) ∧
      (looseEq b item = true → ¬ Collide a item)) :
    (items.any fun item => looseEq a item) = items.any fun item => looseEq b item := by
  rw [WellFormed, wellFormedItems_iff] at hitems
  rw [Bool.eq_iff_iff, List.any_eq_true, List.any_eq_true]
  constructor
  · rintro ⟨item, hmem, heq⟩
    have hitem := hitems item hmem
    exact ⟨item, hmem, looseEq_trans hb ha hitem (looseEq_symm ha hb hab) heq
      ((hapart item hmem).1 heq)⟩
  · rintro ⟨item, hmem, heq⟩
    have hitem := hitems item hmem
    exact ⟨item, hmem, looseEq_trans ha hb hitem hab heq ((hapart item hmem).2 heq)⟩

theorem compare_eq_iff {a b : Value} : compare .eq a b = .ok true ↔ looseEq a b = true := by
  rw [compare, Except.ok.injEq]

end Value

open Value

/-- Equality is an equivalence relation but for collisions. Every value equals itself; sides do not
matter; two values that equal a third are equal exactly if no integers in them collide; and a value
can be replaced by an equal one in front of `in`, unless an item of the list is equal to one of the
two and collides with the other. -/
theorem equality_is_equivalence {a b c : Value} (ha : a.WellFormed) (hb : b.WellFormed)
    (hc : c.WellFormed) :
    compare .eq a a = .ok true ∧
    compare .eq a b = compare .eq b a ∧
    (compare .eq a b = .ok true → compare .eq b c = .ok true →
      (compare .eq a c = .ok true ↔ ¬ a.Collide c)) ∧
    ∀ items, (Value.list items).WellFormed → compare .eq a b = .ok true →
      (∀ item ∈ items, (compare .eq a item = .ok true → ¬ b.Collide item) ∧
        (compare .eq b item = .ok true → ¬ a.Collide item)) →
      compare .within a (.list items) = compare .within b (.list items) := by
  simp only [compare_eq_iff]
  refine ⟨looseEq_self ha, ?_, looseEq_iff_not_collide ha hb hc, ?_⟩
  · exact congrArg Except.ok (looseEq_comm ha hb)
  · intro items hitems hab hapart
    exact congrArg Except.ok (any_looseEq_congr ha hb hitems hab hapart)

/-- The integer one, true and the double one are equal, and a list with the double holds the others
as well. -/
theorem equality_is_equivalence_one :
    let one : Value := .number (.int 1)
    let yes : Value := .bool true
    let double : Value := .number (.float ⟨false, ⟨0x3ff0000000000000, by decide⟩⟩)
    compare .eq one double = .ok true ∧
      compare .within one (.list [double]) = compare .within yes (.list [double]) := by
  intro one yes double
  have hone : one.WellFormed := trivial
  have hyes : yes.WellFormed := trivial
  have hdouble : double.WellFormed := trivial
  have hitems : (Value.list [double]).WellFormed :=
    wellFormedItems_iff.mpr (List.forall_mem_singleton.mpr hdouble)
  have hfirst : compare .eq one yes = .ok true := congrArg Except.ok (by decide +kernel)
  have hsecond : compare .eq yes double = .ok true := congrArg Except.ok (by decide +kernel)
  have hapart : ¬ one.Collide double := by
    intro h
    change Collide (.number (.int 1)) (.number (.float _)) at h
    obtain ⟨⟨⟩⟩ := h
  have hapart' : ¬ yes.Collide double := by
    intro h
    change Collide (.bool true) _ at h
    cases h
  obtain ⟨-, -, htrans, hwithin⟩ := equality_is_equivalence hone hyes hdouble
  refine ⟨(htrans hfirst hsecond).mpr hapart, hwithin [double] hitems hfirst ?_⟩
  intro item hmem
  obtain rfl := List.mem_singleton.mp hmem
  exact ⟨fun _ => hapart', fun _ => hapart⟩

/-- The greatest integer of 64 bits with sign and the one below it differ, but the next greater one,
which is compared as a double, equals both. -/
theorem equality_is_not_transitive :
    let integer : Int → Value := fun n => .number (.int n)
    let greatest := integer 0x7fffffffffffffff
    let next := integer 0x8000000000000000
    let below := integer 0x7ffffffffffffffe
    compare .eq greatest next = .ok true ∧ compare .eq next below = .ok true ∧
      compare .eq greatest below = .ok false ∧
      compare .within greatest (.list [below]) = .ok false ∧
      compare .within next (.list [below]) = .ok true ∧
      evaluate "a == b and b == c and a != c"
        [("a", greatest), ("b", next), ("c", below)] = true := by
  refine ⟨congrArg Except.ok ?_, congrArg Except.ok ?_, congrArg Except.ok ?_,
    congrArg Except.ok (?_ : List.any _ _ = false), congrArg Except.ok (?_ : List.any _ _ = true),
    ?_⟩ <;> decide +kernel

end FormFlow
