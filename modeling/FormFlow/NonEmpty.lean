/-!
# Lists with at least one item

The type itself carries the first item, so it can always be taken.
-/

namespace FormFlow

structure NonEmpty (α : Type) where
  head : α
  tail : List α
deriving DecidableEq

namespace NonEmpty

variable {α : Type}

def singleton (item : α) : NonEmpty α := ⟨item, []⟩

/-- The items of a list, if there are any. -/
def ofList? : List α → Option (NonEmpty α)
  | [] => none
  | item :: rest => some ⟨item, rest⟩

def toList (items : NonEmpty α) : List α :=
  items.head :: items.tail

def last (items : NonEmpty α) : α :=
  items.tail.getLast?.getD items.head

def length (items : NonEmpty α) : Nat :=
  items.tail.length + 1

theorem ofList?_toList (items : NonEmpty α) : ofList? items.toList = some items := rfl

@[simp] theorem length_toList (items : NonEmpty α) : items.toList.length = items.length := rfl

end NonEmpty

end FormFlow
