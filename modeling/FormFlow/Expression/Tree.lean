import FormFlow.Expression.Token

/-!
# Condition trees

A condition is built from literals, lists and context lookups by comparisons, `and` and `or`. Trees
have decidable equality, in which an integer literal differs from every float literal.
-/

namespace FormFlow

inductive Literal where
  | text (content : String)
  | number (value : Number)
  | bool (value : Bool)
deriving DecidableEq

inductive Expr where
  | literal (value : Literal)
  | list (items : List Expr)
  /-- A lookup in the context: the name of an entry, then the names of fields inside it. -/
  | path (root : String) (fields : List String)
  | compare (op : Comparison) (left right : Expr)
  | and (left right : Expr)
  | or (left right : Expr)

namespace Expr

mutual

/-- Are two trees the same? -/
def same : Expr → Expr → Bool
  | .literal a, .literal b => a = b
  | .list a, .list b => sameItems a b
  | .path a as, .path b bs => a = b && as = bs
  | .compare op a b, .compare op' a' b' => op = op' && same a a' && same b b'
  | .and a b, .and a' b' => same a a' && same b b'
  | .or a b, .or a' b' => same a a' && same b b'
  | _, _ => false

def sameItems : List Expr → List Expr → Bool
  | [], [] => true
  | a :: as, b :: bs => same a b && sameItems as bs
  | _, _ => false

end

mutual

theorem same_iff : (a b : Expr) → (same a b = true ↔ a = b)
  | .literal a, b => by cases b <;> simp [same]
  | .list a, b => by
      cases b with
      | list b => simp [same, sameItems_iff a b]
      | _ => simp [same]
  | .path a as, b => by cases b <;> simp [same]
  | .compare op a₁ a₂, b => by
      cases b with
      | compare op' b₁ b₂ => simp [same, same_iff a₁ b₁, same_iff a₂ b₂, and_assoc]
      | _ => simp [same]
  | .and a₁ a₂, b => by
      cases b with
      | and b₁ b₂ => simp [same, same_iff a₁ b₁, same_iff a₂ b₂]
      | _ => simp [same]
  | .or a₁ a₂, b => by
      cases b with
      | or b₁ b₂ => simp [same, same_iff a₁ b₁, same_iff a₂ b₂]
      | _ => simp [same]

theorem sameItems_iff : (as bs : List Expr) → (sameItems as bs = true ↔ as = bs)
  | [], bs => by cases bs <;> simp [sameItems]
  | a :: as, bs => by
      cases bs with
      | nil => simp [sameItems]
      | cons b bs => simp [sameItems, same_iff a b, sameItems_iff as bs]

end

instance : DecidableEq Expr := fun a b =>
  decidable_of_iff _ (same_iff a b)

end Expr

end FormFlow
