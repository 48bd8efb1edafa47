/-!
# Ordered lists

Stable sorting by insertion, and the distinct elements of a list in the order of their first
occurrence.
-/
namespace Shapewright.Ordered

variable {α : Type}

/-- Puts `a` before the first element that it may precede. -/
def insert (le : α → α → Bool) (a : α) : List α → List α
  | [] => [a]
  | b :: bs => if le a b then a :: b :: bs else b :: insert le a bs

def sort (le : α → α → Bool) (as : List α) : List α :=
  as.foldr (insert le) []

def firstSeen [DecidableEq α] : List α → List α
  | [] => []
  | a :: as => a :: (firstSeen as).filter (· ≠ a)

end Shapewright.Ordered
