import ReplayLedger.Text.Hex

/-!
# Orders and sorted lists

Byte strings are ordered by their first differing byte, texts by their first differing code point; a
beginning comes before what it begins.  Keys are listed in strictly ascending order, which
`sortDistinct` gives: each key once.
-/

namespace ReplayLedger

/-- Puts a key at its place in a strictly ascending list, unless it is there already. -/
def insertDistinct {α : Type} [DecidableEq α] (lt : α → α → Bool) (a : α) : List α → List α
  | [] => [a]
  | b :: rest =>
    if lt a b then a :: b :: rest
    else if a = b then b :: rest
    else b :: insertDistinct lt a rest

/-- The keys of a list in strictly ascending order. -/
def sortDistinct {α : Type} [DecidableEq α] (lt : α → α → Bool) (keys : List α) : List α :=
  keys.foldr (insertDistinct lt) []

@[simp] theorem mem_insertDistinct {α : Type} [DecidableEq α] (lt : α → α → Bool) (a x : α)
    (keys : List α) : x ∈ insertDistinct lt a keys ↔ x = a ∨ x ∈ keys := by
  induction keys with
  | nil => simp [insertDistinct]
  | cons b rest ih =>
    unfold insertDistinct
    split
    · simp
    · split
      · simp_all
      · simp [ih]; grind

/-- Sorting keeps the keys. -/
@[simp] theorem mem_sortDistinct {α : Type} [DecidableEq α] (lt : α → α → Bool) (x : α)
    (keys : List α) : x ∈ sortDistinct lt keys ↔ x ∈ keys := by
  induction keys with
  | nil => simp [sortDistinct]
  | cons a rest ih => simpa [sortDistinct] using or_congr Iff.rfl ih

/-- The order of byte strings. -/
def Bytes.lt (a b : Bytes) : Bool := decide (a < b)

/-- The order of texts. -/
def textLt (a b : String) : Bool := decide (a < b)

/-- The order of integers. -/
def intLt (a b : Int) : Bool := decide (a < b)

/-- First by one key, then by another. -/
def thenLt {α β : Type} [DecidableEq α] (ltα : α → α → Bool) (ltβ : β → β → Bool) (x y : α × β) :
    Bool :=
  ltα x.1 y.1 || (decide (x.1 = y.1) && ltβ x.2 y.2)

/-- All pairs of items, the earlier item first. -/
def pairs {α : Type} : List α → List (α × α)
  | [] => []
  | a :: rest => rest.map (a, ·) ++ pairs rest

end ReplayLedger
