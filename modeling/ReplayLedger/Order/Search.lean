/-!
# Finding a place where comparing may fail

Of the items of a list those in front have a property and the others do not; to be found is how many
have it.  Whether an item has it may fail to have an answer, and the first failure ends the search.
Which items are looked at is therefore part of the result.  *Halving* looks at the middle of what is
still open.  *Galloping* looks at the places 0, 1, 3, 7 and so on until an item lacks the property,
and halves the last gap.
-/

namespace ReplayLedger.Search

variable {α ε : Type}

/-- Which end of a sorted list stands in front.  It decides which of two middle items is looked
at. -/
inductive Side where
  | front
  | back
  deriving DecidableEq, Repr

/-- How many of `count` items stand in front of the one to look at. -/
def Side.half (side : Side) (count : Nat) : Nat :=
  match side with
  | front => count / 2
  | back => count - 1 - count / 2

/-- The item to look at is one of those that are open. -/
theorem Side.half_lt (side : Side) {count : Nat} (h : count ≠ 0) : side.half count < count := by
  cases side <;> simp only [half] <;> omega

/-- How many items have the property, if the `count` items from `low` on are open. -/
def halve (holds : α → Except ε Bool) (side : Side) (items : List α) (low count : Nat) :
    Except ε Nat :=
  if _open : count = 0 then .ok low
  else
    let half := side.half count
    match items[low + half]? with
    | none => .ok low
    | some x => do
      if ← holds x then halve holds side items (low + half + 1) (count - half - 1)
      else halve holds side items low half
  termination_by count
  decreasing_by
    · omega
    · exact side.half_lt _open

/-- Looks at places that lie twice as far each time.  The result is the last place whose item has
the property and the first one looked at whose item lacks it, or the end. -/
def leap (holds : α → Except ε Bool) (items : List α) (last next : Nat) : Except ε (Nat × Nat) :=
  if _inside : next < items.length then do
    if ← holds items[next] then leap holds items next (2 * next + 1)
    else return (last, next)
  else .ok (last, items.length)
  termination_by items.length - next

/-- How many items have the property. -/
def gallop (holds : α → Except ε Bool) (side : Side) (items : List α) : Except ε Nat :=
  match items with
  | [] => .ok 0
  | x :: _ => do
    if ← holds x then
      let (last, next) ← leap holds items 0 1
      halve holds side items (last + 1) (next - last - 1)
    else return 0

end ReplayLedger.Search
