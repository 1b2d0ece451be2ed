import ReplayLedger.Order.Search

/-!
# Runs where comparing may fail

Items of different forms need not be ordered, so a comparison may fail; the first one that does ends
the sorting.  A *run* is the longest row of items in front that rises, or that falls at every step.
A run that is too short is filled up: each further item is inserted behind all items that are not
above it, and its place is found by halving.
-/

namespace ReplayLedger.Insertion

variable {α ε : Type}

/-- Follows a rising run whose items so far are `run`, the last one first. -/
def rising (below : α → α → Except ε Bool) (last : α) (run : List α) :
    List α → Except ε (List α × List α)
  | [] => .ok ((last :: run).reverse, [])
  | x :: rest => do
    if ← below x last then return ((last :: run).reverse, x :: rest)
    else rising below x (last :: run) rest

/-- Follows a falling run whose items so far are `run`, the last one first. -/
def falling (below : α → α → Except ε Bool) (last : α) (run : List α) :
    List α → Except ε (List α × List α)
  | [] => .ok (last :: run, [])
  | x :: rest => do
    if ← below x last then falling below x (last :: run) rest
    else return (last :: run, x :: rest)

/-- The run in front, sorted, and the other items. -/
def splitRun (below : α → α → Except ε Bool) : List α → Except ε (List α × List α)
  | [] => .ok ([], [])
  | [x] => .ok ([x], [])
  | x :: y :: rest => do
    if ← below y x then falling below y [x] rest else rising below y [x] rest

/-- Inserts an item into sorted ones. -/
def insert (below : α → α → Except ε Bool) (sorted : List α) (x : α) : Except ε (List α) := do
  let notAbove (y : α) : Except ε Bool := do return !(← below x y)
  let i ← Search.halve notAbove .front sorted 0 sorted.length
  return sorted.take i ++ x :: sorted.drop i

/-- The run in front, filled up to a length with the items that follow it, and the other items. -/
def takeRun (below : α → α → Except ε Bool) (length : Nat) (items : List α) :
    Except ε (List α × List α) := do
  let (run, rest) ← splitRun below items
  let missing := length - run.length
  return (← (rest.take missing).foldlM (insert below) run, rest.drop missing)

end ReplayLedger.Insertion
