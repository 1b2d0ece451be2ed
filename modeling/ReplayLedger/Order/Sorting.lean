import ReplayLedger.Order.Insertion
import ReplayLedger.Order.Merging

/-!
# Sorting where comparing may fail

The items are cut into sorted runs, which are merged.  Few items are one run.  In which order runs
are merged is decided by where they lie: the middles of two neighbouring runs are two fractions of
the whole, and the *power* of the border between them is the first binary place at which these
fractions differ.  Borders of higher power go first.
-/

namespace ReplayLedger.Sorting

variable {α ε : Type}

/-- From this number of items on there is more than one run. -/
def manyItems : Nat := 64

/-- The least length of a run: the leading bits of the number of items, one more if that cuts off a
bit that is set. -/
def leastRun (count : Nat) : Nat :=
  if count < manyItems then count else halved count 0
where
  /-- Halves a number until it is small. -/
  halved (n spare : Nat) : Nat :=
    if n < manyItems then n + spare else halved (n / 2) (max spare (n % 2))
  termination_by n
  decreasing_by
    simp only [manyItems] at *
    omega

/-- The first binary place at which `a / n` and `b / n` differ, counted on from `place`.  There are
no more places to look at than `bound`. -/
def firstDifference (n place a b : Nat) (bound : Nat) : Nat :=
  match bound with
  | 0 => place
  | bound + 1 =>
    if n ≤ a then firstDifference n (place + 1) (2 * (a - n)) (2 * (b - n)) bound
    else if n ≤ b then place + 1
    else firstDifference n (place + 1) (2 * a) (2 * b) bound

/-- A sorted run. -/
structure Run (α : Type) where
  /-- How many items stand in front of the run. -/
  start : Nat
  items : List α
  /-- The power of the border behind the run. -/
  power : Nat := 0

/-- The power of the border between a run among `total` items and the next one, which has so many
items. -/
def Run.borderPower (run : Run α) (total next : Nat) : Nat :=
  let middle := 2 * run.start + run.items.length
  firstDifference total 0 middle (middle + run.items.length + next) total

/-- Gives the border behind the last run its power, after merging all borders in front of it that
have a higher one.  The runs stand in a stack. -/
def settle (below : α → α → Except ε Bool) (power patience : Nat) (last : Run α) :
    List (Run α) → Except ε (List (Run α) × Nat)
  | [] => .ok ([{ last with power }], patience)
  | previous :: stack => do
    if power < previous.power then
      let (items, patience) ← Merging.merge below patience previous.items last.items
      settle below power patience { previous with items } stack
    else return ({ last with power } :: previous :: stack, patience)

/-- Puts a run on the stack. -/
def push (below : α → α → Except ε Bool) (total patience : Nat) (run : Run α) :
    List (Run α) → Except ε (List (Run α) × Nat)
  | [] => .ok ([run], patience)
  | last :: stack => do
    let power := last.borderPower total run.items.length
    let (stack, patience) ← settle below power patience last stack
    return (run :: stack, patience)

/-- Cuts items into runs and puts them on the stack.  A run has one item at least, so the number of
items bounds the number of runs. -/
def pushAll (below : α → α → Except ε Bool) (total : Nat) :
    Nat → Nat → List (Run α) → List α → Except ε (List (Run α) × Nat)
  | _, patience, stack, [] => .ok (stack, patience)
  | 0, patience, stack, _ => .ok (stack, patience)
  | bound + 1, patience, stack, items => do
    let (run, rest) ← Insertion.takeRun below (leastRun total) items
    let (stack, patience) ← push below total patience ⟨total - items.length, run, 0⟩ stack
    pushAll below total bound patience stack rest

/-- Merges all runs of a stack.  Of the borders around the last run but one, that to the shorter
neighbour goes first. -/
def collapse (below : α → α → Except ε Bool) (patience : Nat) : List (Run α) → Except ε (List α)
  | [] => .ok []
  | [run] => .ok run.items
  | [last, previous] => do
    let (items, _) ← Merging.merge below patience previous.items last.items
    return items
  | last :: previous :: first :: stack => do
    if first.items.length < last.items.length then
      let (items, patience) ← Merging.merge below patience first.items previous.items
      collapse below patience (last :: { first with items } :: stack)
    else
      let (items, patience) ← Merging.merge below patience previous.items last.items
      collapse below patience ({ previous with items } :: first :: stack)
  termination_by stack => stack.length

/-- Sorts items. -/
def sort (below : α → α → Except ε Bool) (items : List α) : Except ε (List α) := do
  let total := items.length
  let (stack, patience) ← pushAll below total total Merging.firstPatience [] items
  collapse below patience stack

end ReplayLedger.Sorting
