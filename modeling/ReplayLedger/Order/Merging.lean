import ReplayLedger.Order.Search

/-!
# Merging where comparing may fail

Two neighbouring runs are merged by taking over the item that comes next, again and again.  The ends
that stand at their places already are cut off first.  Merging starts at the front if the first run
is not the longer one, and else at the back, where everything is turned round.

As long as the runs take turns, items are compared one by one.  When one run wins many times in a
row, it is galloped through instead, and so is the other one, until both gallops are short.  The
*patience* says how many wins in a row it takes; it falls while galloping pays, and rises when it
has ceased to.
-/

namespace ReplayLedger.Merging

open Search

variable {α ε : Type}

/-- Two runs while they are merged.  What is left of them starts with the item that is next. -/
structure State (α : Type) where
  /-- The items taken over, the last one first. -/
  taken : List α := []
  long : List α
  short : List α

namespace State

/-- Takes items over from the long run. -/
def takeLong (n : Nat) (m : State α) : State α :=
  { m with taken := (m.long.take n).reverse ++ m.taken, long := m.long.drop n }

/-- Takes items over from the short run. -/
def takeShort (n : Nat) (m : State α) : State α :=
  { m with taken := (m.short.take n).reverse ++ m.taken, short := m.short.drop n }

/-- What is left, in order, if nothing is left to compare.  The last item of the short run belongs
behind all others. -/
def rest? (m : State α) : Option (List α) :=
  match m.long, m.short with
  | [], short => some short
  | long, [] => some long
  | long, [x] => some (long ++ [x])
  | _, _ => none

end State

/-- Gallops through the short run, up to the next item of the long one, which follows. -/
def gallopShort (ahead : α → α → Except ε Bool) (side : Side) (m : State α) :
    Except ε (State α × Nat) :=
  match m.rest?, m.long with
  | none, key :: _ => do
    let n ← gallop (fun x => do return !(← ahead key x)) side m.short
    let m := m.takeShort n
    return (if m.rest?.isSome then m else m.takeLong 1, n)
  | _, _ => .ok (m, 0)

/-- Gallops through the long run, up to the next item of the short one, which follows. -/
def gallopLong (ahead : α → α → Except ε Bool) (side : Side) (m : State α) :
    Except ε (State α × Nat) :=
  match m.rest?, m.short with
  | none, key :: _ => do
    let n ← gallop (fun x => ahead x key) side m.long
    let m := m.takeLong n
    return (if m.rest?.isSome then m else m.takeShort 1, n)
  | _, _ => .ok (m, 0)

/-- Gallops through both runs, and says how far at most.  The run that stands in front of the other
one comes first. -/
def gallopBoth (ahead : α → α → Except ε Bool) (side : Side) (m : State α) :
    Except ε (State α × Nat) := do
  match side with
  | .front =>
    let (m, n) ← gallopShort ahead side m
    let (m, k) ← gallopLong ahead side m
    return (m, max n k)
  | .back =>
    let (m, n) ← gallopLong ahead side m
    let (m, k) ← gallopShort ahead side m
    return (m, max n k)

/-- How items are taken over. -/
inductive Pace where
  /-- One by one, with the number of times that each run has won in a row. -/
  | singly (long short : Nat)
  | galloping

/-- The pace after a number of wins in a row. -/
def Pace.after (patience wins : Nat) (pace : Pace) : Pace :=
  if patience ≤ wins then galloping else pace

/-- The patience at the start, and the length of a gallop that pays. -/
def firstPatience : Nat := 7

/-- Merges until one run is used up.  Every round takes over one item at least, so the number of
items bounds the number of rounds.  The result holds the patience at the end. -/
def run (ahead : α → α → Except ε Bool) (side : Side) :
    Nat → Nat → Pace → State α → Except ε (List α × Nat)
  | 0, patience, _, m => .ok (m.taken.reverse ++ m.long ++ m.short, patience)
  | rounds + 1, patience, pace, m =>
    match m.rest?, pace, m.long, m.short with
    | none, .singly long short, x :: _, y :: _ => do
      if ← ahead x y then
        let pace := Pace.after patience (long + 1) (.singly (long + 1) 0)
        run ahead side rounds patience pace (m.takeLong 1)
      else
        let pace := Pace.after patience (short + 1) (.singly 0 (short + 1))
        run ahead side rounds patience pace (m.takeShort 1)
    | none, .galloping, _, _ => do
      let (m, n) ← gallopBoth ahead side m
      if m.rest?.isSome then run ahead side rounds patience .galloping m
      else if firstPatience ≤ n then run ahead side rounds (max 1 (patience - 1)) .galloping m
      else run ahead side rounds (patience + 1) (.singly 0 0) m
    | rest, _, _, _ => .ok (m.taken.reverse ++ rest.getD (m.long ++ m.short), patience)

/-- Merges two runs of which the first item of the long one is known to come first. -/
def mergeFrom (ahead : α → α → Except ε Bool) (side : Side) (patience : Nat) (long short : List α) :
    Except ε (List α × Nat) :=
  run ahead side (long.length + short.length + 1) patience (.singly 0 0)
    (State.takeLong 1 { long, short })

/-- Merges two runs whose ends are known not to stand at their places. -/
def mergeTrimmed (below : α → α → Except ε Bool) (patience : Nat) (first second : List α) :
    Except ε (List α × Nat) :=
  if first.length ≤ second.length then mergeFrom below .front patience second first
  else do
    let (items, patience) ←
      mergeFrom (fun x y => below y x) .back patience first.reverse second.reverse
    return (items.reverse, patience)

/-- Merges two neighbouring runs.  Of items that are not ordered, those of the first run stay in
front. -/
def merge (below : α → α → Except ε Bool) (patience : Nat) (first second : List α) :
    Except ε (List α × Nat) :=
  match second with
  | [] => .ok (first, patience)
  | lowest :: _ => do
    let n ← gallop (fun x => do return !(← below lowest x)) .front first
    match (first.drop n).getLast? with
    | none => return (first ++ second, patience)
    | some highest =>
      let k ← gallop (fun x => do return !(← below x highest)) .back second.reverse
      let inner := second.take (second.length - k)
      if inner.isEmpty then return (first ++ second, patience)
      let (items, patience) ← mergeTrimmed below patience (first.drop n) inner
      return (first.take n ++ items ++ second.drop (second.length - k), patience)

end ReplayLedger.Merging
