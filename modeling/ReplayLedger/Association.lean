/-!
# Associations

A list of pairs with at most one value for a key, in the order in which the keys were first put.
-/

namespace ReplayLedger.Association

variable {κ α : Type} [DecidableEq κ]

/-- Gives a key a value, in place of the one it has. -/
def put (key : κ) (value : α) : List (κ × α) → List (κ × α)
  | [] => [(key, value)]
  | (k, v) :: rest => if k = key then (key, value) :: rest else (k, v) :: put key value rest

/-- The value of a key. -/
def get? (key : κ) : List (κ × α) → Option α
  | [] => none
  | (k, v) :: rest => if k = key then some v else get? key rest

/-- The association that a row of writes leaves: of two writes to one key the later one stays. -/
def ofWrites (writes : List (κ × α)) : List (κ × α) :=
  writes.foldl (fun table write => put write.1 write.2 table) []

/-- Putting a value changes the value of its key and of no other. -/
theorem get?_put (key k : κ) (value : α) (table : List (κ × α)) :
    get? k (put key value table) = if k = key then some value else get? k table := by
  induction table with
  | nil => simp [put, get?, eq_comm]
  | cons entry rest ih =>
    obtain ⟨k', v⟩ := entry
    by_cases h : k' = key <;> by_cases hk : k = key <;> grind [put, get?]

end ReplayLedger.Association
