import ReplayLedger.Misuse
import ReplayLedger.Order.Sorting
import ReplayLedger.Value

/-!
# Comparing raw values

Numbers are compared by what they are worth, whatever their form; texts by their characters and byte
strings by their bytes; lists by their first items that differ.  Values of other forms are not
ordered.
-/

namespace ReplayLedger.Value

/-- What a number is worth. -/
inductive Worth where
  | undefined
  | infinite (negative : Bool)
  /-- The number `n * 2 ^ e`. -/
  | dyadic (n e : Int)
  deriving DecidableEq, Repr

/-- What a value is worth as a number. -/
def worth? : Value → Option Worth
  | int n => some (.dyadic n 0)
  | bool b => some (.dyadic (if b then 1 else 0) 0)
  | runtime kind => some (.dyadic kind.number 0)
  | float .nan => some .undefined
  | float (.infinite negative) => some (.infinite negative)
  | float (.finite negative m e) => some (.dyadic (Numeral.signed negative m) e)
  | _ => none

namespace Worth

/-- Two numbers as multiples of one power of two. -/
def align (n e m f : Int) : Int × Int :=
  (n * Binary64.twoTo (e - min e f).toNat, m * Binary64.twoTo (f - min e f).toNat)

/-- Whether a number is less than another. -/
def below : Worth → Worth → Bool
  | undefined, _ => false
  | _, undefined => false
  | infinite negative, infinite negative' => negative && !negative'
  | infinite negative, dyadic .. => negative
  | dyadic .., infinite negative => !negative
  | dyadic n e, dyadic m f => (align n e m f).1 < (align n e m f).2

/-- Whether two numbers are worth the same. -/
def equal : Worth → Worth → Bool
  | infinite negative, infinite negative' => negative == negative'
  | dyadic n e, dyadic m f => (align n e m f).1 == (align n e m f).2
  | _, _ => false

end Worth

/-- The items that a value consists of. -/
def items? : Value → Option (List Value)
  | list items => some items
  | text s => some (s.toList.map fun c => text (String.singleton c))
  | bytes data | buffer data | view data => some (data.map fun b => int b.toNat)
  | record fields => some (fields.map fun (name, _) => text name)
  | _ => none

/-- Whether two values of which not both are lists or records are the same. -/
def sameScalar (v w : Value) : Bool :=
  match v.worth?, w.worth?, v, w with
  | some a, some b, _, _ => a.equal b
  | _, _, text s, text t => s == t
  | _, _, null, null => true
  | _, _, v, w =>
    match v.bytes?, w.bytes? with
    | some a, some b => a == b
    | _, _ => false

mutual

/-- Whether two values are the same. -/
def same : Value → Value → Bool
  | list items, list items' => sameItems items items'
  | record fields, record fields' =>
    fields.length == fields'.length && sameFields fields fields'
  | v, w => sameScalar v w

/-- Whether two lists have the same items. -/
def sameItems : List Value → List Value → Bool
  | [], [] => true
  | v :: rest, w :: rest' => same v w && sameItems rest rest'
  | _, _ => false

/-- Whether every field of the first record is one of the second, with the same value. -/
def sameFields : List (String × Value) → List (String × Value) → Bool
  | [], _ => true
  | (name, v) :: rest, fields' =>
    (match fields'.find? fun field => field.1 = name with
      | some (_, w) => same v w
      | none => false) && sameFields rest fields'

end

/-- Whether a byte string comes before another one; of two views neither does. -/
def bytesPrecede? (v w : Value) : Option Bool :=
  match v, w with
  | view _, view _ | view _, bytes _ | bytes _, view _ => none
  | v, w => do return decide ((← v.bytes?).map UInt8.toNat < (← w.bytes?).map UInt8.toNat)

/-- Whether a value that is not a list comes before another one. -/
def scalarPrecedes (v w : Value) : Except Misuse Bool :=
  let unordered := Except.error (.notComparable "<" v.formName w.formName)
  match v.worth?, w.worth?, v, w with
  | some a, some b, _, _ => .ok (a.below b)
  | _, _, text s, text t => .ok (decide (s < t))
  | _, _, v, w =>
    match bytesPrecede? v w with
    | some b => .ok b
    | none => unordered

mutual

/-- Whether a value comes before another one. -/
def precedes : Value → Value → Except Misuse Bool
  | list items, list items' => precedesItems items items'
  | v, w => scalarPrecedes v w

/-- Whether a list comes before another one. -/
def precedesItems : List Value → List Value → Except Misuse Bool
  | [], [] => .ok false
  | [], _ :: _ => .ok true
  | _ :: _, [] => .ok false
  | v :: rest, w :: rest' => if same v w then precedesItems rest rest' else precedes v w

end

/-- The items of a value, sorted. -/
def sorted (v : Value) : Except Misuse (List Value) :=
  match v.items? with
  | some items => Sorting.sort precedes items
  | none => .error (.notIterable v.formName)

/-- Whether a value counts as true: all but nothing, zero and what has no items. -/
def isTruthy : Value → Bool
  | null => false
  | bool b => b
  | int n => n != 0
  | float x => !sameScalar (float x) (int 0)
  | text s => s != ""
  | illFormed _ => true
  | bytes data | buffer data | view data => !data.isEmpty
  | runtime kind => kind.number != 0
  | list items => !items.isEmpty
  | record fields => !fields.isEmpty

end ReplayLedger.Value
