/-!
# Suggestions for mistyped words

A word that is not known may be a slip for a known one.  Two words are compared by the blocks of
characters that they share: the longest block, then the longest ones to its left and to its right,
and so on.  They are close if the shared characters make up six tenths of both words.
-/

namespace ReplayLedger.Suggestion

/-- A row of characters that two words share, with its places in both. -/
structure Block where
  left : Nat
  right : Nat
  length : Nat
  deriving DecidableEq, Repr, Inhabited

/-- The number of characters with which both texts start. -/
def commonLength : List Char → List Char → Nat
  | c :: rest, d :: rest' => if c = d then commonLength rest rest' + 1 else 0
  | _, _ => 0

/-- The longest shared block from each pair of places. -/
def blocks (a b : List Char) : List Block :=
  (List.range a.length).flatMap fun i =>
    (List.range b.length).map fun j => ⟨i, j, commonLength (a.drop i) (b.drop j)⟩

/-- The longest shared block; of several the one that comes first in the first word, then in the
second. -/
def longest (a b : List Char) : Block :=
  (blocks a b).foldl (fun best next => if best.length < next.length then next else best) ⟨0, 0, 0⟩

/-- How many characters two words share.  The longest block always lies inside the first word. -/
def shared (a b : List Char) : Nat :=
  match longest a b with
  | ⟨i, j, size⟩ =>
    if _inside : 0 < size ∧ i + size ≤ a.length then
      size + shared (a.take i) (b.take j) + shared (a.drop (i + size)) (b.drop (j + size))
    else 0
  termination_by a.length
  decreasing_by all_goals simp only [List.length_take, List.length_drop]; omega

/-- A known word with the characters that it shares with a mistyped one, and those of both. -/
structure Candidate where
  word : String
  shared : Nat
  total : Nat
  deriving DecidableEq, Repr, Inhabited

namespace Candidate

/-- A known word beside a mistyped one. -/
def of (typed word : String) : Candidate where
  word := word
  shared := Suggestion.shared word.toList typed.toList
  total := word.length + typed.length

/-- Whether a number of shared characters is enough. -/
def IsEnough (shared total : Nat) : Prop := 3 * total ≤ 10 * shared

instance (shared total : Nat) : Decidable (IsEnough shared total) := inferInstanceAs (Decidable (_ ≤ _))

/-- Whether a candidate comes before another one: closer words first, and of equally close ones the
last in the alphabet. -/
def precedes (c d : Candidate) : Bool :=
  d.shared * c.total < c.shared * d.total
    || (d.shared * c.total == c.shared * d.total && decide (d.word ≤ c.word))

end Candidate

/-- How many words are suggested at most. -/
def limit : Nat := 3

/-- The known words that are close to a mistyped one, in alphabetical order.  Words of too different
lengths are never close. -/
def close (known : List String) (typed : String) : List String :=
  let near := known.filter fun word =>
    Candidate.IsEnough (min word.length typed.length) (word.length + typed.length)
  let candidates := (near.map (Candidate.of typed)).filter fun c =>
    Candidate.IsEnough c.shared c.total
  ((candidates.mergeSort Candidate.precedes).take limit |>.map (·.word)).mergeSort
    fun s t => decide (s ≤ t)

/-- How suggestions are put into words. -/
def text : List String → String
  | [] => ""
  | [word] => " Did you mean '" ++ word ++ "'?"
  | words => " (Did you mean one of: "
    ++ String.intercalate ", " (words.map fun word => "'" ++ word ++ "'") ++ "?)"

end ReplayLedger.Suggestion
