/-!
# Lines and columns

A text is cut into lines at every line feed, carriage return, or pair of both.  A line keeps its
end, as one line feed; only the last line may be without one.  A column is a text filled up with
spaces to a number of characters.
-/

namespace ReplayLedger.Text

/-- Writes every line end as one line feed. -/
def normalizeBreaks : List Char → List Char
  | '\r' :: '\n' :: rest => '\n' :: normalizeBreaks rest
  | '\r' :: rest => '\n' :: normalizeBreaks rest
  | c :: rest => c :: normalizeBreaks rest
  | [] => []

/-- Puts a character in front of the first line. -/
def consLine (c : Char) : List (List Char) → List (List Char)
  | [] => [[c]]
  | line :: lines => (c :: line) :: lines

/-- Cuts characters behind every line feed. -/
def splitLines : List Char → List (List Char)
  | [] => []
  | c :: rest => if c = '\n' then ['\n'] :: splitLines rest else consLine c (splitLines rest)

/-- The lines of a text. -/
def lines (s : String) : List String :=
  (splitLines (normalizeBreaks s.toList)).map String.ofList

/-- A line without its end. -/
def withoutBreak (line : String) : String :=
  String.ofList (line.toList.filter (· ≠ '\n'))

/-- A text at the left of a column. -/
def alignLeft (width : Nat) (s : String) : String :=
  s ++ String.ofList (List.replicate (width - s.length) ' ')

/-- A text at the right of a column. -/
def alignRight (width : Nat) (s : String) : String :=
  String.ofList (List.replicate (width - s.length) ' ') ++ s

end ReplayLedger.Text
