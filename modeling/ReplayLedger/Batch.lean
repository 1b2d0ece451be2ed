import ReplayLedger.Ingestion
import ReplayLedger.Json.Reader
import ReplayLedger.Text.Lines

/-!
# Taking in a batch of payloads

A batch is a text with one payload a line.  Blank lines are skipped, but they count when lines are
numbered.  The first line that is refused ends the batch; what came before it stays.
-/

namespace ReplayLedger

/-- Why a line of a batch is refused. -/
inductive LineFault where
  /-- The line is no document. -/
  | unreadable (complaint : Json.Complaint) (position : Nat)
  /-- The document holds no payload that the store takes. -/
  | rejected (e : Error)
  deriving DecidableEq, Repr, Inhabited

/-- How a batch ends. -/
inductive BatchEnd where
  /-- All lines have been taken in; so many of them were not blank. -/
  | complete (count : Nat)
  /-- A line was refused. -/
  | stopped (line : String) (number : Nat) (fault : LineFault)
  deriving DecidableEq, Repr, Inhabited

/-- Why reading a document fails, as a fault of its line. -/
def Json.ReadError.toFault : Json.ReadError → LineFault
  | .syntaxError complaint position => .unreadable complaint position
  | .longNumeral digits => .rejected (.longNumeral digits)
  | .tooDeep isArray => .rejected (.tooDeep isArray)

namespace Store

/-- Takes in the payload of a line. -/
def applyLine (s : Store) (line : String) : Except LineFault Store := do
  let payload ← (Json.read line).mapError (·.toFault)
  let (_, s) ← (s.applyBlock payload).mapError .rejected
  return s

/-- Takes in lines, given how many have been read and how many of these were not blank. -/
def applyLines (s : Store) (read count : Nat) : List String → BatchEnd × Store
  | [] => (.complete count, s)
  | line :: rest =>
    if Text.IsBlankText line then s.applyLines (read + 1) count rest
    else
      match s.applyLine line with
      | .ok s => s.applyLines (read + 1) (count + 1) rest
      | .error fault => (.stopped line (read + 1) fault, s)

/-- Takes in a batch. -/
def applyBatch (s : Store) (text : String) : BatchEnd × Store :=
  s.applyLines 0 0 (Text.lines text)

end Store

end ReplayLedger
