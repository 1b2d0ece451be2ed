/-!
# Control sequences

A control sequence tells a terminal to change colours or to move its cursor: the escape character
and an opening bracket, then parameters, then intermediate characters, then one final character.
What is shown is plain text, so control sequences are taken out of it, and line ends are single line
feeds.
-/

namespace ReplayLedger.Text

/-- Whether a character lies in a range of code points. -/
def isWithin (low high : Nat) (c : Char) : Bool := low ≤ c.toNat && c.toNat ≤ high

/-- What follows the control sequence that a text starts with. -/
def afterControl? : List Char → Option (List Char)
  | '\x1b' :: '[' :: rest =>
    match (rest.dropWhile (isWithin 0x30 0x3F)).dropWhile (isWithin 0x20 0x2F) with
    | c :: rest => if isWithin 0x40 0x7E c then some rest else none
    | [] => none
  | _ => none

/-- A control sequence takes up characters. -/
theorem length_lt_of_afterControl? {cs rest : List Char} (h : afterControl? cs = some rest) :
    rest.length < cs.length := by
  unfold afterControl? at h
  split at h
  next more =>
    have short (p q : Char → Bool) : ((more.dropWhile p).dropWhile q).length ≤ more.length :=
      Nat.le_trans (List.dropWhile_suffix q).length_le (List.dropWhile_suffix p).length_le
    split at h
    next c tail hs =>
      have := hs ▸ short (isWithin 0x30 0x3F) (isWithin 0x20 0x2F)
      split at h <;> simp_all
      omega
    next => simp at h
  next => simp at h

/-- Takes control sequences out. -/
def dropControls : List Char → List Char
  | [] => []
  | c :: rest =>
    match _found : afterControl? (c :: rest) with
    | some tail => dropControls tail
    | none => c :: dropControls rest
  termination_by cs => cs.length
  decreasing_by
    · exact length_lt_of_afterControl? _found
    · simp

/-- A text without control sequences. -/
def plain (s : String) : String := String.ofList (dropControls s.toList)

/-- Writes every pair of a carriage return and a line feed as a line feed. -/
def joinBreaks : List Char → List Char
  | '\r' :: '\n' :: rest => '\n' :: joinBreaks rest
  | c :: rest => c :: joinBreaks rest
  | [] => []

/-- A text whose lines end with single line feeds. -/
def withJoinedBreaks (s : String) : String := String.ofList (joinBreaks s.toList)

end ReplayLedger.Text
