/-!
# Capital letters

Keywords (runtime kinds, journal modes, log levels) are matched after the text has been put into
capital letters.  All keywords are ASCII, so a character matters only if its capital form is ASCII.
Beside the ASCII letters themselves the characters with an ASCII capital form are the ten of
`capital`.  Every other character stays as it is: its capital form is not ASCII either, and so never
part of a keyword.
-/

namespace ReplayLedger.Text

/-- The capital form of a character, where that form is ASCII. -/
def capital (c : Char) : List Char :=
  match c with
  | 'ß' => ['S', 'S']
  | 'ı' => ['I']
  | 'ſ' => ['S']
  | 'ﬀ' => ['F', 'F']
  | 'ﬁ' => ['F', 'I']
  | 'ﬂ' => ['F', 'L']
  | 'ﬃ' => ['F', 'F', 'I']
  | 'ﬄ' => ['F', 'F', 'L']
  | 'ﬅ' => ['S', 'T']
  | 'ﬆ' => ['S', 'T']
  | c => [c.toUpper]

/-- A text in capital letters, for matching with an ASCII keyword. -/
def capitals (s : String) : String :=
  String.ofList (s.toList.flatMap capital)

end ReplayLedger.Text
