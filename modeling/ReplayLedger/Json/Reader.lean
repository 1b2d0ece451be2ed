import ReplayLedger.Value

/-!
# Reading documents

A document is read as a raw value.  The reader walks over the characters of one text with a cursor
that counts them, so that every complaint names the place it is about.  Numbers with a fraction or
an exponent are floating point numbers; `NaN`, `Infinity` and `-Infinity` are taken too.  If a name
occurs twice in an object, the later value replaces the earlier one.
-/

namespace ReplayLedger.Json

/-- Why a text is no document. -/
inductive Complaint where
  | expectingValue
  | expectingName
  | expectingColon
  | expectingComma
  | extraData
  | unterminated
  | controlCharacter
  | badEscape
  | badUnitEscape
  | byteOrderMark
  deriving DecidableEq, Repr, Inhabited

/-- The wording of a complaint. -/
def Complaint.message : Complaint → String
  | expectingValue => "Expecting value"
  | expectingName => "Expecting property name enclosed in double quotes"
  | expectingColon => "Expecting ':' delimiter"
  | expectingComma => "Expecting ',' delimiter"
  | extraData => "Extra data"
  | unterminated => "Unterminated string starting at"
  | controlCharacter => "Invalid control character at"
  | badEscape => "Invalid \\escape"
  | badUnitEscape => "Invalid \\uXXXX escape"
  | byteOrderMark => "Unexpected UTF-8 BOM (decode using utf-8-sig)"

/-- Why reading fails: a complaint about a place, a numeral with too many digits, or an array or
object with too many others around it. -/
inductive ReadError where
  | syntaxError (complaint : Complaint) (position : Nat)
  | longNumeral (digits : Nat)
  | tooDeep (isArray : Bool)
  deriving DecidableEq, Repr, Inhabited

/-- A place in a text: how many characters stand before it, and those from it on. -/
structure Cursor where
  position : Nat
  rest : List Char

namespace Cursor

/-- The place `n` characters further. -/
def skip (c : Cursor) (n : Nat) : Cursor := ⟨c.position + n, c.rest.drop n⟩

/-- A complaint about the place. -/
def fail {α : Type} (c : Cursor) (complaint : Complaint) : Except ReadError α :=
  .error (.syntaxError complaint c.position)

end Cursor

/-- The four blanks that may stand between the parts of a document. -/
def isGap (c : Char) : Bool :=
  c == ' ' || c == '\t' || c == '\n' || c == '\r'

/-- Skips blanks. -/
def skipGaps (c : Cursor) : Cursor :=
  c.skip (c.rest.takeWhile isGap).length

/-- The value of exactly four hexadecimal digits. -/
def unit? : List Char → Option Nat
  | [a, b, c, d] => do
    let a ← Hex.digitValue? a
    let b ← Hex.digitValue? b
    let c ← Hex.digitValue? c
    let d ← Hex.digitValue? d
    return ((a * 16 + b) * 16 + c) * 16 + d
  | _ => none

/-- The character of an escape of one letter. -/
def escaped? : Char → Option Char
  | '"' => some '"'
  | '\\' => some '\\'
  | '/' => some '/'
  | 'b' => some '\x08'
  | 'f' => some '\x0c'
  | 'n' => some '\n'
  | 'r' => some '\r'
  | 't' => some '\t'
  | _ => none

/-- The first of the two units that write a character beyond the basic plane. -/
def isHighUnit (n : Nat) : Bool := 0xD800 ≤ n && n ≤ 0xDBFF

/-- The second of the two units that write a character beyond the basic plane. -/
def isLowUnit (n : Nat) : Bool := 0xDC00 ≤ n && n ≤ 0xDFFF

/-- Reads a unit escape whose `u` the cursor is at: the code point and how many characters of the
text it takes.  A high unit joins with a low unit that follows at once.  The escape must not end the
text. -/
def readUnit (c : Cursor) : Except ReadError (Nat × Nat) :=
  let digits := (c.rest.drop 1).take 4
  if (c.rest.drop 5).isEmpty then c.fail .badUnitEscape
  else match unit? digits with
    | none => c.fail .badUnitEscape
    | some n =>
      let next := c.rest.drop 5
      if isHighUnit n ∧ next.drop 6 ≠ [] ∧ next.take 2 = ['\\', 'u'] then
        match unit? ((next.drop 2).take 4) with
        | none => (c.skip 6).fail .badUnitEscape
        | some m =>
          if isLowUnit m then
            .ok (0x10000 + (n - 0xD800) * 0x400 + (m - 0xDC00), 11)
          else .ok (n, 5)
      else .ok (n, 5)

/-- Reads the code points of a text up to the closing quote, which is consumed.  The text was opened
at `start`; every round consumes a character, so a fuel of their number is enough. -/
def readCodes (start : Nat) : Nat → List Nat → Cursor → Except ReadError (List Nat × Cursor)
  | 0, _, _ => .error (.syntaxError .unterminated start)
  | fuel + 1, read, c =>
    match c.rest with
    | [] => .error (.syntaxError .unterminated start)
    | '"' :: _ => .ok (read.reverse, c.skip 1)
    | ['\\'] => .error (.syntaxError .unterminated start)
    | '\\' :: 'u' :: _ => do
      let (code, length) ← readUnit (c.skip 1)
      readCodes start fuel (code :: read) (c.skip (1 + length))
    | '\\' :: letter :: _ =>
      match escaped? letter with
      | some char => readCodes start fuel (char.toNat :: read) (c.skip 2)
      | none => c.fail .badEscape
    | char :: _ =>
      if char.toNat < 0x20 then c.fail .controlCharacter
      else readCodes start fuel (char.toNat :: read) (c.skip 1)

/-- Reads a text whose opening quote the cursor is at.  It need not be well formed. -/
def readText (fuel : Nat) (c : Cursor) : Except ReadError (Except IllFormed String × Cursor) := do
  let (codes, next) ← readCodes c.position fuel [] (c.skip 1)
  return (Text.ofCodes codes, next)

/-- The value that a text is. -/
def textValue : Except IllFormed String → Value
  | .ok s => .text s
  | .error t => .illFormed t

/-- The digits of the whole part of a numeral: a single zero, or digits that do not start with
one. -/
def wholePart (cs : List Char) : List Char :=
  match cs with
  | '0' :: _ => ['0']
  | cs => cs.takeWhile Char.isDigit

/-- A point and the digits behind it, if there are any. -/
def fractionPart (cs : List Char) : List Char :=
  match cs with
  | '.' :: rest =>
    let digits := rest.takeWhile Char.isDigit
    if digits.isEmpty then [] else '.' :: digits
  | _ => []

/-- An exponent, if there is a complete one. -/
def exponentPart (cs : List Char) : List Char :=
  match cs with
  | e :: rest =>
    if e = 'e' ∨ e = 'E' then
      let (sign, digits) := match rest with
        | '-' :: more => (['-'], more.takeWhile Char.isDigit)
        | '+' :: more => (['+'], more.takeWhile Char.isDigit)
        | more => ([], more.takeWhile Char.isDigit)
      if digits.isEmpty then [] else e :: sign ++ digits
    else []
  | [] => []

/-- Reads a number. -/
def readNumber (c : Cursor) : Except ReadError (Value × Cursor) :=
  let negative := c.rest.head? = some '-'
  let signLength := if negative then 1 else 0
  let body := c.rest.drop signLength
  let whole := wholePart body
  if whole.isEmpty then c.fail .expectingValue
  else
    let fraction := fractionPart (body.drop whole.length)
    let exponent := exponentPart (body.drop (whole.length + fraction.length))
    let next := c.skip (signLength + whole.length + fraction.length + exponent.length)
    if fraction.isEmpty ∧ exponent.isEmpty then
      if Numeral.maxDigits < whole.length then .error (.longNumeral whole.length)
      else match Numeral.magnitude? Numeral.asciiValue? whole with
        | some n => .ok (.int (Numeral.signed negative n), next)
        | none => c.fail .expectingValue
    else match Binary64.readDecimal? negative whole (fraction ++ exponent) with
      | some x => .ok (.float x, next)
      | none => c.fail .expectingValue

/-- The words that stand for a value. -/
def words : List (List Char × Value) :=
  [("null".toList, .null), ("true".toList, .bool true), ("false".toList, .bool false),
    ("NaN".toList, .float .nan), ("Infinity".toList, .float (.infinite false)),
    ("-Infinity".toList, .float (.infinite true))]

/-- Gives a field a value: the field keeps its place if the name occurs already.  A name that is not
well formed is dropped with its value, since nothing can ask for it. -/
def putField (fields : List (String × Value)) (name : Except IllFormed String) (v : Value) :
    List (String × Value) :=
  match name with
  | .error _ => fields
  | .ok name =>
    if fields.any (·.1 = name) then
      fields.map fun field => if field.1 = name then (name, v) else field
    else fields ++ [(name, v)]

/-- How many arrays and objects may lie inside each other. -/
def maxDepth : Nat := 985

mutual

/-- Reads a value at the cursor, with so many levels still to go.  Of two rounds one inside the
other at least one consumes a character, so twice the length of the text bounds their number, and
what is left of that bound is enough for the texts inside. -/
def readValue : Nat → Nat → Cursor → Except ReadError (Value × Cursor)
  | 0, _, c => c.fail .expectingValue
  | fuel + 1, levels, c =>
    match c.rest with
    | [] => c.fail .expectingValue
    | '"' :: _ => do
      let (s, next) ← readText fuel c
      return (textValue s, next)
    | '\x7b' :: _ =>
      match levels with
      | 0 => .error (.tooDeep false)
      | levels + 1 =>
        let inside := skipGaps (c.skip 1)
        if inside.rest.head? = some '\x7d' then .ok (.record [], inside.skip 1)
        else readFields fuel levels [] inside
    | '[' :: _ =>
      match levels with
      | 0 => .error (.tooDeep true)
      | levels + 1 =>
        let inside := skipGaps (c.skip 1)
        if inside.rest.head? = some ']' then .ok (.list [], inside.skip 1)
        else readItems fuel levels [] inside
    | cs =>
      match words.find? fun (word, _) => word.isPrefixOf cs with
      | some (word, v) => .ok (v, c.skip word.length)
      | none => readNumber c

/-- Reads the fields of an object from a name on, up to the closing brace. -/
def readFields : Nat → Nat → List (String × Value) → Cursor → Except ReadError (Value × Cursor)
  | 0, _, _, c => c.fail .expectingName
  | fuel + 1, levels, fields, c =>
    if c.rest.head? = some '"' then do
      let (name, afterName) ← readText fuel c
      let colon := skipGaps afterName
      if colon.rest.head? = some ':' then
        let (v, afterValue) ← readValue fuel levels (skipGaps (colon.skip 1))
        let fields := putField fields name v
        let stop := skipGaps afterValue
        match stop.rest with
        | '\x7d' :: _ => return (.record fields, stop.skip 1)
        | ',' :: _ => readFields fuel levels fields (skipGaps (stop.skip 1))
        | _ => stop.fail .expectingComma
      else colon.fail .expectingColon
    else c.fail .expectingName

/-- Reads the items of an array from an item on, up to the closing bracket; those read so far are
given, the last one first. -/
def readItems : Nat → Nat → List Value → Cursor → Except ReadError (Value × Cursor)
  | 0, _, _, c => c.fail .expectingValue
  | fuel + 1, levels, items, c => do
    let (v, afterValue) ← readValue fuel levels c
    let items := v :: items
    let stop := skipGaps afterValue
    match stop.rest with
    | ']' :: _ => return (.list items.reverse, stop.skip 1)
    | ',' :: _ => readItems fuel levels items (skipGaps (stop.skip 1))
    | _ => stop.fail .expectingComma

end

/-- Reads a text that holds one document and nothing else. -/
def read (s : String) : Except ReadError Value := do
  let start : Cursor := ⟨0, s.toList⟩
  if start.rest.head? = some '\ufeff' then start.fail .byteOrderMark
  else
    let (v, next) ← readValue (2 * start.rest.length + 2) maxDepth (skipGaps start)
    let stop := skipGaps next
    if stop.rest.isEmpty then return v else stop.fail .extraData

/-- The wording of a complaint about a place: its line, its column and its position, the first two
counted from one. -/
def ReadError.describe (s : String) (complaint : Complaint) (position : Nat) : String :=
  let before := s.toList.take position
  let line := (before.filter (· = '\n')).length + 1
  let column := (before.reverse.takeWhile (· ≠ '\n')).length + 1
  complaint.message ++ ": line " ++ Numeral.ofInt line ++ " column " ++ Numeral.ofInt column
    ++ " (char " ++ Numeral.ofInt position ++ ")"

end ReplayLedger.Json
