import ReplayLedger.Text.Quoted
import ReplayLedger.Text.Numeral

/-!
# Texts that are not well formed

A document may name a UTF-16 unit by its number, and so it may name a *surrogate* without its
partner: a code point that no character has.  Such a text can be held and quoted, but no encoding
writes it.
-/

namespace ReplayLedger

/-- A text, by its code points, of which some are surrogates. -/
structure IllFormed where
  codes : List Nat
  deriving DecidableEq, Repr, Inhabited

namespace Text

/-- The code points that stand for half a character only. -/
def isSurrogate (n : Nat) : Bool := 0xD800 ≤ n && n ≤ 0xDFFF

/-- The text with given code points, if none of them is a surrogate. -/
def ofCodes (codes : List Nat) : Except IllFormed String :=
  if codes.any isSurrogate then .error ⟨codes⟩ else .ok (String.ofList (codes.map Char.ofNat))

end Text

namespace IllFormed

/-- How many code points stand before the first surrogate. -/
def start (t : IllFormed) : Nat := (t.codes.takeWhile fun n => !Text.isSurrogate n).length

/-- The first surrogate and those that follow it at once. -/
def run (t : IllFormed) : List Nat := (t.codes.drop t.start).takeWhile Text.isSurrogate

/-- Why the text cannot be encoded: its first row of surrogates. -/
def complaint (t : IllFormed) : String :=
  let which := match t.run with
    | [n] => "character '" ++ String.ofList (Quoted.code n) ++ "' in position " ++ Numeral.ofInt t.start
    | run => "characters in position " ++ Numeral.ofInt t.start ++ "-"
        ++ Numeral.ofInt (t.start + run.length - 1)
  "'utf-8' codec can't encode " ++ which ++ ": surrogates not allowed"

/-- The text in quotes, with surrogates by their codes. -/
def quoted (t : IllFormed) : String :=
  let quote := Quoted.quoteFor (t.codes.map Char.ofNat)
  let body := t.codes.flatMap fun n =>
    if Text.isSurrogate n then Quoted.code n
    else Quoted.escape Text.isPrintable quote (Char.ofNat n)
  String.ofList (quote :: body ++ [quote])

end IllFormed

end ReplayLedger
