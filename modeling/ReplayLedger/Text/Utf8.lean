import ReplayLedger.Text.Hex

/-!
# Text as bytes

Bytes that are not valid UTF-8 can be decoded too: every stretch that starts a character and does
not end it, and every byte that starts none, is shown by the replacement character.
-/

namespace ReplayLedger.Utf8

/-- The UTF-8 bytes of a text. -/
def encode (s : String) : Bytes :=
  s.toUTF8.data.toList

/-- The text whose UTF-8 bytes are given, if they are valid. -/
def decode? (bs : Bytes) : Option String :=
  String.fromUTF8? ⟨bs.toArray⟩

/-- What a first byte above ASCII announces: the bits it adds, how many bytes follow, and the range
of the first of these. -/
def announced? (b : Nat) : Option (Nat × Nat × Nat × Nat) :=
  if 0xC2 ≤ b ∧ b ≤ 0xDF then some (b % 32, 1, 0x80, 0xBF)
  else if b = 0xE0 then some (0, 2, 0xA0, 0xBF)
  else if b = 0xED then some (b % 16, 2, 0x80, 0x9F)
  else if 0xE1 ≤ b ∧ b ≤ 0xEF then some (b % 16, 2, 0x80, 0xBF)
  else if b = 0xF0 then some (0, 3, 0x90, 0xBF)
  else if 0xF1 ≤ b ∧ b ≤ 0xF3 then some (b % 8, 3, 0x80, 0xBF)
  else if b = 0xF4 then some (4, 3, 0x80, 0x8F)
  else none

/-- Reads the bytes that follow a first byte, of which the next one lies in a range.  The result is
the code point, if all are there, and what comes behind them. -/
def follow : Nat → Nat → Nat → Nat → Bytes → Option Nat × Bytes
  | 0, _, _, value, rest => (some value, rest)
  | _ + 1, _, _, _, [] => (none, [])
  | n + 1, low, high, value, b :: rest =>
    if low ≤ b.toNat ∧ b.toNat ≤ high then follow n 0x80 0xBF (64 * value + b.toNat % 64) rest
    else (none, b :: rest)

/-- Following bytes are taken off the front. -/
theorem length_follow_le (n low high value : Nat) (bs : Bytes) :
    (follow n low high value bs).2.length ≤ bs.length := by
  induction bs generalizing n low high value with
  | nil => cases n <;> simp [follow]
  | cons b rest ih =>
    cases n with
    | zero => simp [follow]
    | succ n =>
      unfold follow
      split
      · exact Nat.le_succ_of_le (ih n 0x80 0xBF _)
      · simp

/-- The character that stands for bytes without a meaning. -/
def replacement : Char := Char.ofNat 0xFFFD

/-- The characters that bytes stand for. -/
def decodeChars : Bytes → List Char
  | [] => []
  | b :: rest =>
    if b.toNat < 0x80 then Char.ofNat b.toNat :: decodeChars rest
    else
      match announced? b.toNat with
      | none => replacement :: decodeChars rest
      | some (value, n, low, high) =>
        let code := (follow n low high value rest).1
        (code.map Char.ofNat).getD replacement :: decodeChars (follow n low high value rest).2
  termination_by bs => bs.length
  decreasing_by
    · simp
    · simp
    · have := length_follow_le n low high value rest
      simp; omega

/-- The text that bytes stand for. -/
def decodeLossy (bs : Bytes) : String := String.ofList (decodeChars bs)

/-- Why bytes are not valid. -/
inductive Reason where
  | badStart
  | badContinuation
  | earlyEnd
  deriving DecidableEq, Repr, Inhabited

/-- The bytes from `start` up to, but without, `stop` are not valid. -/
structure Fault where
  start : Nat
  stop : Nat
  reason : Reason
  deriving DecidableEq, Repr, Inhabited

/-- The first fault of bytes that stand behind `start` others. -/
def faultFrom? (start : Nat) : Bytes → Option Fault
  | [] => none
  | b :: rest =>
    if b.toNat < 0x80 then faultFrom? (start + 1) rest
    else
      match announced? b.toNat with
      | none => some ⟨start, start + 1, .badStart⟩
      | some (value, n, low, high) =>
        let stop := start + 1 + (rest.length - (follow n low high value rest).2.length)
        match (follow n low high value rest).1, (follow n low high value rest).2 with
        | some _, _ => faultFrom? stop (follow n low high value rest).2
        | none, [] => some ⟨start, stop, .earlyEnd⟩
        | none, _ => some ⟨start, stop, .badContinuation⟩
  termination_by bs => bs.length
  decreasing_by
    · simp
    · have := length_follow_le n low high value rest
      simp; omega

/-- The first fault of bytes. -/
def fault? (bs : Bytes) : Option Fault := faultFrom? 0 bs

end ReplayLedger.Utf8
