import ReplayLedger.Payload
import ReplayLedger.Record
import ReplayLedger.Store.Document
import Mathlib.Data.List.Basic
import Mathlib.Tactic.SplitIfs

/-!
# Spellings of byte strings

A byte string has many spellings in hexadecimal text: with and without a marker, with digits of either
case, with white space anywhere but inside a pair.  `Hex.Spells` says which characters spell which
bytes, pair by pair, and `Hex.Denotes` adds the marker.

Reading accepts exactly the spellings, each as the bytes it spells (`Hex.read?_eq_some_iff`), and it
takes back what is written (`Hex.read?_spaced`), whatever the case of the digits and the gaps between
the pairs.  So no two byte strings are written alike.

Main statement: `Argument.hex_exact`.
-/

namespace ReplayLedger

namespace Hex

/-! ## The grammar -/

/-- The characters that may stand between pairs. -/
def spaces : List Char := [' ', '\t', '\n', '\x0b', '\x0c', '\r']

/-- The digits in small letters, by their values. -/
def smallDigits : List Char :=
  ['0', '1', '2', '3', '4', '5', '6', '7', '8', '9', 'a', 'b', 'c', 'd', 'e', 'f']

/-- The digits in capital letters, by their values. -/
def capitalDigits : List Char :=
  ['0', '1', '2', '3', '4', '5', '6', '7', '8', '9', 'A', 'B', 'C', 'D', 'E', 'F']

/-- A character is the digit of a value. -/
def IsDigit (c : Char) (value : Nat) : Prop :=
  smallDigits[value]? = some c ∨ capitalDigits[value]? = some c

/-- Characters spell bytes: pairs of digits, high half first, with any white space around them. -/
inductive Spells : List Char → Bytes → Prop
  | nil : Spells [] []
  | space {c : Char} {cs : List Char} {bs : Bytes} (isSpace : c ∈ spaces) :
    Spells cs bs → Spells (c :: cs) bs
  | pair {c d : Char} {cs : List Char} {b : UInt8} {bs : Bytes} (high : IsDigit c (b.toNat / 16))
    (low : IsDigit d (b.toNat % 16)) : Spells cs bs → Spells (c :: d :: cs) (b :: bs)

/-- The markers: none at all, or one of the two. -/
def markers : List (List Char) := [[], ['0', 'x'], ['0', 'X']]

/-- A text denotes bytes: behind a marker at the very start, its characters spell them. -/
def Denotes (s : String) (bs : Bytes) : Prop :=
  ∃ marker ∈ markers, ∃ body, s.toList = marker ++ body ∧ Spells body bs

/-! ## Reading -/

instance (c : Char) (value : Nat) : Decidable (IsDigit c value) := inferInstanceAs (Decidable (_ ∨ _))

/-- What holds of all ASCII characters holds of a character whose code is one of theirs. -/
lemma of_ascii {p : Char → Prop} {c : Char} (hc : c.toNat < 128)
    (h : ∀ n < 128, p (Char.ofNat n)) : p c := by
  have hp := h c.toNat hc
  rwa [Char.ofNat_toNat] at hp

/-- The spaces between the pairs are these six characters. -/
lemma isSpace_iff {c : Char} : isSpace c = true ↔ c ∈ spaces := by
  constructor
  · intro h
    have hc : c.toNat < 128 := by
      simp only [isSpace, Bool.or_eq_true, Bool.and_eq_true, decide_eq_true_eq, beq_iff_eq] at h
      rcases h with h | rfl
      · omega
      · decide
    revert h
    exact of_ascii (p := fun c => isSpace c = true → c ∈ spaces) hc (by decide)
  · have hall : spaces.all isSpace = true := by decide
    exact List.all_eq_true.1 hall c

/-- A digit has a value below sixteen. -/
lemma IsDigit.lt {c : Char} {value : Nat} (h : IsDigit c value) : value < 16 := by
  rcases h with h | h <;> exact (List.getElem?_eq_some_iff.1 h).1

/-- A character is read as the digit that it is. -/
lemma digitValue?_eq_some_iff {c : Char} {value : Nat} :
    digitValue? c = some value ↔ IsDigit c value := by
  constructor
  · intro h
    have hc : c.toNat < 128 := by
      simp only [digitValue?] at h
      split_ifs at h <;> omega
    have hdigits := of_ascii (p := fun c => ∀ v ∈ digitValue? c, IsDigit c v) hc (by decide)
    exact hdigits value h
  · intro h
    have hread {digits : List Char} (hdigits : digits.map digitValue? = (List.range 16).map some)
        (hc : digits[value]? = some c) : digitValue? c = some value := by
      have hvalue := congrArg (·[value]?) hdigits
      simpa [hc, List.getElem?_range h.lt] using hvalue
    rcases h with hsmall | hcapital
    · exact hread (by decide) hsmall
    · exact hread (by decide) hcapital

/-- No digit is white space. -/
lemma IsDigit.isSpace_eq_false {c : Char} {value : Nat} (h : IsDigit c value) : isSpace c = false := by
  have hspaces : spaces.all (digitValue? · = none) = true := by decide
  rw [← Bool.not_eq_true, isSpace_iff]
  intro hspace
  have hnone := of_decide_eq_true (List.all_eq_true.1 hspaces c hspace)
  rw [← digitValue?_eq_some_iff, hnone] at h
  cases h

/-- A byte is put together from its two halves. -/
lemma ofNat_halves (b : UInt8) : UInt8.ofNat (16 * (b.toNat / 16) + b.toNat % 16) = b := by
  rw [Nat.div_add_mod, UInt8.ofNat_toNat]

/-- Two halves make a byte that has them. -/
lemma toNat_of_halves {high low : Nat} (hhigh : high < 16) (hlow : low < 16) :
    (UInt8.ofNat (16 * high + low)).toNat / 16 = high ∧
      (UInt8.ofNat (16 * high + low)).toNat % 16 = low := by
  have hbyte : (UInt8.ofNat (16 * high + low)).toNat = 16 * high + low := by
    rw [UInt8.toNat_ofNat']
    exact Nat.mod_eq_of_lt (by omega)
  omega

/-- Reading takes white space off the front. -/
lemma readPairs_space {c : Char} {cs : List Char} (h : isSpace c = true) :
    readPairs (c :: cs) = readPairs cs := by
  cases cs with
  | nil => simp [readPairs, h]
  | cons d rest => simp [readPairs, h]

/-- Characters that spell bytes are read as these. -/
lemma Spells.readPairs_eq {cs : List Char} {bs : Bytes} (h : Spells cs bs) :
    readPairs cs = some bs := by
  induction h with
  | nil => rfl
  | space hspace _ ih => rw [readPairs_space (isSpace_iff.2 hspace), ih]
  | pair high low _ ih =>
    simp only [readPairs, high.isSpace_eq_false, digitValue?_eq_some_iff.2 high,
      digitValue?_eq_some_iff.2 low, ih, Option.bind_eq_bind, Option.bind_some, Option.pure_def,
      ofNat_halves, Bool.false_eq_true, if_false]

/-- Reading pairs accepts exactly what is spelled. -/
lemma readPairs_eq_some_iff {cs : List Char} {bs : Bytes} :
    readPairs cs = some bs ↔ Spells cs bs := by
  refine ⟨fun h => ?_, Spells.readPairs_eq⟩
  -- a space may come before a pair, never between its two digits
  fun_induction readPairs cs generalizing bs with
  | case1 =>
    obtain rfl := Option.some.inj h
    exact .nil
  | case2 c hspace =>
    obtain rfl := Option.some.inj h
    exact .space (isSpace_iff.1 hspace) .nil
  | case3 => cases h
  | case4 c d rest hspace ih => exact .space (isSpace_iff.1 hspace) (ih h)
  | case5 c d rest hspace ih =>
    simp only [Option.bind_eq_bind, Option.bind_eq_some_iff, Option.pure_def, Option.some.injEq] at h
    obtain ⟨high, hhigh, low, hlow, bytes, hbytes, rfl⟩ := h
    rw [digitValue?_eq_some_iff] at hhigh hlow
    obtain ⟨hhalf, hhalf'⟩ := toNat_of_halves hhigh.lt hlow.lt
    exact .pair (by rwa [hhalf]) (by rwa [hhalf']) (ih hbytes)

/-- Nothing that is spelled starts with a marker, since the letter in it is no digit. -/
lemma Spells.not_marked {x : Char} {cs : List Char} {bs : Bytes} (hx : x = 'x' ∨ x = 'X') :
    ¬ Spells ('0' :: x :: cs) bs := by
  intro h
  cases h with
  | space hspace => exact absurd hspace (by decide)
  | pair high low =>
    have hletter : digitValue? x = none := by rcases hx with rfl | rfl <;> rfl
    rw [← digitValue?_eq_some_iff, hletter] at low
    cases low

/-- A text is read as bytes exactly if it denotes them. -/
lemma read?_eq_some_iff {s : String} {bs : Bytes} : read? s = some bs ↔ Denotes s bs := by
  rw [read?, readPairs_eq_some_iff]
  constructor
  · intro h
    generalize hcs : s.toList = cs at h
    unfold dropMarker at h
    split at h
    · exact ⟨['0', 'x'], by decide, _, hcs, h⟩
    · exact ⟨['0', 'X'], by decide, _, hcs, h⟩
    · exact ⟨[], by decide, _, hcs, h⟩
  · rintro ⟨marker, hmarker, body, hs, hspells⟩
    rw [hs]
    simp only [markers, List.mem_cons, List.not_mem_nil, or_false] at hmarker
    rcases hmarker with rfl | rfl | rfl
    -- without a marker: what is spelled cannot begin with one
    · rw [List.nil_append]
      unfold dropMarker
      split
      · exact absurd hspells (Spells.not_marked (.inl rfl))
      · exact absurd hspells (Spells.not_marked (.inr rfl))
      · exact hspells
    · exact hspells
    · exact hspells

/-! ## Writing -/

/-- A letter as it is, or as a capital. -/
def inCase (capital : Bool) (c : Char) : Char := if capital then c.toUpper else c

/-- The digits of bytes in either case, with a gap behind each pair. -/
def spaced (capital : Bool) (rows : List (UInt8 × List Char)) : List Char :=
  rows.flatMap fun (b, gap) => (pair b).map (inCase capital) ++ gap

/-- A digit that is written in either case is one. -/
lemma isDigit_inCase (capital : Bool) {value : Nat} (h : value < 16) :
    IsDigit (inCase capital (digit value)) value := by
  have hdigits : ∀ v < 16, IsDigit (inCase capital (digit v)) v := by cases capital <;> decide
  exact hdigits value h

/-- White space in front changes nothing. -/
lemma Spells.gap_append {gap cs : List Char} {bs : Bytes} (hgap : ∀ c ∈ gap, c ∈ spaces)
    (h : Spells cs bs) : Spells (gap ++ cs) bs := by
  induction gap with
  | nil => exact h
  | cons c rest ih =>
    exact .space (hgap c List.mem_cons_self) (ih fun d hd => hgap d (List.mem_cons_of_mem _ hd))

/-- Digits of either case spell their bytes, whatever the gaps between the pairs. -/
lemma spells_spaced (capital : Bool) {rows : List (UInt8 × List Char)}
    (hgaps : ∀ row ∈ rows, ∀ c ∈ row.2, c ∈ spaces) :
    Spells (spaced capital rows) (rows.map (·.1)) := by
  induction rows with
  | nil => exact .nil
  | cons row rest ih =>
    obtain ⟨b, gap⟩ := row
    have hrest := ih fun row hrow => hgaps row (List.mem_cons_of_mem _ hrow)
    have hspells := hrest.gap_append (hgaps (b, gap) List.mem_cons_self)
    have hhigh : b.toNat / 16 < 16 := by
      have := b.toNat_lt
      omega
    have hpair := Spells.pair (isDigit_inCase capital hhigh)
      (isDigit_inCase capital (Nat.mod_lt b.toNat (by decide))) hspells
    simpa [spaced, pair] using hpair

/-- Without gaps, digits are as they are written. -/
lemma digits_eq_spaced (bs : Bytes) : digits bs = spaced false (bs.map fun b => (b, [])) := by
  have hcase : inCase false = id := rfl
  simp [digits, spaced, hcase, List.flatMap_map]

/-- What is written is read as the bytes it was written from. -/
lemma read?_spaced (capital : Bool) {marker lead : List Char} {rows : List (UInt8 × List Char)}
    (hmarker : marker ∈ markers) (hlead : ∀ c ∈ lead, c ∈ spaces)
    (hgaps : ∀ row ∈ rows, ∀ c ∈ row.2, c ∈ spaces) :
    read? (String.ofList (marker ++ lead ++ spaced capital rows)) = some (rows.map (·.1)) := by
  rw [read?_eq_some_iff]
  refine ⟨marker, hmarker, lead ++ spaced capital rows, ?_, ?_⟩
  · rw [String.toList_ofList, List.append_assoc]
  · exact (spells_spaced capital hgaps).gap_append hlead

/-- Bytes that have been written with the mark are read back. -/
@[simp] lemma read?_marked (bs : Bytes) : read? (marked bs) = some bs := by
  have hmarker : ['0', 'x'] ∈ markers := by decide
  have hgaps : ∀ row ∈ bs.map fun b => (b, []), ∀ c ∈ row.2, c ∈ spaces := by simp
  have hread := read?_spaced false hmarker (List.forall_mem_nil _) hgaps
  simpa [marked, digits_eq_spaced, Function.comp_def] using hread

/-- No two byte strings are written alike. -/
lemma marked_injective {bs bs' : Bytes} (h : marked bs = marked bs') : bs = bs' := by
  have hread := read?_marked bs
  rw [h, read?_marked] at hread
  exact (Option.some.inj hread).symm

end Hex

/-- A document shows, under a name, a text that is read as a byte string. -/
def Json.ShowsBytes (document : Json) (name : String) (data : Bytes) : Prop :=
  ∃ fields t, document = .object fields ∧ (name, .text t) ∈ fields ∧ Argument.hex t = .ok data

namespace Argument

/-- A text passes exactly if it denotes bytes. -/
lemma hex_eq_ok_iff {s : String} {bs : Bytes} : hex s = .ok bs ↔ Hex.Denotes s bs := by
  rw [hex, require_eq_ok, Hex.read?_eq_some_iff]

/-- A text that denotes no bytes is quoted in the error. -/
lemma hex_eq_error_of {s : String} (h : ∀ bs, ¬ Hex.Denotes s bs) : hex s = .error (.badHex s) := by
  cases hread : Hex.read? s with
  | none => rw [hex, hread, require]
  | some bs => exact absurd (Hex.read?_eq_some_iff.1 hread) (h bs)

/-- A text that was written for bytes passes. -/
lemma hex_marked (bs : Bytes) : hex (Hex.marked bs) = .ok bs := by
  rw [hex, Hex.read?_marked, require]

/-- The hexadecimal texts that are taken are exactly the spellings of byte strings: an optional marker
at the very start, and behind it pairs of digits of either case with white space around the pairs.
Each is taken for the bytes that its pairs stand for, in order; any other text is refused by an error
that quotes it.  Bytes written in either case, with a marker or without one and with any gaps between
the pairs, are taken for themselves, and so are the byte strings that documents show. -/
theorem hex_exact :
    (∀ (s : String) (bs : Bytes), hex s = .ok bs ↔ Hex.Denotes s bs) ∧
      (∀ s : String, (∀ bs, ¬ Hex.Denotes s bs) → ∃ e, hex s = .error e ∧ e.kind = .validation ∧
        e.message = "Invalid hex string: " ++ Quoted.text s) ∧
      (∀ t : IllFormed, Payload.hexBytes (.illFormed t) =
        .error [⟨[], .notHex ("Invalid hex string: " ++ t.quoted)⟩]) ∧
      (∀ (capital : Bool) (marker lead : List Char) (rows : List (UInt8 × List Char)),
        marker ∈ Hex.markers → (∀ c ∈ lead, c ∈ Hex.spaces) →
        (∀ row ∈ rows, ∀ c ∈ row.2, c ∈ Hex.spaces) →
        hex (String.ofList (marker ++ lead ++ Hex.spaced capital rows)) = .ok (rows.map (·.1))) ∧
      (∀ bs : Bytes, hex (Hex.marked bs) = .ok bs ∧ Json.option Json.bytes (some bs) =
        .text (Hex.marked bs)) ∧
      (∀ (fields : List (String × Value)) (name : String) (data : Bytes),
        (name, .bytes data) ∈ fields → (Json.ofFields fields).ShowsBytes name data) ∧
      ∀ (type : RecordType) (given : List (String × Value)) (document : Json),
        type.toJson given = .ok document → ∀ (name : String) (data : Bytes),
          (name, .bytes data) ∈ given → document.ShowsBytes name data := by
  refine ⟨fun s bs => hex_eq_ok_iff, ?_, fun t => rfl, ?_, fun bs => ⟨hex_marked bs, rfl⟩, ?_, ?_⟩
  · intro s h
    exact ⟨.badHex s, hex_eq_error_of h, rfl, rfl⟩
  · intro capital marker lead rows hmarker hlead hgaps
    rw [hex, Hex.read?_spaced capital hmarker hlead hgaps, require]
  · intro fields name data hmem
    exact ⟨_, Hex.marked data, rfl, List.mem_map.2 ⟨_, hmem, rfl⟩, hex_marked data⟩
  · intro type given document hdocument name data hmem
    obtain ⟨-, -, hdocument⟩ := bind_eq_ok.1 hdocument
    split at hdocument
    · cases hdocument
    · obtain rfl := Except.ok.inj hdocument
      exact ⟨_, Hex.marked data, rfl, List.mem_map.2 ⟨_, hmem, rfl⟩, hex_marked data⟩

/-- A text with a capital marker, letters of both cases and gaps of several kinds; bytes written in
capital letters with a gap in the middle; and three texts that denote nothing: a pair that is torn
apart, a second marker, and a digit of another script. -/
theorem hex_exact_of_gaps :
    let given : List (String × Value) := [("id", .int 1), ("block_id", .int 2),
      ("contract_id", .int 3), ("transaction_id", .bytes [0, 171])]
    hex "0X \t0aFf\n" = .ok [10, 255] ∧ Hex.Denotes "0X \t0aFf\n" [10, 255] ∧
      hex "AB CD" = .ok [0xAB, 0xCD] ∧
      (∀ bs, ¬ Hex.Denotes "0 a" bs) ∧ (∀ bs, ¬ Hex.Denotes "0x0x" bs) ∧
      (∀ bs, ¬ Hex.Denotes "٠1" bs) ∧
      (∃ e, hex "0 a" = .error e ∧ e.kind = .validation ∧
        e.message = "Invalid hex string: '0 a'") ∧
      ∃ document, RecordType.execution.toJson given = .ok document ∧
        document.ShowsBytes "transaction_id" [0, 171] := by
  intro given
  obtain ⟨hiff, hrefused, -, hspaced, -, -, hrecord⟩ := hex_exact
  have hread : hex "0X \t0aFf\n" = .ok [10, 255] := by decide +kernel
  have hgap : hex "AB CD" = .ok [0xAB, 0xCD] :=
    hspaced true [] [] [(0xAB, [' ']), (0xCD, [])] (by decide) (by simp) (by simp [Hex.spaces])
  have hnone {s : String} (h : hex s = .error (.badHex s)) (bs : Bytes) : ¬ Hex.Denotes s bs := by
    rw [← hiff, h]
    nofun
  have htorn := hnone (s := "0 a") (by decide +kernel)
  refine ⟨hread, (hiff _ _).1 hread, hgap, htorn, hnone (by decide +kernel), hnone (by decide +kernel),
    ?_, _, rfl, hrecord .execution given _ rfl "transaction_id" [0, 171] (by simp [given])⟩
  obtain ⟨e, herror, hkind, hmessage⟩ := hrefused "0 a" htorn
  exact ⟨e, herror, hkind, hmessage⟩

end Argument

end ReplayLedger
