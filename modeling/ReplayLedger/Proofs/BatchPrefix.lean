import ReplayLedger.Command.Run
import ReplayLedger.Proofs.Overflow
import ReplayLedger.Proofs.Stability

/-!
# A batch is taken in up to its first bad line

What a batch should do can be said without its two counters: of the lines that are not blank, the
payloads are taken in one after the other (`Store.TakesIn`), up to the first line that holds no
document or whose payload is refused (`Store.StopsAt`).  The loop over the lines does just this
(`Store.TakesIn.applyLines_append`, `Store.StopsAt.applyLines`), and every batch either has such a
line or is taken in as a whole (`Store.takesIn_or_stopsAt`).

A batch that was taken in cannot be taken in again.  Its first payload has set the height of an
environment, heights do not fall as long as the environment is there, and so the payload is refused
from then on (`Store.Reachable.refused_again`).
-/

namespace ReplayLedger

namespace Store

variable {s s' : Store} {line : String} {lines before rest : List String} {fault : LineFault}

/-- The lines that are not blank. -/
def filledLines (lines : List String) : List String :=
  lines.filter fun line => ¬ Text.IsBlankText line

/-- A store takes in the payloads of lines, one after the other. -/
inductive TakesIn : Store → List String → Store → Prop
  | nil {s : Store} : TakesIn s [] s
  | cons {s s₁ s' : Store} {line : String} {rest : List String} {payload : Value} {id : Int}
    (read : Json.read line = .ok payload) (applied : s.applyBlock payload = .ok (id, s₁))
    (takes : TakesIn s₁ rest s') : TakesIn s (line :: rest) s'

/-- A store refuses a line, which holds no document or a payload that the store does not take. -/
inductive Refuses (s : Store) (line : String) : LineFault → Prop
  | unreadable {e : Json.ReadError} (read : Json.read line = .error e) : Refuses s line e.toFault
  | rejected {payload : Value} {e : Error} (read : Json.read line = .ok payload)
    (refused : s.applyBlock payload = .error e) : Refuses s line (.rejected e)

/-- The first bad line of a batch.  The lines before it that are not blank are taken in, which leads
to `s'`, and there it is refused. -/
structure StopsAt (s : Store) (lines before : List String) (line : String) (s' : Store)
    (fault : LineFault) : Prop where
  first : before ++ [line] <+: lines
  filled : ¬ Text.IsBlankText line
  taken : TakesIn s (filledLines before) s'
  refused : Refuses s' line fault

/-! ## The loop over the lines -/

/-- A blank line is passed over. -/
lemma filledLines_cons_of_blank (h : Text.IsBlankText line) :
    filledLines (line :: rest) = filledLines rest := by
  simp [filledLines, h]

/-- A line that is not blank stays. -/
lemma filledLines_cons_of_filled (h : ¬ Text.IsBlankText line) :
    filledLines (line :: rest) = line :: filledLines rest := by
  simp [filledLines, h]

/-- A line with a payload that is accepted leaves the store that the payload leaves. -/
lemma applyLine_of_applied {payload : Value} {id : Int} (hread : Json.read line = .ok payload)
    (happlied : s.applyBlock payload = .ok (id, s')) : s.applyLine line = .ok s' := by
  rw [applyLine, hread]
  simp only [Except.mapError, ok_bind, happlied]
  rfl

/-- A line that is refused ends the loop with its fault. -/
lemma Refuses.applyLine (h : Refuses s line fault) : s.applyLine line = .error fault := by
  cases h with
  | unreadable read =>
    rw [Store.applyLine, read]
    rfl
  | rejected read refused =>
    rw [Store.applyLine, read]
    simp only [Except.mapError, ok_bind, refused]
    rfl

/-- A store takes in the payload of a line or refuses the line. -/
lemma applied_or_refuses (s : Store) (line : String) :
    (∃ payload id s', Json.read line = .ok payload ∧ s.applyBlock payload = .ok (id, s')) ∨
      ∃ fault, Refuses s line fault := by
  cases hread : Json.read line with
  | error e => exact .inr ⟨_, .unreadable hread⟩
  | ok payload =>
    cases happly : s.applyBlock payload with
    | error e => exact .inr ⟨_, .rejected hread happly⟩
    | ok r => exact .inl ⟨payload, r.1, r.2, rfl, happly⟩

/-- Lines that are taken in are left behind: the loop goes on with the rest of the batch. -/
lemma TakesIn.applyLines_append (before rest : List String) (read count : Nat)
    (h : TakesIn s (filledLines before) s') :
    s.applyLines read count (before ++ rest) =
      s'.applyLines (read + before.length) (count + (filledLines before).length) rest := by
  induction before generalizing s read count with
  | nil =>
    cases h
    rfl
  | cons line before ih =>
    rw [List.cons_append, applyLines]
    by_cases hblank : Text.IsBlankText line
    · rw [filledLines_cons_of_blank hblank] at h ⊢
      rw [if_pos hblank, ih _ _ h, List.length_cons]
      congr 1
      omega
    · rw [filledLines_cons_of_filled hblank] at h ⊢
      cases h with
      | cons hread happlied htakes =>
        rw [if_neg hblank, applyLine_of_applied hread happlied]
        simp only
        rw [ih _ _ htakes, List.length_cons, List.length_cons]
        congr 1 <;> omega

/-- A batch whose filled lines are all taken in is complete. -/
lemma TakesIn.applyLines (h : TakesIn s (filledLines lines) s') :
    s.applyLines 0 0 lines = (.complete (filledLines lines).length, s') := by
  have hall := h.applyLines_append lines [] 0 0
  rwa [List.append_nil, Nat.zero_add, Nat.zero_add] at hall

/-- A batch ends at its first bad line. -/
lemma StopsAt.applyLines (h : StopsAt s lines before line s' fault) :
    s.applyLines 0 0 lines = (.stopped line (before.length + 1) fault, s') := by
  obtain ⟨rest, rfl⟩ := h.first
  rw [List.append_assoc, h.taken.applyLines_append, List.singleton_append, Store.applyLines,
    if_neg h.filled, h.refused.applyLine, Nat.zero_add]

/-- A batch is taken in as a whole, or it has a first bad line. -/
lemma takesIn_or_stopsAt (s : Store) (lines : List String) :
    (∃ s', TakesIn s (filledLines lines) s') ∨
      ∃ before line s' fault, StopsAt s lines before line s' fault := by
  induction lines generalizing s with
  | nil => exact .inl ⟨s, .nil⟩
  | cons line rest ih =>
    by_cases hblank : Text.IsBlankText line
    · rw [filledLines_cons_of_blank hblank]
      refine (ih s).imp_right ?_
      rintro ⟨before, bad, s', fault, hfirst, hfilled, htaken, hrefused⟩
      refine ⟨line :: before, bad, s', fault, List.cons_prefix_cons.2 ⟨rfl, hfirst⟩, hfilled, ?_,
        hrefused⟩
      rwa [filledLines_cons_of_blank hblank]
    · rw [filledLines_cons_of_filled hblank]
      rcases applied_or_refuses s line with ⟨payload, id, s₁, hread, happlied⟩ | ⟨fault, hrefuses⟩
      · rcases ih s₁ with ⟨s', htakes⟩ | ⟨before, bad, s', fault, hfirst, hfilled, htaken, hrefused⟩
        · exact .inl ⟨s', .cons hread happlied htakes⟩
        · refine .inr ⟨line :: before, bad, s', fault, List.cons_prefix_cons.2 ⟨rfl, hfirst⟩,
            hfilled, ?_, hrefused⟩
          rw [filledLines_cons_of_filled hblank]
          exact .cons hread happlied htaken
      · exact .inr ⟨[], line, s, fault, ⟨rest, rfl⟩, hblank, .nil, hrefuses⟩

/-! ## Payloads that were taken in -/

/-- A payload that is accepted answers with the id of its block. -/
lemma run_applyBlock_of_ok {payload : Value} {id : Int} (h : s.applyBlock payload = .ok (id, s')) :
    (Call.applyBlock payload).run s = .ok (.int id, s') := by
  rw [Call.run, h]
  rfl

/-- The call has no error but that of the payload. -/
lemma applyBlock_of_run_error {payload : Value} {e : Error}
    (h : (Call.applyBlock payload).run s = .error e) : s.applyBlock payload = .error e := by
  cases happly : s.applyBlock payload with
  | ok r =>
    rw [run_applyBlock_of_ok happly] at h
    cases h
  | error e' =>
    rw [Call.run, happly] at h
    exact congrArg Except.error (Except.error.inj h)

/-- The store after an accepted payload is the one after a feed with it. -/
lemma after_apply {payload : Value} {id : Int} (h : s.applyBlock payload = .ok (id, s')) :
    s.after (Feed.apply payload).call = s' :=
  after_of_ok (run_applyBlock_of_ok h)

/-- Lines that are taken in are feeds. -/
lemma TakesIn.exists_feeds (h : TakesIn s lines s') :
    ∃ feeds : List Feed, (∀ id, .drop id ∉ feeds) ∧
      (feeds.map Feed.call).foldl Store.after s = s' := by
  induction h with
  | nil => exact ⟨[], by simp, rfl⟩
  | @cons s s₁ s' line rest payload id read applied takes ih =>
    obtain ⟨feeds, hkept, hafter⟩ := ih
    refine ⟨.apply payload :: feeds, by simpa using hkept, ?_⟩
    rw [List.map_cons, List.foldl_cons, after_apply applied, hafter]

/-- An accepted payload is to record a block of the environment that it names. -/
lemma exists_recordsAt {raw : Value} {id : Int} (h : s.applyBlock raw = .ok (id, s')) :
    ∃ payload owner, BlockPayload.ofValue raw = .ok payload ∧
      s.resolve payload.environment = .ok owner ∧
      BlockFacts.ofValues (.int payload.height) (.bytes payload.indexHash)
        (.bytes payload.trieRoot) = .ok payload.facts := by
  obtain ⟨payload, hchecked, happly⟩ := bind_eq_ok.1 h
  obtain ⟨owner, hresolve, hrest⟩ := bind_eq_ok.1 happly
  obtain ⟨recorded, hrecord, -⟩ := bind_eq_ok.1 hrest
  obtain ⟨facts, hfacts, -⟩ := bind_eq_ok.1 hrecord
  obtain ⟨-, -, -, rfl⟩ := ofValues_int_bytes.1 hfacts
  exact ⟨payload, owner, hchecked, hresolve, hfacts⟩

/-- An environment that is kept stays at or above the height that it has reached. -/
lemma Keeps.le_maxHeight (hs : s.Reachable) (hs' : s'.Reachable) {owner : Environment}
    (hkeeps : Keeps s s' owner.id) (howner : owner ∈ s'.environments) {height : Int}
    (hreached : (s.history owner.id).maxHeight = some height) :
    ∃ reached, owner.maxHeight = some reached ∧ height ≤ reached := by
  have hlast := (hs.climbs owner.id).reached.symm.trans hreached
  have hheight := List.mem_of_getLast? hlast
  rw [← map_height_ownedBy] at hheight
  obtain ⟨block, hblock, rfl⟩ := List.mem_map.1 hheight
  obtain ⟨hmem, howned⟩ := List.mem_filter.1 hblock
  have hmem' := (hkeeps.blocks block hmem (of_decide_eq_true howned)).recorded
  have hblock' : block ∈ (s'.ownedBy owner.id).blocks := List.mem_filter.2 ⟨hmem', howned⟩
  have hmark := hs'.consistent.watermarked howner (hs'.climbs owner.id)
  cases hmax : owner.maxHeight with
  | none =>
    rw [hmark.none_iff.1 hmax] at hblock'
    cases hblock'
  | some reached => exact ⟨reached, rfl, (hmark.greatest hmax).2 block hblock'⟩

/-- A payload that was accepted is refused from then on, as long as its environment is kept. -/
lemma Reachable.refused_again (hs : s.Reachable) {raw : Value} {id : Int}
    (h : s.applyBlock raw = .ok (id, s')) {s'' : Store} (hs'' : s''.Reachable)
    (hkeeps : ∀ environment, Keeps s' s'' environment) :
    ∃ owner height reached,
      s''.applyBlock raw = .error (.heightNotAdvancing owner height reached) := by
  obtain ⟨payload, owner, hchecked, hresolve, hfacts⟩ := exists_recordsAt h
  have hs' : s'.Reachable := after_apply h ▸ hs.after (Feed.apply raw).call
  have hkept : Keeps s s'' owner.id := by
    have hfed : Keeps s (s.after (Feed.apply raw).call) owner.id := hs.keeps_after nofun
    rw [after_apply h] at hfed
    exact hfed.trans (hkeeps owner.id)
  -- the height that the payload has set
  have hreached : (s'.history owner.id).maxHeight = some payload.height :=
    hs.consistent.maxHeight_of_recordsAt (hs.consistent.mem_of_resolve hresolve)
      (.applyBlock hchecked hresolve rfl hfacts) (run_applyBlock_of_ok h)
  -- the row that the payload names later on
  obtain ⟨row, hresolve', hidentity⟩ := hkept.resolve hs.consistent hs''.consistent hresolve
  have hrow := hs''.consistent.mem_of_resolve hresolve'
  rw [← Environment.id_eq_of_identity hidentity] at hreached
  obtain ⟨reached, hmax, hle⟩ := (hkeeps row.id).le_maxHeight hs' hs'' hrow hreached
  have hrefused := hs''.consistent.refused_of_recordsAt hrow
    (.applyBlock hchecked hresolve' rfl hfacts) hmax hle
  exact ⟨row.id, payload.height, reached, applyBlock_of_run_error hrefused⟩

/-- No line of a batch is refused. -/
def TakesAll (s : Store) (lines : List String) : Prop :=
  ∀ before line s' fault, ¬ StopsAt s lines before line s' fault

/-- A batch is taken in as a whole exactly if all lines that are not blank are taken in one after
the other. -/
lemma takesAll_iff : TakesAll s lines ↔ ∃ s', TakesIn s (filledLines lines) s' := by
  constructor
  · intro hall
    refine (takesIn_or_stopsAt s lines).resolve_right ?_
    rintro ⟨before, line, s', fault, hstops⟩
    exact hall before line s' fault hstops
  · rintro ⟨s', htakes⟩ before line t fault hstops
    have hends := htakes.applyLines.symm.trans hstops.applyLines
    cases hends

/-- A batch that was taken in is refused at its first filled line from then on, as long as no
environment is dropped. -/
lemma Reachable.stopsAt_again (hs : s.Reachable) (htakes : TakesIn s (filledLines lines) s')
    (hfilled : filledLines lines ≠ []) {s'' : Store} (hs'' : s''.Reachable)
    (hkeeps : ∀ environment, Keeps s' s'' environment) :
    ∃ before line owner height reached, (∀ blank ∈ before, Text.IsBlankText blank) ∧
      StopsAt s'' lines before line s'' (.rejected (.heightNotAdvancing owner height reached)) := by
  generalize htaken : filledLines lines = taken at htakes hfilled
  cases htakes with
  | nil => exact absurd rfl hfilled
  | @cons _ s₁ _ line _ payload _ hread happlied hrest =>
    obtain ⟨before, rest, rfl, hblank, hline, -⟩ := List.filter_eq_cons_iff.1 htaken
    have hkeeps₁ (environment : Int) : Keeps s₁ s'' environment := by
      have hs₁ : s₁.Reachable := after_apply happlied ▸ hs.after (Feed.apply payload).call
      obtain ⟨feeds, hkept, rfl⟩ := hrest.exists_feeds
      exact (hs₁.keeps_feeds (hkept environment)).trans (hkeeps environment)
    obtain ⟨owner, height, reached, hrefused⟩ := hs.refused_again happlied hs'' hkeeps₁
    have hbefore : filledLines before = [] := List.filter_eq_nil_iff.2 hblank
    refine ⟨before, line, owner, height, reached, by simpa using hblank, ⟨rest, by simp⟩,
      by simpa using hline, ?_, .rejected hread hrefused⟩
    rw [hbefore]
    exact .nil

/-- What is taken in does not depend on the counters. -/
lemma snd_applyLines (s : Store) (lines : List String) (read count : Nat) :
    (s.applyLines read count lines).2 = (s.applyLines 0 0 lines).2 := by
  suffices h : ∀ (read' count' : Nat),
      (s.applyLines read count lines).2 = (s.applyLines read' count' lines).2 from h 0 0
  induction lines generalizing s read count with
  | nil => exact fun _ _ => rfl
  | cons line rest ih =>
    intro read' count'
    rw [applyLines, applyLines]
    by_cases hblank : Text.IsBlankText line
    · rw [if_pos hblank, if_pos hblank]
      exact ih s _ _ _ _
    · rw [if_neg hblank, if_neg hblank]
      cases s.applyLine line with
      | ok s₁ => exact ih s₁ _ _ _ _
      | error fault => rfl

end Store

/-! ## The command -/

/-- The faults that are reported: a line that is no document, a document that is no payload, and a
payload that the store refuses on its own.  Other errors escape. -/
inductive LineFault.IsReported : LineFault → Prop
  | unreadable {complaint : Json.Complaint} {position : Nat} :
    IsReported (.unreadable complaint position)
  | illFormed {problems : List Payload.Problem} : IsReported (.rejected (.badPayload problems))
  | refused {e : Error} (ledger : e.kind.isLedger = true) : IsReported (.rejected e)

namespace Command

/-- An outcome that names a line by its number. -/
def Outcome.NamesLine (o : Outcome) (number : Nat) : Prop :=
  (∃ detail, o.stderr =
    "Error: Line " ++ Numeral.ofInt number ++ ": invalid block payload: " ++ detail) ∨
  ∃ report, o.stderr = "Line " ++ Numeral.ofInt number ++ " rejected\n" ++ report

/-- Takes in the lines of a batch, as the command does. -/
def ingestLines (s : Store) (lines : List String) : Outcome × Store :=
  let (ended, s) := s.applyLines 0 0 lines
  (batchOutcome ended, s)

/-- A report of an error never ends the process as a success does. -/
lemma exitCode_report_ne_zero (e : Error) : (Outcome.report e).exitCode ≠ 0 := by
  unfold Outcome.report
  split <;> exact Nat.succ_ne_zero _

/-- A batch that ends at a line does not succeed, and names the line if the fault is reported. -/
lemma batchOutcome_stopped (line : String) (number : Nat) (fault : LineFault) :
    (batchOutcome (.stopped line number fault)).exitCode ≠ 0 ∧
      (fault.IsReported → (batchOutcome (.stopped line number fault)).NamesLine number) := by
  generalize hended : BatchEnd.stopped line number fault = ended
  fun_cases batchOutcome ended with
  | case1 count => cases hended
  | case2 line number complaint position =>
    cases hended
    exact ⟨Nat.one_ne_zero, fun _ => .inl ⟨_, by rw [batchOutcome.invalid, String.append_assoc]⟩⟩
  | case3 line number problems =>
    cases hended
    exact ⟨Nat.one_ne_zero, fun _ => .inl ⟨_, by rw [batchOutcome.invalid, String.append_assoc]⟩⟩
  | case4 line number e hother hledger outcome =>
    cases hended
    exact ⟨exitCode_report_ne_zero e, fun _ => .inr ⟨_, rfl⟩⟩
  | case5 line number e hother hledger =>
    cases hended
    refine ⟨Nat.one_ne_zero, fun hreported => ?_⟩
    cases hreported with
    | illFormed => exact absurd rfl (hother _)
    | refused ledger => exact absurd ledger hledger

/-- The command takes in the lines of its text. -/
lemma run_ingest (place : String) (input : List String) (s : Store) (text : String) :
    run place input s (.ingest text) = ingestLines s (Text.lines text) := rfl

/-- A batch with a bad line ends there, numbered with the blank lines counted in. -/
lemma ingestLines_of_stopsAt {s s' : Store} {lines before : List String} {line : String}
    {fault : LineFault} (h : s.StopsAt lines before line s' fault) :
    ingestLines s lines = (batchOutcome (.stopped line (before.length + 1) fault), s') := by
  rw [ingestLines, h.applyLines]

/-- A batch without a bad line ends with the number of payloads. -/
lemma ingestLines_of_takesIn {s s' : Store} {lines : List String}
    (h : s.TakesIn (Store.filledLines lines) s') :
    ingestLines s lines = (batchOutcome (.complete (Store.filledLines lines).length), s') := by
  rw [ingestLines, h.applyLines]

/-- The command succeeds exactly if no line is refused. -/
lemma exitCode_ingestLines_eq_zero {s : Store} {lines : List String} :
    (ingestLines s lines).1.exitCode = 0 ↔ s.TakesAll lines := by
  constructor
  · intro hexit before line s' fault hstops
    rw [ingestLines_of_stopsAt hstops] at hexit
    exact (batchOutcome_stopped line (before.length + 1) fault).1 hexit
  · intro hall
    obtain ⟨s', htakes⟩ := Store.takesAll_iff.1 hall
    rw [ingestLines_of_takesIn htakes]
    rfl

end Command

open Command Store in
/-- The command that takes in a batch takes in the lines up to the first bad one, of which it tells
the number, or all of them, of which it tells how many are not blank.  So a batch may be cut in two as
long as its first part is good, and a good batch that is not blank cannot be taken in twice, neither at
once nor later on, as long as no environment is dropped. -/
theorem Store.Reachable.ingest_takes_good_lines {s : Store} (hs : s.Reachable)
    (lines : List String) :
    (∀ place input text, Text.lines text = lines →
      run place input s (.ingest text) = ingestLines s lines) ∧
    (∀ before line s' fault, StopsAt s lines before line s' fault →
      (ingestLines s lines).2 = s' ∧ (ingestLines s lines).1.exitCode ≠ 0 ∧
        (fault.IsReported → (ingestLines s lines).1.NamesLine (before.length + 1))) ∧
    (s.TakesAll lines → TakesIn s (filledLines lines) (ingestLines s lines).2) ∧
    ((ingestLines s lines).1.exitCode = 0 ∧ (ingestLines s lines).1.stdout =
        "Ingested " ++ Numeral.ofInt (filledLines lines).length ++ " block(s)\n" ↔
      s.TakesAll lines) ∧
    ((ingestLines s lines).1.exitCode = 0 → ∀ more,
      (ingestLines s (lines ++ more)).2 = (ingestLines (ingestLines s lines).2 more).2) ∧
    ((ingestLines s lines).1.exitCode = 0 → filledLines lines ≠ [] →
      ∀ feeds : List Feed, (∀ id, .drop id ∉ feeds) →
        let later := (feeds.map Feed.call).foldl Store.after (ingestLines s lines).2
        ∃ before line e, (∀ blank ∈ before, Text.IsBlankText blank) ∧
          StopsAt later lines before line later (.rejected e) ∧
          (ingestLines later lines).2 = later ∧ (ingestLines later lines).1.exitCode ≠ 0 ∧
          (ingestLines later lines).1.NamesLine (before.length + 1)) := by
  have hstopped {s s' : Store} {before line fault} (hstops : StopsAt s lines before line s' fault) :
      (ingestLines s lines).2 = s' ∧ (ingestLines s lines).1.exitCode ≠ 0 ∧
        (fault.IsReported → (ingestLines s lines).1.NamesLine (before.length + 1)) := by
    rw [ingestLines_of_stopsAt hstops]
    exact ⟨rfl, batchOutcome_stopped line (before.length + 1) fault⟩
  have htaken (hall : s.TakesAll lines) : TakesIn s (filledLines lines) (ingestLines s lines).2 := by
    obtain ⟨s', htakes⟩ := takesAll_iff.1 hall
    rwa [ingestLines_of_takesIn htakes]
  refine ⟨?_, fun _ _ _ _ => hstopped, htaken, ?_, ?_, ?_⟩
  · rintro place input text rfl
    exact run_ingest place input s text
  · refine ⟨fun h => exitCode_ingestLines_eq_zero.1 h.1, fun hall => ?_⟩
    rw [ingestLines_of_takesIn (htaken hall)]
    exact ⟨rfl, rfl⟩
  · intro hexit more
    have htakes := htaken (exitCode_ingestLines_eq_zero.1 hexit)
    show (s.applyLines 0 0 (lines ++ more)).2 = _
    rw [htakes.applyLines_append, snd_applyLines]
    rfl
  · intro hexit hfilled feeds hkept later
    have htakes := htaken (exitCode_ingestLines_eq_zero.1 hexit)
    have hs' : (ingestLines s lines).2.Reachable := by
      obtain ⟨taken, -, hafter⟩ := htakes.exists_feeds
      exact hafter ▸ hs.foldl_after (taken.map Feed.call)
    obtain ⟨before, line, owner, height, reached, hblank, hstops⟩ :=
      hs.stopsAt_again htakes hfilled (hs'.foldl_after (feeds.map Feed.call))
        fun environment => hs'.keeps_feeds (hkept environment)
    obtain ⟨hstore, hexit', hnames⟩ := hstopped hstops
    exact ⟨before, line, _, hblank, hstops, hstore, hexit', hnames (.refused rfl)⟩

open Command Store in
/-- A batch for two environments that has blank lines.  It is good, it is refused when a third
environment has been created, and with a line that is no document behind it, it is taken in up to
there. -/
theorem Store.ingest_takes_good_lines_of_two_environments :
    let row (environment height hash : String) : String :=
      "\x7b\"environment\": " ++ environment ++ ", \"height\": " ++ height ++
        ", \"index_hash\": \"" ++ hash ++ "\", \"trie_root_hash\": \"0xbb\"\x7d\n"
    let create (name : String) : Call := .createEnvironment (.text name) (.int 1) (.text "/")
    let s := [create "a", create "b"].foldl Store.after empty
    let good := ["\n", row "\"a\"" "3" "aa", " \t\n", row "2" "3" "aa", row "1" "7" "0xcc"]
    let before := good ++ ["\n"]
    let bad := "\x7b\n"
    let feeds : List Feed := [.create (.text "c") (.int 1) (.text "/")]
    let later := (feeds.map Feed.call).foldl Store.after (ingestLines s good).2
    ((ingestLines s good).1.exitCode = 0 ∧
      (ingestLines s good).1.stdout = "Ingested 3 block(s)\n") ∧
    ((ingestLines later good).2 = later ∧ (ingestLines later good).1.exitCode ≠ 0) ∧
    (∃ fault, StopsAt s (before ++ [bad, row "2" "9" "dd"]) before bad (ingestLines s good).2 fault ∧
      (ingestLines s (before ++ [bad, row "2" "9" "dd"])).2 = (ingestLines s good).2 ∧
      (ingestLines s (before ++ [bad, row "2" "9" "dd"])).1.NamesLine 7) := by
  intro row create s good before bad feeds later
  have hs : s.Reachable := Reachable.empty.foldl_after [create "a", create "b"]
  have hexit : (ingestLines s good).1.exitCode = 0 := by decide +kernel
  obtain ⟨-, -, htaken, hprints, -, hagain⟩ := hs.ingest_takes_good_lines good
  have hall : s.TakesAll good := exitCode_ingestLines_eq_zero.1 hexit
  have hcount : "Ingested " ++ Numeral.ofInt (filledLines good).length ++ " block(s)\n" =
      "Ingested 3 block(s)\n" := by
    decide +kernel
  refine ⟨hcount ▸ hprints.2 hall, ?_, ?_⟩
  · obtain ⟨-, -, -, -, -, hstore, hfails, -⟩ := hagain hexit (by decide) feeds (by simp [feeds])
    exact ⟨hstore, hfails⟩
  · have hread : Json.read bad = .error (.syntaxError .expectingName 2) := by
      have hfault : (match Json.read bad with
          | .ok _ => none
          | .error e => some e) = some (.syntaxError .expectingName 2) := by
        decide +kernel
      cases hread : Json.read bad with
      | ok payload => simp [hread] at hfault
      | error e => simpa [hread] using hfault
    have hsame : filledLines before = filledLines good := by decide +kernel
    have hstops : StopsAt s (before ++ [bad, row "2" "9" "dd"]) before bad (ingestLines s good).2
        (.unreadable .expectingName 2) :=
      ⟨⟨[row "2" "9" "dd"], by simp⟩, by decide, hsame ▸ htaken hall, .unreadable hread⟩
    obtain ⟨-, hbad, -⟩ := hs.ingest_takes_good_lines (before ++ [bad, row "2" "9" "dd"])
    obtain ⟨hstore, -, hnames⟩ := hbad before bad _ _ hstops
    exact ⟨_, hstops, hstore, hnames .unreadable⟩

end ReplayLedger
