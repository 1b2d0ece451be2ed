import ReplayLedger.Command.Run
import ReplayLedger.Proofs.Overflow

/-!
# The exit code of a comparison

Exit code 1 stands for a divergence, so whoever runs a comparison takes it for one.  A comparison
that fails is to end with 2 or 3.  It can fail with a few kinds of errors only (`ComparisonFault`):
a malformed height, a request without sense, an unknown environment, a missing block, and an integer
that the database cannot hold.  The last of these is no error that the command line has words
for.  It escapes, and the program ends with exit code 1 and without a report
(`ExitTells.divergence`).

When that happens is told exactly: when the references that can be looked for lead up to an id that
is out of range, or when all of them are known and the height is above the range.  In all other
cases the exit code tells what has become of the comparison.

Main statement: `Store.Reachable.compare_exitTells`.
-/

namespace ReplayLedger

open Store

/-! ## Failures of certain kinds -/

section FailsOnly

variable {α β : Type} {P : Error → Prop} {x : Except Error α}

/-- If something fails, it is with such an error. -/
def FailsOnly (P : Error → Prop) (x : Except Error α) : Prop := ∀ e, x = .error e → P e

/-- Failures of certain kinds are failures of more kinds. -/
lemma FailsOnly.mono {P' : Error → Prop} (hx : FailsOnly P x) (h : ∀ e, P e → P' e) :
    FailsOnly P' x :=
  fun e he => h e (hx e he)

/-- A success does not fail. -/
lemma failsOnly_ok {a : α} : FailsOnly P (.ok a) := nofun

/-- A condition fails with its error only. -/
lemma failsOnly_ensure {p : Prop} [Decidable p] {e : Error} (he : P e) :
    FailsOnly P (ensure p e) := by
  unfold ensure
  split
  · exact failsOnly_ok
  · rintro _ ⟨⟩
    exact he

/-- A requirement fails with its error only. -/
lemma failsOnly_require {found : Option α} {e : Error} (he : P e) :
    FailsOnly P (require found e) := by
  cases found with
  | some a => exact failsOnly_ok
  | none =>
    rintro _ ⟨⟩
    exact he

/-- Of two parts in a row, the second has to be looked at only where the first has passed. -/
lemma FailsOnly.bind {next : α → Except Error β} (hx : FailsOnly P x)
    (hnext : ∀ a, x = .ok a → FailsOnly P (next a)) : FailsOnly P (x >>= next) := by
  cases x with
  | ok a => exact hnext a rfl
  | error e =>
    rintro _ ⟨⟩
    exact hx e rfl

/-- What is made of a result does not fail. -/
lemma FailsOnly.map {f : α → β} (hx : FailsOnly P x) : FailsOnly P (f <$> x) := by
  cases x with
  | ok a => exact failsOnly_ok
  | error e =>
    rintro _ ⟨⟩
    exact hx e rfl

/-- Steps over a list fail as a single step does. -/
lemma failsOnly_mapM {f : α → Except Error β} (hf : ∀ a, FailsOnly P (f a)) (items : List α) :
    FailsOnly P (items.mapM f) := by
  induction items with
  | nil => exact failsOnly_ok
  | cons a rest ih =>
    rw [List.mapM_cons]
    exact (hf a).bind fun _ _ => ih.bind fun _ _ => failsOnly_ok

/-- A loop over a list fails as one round does. -/
lemma failsOnly_foldlM {f : β → α → Except Error β} {items : List α}
    (hf : ∀ b, ∀ a ∈ items, FailsOnly P (f b a)) (b : β) : FailsOnly P (items.foldlM f b) := by
  induction items generalizing b with
  | nil => exact failsOnly_ok
  | cons a rest ih =>
    rw [List.foldlM_cons]
    exact (hf b a List.mem_cons_self).bind fun b' _ =>
      ih (fun b a ha => hf b a (List.mem_cons_of_mem _ ha)) b'

/-- What is made of items one by one is made of one of them. -/
lemma exists_of_mapM_eq_ok {f : α → Except Error β} {items : List α} {made : List β}
    (h : items.mapM f = .ok made) {b : β} (hb : b ∈ made) : ∃ a ∈ items, f a = .ok b := by
  induction items generalizing made with
  | nil =>
    obtain rfl := pure_eq_ok.1 h
    cases hb
  | cons a rest ih =>
    rw [List.mapM_cons] at h
    simp only [bind_eq_ok, pure_eq_ok] at h
    obtain ⟨first, hfirst, others, hothers, rfl⟩ := h
    rcases List.mem_cons.1 hb with rfl | hb
    · exact ⟨a, List.mem_cons_self, hfirst⟩
    · obtain ⟨a', ha', hmade⟩ := ih hothers hb
      exact ⟨a', List.mem_cons_of_mem _ ha', hmade⟩

end FailsOnly

/-! ## How a comparison fails -/

/-- The errors that a comparison can fail with. -/
inductive ComparisonFault (e : Error) : Prop
  | malformed (h : e.kind = .validation)
  | senseless (h : e.kind = .badValue)
  | unknown (h : e.kind = .notFound)
  | missing (h : e.kind = .missingBlock)
  | overflow (h : e = .integerTooLarge)

namespace Command

variable {s : Store} {word : String} {refs : List String} {height : Int}

/-- A word that cannot be read makes no sense. -/
lemma failsOnly_ofArgument : FailsOnly (·.kind = .badValue) (Reference.ofArgument word) := by
  unfold Reference.ofArgument
  split
  · refine .map (.bind ?_ fun _ _ => ?_)
    · exact failsOnly_ensure rfl
    · exact failsOnly_require rfl
  · exact failsOnly_ok

/-- What is out of range is not found while words are read. -/
lemma not_overflows_mapM_ofArgument : ¬ Overflows (refs.mapM Reference.ofArgument) := by
  intro hover
  have hkind := failsOnly_mapM (fun _ => failsOnly_ofArgument) refs _ hover
  cases hkind

/-- A word is read as an id or as a name. -/
lemma ofArgument_wellFormed {reference : Reference} (h : Reference.ofArgument word = .ok reference)
    (t : IllFormed) : reference ≠ .illFormed t := by
  rintro rfl
  unfold Reference.ofArgument at h
  split at h
  · cases hread : Quantity.integer word <;> simp [hread, Functor.map, Except.map] at h
  · simp at h

/-- A reference that can be encoded is unknown or out of range, if it is not resolved. -/
lemma failsOnly_resolve {reference : Reference} (h : ∀ t, reference ≠ .illFormed t) :
    FailsOnly ComparisonFault (s.resolve reference) := by
  cases reference with
  | id n =>
    exact (failsOnly_ensure (.overflow rfl)).bind fun _ _ => failsOnly_require (.unknown rfl)
  | name name => exact failsOnly_require (.unknown rfl)
  | illFormed t => exact absurd rfl (h t)

/-- A comparison of references that can be encoded fails in one of these ways. -/
lemma failsOnly_compareHeights {references : List Reference}
    (h : ∀ reference ∈ references, ∀ t, reference ≠ .illFormed t) (height : Value) :
    FailsOnly ComparisonFault (s.compareHeights references height) := by
  -- the height, the references, how many environments there are, and their blocks
  refine .bind ?_ fun n _ => .bind ?_ fun rows _ => .bind ?_ fun _ _ => .bind ?_ fun _ _ =>
    failsOnly_ok
  · exact (failsOnly_require (.malformed rfl)).bind fun _ _ =>
      (failsOnly_ensure (.malformed rfl)).bind fun _ _ => failsOnly_ok
  · exact failsOnly_foldlM (fun _ reference href =>
      (failsOnly_resolve (h reference href)).bind fun _ _ => failsOnly_ok) _
  · exact failsOnly_ensure (.senseless rfl)
  · exact (failsOnly_ensure (.overflow rfl)).bind fun _ _ =>
      (failsOnly_ensure (.missing rfl)).bind fun _ _ => failsOnly_ok

/-- Words of a command line become ids and names, and these can be encoded. -/
lemma failsOnly_compareArguments : FailsOnly ComparisonFault (compareArguments s refs height) := by
  have hread : FailsOnly ComparisonFault (refs.mapM Reference.ofArgument) :=
    (failsOnly_mapM (fun _ => failsOnly_ofArgument) refs).mono fun _ => .senseless
  refine hread.bind fun references hreferences => ?_
  refine failsOnly_compareHeights (fun reference href => ?_) _
  obtain ⟨word, -, hread⟩ := exists_of_mapM_eq_ok hreferences href
  exact ofArgument_wellFormed hread

/-- The references lead up to an id that is out of range, or all of them are known, and the height
is above the range. -/
def OutOfRange (s : Store) (references : List Reference) (height : Int) : Prop :=
  (∃ earlier id later, references = earlier ++ .id id :: later ∧ (∀ ref ∈ earlier, s.Knows ref) ∧
    ReplayLedger.OutOfRange (s.environments.map (·.id)) id) ∨
  (∀ ref ∈ references, s.Knows ref) ∧ s.MentionsSeveral references ∧ 0x8000000000000000 ≤ height

/-- A comparison fails for an integer if it comes to one that is out of range. -/
lemma overflows_compareArguments (hs : s.Consistent) : Overflows (compareArguments s refs height) ↔
    0 ≤ height ∧ ∃ references, refs.mapM Reference.ofArgument = .ok references ∧
      OutOfRange s references height := by
  have hrange : 0 ≤ height → (¬ Storable height ↔ 0x8000000000000000 ≤ height) := by
    intro hpos
    unfold Storable
    omega
  have hheight : ∀ n, (Value.int height).IsHeight n ↔ height = n ∧ 0 ≤ n := by
    simp [Value.IsHeight, Value.int?]
  rw [compareArguments, overflows_bind, or_iff_right not_overflows_mapM_ofArgument]
  simp only [hs.overflows_compareHeights, hs.overflows_resolveDistinct, hheight, OutOfRange]
  constructor
  · rintro ⟨references, hread, n, ⟨rfl, hpos⟩, hover⟩
    exact ⟨hpos, references, hread, by rwa [hrange hpos] at hover⟩
  · rintro ⟨hpos, references, hread, hover⟩
    exact ⟨references, hread, height, ⟨rfl, hpos⟩, by rwa [hrange hpos]⟩

/-! ## What the exit code tells -/

/-- What the exit code of a comparison tells of its outcome. -/
structure ExitTells (outcome : Except Error Report) (shown : Outcome) : Prop where
  agreement : shown.exitCode = 0 ↔ ∃ r, outcome = .ok r ∧ r.verdict = .agreement
  /-- A divergence, or an integer out of range. -/
  divergence : shown.exitCode = exitDisagreement ↔
    (∃ r, outcome = .ok r ∧ r.verdict = .disagreement) ∨ Overflows outcome
  recoverable : shown.exitCode = exitRecoverable ↔
    RefusedWith outcome .notFound ∨ RefusedWith outcome .missingBlock
  /-- Every other failure. -/
  fatal : shown.exitCode = exitFatal ↔ (∃ e, outcome = .error e) ∧ ¬ Overflows outcome ∧
    ¬ (RefusedWith outcome .notFound ∨ RefusedWith outcome .missingBlock)
  /-- There is no report on what failed for an integer: the error escapes. -/
  escaped : Overflows outcome → shown = .escape .integerTooLarge

/-- A report that is shown gives status 0 or 1, as there is a divergence or not. -/
lemma exitTells_compared (r : Report) (asDocument : Bool) :
    ExitTells (.ok r) (compared r asDocument) := by
  cases hverdict : r.verdict <;>
    constructor <;>
      simp [compared, Report.isAgreement, hverdict, exitDisagreement, exitRecoverable, exitFatal]

/-- A failure that is not for an integer is told apart by its kind. -/
lemma exitTells_of_kind {e : Error} {shown : Outcome} (hinteger : e ≠ .integerTooLarge)
    (hexit : shown.exitCode =
      if e.kind = .notFound ∨ e.kind = .missingBlock then exitRecoverable else exitFatal) :
    ExitTells (.error e) shown := by
  by_cases hkind : e.kind = .notFound ∨ e.kind = .missingBlock <;>
    constructor <;>
      simp [hexit, hkind, hinteger, exitDisagreement, exitRecoverable, exitFatal]

/-- A failed comparison tells by its status what kind of failure it was. -/
lemma exitTells_notCompared {e : Error} (h : ComparisonFault e) :
    ExitTells (.error e) (notCompared e) := by
  cases h with
  | overflow h =>
    subst h
    constructor <;> simp [notCompared, Outcome.failure, Outcome.escape, Error.kind,
      ErrorKind.isLedger, exitDisagreement, exitRecoverable, exitFatal]
  | senseless h =>
    refine exitTells_of_kind (by rintro rfl; cases h) ?_
    simp [notCompared, h, Form.refuse]
  | malformed h | unknown h | missing h =>
    refine exitTells_of_kind (by rintro rfl; cases h) ?_
    simp [notCompared, h, Outcome.failure, Outcome.report, ErrorKind.isLedger, ErrorKind.advice,
      ErrorKind.isOrdering, ErrorKind.isIntegrity]

end Command

/-- The exit code of a comparison tells what has become of it, except that a comparison that fails
for an integer out of range ends as if there were a divergence.  That is the case exactly if the
height is not negative and the comparison comes to such an integer, an id or the height.  Nothing
is changed. -/
theorem Store.Reachable.compare_exitTells {s : Store} (hs : s.Reachable) (refs : List String)
    (height : Int) :
    let outcome := Command.compareArguments s refs height
    (∀ place input asDocument, ∃ shown,
      Command.run place input s (.compare refs height asDocument) = (shown, s) ∧
        Command.ExitTells outcome shown) ∧
      (Overflows outcome ↔ 0 ≤ height ∧ ∃ references,
        refs.mapM Reference.ofArgument = .ok references ∧
          Command.OutOfRange s references height) := by
  refine ⟨fun place input asDocument => ?_, Command.overflows_compareArguments hs.consistent⟩
  cases houtcome : Command.compareArguments s refs height with
  | ok r => exact ⟨_, by simp only [Command.run, houtcome], Command.exitTells_compared r asDocument⟩
  | error e =>
    have hfault : ComparisonFault e := Command.failsOnly_compareArguments e houtcome
    exact ⟨_, by simp only [Command.run, houtcome], Command.exitTells_notCompared hfault⟩

/-- Two environments that differ at one height.  Compared there they end with 1, at a height that
they lack with 3, and at a negative one with 2.  At the first height above the range the comparison
ends with 1 as well, and there is no report. -/
theorem Store.compare_exitTells_of_great_height :
    let record (environment : Int) (root : UInt8) : Call :=
      .recordBlock environment (.int 4) (.bytes [1]) (.bytes [root])
    let steps : List Step := [.call (.createEnvironment (.text "a") (.int 1) (.text "/a")),
      .call (.createEnvironment (.text "b") (.int 2) (.text "/b")), .call (record 1 7),
      .call (record 2 8)]
    let s : Store := (Step.runAll {} steps).2.tables
    let exitCode (height : Int) : Nat :=
      (Command.run "" [] s (.compare ["a", "b"] height false)).1.exitCode
    s.Reachable ∧ exitCode 4 = 1 ∧ exitCode 5 = 3 ∧ exitCode (-1) = 2 ∧
      Overflows (Command.compareArguments s ["a", "b"] 0x8000000000000000) ∧
      Command.run "" [] s (.compare ["a", "b"] 0x8000000000000000 false) =
        (.escape .integerTooLarge, s) := by
  intro record steps s exitCode
  have hs : s.Reachable := (Step.reachable_runAll (.new false) steps (by decide)).stores.1
  have htells : ∀ height, Command.ExitTells (Command.compareArguments s ["a", "b"] height)
      (Command.run "" [] s (.compare ["a", "b"] height false)).1 := by
    intro height
    obtain ⟨shown, hrun, htells⟩ := (hs.compare_exitTells ["a", "b"] height).1 "" [] false
    rwa [hrun]
  have hdiffer : (Command.compareArguments s ["a", "b"] 4).map (·.verdict) = .ok .disagreement := by
    decide +kernel
  have hlacking : Command.compareArguments s ["a", "b"] 5 = .error (.missingBlocks 5 [1, 2]) := by
    decide +kernel
  have hnegative : Command.compareArguments s ["a", "b"] (-1) =
      .error (.negativeHeight "height" (-1)) := by decide +kernel
  have hknown : ∀ ref ∈ [Reference.name "a", .name "b"], s.Knows ref := by decide +kernel
  have hseveral : s.MentionsSeveral [.name "a", .name "b"] :=
    ⟨⟨1, "a", .interpreter, "/a", some 4⟩, ⟨2, "b", .wasm, "/b", some 4⟩, by decide +kernel,
      by decide +kernel, by decide⟩
  have hover := (hs.compare_exitTells ["a", "b"] 0x8000000000000000).2.2
    ⟨by decide, [.name "a", .name "b"], by decide +kernel, .inr ⟨hknown, hseveral, le_rfl⟩⟩
  refine ⟨hs, ?_, ?_, ?_, hover, ?_⟩
  · obtain ⟨r, hr, hverdict⟩ := exists_of_map_eq_ok hdiffer
    exact (htells 4).divergence.2 (.inl ⟨r, hr, hverdict⟩)
  · exact (htells 5).recoverable.2 (.inr ⟨_, hlacking, rfl⟩)
  · refine (htells (-1)).fatal.2 ⟨⟨_, hnegative⟩, ?_⟩
    rw [hnegative]
    simp [Error.kind]
  · obtain ⟨shown, hrun, hshown⟩ :=
      (hs.compare_exitTells ["a", "b"] 0x8000000000000000).1 "" [] false
    rw [hrun, hshown.escaped hover]

end ReplayLedger
