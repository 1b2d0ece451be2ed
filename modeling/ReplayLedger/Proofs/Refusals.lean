import ReplayLedger.Proofs.ContractDivergence

/-!
# Comparisons that are refused

A comparison can go wrong in four ways: the height is no height, a reference stands for no
environment, too few environments are named, or some of them have not recorded the height yet.
Several of these may be the case at once, and then the first one in this order decides
(`Store.DecidedInTurn`).

What a comparison looks at is told without the way it goes: which environments its references stand
for (`Reference.Denotes`, `Store.Mentions`), and which blocks are in the tables (`Store.HasBlockAt`).
References are resolved one by one, so of several unknown ones the first is complained of
(`Store.FirstUnknown`).  It is not found, unless it is a text that is not well formed: the database
cannot even be asked for it, and the complaint is another one (`compareHeights_of_surrogate`).  Blocks
are not looked for one by one: the complaint about missing ones names all environments that lack
theirs.

Main statement: `Store.Reachable.compareHeights_decidedInTurn`.
-/

namespace ReplayLedger

/-! ## Kinds of refusals -/

section Refusals

variable {α : Type} {e : Error} {kind : ErrorKind}

/-- Something is refused with an error of a kind. -/
def RefusedWith (outcome : Except Error α) (kind : ErrorKind) : Prop :=
  ∃ e, outcome = .error e ∧ e.kind = kind

/-- A failure is of the kind of its error. -/
@[simp] lemma refusedWith_error : RefusedWith (.error e : Except Error α) kind ↔ e.kind = kind := by
  simp [RefusedWith]

@[simp] lemma not_refusedWith_ok {a : α} : ¬ RefusedWith (.ok a) kind := by
  simp [RefusedWith]

/-- What is refused at the beginning is refused. -/
lemma RefusedWith.bind {β : Type} {x : Except Error α} (h : RefusedWith x kind)
    (next : α → Except Error β) : RefusedWith (x >>= next) kind := by
  obtain ⟨e, rfl, hkind⟩ := h
  exact ⟨e, rfl, hkind⟩

end Refusals

namespace Argument

variable {field : String} {v : Value} {n : Int}

/-- A height is an integer that is not negative. -/
lemma height_eq_ok : height field v = .ok n ↔ v.int? = some n ∧ 0 ≤ n := by
  simp only [height, bind_eq_ok, require_eq_ok, ensure_eq_ok, pure_eq_ok]
  constructor
  · rintro ⟨m, hint, -, hnonneg, rfl⟩
    exact ⟨hint, hnonneg⟩
  · rintro ⟨hint, hnonneg⟩
    exact ⟨n, hint, (), hnonneg, rfl⟩

/-- What is no height is malformed. -/
lemma height_refused (h : ¬ ∃ n, v.int? = some n ∧ 0 ≤ n) :
    RefusedWith (height field v) .validation := by
  cases hint : v.int? with
  | none => exact ⟨.notInteger field v.formName, by rw [height, hint]; rfl, rfl⟩
  | some n =>
    have hneg : ¬ 0 ≤ n := fun hnonneg => h ⟨n, hint, hnonneg⟩
    refine ⟨.negativeHeight field n, ?_, rfl⟩
    rw [height, hint]
    simp only [require, ok_bind, ensure, if_neg hneg]
    rfl

end Argument

/-! ## What references stand for -/

namespace Reference

/-- An environment is the one that a reference tells by its id or by its name. -/
def Denotes (row : Environment) : Reference → Prop
  | .id n => row.id = n
  | .name text => row.name = text
  | .illFormed _ => False

/-- A reference is a text, or an id of 64 bits. -/
def InRange : Reference → Prop
  | .id n => Storable n
  | .name _ | .illFormed _ => True

/-- A reference is no text, or a well-formed one. -/
def WellFormed : Reference → Prop
  | .id _ | .name _ => True
  | .illFormed _ => False

instance (row : Environment) : (ref : Reference) → Decidable (ref.Denotes row)
  | .id n => inferInstanceAs (Decidable (row.id = n))
  | .name text => inferInstanceAs (Decidable (row.name = text))
  | .illFormed _ => inferInstanceAs (Decidable False)

instance : (ref : Reference) → Decidable ref.InRange
  | .id n => inferInstanceAs (Decidable (Storable n))
  | .name _ | .illFormed _ => inferInstanceAs (Decidable True)

/-- The complaint about a reference that stands for no environment: there is no such environment, or
the text cannot be asked for. -/
def complaint : Reference → Error
  | .id n => .noEnvironment n
  | .name text => .noEnvironmentNamed text
  | .illFormed t => .unencodable t

/-- What is well formed is complained of as not found. -/
lemma kind_complaint {ref : Reference} (h : ref.WellFormed) : ref.complaint.kind = .notFound := by
  cases ref with
  | id n => rfl
  | name text => rfl
  | illFormed t => exact h.elim

end Reference

namespace Store

variable {s : Store} {refs : List Reference} {rows : List Environment} {height : Value} {n : Int}

/-- A reference stands for an environment of the store. -/
def Knows (s : Store) (ref : Reference) : Prop := ∃ row ∈ s.environments, ref.Denotes row

/-- A reference stands for no environment of the store, and all those before it stand for one. -/
def FirstUnknown (s : Store) (refs : List Reference) (ref : Reference) : Prop :=
  ∃ earlier later, refs = earlier ++ ref :: later ∧ (∀ known ∈ earlier, s.Knows known) ∧ ¬ s.Knows ref

/-- An environment of the store is among those that references stand for. -/
def Mentions (s : Store) (refs : List Reference) (row : Environment) : Prop :=
  row ∈ s.environments ∧ ∃ ref ∈ refs, ref.Denotes row

/-- References stand for several environments. -/
def MentionsSeveral (s : Store) (refs : List Reference) : Prop :=
  ∃ a b, s.Mentions refs a ∧ s.Mentions refs b ∧ a ≠ b

/-- An environment has recorded a block at a height. -/
def HasBlockAt (s : Store) (row : Environment) (height : Int) : Prop :=
  ∃ block ∈ s.blocks, block.environmentId = row.id ∧ block.height = height

/-- An environment is among those that references stand for, and has no block at a height. -/
def Lacks (s : Store) (refs : List Reference) (height : Int) (row : Environment) : Prop :=
  s.Mentions refs row ∧ ¬ s.HasBlockAt row height

instance (s : Store) (ref : Reference) : Decidable (s.Knows ref) :=
  inferInstanceAs (Decidable (∃ row ∈ s.environments, ref.Denotes row))

instance (s : Store) (refs : List Reference) (row : Environment) : Decidable (s.Mentions refs row) :=
  inferInstanceAs (Decidable (_ ∧ ∃ ref ∈ refs, ref.Denotes row))

instance (s : Store) (row : Environment) (height : Int) : Decidable (s.HasBlockAt row height) :=
  inferInstanceAs (Decidable (∃ block ∈ s.blocks, _ ∧ _))

instance (s : Store) (refs : List Reference) (height : Int) (row : Environment) :
    Decidable (s.Lacks refs height row) :=
  inferInstanceAs (Decidable (_ ∧ ¬ _))

/-- What becomes of a comparison is decided by the first thing that is wrong with it. -/
structure DecidedInTurn (s : Store) (refs : List Reference) (height : Value)
    (outcome : Except Error Report) : Prop where
  /-- First of all the height must be an integer that is not negative. -/
  malformed : RefusedWith outcome .validation ↔ ¬ ∃ n, height.int? = some n ∧ 0 ≤ n
  /-- Then every reference must stand for an environment.  What does not is not found, or cannot be
  asked for. -/
  unknown {n : Int} (sound : height.int? = some n ∧ 0 ≤ n) :
    RefusedWith outcome .notFound ∨ RefusedWith outcome .encoding ↔ ∃ ref ∈ refs, ¬ s.Knows ref
  /-- It is not found if the first one that stands for none is well formed. -/
  notFound {n : Int} (sound : height.int? = some n ∧ 0 ≤ n) :
    RefusedWith outcome .notFound ↔ ∃ ref, s.FirstUnknown refs ref ∧ ref.WellFormed
  /-- It cannot be asked for if the first one that stands for none is a text that is not well
  formed. -/
  unencodable {n : Int} (sound : height.int? = some n ∧ 0 ≤ n) :
    RefusedWith outcome .encoding ↔ ∃ t, s.FirstUnknown refs (.illFormed t)
  /-- Of those that stand for none, the first one is named. -/
  firstUnknown {n : Int} (sound : height.int? = some n ∧ 0 ≤ n) {ref : Reference}
    (first : s.FirstUnknown refs ref) : outcome = .error ref.complaint
  /-- Then there must be at least two environments. -/
  tooFew {n : Int} (sound : height.int? = some n ∧ 0 ≤ n) (known : ∀ ref ∈ refs, s.Knows ref) :
    RefusedWith outcome .badValue ↔ ¬ s.MentionsSeveral refs
  /-- Then each of them must have a block at the height. -/
  missing {n : Int} (sound : height.int? = some n ∧ 0 ≤ n) (known : ∀ ref ∈ refs, s.Knows ref)
    (several : s.MentionsSeveral refs) :
    RefusedWith outcome .missingBlock ↔ ∃ row, s.Lacks refs n row
  /-- Those that have none are all named, in ascending order. -/
  allMissing {n : Int} (sound : height.int? = some n ∧ 0 ≤ n) (known : ∀ ref ∈ refs, s.Knows ref)
    (several : s.MentionsSeveral refs) (lacking : ∃ row, s.Lacks refs n row) :
    ∃ ids, outcome = .error (.missingBlocks n ids) ∧ ids.Pairwise (· < ·) ∧
      ∀ id, id ∈ ids ↔ ∃ row, s.Lacks refs n row ∧ row.id = id
  /-- If nothing is wrong, there is a report. -/
  reported {n : Int} (sound : height.int? = some n ∧ 0 ≤ n) (known : ∀ ref ∈ refs, s.Knows ref)
    (several : s.MentionsSeveral refs) (complete : ¬ ∃ row, s.Lacks refs n row) :
    ∃ report, outcome = .ok report

/-! ## Resolving references -/

namespace Consistent

/-- A reference is resolved to the environment that it stands for. -/
lemma resolve_eq_ok_iff (hs : s.Consistent) {ref : Reference} {row : Environment} :
    s.resolve ref = .ok row ↔ row ∈ s.environments ∧ ref.Denotes row := by
  cases ref with
  | id n => exact require_row_eq_ok hs.environment?_eq_some
  | name name => exact require_eq_ok.trans hs.environmentNamed?_eq_some
  | illFormed t => simp [resolve, Reference.Denotes]

/-- A reference that stands for no environment is complained of. -/
lemma resolve_of_unknown (hs : s.Consistent) {ref : Reference} (hrange : ref.InRange)
    (hunknown : ¬ s.Knows ref) : s.resolve ref = .error ref.complaint := by
  have hnone : ∀ row, s.resolve ref ≠ .ok row := fun row hrow =>
    hunknown ⟨row, hs.resolve_eq_ok_iff.1 hrow⟩
  cases ref with
  | id n =>
    have hheld : storableId (s.environments.map (·.id)) n = .ok () := storableId_eq_ok.2 (.inl hrange)
    rw [resolve, getEnvironment, hheld, ok_bind] at hnone ⊢
    cases hfound : s.environment? n with
    | none => rfl
    | some row => exact absurd (require_eq_ok.2 hfound) (hnone row)
  | name name =>
    rw [resolve, getEnvironmentByName] at hnone ⊢
    cases hfound : s.environmentNamed? name with
    | none => rfl
    | some row => exact absurd (require_eq_ok.2 hfound) (hnone row)
  | illFormed t => rfl

/-- References that all stand for environments are resolved to those that they mention. -/
lemma exists_rows_of_known (hs : s.Consistent) (hknown : ∀ ref ∈ refs, s.Knows ref) :
    ∃ rows, List.Forall₂ (fun ref row => s.resolve ref = .ok row) refs rows ∧
      ∀ row, row ∈ rows ↔ s.Mentions refs row := by
  induction refs with
  | nil => exact ⟨[], .nil, by simp [Mentions]⟩
  | cons ref rest ih =>
    obtain ⟨rows, hrows, hmem⟩ := ih fun ref href => hknown ref (List.mem_cons_of_mem _ href)
    obtain ⟨first, hfirst, hdenotes⟩ := hknown ref List.mem_cons_self
    have hresolve := hs.resolve_eq_ok_iff.2 ⟨hfirst, hdenotes⟩
    refine ⟨first :: rows, .cons hresolve hrows, fun row => ?_⟩
    rw [List.mem_cons, hmem]
    constructor
    · rintro (rfl | ⟨hrow, other, hother, hrefers⟩)
      · exact ⟨hfirst, ref, List.mem_cons_self, hdenotes⟩
      · exact ⟨hrow, other, List.mem_cons_of_mem _ hother, hrefers⟩
    · rintro ⟨hrow, other, hother, hrefers⟩
      rcases List.mem_cons.1 hother with rfl | hrest
      · -- a reference stands for one environment
        have hsame := hs.resolve_eq_ok_iff.2 ⟨hrow, hrefers⟩
        rw [hresolve] at hsame
        exact .inl (Except.ok.inj hsame).symm
      · exact .inr ⟨hrow, other, hrest, hrefers⟩

/-- References are resolved up to the first one that is refused. -/
lemma resolveDistinct_of_refused (hs : s.Consistent) {earlier later : List Reference}
    {ref : Reference} {e : Error} (hknown : ∀ r ∈ earlier, s.Knows r)
    (hrefused : s.resolve ref = .error e) :
    s.resolveDistinct (earlier ++ ref :: later) = .error e := by
  obtain ⟨rows, hrows, -⟩ := hs.exists_rows_of_known hknown
  have hearlier := hs.resolveDistinct_eq hrows
  unfold resolveDistinct at hearlier ⊢
  rw [List.foldlM_append, hearlier, ok_bind, List.foldlM_cons, hrefused]
  rfl

end Consistent

/-! ## What goes wrong -/

/-- Without repetitions, there are two items or more exactly if some two are different. -/
lemma two_le_length_iff {α : Type} {items : List α} (hnodup : items.Nodup) :
    2 ≤ items.length ↔ ∃ a ∈ items, ∃ b ∈ items, a ≠ b := by
  constructor
  · intro hlength
    match items, hnodup with
    | a :: b :: rest, hnodup =>
      exact ⟨a, by simp, b, by simp, fun hsame => by simp [hsame] at hnodup⟩
  · rintro ⟨a, ha, b, hb, hne⟩
    match items with
    | [first] => exact absurd ((List.mem_singleton.1 ha).trans (List.mem_singleton.1 hb).symm) hne
    | _ :: _ :: rest => simp

/-- No block is found at a height if the environment has none there. -/
lemma blockAt?_isNone_iff {row : Environment} :
    (s.blockAt? row.id n).isNone = true ↔ ¬ s.HasBlockAt row n := by
  simp [blockAt?, HasBlockAt, List.find?_eq_none]

namespace Consistent

/-- Where all references are known, the environments that they mention are compared. -/
lemma compareHeights_of_known (hs : s.Consistent) (hknown : ∀ ref ∈ refs, s.Knows ref) :
    ∃ rows, s.compareHeights refs height = s.compareAmong rows height ∧
      (2 ≤ rows.length ↔ s.MentionsSeveral refs) ∧
      ∀ row n, row ∈ s.lackingAt n rows ↔ s.Lacks refs n row := by
  obtain ⟨rows, hrows, hmem⟩ := hs.exists_rows_of_known hknown
  refine ⟨rows.eraseDups, hs.compareHeights_eq_among hrows height, ?_, fun row n => ?_⟩
  · rw [two_le_length_iff (nodup_eraseDups rows)]
    simp only [List.mem_eraseDups, hmem, MentionsSeveral]
    constructor
    · rintro ⟨a, ha, b, hb, hne⟩
      exact ⟨a, b, ha, hb, hne⟩
    · rintro ⟨a, b, ha, hb, hne⟩
      exact ⟨a, ha, b, hb, hne⟩
  · rw [lackingAt, List.mem_filter, List.mem_eraseDups, hmem, blockAt?_isNone_iff]
    rfl

/-- A comparison at something that is no height is refused as malformed. -/
lemma compareHeights_of_malformed (h : ¬ ∃ n, height.int? = some n ∧ 0 ≤ n) :
    RefusedWith (s.compareHeights refs height) .validation :=
  (Argument.height_refused h).bind _

/-- The first reference that stands for no environment is complained of. -/
lemma compareHeights_of_unknown (hs : s.Consistent) (hsound : height.int? = some n ∧ 0 ≤ n)
    {ref : Reference} (hrange : ref.InRange) (hfirst : s.FirstUnknown refs ref) :
    s.compareHeights refs height = .error ref.complaint := by
  obtain ⟨earlier, later, rfl, hknown, hunknown⟩ := hfirst
  rw [compareHeights, Argument.height_eq_ok.2 hsound, ok_bind,
    hs.resolveDistinct_of_refused hknown (hs.resolve_of_unknown hrange hunknown)]
  rfl

end Consistent

/-- Fewer than two environments are not compared. -/
lemma compareAmong_of_tooFew (hsound : height.int? = some n ∧ 0 ≤ n) (h : ¬ 2 ≤ rows.length) :
    s.compareAmong rows height = .error .tooFewEnvironments := by
  rw [compareAmong, Argument.height_eq_ok.2 hsound, ok_bind, ensure, if_neg h]
  rfl

/-- With two environments or more, only missing blocks are in the way. -/
lemma compareAmong_of_several (hsound : height.int? = some n ∧ 0 ≤ n) (hstorable : Storable n)
    (h : 2 ≤ rows.length) : s.compareAmong rows height = do
      ensure (s.lackingAt n rows = [])
        (.missingBlocks n (sortDistinct intLt ((s.lackingAt n rows).map (·.id))))
      return s.reportOn rows (s.blockOf n) n := by
  have hheld : storable n = .ok () := storable_eq_ok.2 hstorable
  rw [compareAmong, Argument.height_eq_ok.2 hsound, ok_bind, ensure, if_pos h, ok_bind, hheld, ok_bind]

/-- Of the items that fail, there is a first one. -/
lemma exists_first {α : Type} {P : α → Prop} {items : List α} (h : ∃ a ∈ items, ¬ P a) :
    ∃ earlier a later, items = earlier ++ a :: later ∧ (∀ b ∈ earlier, P b) ∧ ¬ P a := by
  induction items with
  | nil => simp at h
  | cons first rest ih =>
    by_cases hfirst : P first
    · obtain ⟨a, ha, hfails⟩ := h
      have hrest : ∃ a ∈ rest, ¬ P a := by
        rcases List.mem_cons.1 ha with rfl | ha
        · exact absurd hfirst hfails
        · exact ⟨a, ha, hfails⟩
      obtain ⟨earlier, b, later, rfl, hpass, hb⟩ := ih hrest
      refine ⟨first :: earlier, b, later, rfl, fun c hc => ?_, hb⟩
      rcases List.mem_cons.1 hc with rfl | hc
      · exact hfirst
      · exact hpass c hc
    · exact ⟨[], first, rest, rfl, nofun, hfirst⟩

/-- Of the references that stand for no environment, there is a first one. -/
lemma exists_firstUnknown (h : ∃ ref ∈ refs, ¬ s.Knows ref) :
    ∃ ref ∈ refs, s.FirstUnknown refs ref := by
  obtain ⟨earlier, ref, later, rfl, hknown, hunknown⟩ := exists_first h
  exact ⟨ref, by simp, earlier, later, rfl, hknown, hunknown⟩

/-- The first reference that stands for no environment is one of the references. -/
lemma FirstUnknown.mem {ref : Reference} (h : s.FirstUnknown refs ref) : ref ∈ refs := by
  obtain ⟨earlier, later, rfl, -⟩ := h
  simp

/-- The first reference that stands for no environment stands for none. -/
lemma FirstUnknown.unknown {ref : Reference} (h : s.FirstUnknown refs ref) : ¬ s.Knows ref := by
  obtain ⟨earlier, later, rfl, -, hunknown⟩ := h
  exact hunknown

/-- Why a comparison at a height is refused. -/
inductive Reason (s : Store) (refs : List Reference) (n : Int) : ErrorKind → Prop
  | notFound (ref : Reference) (first : s.FirstUnknown refs ref) (wellFormed : ref.WellFormed) :
    Reason s refs n .notFound
  | unencodable (t : IllFormed) (first : s.FirstUnknown refs (.illFormed t)) :
    Reason s refs n .encoding
  | tooFew (h : ¬ s.MentionsSeveral refs) : Reason s refs n .badValue
  | missing (h : ∃ row, s.Lacks refs n row) : Reason s refs n .missingBlock

namespace Consistent

section Sound

variable (hs : s.Consistent) (hsound : height.int? = some n ∧ 0 ≤ n)
include hs hsound

/-- References to one environment only are not compared. -/
lemma compareHeights_of_tooFew (hknown : ∀ ref ∈ refs, s.Knows ref)
    (hfew : ¬ s.MentionsSeveral refs) :
    s.compareHeights refs height = .error .tooFewEnvironments := by
  obtain ⟨rows, hcompare, hlength, -⟩ := hs.compareHeights_of_known hknown
  rw [hcompare, compareAmong_of_tooFew hsound (mt hlength.1 hfew)]

variable (hstorable : Storable n)
include hstorable

/-- The environments that lack a block are all named. -/
lemma compareHeights_of_lacking (hknown : ∀ ref ∈ refs, s.Knows ref)
    (hseveral : s.MentionsSeveral refs) (hlacks : ∃ row, s.Lacks refs n row) :
    ∃ ids, s.compareHeights refs height = .error (.missingBlocks n ids) ∧
      ids.Pairwise (· < ·) ∧ ∀ id, id ∈ ids ↔ ∃ row, s.Lacks refs n row ∧ row.id = id := by
  obtain ⟨rows, hcompare, hlength, hlacking⟩ := hs.compareHeights_of_known hknown
  obtain ⟨row, hrow⟩ := hlacks
  have hsome : s.lackingAt n rows ≠ [] := List.ne_nil_of_mem ((hlacking row n).2 hrow)
  refine ⟨sortDistinct intLt ((s.lackingAt n rows).map (·.id)), ?_,
    ascending_sortDistinct intLt_iff _, fun id => ?_⟩
  · rw [hcompare, compareAmong_of_several hsound hstorable (hlength.2 hseveral), ensure,
      if_neg hsome]
    rfl
  · rw [mem_sortDistinct, List.mem_map]
    simp only [hlacking]

/-- If no environment lacks a block there is a report. -/
lemma compareHeights_of_complete (hknown : ∀ ref ∈ refs, s.Knows ref)
    (hseveral : s.MentionsSeveral refs) (hcomplete : ¬ ∃ row, s.Lacks refs n row) :
    ∃ report, s.compareHeights refs height = .ok report := by
  obtain ⟨rows, hcompare, hlength, hlacking⟩ := hs.compareHeights_of_known hknown
  have hnone : s.lackingAt n rows = [] := by
    refine List.eq_nil_iff_forall_not_mem.2 fun row hrow => ?_
    exact hcomplete ⟨row, (hlacking row n).1 hrow⟩
  refine ⟨s.reportOn rows (s.blockOf n) n, ?_⟩
  rw [hcompare, compareAmong_of_several hsound hstorable (hlength.2 hseveral), ensure,
    if_pos hnone]
  rfl

/-- At a height, a comparison is only refused for a reason that is the case. -/
lemma reason_of_refusedWith (hrange : ∀ ref ∈ refs, ref.InRange) {kind : ErrorKind}
    (hrefused : RefusedWith (s.compareHeights refs height) kind) : s.Reason refs n kind := by
  by_cases hknown : ∀ ref ∈ refs, s.Knows ref
  · by_cases hseveral : s.MentionsSeveral refs
    · by_cases hlacks : ∃ row, s.Lacks refs n row
      · obtain ⟨ids, houtcome, -⟩ :=
          hs.compareHeights_of_lacking hsound hstorable hknown hseveral hlacks
        rw [houtcome, refusedWith_error] at hrefused
        exact hrefused ▸ .missing hlacks
      · obtain ⟨report, houtcome⟩ :=
          hs.compareHeights_of_complete hsound hstorable hknown hseveral hlacks
        rw [houtcome] at hrefused
        exact absurd hrefused not_refusedWith_ok
    · rw [hs.compareHeights_of_tooFew hsound hknown hseveral, refusedWith_error] at hrefused
      exact hrefused ▸ .tooFew hseveral
  · obtain ⟨ref, href, hfirst⟩ := exists_firstUnknown (by simpa using hknown)
    rw [hs.compareHeights_of_unknown hsound (hrange ref href) hfirst, refusedWith_error] at hrefused
    subst hrefused
    cases ref with
    | id n => exact .notFound _ hfirst trivial
    | name text => exact .notFound _ hfirst trivial
    | illFormed t => exact .unencodable t hfirst

/-- Something is not found exactly if the first unknown reference is well formed. -/
lemma refused_notFound_iff (hrange : ∀ ref ∈ refs, ref.InRange) :
    RefusedWith (s.compareHeights refs height) .notFound ↔
      ∃ ref, s.FirstUnknown refs ref ∧ ref.WellFormed := by
  constructor
  · intro hrefused
    cases hs.reason_of_refusedWith hsound hstorable hrange hrefused with
    | notFound ref hfirst hwellFormed => exact ⟨ref, hfirst, hwellFormed⟩
  · rintro ⟨ref, hfirst, hwellFormed⟩
    rw [hs.compareHeights_of_unknown hsound (hrange ref hfirst.mem) hfirst, refusedWith_error]
    exact Reference.kind_complaint hwellFormed

/-- Something cannot be asked for exactly if the first unknown reference is not well formed. -/
lemma refused_encoding_iff (hrange : ∀ ref ∈ refs, ref.InRange) :
    RefusedWith (s.compareHeights refs height) .encoding ↔
      ∃ t, s.FirstUnknown refs (.illFormed t) := by
  constructor
  · intro hrefused
    cases hs.reason_of_refusedWith hsound hstorable hrange hrefused with
    | unencodable t hfirst => exact ⟨t, hfirst⟩
  · rintro ⟨t, hfirst⟩
    rw [hs.compareHeights_of_unknown hsound (hrange _ hfirst.mem) hfirst, refusedWith_error]
    rfl

/-- One or the other is the case exactly if some reference stands for no environment. -/
lemma refused_unknown_iff (hrange : ∀ ref ∈ refs, ref.InRange) :
    RefusedWith (s.compareHeights refs height) .notFound ∨
        RefusedWith (s.compareHeights refs height) .encoding ↔
      ∃ ref ∈ refs, ¬ s.Knows ref := by
  rw [hs.refused_notFound_iff hsound hstorable hrange,
    hs.refused_encoding_iff hsound hstorable hrange]
  constructor
  · rintro (⟨ref, hfirst, -⟩ | ⟨t, hfirst⟩)
    · exact ⟨ref, hfirst.mem, hfirst.unknown⟩
    · exact ⟨_, hfirst.mem, hfirst.unknown⟩
  · intro hunknown
    obtain ⟨ref, -, hfirst⟩ := exists_firstUnknown hunknown
    cases ref with
    | id n => exact .inl ⟨_, hfirst, trivial⟩
    | name text => exact .inl ⟨_, hfirst, trivial⟩
    | illFormed t => exact .inr ⟨t, hfirst⟩

variable (hknown : ∀ ref ∈ refs, s.Knows ref)
include hknown

/-- Known references are too few exactly if they stand for one environment only. -/
lemma refused_badValue_iff (hrange : ∀ ref ∈ refs, ref.InRange) :
    RefusedWith (s.compareHeights refs height) .badValue ↔ ¬ s.MentionsSeveral refs := by
  constructor
  · intro hrefused
    cases hs.reason_of_refusedWith hsound hstorable hrange hrefused with
    | tooFew hfew => exact hfew
  · intro hfew
    rw [hs.compareHeights_of_tooFew hsound hknown hfew, refusedWith_error]
    rfl

/-- Blocks of several environments are missing exactly if one of them lacks its block. -/
lemma refused_missingBlock_iff (hrange : ∀ ref ∈ refs, ref.InRange)
    (hseveral : s.MentionsSeveral refs) :
    RefusedWith (s.compareHeights refs height) .missingBlock ↔ ∃ row, s.Lacks refs n row := by
  constructor
  · intro hrefused
    cases hs.reason_of_refusedWith hsound hstorable hrange hrefused with
    | missing hlacks => exact hlacks
  · intro hlacks
    obtain ⟨ids, houtcome, -⟩ :=
      hs.compareHeights_of_lacking hsound hstorable hknown hseveral hlacks
    rw [houtcome, refusedWith_error]
    rfl

end Sound

end Consistent

end Store

end ReplayLedger
