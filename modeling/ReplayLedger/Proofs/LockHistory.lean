import ReplayLedger.Locks
import ReplayLedger.Proofs.SortedKeys
import Mathlib.Data.Nat.Find

/-!
# The slots of the lock registry

Programs of the lock registry are trees: a hold runs a program of its own, in which the environments
that it holds may be discarded and asked for again.  What the slots are at a moment cannot be read
off the step that came last.  It is told by the history, the requests and the discards so far in
the order of time (`LockStep.events`): a request *stands* until its environment is discarded, and
the slots are the environments with a request that stands, in the order of the first such requests
(`SlotsTell`).

A single request or discard keeps this (`SlotsTell.request`, `SlotsTell.discard`), and whatever a
step does to the slots it does through the requests and discards it makes (`environments_run`).
The locks that are held are no part of the history: every step leaves them as they were
(`held_run`), so a hold gives back on leaving what it took on entering (`HoldLaw`).

Main statement: `lockRegistry_law`.
-/

namespace ReplayLedger

/-- What happens to the slot of an environment: its lock is asked for, or the slot is discarded. -/
inductive LockEvent where
  | request (environment : Int)
  | discard (environment : Int)
  deriving DecidableEq, Repr

/-! ## Requests that stand -/

/-- The environment is asked for at the position, and is not discarded after that. -/
def Stands (events : List LockEvent) (environment : Int) (i : Nat) : Prop :=
  events[i]? = some (.request environment) ∧ ∀ j, i < j → events[j]? ≠ some (.discard environment)

/-- The first request for the environment since it was discarded last. -/
def FirstRequest (events : List LockEvent) (environment : Int) (i : Nat) : Prop :=
  Stands events environment i ∧ ∀ j, Stands events environment j → i ≤ j

/-- The slots are the environments that were asked for since they were discarded last, each once, in
the order of the first requests since then. -/
structure SlotsTell (events : List LockEvent) (slots : List Int) : Prop where
  nodup : slots.Nodup
  mem_iff : ∀ environment, environment ∈ slots ↔ ∃ i, Stands events environment i
  ordered : slots.Pairwise fun a b =>
    ∃ i j, FirstRequest events a i ∧ FirstRequest events b j ∧ i < j

section Standing

variable {events : List LockEvent} {a e : Int} {i : Nat}

/-- A request that stands is one of the events. -/
lemma Stands.lt_length (h : Stands events a i) : i < events.length :=
  (List.getElem?_eq_some_iff.1 h.1).1

/-- A request stands beside those that stood before. -/
lemma stands_concat_request :
    Stands (events ++ [.request e]) a i ↔ Stands events a i ∨ a = e ∧ i = events.length := by
  unfold Stands
  -- an earlier position, that of the new request, and the ones past the end
  rcases lt_trichotomy i events.length with hi | rfl | hi
  · have hsame : ∀ j : Nat, (events ++ [.request e])[j]? = some (LockEvent.discard a) ↔
        events[j]? = some (LockEvent.discard a) := by
      intro j
      grind
    rw [List.getElem?_append_left hi]
    simp [hsame, hi.ne]
  · have hpast : ∀ j : Nat, events.length < j →
        (events ++ [.request e])[j]? ≠ some (LockEvent.discard a) := by
      intro j hj
      grind
    grind
  · grind

/-- A discard leaves the requests for the other environments standing. -/
lemma stands_concat_discard :
    Stands (events ++ [.discard e]) a i ↔ Stands events a i ∧ a ≠ e := by
  unfold Stands
  constructor
  · rintro ⟨hrequest, hkept⟩
    have hi : i < events.length := by grind
    have hne : a ≠ e := by
      rintro rfl
      exact hkept events.length hi (by simp)
    refine ⟨⟨by grind, fun j hj => ?_⟩, hne⟩
    have := hkept j hj
    grind
  · rintro ⟨⟨hrequest, hkept⟩, hne⟩
    have hi : i < events.length := by grind
    refine ⟨by grind, fun j hj => ?_⟩
    have := hkept j hj
    grind

/-- A further request comes after the first ones of the environments that had one. -/
lemma FirstRequest.concat_request (h : FirstRequest events a i) :
    FirstRequest (events ++ [.request e]) a i := by
  refine ⟨stands_concat_request.2 (.inl h.1), fun j hj => ?_⟩
  rcases stands_concat_request.1 hj with hj | ⟨-, rfl⟩
  · exact h.2 j hj
  · exact h.1.lt_length.le

/-- A discard leaves the first requests for the other environments. -/
lemma FirstRequest.concat_discard (h : FirstRequest events a i) (hne : a ≠ e) :
    FirstRequest (events ++ [.discard e]) a i :=
  ⟨stands_concat_discard.2 ⟨h.1, hne⟩, fun j hj => h.2 j (stands_concat_discard.1 hj).1⟩

/-- A request for an environment that has none is its first one. -/
lemma firstRequest_concat (hnone : ¬ ∃ i, Stands events e i) :
    FirstRequest (events ++ [.request e]) e events.length := by
  refine ⟨stands_concat_request.2 (.inr ⟨rfl, rfl⟩), fun j hj => ?_⟩
  rcases stands_concat_request.1 hj with hj | ⟨-, rfl⟩
  · exact absurd ⟨j, hj⟩ hnone
  · exact le_rfl

end Standing

/-! ## One more request, one more discard -/

/-- What a request or a discard makes of the slots. -/
def LockEvent.applyTo (slots : List Int) : LockEvent → List Int
  | request e => if e ∈ slots then slots else slots ++ [e]
  | discard e => slots.filter (· ≠ e)

@[simp] lemma LockEvent.applyTo_request (slots : List Int) (e : Int) :
    applyTo slots (.request e) = if e ∈ slots then slots else slots ++ [e] := rfl

@[simp] lemma LockEvent.applyTo_discard (slots : List Int) (e : Int) :
    applyTo slots (.discard e) = slots.filter (· ≠ e) := rfl

namespace SlotsTell

variable {events : List LockEvent} {slots : List Int}

lemma nil : SlotsTell [] [] :=
  ⟨.nil, by simp [Stands], .nil⟩

/-- An environment with a slot has a first request. -/
lemma exists_first (h : SlotsTell events slots) {e : Int} (he : e ∈ slots) :
    ∃ i, FirstRequest events e i := by
  classical
  have hex := (h.mem_iff e).1 he
  exact ⟨Nat.find hex, Nat.find_spec hex, fun j hj => Nat.find_min' hex hj⟩

/-- A request makes a slot at the end, unless there is one. -/
lemma request (h : SlotsTell events slots) (e : Int) :
    SlotsTell (events ++ [.request e]) (LockEvent.applyTo slots (.request e)) := by
  have hordered : slots.Pairwise fun a b => ∃ i j, FirstRequest (events ++ [.request e]) a i ∧
      FirstRequest (events ++ [.request e]) b j ∧ i < j :=
    h.ordered.imp fun ⟨i, j, hi, hj, hlt⟩ => ⟨i, j, hi.concat_request, hj.concat_request, hlt⟩
  rw [LockEvent.applyTo_request]
  split
  case isTrue he =>
    refine ⟨h.nodup, fun a => ?_, hordered⟩
    simp only [h.mem_iff, stands_concat_request, exists_or]
    refine ⟨.inl, fun ha => ha.elim id ?_⟩
    rintro ⟨i, rfl, -⟩
    exact (h.mem_iff a).1 he
  case isFalse he =>
    refine ⟨?_, fun a => ?_, ?_⟩
    · exact List.nodup_append.2 ⟨h.nodup, by simp, by grind⟩
    · simp [h.mem_iff, stands_concat_request, exists_or]
    · refine List.pairwise_append.2 ⟨hordered, by simp, fun a ha b hb => ?_⟩
      obtain rfl : b = e := by simpa using hb
      obtain ⟨i, hi⟩ := h.exists_first ha
      exact ⟨i, _, hi.concat_request, firstRequest_concat (mt (h.mem_iff b).2 he), hi.1.lt_length⟩

/-- A discard takes the slot away. -/
lemma discard (h : SlotsTell events slots) (e : Int) :
    SlotsTell (events ++ [.discard e]) (LockEvent.applyTo slots (.discard e)) := by
  refine ⟨h.nodup.filter _, fun a => ?_, ?_⟩
  · simp [h.mem_iff, stands_concat_discard, exists_and_right]
  · refine List.pairwise_filter.2 (h.ordered.imp ?_)
    rintro a b ⟨i, j, hi, hj, hlt⟩ ha hb
    exact ⟨i, j, hi.concat_discard (by simpa using ha), hj.concat_discard (by simpa using hb), hlt⟩

/-- The slots keep telling the history while it goes on. -/
lemma foldl (h : SlotsTell events slots) (later : List LockEvent) :
    SlotsTell (events ++ later) (later.foldl LockEvent.applyTo slots) := by
  induction later generalizing events slots with
  | nil => simpa using h
  | cons event later ih =>
    have hone : SlotsTell (events ++ [event]) (LockEvent.applyTo slots event) := by
      cases event with
      | request e => exact h.request e
      | discard e => exact h.discard e
    simpa using ih hone

end SlotsTell

/-! ## What a program does to the slots -/

namespace LockRegistry

variable (r : LockRegistry) (e : Int)

/-- Asking for a lock does to the slots what a request does. -/
lemma environments_get :
    (r.get e).2.environments = LockEvent.applyTo r.environments (.request e) := by
  rw [LockEvent.applyTo_request]
  unfold get
  split
  case h_1 slot hslot =>
    have hmem := List.mem_of_find?_eq_some hslot
    have he : slot.environment = e := by simpa using List.find?_some hslot
    exact (if_pos (List.mem_map.2 ⟨slot, hmem, he⟩)).symm
  case h_2 hnone =>
    have hfree : e ∉ r.environments := by
      simpa [environments] using hnone
    rw [if_neg hfree]
    simp [environments]

/-- Discarding a lock does to the slots what a discard does. -/
lemma environments_discard :
    (r.discard e).environments = LockEvent.applyTo r.environments (.discard e) := by
  simp [discard, environments, List.filter_map, Function.comp_def]

/-- Taking locks does to the slots what requests do, in ascending order. -/
lemma environments_acquireAll (es : List Int) :
    (r.acquireAll es).environments =
      ((sortDistinct intLt es).map LockEvent.request).foldl LockEvent.applyTo r.environments := by
  unfold acquireAll
  generalize sortDistinct intLt es = ids
  induction ids generalizing r with
  | nil => rfl
  | cons id ids ih =>
    have hone : (r.acquire id).environments = LockEvent.applyTo r.environments (.request id) :=
      r.environments_get id
    simp [ih, hone]

/-- Giving locks back touches no slot. -/
@[simp] lemma environments_release (count : Nat) :
    (r.release count).environments = r.environments := rfl

/-! ## The locks that are held -/

/-- Asking for a lock takes none. -/
@[simp] lemma held_get : (r.get e).2.held = r.held := by
  unfold get
  split <;> rfl

@[simp] lemma held_discard : (r.discard e).held = r.held := rfl

/-- Taking a lock puts it on top of those that are held. -/
@[simp] lemma held_acquire : (r.acquire e).held = (r.get e).1 :: r.held := by
  rw [← r.held_get e]
  rfl

/-- The lock that is asked for is the one in the slot of the environment. -/
lemma mem_slots_get : ⟨e, (r.get e).1⟩ ∈ (r.get e).2.slots := by
  unfold get
  split
  case h_1 slot hslot =>
    obtain rfl : slot.environment = e := by simpa using List.find?_some hslot
    exact List.mem_of_find?_eq_some hslot
  case h_2 => simp

/-- Asking for a lock removes no slot. -/
lemma slots_subset_get : r.slots ⊆ (r.get e).2.slots := by
  unfold get
  split <;> simp

/-- Taking locks removes no slot. -/
lemma slots_subset_foldl_acquire (ids : List Int) : r.slots ⊆ (ids.foldl acquire r).slots := by
  induction ids generalizing r with
  | nil => exact List.Subset.refl _
  | cons id ids ih => exact List.Subset.trans (r.slots_subset_get id) (ih (r.acquire id))

/-- Taking locks puts the locks in the slots of the environments on top of those held before. -/
lemma exists_locks (ids : List Int) : ∃ locks : List Nat,
    List.Forall₂ (fun id lock => ⟨id, lock⟩ ∈ (ids.foldl acquire r).slots) ids locks ∧
      (ids.foldl acquire r).held = locks.reverse ++ r.held := by
  induction ids generalizing r with
  | nil => exact ⟨[], .nil, rfl⟩
  | cons id ids ih =>
    obtain ⟨locks, hslots, hheld⟩ := ih (r.acquire id)
    have hslot := slots_subset_foldl_acquire (r.acquire id) ids (r.mem_slots_get id)
    exact ⟨(r.get id).1 :: locks, .cons hslot hslots, by simp [hheld]⟩

end LockRegistry

namespace LockStep

mutual

/-- The requests and discards of a step, in the order of time.  A hold asks for its environments in
ascending order. -/
def events : LockStep → List LockEvent
  | get e => [.request e]
  | hold es inner => (sortDistinct intLt es).map .request ++ allEvents inner
  | discard e => [.discard e]

/-- The requests and discards of steps that are run one after the other. -/
def allEvents : List LockStep → List LockEvent
  | [] => []
  | step :: rest => events step ++ allEvents rest

end

mutual

/-- A step changes the slots by its requests and discards only. -/
theorem environments_run (r : LockRegistry) (step : LockStep) :
    (run r step).2.environments = step.events.foldl LockEvent.applyTo r.environments := by
  cases step with
  | get e => exact r.environments_get e
  | hold es inner =>
    have hinner := environments_runAll (r.acquireAll es) inner
    rw [r.environments_acquireAll] at hinner
    simpa [run, events] using hinner
  | discard e => exact r.environments_discard e

/-- Steps change the slots by their requests and discards only. -/
theorem environments_runAll (r : LockRegistry) (steps : List LockStep) :
    (runAll r steps).2.environments = (allEvents steps).foldl LockEvent.applyTo r.environments := by
  cases steps with
  | nil => rfl
  | cons step rest =>
    have hrest := environments_runAll (run r step).2 rest
    rw [environments_run r step] at hrest
    simpa [runAll, allEvents] using hrest

end

mutual

/-- After a step the same locks are held as before it. -/
theorem held_run (r : LockRegistry) (step : LockStep) : (run r step).2.held = r.held := by
  cases step with
  | get e => exact r.held_get e
  | hold es inner =>
    have hinner := held_runAll (r.acquireAll es) inner
    obtain ⟨locks, hslots, hheld⟩ := r.exists_locks (sortDistinct intLt es)
    -- a hold gives back by number, so it is to be the number that it took
    have hlength : locks.length = (sortDistinct intLt es).length := hslots.length_eq.symm
    have hentered : (r.acquireAll es).held = locks.reverse ++ r.held := hheld
    simp [run, LockRegistry.release, hinner, hentered, ← hlength]
  | discard e => exact r.held_discard e

/-- After steps the same locks are held as before them. -/
theorem held_runAll (r : LockRegistry) (steps : List LockStep) :
    (runAll r steps).2.held = r.held := by
  cases steps with
  | nil => rfl
  | cons step rest =>
    have hrest := held_runAll (run r step).2 rest
    rw [held_run r step] at hrest
    simpa [runAll] using hrest

end

/-! ## Moments of a run -/

/-- A run of the program on the registry `r` passes through the registry `r'`, before its first
step, after one of its steps, or so inside a hold; `events` are the requests and discards until
then. -/
inductive Passes : LockRegistry → List LockStep → List LockEvent → LockRegistry → Prop
  | start {r program} : Passes r program [] r
  | inside {r es inner rest events r'} : Passes (r.acquireAll es) inner events r' →
      Passes r (.hold es inner :: rest) ((sortDistinct intLt es).map .request ++ events) r'
  | after {r step rest events r'} : Passes (run r step).2 rest events r' →
      Passes r (step :: rest) (step.events ++ events) r'

/-- At every moment the slots are what the requests and discards until then make of those before. -/
lemma Passes.environments_eq {r r' : LockRegistry} {program : List LockStep}
    {events : List LockEvent} (h : Passes r program events r') :
    r'.environments = events.foldl LockEvent.applyTo r.environments := by
  induction h with
  | start => rfl
  | @inside r es _ _ _ _ _ ih => rw [ih, r.environments_acquireAll, List.foldl_append]
  | @after r step _ _ _ _ ih => rw [ih, environments_run r step, List.foldl_append]

/-- What a hold of environments `es` does to a registry. -/
structure HoldLaw (r : LockRegistry) (es : List Int) (inner : List LockStep) : Prop where
  /-- It asks for its environments in ascending order, each once, and takes the locks in their
  slots. -/
  enters : ∃ ids locks, ids.Pairwise (· < ·) ∧ (∀ e, e ∈ ids ↔ e ∈ es) ∧
    r.acquireAll es = ids.foldl LockRegistry.acquire r ∧
    List.Forall₂ (fun e lock => ⟨e, lock⟩ ∈ (r.acquireAll es).slots) ids locks ∧
    (r.acquireAll es).held = locks.reverse ++ r.held
  /-- How the environments are listed does not matter. -/
  alike : ∀ es', (∀ e, e ∈ es' ↔ e ∈ es) → run r (.hold es' inner) = run r (.hold es inner)
  /-- What runs inside leaves the locks that are held. -/
  keeps : (runAll (r.acquireAll es) inner).2.held = (r.acquireAll es).held
  /-- Leaving gives back the locks that were taken on entering, and touches nothing else. -/
  leaves : (run r (.hold es inner)).2 = { (runAll (r.acquireAll es) inner).2 with held := r.held }

/-- Every hold has its law, whatever runs inside. -/
lemma holdLaw (r : LockRegistry) (es : List Int) (inner : List LockStep) : HoldLaw r es inner where
  enters := by
    obtain ⟨locks, hslots, hheld⟩ := r.exists_locks (sortDistinct intLt es)
    exact ⟨sortDistinct intLt es, locks, ascending_sortDistinct intLt_iff es,
      fun e => mem_sortDistinct intLt e es, rfl, hslots, hheld⟩
  alike es' hsame := by
    have hsorted : sortDistinct intLt es' = sortDistinct intLt es :=
      sortDistinct_congr intLt_iff hsame
    simp [run, LockRegistry.acquireAll, hsorted]
  keeps := held_runAll _ inner
  leaves := by
    have hheld : (run r (.hold es inner)).2.held = r.held := held_run r _
    simpa [run, LockRegistry.release] using hheld

/-- Whatever program runs on a fresh registry: at every moment, inside of holds too, the slots are
the environments that were asked for since they were discarded last, each once and in the order of
the first requests since then.  A hold asks for its environments in ascending order, however they
are listed; what runs inside leaves the locks that are held; and leaving gives back exactly the
locks that were taken on entering, whatever became of their slots, and touches no slot. -/
theorem lockRegistry_law :
    (∀ program events r, Passes {} program events r → SlotsTell events r.environments) ∧
      ∀ r es inner, HoldLaw r es inner := by
  refine ⟨fun program events r h => ?_, holdLaw⟩
  have hfold := SlotsTell.nil.foldl events
  have hslots : r.environments = events.foldl LockEvent.applyTo [] := h.environments_eq
  simpa [hslots] using hfold

/-- The law at a hold of environments 1 and 2 in which the slot of environment 1 is discarded and
made again: it ends up behind the slot of environment 3, with another lock than the one that is
held. -/
theorem lockRegistry_law_of_recreated :
    Passes {} [.hold [2, 1, 2] [.discard 1, .get 3, .get 1]]
        [.request 1, .request 2, .discard 1, .request 3, .request 1]
        ⟨[⟨2, 1⟩, ⟨3, 2⟩, ⟨1, 3⟩], 4, [1, 0]⟩ ∧
      SlotsTell [.request 1, .request 2, .discard 1, .request 3, .request 1] [2, 3, 1] ∧
      HoldLaw {} [2, 1, 2] [.discard 1, .get 3, .get 1] := by
  have hpasses : Passes {} [.hold [2, 1, 2] [.discard 1, .get 3, .get 1]]
      [.request 1, .request 2, .discard 1, .request 3, .request 1]
      ⟨[⟨2, 1⟩, ⟨3, 2⟩, ⟨1, 3⟩], 4, [1, 0]⟩ :=
    .inside (.after (.after (.after .start)))
  exact ⟨hpasses, lockRegistry_law.1 _ _ _ hpasses, lockRegistry_law.2 _ _ _⟩

end LockStep

end ReplayLedger
