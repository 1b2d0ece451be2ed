import ReplayLedger.Proofs.Ingestion
import ReplayLedger.Proofs.Observation

/-!
# Payloads for several environments

Environments share their tables, but not their fates.  Payloads for several environments, in whatever
order they come, are accepted and refused as if every environment were fed alone
(`Store.Consistent.applyAll_mixed`): an environment follows its own history (`History.take`), and
nothing else moves it.  Two orders that only differ in how the payloads of different environments
alternate therefore lead to stores that cannot be told apart.
-/

namespace ReplayLedger

/-- A raw payload for an environment, which it names by its id or by its name.  A malformed one names
none. -/
def Addressed (owner : Environment) (raw : Value) : Prop :=
  ∀ payload, BlockPayload.ofValue raw = .ok payload →
    payload.environment = .id owner.id ∨ payload.environment = .name owner.name

section Taking

variable {σ : Type}

/-- The kind of error with which something is refused, if it is. -/
def refusal? : Except ErrorKind σ → Option ErrorKind
  | .ok _ => none
  | .error kind => some kind

/-- The state that is gone on with, which is as before if something is refused. -/
def kept (state : σ) : Except ErrorKind σ → σ
  | .ok next => next
  | .error _ => state

/-- Takes in raw payloads one after the other: for each the kind of error, if it is refused, and the
state in the end. -/
def takeAll (take : σ → Value → Except ErrorKind σ) (state : σ) :
    List Value → List (Option ErrorKind) × σ
  | [] => ([], state)
  | raw :: rest =>
    let (refusals, last) := takeAll take (kept state (take state raw)) rest
    (refusal? (take state raw) :: refusals, last)

end Taking

/-- Takes in a raw payload, by the history of its environment alone. -/
def History.take (history : History) (raw : Value) : Except ErrorKind History :=
  match BlockPayload.ofValue raw with
  | .ok payload => history.apply payload
  | .error e => .error e.kind

namespace Store

/-- Takes in a raw payload. -/
def take (s : Store) (raw : Value) : Except ErrorKind Store :=
  match s.applyBlock raw with
  | .ok (_, s') => .ok s'
  | .error e => .error e.kind

/-- Applies raw payloads one after the other: for each the kind of error, if it is refused, and the
store in the end. -/
def applyAll (s : Store) (raws : List Value) : List (Option ErrorKind) × Store := takeAll take s raws

variable {s s' : Store} {owner : Environment} {raw : Value}

namespace Consistent

/-- An environment is found under its id and under its name. -/
lemma resolve_of_addressed (hs : s.Consistent) (howner : owner ∈ s.environments)
    (haddressed : Addressed owner raw) {payload : BlockPayload}
    (hpayload : BlockPayload.ofValue raw = .ok payload) :
    s.resolve payload.environment = .ok owner := by
  rcases haddressed payload hpayload with hid | hname
  · have hfound : s.environment? owner.id = some owner := hs.environment?_eq_some.2 ⟨howner, rfl⟩
    rw [hid, resolve, getEnvironment, storableId_of_find? hfound, hfound]
    rfl
  · have hfound : s.environmentNamed? owner.name = some owner :=
      hs.environmentNamed?_eq_some.2 ⟨howner, rfl⟩
    rw [hname, resolve, getEnvironmentByName, hfound]
    rfl

/-- A payload for an environment is taken in or refused as by the history of the environment, and
changes no other. -/
lemma take_grows (hs : s.Consistent) (howner : owner ∈ s.environments)
    (haddressed : Addressed owner raw) :
    refusal? (s.take raw) = refusal? ((s.history owner.id).take raw) ∧
      Grows s owner.id (kept (s.history owner.id) ((s.history owner.id).take raw))
        (kept s (s.take raw)) := by
  have hrefused : Grows s owner.id (s.history owner.id) s :=
    ⟨hs, .refl s, rfl, fun _ _ => rfl, rfl⟩
  unfold Store.take History.take Store.applyBlock
  cases hpayload : BlockPayload.ofValue raw with
  | error e => exact ⟨rfl, hrefused⟩
  | ok payload =>
    have hagrees := hs.applyPayload_agrees (hs.resolve_of_addressed howner haddressed hpayload)
    simp only [ok_bind]
    generalize s.applyPayload payload = result, (s.history owner.id).apply payload = result'
      at hagrees ⊢
    cases hagrees with
    | ok hgrows => exact ⟨rfl, hgrows⟩
    | error => exact ⟨rfl, hrefused⟩

/-- Payloads for several environments are taken in or refused as by the histories of the
environments, each with its own payloads only. -/
lemma applyAll_mixed (mixed : List (Int × Value)) : ∀ {s : Store}, s.Consistent →
    (∀ x ∈ mixed, ∃ owner ∈ s.environments.map Environment.identity,
      owner.id = x.1 ∧ Addressed owner x.2) →
    (s.applyAll (mixed.map (·.2))).2.Consistent ∧
      (s.applyAll (mixed.map (·.2))).2.environments.map Environment.identity =
        s.environments.map Environment.identity ∧
      ∀ environment,
        under environment ((mixed.map (·.1)).zip (s.applyAll (mixed.map (·.2))).1) =
          (takeAll History.take (s.history environment) (under environment mixed)).1 ∧
        (s.applyAll (mixed.map (·.2))).2.history environment =
          (takeAll History.take (s.history environment) (under environment mixed)).2 := by
  induction mixed with
  | nil => exact fun hs _ => ⟨hs, rfl, fun _ => ⟨rfl, rfl⟩⟩
  | cons first rest ih =>
    intro s hs haddressed
    obtain ⟨environment, raw⟩ := first
    obtain ⟨identity, hmem, hid, hfirst⟩ := haddressed (environment, raw) List.mem_cons_self
    obtain ⟨owner, howner, rfl⟩ := List.mem_map.1 hmem
    obtain rfl : owner.id = environment := hid
    obtain ⟨hrefusal, hgrows⟩ := hs.take_grows howner hfirst
    obtain ⟨hconsistent, hidentities, hrest⟩ := ih hgrows.consistent (by
      rw [hgrows.identities]
      exact fun x hx => haddressed x (List.mem_cons_of_mem _ hx))
    refine ⟨hconsistent, hidentities.trans hgrows.identities, fun environment => ?_⟩
    obtain ⟨hrefusals, hhistory⟩ := hrest environment
    show under environment ((owner.id, refusal? (s.take raw)) :: _) = _ ∧ _ = _
    rw [under_cons, under_cons]
    -- a history takes its own payload as the store did, and another's leaves it
    by_cases hown : owner.id = environment
    · subst hown
      rw [hgrows.own] at hrefusals hhistory
      rw [if_pos rfl, if_pos rfl, hrefusal]
      exact ⟨congrArg _ hrefusals, hhistory⟩
    · rw [hgrows.others environment (Ne.symm hown)] at hrefusals hhistory
      rw [if_neg hown, if_neg hown]
      exact ⟨hrefusals, hhistory⟩

/-- An environment that is fed alone follows its history. -/
lemma applyAll_alone (raws : List Value) : ∀ {s : Store}, s.Consistent →
    owner ∈ s.environments.map Environment.identity → (∀ raw ∈ raws, Addressed owner raw) →
    (s.applyAll raws).1 = (takeAll History.take (s.history owner.id) raws).1 := by
  induction raws with
  | nil => exact fun _ _ _ => rfl
  | cons raw rest ih =>
    intro s hs hmem haddressed
    obtain ⟨row, hrow, rfl⟩ := List.mem_map.1 hmem
    obtain ⟨hrefusal, hgrows⟩ := hs.take_grows hrow (haddressed raw List.mem_cons_self)
    have hrest := ih hgrows.consistent (by rw [hgrows.identities]; exact hmem)
      fun raw hraw => haddressed raw (List.mem_cons_of_mem _ hraw)
    show refusal? (s.take raw) :: ((kept s (s.take raw)).applyAll rest).1 = _
    rw [hrest, hrefusal]
    exact congrArg _ (congrArg (fun history => (takeAll History.take history rest).1) hgrows.own)

/-- The height that an environment has reached is in its history. -/
lemma environments_eq (hs : s.Consistent) :
    s.environments = (s.environments.map Environment.identity).map
      fun row => { row with maxHeight := (s.history row.id).maxHeight } := by
  have hrow : ∀ row ∈ s.environments,
      { row.identity with maxHeight := (s.history row.id).maxHeight } = row := by
    intro row hrow
    have hfound : s.environment? row.id = some row := hs.environment?_eq_some.2 ⟨hrow, rfl⟩
    have hreached : (s.history row.id).maxHeight = row.maxHeight := by
      simp only [history, hfound, Option.bind_some]
    rw [hreached]
    rfl
  rw [List.map_map]
  exact ((List.map_congr_left hrow).trans (List.map_id _)).symm

/-- Orders that only differ in how the payloads of different environments alternate lead to twins. -/
lemma twins_applyAll (hs : s.Consistent) {mixed mixed' : List (Int × Value)}
    (haddressed : ∀ x ∈ mixed, ∃ owner ∈ s.environments.map Environment.identity,
      owner.id = x.1 ∧ Addressed owner x.2)
    (haddressed' : ∀ x ∈ mixed', ∃ owner ∈ s.environments.map Environment.identity,
      owner.id = x.1 ∧ Addressed owner x.2)
    (hsame : ∀ environment, under environment mixed = under environment mixed') :
    Twins (s.applyAll (mixed.map (·.2))).2 (s.applyAll (mixed'.map (·.2))).2 := by
  obtain ⟨hleft, hidentities, hfollow⟩ := applyAll_mixed mixed hs haddressed
  obtain ⟨hright, hidentities', hfollow'⟩ := applyAll_mixed mixed' hs haddressed'
  have hhistories : ∀ environment, (s.applyAll (mixed.map (·.2))).2.history environment =
      (s.applyAll (mixed'.map (·.2))).2.history environment := by
    intro environment
    rw [(hfollow environment).2, (hfollow' environment).2, hsame]
  refine ⟨hleft, hright, ?_, hhistories⟩
  rw [hleft.environments_eq, hright.environments_eq, hidentities, hidentities']
  simp only [hhistories]

end Consistent

end Store

/-! ## Interleavings -/

/-- A list that mixes the payloads of two environments and keeps the order of each. -/
structure Interleaving (a b : Int) (left right : List Value) (mixed : List (Int × Value)) : Prop where
  left : under a mixed = left
  right : under b mixed = right
  owners : ∀ x ∈ mixed, x.1 = a ∨ x.1 = b

namespace Interleaving

variable {a b : Int} {left right : List Value} {mixed mixed' : List (Int × Value)}

/-- Two ways to mix differ for no environment. -/
lemma under_eq (h : Interleaving a b left right mixed) (h' : Interleaving a b left right mixed')
    (environment : Int) : under environment mixed = under environment mixed' := by
  by_cases ha : environment = a
  · rw [ha, h.left, h'.left]
  · by_cases hb : environment = b
    · rw [hb, h.right, h'.right]
    · have hnone : ∀ {mixed}, Interleaving a b left right mixed → under environment mixed = [] := by
        intro mixed h
        rw [List.eq_nil_iff_forall_not_mem]
        intro raw hraw
        rcases h.owners _ (mem_under.1 hraw) with howner | howner
        · exact ha howner
        · exact hb howner
      rw [hnone h, hnone h']

/-- All payloads are addressed, if those of both environments are. -/
lemma addressed {s : Store} {A B : Environment} (hA : A ∈ s.environments) (hB : B ∈ s.environments)
    (h : Interleaving A.id B.id left right mixed) (hleft : ∀ raw ∈ left, Addressed A raw)
    (hright : ∀ raw ∈ right, Addressed B raw) :
    ∀ x ∈ mixed, ∃ owner ∈ s.environments.map Environment.identity,
      owner.id = x.1 ∧ Addressed owner x.2 := by
  rintro ⟨environment, raw⟩ hx
  rcases h.owners _ hx with howner | howner
  · obtain rfl : environment = A.id := howner
    exact ⟨A.identity, List.mem_map_of_mem hA, rfl, hleft raw (h.left ▸ mem_under.2 hx)⟩
  · obtain rfl : environment = B.id := howner
    exact ⟨B.identity, List.mem_map_of_mem hB, rfl, hright raw (h.right ▸ mem_under.2 hx)⟩

end Interleaving

/-- However payloads for two environments are mixed, each is accepted, or refused with the same kind
of error, as if its environment were fed alone; and two ways to mix them lead to stores that only
differ in the ids of rows. -/
theorem Store.Reachable.applyAll_interleaving {s : Store} (hs : s.Reachable) {A B : Environment}
    (hA : A ∈ s.environments) (hB : B ∈ s.environments) {left right : List Value}
    (hleft : ∀ raw ∈ left, Addressed A raw) (hright : ∀ raw ∈ right, Addressed B raw)
    {mixed : List (Int × Value)} (h : Interleaving A.id B.id left right mixed) :
    under A.id ((mixed.map (·.1)).zip (s.applyAll (mixed.map (·.2))).1) = (s.applyAll left).1 ∧
      under B.id ((mixed.map (·.1)).zip (s.applyAll (mixed.map (·.2))).1) = (s.applyAll right).1 ∧
      ∀ mixed', Interleaving A.id B.id left right mixed' →
        Alike (s.applyAll (mixed.map (·.2))).2 (s.applyAll (mixed'.map (·.2))).2 := by
  have haddressed := h.addressed hA hB hleft hright
  obtain ⟨-, -, hfollow⟩ := Consistent.applyAll_mixed mixed hs.consistent haddressed
  refine ⟨?_, ?_, fun mixed' h' => ?_⟩
  · rw [(hfollow A.id).1, h.left]
    exact (Consistent.applyAll_alone left hs.consistent (List.mem_map_of_mem hA) hleft).symm
  · rw [(hfollow B.id).1, h.right]
    exact (Consistent.applyAll_alone right hs.consistent (List.mem_map_of_mem hB) hright).symm
  · have haddressed' := h'.addressed hA hB hleft hright
    exact (hs.consistent.twins_applyAll haddressed haddressed' (h.under_eq h')).alike

/-- Two environments, one of which refuses its second payload, are fed in turn and one after the
other: the blocks of the first get other ids, and nothing else differs. -/
theorem Store.applyAll_interleaving_of_turns :
    let payload (environment : Value) (height : Int) (hash : UInt8) : Value :=
      .record [("environment", environment), ("height", .int height), ("index_hash", .bytes [hash]),
        ("trie_root_hash", .bytes [hash]), ("entries", .list []), ("contracts", .list []),
        ("executions", .list []), ("variables", .list []), ("maps", .list [])]
    let steps : List Step := [.call (.createEnvironment (.text "a") (.int 1) (.text "/a")),
      .call (.createEnvironment (.text "b") (.int 2) (.text "/b"))]
    let s : Store := (Step.runAll {} steps).2.tables
    let left : List Value := [payload (.text "a") 4 1, payload (.int 1) 4 2, payload (.text "a") 5 2]
    let right : List Value := [payload (.int 2) 4 1]
    let turns : List (Int × Value) := [(1, payload (.text "a") 4 1), (2, payload (.int 2) 4 1),
      (1, payload (.int 1) 4 2), (1, payload (.text "a") 5 2)]
    let oneByOne : List (Int × Value) := right.map (2, ·) ++ left.map (1, ·)
    (s.applyAll left).1 = [none, some .heightOutOfOrder, none] ∧
      under 1 ((turns.map (·.1)).zip (s.applyAll (turns.map (·.2))).1) = (s.applyAll left).1 ∧
      (s.applyAll (turns.map (·.2))).2 ≠ (s.applyAll (oneByOne.map (·.2))).2 ∧
      Alike (s.applyAll (turns.map (·.2))).2 (s.applyAll (oneByOne.map (·.2))).2 := by
  intro payload steps s left right turns oneByOne
  have hs : s.Reachable := (Step.reachable_runAll (.new false) steps (by decide)).stores.1
  let A : Environment := ⟨1, "a", .interpreter, "/a", none⟩
  let B : Environment := ⟨2, "b", .wasm, "/b", none⟩
  have haddressed : ∀ (owner : Environment) (raw : Value),
      ((BlockPayload.ofValue raw).toOption.any fun payload => payload.environment = .id owner.id ∨
        payload.environment = .name owner.name) → Addressed owner raw := by
    intro owner raw hraw payload hpayload
    simpa [hpayload, Except.toOption] using hraw
  have hleft : ∀ raw ∈ left, Addressed A raw := by
    intro raw hraw
    apply haddressed
    revert raw
    decide +kernel
  have hright : ∀ raw ∈ right, Addressed B raw := by
    intro raw hraw
    apply haddressed
    revert raw
    decide +kernel
  have hturns : Interleaving A.id B.id left right turns := ⟨rfl, rfl, by simp [turns, A, B]⟩
  have honeByOne : Interleaving A.id B.id left right oneByOne :=
    ⟨rfl, rfl, by simp [oneByOne, left, right, A, B]⟩
  have hall := hs.applyAll_interleaving (A := A) (B := B) (by decide +kernel) (by decide +kernel)
    hleft hright hturns
  exact ⟨by decide +kernel, hall.1, by decide +kernel, hall.2.2 oneByOne honeByOne⟩

end ReplayLedger
