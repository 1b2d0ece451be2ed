import ReplayLedger.Proofs.Ingestion
import ReplayLedger.Proofs.Associations

/-!
# The history that accepted payloads leave

An accepted payload adds its parts to the history of its environment and nothing else
(`History.eq_append_of_apply`).  `History.ofLog` is the history that a list of accepted payloads
leaves: table by table it is the parts of the payloads, one after the other, with their heights.
-/

namespace ReplayLedger

/-- What a payload says of its block. -/
def BlockPayload.facts (payload : BlockPayload) : BlockFacts :=
  ⟨payload.height, payload.indexHash, payload.trieRoot⟩

/-- What a row says of its block. -/
def Block.facts (row : Block) : BlockFacts := ⟨row.height, row.indexHash, row.trieRoot⟩

namespace History

/-! ## What an accepted payload adds -/

/-- The history after a payload was accepted. -/
def append (history : History) (payload : BlockPayload) : History where
  maxHeight := some payload.height
  blocks := history.blocks ++ [payload.facts]
  entries := history.entries ++ payload.entries.map (payload.height, ·)
  contracts := history.contracts ++ payload.contracts.map (payload.height, ·)
  executions := history.executions ++ payload.executions.map (payload.height, ·)
  vars := payload.varWrites.foldl (fun known write => declare known write.slot) history.vars
  varWrites := history.varWrites ++ payload.varWrites.map (payload.height, ·)
  maps := payload.mapWrites.foldl (fun known write => declare known write.map) history.maps
  mapWrites := history.mapWrites ++ payload.mapWrites.map (payload.height, ·)

/-- What a loop adds, if every step adds one part and parts can be added together. -/
lemma eq_add_of_foldlM {γ : Type} {f : History → γ → Except ErrorKind History}
    (add : History → List γ → History) (hnil : ∀ history, add history [] = history)
    (hcons : ∀ history part rest, add (add history [part]) rest = add history (part :: rest))
    (hstep : ∀ history part history', f history part = .ok history' → history' = add history [part])
    (parts : List γ) : ∀ {history history' : History},
      parts.foldlM f history = .ok history' → history' = add history parts := by
  induction parts with
  | nil =>
    intro history history' h
    rw [hnil]
    exact (pure_eq_ok.1 h).symm
  | cons part rest ih =>
    intro history history' h
    rw [List.foldlM_cons] at h
    obtain ⟨history₁, hpart, hrest⟩ := bind_eq_ok.1 h
    rw [ih hrest, hstep history part history₁ hpart, hcons]

variable {history history' : History} {height : Int} {payload : BlockPayload}

/-- Entries are written down in their order. -/
lemma entries_of_foldlM {writes : List EntryWrite}
    (h : writes.foldlM (writeEntry height) history = .ok history') :
    history' = { history with entries := history.entries ++ writes.map (height, ·) } := by
  refine eq_add_of_foldlM (fun history writes =>
    { history with entries := history.entries ++ writes.map (height, ·) }) (by simp) (by simp)
    (fun history write history' hstep => ?_) writes h
  simp only [writeEntry, bind_eq_ok, demand_eq_ok, pure_eq_ok] at hstep
  obtain ⟨-, -, -, -, rfl⟩ := hstep
  rfl

/-- Deployments are written down in their order. -/
lemma contracts_of_foldlM {deployments : List Deployment}
    (h : deployments.foldlM (deploy height) history = .ok history') :
    history' = { history with contracts := history.contracts ++ deployments.map (height, ·) } := by
  refine eq_add_of_foldlM (fun history deployments =>
    { history with contracts := history.contracts ++ deployments.map (height, ·) }) (by simp) (by simp)
    (fun history deployment history' hstep => ?_) deployments h
  simp only [deploy, bind_eq_ok, demand_eq_ok, pure_eq_ok] at hstep
  obtain ⟨-, -, -, -, rfl⟩ := hstep
  rfl

/-- Invocations are written down in their order. -/
lemma executions_of_foldlM {invocations : List Invocation}
    (h : invocations.foldlM (invoke height) history = .ok history') :
    history' = { history with executions := history.executions ++ invocations.map (height, ·) } := by
  refine eq_add_of_foldlM (fun history invocations =>
    { history with executions := history.executions ++ invocations.map (height, ·) }) (by simp)
    (by simp) (fun history invocation history' hstep => ?_) invocations h
  simp only [invoke, bind_eq_ok, demand_eq_ok, pure_eq_ok] at hstep
  obtain ⟨-, -, -, -, -, -, rfl⟩ := hstep
  rfl

/-- Writes to variables are written down in their order, and a variable is declared when it is first
met. -/
lemma varWrites_of_foldlM {writes : List VariableWrite}
    (h : writes.foldlM (writeVariable height) history = .ok history') :
    history' = { history with
      vars := writes.foldl (fun known write => declare known write.slot) history.vars
      varWrites := history.varWrites ++ writes.map (height, ·) } := by
  refine eq_add_of_foldlM (fun history writes =>
    { history with
      vars := writes.foldl (fun known write => declare known write.slot) history.vars
      varWrites := history.varWrites ++ writes.map (height, ·) }) (by simp) (by simp)
    (fun history write history' hstep => ?_) writes h
  simp only [writeVariable, bind_eq_ok, demand_eq_ok, pure_eq_ok] at hstep
  obtain ⟨-, -, -, -, rfl⟩ := hstep
  rfl

/-- Writes to maps are written down in their order, and a map is declared when it is first met. -/
lemma mapWrites_of_foldlM {writes : List MapWrite}
    (h : writes.foldlM (writeMap height) history = .ok history') :
    history' = { history with
      maps := writes.foldl (fun known write => declare known write.map) history.maps
      mapWrites := history.mapWrites ++ writes.map (height, ·) } := by
  refine eq_add_of_foldlM (fun history writes =>
    { history with
      maps := writes.foldl (fun known write => declare known write.map) history.maps
      mapWrites := history.mapWrites ++ writes.map (height, ·) }) (by simp) (by simp)
    (fun history write history' hstep => ?_) writes h
  simp only [writeMap, bind_eq_ok, demand_eq_ok, pure_eq_ok] at hstep
  obtain ⟨-, -, -, -, -, -, -, -, rfl⟩ := hstep
  rfl

/-- An accepted payload advances the environment, and all its parts are added. -/
theorem eq_append_of_apply (h : history.apply payload = .ok history') :
    history' = history.append payload ∧
      ∀ reached, history.maxHeight = some reached → reached < payload.height := by
  simp only [apply, bind_eq_ok] at h
  obtain ⟨h₁, hblock, h₂, hentries, h₃, hcontracts, h₄, hexecutions, h₅, hvars, hmaps⟩ := h
  simp only [recordBlock, bind_eq_ok, demand_eq_ok, pure_eq_ok] at hblock
  obtain ⟨-, -, -, -, -, -, -, hadvances, -, -, -, -, -, -, rfl⟩ := hblock
  refine ⟨?_, fun reached hreached => by simpa [hreached] using hadvances⟩
  rw [mapWrites_of_foldlM hmaps, varWrites_of_foldlM hvars, executions_of_foldlM hexecutions,
    contracts_of_foldlM hcontracts, entries_of_foldlM hentries]
  rfl

/-! ## The history that a log leaves -/

/-- The history that payloads leave, one after the other. -/
def ofLog (log : List BlockPayload) : History := log.foldl append {}

/-- One more payload is appended to the history of the log. -/
lemma ofLog_concat (log : List BlockPayload) (payload : BlockPayload) :
    ofLog (log ++ [payload]) = (ofLog log).append payload := by
  rw [ofLog, List.foldl_append]
  rfl

end History

/-- The parts of one kind of the payloads of a log, with the heights of their blocks. -/
def dated {γ : Type} (parts : BlockPayload → List γ) (log : List BlockPayload) : List (Int × γ) :=
  log.flatMap fun payload => (parts payload).map (payload.height, ·)

/-- The parts of one more payload come last, with its height. -/
@[simp] lemma dated_concat {γ : Type} (parts : BlockPayload → List γ) (log : List BlockPayload)
    (payload : BlockPayload) :
    dated parts (log ++ [payload]) = dated parts log ++ (parts payload).map (payload.height, ·) := by
  simp [dated]

/-- A part has the height of the payload that it is from. -/
lemma mem_dated {γ : Type} {parts : BlockPayload → List γ} {log : List BlockPayload} {height : Int}
    {part : γ} : (height, part) ∈ dated parts log ↔
      ∃ payload ∈ log, part ∈ parts payload ∧ payload.height = height := by
  simp only [dated, List.mem_flatMap, List.mem_map, Prod.mk.injEq]
  grind

/-- Parts of one height are all there under it, and none is under another. -/
lemma under_map {γ : Type} {height height' : Int} (parts : List γ) :
    under height (parts.map (height', ·)) = if height' = height then parts else [] := by
  by_cases h : height' = height
  · simp [under, h, List.filter_map, Function.comp_def]
  · simp [under, h, List.filter_map, Function.comp_def]

/-- The parts with a height are those of the payloads with that height. -/
lemma under_dated {γ : Type} (parts : BlockPayload → List γ) (log : List BlockPayload) (height : Int) :
    under height (dated parts log) =
      (log.filter fun payload => payload.height = height).flatMap parts := by
  induction log with
  | nil => rfl
  | cons first rest ih =>
    have hsplit : dated parts (first :: rest) =
        (parts first).map (first.height, ·) ++ dated parts rest := by
      simp [dated]
    rw [hsplit, under_append, under_map, ih]
    by_cases h : first.height = height
    · simp [h]
    · simp [h]

/-- Where the heights of a log rise, a height belongs to one payload. -/
lemma filter_height_eq {log : List BlockPayload} (hrise : (log.map (·.height)).Pairwise (· < ·))
    {payload : BlockPayload} (h : payload ∈ log) :
    log.filter (fun other => other.height = payload.height) = [payload] := by
  rw [List.pairwise_map] at hrise
  induction log with
  | nil => cases h
  | cons first rest ih =>
    obtain ⟨hfirst, hrest⟩ := List.pairwise_cons.1 hrise
    rcases List.mem_cons.1 h with rfl | hmem
    · have hnone : rest.filter (fun other => other.height = payload.height) = [] := by
        rw [List.filter_eq_nil_iff]
        intro other hother
        have hlt := hfirst other hother
        rw [decide_eq_true_eq]
        omega
      rw [List.filter_cons_of_pos (by simp), hnone]
    · have hlt := hfirst payload hmem
      rw [List.filter_cons_of_neg (by rw [decide_eq_true_eq]; omega), ih hrest hmem]

/-- Where the heights of a log rise, the parts with the height of a payload are those of the
payload. -/
lemma under_dated_of_mem {γ : Type} (parts : BlockPayload → List γ) {log : List BlockPayload}
    (hrise : (log.map (·.height)).Pairwise (· < ·)) {payload : BlockPayload} (h : payload ∈ log) :
    under payload.height (dated parts log) = parts payload := by
  rw [under_dated, filter_height_eq hrise h]
  simp

/-- The parts up to a height are those of the payloads up to it. -/
lemma filter_dated {γ : Type} (parts : BlockPayload → List γ) (log : List BlockPayload)
    (p : γ → Prop) [DecidablePred p] (height : Int) :
    (dated parts log).filter (fun written => p written.2 ∧ written.1 ≤ height) =
      (dated parts (log.filter fun payload => payload.height ≤ height)).filter
        fun written => p written.2 := by
  induction log with
  | nil => rfl
  | cons first rest ih =>
    have hsplit : dated parts (first :: rest) =
        (parts first).map (first.height, ·) ++ dated parts rest := by
      simp [dated]
    rw [hsplit, List.filter_append, ih]
    by_cases h : first.height ≤ height
    · simp [h, dated, List.filter_map, Function.comp_def]
    · simp [h, dated, List.filter_map, Function.comp_def]

/-- Where the heights of a log rise, those of the parts never fall. -/
lemma pairwise_dated {γ : Type} (parts : BlockPayload → List γ) {log : List BlockPayload}
    (hrise : (log.map (·.height)).Pairwise (· < ·)) :
    (dated parts log).Pairwise fun a b => a.1 ≤ b.1 := by
  rw [List.pairwise_map] at hrise
  refine List.pairwise_flatMap.2 ⟨fun payload _ => ?_, hrise.imp fun {first second} hlt => ?_⟩
  · rw [List.pairwise_map]
    exact List.pairwise_of_forall fun _ _ => Int.le_refl _
  · simp only [List.mem_map]
    rintro _ ⟨_, -, rfl⟩ _ ⟨_, -, rfl⟩
    exact Int.le_of_lt hlt

namespace History

/-- The history of a log, table by table. -/
lemma ofLog_eq (log : List BlockPayload) :
    (ofLog log).blocks = log.map BlockPayload.facts ∧
      (ofLog log).entries = dated BlockPayload.entries log ∧
      (ofLog log).contracts = dated BlockPayload.contracts log ∧
      (ofLog log).executions = dated BlockPayload.executions log ∧
      (ofLog log).varWrites = dated BlockPayload.varWrites log ∧
      (ofLog log).mapWrites = dated BlockPayload.mapWrites log := by
  induction log using List.reverseRecOn with
  | nil => exact ⟨rfl, rfl, rfl, rfl, rfl, rfl⟩
  | append_singleton log payload ih =>
    obtain ⟨hblocks, hentries, hcontracts, hexecutions, hvars, hmaps⟩ := ih
    rw [ofLog_concat]
    simp [append, hblocks, hentries, hcontracts, hexecutions, hvars, hmaps]

/-- What is declared is known from then on. -/
lemma mem_declare {α : Type} [DecidableEq α] {known : List α} {name name' : α} :
    name' ∈ declare known name ↔ name' ∈ known ∨ name' = name := by
  unfold declare
  by_cases h : name ∈ known
  · rw [if_pos h]
    grind
  · rw [if_neg h]
    simp

/-- What was known or is declared one after the other is known in the end. -/
lemma mem_foldl_declare {α γ : Type} [DecidableEq α] {nameOf : γ → α} {writes : List γ} {name : α} :
    ∀ {known : List α}, name ∈ writes.foldl (fun known write => declare known (nameOf write)) known ↔
      name ∈ known ∨ ∃ write ∈ writes, nameOf write = name := by
  induction writes with
  | nil => simp
  | cons write rest ih =>
    intro known
    rw [List.foldl_cons, ih, mem_declare]
    grind

/-- The variables of a history are those that a payload wrote. -/
lemma mem_ofLog_vars {log : List BlockPayload} {slot : VariableSlot} :
    slot ∈ (ofLog log).vars ↔ ∃ payload ∈ log, ∃ write ∈ payload.varWrites, write.slot = slot := by
  induction log using List.reverseRecOn with
  | nil => simp [ofLog]
  | append_singleton log payload ih =>
    rw [ofLog_concat]
    simp only [append, mem_foldl_declare, ih]
    grind

/-- The maps of a history are those that a payload wrote. -/
lemma mem_ofLog_maps {log : List BlockPayload} {name : MapName} :
    name ∈ (ofLog log).maps ↔ ∃ payload ∈ log, ∃ write ∈ payload.mapWrites, write.map = name := by
  induction log using List.reverseRecOn with
  | nil => simp [ofLog]
  | append_singleton log payload ih =>
    rw [ofLog_concat]
    simp only [append, mem_foldl_declare, ih]
    grind

/-- A log has reached the height of its last payload. -/
lemma ofLog_maxHeight (log : List BlockPayload) :
    (ofLog log).maxHeight = log.getLast?.map (·.height) := by
  induction log using List.reverseRecOn with
  | nil => rfl
  | append_singleton log payload _ =>
    rw [ofLog_concat]
    simp [append]

/-- The heights of a log go on rising with an accepted payload. -/
lemma rise_of_apply {log : List BlockPayload} (hrise : (log.map (·.height)).Pairwise (· < ·))
    (h : (ofLog log).apply payload = .ok history') :
    ((log ++ [payload]).map (·.height)).Pairwise (· < ·) := by
  have hadvances := (eq_append_of_apply h).2
  rw [ofLog_maxHeight, ← List.getLast?_map] at hadvances
  rw [List.map_append]
  exact rise_concat_of_getLast? hrise hadvances

end History

end ReplayLedger
