import ReplayLedger.Proofs.History
import Mathlib.Data.List.Forall2

/-!
# Reading the history

What the store answers about an environment is what its history says.  Look-ups by ids become
look-ups by names: a key is free in a table exactly if no row of the history has it, and the rows
that a read selects by ids are, one by one, those that it would select from the history by names
(`Table.forall₂_view`).
-/

namespace ReplayLedger

section Lists

variable {α β γ : Type} {R : α → β → Prop} {rows : List α} {forms : List β}

/-- Lists that go together item by item give the same list. -/
lemma map_eq_map_of_forall₂ {f : α → γ} {g : β → γ} (h : List.Forall₂ R rows forms)
    (hfg : ∀ a b, R a b → f a = g b) : rows.map f = forms.map g := by
  induction h with
  | nil => rfl
  | cons hab _ ih => rw [List.map_cons, List.map_cons, hfg _ _ hab, ih]

/-- A selection that leaves nothing out gives what the forms give. -/
lemma filterMap_eq_map_of_forall₂ {f : α → Option γ} {g : β → γ} (h : List.Forall₂ R rows forms)
    (hfg : ∀ a b, R a b → f a = some (g b)) : rows.filterMap f = forms.map g := by
  induction h with
  | nil => rfl
  | cons hab _ ih => rw [List.filterMap_cons_some (hfg _ _ hab), List.map_cons, ih]

/-- What holds between rows in their order holds between what is shown of them. -/
lemma pairwise_of_forall₂ {P : α → α → Prop} {Q : β → β → Prop} (h : List.Forall₂ R rows forms)
    (hPQ : ∀ a b a' b', R a b → R a' b' → P a a' → Q b b') (hrows : rows.Pairwise P) :
    forms.Pairwise Q := by
  induction h with
  | nil => exact .nil
  | @cons a b rest rest' hab hrest ih =>
    obtain ⟨hhead, htail⟩ := List.pairwise_cons.1 hrows
    refine List.pairwise_cons.2 ⟨fun b' hb' => ?_, ih htail⟩
    obtain ⟨a', ha', hab'⟩ : ∃ a' ∈ rest, R a' b' := by
      clear ih htail hrows hhead
      induction hrest with
      | nil => cases hb'
      | cons hxy _ ih =>
        rcases List.mem_cons.1 hb' with rfl | hb'
        · exact ⟨_, List.mem_cons_self, hxy⟩
        · obtain ⟨a', ha', hab'⟩ := ih hb'
          exact ⟨a', List.mem_cons_of_mem _ ha', hab'⟩
    exact hPQ a b a' b' hab hab' (hhead a' ha')

/-- The heads of lists that go together go together. -/
lemma rel_head?_of_forall₂ (h : List.Forall₂ R rows forms) : Option.Rel R rows.head? forms.head? := by
  cases h with
  | nil => exact .none
  | cons hab _ => exact .some hab

/-- Options that go together give the same option. -/
lemma map_eq_map_of_rel {f : α → γ} {g : β → γ} {a : Option α} {b : Option β}
    (h : Option.Rel R a b) (hfg : ∀ a b, R a b → f a = g b) : a.map f = b.map g := by
  cases h with
  | none => rfl
  | some hab => exact congrArg some (hfg _ _ hab)

/-- Two ways to compare rows choose the same one if they agree on all rows in their order. -/
lemma greatest?_congr {below below' : α → α → Bool}
    (h : rows.Pairwise fun a b => below a b = below' a b) :
    greatest? below rows = greatest? below' rows := by
  cases rows with
  | nil => rfl
  | cons first rest =>
    have hfold : ∀ (rest : List α) (best : α),
        (best :: rest).Pairwise (fun a b => below a b = below' a b) →
        rest.foldl (fun best x => if below best x then x else best) best =
          rest.foldl (fun best x => if below' best x then x else best) best := by
      intro rest
      induction rest with
      | nil => exact fun _ _ => rfl
      -- whichever of the two wins, it is one of the list and compares alike
      | cons x rest ih =>
        intro best hbest
        obtain ⟨hhead, htail⟩ := List.pairwise_cons.1 hbest
        rw [List.foldl_cons, List.foldl_cons, hhead x List.mem_cons_self]
        apply ih
        by_cases hx : below' best x
        · rwa [if_pos hx]
        · rw [if_neg hx]
          exact List.pairwise_cons.2 ⟨fun y hy => hhead y (List.mem_cons_of_mem _ hy),
            (List.pairwise_cons.1 htail).2⟩
    exact congrArg some (hfold rest first h)

/-- Rows that are compared like what is shown of them are chosen like it. -/
lemma rel_greatest?_of_forall₂ {below : α → α → Bool} {below' : β → β → Bool}
    (h : List.Forall₂ R rows forms)
    (hbelow : ∀ a b a' b', R a b → R a' b' → below a a' = below' b b') :
    Option.Rel R (greatest? below rows) (greatest? below' forms) := by
  cases h with
  | nil => exact .none
  | @cons first first' rest rest' hfirst hrest =>
    have hfold : ∀ best best', R best best' →
        R (rest.foldl (fun best x => if below best x then x else best) best)
          (rest'.foldl (fun best x => if below' best x then x else best) best') := by
      clear hfirst
      induction hrest with
      | nil => exact fun _ _ hbest => hbest
      | @cons x x' _ _ hx _ ih =>
        intro best best' hbest
        rw [List.foldl_cons, List.foldl_cons, hbelow best best' x x' hbest hx]
        apply ih
        by_cases hle : below' best' x'
        · rwa [if_pos hle, if_pos hle]
        · rwa [if_neg hle, if_neg hle]
    exact .some (hfold first first' hfirst)

/-- Where every row is below the ones behind it, the last one is chosen. -/
lemma greatest?_eq_getLast? {below : α → α → Bool} (h : rows.Pairwise fun a b => below a b = true) :
    greatest? below rows = rows.getLast? := by
  cases rows with
  | nil => rfl
  | cons first rest =>
    have hfold : ∀ (rest : List α) (best : α), (best :: rest).Pairwise (fun a b => below a b = true) →
        rest.foldl (fun best x => if below best x then x else best) best =
          (best :: rest).getLast (List.cons_ne_nil _ _) := by
      intro rest
      induction rest with
      | nil => exact fun _ _ => rfl
      | cons x rest ih =>
        intro best hbest
        obtain ⟨hhead, htail⟩ := List.pairwise_cons.1 hbest
        rw [List.foldl_cons, if_pos (hhead x List.mem_cons_self), ih x htail]
        rfl
    rw [List.getLast?_eq_some_getLast (List.cons_ne_nil first rest)]
    exact congrArg some (hfold rest first h)

/-- Keys that are unique together with heights are unique at one height. -/
lemma nodup_map_under {κ : Type} {key : β → κ} {height : Int} {rows : List (Int × β)}
    (h : (rows.map fun row => (row.1, key row.2)).Nodup) : ((under height rows).map key).Nodup := by
  rw [under, List.map_map, List.Nodup, List.pairwise_map]
  rw [List.Nodup, List.pairwise_map] at h
  refine (h.filter _).imp_of_mem fun {a b} ha hb hne hkey => hne ?_
  have ha' : a.1 = height := by simpa using (List.mem_filter.1 ha).2
  have hb' : b.1 = height := by simpa using (List.mem_filter.1 hb).2
  rw [ha', hb', show key a.2 = key b.2 from hkey]

end Lists

namespace Table

open Store

variable {α β : Type} {T : Table α β} {s : Store} {environment : Int}

/-- Rows of a class, one by one with what is shown of them. -/
lemma forall₂_view (hs : s.Consistent) {p : α → Bool} {q : β → Bool}
    (hpq : ∀ row ∈ T.rows s, ∀ owner b, T.form? s row = some (owner, b) →
      (p row = true ↔ owner = environment ∧ q b = true)) :
    List.Forall₂ (fun row b => row ∈ T.rows s ∧ T.form? s row = some (environment, b))
      ((T.rows s).filter p) ((T.view s environment).filter q) := by
  -- for any rows of the table, so that the induction can drop the first
  have hrows : ∀ rows : List α, (∀ row ∈ rows, row ∈ T.rows s) →
      List.Forall₂ (fun row b => row ∈ T.rows s ∧ T.form? s row = some (environment, b)) (rows.filter p)
        ((under environment (rows.filterMap (T.form? s))).filter q) := by
    intro rows
    induction rows with
    | nil => exact fun _ => .nil
    | cons row rest ih =>
      intro hmem
      have hrest := ih fun row hrow => hmem row (List.mem_cons_of_mem _ hrow)
      have hrow := hmem row List.mem_cons_self
      obtain ⟨⟨owner, b⟩, hform⟩ := form?_isSome hs hrow
      have hboth := hpq row hrow owner b hform
      have hsplit : (row :: rest).filterMap (T.form? s) = [(owner, b)] ++ rest.filterMap (T.form? s) :=
        List.filterMap_cons_some hform
      rw [hsplit, under_append, under_singleton, List.filter_append]
      by_cases hp : p row = true
      · obtain ⟨rfl, hq⟩ := hboth.1 hp
        rw [List.filter_cons_of_pos hp, if_pos rfl, List.filter_cons_of_pos hq]
        exact .cons ⟨hrow, hform⟩ hrest
      · rw [List.filter_cons_of_neg hp]
        have hnone : (if owner = environment then [b] else []).filter q = [] := by
          by_cases howner : owner = environment
          · have hq : ¬ q b = true := fun hq => hp (hboth.2 ⟨howner, hq⟩)
            rw [if_pos howner, List.filter_cons_of_neg hq, List.filter_nil]
          · rw [if_neg howner, List.filter_nil]
        rw [hnone, List.nil_append]
        exact hrest
  exact hrows (T.rows s) fun _ h => h

/-- The first row of a class and what is shown of it. -/
lemma find?_view (hs : s.Consistent) {p : α → Bool} {q : β → Bool} {R : α → β → Prop}
    (hpq : ∀ row ∈ T.rows s, ∀ owner b, T.form? s row = some (owner, b) →
      (p row = true ↔ owner = environment ∧ q b = true))
    (hR : ∀ row ∈ T.rows s, ∀ b, T.form? s row = some (environment, b) → q b = true → R row b) :
    Option.Rel R ((T.rows s).find? p) ((T.view s environment).find? q) := by
  have hrel := rel_head?_of_forall₂ (forall₂_view hs hpq)
  rw [List.head?_filter, List.head?_filter] at hrel
  generalize hrow : (T.rows s).find? p = found, hform : (T.view s environment).find? q = form at hrel
  cases hrel with
  | none => exact .none
  | some h => exact .some (hR _ h.1 _ h.2 (List.find?_some hform))

/-- Keys that are unique in a table are unique in what is shown of it. -/
lemma nodup_map_view (hs : s.Consistent) {κ κ' : Type} {key : α → κ} {key' : β → κ'}
    (hkeys : ((T.rows s).map key).Nodup)
    (hsame : ∀ row ∈ T.rows s, ∀ row' ∈ T.rows s, ∀ b b', T.form? s row = some (environment, b) →
      T.form? s row' = some (environment, b') → key' b = key' b' → key row = key row') :
    ((T.view s environment).map key').Nodup := by
  have hrows : List.Forall₂ (fun row b => row ∈ T.rows s ∧ T.form? s row = some (environment, b))
      ((T.rows s).filter fun row => (T.form? s row).any (·.1 = environment))
      ((T.view s environment).filter fun _ => true) := by
    refine forall₂_view hs ?_
    intro row _ owner b hform
    simp [hform]
  rw [List.filter_true] at hrows
  rw [List.Nodup, List.pairwise_map] at hkeys ⊢
  refine pairwise_of_forall₂ hrows ?_ (hkeys.filter _)
  rintro row b row' b' ⟨hrow, hform⟩ ⟨hrow', hform'⟩ hne hkey
  exact hne (hsame row hrow row' hrow' b b' hform hform' hkey)

end Table

namespace Store

variable {s : Store} {environment block contract height : Int} {qualifiedId : String}

/-! ## Keys that are free -/

/-- A hash is free for an environment if no block of its history has it. -/
lemma blockWithHash?_eq_none {indexHash : Bytes} :
    s.blockWithHash? environment indexHash = none ↔
      ∀ block ∈ (s.history environment).blocks, block.indexHash ≠ indexHash := by
  have hnone : s.blockWithHash? environment indexHash = none ↔
      indexHash ∉ (s.history environment).blocks.map (·.indexHash) := by
    apply Table.blocks.find?_eq_none_iff
    intro row _
    simp
  simpa using hnone

/-- A height is free for an environment if no block of its history is at it. -/
lemma blockAt?_eq_none : s.blockAt? environment height = none ↔
    height ∉ (s.history environment).blocks.map (·.height) := by
  apply Table.blocks.find?_eq_none_iff
  intro row _
  simp

namespace Consistent

/-- A key is free at a block if the history has no entry with it at the height. -/
lemma entry?_eq_none (hs : s.Consistent) (hplace : s.place? block = some (environment, height))
    {keyHash : Bytes} :
    s.entry? block keyHash = none ↔ (height, keyHash) ∉ (s.history environment).entryKeys := by
  apply Table.entries.find?_eq_none_iff
  intro row _
  simp [← hs.place?_inj hplace]

/-- An identifier is free for an environment if its history has no contract with it. -/
lemma contractNamed?_eq_none (hs : s.Consistent) :
    s.contractNamed? environment qualifiedId = none ↔
      qualifiedId ∉ (s.history environment).contractNames := by
  apply Table.contracts.find?_eq_none_iff
  intro row hrow
  obtain ⟨-, -, home, hhome, -, hid, howned⟩ := hs.links.contracts row hrow
  simp [← hid, hs.place?_of_mem hhome, howned]

/-- A contract was not executed for a transaction if the history has no such invocation at the
height. -/
lemma executionOf?_eq_none (hs : s.Consistent)
    (hplace : s.place? block = some (environment, height))
    (hname : s.contractName? contract = some (environment, qualifiedId)) {transactionId : Bytes} :
    s.executionOf? block contract transactionId = none ↔
      (height, ⟨qualifiedId, transactionId⟩) ∉ (s.history environment).executions := by
  rw [← List.map_id (s.history environment).executions]
  apply Table.executions.find?_eq_none_iff
  intro row hrow
  obtain ⟨home, hhome, invoked, hinvoked, hid, hinvokedId, howned⟩ := hs.links.executions row hrow
  -- the contract lies in the environment of the block, so its identifier alone names it
  simp only [decide_eq_true_eq, ← hs.place?_inj hplace, ← hs.contractName?_inj hname,
    Table.executions_form?, Prod.exists, ← hid, ← hinvokedId, hs.place?_of_mem hhome,
    hs.contractName?_of_mem hinvoked, howned]
  grind

/-- A key is free for a contract if the history has no such variable. -/
lemma variableNamed?_eq_none (hs : s.Consistent)
    (hname : s.contractName? contract = some (environment, qualifiedId)) (key : String) :
    s.variableNamed? contract key = none ↔ ⟨qualifiedId, key⟩ ∉ (s.history environment).vars := by
  rw [← List.map_id (s.history environment).vars]
  apply Table.vars.find?_eq_none_iff
  intro row hrow
  simp [← hs.contractName?_inj hname]

/-- A name is free for a contract if the history has no such map. -/
lemma mapNamed?_eq_none (hs : s.Consistent)
    (hname : s.contractName? contract = some (environment, qualifiedId)) (name : String) :
    s.mapNamed? contract name = none ↔ ⟨qualifiedId, name⟩ ∉ (s.history environment).maps := by
  rw [← List.map_id (s.history environment).maps]
  apply Table.maps.find?_eq_none_iff
  intro row hrow
  simp [← hs.contractName?_inj hname]

/-- A key of a map is free at a block if the history has no write to it at the height. -/
lemma mapEntry?_eq_none (hs : s.Consistent) {map : Int} {name : MapName}
    (hplace : s.place? block = some (environment, height))
    (hname : s.mapName? map = some (environment, name)) {keyHash : Bytes} :
    s.mapEntry? map block keyHash = none ↔
      (height, ⟨name.qualifiedId, name.name, keyHash⟩) ∉ (s.history environment).mapKeys := by
  apply Table.mapEntries.find?_eq_none_iff
  intro row hrow
  obtain ⟨declared, hdeclared, owner, howner, home, hhome, hid, hownerId, hhomeId, howned, -⟩ :=
    hs.links.mapEntries row hrow
  obtain ⟨qualifiedId, name⟩ := name
  simp only [decide_eq_true_eq, ← hs.place?_inj hplace, ← hs.mapName?_inj hname,
    Table.mapEntries_form?, Prod.exists, ← hid, ← hhomeId, hs.place?_of_mem hhome,
    hs.mapName?_of_mem hdeclared howner hownerId, howned, MapWrite.slot]
  grind

/-! ## What a block holds -/

/-- The entries of a block. -/
lemma entriesOf_eq (hs : s.Consistent) (hplace : s.place? block = some (environment, height)) :
    s.entriesOf block = (under height (s.history environment).entries).map
      fun write => (write.keyHash, write.value) := by
  rw [entriesOf, under, List.map_map]
  refine map_eq_map_of_forall₂ (Table.entries.forall₂_view hs ?_) ?_
  · rintro row - owner ⟨height', write⟩ hform
    obtain ⟨hrow, -⟩ := Table.entries_form?.1 hform
    simp [← hs.place?_inj hplace, hrow]
  · rintro row ⟨height', write⟩ ⟨-, hform⟩
    obtain ⟨-, rfl⟩ := Table.entries_form?.1 hform
    rfl

/-- The contracts that a block deployed. -/
lemma contractsOf_eq (hs : s.Consistent) (hplace : s.place? block = some (environment, height)) :
    ((s.contracts.filter fun row => row.blockId = block).map
      fun row => (⟨row.qualifiedId, row.source⟩ : Deployment)) =
      under height (s.history environment).contracts := by
  rw [under]
  refine map_eq_map_of_forall₂ (Table.contracts.forall₂_view hs ?_) ?_
  · rintro row - owner ⟨height', deployment⟩ hform
    obtain ⟨hrow, -⟩ := Table.contracts_form?.1 hform
    simp [← hs.place?_inj hplace, hrow]
  · rintro row ⟨height', deployment⟩ ⟨-, hform⟩
    obtain ⟨-, rfl⟩ := Table.contracts_form?.1 hform
    rfl

/-- The executions at a block, one by one with the invocations that they are. -/
lemma executions_forall₂ (hs : s.Consistent) (hplace : s.place? block = some (environment, height)) :
    List.Forall₂ (fun row invocation => row ∈ s.executions ∧
        ∃ height', Table.executions.form? s row = some (environment, height', invocation))
      (s.executions.filter fun row => row.blockId = block)
      (under height (s.history environment).executions) := by
  rw [under, List.forall₂_map_right_iff]
  refine (Table.executions.forall₂_view hs ?_).imp ?_
  · rintro row - owner ⟨height', invocation⟩ hform
    obtain ⟨hrow, -⟩ := Table.executions_form?.1 hform
    simp [← hs.place?_inj hplace, hrow]
  · rintro row ⟨height', invocation⟩ ⟨hrow, hform⟩
    exact ⟨hrow, height', hform⟩

/-- The final values of the variables that were written at a block. -/
lemma variableTable_eq (hs : s.Consistent) (hplace : s.place? block = some (environment, height)) :
    s.variableTable block = Association.ofWrites
      ((under height (s.history environment).varWrites).map fun write => (write.slot, write.value)) := by
  rw [variableTable, under, List.map_map]
  congr 1
  refine filterMap_eq_map_of_forall₂ (Table.instances.forall₂_view hs ?_) ?_
  · rintro row - owner ⟨height', write⟩ hform
    obtain ⟨hrow, -⟩ := Table.instances_form?.1 hform
    simp [← hs.place?_inj hplace, hrow]
  · rintro row ⟨height', write⟩ ⟨-, hform⟩
    obtain ⟨-, name, hname, transactionId, -, rfl⟩ := Table.instances_form?.1 hform
    obtain ⟨⟨declared, owner⟩, howner, rfl⟩ := Option.map_eq_some_iff.1 hname
    simp [slotOfInstance?, howner, VariableWrite.slot]

/-- The values of the map keys that were written at a block. -/
lemma mapTable_eq (hs : s.Consistent) (hplace : s.place? block = some (environment, height)) :
    s.mapTable block = Association.ofWrites
      ((under height (s.history environment).mapWrites).map fun write => (write.slot, write.value)) := by
  rw [mapTable, under, List.map_map]
  congr 1
  refine filterMap_eq_map_of_forall₂ (Table.mapEntries.forall₂_view hs ?_) ?_
  · rintro row - owner ⟨height', write⟩ hform
    obtain ⟨hrow, -⟩ := Table.mapEntries_form?.1 hform
    simp [← hs.place?_inj hplace, hrow]
  · rintro row ⟨height', write⟩ ⟨-, hform⟩
    obtain ⟨-, name, hname, rfl⟩ := Table.mapEntries_form?.1 hform
    obtain ⟨⟨declared, owner⟩, howner, rfl⟩ := Option.map_eq_some_iff.1 hname
    simp [howner, slotOfMapEntry?, MapWrite.slot]

/-! ## What was held at a height -/

/-- What an instance says: its variable lies in the environment of its block, and its copy of the
height is true. -/
lemma instance_form? (hs : s.Consistent) {row : VariableInstance} (hrow : row ∈ s.instances)
    {write : VariableWrite} (hform : Table.instances.form? s row = some (environment, height, write)) :
    s.variableName? row.variableId = some (environment, write.slot) ∧ row.height = height ∧
      row.value = write.value := by
  obtain ⟨declared, hdeclared, owner, howner, home, hhome, writer, -, hid, hownerId, hhomeId, -, -, -,
    howned, hheight⟩ := hs.links.instances row hrow
  obtain ⟨hplace, name, hname, transactionId, -, rfl⟩ := Table.instances_form?.1 hform
  rw [← hhomeId, hs.place?_of_mem hhome] at hplace
  obtain ⟨rfl, rfl⟩ := Prod.mk.inj (Option.some.inj hplace)
  rw [← hid, hs.variableName?_of_mem hdeclared howner hownerId] at hname ⊢
  obtain rfl := Option.some.inj hname
  exact ⟨by rw [howned]; rfl, hheight, rfl⟩

/-- Ids rise along the table, so of two values at one height the later one counts. -/
lemma pairwise_below_instances (hs : s.Consistent) :
    s.instances.Pairwise fun a b => VariableInstance.below a b = decide (a.height ≤ b.height) := by
  refine (List.pairwise_map.1 hs.ids.instances).imp fun {a b} hlt => ?_
  simp only [VariableInstance.below, thenLt, intLt, hlt]
  grind

/-- What a variable held at a height is the last write to it at the greatest height not above. -/
lemma latestInstance_rel (hs : s.Consistent) {varId : Int} {slot : VariableSlot}
    (hname : s.variableName? varId = some (environment, slot)) (asOf : Int) :
    Option.Rel (fun row written => row.height = written.1 ∧ row.value = written.2.value)
      (greatest? VariableInstance.below
        (s.instances.filter fun row => row.variableId = varId ∧ row.height ≤ asOf))
      (greatest? (fun a b => a.1 ≤ b.1)
        ((s.history environment).varWrites.filter
          fun written => written.2.slot = slot ∧ written.1 ≤ asOf)) := by
  rw [greatest?_congr (hs.pairwise_below_instances.filter _)]
  refine rel_greatest?_of_forall₂ ((Table.instances.forall₂_view hs ?_).imp ?_) ?_
  · rintro row hrow owner ⟨height', write⟩ hform
    obtain ⟨hvar, hheight, -⟩ := hs.instance_form? hrow hform
    simp [← hs.variableName?_inj hname, hvar, hheight, and_assoc]
  · rintro row ⟨height', write⟩ ⟨hrow, hform⟩
    exact (hs.instance_form? hrow hform).2
  · rintro a ⟨height', write⟩ a' ⟨height'', write'⟩ ⟨ha, -⟩ ⟨ha', -⟩
    rw [ha, ha']

/-- What a map entry says: its map lies in the environment of its block, and its copy of the height
is true. -/
lemma mapEntry_form? (hs : s.Consistent) {row : MapEntry} (hrow : row ∈ s.mapEntries)
    {write : MapWrite} (hform : Table.mapEntries.form? s row = some (environment, height, write)) :
    s.mapName? row.mapId = some (environment, write.map) ∧ row.keyHash = write.keyHash ∧
      row.height = height ∧ row.value = write.value := by
  obtain ⟨declared, hdeclared, owner, howner, home, hhome, hid, hownerId, hhomeId, howned, hheight⟩ :=
    hs.links.mapEntries row hrow
  obtain ⟨hplace, name, hname, rfl⟩ := Table.mapEntries_form?.1 hform
  rw [← hhomeId, hs.place?_of_mem hhome] at hplace
  obtain ⟨rfl, rfl⟩ := Prod.mk.inj (Option.some.inj hplace)
  rw [← hid, hs.mapName?_of_mem hdeclared howner hownerId] at hname ⊢
  obtain rfl := Option.some.inj hname
  exact ⟨by rw [howned]; rfl, rfl, hheight, rfl⟩

/-- What a map held for a key at a height is the write to it at the greatest height not above. -/
lemma latestMapEntry_rel (hs : s.Consistent) {mapId : Int} {name : MapName}
    (hname : s.mapName? mapId = some (environment, name)) (keyHash : Bytes) (asOf : Int) :
    Option.Rel (fun row written => row.height = written.1 ∧ row.value = written.2.value)
      (greatest? MapEntry.below (s.mapEntries.filter
        fun row => row.mapId = mapId ∧ row.keyHash = keyHash ∧ row.height ≤ asOf))
      (greatest? (fun a b => a.1 < b.1)
        ((s.history environment).mapWrites.filter
          fun written => written.2.slot = ⟨name.qualifiedId, name.name, keyHash⟩ ∧
            written.1 ≤ asOf)) := by
  refine rel_greatest?_of_forall₂ ((Table.mapEntries.forall₂_view hs ?_).imp ?_) ?_
  · rintro row hrow owner ⟨height', write⟩ hform
    obtain ⟨hmap, hkey, hheight, -⟩ := hs.mapEntry_form? hrow hform
    obtain ⟨qualifiedId, name⟩ := name
    simp [← hs.mapName?_inj hname, hmap, hkey, hheight, MapWrite.slot, MapWrite.map, and_assoc]
  · rintro row ⟨height', write⟩ ⟨hrow, hform⟩
    exact (hs.mapEntry_form? hrow hform).2.2
  · rintro a ⟨height', write⟩ a' ⟨height'', write'⟩ ⟨ha, -⟩ ⟨ha', -⟩
    rw [MapEntry.below, intLt, ha, ha']

/-! ## Keys that are unique -/

/-- In a history no key has two entries at one height. -/
lemma nodup_entryKeys (hs : s.Consistent) (environment : Int) :
    (s.history environment).entryKeys.Nodup := by
  refine Table.entries.nodup_map_view hs hs.keys.entries ?_
  rintro row - row' - ⟨height, write⟩ ⟨height', write'⟩ hform hform' hkey
  obtain ⟨hplace, rfl⟩ := Table.entries_form?.1 hform
  obtain ⟨hplace', rfl⟩ := Table.entries_form?.1 hform'
  obtain ⟨rfl, hhash⟩ := Prod.mk.inj hkey
  rw [(hs.place?_inj hplace').1 hplace]
  exact congrArg _ hhash

/-- In a history no key of a map is written twice at one height. -/
lemma nodup_mapKeys (hs : s.Consistent) (environment : Int) :
    (s.history environment).mapKeys.Nodup := by
  refine Table.mapEntries.nodup_map_view hs hs.keys.mapEntries ?_
  rintro row hrow row' hrow' ⟨height, write⟩ ⟨height', write'⟩ hform hform' hkey
  obtain ⟨rfl, hslot⟩ : height = height' ∧ write.slot = write'.slot := by simpa using hkey
  obtain ⟨hcontract, hname, hhash⟩ : write.contract = write'.contract ∧ write.name = write'.name ∧
      write.keyHash = write'.keyHash := by simpa [MapWrite.slot] using hslot
  obtain ⟨hmap, hkeyHash, -⟩ := hs.mapEntry_form? hrow hform
  obtain ⟨hmap', hkeyHash', -⟩ := hs.mapEntry_form? hrow' hform'
  have hsameMap : row.mapId = row'.mapId :=
    (hs.mapName?_inj hmap').1 (by rw [hmap, MapWrite.map, MapWrite.map, hcontract, hname])
  have hsameBlock : row.blockId = row'.blockId :=
    (hs.place?_inj (Table.mapEntries_form?.1 hform').1).1 (Table.mapEntries_form?.1 hform).1
  rw [hsameMap, hsameBlock, hkeyHash, hkeyHash', hhash]

/-! ## Blocks, contracts, variables and maps by name -/

/-- The block of an environment at a height. -/
lemma blockAt?_rel (hs : s.Consistent) (environment height : Int) :
    Option.Rel (fun row facts => s.place? row.id = some (environment, height) ∧
        row.indexHash = facts.indexHash ∧ row.trieRoot = facts.trieRoot)
      (s.blockAt? environment height)
      ((s.history environment).blocks.find? fun facts => facts.height = height) := by
  refine Table.blocks.find?_view hs ?_ ?_
  · intro row hrow owner facts hform
    obtain ⟨rfl, rfl⟩ := Table.blocks_form?.1 hform
    simp
  · intro row hrow facts hform hheight
    obtain ⟨rfl, rfl⟩ := Table.blocks_form?.1 hform
    rw [hs.place?_of_mem hrow]
    simpa using hheight

/-- The contract that an environment knows under an identifier. -/
lemma contractNamed?_rel (hs : s.Consistent) (environment : Int) (qualifiedId : String) :
    Option.Rel (fun row written => s.contractName? row.id = some (environment, qualifiedId) ∧
        s.place? row.blockId = some (environment, written.1) ∧ row.source = written.2.source)
      (s.contractNamed? environment qualifiedId)
      ((s.history environment).contracts.find? fun written => written.2.qualifiedId = qualifiedId) := by
  have howner : ∀ row ∈ s.contracts, ∀ owner height' deployment,
      Table.contracts.form? s row = some (owner, height', deployment) → row.environmentId = owner := by
    intro row hrow owner height' deployment hform
    obtain ⟨-, -, home, hhome, -, hid, howned⟩ := hs.links.contracts row hrow
    obtain ⟨hplace, -⟩ := Table.contracts_form?.1 hform
    rw [← hid, hs.place?_of_mem hhome] at hplace
    exact howned.symm.trans (Prod.mk.inj (Option.some.inj hplace)).1
  refine Table.contracts.find?_view hs ?_ ?_
  · rintro row hrow owner ⟨height', deployment⟩ hform
    rw [howner row hrow owner height' deployment hform]
    obtain ⟨-, rfl⟩ := Table.contracts_form?.1 hform
    simp
  · rintro row hrow ⟨height', deployment⟩ hform hid
    have howned := howner row hrow environment height' deployment hform
    obtain ⟨hplace, rfl⟩ := Table.contracts_form?.1 hform
    refine ⟨?_, hplace, rfl⟩
    rw [hs.contractName?_of_mem hrow, howned]
    simpa using hid

/-- A contract of the history is found under its identifier. -/
lemma contractNamed?_of_mem (hs : s.Consistent) {deployment : Deployment}
    (h : (height, deployment) ∈ (s.history environment).contracts) :
    ∃ row, s.contractNamed? environment deployment.qualifiedId = some row ∧
      s.place? row.blockId = some (environment, height) ∧ row.source = deployment.source := by
  obtain ⟨row, hrow, hform⟩ := Table.mem_view.1 h
  obtain ⟨hplace, rfl⟩ := Table.contracts_form?.1 hform
  obtain ⟨-, -, home, hhome, -, hid, howned⟩ := hs.links.contracts row hrow
  have howner : row.environmentId = environment := by
    rw [← hid, hs.place?_of_mem hhome] at hplace
    exact howned.symm.trans (Prod.mk.inj (Option.some.inj hplace)).1
  exact ⟨row, hs.contractNamed?_eq_some.2 ⟨hrow, by rw [howner]⟩, hplace, rfl⟩

/-- The variable that a contract declares under a key. -/
lemma variableName?_of_variableNamed? (hs : s.Consistent)
    (hname : s.contractName? contract = some (environment, qualifiedId)) {key : String}
    {row : Variable} (h : s.variableNamed? contract key = some row) :
    s.variableName? row.id = some (environment, ⟨qualifiedId, key⟩) := by
  obtain ⟨hrow, hkey⟩ := hs.variableNamed?_eq_some.1 h
  obtain ⟨rfl, rfl⟩ := Prod.mk.inj hkey
  exact variableName?_eq_some.2 ⟨row, hs.variableWithId?_eq_some.2 ⟨hrow, rfl⟩, hname, rfl⟩

/-- The map that a contract declares under a name. -/
lemma mapName?_of_mapNamed? (hs : s.Consistent)
    (hname : s.contractName? contract = some (environment, qualifiedId)) {name : String}
    {row : ContractMap} (h : s.mapNamed? contract name = some row) :
    s.mapName? row.id = some (environment, ⟨qualifiedId, name⟩) := by
  obtain ⟨hrow, hkey⟩ := hs.mapNamed?_eq_some.1 h
  obtain ⟨rfl, rfl⟩ := Prod.mk.inj hkey
  exact mapName?_eq_some.2 ⟨row, hs.map?_eq_some.2 ⟨hrow, rfl⟩, hname, rfl⟩

end Consistent

end Store

end ReplayLedger
