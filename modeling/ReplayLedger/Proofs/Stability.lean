import ReplayLedger.Proofs.Feeding
import ReplayLedger.Proofs.Verdict
import ReplayLedger.Proofs.Watermark

/-!
# Comparisons stay as they are

A payload is recorded at a height above all that its environment has reached, so it adds nothing to
the blocks that are there, although it may write to the same contracts, variables and maps.  What a
store keeps of an environment that is not dropped (`Store.Keeps`) is therefore its row, up to the
height that it has reached, and its blocks with all that was written at them.

A comparison reads nothing else of the environments that it compares.  Once it has come to a report it
comes to the same one after any feeds (`Database.Reachable.comparison_stable`).
-/

namespace ReplayLedger

/-- A payload that a climbing history accepts adds nothing at the heights that are recorded. -/
lemma History.Climbs.under_of_apply {history history' : History} (h : history.Climbs)
    {payload : BlockPayload} (happly : history.apply payload = .ok history') {height : Int}
    (hrecorded : height ∈ history.blocks.map (·.height)) :
    under height history'.entries = under height history.entries ∧
      under height history'.varWrites = under height history.varWrites ∧
      under height history'.mapWrites = under height history.mapWrites := by
  obtain ⟨rfl, hadvances⟩ := eq_append_of_apply happly
  have hne : payload.height ≠ height := by
    rintro rfl
    cases hlast : (history.blocks.map (·.height)).getLast? with
    | none => simp [List.getLast?_eq_none_iff.1 hlast] at hrecorded
    | some reached =>
      have hle := le_getLast?_of_rise h.rise hlast hrecorded
      exact absurd (hadvances reached (h.reached.trans hlast)) (Int.not_lt.2 hle)
  simp [append, under_map, hne]

namespace Store

variable {s s' : Store} {environment : Int}

/-- A block and all that was written at it is as before. -/
structure SameAt (s s' : Store) (row : Block) : Prop where
  recorded : row ∈ s'.blocks
  entries : s'.entriesOf row.id = s.entriesOf row.id
  vars : s'.variableTable row.id = s.variableTable row.id
  maps : s'.mapTable row.id = s.mapTable row.id

/-- A block that is as before twice is as before. -/
lemma SameAt.trans {s₁ s₂ s₃ : Store} {row : Block} (h : SameAt s₁ s₂ row) (h' : SameAt s₂ s₃ row) :
    SameAt s₁ s₃ row :=
  ⟨h'.recorded, h'.entries.trans h.entries, h'.vars.trans h.vars, h'.maps.trans h.maps⟩

/-- An environment is there as before, up to the height that it has reached, and so are its blocks. -/
structure Keeps (s s' : Store) (environment : Int) : Prop where
  owner : ∀ row ∈ s.environments, row.id = environment →
    ∃ row' ∈ s'.environments, row'.identity = row.identity
  blocks : ∀ row ∈ s.blocks, row.environmentId = environment → SameAt s s' row

lemma Keeps.refl (s : Store) (environment : Int) : Keeps s s environment :=
  ⟨fun row hrow _ => ⟨row, hrow, rfl⟩, fun _ hrow _ => ⟨hrow, rfl, rfl, rfl⟩⟩

/-- An environment that is kept twice is kept. -/
lemma Keeps.trans {s₁ s₂ s₃ : Store} (h : Keeps s₁ s₂ environment) (h' : Keeps s₂ s₃ environment) :
    Keeps s₁ s₃ environment := by
  constructor
  · intro row hrow hid
    obtain ⟨row₂, hrow₂, hidentity₂⟩ := h.owner row hrow hid
    have hid₂ : row₂.id = environment := (Environment.id_eq_of_identity hidentity₂).trans hid
    obtain ⟨row₃, hrow₃, hidentity₃⟩ := h'.owner row₂ hrow₂ hid₂
    exact ⟨row₃, hrow₃, hidentity₃.trans hidentity₂⟩
  · intro row hrow howned
    have hsame := h.blocks row hrow howned
    exact hsame.trans (h'.blocks row hsame.recorded howned)

/-! ## What feeds keep -/

/-- The rows that an environment owns stay through a call that does not drop it, accepted or
refused. -/
lemma Consistent.appends_ownedBy_after (hs : s.Consistent) {c : Call}
    (hkeep : c ≠ .dropEnvironment environment) :
    Appends (s.ownedBy environment) ((s.after c).ownedBy environment) := by
  cases hrun : c.run s with
  | ok r =>
    rw [after_of_ok hrun]
    exact hs.appends_ownedBy_run hrun hkeep
  | error e =>
    rw [after_of_error hrun]
    exact .refl _

/-- Feeds add nothing at the heights that an environment has recorded, unless they drop it. -/
lemma Reachable.under_of_feed (hs : s.Reachable) {feed : Feed} (hkept : feed ≠ .drop environment)
    {height : Int} (hrecorded : height ∈ (s.history environment).blocks.map (·.height)) :
    let history' := (s.after feed.call).history environment
    under height history'.entries = under height (s.history environment).entries ∧
      under height history'.varWrites = under height (s.history environment).varWrites ∧
      under height history'.mapWrites = under height (s.history environment).mapWrites := by
  intro history'
  generalize hresult : history' = result
  have hfed := hs.consistent.fed environment feed
  rw [show (s.after feed.call).history environment = result from hresult] at hfed
  cases hfed with
  | unchanged => exact ⟨rfl, rfl, rfl⟩
  | dropped drops => exact absurd drops hkept
  | applied accepted => exact (hs.climbs environment).under_of_apply accepted hrecorded

/-- A feed keeps every environment that it does not drop. -/
lemma Reachable.keeps_after (hs : s.Reachable) {feed : Feed} (hkept : feed ≠ .drop environment) :
    Keeps s (s.after feed.call) environment := by
  have hconsistent := hs.consistent
  have hconsistent' := (hs.after feed.call).consistent
  have hcall : feed.call ≠ .dropEnvironment environment := by
    intro hcall
    cases feed with
    | drop id =>
      cases hcall
      exact hkept rfl
    | create | apply => cases hcall
  have happends := hconsistent.appends_ownedBy_after hcall
  constructor
  -- the environment itself, then its blocks with what was written at them
  · rintro row hrow rfl
    exact happends.exists_owner hrow
  · intro row hrow howned
    have hrow' : row ∈ (s.after feed.call).blocks := by
      have hown : row ∈ (s.ownedBy environment).blocks :=
        List.mem_filter.2 ⟨hrow, decide_eq_true howned⟩
      exact (List.mem_filter.1 (happends.blocks.subset hown)).1
    have hplace := hconsistent.place?_of_mem hrow
    have hplace' := hconsistent'.place?_of_mem hrow'
    rw [howned] at hplace hplace'
    obtain ⟨hentries, hvars, hmaps⟩ := hs.under_of_feed hkept (height_of_place? hplace)
    refine ⟨hrow', ?_, ?_, ?_⟩
    · rw [hconsistent'.entriesOf_eq hplace', hconsistent.entriesOf_eq hplace, hentries]
    · rw [hconsistent'.variableTable_eq hplace', hconsistent.variableTable_eq hplace, hvars]
    · rw [hconsistent'.mapTable_eq hplace', hconsistent.mapTable_eq hplace, hmaps]

/-- Feeds keep every environment that none of them drops. -/
lemma Reachable.keeps_feeds (hs : s.Reachable) {feeds : List Feed}
    (hkept : .drop environment ∉ feeds) :
    Keeps s ((feeds.map Feed.call).foldl Store.after s) environment := by
  induction feeds generalizing s with
  | nil => exact .refl s environment
  | cons feed rest ih =>
    obtain ⟨hfeed, hrest⟩ := List.ne_and_not_mem_of_not_mem_cons hkept
    exact (hs.keeps_after (Ne.symm hfeed)).trans (ih (hs.after feed.call) hrest)

/-! ## What a comparison reads -/

/-- A reference to an environment that is kept stands for it as before. -/
lemma Keeps.resolve {row : Environment} (h : Keeps s s' row.id) (hs : s.Consistent)
    (hs' : s'.Consistent) {ref : Reference} (hresolve : s.resolve ref = .ok row) :
    ∃ row', s'.resolve ref = .ok row' ∧ row'.identity = row.identity := by
  obtain ⟨row', hrow', hidentity⟩ := h.owner row (hs.mem_of_resolve hresolve) rfl
  refine ⟨row', ?_, hidentity⟩
  cases ref with
  | id n =>
    simp only [Store.resolve, getEnvironment, bind_eq_ok, require_eq_ok] at hresolve
    obtain ⟨-, -, hfound⟩ := hresolve
    have hid : row'.id = n :=
      (Environment.id_eq_of_identity hidentity).trans (mem_of_environment? hfound).2
    have hfound' := hs'.environment?_eq_some.2 ⟨hrow', hid⟩
    rw [Store.resolve, getEnvironment, storableId_of_find? hfound', hfound']
    rfl
  | name name =>
    have hfound : s.environmentNamed? name = some row := by
      simpa only [Store.resolve, getEnvironmentByName, require_eq_ok] using hresolve
    have hname : row'.name = name :=
      (congrArg Environment.name hidentity).trans (hs.environmentNamed?_eq_some.1 hfound).2
    rw [Store.resolve, getEnvironmentByName, require_eq_ok]
    exact hs'.environmentNamed?_eq_some.2 ⟨hrow', hname⟩
  | illFormed t => cases hresolve

/-- References that stand for distinct environments are resolved one by one. -/
lemma exists_rows_of_resolveDistinct (hs : s.Consistent) {refs : List Reference}
    {environments : List Environment} (h : s.resolveDistinct refs = .ok environments) :
    ∃ rows, List.Forall₂ (fun ref row => s.resolve ref = .ok row) refs rows ∧
      environments = rows.eraseDups := by
  -- for any environments known already, since the fold carries them along
  have hfold : ∀ (refs : List Reference) (known : List Environment),
      refs.foldlM (fun known ref => do
        let row ← s.resolve ref
        return if known.any (·.id = row.id) then known else known ++ [row]) known = .ok environments →
      ∃ rows, List.Forall₂ (fun ref row => s.resolve ref = .ok row) refs rows := by
    intro refs
    induction refs with
    | nil => exact fun _ _ => ⟨[], .nil⟩
    | cons ref rest ih =>
      intro known hknown
      rw [List.foldlM_cons] at hknown
      obtain ⟨known', hstep, hrest⟩ := bind_eq_ok.1 hknown
      obtain ⟨row, hresolve, -⟩ := bind_eq_ok.1 hstep
      obtain ⟨rows, hrows⟩ := ih known' hrest
      exact ⟨row :: rows, .cons hresolve hrows⟩
  obtain ⟨rows, hrows⟩ := hfold refs [] h
  rw [hs.resolveDistinct_eq hrows] at h
  exact ⟨rows, hrows, (Except.ok.inj h).symm⟩

/-- An environment is mentioned first where its identity is. -/
lemma Consistent.map_identity_eraseDups (hs : s.Consistent) {rows : List Environment}
    (hrows : ∀ row ∈ rows, row ∈ s.environments) :
    rows.eraseDups.map Environment.identity = (rows.map Environment.identity).eraseDups := by
  induction rows using List.reverseRecOn with
  | nil => rfl
  | append_singleton rows last ih =>
    have hseen := ih fun row hrow => hrows row (List.mem_append_left _ hrow)
    have hlast : last.identity ∈ rows.map Environment.identity ↔ last ∈ rows := by
      constructor
      · intro hmem
        obtain ⟨row, hrow, hidentity⟩ := List.mem_map.1 hmem
        have heq := hs.eq_of_id_eq (hrows row (List.mem_append_left _ hrow))
          (hrows last (by simp)) (Environment.id_eq_of_identity hidentity)
        exact heq ▸ hrow
      · exact List.mem_map_of_mem
    rw [List.map_append, List.map_singleton, eraseDups_concat, eraseDups_concat, ← hseen]
    by_cases hmem : last ∈ rows
    · rw [if_pos hmem, if_pos (hlast.2 hmem)]
    · rw [if_neg hmem, if_neg fun h => hmem (hlast.1 h), List.map_append, List.map_singleton]

/-- References stand for the same environments as before if all of these are kept. -/
lemma resolveDistinct_of_keeps (hs : s.Consistent) (hs' : s'.Consistent) {refs : List Reference}
    {environments : List Environment} (h : s.resolveDistinct refs = .ok environments)
    (hkeeps : ∀ row ∈ environments, Keeps s s' row.id) :
    ∃ environments', s'.resolveDistinct refs = .ok environments' ∧
      environments'.map Environment.identity = environments.map Environment.identity := by
  obtain ⟨rows, hrows, rfl⟩ := exists_rows_of_resolveDistinct hs h
  -- reference by reference; the distinct rows have the same identities
  have hkept : ∀ row ∈ rows, Keeps s s' row.id :=
    fun row hrow => hkeeps row (List.mem_eraseDups.2 hrow)
  have hrows' : ∃ rows', List.Forall₂ (fun ref row => s'.resolve ref = .ok row) refs rows' ∧
      rows'.map Environment.identity = rows.map Environment.identity := by
    clear h hkeeps
    induction hrows with
    | nil => exact ⟨[], .nil, rfl⟩
    | @cons ref row refs rows hresolve _ ih =>
      obtain ⟨row', hresolve', hidentity⟩ :=
        (hkept row List.mem_cons_self).resolve hs hs' hresolve
      obtain ⟨rows', hrows', hidentities⟩ :=
        ih fun row hrow => hkept row (List.mem_cons_of_mem _ hrow)
      exact ⟨row' :: rows', .cons hresolve' hrows', by
        rw [List.map_cons, List.map_cons, hidentity, hidentities]⟩
  obtain ⟨rows', hrows', hidentities⟩ := hrows'
  refine ⟨rows'.eraseDups, hs'.resolveDistinct_eq hrows', ?_⟩
  rw [hs.map_identity_eraseDups (hs.mem_of_forall₂_resolve hrows),
    hs'.map_identity_eraseDups (hs'.mem_of_forall₂_resolve hrows'), hidentities]

/-- The blocks of environments that are kept are found as before. -/
lemma blocksAt_of_keeps (hs : s.Consistent) (hs' : s'.Consistent) {ids : List Int} {height : Int}
    {blocks : List (Int × Block)} (h : s.blocksAt ids height = .ok blocks)
    (hkeeps : ∀ id ∈ ids, Keeps s s' id) :
    s'.blocksAt ids height = .ok blocks ∧ ∀ x ∈ blocks, SameAt s s' x.2 := by
  simp only [blocksAt, bind_eq_ok, ensure_eq_ok, pure_eq_ok] at h
  obtain ⟨_, hstorable, -, hmissing, rfl⟩ := h
  -- no block was missing, and each one found is kept as it is
  have hfound : ∀ id ∈ ids, ∃ row, s.blockAt? id height = some row ∧ SameAt s s' row ∧
      s'.blockAt? id height = some row := by
    intro id hid
    have hsome : s.blockAt? id height ≠ none := by
      simpa using List.filter_eq_nil_iff.1 hmissing id hid
    obtain ⟨row, hrow⟩ := Option.ne_none_iff_exists'.1 hsome
    obtain ⟨hmem, hplace⟩ := hs.blockAt?_eq_some.1 hrow
    have hsame := (hkeeps id hid).blocks row hmem (Prod.mk.inj hplace).1
    exact ⟨row, hrow, hsame, hs'.blockAt?_eq_some.2 ⟨hsame.recorded, hplace⟩⟩
  have heq : ∀ id ∈ ids, s'.blockAt? id height = s.blockAt? id height := by
    intro id hid
    obtain ⟨row, hrow, -, hrow'⟩ := hfound id hid
    rw [hrow, hrow']
  constructor
  · have hmissing' : ids.filter (fun id => (s'.blockAt? id height).isNone) = [] := by
      rw [← hmissing]
      exact List.filter_congr fun id hid => by rw [heq id hid]
    rw [blocksAt, hstorable, hmissing']
    refine congrArg Except.ok (List.filterMap_congr fun id hid => ?_)
    rw [heq id hid]
  · intro x hx
    obtain ⟨id, hid, hx⟩ := List.mem_filterMap.1 hx
    obtain ⟨row, hrow, hsame, -⟩ := hfound id hid
    rw [hrow] at hx
    obtain rfl := Option.some.inj hx
    exact hsame

/-- Blocks that are as before diverge as before. -/
lemma divergences_of_sameAt {blocks : List (Int × Block)} (h : ∀ x ∈ blocks, SameAt s s' x.2) :
    s'.entryDivergences blocks = s.entryDivergences blocks ∧
      s'.contractDivergences blocks = s.contractDivergences blocks := by
  have hentries : (blocks.map fun x => (x.1, s'.entriesOf x.2.id)) =
      blocks.map fun x => (x.1, s.entriesOf x.2.id) :=
    List.map_congr_left fun x hx => by rw [(h x hx).entries]
  have hvars : (blocks.map fun x => (x.1, s'.variableTable x.2.id)) =
      blocks.map fun x => (x.1, s.variableTable x.2.id) :=
    List.map_congr_left fun x hx => by rw [(h x hx).vars]
  have hmaps : (blocks.map fun x => (x.1, s'.mapTable x.2.id)) =
      blocks.map fun x => (x.1, s.mapTable x.2.id) :=
    List.map_congr_left fun x hx => by rw [(h x hx).maps]
  constructor
  · rw [entryDivergences_eq, entryDivergences_eq, hentries]
  · unfold contractDivergences
    rw [hvars, hmaps]

/-- A comparison of environments that are kept comes to the same report. -/
lemma compareHeights_of_keeps (hs : s.Consistent) (hs' : s'.Consistent) {refs : List Reference}
    {height : Value} {report : Report} (h : s.compareHeights refs height = .ok report)
    (hkeeps : ∀ row ∈ report.environments, Keeps s s' row.id) :
    ∃ environments, s'.compareHeights refs height = .ok { report with environments } ∧
      environments.map Environment.identity = report.environments.map Environment.identity := by
  simp only [compareHeights, bind_eq_ok, ensure_eq_ok, pure_eq_ok] at h
  obtain ⟨n, hheight, environments, hresolved, -, hmany, blocks, hblocks, rfl⟩ := h
  obtain ⟨environments', hresolved', hidentities⟩ := resolveDistinct_of_keeps hs hs' hresolved hkeeps
  have hids : environments'.map (·.id) = environments.map (·.id) := by
    have hmap := congrArg (List.map Environment.id) hidentities
    rwa [List.map_map, List.map_map] at hmap
  have hlength : environments'.length = environments.length := by
    simpa using congrArg List.length hids
  obtain ⟨hblocks', hsame⟩ := blocksAt_of_keeps hs hs' hblocks fun id hid => by
    obtain ⟨row, hrow, rfl⟩ := List.mem_map.1 hid
    exact hkeeps row hrow
  obtain ⟨hentries, hcontracts⟩ := divergences_of_sameAt hsame
  refine ⟨environments', ?_, hidentities⟩
  simp only [compareHeights, hheight, hresolved', hlength, ensure, if_pos hmany, hids, hblocks',
    hentries, hcontracts, ok_bind]
  rfl

end Store

namespace Database

/-- A comparison that has come to a report comes to it again after any payloads, accepted or refused,
any new environments and any drops of environments that are not compared: with the same blocks, the
same verdict, the same divergences, and the same environments up to the heights that they have
reached by then. -/
theorem Reachable.comparison_stable {db : Database} (hdb : db.Reachable) {refs : List Reference}
    {height : Value} {report : Report} (h : db.tables.compareHeights refs height = .ok report)
    {feeds : List Feed} (hkept : ∀ row ∈ report.environments, .drop row.id ∉ feeds) :
    ∃ environments,
      (Step.runAll db (feeds.map fun feed => .call feed.call)).2.tables.compareHeights refs height =
        .ok { report with environments } ∧
      environments.map Environment.identity = report.environments.map Environment.identity := by
  have hs := hdb.stores.1
  rw [Step.tables_runAll_feeds]
  have hs' := hs.foldl_after (feeds.map Feed.call)
  exact Store.compareHeights_of_keeps hs.consistent hs'.consistent h fun row hrow =>
    hs.keeps_feeds (hkept row hrow)

/-- Two environments that disagree at a height.  Later a payload writes the same variable and the same
key of the map again, another one is refused, and a third environment gives up its id to a new one
that writes under the same names. -/
theorem comparison_stable_of_disagreement :
    let payload (environment : String) (height : Int) (value : UInt8) (deployed : List Value) :
        Value :=
      .record [("environment", .text environment), ("height", .int height),
        ("index_hash", .bytes [height.toNat.toUInt8]), ("trie_root_hash", .bytes [value]),
        ("entries", .list [.record [("key_hash", .bytes [3]), ("value", .bytes [value])]]),
        ("contracts", .list deployed),
        ("executions", .list [.record [("contract", .text "c"), ("tx_id", .bytes [5])]]),
        ("variables", .list [.record [("contract", .text "c"), ("key", .text "k"),
          ("tx_id", .bytes [5]), ("value", .bytes [value])]]),
        ("maps", .list [.record [("contract", .text "c"), ("name", .text "m"),
          ("key_hash", .bytes [7]), ("value", .bytes [value])]])]
    let contract : Value := .record [("qualified_id", .text "c"), ("source", .bytes [])]
    let steps : List Step :=
      [.call (.createEnvironment (.text "a") (.int 1) (.text "/a")),
        .call (.createEnvironment (.text "b") (.int 2) (.text "/b")),
        .call (.createEnvironment (.text "other") (.int 3) (.text "/other")),
        .call (.applyBlock (payload "b" 4 1 [contract])),
        .call (.applyBlock (payload "other" 4 1 [contract])),
        .call (.applyBlock (payload "a" 4 2 [contract]))]
    let db := (Step.runAll {} steps).2
    let feeds : List Feed :=
      [.apply (payload "a" 9 8 []), .apply (payload "b" 4 9 []), .drop 3,
        .create (.text "new") (.int 1) (.text "/new"), .apply (payload "new" 4 9 [contract])]
    let compared (s : Store) := s.compareHeights [.name "a", .id 2, .id 1] (.int 4)
    let db' := (Step.runAll db (feeds.map fun feed => .call feed.call)).2
    ∃ report, compared db.tables = .ok report ∧
      report.verdict = .disagreement ∧ report.entryDivergences.length = 2 ∧
      report.contractDivergences.length = 2 ∧ db'.tables.instances.length = 4 ∧
      ∃ environments, compared db'.tables = .ok { report with environments } ∧
        environments.map Environment.identity = report.environments.map Environment.identity := by
  intro payload contract steps db feeds compared db'
  have hdb : db.Reachable := Step.reachable_runAll (.new false) steps (by decide)
  have hok : (compared db.tables).isOk = true := by decide +kernel
  obtain ⟨report, hreport⟩ : ∃ report, compared db.tables = .ok report := by
    cases hcompared : compared db.tables with
    | ok report => exact ⟨report, rfl⟩
    | error e =>
      rw [hcompared] at hok
      cases hok
  have hfacts : (compared db.tables).map (fun report => (report.verdict,
      report.entryDivergences.length, report.contractDivergences.length,
      report.environments.map (·.id))) = .ok (.disagreement, 2, 2, [1, 2]) := by
    decide +kernel
  rw [hreport] at hfacts
  obtain ⟨hverdict, hentries, hcontracts, hids⟩ :
      report.verdict = .disagreement ∧ report.entryDivergences.length = 2 ∧
        report.contractDivergences.length = 2 ∧ report.environments.map (·.id) = [1, 2] := by
    simpa [Except.map] using hfacts
  refine ⟨report, hreport, hverdict, hentries, hcontracts, by decide +kernel, ?_⟩
  refine hdb.comparison_stable hreport fun row hrow => ?_
  have hid : row.id ∈ [1, 2] := hids ▸ List.mem_map_of_mem hrow
  rcases List.mem_pair.1 hid with hid | hid <;> simp [feeds, hid]

end Database

end ReplayLedger
