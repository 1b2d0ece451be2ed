import ReplayLedger.Proofs.ContractDivergence
import ReplayLedger.Proofs.HexSpelling

/-!
# Documents of reports lose nothing

The document of a report names environments where the report has their ids, and shows byte strings as
text.  A field of an object is found by its name, so nothing is lost only if no two environments fall
under one name, and if texts tell the byte strings they are made of.

Objects are compared as they are read, field by field, in whichever order the fields stand
(`Json.Same`).  A report that comes from a comparison is `Report.Regular`: its environments differ in
id and in name, and everything else in it is keyed by their ids.  Regular reports with the same
document are the same but for their blocks, of which the document shows only the roots
(`Report.Regular.tellsSame`).

Main statement: `Store.Reachable.document_keeps_report`.
-/

namespace ReplayLedger

namespace Json

/-! ## Documents that say the same -/

/-- The field of an object under a name. -/
def field? (name : String) : Json → Option Json
  | object fields => Association.get? name fields
  | _ => none

/-- A document is an object that has exactly these keys, each of them once. -/
def HasKeys (j : Json) (keys : List String) : Prop :=
  ∃ fields, j = object fields ∧ fields.map (·.1) = keys ∧ keys.Nodup

/-- Two documents say the same: they differ at most in the order in which the fields of objects
stand. -/
inductive Same : Json → Json → Prop
  | null : Same null null
  | bool (b : Bool) : Same (bool b) (bool b)
  | int (n : Int) : Same (int n) (int n)
  | float (x : Binary64) : Same (float x) (float x)
  | text (s : String) : Same (text s) (text s)
  | array {items items' : List Json} (sameItems : List.Forall₂ Same items items') :
    Same (array items) (array items')
  | object {fields fields' : List (String × Json)}
    (sameFields : ∀ name, Option.Rel Same (Association.get? name fields)
      (Association.get? name fields')) :
    Same (object fields) (object fields')

namespace Same

variable {j j' : Json}

/-- Two integers say the same only if they are equal. -/
lemma int_inj {n n' : Int} (h : Same (.int n) (.int n')) : n = n' := by
  cases h
  rfl

/-- Two texts say the same only if they are equal. -/
lemma text_inj {t t' : String} (h : Same (.text t) (.text t')) : t = t' := by
  cases h
  rfl

/-- Different byte strings are shown differently. -/
lemma bytes_inj {bs bs' : Bytes} (h : Same (.bytes bs) (.bytes bs')) : bs = bs' :=
  Hex.marked_injective (text_inj h)

/-- A byte string that is absent is shown unlike any other, and so is the empty one. -/
lemma optionBytes_inj {value value' : Option Bytes}
    (h : Same (.option .bytes value) (.option .bytes value')) : value = value' := by
  cases value with
  | none =>
    cases value' with
    | none => rfl
    | some bs' => cases h
  | some bs =>
    cases value' with
    | none => cases h
    | some bs' => rw [bytes_inj h]

/-- Lists of documents are compared item by item. -/
lemma list {α β : Type} {f : α → Json} {g : β → Json} {items : List α} {items' : List β}
    (h : Same (.list f items) (.list g items')) :
    List.Forall₂ (fun a b => Same (f a) (g b)) items items' := by
  cases h with
  | array sameItems => simpa [List.forall₂_map_left_iff, List.forall₂_map_right_iff] using sameItems

/-- A field of an object is compared with the field of the same name. -/
lemma field (name : String) {x x' : Json} (h : Same j j') (hx : j.field? name = some x)
    (hx' : j'.field? name = some x') : Same x x' := by
  cases h with
  | object sameFields =>
    have hsame := sameFields name
    rw [show Association.get? name _ = some x from hx,
      show Association.get? name _ = some x' from hx'] at hsame
    cases hsame with
    | some hsame => exact hsame
  | _ => cases hx

/-- Where two tables have the same keys in the same order, and objects show them under names that tell
the keys apart, objects that say the same show the same table. -/
lemma table_inj {κ α : Type} {toName : κ → String} {toJson : α → Json} {table table' : List (κ × α)}
    (hvalues : ∀ a a', Same (toJson a) (toJson a') → a = a')
    (hkeys : table'.map (·.1) = table.map (·.1)) (hnames : (table.map fun x => toName x.1).Nodup)
    (h : Same (.object (table.map fun x => (toName x.1, toJson x.2)))
      (.object (table'.map fun x => (toName x.1, toJson x.2)))) : table = table' := by
  have hnames' : (table'.map fun x => toName x.1).Nodup := by
    have hsame := congrArg (List.map toName) hkeys
    rw [List.map_map, List.map_map] at hsame
    exact hsame ▸ hnames
  have hlength : table.length = table'.length := by
    simpa using (congrArg List.length hkeys).symm
  refine List.ext_getElem hlength fun i hi hi' => ?_
  have hkey : table'[i].1 = table[i].1 := by
    have hget := congrArg (fun keys => keys[i]?) hkeys
    simpa [hi, hi'] using hget
  -- the key of the item at `i` finds that item in both objects
  have hfound : Json.field? (toName table[i].1)
      (.object (table.map fun x => (toName x.1, toJson x.2))) = some (toJson table[i].2) := by
    refine (Association.get?_eq_some_iff ?_).2 (List.mem_map.2 ⟨table[i], List.getElem_mem hi, rfl⟩)
    rwa [List.map_map]
  have hfound' : Json.field? (toName table[i].1)
      (.object (table'.map fun x => (toName x.1, toJson x.2))) = some (toJson table'[i].2) := by
    refine (Association.get?_eq_some_iff ?_).2
      (List.mem_map.2 ⟨table'[i], List.getElem_mem hi', by rw [hkey]⟩)
    rwa [List.map_map]
  exact Prod.ext hkey.symm (hvalues _ _ (h.field _ hfound hfound'))

end Same

end Json

/-! ## Parts of a report -/

/-- Lists that correspond item by item are equal if corresponding items are. -/
lemma eq_of_forall₂ {α : Type} {R : α → α → Prop} {items items' : List α}
    (h : List.Forall₂ R items items')
    (heq : ∀ a ∈ items, ∀ a' ∈ items', R a a' → a = a') : items = items' := by
  induction h with
  | nil => rfl
  | @cons a a' rest rest' hR _ ih =>
    rw [heq a List.mem_cons_self a' List.mem_cons_self hR,
      ih fun b hb b' hb' => heq b (List.mem_cons_of_mem _ hb) b' (List.mem_cons_of_mem _ hb')]

/-- A kind is told by its name. -/
lemma RuntimeKind.name_injective {kind kind' : RuntimeKind} (h : kind.name = kind'.name) :
    kind = kind' := by
  revert h
  cases kind <;> cases kind' <;> decide

/-- A verdict is told by its name. -/
lemma Verdict.name_injective {verdict verdict' : Verdict} (h : verdict.name = verdict'.name) :
    verdict = verdict' := by
  revert h
  cases verdict <;> cases verdict' <;> decide

/-- Different integers are written differently. -/
lemma Numeral.ofInt_injective {n n' : Int} (h : Numeral.ofInt n = Numeral.ofInt n') : n = n' := by
  have hdigits {m m' : Nat} (h : digits m = digits m') : m = m' := by
    rw [← Nat.ofDigitChars_ten_toDigits (n := m), ← Nat.ofDigitChars_ten_toDigits (n := m')]
    exact congrArg (fun cs => Nat.ofDigitChars 10 cs 0) h
  have hsign {m : Nat} {cs : List Char} (h : digits m = '-' :: cs) : False := by
    have hmem : '-' ∈ Nat.toDigits 10 m := List.mem_of_mem_head? (congrArg List.head? h)
    have hdigit := Nat.isDigit_of_mem_toDigits (by decide) (Nat.le_refl 10) hmem
    exact absurd hdigit (by decide)
  have hchars := congrArg String.toList h
  simp only [ofInt, String.toList_ofList] at hchars
  split_ifs at hchars with hneg hneg' hneg'
  · have habs := hdigits (List.cons.inj hchars).2
    omega
  · exact (hsign hchars.symm).elim
  · exact (hsign hchars).elim
  · have habs := hdigits hchars
    omega

/-- Distinct integers have distinct numerals, so they can be the names of fields. -/
lemma Numeral.nodup_map_ofInt {α : Type} {f : α → Int} {items : List α}
    (h : (items.map f).Nodup) : (items.map fun a => Numeral.ofInt (f a)).Nodup := by
  have hmapped := h.map fun n n' hsame => Numeral.ofInt_injective hsame
  rwa [List.map_map] at hmapped

/-- The document of an environment tells all of it. -/
lemma Environment.eq_of_same {row row' : Environment} (h : Json.Same row.toJson row'.toJson) :
    row = row' := by
  have hid := (h.field "id" rfl rfl).int_inj
  have hname := (h.field "name" rfl rfl).text_inj
  have hruntime := RuntimeKind.name_injective (h.field "runtime" rfl rfl).text_inj
  have hpath := (h.field "path" rfl rfl).text_inj
  have hheight := h.field "max_height" rfl rfl
  obtain ⟨id, name, runtime, path, maxHeight⟩ := row
  obtain ⟨id', name', runtime', path', maxHeight'⟩ := row'
  have hreached : maxHeight = maxHeight' := by
    cases maxHeight with
    | none =>
      cases maxHeight' with
      | none => rfl
      | some reached' => cases hheight
    | some reached =>
      cases maxHeight' with
      | none => cases hheight
      | some reached' => rw [hheight.int_inj]
  rw [Environment.mk.injEq]
  exact ⟨hid, hname, hruntime, hpath, hreached⟩

/-- A place of contract data is told by its kind, its contract, its name and its key. -/
lemma ContractSlot.ext_of_parts {slot slot' : ContractSlot} (hkind : slot.kindName = slot'.kindName)
    (hcontract : slot.qualifiedId = slot'.qualifiedId) (hname : slot.name = slot'.name)
    (hkey : slot.keyHash? = slot'.keyHash?) : slot = slot' := by
  cases slot with
  | variableSlot slot =>
    cases slot' with
    | variableSlot slot' =>
      obtain ⟨qualifiedId, key⟩ := slot
      obtain ⟨qualifiedId', key'⟩ := slot'
      obtain rfl : qualifiedId = qualifiedId' := hcontract
      obtain rfl : key = key' := hname
      rfl
    | mapSlot => cases hkey
  | mapSlot slot =>
    cases slot' with
    | variableSlot => cases hkey
    | mapSlot slot' =>
      obtain ⟨qualifiedId, name, keyHash⟩ := slot
      obtain ⟨qualifiedId', name', keyHash'⟩ := slot'
      obtain rfl : qualifiedId = qualifiedId' := hcontract
      obtain rfl : name = name' := hname
      obtain rfl : keyHash = keyHash' := Option.some.inj hkey
      rfl

/-- The document of a contract divergence tells all of it, once it is known whose values it lists. -/
lemma ContractDivergence.eq_of_same {d d' : ContractDivergence}
    (hkeys : d'.values.map (·.1) = d.values.map (·.1)) (hids : (d.values.map (·.1)).Nodup)
    (h : Json.Same d.toJson d'.toJson) : d = d' := by
  have hslot : d.slot = d'.slot := ContractSlot.ext_of_parts (h.field "kind" rfl rfl).text_inj
    (h.field "contract" rfl rfl).text_inj (h.field "name" rfl rfl).text_inj
    (h.field "key_hash" rfl rfl).optionBytes_inj
  have hvalues : d.values = d'.values :=
    Json.Same.table_inj (fun a a' hsame => hsame.optionBytes_inj) hkeys
      (Numeral.nodup_map_ofInt hids) (h.field "values" rfl rfl)
  obtain ⟨slot, values⟩ := d
  obtain ⟨slot', values'⟩ := d'
  rw [ContractDivergence.mk.injEq]
  exact ⟨hslot, hvalues⟩

/-! ## Reports -/

namespace Report

/-- The environments of a report differ in id and in name, and all that it tells is keyed by their
ids. -/
structure Regular (r : Report) : Prop where
  ids : (r.environments.map (·.id)).Nodup
  names : (r.environments.map (·.name)).Nodup
  roots : r.trieRoots.map (·.1) = r.environments.map (·.id)
  entries : ∀ d ∈ r.entryDivergences, d.environment ∈ r.environments.map (·.id)
  contracts : ∀ d ∈ r.contractDivergences, d.values.map (·.1) = r.environments.map (·.id)

/-- Two reports tell the same, whatever else is known of the blocks behind the roots. -/
structure TellsSame (r r' : Report) : Prop where
  height : r.height = r'.height
  verdict : r.verdict = r'.verdict
  environments : r.environments = r'.environments
  trieRoots : r.trieRoots = r'.trieRoots
  entryDivergences : r.entryDivergences = r'.entryDivergences
  contractDivergences : r.contractDivergences = r'.contractDivergences

namespace Regular

variable {r r' : Report}

/-- An environment is named by its own name. -/
lemma nameOf_id (hr : r.Regular) {row : Environment} (hrow : row ∈ r.environments) :
    r.nameOf row.id = row.name := by
  have hfound : r.environments.find? (fun other => other.id = row.id) = some row :=
    (find?_eq_some_iff_key hr.ids fun _ => decide_eq_true_iff).2 ⟨hrow, rfl⟩
  rw [nameOf, hfound]
  rfl

/-- The names under which the roots are shown are those of the environments. -/
lemma map_nameOf_roots (hr : r.Regular) :
    (r.trieRoots.map fun x => r.nameOf x.1) = r.environments.map (·.name) := by
  have hnames : (r.environments.map (·.id)).map r.nameOf = r.environments.map (·.name) := by
    rw [List.map_map]
    exact List.map_congr_left fun row hrow => hr.nameOf_id hrow
  rw [← hnames, ← hr.roots, List.map_map]
  rfl

/-- Different environments have different names. -/
lemma nameOf_inj (hr : r.Regular) {id id' : Int} (hid : id ∈ r.environments.map (·.id))
    (hid' : id' ∈ r.environments.map (·.id)) (h : r.nameOf id = r.nameOf id') : id = id' := by
  obtain ⟨row, hrow, rfl⟩ := List.mem_map.1 hid
  obtain ⟨row', hrow', rfl⟩ := List.mem_map.1 hid'
  rw [hr.nameOf_id hrow, hr.nameOf_id hrow'] at h
  rw [List.inj_on_of_nodup_map hr.names hrow hrow' h]

/-- Reports with the same document tell the same. -/
lemma tellsSame (hr : r.Regular) (hr' : r'.Regular) (h : Json.Same r.toJson r'.toJson) :
    r.TellsSame r' := by
  have henvironments : r.environments = r'.environments :=
    eq_of_forall₂ (h.field "environments" rfl rfl).list fun _ _ _ _ => Environment.eq_of_same
  have hnameOf : r'.nameOf = r.nameOf := by
    funext id
    rw [nameOf, nameOf, henvironments]
  have hroots : r.trieRoots = r'.trieRoots := by
    have hshown : Json.Same (.object (r.trieRoots.map fun x => (r.nameOf x.1, .bytes x.2)))
        (.object (r'.trieRoots.map fun x => (r'.nameOf x.1, .bytes x.2))) :=
      h.field "trie_roots" rfl rfl
    rw [hnameOf] at hshown
    refine Json.Same.table_inj (fun _ _ => Json.Same.bytes_inj) ?_ ?_ hshown
    · rw [hr.roots, hr'.roots, henvironments]
    · rw [hr.map_nameOf_roots]
      exact hr.names
  have hentries : r.entryDivergences = r'.entryDivergences := by
    refine eq_of_forall₂ (h.field "entry_divergences" rfl rfl).list fun d hd d' hd' hsame => ?_
    have hkey := (hsame.field "key_hash" rfl rfl).bytes_inj
    have hname := (hsame.field "environment" rfl rfl).text_inj
    have hvalue := (hsame.field "value" rfl rfl).optionBytes_inj
    rw [hnameOf] at hname
    have hid' := hr'.entries d' hd'
    rw [← henvironments] at hid'
    have hid := hr.nameOf_inj (hr.entries d hd) hid' hname
    obtain ⟨keyHash, environment, value⟩ := d
    obtain ⟨keyHash', environment', value'⟩ := d'
    rw [EntryDivergence.mk.injEq]
    exact ⟨hkey, hid, hvalue⟩
  have hcontracts : r.contractDivergences = r'.contractDivergences := by
    refine eq_of_forall₂ (h.field "contract_divergences" rfl rfl).list fun d hd d' hd' hsame => ?_
    refine ContractDivergence.eq_of_same ?_ ?_ hsame
    · rw [hr.contracts d hd, hr'.contracts d' hd', henvironments]
    · rw [hr.contracts d hd]
      exact hr.ids
  exact ⟨(h.field "height" rfl rfl).int_inj, Verdict.name_injective (h.field "verdict" rfl rfl).text_inj,
    henvironments, hroots, hentries, hcontracts⟩

end Regular

end Report

namespace Store

variable {s s' : Store}

/-- Different environments have different names. -/
lemma Consistent.nodup_names_eraseDups (hs : s.Consistent) {rows : List Environment}
    (hrows : ∀ row ∈ rows, row ∈ s.environments) : (rows.eraseDups.map (·.name)).Nodup := by
  have hmem : ∀ row ∈ rows.eraseDups, row ∈ s.environments :=
    fun row hrow => hrows row (List.mem_eraseDups.1 hrow)
  exact (nodup_eraseDups rows).map_on fun a ha b hb hname =>
    List.inj_on_of_nodup_map hs.keys.environments (hmem a ha) (hmem b hb) hname

/-- A comparison that comes to a report comes to a regular one. -/
lemma Consistent.regular_of_compareHeights (hs : s.Consistent) {refs : List Reference}
    {height : Value} {report : Report} (h : s.compareHeights refs height = .ok report) :
    report.Regular := by
  obtain ⟨rows, hrows, -, hreport⟩ := hs.report_of_compareHeights h
  have hmem := hs.mem_of_forall₂_resolve hrows
  have henvironments : report.environments = rows.eraseDups := by rw [hreport]; rfl
  refine ⟨?_, ?_, ?_, ?_, ?_⟩
  · rw [henvironments]
    exact hs.nodup_ids_eraseDups hmem
  · rw [henvironments]
    exact hs.nodup_names_eraseDups hmem
  · rw [hreport]
    simp [Report.trieRoots, reportOn]
  · intro d hd
    rw [hreport, entryDivergences_reportOn] at hd
    rw [henvironments]
    split at hd
    · cases hd
    · simp only [divergencesOf, List.mem_flatMap, List.mem_map] at hd
      obtain ⟨key, -, _, ⟨row, hrow, rfl⟩, rfl⟩ := hd
      exact List.mem_map_of_mem hrow
  · intro d hd
    rw [hreport, contractDivergences_reportOn] at hd
    obtain ⟨slot, -, rfl⟩ := List.mem_map.1 hd
    rw [henvironments, List.map_map]
    rfl

/-- An absent value is shown as `null`, and an empty one as the bare marker. -/
lemma optionBytes_eq_iff (value : Option Bytes) :
    (Json.option .bytes value = .null ↔ value = none) ∧
      (Json.option .bytes value = .text "0x" ↔ value = some []) := by
  cases value with
  | none => exact ⟨⟨fun _ => rfl, fun _ => rfl⟩, ⟨nofun, nofun⟩⟩
  | some bs =>
    refine ⟨⟨nofun, nofun⟩, fun hshown => ?_, fun hempty => ?_⟩
    · have hempty : bs = [] := Hex.marked_injective (Json.text.inj hshown)
      rw [hempty]
    · rw [hempty]
      rfl

/-- The document of a report shows every environment that was compared under a name of its own, and in
every contract divergence under its id; in an entry divergence a value that is absent is `null`, and
one that is empty the bare marker.  Nothing is lost: of two reports on reachable stores whose documents
say the same, in whichever order their fields stand, the height, the verdict, the environments, the
roots and all divergences are the same. -/
theorem Reachable.document_keeps_report (hs : s.Reachable) {refs : List Reference} {height : Value}
    {report : Report} (h : s.compareHeights refs height = .ok report) :
    (∃ roots, report.toJson.field? "trie_roots" = some roots ∧
        roots.HasKeys (report.environments.map (·.name))) ∧
      (∃ shown, report.toJson.field? "contract_divergences" = some (.array shown) ∧
        List.Forall₂ (fun _ document => ∃ values, document.field? "values" = some values ∧
            values.HasKeys (report.environments.map fun row => Numeral.ofInt row.id))
          report.contractDivergences shown) ∧
      (∃ shown, report.toJson.field? "entry_divergences" = some (.array shown) ∧
        List.Forall₂ (fun d document => ∃ value, document.field? "value" = some value ∧
            (value = .null ↔ d.value = none) ∧ (value = .text "0x" ↔ d.value = some []))
          report.entryDivergences shown) ∧
      ∀ s' : Store, s'.Reachable → ∀ (refs' : List Reference) (height' : Value) (report' : Report),
        s'.compareHeights refs' height' = .ok report' → report.toJson.Same report'.toJson →
        report.TellsSame report' := by
  have hregular := hs.consistent.regular_of_compareHeights h
  refine ⟨⟨_, rfl, _, rfl, ?_, hregular.names⟩, ⟨_, rfl, ?_⟩, ⟨_, rfl, ?_⟩, ?_⟩
  · rw [← hregular.map_nameOf_roots, List.map_map]
    rfl
  · rw [List.forall₂_map_right_iff, List.forall₂_same]
    intro d hd
    refine ⟨_, rfl, _, rfl, ?_, Numeral.nodup_map_ofInt hregular.ids⟩
    have hkeys := congrArg (List.map Numeral.ofInt) (hregular.contracts d hd)
    rw [List.map_map, List.map_map] at hkeys
    rw [List.map_map]
    exact hkeys
  · rw [List.forall₂_map_right_iff, List.forall₂_same]
    exact fun d _ => ⟨_, rfl, optionBytes_eq_iff d.value⟩
  · intro s' hs' refs' height' report' h' hsame
    exact hregular.tellsSame (hs'.consistent.regular_of_compareHeights h') hsame

/-- Two environments that differ in their roots, in an entry that is empty in one of them and absent
in the other, and in a variable.  The document of the comparison has their names for keys, and that of
the comparison in the other order says something else. -/
theorem document_keeps_report_of_empty_value :
    let payload (environment : String) (entries : List Value) (value : UInt8) : Value :=
      .record [("environment", .text environment), ("height", .int 4), ("index_hash", .bytes [4]),
        ("trie_root_hash", .bytes [value]), ("entries", .list entries),
        ("contracts", .list [.record [("qualified_id", .text "c"), ("source", .bytes [])]]),
        ("executions", .list [.record [("contract", .text "c"), ("tx_id", .bytes [5])]]),
        ("variables", .list [.record [("contract", .text "c"), ("key", .text "k"),
          ("tx_id", .bytes [5]), ("value", .bytes [value])]])]
    let steps : List Step := [.call (.createEnvironment (.text "b") (.int 1) (.text "/b")),
      .call (.createEnvironment (.text "a") (.int 2) (.text "/a")),
      .call (.applyBlock (payload "a" [.record [("key_hash", .bytes [3]), ("value", .bytes [])]] 1)),
      .call (.applyBlock (payload "b" [] 2))]
    let s : Store := (Step.runAll {} steps).2.tables
    ∃ report report', s.compareHeights [.name "a", .id 1, .id 2] (.int 4) = .ok report ∧
      s.compareHeights [.id 1, .name "a"] (.int 4) = .ok report' ∧
      report.entryDivergences = [⟨[3], 2, some []⟩, ⟨[3], 1, none⟩] ∧
      report.contractDivergences.length = 1 ∧
      (∃ roots, report.toJson.field? "trie_roots" = some roots ∧ roots.HasKeys ["a", "b"]) ∧
      ¬ report.toJson.Same report'.toJson := by
  intro payload steps s
  have hs : s.Reachable := (Step.reachable_runAll (.new false) steps (by decide)).stores.1
  have hfacts : (s.compareHeights [.name "a", .id 1, .id 2] (.int 4)).map (fun report =>
      (report.environments.map (·.name), report.entryDivergences, report.contractDivergences.length)) =
      .ok (["a", "b"], [⟨[3], 2, some []⟩, ⟨[3], 1, none⟩], 1) := by
    decide +kernel
  have hfacts' : (s.compareHeights [.id 1, .name "a"] (.int 4)).map (fun report =>
      report.environments.map (·.name)) = .ok ["b", "a"] := by
    decide +kernel
  obtain ⟨report, hreport, hfacts⟩ := exists_of_map_eq_ok hfacts
  obtain ⟨report', hreport', hnames'⟩ := exists_of_map_eq_ok hfacts'
  obtain ⟨hnames, hentries, hcontracts⟩ : report.environments.map (·.name) = ["a", "b"] ∧
      report.entryDivergences = [⟨[3], 2, some []⟩, ⟨[3], 1, none⟩] ∧
      report.contractDivergences.length = 1 := by
    simpa using hfacts
  obtain ⟨hroots, -, -, hsame⟩ := hs.document_keeps_report hreport
  rw [hnames] at hroots
  refine ⟨report, report', hreport, hreport', hentries, hcontracts, hroots, fun hdocuments => ?_⟩
  have henvironments := (hsame s hs _ _ report' hreport' hdocuments).environments
  rw [henvironments, hnames'] at hnames
  exact absurd hnames (by decide)

end Store

end ReplayLedger
