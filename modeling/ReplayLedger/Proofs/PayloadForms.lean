import ReplayLedger.Proofs.Judgement

/-!
# The forms of a payload

A payload can be handed over in many forms: bytes as such or as hexadecimal text, integers as
numerals, names as bytes.  The check brings all of them to one form, in which the payload can be
written down again (`BlockPayload.toValue`).  The check of this form gives the payload back
(`BlockPayload.WellFormed.ofValue_toValue`), since all that the check demands of a payload still holds
of the result (`BlockPayload.wellFormed_of_ofValue`).

A raw payload is *respelled* (`Payload.Respells`) where hexadecimal texts in it are replaced by other
forms of the same bytes.  Every check of a part comes out as before then, so the whole check does
(`Payload.Respells.check_eq`).
-/

namespace ReplayLedger

/-! ## Writing a payload down -/

/-- An environment as it is named in a payload. -/
def Reference.toValue : Reference → Value
  | id n => .int n
  | name s => .text s
  | illFormed t => .illFormed t

/-- A trie leaf, with its bytes as such. -/
def EntryWrite.toValue (write : EntryWrite) : Value :=
  .record [("key_hash", .bytes write.keyHash), ("value", .bytes write.value)]

/-- A deployment, with its source as bytes. -/
def Deployment.toValue (deployment : Deployment) : Value :=
  .record [("qualified_id", .text deployment.qualifiedId), ("source", .bytes deployment.source)]

/-- An invocation, with its bytes as such. -/
def Invocation.toValue (invocation : Invocation) : Value :=
  .record [("contract", .text invocation.contract), ("tx_id", .bytes invocation.transactionId)]

/-- A write to a variable, with its bytes as such. -/
def VariableWrite.toValue (write : VariableWrite) : Value :=
  .record [("contract", .text write.contract), ("key", .text write.key),
    ("tx_id", .bytes write.transactionId), ("value", .bytes write.value)]

/-- A write to a map, with its bytes as such. -/
def MapWrite.toValue (write : MapWrite) : Value :=
  .record [("contract", .text write.contract), ("name", .text write.name),
    ("key_hash", .bytes write.keyHash), ("value", .bytes write.value)]

namespace BlockPayload

/-- A payload with all its fields, with its bytes as such. -/
def toValue (payload : BlockPayload) : Value :=
  .record [("environment", payload.environment.toValue), ("height", .int payload.height),
    ("index_hash", .bytes payload.indexHash), ("trie_root_hash", .bytes payload.trieRoot),
    ("entries", .list (payload.entries.map (·.toValue))),
    ("contracts", .list (payload.contracts.map (·.toValue))),
    ("executions", .list (payload.executions.map (·.toValue))),
    ("variables", .list (payload.varWrites.map (·.toValue))),
    ("maps", .list (payload.mapWrites.map (·.toValue)))]

/-- What the check of a raw payload demands of the payload: its height is not negative, and no
contract, key or name in it is empty. -/
structure WellFormed (payload : BlockPayload) : Prop where
  height : 0 ≤ payload.height
  contracts : ∀ deployment ∈ payload.contracts, deployment.qualifiedId ≠ ""
  executions : ∀ invocation ∈ payload.executions, invocation.contract ≠ ""
  varWrites : ∀ write ∈ payload.varWrites, write.contract ≠ "" ∧ write.key ≠ ""
  mapWrites : ∀ write ∈ payload.mapWrites, write.contract ≠ "" ∧ write.name ≠ ""

end BlockPayload

namespace Payload

open Checked

variable {α : Type} {fields fields' : Fields} {name : String} {check : Value → Checked α}

/-! ## What is checked -/

/-- The place of a check matters for its problems only. -/
lemma inside_eq_ok {place : Place} {x : Checked α} {a : α} : inside place x = .ok a ↔ x = .ok a := by
  cases x <;> simp [inside]

/-- A field passes if it is there and its value passes. -/
lemma field_eq_ok {a : α} : field fields name check = .ok a ↔
    ∃ v, Association.get? name fields = some v ∧ check v = .ok a := by
  rw [field, inside_eq_ok]
  cases Association.get? name fields with
  | none => simp [refuse]
  | some v => simp

/-- A record passes if it is one and its fields pass. -/
lemma record_eq_ok {model : String} {check : Fields → Checked α} {v : Value} {a : α} :
    record model check v = .ok a ↔ ∃ fields, v = .record fields ∧ check fields = .ok a := by
  cases v <;> simp [record, refuse]

/-- A record whose parts make up the result, one for one, gives the result that they make up. -/
lemma record_map_eq_ok {β : Type} {model : String} {parts : Fields → Checked β} {make : β → α}
    {v : Value} {a : α} (take : α → β) (hmake : ∀ a, make (take a) = a)
    (htake : ∀ b, take (make b) = b) :
    record model (fun fields => (parts fields).map make) v = .ok a ↔
      ∃ fields, v = .record fields ∧ parts fields = .ok (take a) := by
  simp only [record_eq_ok, map_eq_ok]
  constructor
  · rintro ⟨fields, rfl, b, hb, rfl⟩
    exact ⟨fields, rfl, (htake b).symm ▸ hb⟩
  · rintro ⟨fields, rfl, hparts⟩
    exact ⟨fields, rfl, take a, hparts, hmake a⟩

/-- A list of items passes its check if every one of them does. -/
lemma all_mapIdx_eq_ok {place : Nat → Place} {values : List Value} {xs : List α} :
    all (values.mapIdx fun i v => inside (place i) (check v)) = .ok xs ↔
      List.Forall₂ (fun v x => check v = .ok x) values xs := by
  induction values generalizing place xs with
  | nil => simp [all, eq_comm]
  | cons v values ih =>
    rw [List.mapIdx_cons, all, map_eq_ok, List.forall₂_cons_left_iff]
    simp only [both_eq_ok, inside_eq_ok, ih]
    constructor
    · rintro ⟨⟨x, xs⟩, ⟨hx, hxs⟩, rfl⟩
      exact ⟨x, xs, hx, hxs, rfl⟩
    · rintro ⟨x, xs, hx, hxs, rfl⟩
      exact ⟨(x, xs), ⟨hx, hxs⟩, rfl⟩

/-- A field of items passes if it is left out, or if it is a list whose items pass one by one. -/
lemma items_eq_ok {xs : List α} : items fields name check = .ok xs ↔
    Association.get? name fields = none ∧ xs = [] ∨
      ∃ v values, Association.get? name fields = some v ∧ listed? v = some values ∧
        List.Forall₂ (fun v x => check v = .ok x) values xs := by
  rw [items, inside_eq_ok]
  cases Association.get? name fields with
  | none => simp [eq_comm]
  | some v =>
    cases hlisted : listed? v with
    | none => simp [hlisted, refuse]
    | some values => simp [hlisted, all_mapIdx_eq_ok]

/-- What the check demands of an item holds of every item. -/
lemma forall_of_items {P : α → Prop} (hcheck : ∀ {v x}, check v = .ok x → P x) {xs : List α}
    (h : items fields name check = .ok xs) : ∀ x ∈ xs, P x := by
  rcases items_eq_ok.1 h with ⟨-, rfl⟩ | ⟨v, values, -, -, hitems⟩
  · simp
  · clear h
    induction hitems with
    | nil => simp
    | cons hx _ ih => exact List.forall_mem_cons.2 ⟨hcheck hx, ih⟩

/-- A text that has passed is not empty. -/
lemma nonEmptyText_ne {v : Value} {s : String} (h : nonEmptyText v = .ok s) : s ≠ "" := by
  unfold nonEmptyText at h
  cases htext : text v with
  | error problems =>
    rw [htext] at h
    cases h
  | ok t =>
    simp only [htext] at h
    split at h
    · cases h
    · obtain rfl := Except.ok.inj h
      assumption

/-- A text that has passed in a field is not empty. -/
lemma field_nonEmptyText_ne {s : String} (h : field fields name nonEmptyText = .ok s) : s ≠ "" := by
  obtain ⟨v, -, hv⟩ := field_eq_ok.1 h
  exact nonEmptyText_ne hv

/-! ## What a part of a payload is taken from -/

/-- A deployment is taken from its two fields. -/
lemma deployment_eq_ok {v : Value} {x : Deployment} : deployment v = .ok x ↔
    ∃ fields, v = .record fields ∧ field fields "qualified_id" nonEmptyText = .ok x.qualifiedId ∧
      field fields "source" sourceBytes = .ok x.source := by
  rw [deployment,
    record_map_eq_ok (fun x => (x.qualifiedId, x.source)) (fun _ => rfl) fun _ => rfl]
  simp only [both_eq_ok]

/-- An invocation is taken from its two fields. -/
lemma invocation_eq_ok {v : Value} {x : Invocation} : invocation v = .ok x ↔
    ∃ fields, v = .record fields ∧ field fields "contract" nonEmptyText = .ok x.contract ∧
      field fields "tx_id" hexBytes = .ok x.transactionId := by
  rw [invocation,
    record_map_eq_ok (fun x => (x.contract, x.transactionId)) (fun _ => rfl) fun _ => rfl]
  simp only [both_eq_ok]

/-- A write to a variable is taken from its four fields. -/
lemma variableWrite_eq_ok {v : Value} {x : VariableWrite} : variableWrite v = .ok x ↔
    ∃ fields, v = .record fields ∧ field fields "contract" nonEmptyText = .ok x.contract ∧
      field fields "key" nonEmptyText = .ok x.key ∧
      field fields "tx_id" hexBytes = .ok x.transactionId ∧
      field fields "value" hexBytes = .ok x.value := by
  rw [variableWrite,
    record_map_eq_ok (fun x => (x.contract, x.key, x.transactionId, x.value)) (fun _ => rfl) fun _ => rfl]
  simp only [both_eq_ok]

/-- A write to a map is taken from its four fields. -/
lemma mapWrite_eq_ok {v : Value} {x : MapWrite} : mapWrite v = .ok x ↔
    ∃ fields, v = .record fields ∧ field fields "contract" nonEmptyText = .ok x.contract ∧
      field fields "name" nonEmptyText = .ok x.name ∧
      field fields "key_hash" hexBytes = .ok x.keyHash ∧
      field fields "value" hexBytes = .ok x.value := by
  rw [mapWrite,
    record_map_eq_ok (fun x => (x.contract, x.name, x.keyHash, x.value)) (fun _ => rfl) fun _ => rfl]
  simp only [both_eq_ok]

/-- What the parts of a payload are that has passed its check. -/
lemma check_eq_ok {v : Value} {payload : BlockPayload} : Payload.check v = .ok payload ↔
    ∃ fields, v = .record fields ∧
      field fields "environment" reference = .ok payload.environment ∧
      field fields "height" height = .ok payload.height ∧
      field fields "index_hash" hexBytes = .ok payload.indexHash ∧
      field fields "trie_root_hash" hexBytes = .ok payload.trieRoot ∧
      items fields "entries" entryWrite = .ok payload.entries ∧
      items fields "contracts" deployment = .ok payload.contracts ∧
      items fields "executions" invocation = .ok payload.executions ∧
      items fields "variables" variableWrite = .ok payload.varWrites ∧
      items fields "maps" mapWrite = .ok payload.mapWrites := by
  rw [Payload.check, record_map_eq_ok (fun payload => (payload.environment, payload.height,
    payload.indexHash, payload.trieRoot, payload.entries, payload.contracts, payload.executions,
    payload.varWrites, payload.mapWrites)) (fun _ => rfl) fun _ => rfl]
  simp only [both_eq_ok]

end Payload

namespace BlockPayload

/-- A payload is accepted exactly if its check passes. -/
lemma ofValue_eq_ok {raw : Value} {payload : BlockPayload} :
    ofValue raw = .ok payload ↔ Payload.check raw = .ok payload := by
  unfold ofValue
  cases Payload.check raw <;> simp

/-- What the check demands of a payload holds of every payload that has passed it. -/
lemma wellFormed_of_ofValue {raw : Value} {payload : BlockPayload}
    (h : ofValue raw = .ok payload) : payload.WellFormed := by
  obtain ⟨fields, rfl, -, -, -, -, -, hcontracts, hexecutions, hvars, hmaps⟩ :=
    Payload.check_eq_ok.1 (ofValue_eq_ok.1 h)
  refine ⟨height_of_ofValue h, Payload.forall_of_items ?_ hcontracts,
    Payload.forall_of_items ?_ hexecutions, Payload.forall_of_items ?_ hvars,
    Payload.forall_of_items ?_ hmaps⟩
  · intro v deployment hv
    obtain ⟨_, -, hid, -⟩ := Payload.deployment_eq_ok.1 hv
    exact Payload.field_nonEmptyText_ne hid
  · intro v invocation hv
    obtain ⟨_, -, hcontract, -⟩ := Payload.invocation_eq_ok.1 hv
    exact Payload.field_nonEmptyText_ne hcontract
  · intro v write hv
    obtain ⟨_, -, hcontract, hkey, -⟩ := Payload.variableWrite_eq_ok.1 hv
    exact ⟨Payload.field_nonEmptyText_ne hcontract, Payload.field_nonEmptyText_ne hkey⟩
  · intro v write hv
    obtain ⟨_, -, hcontract, hname, -⟩ := Payload.mapWrite_eq_ok.1 hv
    exact ⟨Payload.field_nonEmptyText_ne hcontract, Payload.field_nonEmptyText_ne hname⟩

end BlockPayload

/-! ## Checking what was written down -/

namespace Payload

variable {α : Type} {fields : Fields} {name : String} {check : Value → Checked α}

/-- A reference that has been written down is read back, an id as an id and a name as a name. -/
@[simp] lemma reference_toValue (ref : Reference) : reference ref.toValue = .ok ref := by
  cases ref <;> rfl

lemma height_int {n : Int} (h : 0 ≤ n) : height (.int n) = .ok n := by
  simp [height, integer, h]

lemma nonEmptyText_text {s : String} (h : s ≠ "") : nonEmptyText (.text s) = .ok s := by
  simp [nonEmptyText, text, h]

/-- Items that have been written down are read back if each one is. -/
lemma items_of_list {xs : List α} {f : α → Value}
    (hfound : Association.get? name fields = some (.list (xs.map f)))
    (h : ∀ x ∈ xs, check (f x) = .ok x) : items fields name check = .ok xs := by
  refine items_eq_ok.2 (.inr ⟨_, _, hfound, rfl, ?_⟩)
  rw [List.forall₂_map_left_iff]
  exact List.forall₂_same.2 h

/-- An entry that has been written down is read back, whatever its bytes. -/
lemma entryWrite_toValue (write : EntryWrite) : entryWrite write.toValue = .ok write := rfl

/-- A deployment that has been written down is read back if its identifier is not empty. -/
lemma deployment_toValue {x : Deployment} (h : x.qualifiedId ≠ "") :
    deployment x.toValue = .ok x :=
  deployment_eq_ok.2 ⟨_, rfl, field_eq_ok.2 ⟨_, rfl, nonEmptyText_text h⟩,
    field_eq_ok.2 ⟨_, rfl, rfl⟩⟩

/-- An invocation that has been written down is read back if its contract is not empty. -/
lemma invocation_toValue {x : Invocation} (h : x.contract ≠ "") :
    invocation x.toValue = .ok x :=
  invocation_eq_ok.2 ⟨_, rfl, field_eq_ok.2 ⟨_, rfl, nonEmptyText_text h⟩,
    field_eq_ok.2 ⟨_, rfl, rfl⟩⟩

/-- A write to a variable that has been written down is read back if its texts are not empty. -/
lemma variableWrite_toValue {x : VariableWrite} (h : x.contract ≠ "" ∧ x.key ≠ "") :
    variableWrite x.toValue = .ok x :=
  variableWrite_eq_ok.2 ⟨_, rfl, field_eq_ok.2 ⟨_, rfl, nonEmptyText_text h.1⟩,
    field_eq_ok.2 ⟨_, rfl, nonEmptyText_text h.2⟩, field_eq_ok.2 ⟨_, rfl, rfl⟩,
    field_eq_ok.2 ⟨_, rfl, rfl⟩⟩

/-- A write to a map that has been written down is read back if its texts are not empty. -/
lemma mapWrite_toValue {x : MapWrite} (h : x.contract ≠ "" ∧ x.name ≠ "") :
    mapWrite x.toValue = .ok x :=
  mapWrite_eq_ok.2 ⟨_, rfl, field_eq_ok.2 ⟨_, rfl, nonEmptyText_text h.1⟩,
    field_eq_ok.2 ⟨_, rfl, nonEmptyText_text h.2⟩, field_eq_ok.2 ⟨_, rfl, rfl⟩,
    field_eq_ok.2 ⟨_, rfl, rfl⟩⟩

end Payload

/-- A well formed payload that was written down is checked for itself. -/
lemma BlockPayload.WellFormed.ofValue_toValue {payload : BlockPayload} (h : payload.WellFormed) :
    ofValue payload.toValue = .ok payload := by
  refine ofValue_eq_ok.2 (Payload.check_eq_ok.2 ⟨_, rfl, ?_, ?_, ?_, ?_, ?_, ?_, ?_, ?_, ?_⟩)
  · exact Payload.field_eq_ok.2 ⟨_, rfl, Payload.reference_toValue _⟩
  · exact Payload.field_eq_ok.2 ⟨_, rfl, Payload.height_int h.height⟩
  · exact Payload.field_eq_ok.2 ⟨_, rfl, rfl⟩
  · exact Payload.field_eq_ok.2 ⟨_, rfl, rfl⟩
  · exact Payload.items_of_list rfl fun write _ => Payload.entryWrite_toValue write
  · exact Payload.items_of_list rfl fun x hx => Payload.deployment_toValue (h.contracts x hx)
  · exact Payload.items_of_list rfl fun x hx => Payload.invocation_toValue (h.executions x hx)
  · exact Payload.items_of_list rfl fun x hx => Payload.variableWrite_toValue (h.varWrites x hx)
  · exact Payload.items_of_list rfl fun x hx => Payload.mapWrite_toValue (h.mapWrites x hx)

/-! ## Respelling -/

namespace Payload

open Checked

/-- Two raw values of a binary field: any value and itself, or a hexadecimal text and another form of
its bytes. -/
inductive SameHex : Value → Value → Prop
  | refl (v : Value) : SameHex v v
  | text {s s' : String} {data : Bytes} (read : Argument.hex s = .ok data)
    (read' : Argument.hex s' = .ok data) : SameHex (.text s) (.text s')
  | bytes {s : String} {data : Bytes} (read : Argument.hex s = .ok data) :
    SameHex (.text s) (.bytes data)
  | buffer {s : String} {data : Bytes} (read : Argument.hex s = .ok data) :
    SameHex (.text s) (.buffer data)

/-- The same names in the same order, and under every name values that go together. -/
def Paired (related : String → Value → Value → Prop) : Fields → Fields → Prop :=
  List.Forall₂ fun x y => x.1 = y.1 ∧ related x.1 x.2 y.2

/-- A value and itself, or two records whose fields go together. -/
inductive OnRecord (related : String → Value → Value → Prop) : Value → Value → Prop
  | refl (v : Value) : OnRecord related v v
  | fields {fields fields' : Fields} (h : Paired related fields fields') :
    OnRecord related (.record fields) (.record fields')

/-- A value and itself, or two lists whose items go together. -/
inductive OnList (related : Value → Value → Prop) : Value → Value → Prop
  | refl (v : Value) : OnList related v v
  | items {values values' : List Value} (h : List.Forall₂ related values values') :
    OnList related (.list values) (.list values')

/-- Two raw values of a field, which are the same if the field is not one of the binary ones. -/
def RespellsBinary (binary : List String) (name : String) (v w : Value) : Prop :=
  v = w ∨ name ∈ binary ∧ SameHex v w

/-- Two lists of raw parts, with other forms of some hexadecimal texts in the binary fields. -/
def RespellsParts (binary : List String) : Value → Value → Prop :=
  OnList (OnRecord (RespellsBinary binary))

/-- Two raw values of a field of a payload, with other forms of some hexadecimal texts. -/
def RespellsField (name : String) : Value → Value → Prop :=
  if name = "entries" ∨ name = "maps" then RespellsParts ["key_hash", "value"]
  else if name = "executions" then RespellsParts ["tx_id"]
  else if name = "variables" then RespellsParts ["tx_id", "value"]
  else RespellsBinary ["index_hash", "trie_root_hash"] name

/-- A raw payload, and the same one with other forms of some hexadecimal texts. -/
def Respells : Value → Value → Prop := OnRecord RespellsField

/-- Two forms of the same bytes pass or fail alike. -/
lemma SameHex.hexBytes_eq {v w : Value} (h : SameHex v w) : hexBytes w = hexBytes v := by
  cases h with
  | refl => rfl
  | text read read' => simp only [hexBytes, read, read']
  | bytes read | buffer read =>
    simp only [hexBytes, read]
    rfl

section Paired

variable {α : Type} {related : String → Value → Value → Prop} {fields fields' : Fields} {name : String}
  {check : Value → Checked α}

/-- Under every name there are values that go together, or none. -/
lemma Paired.get? (h : Paired related fields fields') (name : String) :
    Association.get? name fields = none ∧ Association.get? name fields' = none ∨
      ∃ v w, Association.get? name fields = some v ∧ Association.get? name fields' = some w ∧
        related name v w := by
  induction h with
  | nil => exact .inl ⟨rfl, rfl⟩
  | @cons x y rest rest' hxy _ ih =>
    obtain ⟨k, v⟩ := x
    obtain ⟨_, w⟩ := y
    obtain ⟨rfl, hvw⟩ := hxy
    simp only [Association.get?]
    by_cases hname : k = name
    · subst hname
      exact .inr ⟨v, w, if_pos rfl, if_pos rfl, hvw⟩
    · rwa [if_neg hname, if_neg hname]

/-- A field is as before if its check does not tell the two values apart. -/
lemma Paired.field_eq (h : Paired related fields fields')
    (hcheck : ∀ v w, related name v w → check w = check v) :
    field fields' name check = field fields name check := by
  rcases h.get? name with ⟨hv, hw⟩ | ⟨v, w, hv, hw, hvw⟩
  · rw [field, field, hv, hw]
  · simp only [field, hv, hw, hcheck v w hvw]

/-- Items that go together stand at the same places. -/
lemma mapIdx_eq_of_forall₂ {β : Type} {relatedItems : Value → Value → Prop} {f : Nat → Value → β}
    {values values' : List Value} (h : List.Forall₂ relatedItems values values')
    (hf : ∀ i v w, relatedItems v w → f i w = f i v) : values'.mapIdx f = values.mapIdx f := by
  induction h generalizing f with
  | nil => rfl
  | cons hvw _ ih =>
    rw [List.mapIdx_cons, List.mapIdx_cons, hf 0 _ _ hvw, ih fun i v w => hf (i + 1) v w]

/-- A field of items is as before if the check does not tell two items apart that go together. -/
lemma Paired.items_eq {relatedItems : Value → Value → Prop} (h : Paired related fields fields')
    (hname : ∀ v w, related name v w → OnList relatedItems v w)
    (hcheck : ∀ v w, relatedItems v w → check w = check v) :
    items fields' name check = items fields name check := by
  rcases h.get? name with ⟨hv, hw⟩ | ⟨v, w, hv, hw, hvw⟩
  · rw [items, items, hv, hw]
  · cases hname v w hvw with
    | refl => rw [items, items, hv, hw]
    | items hitems =>
      have hplaces := mapIdx_eq_of_forall₂ (f := fun i v => inside (.index i) (check v)) hitems
        fun i v w hvw => congrArg (inside (.index i)) (hcheck v w hvw)
      simp only [items, hv, hw, listed?, hplaces]

/-- A record is as before if its fields are. -/
lemma OnRecord.record_eq {model : String} {check : Fields → Checked α} {v w : Value}
    (h : OnRecord related v w)
    (hcheck : ∀ {fields fields'}, Paired related fields fields' → check fields' = check fields) :
    record model check w = record model check v := by
  cases h with
  | refl => rfl
  | fields hfields => exact hcheck hfields

end Paired

section Parts

variable {α : Type} {binary : List String} {fields fields' : Fields} {v w : Value}

/-- Read as bytes, a field is as before, binary or not. -/
lemma RespellsBinary.hexBytes_eq (name : String) (v w : Value) (h : RespellsBinary binary name v w) :
    hexBytes w = hexBytes v := by
  rcases h with rfl | ⟨-, h⟩
  · rfl
  · exact h.hexBytes_eq

/-- A field that is not binary is as before. -/
lemma Paired.field_eq_of_not_mem (h : Paired (RespellsBinary binary) fields fields') {name : String}
    (hname : name ∉ binary) (check : Value → Checked α) :
    field fields' name check = field fields name check :=
  h.field_eq fun v w hvw => by rw [hvw.resolve_right fun h => hname h.1]

/-- A field that is read as bytes is as before, under every name. -/
lemma Paired.field_hexBytes_eq (h : Paired (RespellsBinary binary) fields fields') (name : String) :
    field fields' name hexBytes = field fields name hexBytes :=
  h.field_eq (RespellsBinary.hexBytes_eq name)

/-- An entry is as before if its key and its value are respelled. -/
lemma entryWrite_eq (h : OnRecord (RespellsBinary ["key_hash", "value"]) v w) :
    entryWrite w = entryWrite v :=
  h.record_eq fun hfields => by rw [hfields.field_hexBytes_eq, hfields.field_hexBytes_eq]

/-- An invocation is as before if its transaction is respelled. -/
lemma invocation_eq (h : OnRecord (RespellsBinary ["tx_id"]) v w) : invocation w = invocation v :=
  h.record_eq fun hfields => by
    rw [hfields.field_eq_of_not_mem (by decide), hfields.field_hexBytes_eq]

/-- A write to a variable is as before if its transaction and its value are respelled. -/
lemma variableWrite_eq (h : OnRecord (RespellsBinary ["tx_id", "value"]) v w) :
    variableWrite w = variableWrite v :=
  h.record_eq fun hfields => by
    rw [hfields.field_eq_of_not_mem (by decide), hfields.field_eq_of_not_mem (by decide),
      hfields.field_hexBytes_eq, hfields.field_hexBytes_eq]

/-- A write to a map is as before if its key and its value are respelled. -/
lemma mapWrite_eq (h : OnRecord (RespellsBinary ["key_hash", "value"]) v w) :
    mapWrite w = mapWrite v :=
  h.record_eq fun hfields => by
    rw [hfields.field_eq_of_not_mem (by decide), hfields.field_eq_of_not_mem (by decide),
      hfields.field_hexBytes_eq, hfields.field_hexBytes_eq]

end Parts

/-- A field in which no part is binary is as before. -/
lemma RespellsField.eq_of_mem {name : String} {v w : Value} (h : RespellsField name v w)
    (hname : name ∈ ["environment", "height", "contracts"]) : v = w := by
  simp only [List.mem_cons, List.not_mem_nil, or_false] at hname
  rcases hname with rfl | rfl | rfl <;> simpa [RespellsField, RespellsBinary] using h

/-- Respelling a raw payload changes nothing in what its check comes to. -/
lemma Respells.check_eq {v w : Value} (h : Respells v w) : Payload.check w = Payload.check v := by
  refine OnRecord.record_eq h fun {fields fields'} hfields => ?_
  have henvironment : field fields' "environment" reference =
      field fields "environment" reference :=
    hfields.field_eq fun v w hvw => by rw [hvw.eq_of_mem (by decide)]
  have hheight : field fields' "height" height = field fields "height" height :=
    hfields.field_eq fun v w hvw => by rw [hvw.eq_of_mem (by decide)]
  have hindex : field fields' "index_hash" hexBytes = field fields "index_hash" hexBytes :=
    hfields.field_eq fun v w hvw => RespellsBinary.hexBytes_eq "index_hash" v w hvw
  have hroot : field fields' "trie_root_hash" hexBytes = field fields "trie_root_hash" hexBytes :=
    hfields.field_eq fun v w hvw => RespellsBinary.hexBytes_eq "trie_root_hash" v w hvw
  have hentries : items fields' "entries" entryWrite = items fields "entries" entryWrite :=
    hfields.items_eq (fun v w hvw => hvw) fun v w => entryWrite_eq
  have hcontracts : items fields' "contracts" deployment = items fields "contracts" deployment := by
    refine hfields.items_eq (fun v w hvw => ?_) fun v w (hvw : v = w) => by rw [hvw]
    rw [hvw.eq_of_mem (by decide)]
    exact .refl w
  have hexecutions : items fields' "executions" invocation = items fields "executions" invocation :=
    hfields.items_eq (fun v w hvw => hvw) fun v w => invocation_eq
  have hvars : items fields' "variables" variableWrite = items fields "variables" variableWrite :=
    hfields.items_eq (fun v w hvw => hvw) fun v w => variableWrite_eq
  have hmaps : items fields' "maps" mapWrite = items fields "maps" mapWrite :=
    hfields.items_eq (fun v w hvw => hvw) fun v w => mapWrite_eq
  rw [henvironment, hheight, hindex, hroot, hentries, hcontracts, hexecutions, hvars, hmaps]

end Payload

/-- A raw payload of which the check gives a payload is applied as that payload. -/
lemma Script.applyBlock_of_checked {raw : Value} {payload : BlockPayload}
    (h : BlockPayload.ofValue raw = .ok payload) : applyBlock raw = applyPayload payload := by
  rw [applyBlock_eq_change, applyPayload_eq_change]
  congr 1
  funext s
  rw [Store.applyBlock, h, ok_bind]

namespace BlockPayload

/-- The check of raw payloads brings all their forms to one.  A payload that it gives has a height
that is not negative and no empty contract, key or name in it.  Written down again with all its fields
it is checked for itself, so that an id stays an id and a name a name, and what is an integer or a text
from the start is never taken for the other.  Any respelling of the raw payload is checked for the same
payload.  So on every database the raw payload, every respelling of it, what is written down and the
payload itself are applied alike, with the same answer or the same error. -/
theorem ofValue_canonical {raw : Value} {payload : BlockPayload} (h : ofValue raw = .ok payload) :
    payload.WellFormed ∧ ofValue payload.toValue = .ok payload ∧
      (∀ fields, raw = .record fields →
        (∀ n, Association.get? "environment" fields = some (.int n) → payload.environment = .id n) ∧
        ∀ s, Association.get? "environment" fields = some (.text s) →
          payload.environment = .name s) ∧
      (∀ other, Payload.Respells raw other → ofValue other = .ok payload) ∧
      ∀ (other : Value) (db : Database),
        other = raw ∨ Payload.Respells raw other ∨ other = payload.toValue →
          (Script.applyBlock other).run db = (Script.applyPayload payload).run db ∧
            db.tables.applyBlock other = db.tables.applyPayload payload := by
  have hwell := wellFormed_of_ofValue h
  have hdump := hwell.ofValue_toValue
  have hrespelled (other : Value) (hother : Payload.Respells raw other) :
      ofValue other = .ok payload := by
    rw [ofValue, hother.check_eq]
    exact h
  refine ⟨hwell, hdump, ?_, hrespelled, ?_⟩
  · rintro fields rfl
    obtain ⟨_, hfields, henvironment, -⟩ := Payload.check_eq_ok.1 (ofValue_eq_ok.1 h)
    obtain rfl := Value.record.inj hfields
    obtain ⟨v, hfound, hreference⟩ := Payload.field_eq_ok.1 henvironment
    constructor
    · intro n hn
      obtain rfl := Option.some.inj (hfound.symm.trans hn)
      exact (Except.ok.inj hreference).symm
    · intro s hs
      obtain rfl := Option.some.inj (hfound.symm.trans hs)
      exact (Except.ok.inj hreference).symm
  · intro other db hother
    have hchecked : ofValue other = .ok payload := by
      rcases hother with rfl | hother | rfl
      · exact h
      · exact hrespelled other hother
      · exact hdump
    rw [Script.applyBlock_of_checked hchecked, Store.applyBlock, hchecked]
    exact ⟨rfl, rfl⟩

/-- A payload whose environment is a numeral in bytes and whose height is a numeral with a fraction of
zero.  Of its hexadecimal texts, one is respelled as bytes and one in capital letters with a marker;
the source stays as it is, although it looks like one. -/
theorem ofValue_canonical_of_mixture :
    let raw (index key : Value) : Value :=
      .record [("environment", .bytes [49, 50]), ("height", .text " 1_0.0\n"), ("index_hash", index),
        ("trie_root_hash", .buffer [7]),
        ("entries", .list [.record [("key_hash", key), ("value", .bytes [])]]),
        ("contracts", .list [.record [("qualified_id", .bytes [99]), ("source", .text "ab")]]),
        ("remark", .null)]
    let payload : BlockPayload :=
      { environment := .id 12, height := 10, indexHash := [10, 255], trieRoot := [7],
        entries := [⟨[171], []⟩], contracts := [⟨"c", [97, 98]⟩] }
    let first := raw (.text "0X0a FF") (.text "ab")
    let second := raw (.buffer [10, 255]) (.text "0xAB")
    ofValue first = .ok payload ∧ payload.WellFormed ∧ ofValue payload.toValue = .ok payload ∧
      Payload.Respells first second ∧ ofValue second = .ok payload ∧
      ∀ db, (Script.applyBlock second).run db = (Script.applyPayload payload).run db := by
  intro raw payload first second
  have hchecked : ofValue first = .ok payload := by decide +kernel
  have hindex : Payload.SameHex (.text "0X0a FF") (.buffer [10, 255]) := .buffer (by decide +kernel)
  have hkey : Payload.SameHex (.text "ab") (.text "0xAB") := by
    have hsmall : Argument.hex "ab" = .ok [171] := by decide +kernel
    exact .text hsmall (by decide +kernel)
  have hentries : Payload.RespellsParts ["key_hash", "value"]
      (.list [.record [("key_hash", .text "ab"), ("value", .bytes [])]])
      (.list [.record [("key_hash", .text "0xAB"), ("value", .bytes [])]]) :=
    .items (.cons (.fields (.cons ⟨rfl, .inr ⟨by decide, hkey⟩⟩ (.cons ⟨rfl, .inl rfl⟩ .nil))) .nil)
  have hrespells : Payload.Respells first second :=
    .fields (.cons ⟨rfl, .inl rfl⟩ (.cons ⟨rfl, .inl rfl⟩
      (.cons ⟨rfl, .inr ⟨by decide, hindex⟩⟩ (.cons ⟨rfl, .inl rfl⟩ (.cons ⟨rfl, hentries⟩
        (.cons ⟨rfl, .inl rfl⟩ (.cons ⟨rfl, .inl rfl⟩ .nil)))))))
  obtain ⟨hwell, hdump, -, hother, hruns⟩ := ofValue_canonical hchecked
  exact ⟨hchecked, hwell, hdump, hrespells, hother second hrespells, fun db =>
    (hruns second db (.inr (.inl hrespells))).1⟩

end BlockPayload

end ReplayLedger
