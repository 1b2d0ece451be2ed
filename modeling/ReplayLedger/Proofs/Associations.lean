import ReplayLedger.Association
import Mathlib.Data.List.Induction
import Mathlib.Data.List.Nodup

/-!
# Associations as maps

An association whose keys are all different is a finite map: a key has the value it is paired with,
in whichever order the pairs stand.  The association that a row of writes leaves is such a map, and
the value of a key in it is the one that was written last.
-/

namespace ReplayLedger.Association

variable {κ α : Type} [DecidableEq κ] {key : κ} {value : α} {table table' writes : List (κ × α)}

/-- A value that is read under a key stands with it in the table. -/
lemma mem_of_get? (h : get? key table = some value) : (key, value) ∈ table := by
  induction table with
  | nil => cases h
  | cons pair rest ih =>
    obtain ⟨k, v⟩ := pair
    unfold get? at h
    by_cases hk : k = key
    · rw [if_pos hk] at h
      obtain rfl := Option.some.inj h
      rw [hk]
      exact List.mem_cons_self
    · rw [if_neg hk] at h
      exact List.mem_cons_of_mem _ (ih h)

/-- Nothing is read under a key exactly if no pair has it. -/
lemma get?_eq_none_iff : get? key table = none ↔ key ∉ table.map (·.1) := by
  induction table with
  | nil => simp [get?]
  | cons pair rest ih =>
    obtain ⟨k, v⟩ := pair
    unfold get?
    by_cases hk : k = key
    · simp [hk]
    · simp [hk, ih, Ne.symm hk]

/-- Where keys are different, a key has the value it is paired with. -/
lemma get?_eq_some_iff (h : (table.map (·.1)).Nodup) :
    get? key table = some value ↔ (key, value) ∈ table := by
  refine ⟨mem_of_get?, fun hmem => ?_⟩
  cases hget : get? key table with
  | none => exact absurd (List.mem_map_of_mem hmem) (get?_eq_none_iff.1 hget)
  | some v =>
    have hsame := List.inj_on_of_nodup_map h (mem_of_get? hget) hmem rfl
    rw [(Prod.mk.inj hsame).2]

/-- The order of the pairs does not matter. -/
lemma get?_perm (h : (table.map (·.1)).Nodup) (hperm : table.Perm table') :
    get? key table = get? key table' := by
  have h' : (table'.map (·.1)).Nodup := (hperm.map _).nodup_iff.1 h
  apply Option.ext
  intro v
  rw [get?_eq_some_iff h, get?_eq_some_iff h', hperm.mem_iff]

/-- A value under a new key goes to the end. -/
lemma put_of_notMem (h : key ∉ table.map (·.1)) : put key value table = table ++ [(key, value)] := by
  induction table with
  | nil => rfl
  | cons pair rest ih =>
    obtain ⟨k, v⟩ := pair
    obtain ⟨hk, hrest⟩ : key ≠ k ∧ key ∉ rest.map (·.1) := by simpa using h
    unfold put
    rw [if_neg (Ne.symm hk), ih hrest]
    rfl

/-- A value under a key that is there leaves the keys as they are. -/
lemma map_fst_put_of_mem (h : key ∈ table.map (·.1)) :
    (put key value table).map (·.1) = table.map (·.1) := by
  induction table with
  | nil => cases h
  | cons pair rest ih =>
    obtain ⟨k, v⟩ := pair
    unfold put
    by_cases hk : k = key
    · simp [hk]
    · have hrest : key ∈ rest.map (·.1) := by simpa [Ne.symm hk] using h
      rw [if_neg hk, List.map_cons, ih hrest]
      rfl

/-- Keys that are distinct stay distinct, since a new pair goes to the end only under a new key. -/
lemma nodup_keys_put (h : (table.map (·.1)).Nodup) : ((put key value table).map (·.1)).Nodup := by
  by_cases hkey : key ∈ table.map (·.1)
  · rwa [map_fst_put_of_mem hkey]
  · rw [put_of_notMem hkey, List.map_append]
    refine List.nodup_append.2 ⟨h, List.nodup_singleton _, ?_⟩
    intro k hk k' hk' hsame
    obtain rfl : k' = key := by simpa using hk'
    exact hkey (hsame ▸ hk)

/-- A write after others is put into the table that they make. -/
lemma ofWrites_concat (writes : List (κ × α)) (write : κ × α) :
    ofWrites (writes ++ [write]) = put write.1 write.2 (ofWrites writes) := by
  unfold ofWrites
  rw [List.foldl_append]
  rfl

/-- Every key that was written is there once. -/
lemma nodup_keys_ofWrites (writes : List (κ × α)) : ((ofWrites writes).map (·.1)).Nodup := by
  induction writes using List.reverseRecOn with
  | nil => exact List.nodup_nil
  | append_singleton writes write ih =>
    rw [ofWrites_concat]
    exact nodup_keys_put ih

/-- A key has the value that was written to it last. -/
lemma get?_ofWrites (writes : List (κ × α)) (key : κ) :
    get? key (ofWrites writes) =
      ((writes.filter fun write => write.1 = key).getLast?).map (·.2) := by
  induction writes using List.reverseRecOn with
  | nil => rfl
  | append_singleton writes write ih =>
    rw [ofWrites_concat, get?_put, ih, List.filter_append]
    by_cases hkey : write.1 = key
    · simp [hkey]
    · simp [hkey, Ne.symm hkey]

/-- Writes to different keys are all kept. -/
lemma ofWrites_of_nodup (h : (writes.map (·.1)).Nodup) : ofWrites writes = writes := by
  induction writes using List.reverseRecOn with
  | nil => rfl
  | append_singleton writes write ih =>
    rw [List.map_append, List.nodup_append] at h
    have hnew : write.1 ∉ writes.map (·.1) := fun hmem => h.2.2 _ hmem _ (by simp) rfl
    rw [ofWrites_concat, ih h.1, put_of_notMem hnew]

end ReplayLedger.Association
