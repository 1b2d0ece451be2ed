import ReplayLedger.Comparison
import ReplayLedger.Proofs.Associations

/-!
# Keys on which tables differ

The comparison of blocks goes through all pairs of them, collects the keys on which a pair differs and
sorts these.  What comes out does not depend on the way: `keysDiffering` lists, in strictly ascending
order, exactly the keys on which the tables are not all equal (`mem_keysDiffering`,
`pairwise_keysDiffering`).
-/

namespace ReplayLedger

/-! ## Sorted keys -/

section Sorting

variable {α : Type} [DecidableEq α] {lt : α → α → Bool}

/-- A key is put between the smaller and the greater ones. -/
lemma pairwise_insertDistinct (htrans : ∀ a b c, lt a b → lt b c → lt a c)
    (htotal : ∀ a b, ¬ lt a b → a ≠ b → lt b a) (a : α) {keys : List α}
    (h : keys.Pairwise (lt · ·)) : (insertDistinct lt a keys).Pairwise (lt · ·) := by
  induction keys with
  | nil => exact List.pairwise_singleton _ _
  | cons b rest ih =>
    obtain ⟨hb, hrest⟩ := List.pairwise_cons.1 h
    unfold insertDistinct
    -- the key comes before `b`, is `b`, or goes into the rest
    by_cases hlt : lt a b
    · rw [if_pos hlt]
      refine List.pairwise_cons.2 ⟨fun x hx => ?_, h⟩
      rcases List.mem_cons.1 hx with rfl | hx
      · exact hlt
      · exact htrans a b x hlt (hb x hx)
    · rw [if_neg hlt]
      by_cases heq : a = b
      · rw [if_pos heq]
        exact h
      · rw [if_neg heq]
        refine List.pairwise_cons.2 ⟨fun x hx => ?_, ih hrest⟩
        rcases (mem_insertDistinct lt a x rest).1 hx with rfl | hx
        · exact htotal x b hlt heq
        · exact hb x hx

/-- Sorted without repetitions, keys ascend strictly. -/
lemma pairwise_sortDistinct (htrans : ∀ a b c, lt a b → lt b c → lt a c)
    (htotal : ∀ a b, ¬ lt a b → a ≠ b → lt b a) (keys : List α) :
    (sortDistinct lt keys).Pairwise (lt · ·) := by
  induction keys with
  | nil => exact .nil
  | cons a rest ih => exact pairwise_insertDistinct htrans htotal a ih

end Sorting

/-- The order of byte strings is transitive. -/
lemma Bytes.lt_trans (a b c : Bytes) (hab : Bytes.lt a b) (hbc : Bytes.lt b c) : Bytes.lt a c :=
  decide_eq_true (List.lt_trans (of_decide_eq_true hab) (of_decide_eq_true hbc))

/-- The order of byte strings is total. -/
lemma Bytes.lt_of_not_lt (a b : Bytes) (hlt : ¬ Bytes.lt a b) (hne : a ≠ b) : Bytes.lt b a := by
  have hle : b ≤ a := List.not_lt.1 fun h => hlt (decide_eq_true h)
  rcases List.le_iff_lt_or_eq.1 hle with h | h
  · exact decide_eq_true h
  · exact absurd h.symm hne

/-! ## Tables that differ -/

/-- The keys on which some pair of tables differs, in ascending order. -/
def keysDiffering (tables : List (Int × List (Bytes × Bytes))) : List Bytes :=
  sortDistinct Bytes.lt <| (pairs tables).flatMap fun (a, b) =>
    (diffTables a.2 b.2).map (·.keyHash)

/-- Pairs of images are images of pairs. -/
lemma pairs_map {α β : Type} (f : α → β) (items : List α) :
    pairs (items.map f) = (pairs items).map fun (a, b) => (f a, f b) := by
  induction items with
  | nil => rfl
  | cons a rest ih =>
    simp only [List.map_cons, pairs, ih, List.map_append, List.map_map]
    rfl

/-- For each key on which some pair of tables differs, the value in every table. -/
def divergencesOf (tables : List (Int × List (Bytes × Bytes))) : List EntryDivergence :=
  (keysDiffering tables).flatMap fun key =>
    tables.map fun (environment, table) => ⟨key, environment, Association.get? key table⟩

/-- The divergences that are reported for blocks are those of their tables. -/
lemma Store.entryDivergences_eq (s : Store) (blocks : List (Int × Block)) :
    s.entryDivergences blocks =
      divergencesOf (blocks.map fun x => (x.1, s.entriesOf x.2.id)) := by
  have hkeys : s.divergingKeys blocks =
      keysDiffering (blocks.map fun x => (x.1, s.entriesOf x.2.id)) := by
    rw [divergingKeys, keysDiffering, pairs_map, List.flatMap_map]
  simp only [entryDivergences, divergencesOf, hkeys, List.map_map]
  rfl

/-- Two tables differ on a key that has another value in one than in the other, or no value in one
of them. -/
lemma mem_keys_diffTables {left right : List (Bytes × Bytes)} {key : Bytes} :
    key ∈ (diffTables left right).map (·.keyHash) ↔
      Association.get? key left ≠ Association.get? key right := by
  simp only [diffTables, List.mem_map, List.mem_filter, decide_eq_true_eq]
  constructor
  · rintro ⟨diff, ⟨⟨key', -, rfl⟩, hne⟩, rfl⟩
    exact hne
  · intro hne
    refine ⟨_, ⟨⟨key, ?_, rfl⟩, hne⟩, rfl⟩
    rw [mem_sortDistinct, List.mem_append]
    by_contra hnone
    obtain ⟨hleft, hright⟩ := not_or.1 hnone
    exact hne ((Association.get?_eq_none_iff.2 hleft).trans (Association.get?_eq_none_iff.2 hright).symm)

/-- A symmetric relation that holds between different items holds within some pair. -/
lemma exists_mem_pairs {α : Type} {R : α → α → Prop} {items : List α}
    (hsymm : ∀ a b, R a b → R b a) (hirrefl : ∀ a, ¬ R a a) :
    (∃ x ∈ pairs items, R x.1 x.2) ↔ ∃ a ∈ items, ∃ b ∈ items, R a b := by
  induction items with
  | nil => simp [pairs]
  | cons first rest ih =>
    simp only [pairs, List.mem_append, List.mem_map, List.mem_cons]
    constructor
    · rintro ⟨x, ⟨b, hb, rfl⟩ | hx, hR⟩
      · exact ⟨first, .inl rfl, b, .inr hb, hR⟩
      · obtain ⟨a, ha, b, hb, hab⟩ := ih.1 ⟨x, hx, hR⟩
        exact ⟨a, .inr ha, b, .inr hb, hab⟩
    · rintro ⟨a, rfl | ha, b, rfl | hb, hR⟩
      · exact absurd hR (hirrefl _)
      · exact ⟨(a, b), .inl ⟨b, hb, rfl⟩, hR⟩
      · exact ⟨(b, a), .inl ⟨a, ha, rfl⟩, hsymm a b hR⟩
      · obtain ⟨x, hx, hR⟩ := ih.2 ⟨a, ha, b, hb, hR⟩
        exact ⟨x, .inr hx, hR⟩

/-- The keys that are listed are those on which the tables are not all equal. -/
lemma mem_keysDiffering {tables : List (Int × List (Bytes × Bytes))} {key : Bytes} :
    key ∈ keysDiffering tables ↔ ∃ a ∈ tables, ∃ b ∈ tables,
      Association.get? key a.2 ≠ Association.get? key b.2 := by
  rw [keysDiffering, mem_sortDistinct, List.mem_flatMap]
  simp only [mem_keys_diffTables]
  let Differ (a b : Int × List (Bytes × Bytes)) : Prop :=
    Association.get? key a.2 ≠ Association.get? key b.2
  exact exists_mem_pairs (R := Differ) (fun _ _ h => h.symm) fun _ h => h rfl

/-- Keys that differ are reported in ascending order, each once. -/
lemma pairwise_keysDiffering (tables : List (Int × List (Bytes × Bytes))) :
    (keysDiffering tables).Pairwise (· < ·) :=
  (pairwise_sortDistinct Bytes.lt_trans Bytes.lt_of_not_lt _).imp of_decide_eq_true

/-- A key is reported once for an environment. -/
lemma nodup_divergencesOf {tables : List (Int × List (Bytes × Bytes))}
    (hids : (tables.map (·.1)).Nodup) :
    ((divergencesOf tables).map fun divergence =>
      (divergence.keyHash, divergence.environment)).Nodup := by
  rw [List.Nodup, List.pairwise_map] at hids
  rw [List.Nodup, List.pairwise_map, divergencesOf, List.pairwise_flatMap]
  constructor
  · intro key _
    rw [List.pairwise_map]
    exact hids.imp fun hne hsame => hne (Prod.mk.inj hsame).2
  · refine (pairwise_keysDiffering tables).imp fun {key key'} hlt => ?_
    simp only [List.mem_map]
    rintro _ ⟨x, -, rfl⟩ _ ⟨x', -, rfl⟩ hsame
    obtain rfl : key = key' := (Prod.mk.inj hsame).1
    exact List.lt_irrefl key hlt

end ReplayLedger
