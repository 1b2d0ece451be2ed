import ReplayLedger.Proofs.Divergence
import ReplayLedger.Store.Maps
import Mathlib.Data.String.Basic
import Mathlib.Order.RelIso.Basic

/-!
# Orders of keys

What is listed is listed in the order of its keys: byte strings by the first byte that differs, texts
by the first code point that differs, variables by contract and key, keys of maps by contract, name and
key.  All of these are strict total orders, so a list in ascending order is told by its members
(`eq_of_ascending`), and it does not matter in which order the keys were collected
(`sortDistinct_congr`).
-/

namespace ReplayLedger

/-! ## Strict total orders -/

instance : IsStrictTotalOrder Bytes (· < ·) where
  irrefl := List.lt_irrefl
  trans _ _ _ := List.lt_trans
  trichotomous a b hab hba := by
    by_contra hne
    have hlt : ¬ Bytes.lt a b := fun h => hab (of_decide_eq_true h)
    exact hba (of_decide_eq_true (Bytes.lt_of_not_lt a b hlt hne))

/-- Variables in ascending order: by contract, then by key. -/
def VariableSlot.Before (a b : VariableSlot) : Prop :=
  Prod.Lex (· < ·) (· < ·) (a.qualifiedId, a.key) (b.qualifiedId, b.key)

/-- Keys of maps in ascending order: by contract, then by map, then by key. -/
def MapSlot.Before (a b : MapSlot) : Prop :=
  Prod.Lex (· < ·) (Prod.Lex (· < ·) (· < ·)) (a.qualifiedId, a.name, a.keyHash)
    (b.qualifiedId, b.name, b.keyHash)

/-- What is ordered by a key that tells it is in a strict total order. -/
lemma isStrictTotalOrder_of_key {α β : Type} {R : β → β → Prop} [IsStrictTotalOrder β R] {f : α → β}
    (hf : Function.Injective f) : IsStrictTotalOrder α fun a b => R (f a) (f b) :=
  (RelEmbedding.preimage ⟨f, hf⟩ R).isStrictTotalOrder

instance isStrictTotalOrder_prodLex {α β : Type} {R : α → α → Prop} {S : β → β → Prop}
    [IsStrictTotalOrder α R] [IsStrictTotalOrder β S] : IsStrictTotalOrder (α × β) (Prod.Lex R S) where

instance : IsStrictTotalOrder VariableSlot VariableSlot.Before :=
  isStrictTotalOrder_of_key (f := fun slot : VariableSlot => (slot.qualifiedId, slot.key))
    fun ⟨_, _⟩ ⟨_, _⟩ hsame => by simpa using hsame

instance : IsStrictTotalOrder MapSlot MapSlot.Before :=
  isStrictTotalOrder_of_key (f := fun slot : MapSlot => (slot.qualifiedId, slot.name, slot.keyHash))
    fun ⟨_, _, _⟩ ⟨_, _, _⟩ hsame => by simpa using hsame

/-! ## Comparisons that decide them -/

/-- One comparison after another decides the lexicographic order. -/
lemma thenLt_iff {α β : Type} [DecidableEq α] {ltα : α → α → Bool} {ltβ : β → β → Bool}
    {R : α → α → Prop} {S : β → β → Prop} (hα : ∀ a b, ltα a b = true ↔ R a b)
    (hβ : ∀ a b, ltβ a b = true ↔ S a b) (x y : α × β) :
    thenLt ltα ltβ x y = true ↔ Prod.Lex R S x y := by
  rw [Prod.lex_iff, thenLt, Bool.or_eq_true, Bool.and_eq_true, decide_eq_true_eq, hα, hβ]

lemma intLt_iff (a b : Int) : intLt a b = true ↔ a < b := decide_eq_true_iff

lemma textLt_iff (a b : String) : textLt a b = true ↔ a < b := decide_eq_true_iff

/-- Byte strings are compared byte by byte. -/
lemma Bytes.lt_iff (a b : Bytes) : Bytes.lt a b = true ↔ a < b := decide_eq_true_iff

/-- Slots of variables are compared by contract and then by key. -/
lemma VariableSlot.lt_iff (a b : VariableSlot) : VariableSlot.lt a b = true ↔ a.Before b :=
  thenLt_iff textLt_iff textLt_iff _ _

/-- Slots of maps are compared by contract, then by name and then by key. -/
lemma MapSlot.lt_iff (a b : MapSlot) : MapSlot.lt a b = true ↔ a.Before b :=
  thenLt_iff textLt_iff (thenLt_iff textLt_iff Bytes.lt_iff) _ _

/-! ## Lists in ascending order -/

section Ascending

variable {α : Type} {R : α → α → Prop} [IsStrictTotalOrder α R]

/-- Two lists in ascending order are equal if they have the same members. -/
lemma eq_of_ascending {keys keys' : List α} (h : keys.Pairwise R) (h' : keys'.Pairwise R)
    (hmem : ∀ key, key ∈ keys ↔ key ∈ keys') : keys = keys' := by
  have hnodup : keys.Nodup := h.imp fun hlt => ne_of_irrefl hlt
  have hnodup' : keys'.Nodup := h'.imp fun hlt => ne_of_irrefl hlt
  have hperm : keys.Perm keys' := (List.perm_ext_iff_of_nodup hnodup hnodup').2 hmem
  exact hperm.eq_of_pairwise (fun a b _ _ hlt hgt => absurd hgt (asymm_of R hlt)) h h'

variable [DecidableEq α] {lt : α → α → Bool} (hlt : ∀ a b, lt a b = true ↔ R a b)
include hlt

/-- Keys are listed in ascending order. -/
lemma ascending_sortDistinct (keys : List α) : (sortDistinct lt keys).Pairwise R := by
  refine (pairwise_sortDistinct ?_ ?_ keys).imp fun {a b} h => (hlt a b).1 h
  · intro a b c hab hbc
    rw [hlt] at hab hbc ⊢
    exact trans_of R hab hbc
  · intro a b hnot hne
    rw [hlt] at hnot ⊢
    rcases trichotomous_of R a b with h | h | h
    · exact absurd h hnot
    · exact absurd h hne
    · exact h

/-- Keys are listed alike in whatever order, and however often, they were collected. -/
lemma sortDistinct_congr {keys keys' : List α} (hmem : ∀ key, key ∈ keys ↔ key ∈ keys') :
    sortDistinct lt keys = sortDistinct lt keys' := by
  refine eq_of_ascending (ascending_sortDistinct hlt keys) (ascending_sortDistinct hlt keys') ?_
  intro key
  rw [mem_sortDistinct, mem_sortDistinct, hmem]

end Ascending

end ReplayLedger
