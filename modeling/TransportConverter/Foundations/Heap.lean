import Mathlib

/-! The blocks of memory a program has taken and not given back. A block that is not among them
cannot be freed. -/

namespace TransportConverter.Foundations

structure Heap where
  live : Finset ℕ
  next : ℕ
  fresh : ∀ p ∈ live, p < next

namespace Heap

def empty : Heap := ⟨∅, 0, fun _ hp => absurd hp (Finset.notMem_empty _)⟩

def alloc (h : Heap) : Heap where
  live := insert h.next h.live
  next := h.next + 1
  fresh p hp := by
    rcases Finset.mem_insert.mp hp with rfl | hp
    · exact Nat.lt_succ_self _
    · exact (h.fresh p hp).trans (Nat.lt_succ_self _)

def erase (h : Heap) (p : ℕ) : Heap :=
  ⟨h.live.erase p, h.next, fun q hq => h.fresh q (Finset.mem_of_mem_erase hq)⟩

def free (h : Heap) (p : ℕ) : Option Heap := if p ∈ h.live then some (h.erase p) else none

def freePointer (h : Heap) : Option ℕ → Option Heap
  | none => some h
  | some p => h.free p

def freeAll : List ℕ → Heap → Option Heap
  | [], h => some h
  | p :: ps, h => (h.free p).bind (freeAll ps)

variable {h t u : Heap} {p : ℕ} {ps qs : List ℕ}

lemma free_of_mem (hp : p ∈ h.live) : h.free p = some (h.erase p) := if_pos hp

lemma freeAll_append : freeAll (ps ++ qs) h = (freeAll ps h).bind (freeAll qs) := by
  induction ps generalizing h with
  | nil => rfl
  | cons p ps ih =>
    simp only [List.cons_append, freeAll, Option.bind_assoc]
    congr 1
    funext u
    exact ih

lemma freeAll_pointer (p : Option ℕ) : freeAll p.toList h = h.freePointer p := by
  cases p with
  | none => rfl
  | some p =>
    change (h.free p).bind (freeAll []) = h.free p
    cases h.free p <;> rfl

lemma freeAll_live (hnodup : ps.Nodup) (hlive : ∀ p ∈ ps, p ∈ h.live) :
    ∃ t, freeAll ps h = some t ∧ t.live = h.live \ ps.toFinset := by
  induction ps generalizing h with
  | nil => exact ⟨h, rfl, by simp⟩
  | cons p ps ih =>
    obtain ⟨hp, hnodup⟩ := List.nodup_cons.mp hnodup
    have hrest : ∀ q ∈ ps, q ∈ (h.erase p).live := by
      intro q hq
      apply Finset.mem_erase_of_ne_of_mem
      · rintro rfl
        exact hp hq
      · exact hlive q (List.mem_cons_of_mem p hq)
    obtain ⟨t, ht, hset⟩ := ih hnodup hrest
    refine ⟨t, ?_, ?_⟩
    · rw [freeAll, free_of_mem (hlive p List.mem_cons_self)]
      exact ht
    · rw [hset, List.toFinset_cons, erase, Finset.erase_sdiff_comm, Finset.sdiff_insert]

structure Grown (h t : Heap) : Prop where
  next : h.next ≤ t.next
  live : t.live = h.live ∪ Finset.Ico h.next t.next

lemma Grown.refl (h : Heap) : h.Grown h := ⟨le_rfl, by simp⟩

lemma Grown.alloc (ht : h.Grown t) : h.Grown t.alloc where
  next := ht.next.trans (Nat.le_succ _)
  live := by
    change insert t.next t.live = h.live ∪ Finset.Ico h.next (t.next + 1)
    rw [ht.live, Nat.Ico_succ_right_eq_insert_Ico ht.next, Finset.union_insert]

lemma Grown.freeAll (ht : h.Grown t) (hnodup : ps.Nodup) (htaken : ∀ p ∈ ps, h.next ≤ p ∧ p < t.next) :
    ∃ u, Heap.freeAll ps t = some u ∧
      (h.next + ps.length = t.next → u.live = h.live) ∧
      (h.next + ps.length ≠ t.next → h.live ⊆ u.live ∧ ∃ p ∈ u.live, p ∉ h.live) := by
  have hsub : ps.toFinset ⊆ Finset.Ico h.next t.next := by
    intro p hp
    exact Finset.mem_Ico.mpr (htaken p (List.mem_toFinset.mp hp))
  have hcard : ps.toFinset.card = ps.length := List.toFinset_card_of_nodup hnodup
  have hold : ∀ p ∈ h.live, p ∉ Finset.Ico h.next t.next := by
    intro p hp hmem
    exact absurd (h.fresh p hp) (not_lt.mpr (Finset.mem_Ico.mp hmem).1)
  have hlive : ∀ p ∈ ps, p ∈ t.live := by
    intro p hp
    rw [ht.live]
    exact Finset.mem_union_right _ (hsub (List.mem_toFinset.mpr hp))
  obtain ⟨u, hu, hset⟩ := freeAll_live hnodup hlive
  have hdisj : Disjoint h.live ps.toFinset :=
    Finset.disjoint_left.mpr fun p hp hmem => hold p hp (hsub hmem)
  rw [ht.live, Finset.union_sdiff_distrib, Finset.sdiff_eq_self_of_disjoint hdisj] at hset
  refine ⟨u, hu, fun hall => ?_, fun hsome => ?_⟩
  · have hfull : ps.toFinset = Finset.Ico h.next t.next := by
      apply Finset.eq_of_subset_of_card_le hsub
      rw [Nat.card_Ico, hcard]
      omega
    rw [hset, hfull, Finset.sdiff_self]
    exact Finset.union_empty _
  · have hpart : ∃ p ∈ Finset.Ico h.next t.next, p ∉ ps.toFinset := by
      apply Finset.exists_mem_notMem_of_card_lt_card
      have hle := Finset.card_le_card hsub
      have hnext := ht.next
      rw [Nat.card_Ico, hcard] at hle ⊢
      omega
    obtain ⟨p, hp, hnot⟩ := hpart
    refine ⟨?_, p, ?_, fun hmem => hold p hmem hp⟩
    · rw [hset]
      exact Finset.subset_union_left
    · rw [hset]
      exact Finset.mem_union_right _ (Finset.mem_sdiff.mpr ⟨hp, hnot⟩)

end Heap

end TransportConverter.Foundations
