import Mathlib

/-! Computations that give a value or an error. -/

namespace TransportConverter.Foundations.Fallible

variable {ε α β : Type} {a : α} {b : β} {x : Except ε α} {f : α → Except ε β}

lemma ok_bind : (Except.ok a >>= f) = f a := rfl

lemma bind_ok_iff : x >>= f = .ok b ↔ ∃ a, x = .ok a ∧ f a = .ok b := by
  constructor
  · intro h
    cases x with
    | ok a => exact ⟨a, rfl, h⟩
    | error e => cases h
  · rintro ⟨a, rfl, h⟩
    exact h

lemma return_ok_iff {g : α → β} : (∃ b, (do let a ← x; return g a) = Except.ok b) ↔ ∃ a, x = .ok a := by
  constructor
  · rintro ⟨b, h⟩
    obtain ⟨a, ha, -⟩ := bind_ok_iff.mp h
    exact ⟨a, ha⟩
  · rintro ⟨a, rfl⟩
    exact ⟨g a, rfl⟩

lemma mapM_ok {k : α → β} {xs : List α} (h : ∀ x ∈ xs, f x = .ok (k x)) : xs.mapM f = .ok (xs.map k) := by
  induction xs with
  | nil => rfl
  | cons x xs ih =>
    rw [List.mapM_cons, h x List.mem_cons_self, ok_bind, ih fun y hy => h y (List.mem_cons_of_mem _ hy), ok_bind]
    rfl

lemma mapM_ok_iff {xs : List α} : (∃ ys, xs.mapM f = .ok ys) ↔ ∀ x ∈ xs, ∃ y, f x = .ok y := by
  constructor
  · rintro ⟨ys, h⟩
    induction xs generalizing ys with
    | nil => exact List.forall_mem_nil _
    | cons x xs ih =>
      rw [List.mapM_cons] at h
      obtain ⟨y, hy, hrest⟩ := bind_ok_iff.mp h
      obtain ⟨zs, hzs, -⟩ := bind_ok_iff.mp hrest
      exact List.forall_mem_cons.mpr ⟨⟨y, hy⟩, ih zs hzs⟩
  · intro h
    induction xs with
    | nil => exact ⟨[], rfl⟩
    | cons x xs ih =>
      obtain ⟨⟨y, hy⟩, hrest⟩ := List.forall_mem_cons.mp h
      obtain ⟨ys, hys⟩ := ih hrest
      exact ⟨y :: ys, by rw [List.mapM_cons, hy, ok_bind, hys]; rfl⟩

end TransportConverter.Foundations.Fallible
