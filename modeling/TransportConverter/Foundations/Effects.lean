import Mathlib

/-! Computations over a state that may raise; what was done before an exception stays done. -/

namespace TransportConverter.Foundations.Effects

variable {ε σ α β : Type} {s t : σ} {e : ε} {a : α} {b : β}
  {x : EStateM ε σ α} {f : α → EStateM ε σ β}

lemma bind_of_ok (h : x s = .ok a t) : (x >>= f) s = f a t := by
  show EStateM.bind x f s = f a t
  rw [EStateM.bind, h]

lemma bind_of_error (h : x s = .error e t) : (x >>= f) s = .error e t := by
  show EStateM.bind x f s = .error e t
  rw [EStateM.bind, h]

lemma bind_eq_ok : (x >>= f) s = .ok b t ↔ ∃ a u, x s = .ok a u ∧ f a u = .ok b t := by
  constructor
  · intro h
    cases hx : x s with
    | ok a u => exact ⟨a, u, rfl, by rwa [bind_of_ok hx] at h⟩
    | error e u =>
      rw [bind_of_error hx] at h
      cases h
  · rintro ⟨a, u, hx, hf⟩
    rw [bind_of_ok hx, hf]

lemma bind_eq_error :
    (x >>= f) s = .error e t ↔
      x s = .error e t ∨ ∃ a u, x s = .ok a u ∧ f a u = .error e t := by
  constructor
  · intro h
    cases hx : x s with
    | ok a u => exact Or.inr ⟨a, u, rfl, by rwa [bind_of_ok hx] at h⟩
    | error e u =>
      rw [bind_of_error hx] at h
      cases h
      exact Or.inl rfl
  · rintro (hx | ⟨a, u, hx, hf⟩)
    · exact bind_of_error hx
    · rw [bind_of_ok hx, hf]

/-- The state a computation leaves behind, whether it returns or raises. -/
def Leaves (x : EStateM ε σ α) (s t : σ) : Prop := (∃ a, x s = .ok a t) ∨ ∃ e, x s = .error e t

lemma leaves_of_ok (h : x s = .ok a t) {u : σ} : Leaves x s u ↔ u = t := by
  constructor
  · rintro (⟨b, hb⟩ | ⟨e, he⟩)
    · rw [h] at hb
      cases hb
      rfl
    · rw [h] at he
      cases he
  · rintro rfl
    exact Or.inl ⟨a, h⟩

lemma leaves_of_error (h : x s = .error e t) {u : σ} : Leaves x s u ↔ u = t := by
  constructor
  · rintro (⟨b, hb⟩ | ⟨e', he⟩)
    · rw [h] at hb
      cases hb
    · rw [h] at he
      cases he
      rfl
  · rintro rfl
    exact Or.inr ⟨e, h⟩

lemma leaves_bind (h : Leaves (x >>= f) s t) :
    (∃ e, x s = .error e t) ∨ ∃ a u, x s = .ok a u ∧ Leaves (f a) u t := by
  rcases h with ⟨b, h⟩ | ⟨e, h⟩
  · obtain ⟨a, u, hx, hf⟩ := bind_eq_ok.mp h
    exact Or.inr ⟨a, u, hx, Or.inl ⟨b, hf⟩⟩
  · rcases bind_eq_error.mp h with hx | ⟨a, u, hx, hf⟩
    · exact Or.inl ⟨e, hx⟩
    · exact Or.inr ⟨a, u, hx, Or.inr ⟨e, hf⟩⟩

section Loops

variable {γ : Type} {P : List γ → γ → Prop} {I : List γ → σ → Prop} {g : γ → EStateM ε σ PUnit}
  {xs : List γ} {y : γ}

def Throughout (P : List γ → γ → Prop) (xs : List γ) : Prop :=
  ∀ before y behind, xs = before ++ y :: behind → P before y

lemma throughout_nil : Throughout P [] := by
  intro before y behind h
  simp at h

lemma throughout_cons :
    Throughout P (y :: xs) ↔ P [] y ∧ Throughout (fun before => P (y :: before)) xs := by
  constructor
  · intro h
    refine ⟨h [] y xs rfl, fun before z behind heq => ?_⟩
    exact h (y :: before) z behind (congrArg (y :: ·) heq)
  · rintro ⟨hfirst, hrest⟩ before z behind heq
    cases before with
    | nil =>
      cases heq
      exact hfirst
    | cons x before =>
      cases heq
      exact hrest before z behind rfl

lemma throughout_behind {before : List γ} :
    Throughout (fun mid => P (before ++ mid)) (y :: xs) ↔
      P before y ∧ Throughout (fun mid => P (before ++ [y] ++ mid)) xs := by
  rw [throughout_cons, List.append_nil]
  simp only [List.append_assoc, List.cons_append, List.nil_append]

lemma forM_ok (before : List γ)
    (hstep : ∀ before y s, I before s → P before y → ∃ t, g y s = .ok () t ∧ I (before ++ [y]) t)
    (h : Throughout (fun mid => P (before ++ mid)) xs) (hs : I before s) :
    ∃ t, forM xs g s = .ok () t ∧ I (before ++ xs) t := by
  induction xs generalizing before s with
  | nil => exact ⟨s, rfl, by rwa [List.append_nil]⟩
  | cons y xs ih =>
    obtain ⟨hfirst, hrest⟩ := throughout_behind.mp h
    obtain ⟨t, hy, ht⟩ := hstep before y s hs hfirst
    obtain ⟨u, hxs, hu⟩ := ih (before ++ [y]) hrest ht
    refine ⟨u, ?_, by rwa [List.append_cons]⟩
    rw [List.forM_cons, bind_of_ok hy, hxs]

lemma forM_stops (before : List γ)
    (hstep : ∀ before y s, I before s → P before y → ∃ t, g y s = .ok () t ∧ I (before ++ [y]) t)
    (hstop : ∀ before y s, I before s → ¬ P before y → ∃ t, g y s = .error e t)
    (h : ¬ Throughout (fun mid => P (before ++ mid)) xs) (hs : I before s) :
    ∃ t, forM xs g s = .error e t := by
  induction xs generalizing before s with
  | nil => exact absurd throughout_nil h
  | cons y xs ih =>
    rw [throughout_behind] at h
    by_cases hfirst : P before y
    · obtain ⟨t, hy, ht⟩ := hstep before y s hs hfirst
      obtain ⟨u, hxs⟩ := ih (before ++ [y]) (fun hrest => h ⟨hfirst, hrest⟩) ht
      exact ⟨u, by rw [List.forM_cons, bind_of_ok hy, hxs]⟩
    · obtain ⟨t, hy⟩ := hstop before y s hs hfirst
      exact ⟨t, by rw [List.forM_cons, bind_of_error hy]⟩

end Loops

end TransportConverter.Foundations.Effects
