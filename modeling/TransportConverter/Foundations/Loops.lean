import Mathlib

/-! Loops whose body either goes on with a new state or leaves with a result. A loop need not
return, so its meaning is a relation between a state and the result it leaves with. -/

namespace TransportConverter.Foundations.Loops

inductive Turn (σ ρ : Type*)
  | again (s : σ)
  | done (r : ρ)

variable {σ ρ : Type*}

def run (body : σ → Turn σ ρ) : ℕ → σ → Option ρ
  | 0, _ => none
  | fuel + 1, s =>
    match body s with
    | .again t => run body fuel t
    | .done r => some r

def Returns (body : σ → Turn σ ρ) (s : σ) (r : ρ) : Prop :=
  ∃ fuel, run body fuel s = some r

def Diverges (body : σ → Turn σ ρ) (s : σ) : Prop :=
  ∀ fuel, run body fuel s = none

variable {body : σ → Turn σ ρ} {s t : σ} {r : ρ}

lemma run_again (h : body s = .again t) (fuel : ℕ) : run body (fuel + 1) s = run body fuel t := by
  rw [run, h]

lemma run_done (h : body s = .done r) (fuel : ℕ) : run body (fuel + 1) s = some r := by
  rw [run, h]

lemma run_mono {m n : ℕ} (hmn : m ≤ n) (h : run body m s = some r) : run body n s = some r := by
  induction m generalizing n s with
  | zero => cases h
  | succ m ih =>
    obtain ⟨n, rfl⟩ : ∃ k, n = k + 1 := ⟨n - 1, by omega⟩
    cases hb : body s with
    | again t =>
      rw [run_again hb] at h ⊢
      exact ih (by omega) h
    | done r' => rwa [run_done hb] at h ⊢

lemma returns_unique {r' : ρ} (h : Returns body s r) (h' : Returns body s r') : r = r' := by
  obtain ⟨m, hm⟩ := h
  obtain ⟨n, hn⟩ := h'
  have hm' := run_mono (le_max_left m n) hm
  rw [run_mono (le_max_right m n) hn] at hm'
  exact (Option.some.inj hm').symm

lemma Returns.done (h : body s = .done r) : Returns body s r := ⟨1, run_done h 0⟩

lemma Returns.again (ht : Returns body t r) (h : body s = .again t) : Returns body s r := by
  obtain ⟨fuel, hf⟩ := ht
  exact ⟨fuel + 1, by rw [run_again h, hf]⟩

/-- What holds of every way to leave the loop, by induction on the turns taken before. -/
@[elab_as_elim]
lemma Returns.induction {motive : (s : σ) → (r : ρ) → Returns body s r → Prop}
    (done : ∀ s r (hb : body s = .done r), motive s r (.done hb))
    (again : ∀ s t r (hb : body s = .again t) (h : Returns body t r), motive t r h →
      motive s r (h.again hb))
    {s : σ} {r : ρ} (h : Returns body s r) : motive s r h := by
  obtain ⟨fuel, hf⟩ := h
  induction fuel generalizing s with
  | zero => cases hf
  | succ fuel ih =>
    cases hb : body s with
    | again t =>
      rw [run_again hb] at hf
      exact again s t r hb ⟨fuel, hf⟩ (ih hf)
    | done r' =>
      rw [run_done hb] at hf
      obtain rfl := Option.some.inj hf
      exact done s r' hb

lemma diverges_iff : Diverges body s ↔ ∀ r, ¬ Returns body s r := by
  constructor
  · rintro h r ⟨fuel, hf⟩
    rw [h fuel] at hf
    cases hf
  · intro h fuel
    cases hf : run body fuel s with
    | none => rfl
    | some r => exact (h r ⟨fuel, hf⟩).elim

lemma Diverges.again (ht : Diverges body t) (h : body s = .again t) : Diverges body s := by
  intro fuel
  cases fuel with
  | zero => rfl
  | succ fuel => rw [run_again h, ht fuel]

lemma diverges_of_stays (I : σ → Prop) (hstep : ∀ s, I s → ∃ t, body s = .again t ∧ I t)
    (h : I s) : Diverges body s := by
  intro fuel
  induction fuel generalizing s with
  | zero => rfl
  | succ fuel ih =>
    obtain ⟨t, hb, ht⟩ := hstep s h
    rw [run_again hb]
    exact ih ht

def Reaches (body : σ → Turn σ ρ) : σ → σ → Prop :=
  Relation.ReflTransGen fun s t => body s = .again t

lemma Reaches.invariant {I : σ → Prop} (h : Reaches body s t)
    (hstep : ∀ s t, I s → body s = .again t → I t) (hinit : I s) : I t := by
  induction h with
  | refl => exact hinit
  | tail _ hlast ih => exact hstep _ _ ih hlast

def turns (body : σ → Turn σ ρ) : ℕ → σ → Option σ
  | 0, s => some s
  | n + 1, s =>
    match body s with
    | .again t => turns body n t
    | .done _ => none

lemma turns_again (h : body s = .again t) (n : ℕ) : turns body (n + 1) s = turns body n t := by
  rw [turns, h]

lemma Returns.of_turns {n : ℕ} (ht : Returns body t r) (h : turns body n s = some t) :
    Returns body s r := by
  induction n generalizing s with
  | zero =>
    obtain rfl := Option.some.inj h
    exact ht
  | succ n ih =>
    cases hb : body s with
    | again u =>
      rw [turns_again hb] at h
      exact (ih h).again hb
    | done r' =>
      rw [turns, hb] at h
      cases h

lemma returns_of_decreases (I : σ → Prop) (μ : σ → ℕ) {Q : ρ → Prop}
    (hstep : ∀ s, I s → (∃ r, body s = .done r ∧ Q r) ∨ ∃ t, body s = .again t ∧ I t ∧ μ t < μ s)
    (h : I s) : ∃ r, Returns body s r ∧ Q r := by
  induction hn : μ s using Nat.strong_induction_on generalizing s with
  | _ n ih =>
    rcases hstep s h with ⟨r, hb, hr⟩ | ⟨t, hb, ht, hlt⟩
    · exact ⟨r, .done hb, hr⟩
    · obtain ⟨r, hret, hr⟩ := ih (μ t) (by omega) ht rfl
      exact ⟨r, hret.again hb, hr⟩

end TransportConverter.Foundations.Loops
