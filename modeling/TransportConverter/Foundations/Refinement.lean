import Mathlib

/-! Runs of labelled steps, and the forward simulation of one step relation by another. -/

namespace TransportConverter.Foundations.Refinement

variable {σ τ ℓ : Type*}

/-- `past` lists the labels of the steps taken from `s`, the last one at its end. -/
inductive Trace (step : ℓ → σ → σ → Prop) (s : σ) : List ℓ → σ → Prop
  | nil : Trace step s [] s
  | snoc {past : List ℓ} {l : ℓ} {t u : σ} (h : Trace step s past t) (hstep : step l t u) :
      Trace step s (past ++ [l]) u

variable {step : ℓ → σ → σ → Prop} {spec : ℓ → τ → τ → Prop} {past : List ℓ} {s t : σ}

lemma Trace.invariant {I : List ℓ → σ → Prop} (h : Trace step s past t) (hinit : I [] s)
    (hstep : ∀ past l t u, I past t → step l t u → I (past ++ [l]) u) : I past t := by
  induction h with
  | nil => exact hinit
  | snoc _ hlast ih => exact hstep _ _ _ _ ih hlast

lemma Trace.after {l : ℓ} {u : σ} (h : Trace step t past u) (hstep : step l s t) :
    Trace step s (l :: past) u := by
  induction h with
  | nil => exact .snoc .nil hstep
  | snoc _ hlast ih => exact ih.snoc hlast

/-- What one of many parties does is a run of its own, when no step of another one touches what it sees. -/
lemma Trace.alone {ι : Type*} [DecidableEq ι] {step : ι × ℓ → σ → σ → Prop} {solo : ℓ → τ → τ → Prop}
    {past : List (ι × ℓ)} {I : σ → Prop} (j : ι) (view : σ → τ) (h : Trace step s past t) (hinit : I s)
    (hkeeps : ∀ l s t, I s → step l s t → I t)
    (hown : ∀ l s t, I s → step (j, l) s t → solo l (view s) (view t))
    (hother : ∀ i l s t, i ≠ j → I s → step (i, l) s t → view t = view s) :
    I t ∧ Trace solo (view s) ((past.filter (·.1 = j)).map Prod.snd) (view t) := by
  induction h with
  | nil => exact ⟨hinit, .nil⟩
  | @snoc past l t u _ hlast ih =>
    obtain ⟨ht, hrun⟩ := ih
    obtain ⟨i, l⟩ := l
    refine ⟨hkeeps _ _ _ ht hlast, ?_⟩
    rw [List.filter_append, List.map_append]
    by_cases hij : i = j
    · subst hij
      have hlabel : [(i, l)].filter (·.1 = i) = [(i, l)] := by simp
      rw [hlabel]
      exact hrun.snoc (hown l t u ht hlast)
    · have hlabel : [(i, l)].filter (·.1 = j) = [] := by simp [hij]
      rw [hlabel, List.map_nil, List.append_nil, hother i l t u hij ht hlast]
      exact hrun

def Simulates (R : σ → τ → Prop) (step : ℓ → σ → σ → Prop) (spec : ℓ → τ → τ → Prop) : Prop :=
  ∀ l s t a, R s a → step l s t → ∃ b, spec l a b ∧ R t b

lemma Trace.simulated {R : σ → τ → Prop} {a : τ} (h : Trace step s past t)
    (hsim : Simulates R step spec) (hinit : R s a) : ∃ b, Trace spec a past b ∧ R t b := by
  induction h with
  | nil => exact ⟨a, .nil, hinit⟩
  | snoc _ hlast ih =>
    obtain ⟨b, hb, hR⟩ := ih
    obtain ⟨c, hc, hR'⟩ := hsim _ _ _ _ hR hlast
    exact ⟨c, hb.snoc hc, hR'⟩

end TransportConverter.Foundations.Refinement
