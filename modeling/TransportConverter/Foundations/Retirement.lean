import TransportConverter.Foundations.Refinement

/-! Interleaved threads that look resources up in a shared table, use them, remove them from it and
free them, without owning them in between. -/

namespace TransportConverter.Foundations.Retirement

open Refinement

inductive Touch (ν : Type*)
  | none
  | use (n : ν)
  | remove (n : ν)
  | free (n : ν)
  deriving DecidableEq

def Touch.resource {ν : Type*} : Touch ν → Option ν
  | .none => Option.none
  | .use n | .remove n | .free n => some n

structure Threads (ι σ κ ν : Type*) where
  shared : σ
  pcs : ι → κ
  log : List (ι × Touch ν)

variable {ι σ κ ν : Type*}

def Threads.after [DecidableEq ι] (p : Threads ι σ κ ν) (i : ι) (pc : κ) (s : σ) (touch : Touch ν) :
    Threads ι σ κ ν :=
  ⟨s, Function.update p.pcs i pc, p.log ++ [(i, touch)]⟩

section After

variable [DecidableEq ι] {p : Threads ι σ κ ν} {i j : ι} {pc : κ} {s : σ} {touch : Touch ν}

@[simp] lemma after_shared : (p.after i pc s touch).shared = s := rfl

@[simp] lemma after_log : (p.after i pc s touch).log = p.log ++ [(i, touch)] := rfl

@[simp] lemma after_self : (p.after i pc s touch).pcs i = pc := Function.update_self ..

lemma after_other (h : j ≠ i) : (p.after i pc s touch).pcs j = p.pcs j := Function.update_of_ne h ..

lemma after_all {P : κ → Prop} (hself : P pc) (hothers : ∀ j ≠ i, P (p.pcs j)) (j : ι) :
    P ((p.after i pc s touch).pcs j) := by
  rcases eq_or_ne j i with rfl | hj
  · rwa [after_self]
  · rw [after_other hj]
    exact hothers j hj

end After

inductive ThreadStep [DecidableEq ι] (step : ι → κ → σ → κ → σ → Touch ν → Prop) :
    ι → Threads ι σ κ ν → Threads ι σ κ ν → Prop
  | mk {i : ι} {p : Threads ι σ κ ν} {pc : κ} {s : σ} {touch : Touch ν}
      (h : step i (p.pcs i) p.shared pc s touch) : ThreadStep step i p (p.after i pc s touch)

section Turns

variable [DecidableEq ι] {step : ι → κ → σ → κ → σ → Touch ν → Prop} {start p q : Threads ι σ κ ν}
  {past : List ι}

def Threads.turns (next : ι → κ → σ → Option (κ × σ × Touch ν)) :
    List ι → Threads ι σ κ ν → Option (Threads ι σ κ ν)
  | [], p => some p
  | i :: rest, p =>
    match next i (p.pcs i) p.shared with
    | none => none
    | some (pc, s, touch) => (p.after i pc s touch).turns next rest

lemma turns_cons_eq_some {next : ι → κ → σ → Option (κ × σ × Touch ν)} {i : ι} {rest : List ι}
    (h : p.turns next (i :: rest) = some q) :
    ∃ pc s touch, next i (p.pcs i) p.shared = some (pc, s, touch) ∧
      (p.after i pc s touch).turns next rest = some q := by
  rw [Threads.turns] at h
  cases hdone : next i (p.pcs i) p.shared with
  | none =>
    rw [hdone] at h
    cases h
  | some r =>
    obtain ⟨pc, s, touch⟩ := r
    rw [hdone] at h
    exact ⟨pc, s, touch, rfl, h⟩

lemma Trace.turns (next : ι → κ → σ → Option (κ × σ × Touch ν)) (order : List ι)
    (hnext : ∀ i pc s pc' s' touch, next i pc s = some (pc', s', touch) → step i pc s pc' s' touch)
    (hpast : Trace (ThreadStep step) start past p) (h : p.turns next order = some q) :
    Trace (ThreadStep step) start (past ++ order) q := by
  induction order generalizing past p with
  | nil =>
    obtain rfl := Option.some.inj h
    rwa [List.append_nil]
  | cons i rest ih =>
    obtain ⟨pc, s, touch, hdone, h⟩ := turns_cons_eq_some h
    have hrest := ih (hpast.snoc (.mk (hnext _ _ _ _ _ _ hdone))) h
    rwa [List.append_assoc] at hrest

end Turns

/-- The step removes nothing that another thread has removed and not freed yet, and frees nothing that
another thread has a pointer to. -/
structure Guarded (holds freeing : κ → Option ν) (p : Threads ι σ κ ν) (i : ι) (touch : Touch ν) :
    Prop where
  remove : ∀ n, touch = .remove n → ∀ j ≠ i, freeing (p.pcs j) ≠ some n
  free : ∀ n, touch = .free n → ∀ j ≠ i, holds (p.pcs j) ≠ some n

inductive GuardedStep [DecidableEq ι] (step : ι → κ → σ → κ → σ → Touch ν → Prop)
    (holds freeing : κ → Option ν) : ι → Threads ι σ κ ν → Threads ι σ κ ν → Prop
  | mk {i : ι} {p : Threads ι σ κ ν} {pc : κ} {s : σ} {touch : Touch ν}
      (h : step i (p.pcs i) p.shared pc s touch) (hguard : Guarded holds freeing p i touch) :
      GuardedStep step holds freeing i p (p.after i pc s touch)

/-- What a statement may do: `holds` is the resource a thread has a pointer to and will still touch,
`freeing` the one it has removed and not yet freed. -/
inductive Discipline [DecidableEq ν] (holds freeing : κ → Option ν) (live : σ → List ν) (pc : κ) (s : σ)
    (pc' : κ) (s' : σ) : Touch ν → Prop
  | looks {touch : Touch ν} (hpc : holds pc = none) (hidle : freeing pc = none) (hlive : live s' = live s)
      (hholds : ∀ n, holds pc' = some n → n ∈ live s) (hfreeing : freeing pc' = none)
      (htouch : touch = .none ∨ ∃ n ∈ live s, touch = .use n) :
      Discipline holds freeing live pc s pc' s' touch
  | keeps {n : ν} {touch : Touch ν} (hpc : holds pc = some n) (hidle : freeing pc = none)
      (hlive : live s' = live s) (hholds : ∀ m, holds pc' = some m → m = n)
      (hfreeing : freeing pc' = none) (htouch : touch = .none ∨ touch = .use n) :
      Discipline holds freeing live pc s pc' s' touch
  | removes {n : ν} (hpc : holds pc = some n) (hidle : freeing pc = none)
      (hlive : live s' = (live s).erase n) (hholds : holds pc' = some n)
      (hfreeing : freeing pc' = some n) : Discipline holds freeing live pc s pc' s' (.remove n)
  | frees {n : ν} (hpc : holds pc = some n) (hfree : freeing pc = some n) (hlive : live s' = live s)
      (hholds : holds pc' = none) (hfreeing : freeing pc' = none) :
      Discipline holds freeing live pc s pc' s' (.free n)

section Guarded

variable {holds freeing : κ → Option ν} {p : Threads ι σ κ ν} {i : ι} {n : ν}

lemma guarded_none : Guarded holds freeing p i .none := ⟨nofun, nofun⟩

lemma guarded_use : Guarded holds freeing p i (.use n) := ⟨nofun, nofun⟩

lemma guarded_remove_iff :
    Guarded holds freeing p i (.remove n) ↔ ∀ j ≠ i, freeing (p.pcs j) ≠ some n := by
  refine ⟨fun h => h.remove n rfl, fun h => ⟨fun m hm => ?_, nofun⟩⟩
  obtain rfl := Touch.remove.inj hm
  exact h

lemma guarded_free_iff :
    Guarded holds freeing p i (.free n) ↔ ∀ j ≠ i, holds (p.pcs j) ≠ some n := by
  refine ⟨fun h => h.free n rfl, fun h => ⟨nofun, fun m hm => ?_⟩⟩
  obtain rfl := Touch.free.inj hm
  exact h

instance [Fintype ι] [DecidableEq ι] [DecidableEq ν] {touch : Touch ν} :
    Decidable (Guarded holds freeing p i touch) :=
  match touch with
  | .none => .isTrue guarded_none
  | .use _ => .isTrue guarded_use
  | .remove _ => decidable_of_iff' _ guarded_remove_iff
  | .free _ => decidable_of_iff' _ guarded_free_iff

end Guarded

section GuardedTurns

variable [Fintype ι] [DecidableEq ι] [DecidableEq ν] {step : ι → κ → σ → κ → σ → Touch ν → Prop}
  {holds freeing : κ → Option ν} {start p q : Threads ι σ κ ν} {past : List ι}

def Threads.guardedTurns (holds freeing : κ → Option ν) (next : ι → κ → σ → Option (κ × σ × Touch ν)) :
    List ι → Threads ι σ κ ν → Option (Threads ι σ κ ν)
  | [], p => some p
  | i :: rest, p =>
    match next i (p.pcs i) p.shared with
    | none => none
    | some (pc, s, touch) =>
      if Guarded holds freeing p i touch then (p.after i pc s touch).guardedTurns holds freeing next rest
      else none

lemma Trace.guardedTurns (next : ι → κ → σ → Option (κ × σ × Touch ν)) (order : List ι)
    (hnext : ∀ i pc s pc' s' touch, next i pc s = some (pc', s', touch) → step i pc s pc' s' touch)
    (hpast : Trace (GuardedStep step holds freeing) start past p)
    (h : p.guardedTurns holds freeing next order = some q) :
    Trace (GuardedStep step holds freeing) start (past ++ order) q := by
  induction order generalizing past p with
  | nil =>
    obtain rfl := Option.some.inj h
    rwa [List.append_nil]
  | cons i rest ih =>
    rw [Threads.guardedTurns] at h
    cases hdone : next i (p.pcs i) p.shared with
    | none =>
      rw [hdone] at h
      cases h
    | some r =>
      obtain ⟨pc, s, touch⟩ := r
      simp only [hdone] at h
      split_ifs at h with hguard
      have hrest := ih (hpast.snoc (.mk (hnext _ _ _ _ _ _ hdone) hguard)) h
      rwa [List.append_assoc] at hrest

end GuardedTurns

section Counts

variable [DecidableEq ν]

def removals (log : List (ι × Touch ν)) (n : ν) : ℕ := log.countP fun e => e.2 = .remove n
def frees (log : List (ι × Touch ν)) (n : ν) : ℕ := log.countP fun e => e.2 = .free n

/-- No resource is removed or freed twice, and none is touched once another thread has freed it. -/
structure Safe (log : List (ι × Touch ν)) : Prop where
  removed : ∀ n, removals log n ≤ 1
  freed : ∀ n, frees log n ≤ 1
  used : ∀ before e after n, log = before ++ e :: after → e.2.resource = some n →
    ∀ i ≠ e.1, (i, .free n) ∉ before

variable {log : List (ι × Touch ν)} {i : ι} {n : ν} {touch : Touch ν}

lemma removals_snoc : removals (log ++ [(i, touch)]) n =
    removals log n + if touch = .remove n then 1 else 0 := by
  simp only [removals, List.countP_append, List.countP_cons, List.countP_nil, decide_eq_true_eq, zero_add]

lemma frees_snoc : frees (log ++ [(i, touch)]) n = frees log n + if touch = .free n then 1 else 0 := by
  simp only [frees, List.countP_append, List.countP_cons, List.countP_nil, decide_eq_true_eq, zero_add]

lemma removals_other (h : touch ≠ .remove n) : removals (log ++ [(i, touch)]) n = removals log n := by
  rw [removals_snoc, if_neg h, add_zero]

lemma frees_other (h : touch ≠ .free n) : frees (log ++ [(i, touch)]) n = frees log n := by
  rw [frees_snoc, if_neg h, add_zero]

lemma notMem_of_frees (h : frees log n = 0) (j : ι) : (j, .free n) ∉ log := by
  intro hmem
  have hnone := List.countP_eq_zero.mp h (j, .free n) hmem
  exact hnone (decide_eq_true rfl)

lemma Safe.nil : Safe ([] : List (ι × Touch ν)) where
  removed n := Nat.zero_le 1
  freed n := Nat.zero_le 1
  used before e after n h := by
    have hlength := congrArg List.length h
    simp at hlength

lemma Safe.snoc (h : Safe log) (hremove : ∀ n, touch = .remove n → removals log n = 0)
    (htouch : ∀ n, touch.resource = some n → frees log n = 0) : Safe (log ++ [(i, touch)]) where
  removed n := by
    rw [removals_snoc]
    split_ifs with hn
    · rw [hremove n hn]
    · exact h.removed n
  freed n := by
    rw [frees_snoc]
    split_ifs with hn
    · rw [htouch n (by rw [hn]; rfl)]
    · exact h.freed n
  used before e after n heq hres j hj := by
    rcases List.eq_nil_or_concat after with rfl | ⟨after', last, rfl⟩
    · obtain ⟨rfl, hlast⟩ := List.append_inj' heq rfl
      obtain rfl := (List.cons.inj hlast).1
      exact notMem_of_frees (htouch n hres) j
    · rw [List.concat_eq_append, ← List.cons_append, ← List.append_assoc] at heq
      obtain ⟨hlog, -⟩ := List.append_inj' heq rfl
      exact h.used before e after' n hlog hres j hj

end Counts

section Runs

variable [DecidableEq ν] {step : ι → κ → σ → κ → σ → Touch ν → Prop} {holds freeing : κ → Option ν}
  {live : σ → List ν} {p q : Threads ι σ κ ν} {i : ι}

/-- A resource that was removed is between its removal and its free, or out of every thread's reach. -/
structure Retiring (holds freeing : κ → Option ν) (live : σ → List ν) (p : Threads ι σ κ ν) : Prop where
  safe : Safe p.log
  nodup : (live p.shared).Nodup
  removed : ∀ n, 0 < removals p.log n → n ∉ live p.shared
  between : ∀ n, 0 < removals p.log n → (∃ i, freeing (p.pcs i) = some n) ∨ 0 < frees p.log n
  freeing : ∀ i n, freeing (p.pcs i) = some n → 0 < removals p.log n
  gone : ∀ n, 0 < frees p.log n → n ∉ live p.shared ∧ ∀ i, holds (p.pcs i) ≠ some n

lemma Retiring.start {s : σ} {pcs : ι → κ} (hlive : (live s).Nodup) (hfreeing : ∀ i, freeing (pcs i) = none) :
    Retiring holds freeing live (⟨s, pcs, []⟩ : Threads ι σ κ ν) where
  safe := .nil
  nodup := hlive
  removed n h := absurd h (Nat.lt_irrefl 0)
  between n h := absurd h (Nat.lt_irrefl 0)
  freeing i n h := by
    rw [hfreeing i] at h
    cases h
  gone n h := absurd h (Nat.lt_irrefl 0)

lemma Retiring.unfreed (h : Retiring holds freeing live p) {n : ν} (hn : holds (p.pcs i) = some n) :
    frees p.log n = 0 := by
  by_contra hpos
  exact (h.gone n (Nat.pos_of_ne_zero hpos)).2 i hn

lemma Retiring.unfreed_live (h : Retiring holds freeing live p) {n : ν} (hn : n ∈ live p.shared) :
    frees p.log n = 0 := by
  by_contra hpos
  exact (h.gone n (Nat.pos_of_ne_zero hpos)).1 hn

lemma Retiring.unremoved (h : Retiring holds freeing live p) {n : ν} (hn : holds (p.pcs i) = some n)
    (hidle : freeing (p.pcs i) = none) (hguard : ∀ j ≠ i, freeing (p.pcs j) ≠ some n) :
    removals p.log n = 0 := by
  by_contra hpos
  rcases h.between n (Nat.pos_of_ne_zero hpos) with ⟨j, hj⟩ | hfreed
  · rcases eq_or_ne j i with rfl | hne
    · rw [hidle] at hj
      cases hj
    · exact hguard j hne hj
  · exact hfreed.ne' (h.unfreed hn)

variable [DecidableEq ι]

lemma Retiring.quiet (h : Retiring holds freeing live p) {pc : κ} {s : σ} {touch : Touch ν}
    (hlive : live s = live p.shared) (hidle : freeing (p.pcs i) = none) (hfreeing : freeing pc = none)
    (hremove : ∀ n, touch ≠ .remove n) (hfree : ∀ n, touch ≠ .free n)
    (hfresh : ∀ n, touch.resource = some n ∨ holds pc = some n → frees p.log n = 0) :
    Retiring holds freeing live (p.after i pc s touch) where
  safe := h.safe.snoc (fun n hn => (hremove n hn).elim) fun n hn => hfresh n (Or.inl hn)
  nodup := by
    rw [after_shared, hlive]
    exact h.nodup
  removed n hn := by
    rw [after_log, removals_other (hremove n)] at hn
    rw [after_shared, hlive]
    exact h.removed n hn
  between n hn := by
    rw [after_log, removals_other (hremove n)] at hn
    rw [after_log, frees_other (hfree n)]
    refine (h.between n hn).imp_left fun ⟨j, hj⟩ => ⟨j, ?_⟩
    have hne : j ≠ i := by
      rintro rfl
      rw [hidle] at hj
      cases hj
    rwa [after_other hne]
  freeing j n hj := by
    rw [after_log, removals_other (hremove n)]
    rcases eq_or_ne j i with rfl | hne
    · rw [after_self, hfreeing] at hj
      cases hj
    · rw [after_other hne] at hj
      exact h.freeing j n hj
  gone n hn := by
    rw [after_log, frees_other (hfree n)] at hn
    rw [after_shared, hlive]
    refine ⟨(h.gone n hn).1, after_all (P := fun pc => holds pc ≠ some n) ?_ fun j _ => (h.gone n hn).2 j⟩
    intro hself
    exact hn.ne' (hfresh n (Or.inr hself))

lemma Retiring.remove (h : Retiring holds freeing live p) {n : ν} {pc : κ} {s : σ}
    (hn : holds (p.pcs i) = some n) (hidle : freeing (p.pcs i) = none)
    (hlive : live s = (live p.shared).erase n) (hholds : holds pc = some n) (hfreeing : freeing pc = some n)
    (hguard : ∀ j ≠ i, freeing (p.pcs j) ≠ some n) :
    Retiring holds freeing live (p.after i pc s (.remove n)) where
  safe := by
    apply h.safe.snoc
    · intro m hm
      obtain rfl := Touch.remove.inj hm
      exact h.unremoved hn hidle hguard
    · intro m hm
      obtain rfl := Option.some.inj hm
      exact h.unfreed hn
  nodup := by
    rw [after_shared, hlive]
    exact h.nodup.erase n
  removed m hm := by
    rw [after_shared, hlive]
    rcases eq_or_ne m n with rfl | hne
    · exact h.nodup.not_mem_erase
    · rw [after_log, removals_other (by simpa using hne.symm)] at hm
      exact fun hmem => h.removed m hm (List.mem_of_mem_erase hmem)
  between m hm := by
    rw [after_log, frees_other (by simp)]
    rcases eq_or_ne m n with rfl | hne
    · exact Or.inl ⟨i, by rw [after_self, hfreeing]⟩
    · rw [after_log, removals_other (by simpa using hne.symm)] at hm
      refine (h.between m hm).imp_left fun ⟨j, hj⟩ => ⟨j, ?_⟩
      have hji : j ≠ i := by
        rintro rfl
        rw [hidle] at hj
        cases hj
      rwa [after_other hji]
  freeing j m hj := by
    rw [after_log, removals_snoc]
    rcases eq_or_ne j i with rfl | hne
    · rw [after_self, hfreeing] at hj
      obtain rfl := Option.some.inj hj
      rw [if_pos rfl]
      exact Nat.succ_pos _
    · rw [after_other hne] at hj
      exact Nat.lt_of_lt_of_le (h.freeing j m hj) (Nat.le_add_right _ _)
  gone m hm := by
    rw [after_log, frees_other (by simp)] at hm
    obtain ⟨hmem, hreach⟩ := h.gone m hm
    rw [after_shared, hlive]
    refine ⟨fun hin => hmem (List.mem_of_mem_erase hin), ?_⟩
    apply after_all (P := fun pc => holds pc ≠ some m) _ fun j _ => hreach j
    rw [hholds, ← hn]
    exact hreach i

lemma Retiring.free (h : Retiring holds freeing live p) {n : ν} {pc : κ} {s : σ}
    (hn : holds (p.pcs i) = some n) (hown : freeing (p.pcs i) = some n) (hlive : live s = live p.shared)
    (hholds : holds pc = none) (hfreeing : freeing pc = none)
    (hguard : ∀ j ≠ i, holds (p.pcs j) ≠ some n) :
    Retiring holds freeing live (p.after i pc s (.free n)) where
  safe := by
    apply h.safe.snoc
    · intro m hm
      cases hm
    · intro m hm
      obtain rfl := Option.some.inj hm
      exact h.unfreed hn
  nodup := by
    rw [after_shared, hlive]
    exact h.nodup
  removed m hm := by
    rw [after_log, removals_other (by simp)] at hm
    rw [after_shared, hlive]
    exact h.removed m hm
  between m hm := by
    rw [after_log, removals_other (by simp)] at hm
    rw [after_log, frees_snoc]
    rcases eq_or_ne m n with rfl | hne
    · right
      rw [if_pos rfl]
      exact Nat.succ_pos _
    · rcases h.between m hm with ⟨j, hj⟩ | hfreed
      · left
        have hji : j ≠ i := by
          rintro rfl
          exact hne (Option.some.inj (hj.symm.trans hown))
        exact ⟨j, by rwa [after_other hji]⟩
      · exact Or.inr (Nat.lt_of_lt_of_le hfreed (Nat.le_add_right _ _))
  freeing j m hj := by
    rw [after_log, removals_other (by simp)]
    rcases eq_or_ne j i with rfl | hne
    · rw [after_self, hfreeing] at hj
      cases hj
    · rw [after_other hne] at hj
      exact h.freeing j m hj
  gone m hm := by
    rw [after_shared, hlive]
    rcases eq_or_ne m n with rfl | hne
    · refine ⟨h.removed m (h.freeing i m hown), ?_⟩
      apply after_all (P := fun pc => holds pc ≠ some m) _ hguard
      rw [hholds]
      exact nofun
    · rw [after_log, frees_other (by simpa using hne.symm)] at hm
      obtain ⟨hmem, hreach⟩ := h.gone m hm
      refine ⟨hmem, after_all (P := fun pc => holds pc ≠ some m) ?_ fun j _ => hreach j⟩
      rw [hholds]
      exact nofun

def Disciplined (step : ι → κ → σ → κ → σ → Touch ν → Prop) (holds freeing : κ → Option ν)
    (live : σ → List ν) : Prop :=
  ∀ i pc s pc' s' touch, step i pc s pc' s' touch → Discipline holds freeing live pc s pc' s' touch

lemma Retiring.keeps (h : Retiring holds freeing live p) (hstep : Disciplined step holds freeing live)
    (hguarded : GuardedStep step holds freeing i p q) : Retiring holds freeing live q := by
  cases hguarded with
  | mk hdone hguard =>
    cases hstep _ _ _ _ _ _ hdone with
    | looks hpc hidle hlive hholds hfreeing htouch =>
      obtain rfl | ⟨n, hn, rfl⟩ := htouch
      · apply h.quiet hlive hidle hfreeing (by simp) (by simp)
        rintro n (hn | hn)
        · cases hn
        · exact h.unfreed_live (hholds n hn)
      · apply h.quiet hlive hidle hfreeing (by simp) (by simp)
        rintro m (hm | hm)
        · obtain rfl := Option.some.inj hm
          exact h.unfreed_live hn
        · exact h.unfreed_live (hholds m hm)
    | keeps hpc hidle hlive hholds hfreeing htouch =>
      have hfresh := h.unfreed hpc
      obtain rfl | rfl := htouch
      · apply h.quiet hlive hidle hfreeing (by simp) (by simp)
        rintro m (hm | hm)
        · cases hm
        · rwa [hholds m hm]
      · apply h.quiet hlive hidle hfreeing (by simp) (by simp)
        rintro m (hm | hm)
        · rwa [← Option.some.inj hm]
        · rwa [hholds m hm]
    | removes hpc hidle hlive hholds hfreeing =>
      exact h.remove hpc hidle hlive hholds hfreeing (hguard.remove _ rfl)
    | frees hpc hfree hlive hholds hfreeing =>
      exact h.free hpc hfree hlive hholds hfreeing (hguard.free _ rfl)

/-- The run rule: guarded steps of disciplined threads keep the log safe. -/
lemma Trace.safe {past : List ι} {s : σ} {pcs : ι → κ} (hstep : Disciplined step holds freeing live)
    (hlive : (live s).Nodup) (hfreeing : ∀ i, freeing (pcs i) = none)
    (h : Trace (GuardedStep step holds freeing) ⟨s, pcs, []⟩ past p) : Safe p.log := by
  have hinv := h.invariant (I := fun _ => Retiring holds freeing live) (Retiring.start hlive hfreeing)
    fun _ _ _ _ hkept hnext => hkept.keeps hstep hnext
  exact hinv.safe

end Runs

end TransportConverter.Foundations.Retirement
