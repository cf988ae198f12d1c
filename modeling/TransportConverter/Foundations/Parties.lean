import TransportConverter.Foundations.Refinement

/-! Two parties that talk over a connection, in any interleaving of their steps. What each of them does is
a run of its own, and what one reads is what the other sent, in order. -/

namespace TransportConverter.Foundations.Parties

open Refinement

structure Pipe (α : Type*) where
  sent : List α
  read : List α
  in_order : read <+: sent

section Pipe

variable {α : Type*} {p : Pipe α} {xs : List α}

def Pipe.empty : Pipe α := ⟨[], [], List.prefix_rfl⟩

def Pipe.inFlight (p : Pipe α) : List α := p.sent.drop p.read.length

lemma Pipe.read_append_inFlight (p : Pipe α) : p.read ++ p.inFlight = p.sent :=
  (List.prefix_append_drop p.in_order).symm

def Pipe.send (p : Pipe α) (xs : List α) : Pipe α :=
  ⟨p.sent ++ xs, p.read, p.in_order.trans (List.prefix_append p.sent xs)⟩

def Pipe.receive (p : Pipe α) (xs : List α) (h : xs <+: p.inFlight) : Pipe α :=
  ⟨p.sent, p.read ++ xs, by
    rw [← p.read_append_inFlight]
    exact (List.prefix_append_right_inj p.read).mpr h⟩

@[simp] lemma Pipe.send_sent : (p.send xs).sent = p.sent ++ xs := rfl
@[simp] lemma Pipe.send_read : (p.send xs).read = p.read := rfl
@[simp] lemma Pipe.receive_sent (h : xs <+: p.inFlight) : (p.receive xs h).sent = p.sent := rfl
@[simp] lemma Pipe.receive_read (h : xs <+: p.inFlight) : (p.receive xs h).read = p.read ++ xs := rfl

end Pipe

/-- `sawEnd` marks the steps that find the connection at its end: the other party has closed it, and nothing
of what it sent is left. -/
structure Party (α σ ℓ : Type*) where
  step : ℓ → σ → σ → Prop
  took : ℓ → List α
  gave : ℓ → List α
  sawEnd : ℓ → Prop
  closed : σ → Prop

structure Session (α σ τ : Type*) where
  left : σ
  right : τ
  up : Pipe α
  down : Pipe α

variable {α σ τ ℓ m : Type*}

inductive Step (A : Party α σ ℓ) (B : Party α τ m) : ℓ ⊕ m → Session α σ τ → Session α σ τ → Prop
  | left {l : ℓ} {w : Session α σ τ} {s : σ} (h : A.step l w.left s) (htook : A.took l <+: w.down.inFlight)
      (hend : A.sawEnd l → B.closed w.right ∧ w.down.inFlight = []) :
      Step A B (.inl l) w ⟨s, w.right, w.up.send (A.gave l), w.down.receive (A.took l) htook⟩
  | right {l : m} {w : Session α σ τ} {t : τ} (h : B.step l w.right t) (htook : B.took l <+: w.up.inFlight)
      (hend : B.sawEnd l → A.closed w.left ∧ w.up.inFlight = []) :
      Step A B (.inr l) w ⟨w.left, t, w.up.receive (B.took l) htook, w.down.send (B.gave l)⟩

def lefts (past : List (ℓ ⊕ m)) : List ℓ := past.filterMap Sum.getLeft?
def rights (past : List (ℓ ⊕ m)) : List m := past.filterMap Sum.getRight?

@[simp] lemma lefts_inl (past : List (ℓ ⊕ m)) (l : ℓ) : lefts (past ++ [.inl l]) = lefts past ++ [l] := by
  simp [lefts]

@[simp] lemma lefts_inr (past : List (ℓ ⊕ m)) (l : m) : lefts (past ++ [.inr l]) = lefts past := by
  simp [lefts]

@[simp] lemma rights_inl (past : List (ℓ ⊕ m)) (l : ℓ) : rights (past ++ [.inl l]) = rights past := by
  simp [rights]

@[simp] lemma rights_inr (past : List (ℓ ⊕ m)) (l : m) : rights (past ++ [.inr l]) = rights past ++ [l] := by
  simp [rights]

def Session.new (s : σ) (t : τ) : Session α σ τ := ⟨s, t, .empty, .empty⟩

section Runs

variable {A : Party α σ ℓ} {B : Party α τ m} {s : σ} {t : τ} {w : Session α σ τ} {past : List (ℓ ⊕ m)}

structure Parts (A : Party α σ ℓ) (B : Party α τ m) (s : σ) (t : τ) (past : List (ℓ ⊕ m))
    (w : Session α σ τ) : Prop where
  left : Trace A.step s (lefts past) w.left
  right : Trace B.step t (rights past) w.right
  up_sent : w.up.sent = (lefts past).flatMap A.gave
  up_read : w.up.read = (rights past).flatMap B.took
  down_sent : w.down.sent = (rights past).flatMap B.gave
  down_read : w.down.read = (lefts past).flatMap A.took

theorem run_parts (h : Trace (Step A B) (.new s t) past w) : Parts A B s t past w := by
  induction h with
  | nil => exact ⟨.nil, .nil, rfl, rfl, rfl, rfl⟩
  | snoc _ hstep ih =>
    cases hstep with
    | left hown htook hend =>
      refine ⟨?_, ?_, ?_, ?_, ?_, ?_⟩
      · rw [lefts_inl]
        exact ih.left.snoc hown
      · rw [rights_inl]
        exact ih.right
      · rw [lefts_inl, List.flatMap_append, List.flatMap_singleton, Pipe.send_sent, ih.up_sent]
      · rw [rights_inl, Pipe.send_read, ih.up_read]
      · rw [rights_inl, Pipe.receive_sent, ih.down_sent]
      · rw [lefts_inl, List.flatMap_append, List.flatMap_singleton, Pipe.receive_read, ih.down_read]
    | right hown htook hend =>
      refine ⟨?_, ?_, ?_, ?_, ?_, ?_⟩
      · rw [lefts_inr]
        exact ih.left
      · rw [rights_inr]
        exact ih.right.snoc hown
      · rw [lefts_inr, Pipe.receive_sent, ih.up_sent]
      · rw [rights_inr, List.flatMap_append, List.flatMap_singleton, Pipe.receive_read, ih.up_read]
      · rw [rights_inr, List.flatMap_append, List.flatMap_singleton, Pipe.send_sent, ih.down_sent]
      · rw [lefts_inr, Pipe.send_read, ih.down_read]

lemma read_was_sent {v : Session α σ τ} {l : ℓ ⊕ m} (h : Step A B l v w) : w.down.read <+: v.down.sent := by
  cases h with
  | left hown htook hend => exact (v.down.receive _ htook).in_order
  | right hown htook hend => exact v.down.in_order

def Party.Final (A : Party α σ ℓ) : Prop := ∀ l s t, A.closed s → A.step l s t → A.closed t ∧ A.gave l = []

lemma closed_after_end (hfinal : A.Final) (h : Trace (Step A B) (.new s t) past w)
    (hend : ∃ l ∈ rights past, B.sawEnd l) : A.closed w.left ∧ w.up.inFlight = [] := by
  induction h with
  | nil =>
    obtain ⟨l, hl, -⟩ := hend
    cases hl
  | @snoc past _ v _ _ hstep ih =>
    cases hstep with
    | left hown htook hnow =>
      rw [rights_inl] at hend
      obtain ⟨hclosed, hempty⟩ := ih hend
      obtain ⟨hclosed', hgave⟩ := hfinal _ _ _ hclosed hown
      refine ⟨hclosed', ?_⟩
      rw [hgave, Pipe.inFlight, Pipe.send_sent, List.append_nil]
      exact hempty
    | @right l _ _ hown htook hnow =>
      have hbefore : A.closed v.left ∧ v.up.inFlight = [] := by
        obtain ⟨k, hk, hkend⟩ := hend
        rw [rights_inr, List.mem_append, List.mem_singleton] at hk
        rcases hk with hk | rfl
        · exact ih ⟨k, hk, hkend⟩
        · exact hnow hkend
      refine ⟨hbefore.1, ?_⟩
      have hnone : B.took l = [] := by
        rw [hbefore.2] at htook
        exact List.prefix_nil.mp htook
      rw [Pipe.inFlight, Pipe.receive_read, Pipe.receive_sent, hnone, List.append_nil]
      exact hbefore.2

theorem took_after_end (hfinal : A.Final) (h : Trace (Step A B) (.new s t) past w) (before : List m)
    {after : List m} {l : m} (hpast : rights past = before ++ l :: after) (hend : B.sawEnd l) : after.flatMap B.took = [] := by
  induction h generalizing after with
  | nil => cases before <;> cases hpast
  | @snoc past _ _ _ hrun hstep ih =>
    cases hstep with
    | left => exact ih (by rwa [rights_inl] at hpast)
    | right hown htook hnow =>
      rw [rights_inr] at hpast
      rcases List.eq_nil_or_concat' after with rfl | ⟨after, last, rfl⟩
      · rfl
      · rw [← List.cons_append, ← List.append_assoc] at hpast
        obtain ⟨hrights, hlast⟩ := List.append_inj' hpast rfl
        cases hlast
        have hempty := (closed_after_end hfinal hrun ⟨l, by rw [hrights]; simp, hend⟩).2
        rw [hempty] at htook
        rw [List.flatMap_append, ih hrights, List.flatMap_singleton, List.prefix_nil.mp htook]
        rfl

end Runs

end TransportConverter.Foundations.Parties
