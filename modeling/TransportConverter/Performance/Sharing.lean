import TransportConverter.Foundations.Refinement
import TransportConverter.Performance.Additions
import TransportConverter.Performance.Stored

/-! Any number of logger threads on one database, a statement that commits at a time, with the calls of
`stop` between them. -/

namespace TransportConverter.Performance.Sharing

open Foundations Foundations.Effects Foundations.Refinement Foundations.Sql Foundations.Watched Wire

/-- Where a thread is in `_run_logger`, with what it holds there of the round it is in. -/
inductive Pc
  | start
  | top
  | subflow (r : Round) (i : ℕ) (slots : List (Option PyDict))
  | insert (r : Round) (i : ℕ) (slots : List (Option PyDict)) (sid : PyValue) (subflow : PyDict)
  | ended
  | failed (e : Fault)

/-- `running` is `_thread_run`; the rounds are those the thread has begun. -/
structure Thread where
  pc : Pc
  cache : List PyValue
  running : Bool
  rounds : List Round

def Thread.new : Thread := ⟨.start, [], true, []⟩

inductive Move
  | turn (r : Round)
  | stop

section Turns

variable (it : IterationId) (features : Features)

def checkFeatures : Py Unit :=
  match features with
  | .text s => if s = "all" then pure () else throw (.raised (.valueError "Features must be a list"))
  | .list _ => pure ()

def turn (running : Bool) (r : Round) : Pc → Py Pc
  | .start => do
    checkFeatures features
    return .top
  | .top =>
    if running then do
      let subflowTcpInfo ← ofExcept (ofQuery (mptcpUtilGetSubflowTcpInfo r.tcpInfo))
      return .subflow r 0 subflowTcpInfo
    else return .ended
  | .subflow _ _ [] => return .top
  | .subflow r i (slot :: slots) => do
    let subflow ← ofExcept (deref slot)
    let sid ← ofExcept (getItem subflow "id")
    recordSubflow it (r.subflowInfo i) sid
    return .insert r i slots sid subflow
  | .insert r i slots sid subflow => do
    commit (·.insertSubflowTcpConnInfo (.str it.text) sid (filterFeatures features subflow))
    return .subflow r (i + 1) slots
  | .ended => return .ended
  | .failed e => return .failed e

def Thread.begun (th : Thread) (r : Round) : List Round :=
  match th.pc, th.running with
  | .top, true => th.rounds ++ [r]
  | _, _ => th.rounds

def Thread.alive (th : Thread) : Bool :=
  match th.pc with
  | .ended | .failed _ => false
  | _ => true

def Thread.between (th : Thread) : Bool :=
  match th.pc with
  | .top | .ended => true
  | _ => false

def act (db : Database) (th : Thread) : Move → Database × Thread
  | .stop => (db, { th with running := false })
  | .turn r =>
    match turn it features th.running r th.pc ⟨db, th.cache⟩ with
    | .ok pc s => (s.db, ⟨pc, s.insertedSubflowsCache, th.running, th.begun r⟩)
    | .error e s => (s.db, ⟨.failed e, s.insertedSubflowsCache, th.running, th.begun r⟩)

end Turns

structure World (ι : Type) where
  db : Database
  threads : ι → Thread

variable {ι : Type} [DecidableEq ι] (its : ι → IterationId) (features : ι → Features)

def World.move (j : ι) (m : Move) (w : World ι) : World ι :=
  let after := act (its j) (features j) w.db (w.threads j) m
  ⟨after.1, Function.update w.threads j after.2⟩

def CanMove (m : Move) (th : Thread) : Prop := m = .stop ∨ th.alive = true

inductive Step : ι × Move → World ι → World ι → Prop
  | move {j : ι} {m : Move} {w : World ι} (h : CanMove m (w.threads j)) :
      Step (j, m) w (w.move its features j m)

def SoloStep (it : IterationId) (features : Features) (m : Move) (s t : Database × Thread) : Prop :=
  CanMove m s.2 ∧ t = act it features s.1 s.2 m

def view (j : ι) (w : World ι) : Database × Thread := (w.db.restrict (its j).text, w.threads j)

section Solo

variable {it : IterationId} {f : Features} {db₀ db : Database} {th : Thread} {r : Round} {rs : List Round}
  {slots : List (Option PyDict)} {slot : Option PyDict} {subflow : PyDict} {sid : PyValue} {i : ℕ}
  {s t : Logger} {e : Fault} {pc : Pc}

/-- A run of the rounds that a thread has begun ends the way the thread does if it goes on from here. -/
inductive Reached (it : IterationId) (f : Features) (db₀ : Database) : Database → Thread → Prop
  | start {running : Bool} : Reached it f db₀ db₀ ⟨.start, [], running, []⟩
  | top {db : Database} {cache : List PyValue} {running : Bool} {rounds : List Round}
      (h : runLogger it f rounds ⟨db₀, []⟩ = .ok () ⟨db, cache⟩) :
      Reached it f db₀ db ⟨.top, cache, running, rounds⟩
  | subflow {db : Database} {cache : List PyValue} {running : Bool} {rounds : List Round} {r : Round} {i : ℕ}
      {slots : List (Option PyDict)}
      (h : runLogger it f rounds ⟨db₀, []⟩ = logSubflows it f r.subflowInfo i slots ⟨db, cache⟩) :
      Reached it f db₀ db ⟨.subflow r i slots, cache, running, rounds⟩
  | insert {db : Database} {cache : List PyValue} {running : Bool} {rounds : List Round} {r : Round} {i : ℕ}
      {slots : List (Option PyDict)} {sid : PyValue} {subflow : PyDict}
      (h : runLogger it f rounds ⟨db₀, []⟩ =
        (commit (·.insertSubflowTcpConnInfo (.str it.text) sid (filterFeatures f subflow)) >>= fun _ =>
          logSubflows it f r.subflowInfo (i + 1) slots) ⟨db, cache⟩) :
      Reached it f db₀ db ⟨.insert r i slots sid subflow, cache, running, rounds⟩
  | ended {db : Database} {cache : List PyValue} {running : Bool} {rounds : List Round}
      (h : runLogger it f rounds ⟨db₀, []⟩ = .ok () ⟨db, cache⟩) :
      Reached it f db₀ db ⟨.ended, cache, running, rounds⟩
  | failed {db : Database} {cache : List PyValue} {running : Bool} {rounds : List Round} {e : Fault}
      (h : runLogger it f rounds ⟨db₀, []⟩ = .error e ⟨db, cache⟩) :
      Reached it f db₀ db ⟨.failed e, cache, running, rounds⟩

lemma runLogger_check : runLogger it f rs = checkFeatures f >>= fun _ => logRounds it f rs := by
  cases f with
  | list fs => rfl
  | text text =>
    by_cases h : text = "all"
    · simp only [runLogger, checkFeatures, h, if_true]
      rfl
    · simp only [runLogger, checkFeatures, h, if_false]
      rfl

lemma logRounds_snoc (h : logRounds it f rs s = .ok () t) :
    logRounds it f (rs ++ [r]) s = logRound it f r t := by
  induction rs generalizing s with
  | nil =>
    cases h
    have hunit : (logRound it f r >>= fun _ => pure ()) = logRound it f r := bind_pure_unit
    exact congrFun hunit t
  | cons first rs ih =>
    rw [logRounds] at h
    obtain ⟨_, v, hfirst, hrest⟩ := bind_eq_ok.mp h
    rw [List.cons_append, logRounds, bind_of_ok hfirst, ih hrest]

lemma runLogger_snoc (h : runLogger it f rs s = .ok () t) :
    runLogger it f (rs ++ [r]) s = logRound it f r t := by
  rw [runLogger_check] at h ⊢
  obtain ⟨_, v, hcheck, hrest⟩ := bind_eq_ok.mp h
  rw [bind_of_ok hcheck, logRounds_snoc hrest]

lemma bind_congr_left {α β : Type} {x y : Py α} {k : α → Py β} (h : x s = y t) :
    (x >>= k) s = (y >>= k) t := by
  cases hy : y t with
  | ok a u => rw [bind_of_ok hy, bind_of_ok (h.trans hy)]
  | error e u => rw [bind_of_error hy, bind_of_error (h.trans hy)]

lemma ofExcept_eq_ok {α : Type} {x : Except Fault α} {a : α} (h : ofExcept x s = .ok a t) :
    x = .ok a ∧ t = s := by
  cases x with
  | error e => cases h
  | ok b =>
    cases h
    exact ⟨rfl, rfl⟩

section Outcomes

variable {running : Bool} {cache : List PyValue} {rounds : List Round}

lemma reached_of_ok (pc' : Pc) (s : Logger) (hturn : turn it f running r pc ⟨db, cache⟩ = .ok pc' s)
    (h : Reached it f db₀ s.db ⟨pc', s.insertedSubflowsCache, running, Thread.begun ⟨pc, cache, running, rounds⟩ r⟩) :
    Reached it f db₀ (act it f db ⟨pc, cache, running, rounds⟩ (.turn r)).1
      (act it f db ⟨pc, cache, running, rounds⟩ (.turn r)).2 := by
  simp only [act, hturn]
  exact h

lemma reached_of_error (e : Fault) (s : Logger) (hturn : turn it f running r pc ⟨db, cache⟩ = .error e s)
    (h : runLogger it f (Thread.begun ⟨pc, cache, running, rounds⟩ r) ⟨db₀, []⟩ = .error e s) :
    Reached it f db₀ (act it f db ⟨pc, cache, running, rounds⟩ (.turn r)).1
      (act it f db ⟨pc, cache, running, rounds⟩ (.turn r)).2 := by
  simp only [act, hturn]
  exact .failed h

lemma reached_start : Reached it f db₀ (act it f db₀ ⟨.start, [], running, []⟩ (.turn r)).1
    (act it f db₀ ⟨.start, [], running, []⟩ (.turn r)).2 := by
  have hrun : runLogger it f [] = checkFeatures f >>= fun _ => logRounds it f [] := runLogger_check
  cases hcheck : checkFeatures f ⟨db₀, []⟩ with
  | ok _ s =>
    apply reached_of_ok .top s
    · rw [turn, bind_of_ok hcheck]
      rfl
    · apply Reached.top
      show runLogger it f [] _ = _
      rw [hrun, bind_of_ok hcheck]
      rfl
  | error e s =>
    apply reached_of_error e s
    · rw [turn, bind_of_error hcheck]
    · show runLogger it f [] ⟨db₀, []⟩ = _
      rw [hrun, bind_of_error hcheck]

lemma reached_top (h : runLogger it f rounds ⟨db₀, []⟩ = .ok () ⟨db, cache⟩) :
    Reached it f db₀ (act it f db ⟨.top, cache, running, rounds⟩ (.turn r)).1
      (act it f db ⟨.top, cache, running, rounds⟩ (.turn r)).2 := by
  cases running with
  | false => exact .ended h
  | true =>
    cases hquery : ofQuery (mptcpUtilGetSubflowTcpInfo r.tcpInfo) with
    | ok slots =>
      apply reached_of_ok (.subflow r 0 slots) ⟨db, cache⟩
      · simp only [turn, if_true]
        rw [bind_of_ok (ofExcept_ok hquery)]
        rfl
      · apply Reached.subflow
        show runLogger it f (rounds ++ [r]) _ = _
        rw [runLogger_snoc h, logRound, bind_of_ok (ofExcept_ok hquery)]
    | error e =>
      apply reached_of_error e ⟨db, cache⟩
      · simp only [turn, if_true]
        rw [bind_of_error (ofExcept_error hquery)]
      · show runLogger it f (rounds ++ [r]) _ = _
        rw [runLogger_snoc h, logRound, bind_of_error (ofExcept_error hquery)]

lemma reached_record {r' : Round}
    (h : runLogger it f rounds ⟨db₀, []⟩ =
      logSubflows it f r.subflowInfo i (slot :: slots) ⟨db, cache⟩) :
    Reached it f db₀ (act it f db ⟨.subflow r i (slot :: slots), cache, running, rounds⟩ (.turn r')).1
      (act it f db ⟨.subflow r i (slot :: slots), cache, running, rounds⟩ (.turn r')).2 := by
  rw [logSubflows] at h
  -- What goes wrong here goes wrong in the round.
  have hfails : ∀ {e t}, logSubflow it f (r.subflowInfo i) slot ⟨db, cache⟩ = .error e t →
      runLogger it f rounds ⟨db₀, []⟩ = .error e t := by
    intro e t hfailed
    rw [h, bind_of_error hfailed]
  cases hslot : deref slot with
  | error e =>
    apply reached_of_error e ⟨db, cache⟩
    · rw [turn, bind_of_error (ofExcept_error hslot)]
    · apply hfails
      rw [logSubflow, bind_of_error (ofExcept_error hslot)]
  | ok subflow =>
    cases hsid : getItem subflow "id" with
    | error e =>
      apply reached_of_error e ⟨db, cache⟩
      · rw [turn, bind_of_ok (ofExcept_ok hslot), bind_of_error (ofExcept_error hsid)]
      · apply hfails
        rw [logSubflow, bind_of_ok (ofExcept_ok hslot), bind_of_error (ofExcept_error hsid)]
    | ok sid =>
      cases hrecord : recordSubflow it (r.subflowInfo i) sid ⟨db, cache⟩ with
      | error e t =>
        apply reached_of_error e t
        · rw [turn, bind_of_ok (ofExcept_ok hslot), bind_of_ok (ofExcept_ok hsid), bind_of_error hrecord]
        · apply hfails
          rw [logSubflow, bind_of_ok (ofExcept_ok hslot), bind_of_ok (ofExcept_ok hsid),
            bind_of_error hrecord]
      | ok _ t =>
        have hlogged : logSubflow it f (r.subflowInfo i) slot ⟨db, cache⟩ =
            commit (·.insertSubflowTcpConnInfo (.str it.text) sid (filterFeatures f subflow)) t := by
          rw [logSubflow, bind_of_ok (ofExcept_ok hslot), bind_of_ok (ofExcept_ok hsid), bind_of_ok hrecord]
        apply reached_of_ok (.insert r i slots sid subflow) t
        · rw [turn, bind_of_ok (ofExcept_ok hslot), bind_of_ok (ofExcept_ok hsid), bind_of_ok hrecord]
          rfl
        · exact .insert (h.trans (bind_congr_left hlogged))

lemma reached_insert {r' : Round}
    (h : runLogger it f rounds ⟨db₀, []⟩ =
      (commit (·.insertSubflowTcpConnInfo (.str it.text) sid (filterFeatures f subflow)) >>= fun _ =>
        logSubflows it f r.subflowInfo (i + 1) slots) ⟨db, cache⟩) :
    Reached it f db₀ (act it f db ⟨.insert r i slots sid subflow, cache, running, rounds⟩ (.turn r')).1
      (act it f db ⟨.insert r i slots sid subflow, cache, running, rounds⟩ (.turn r')).2 := by
  cases hcommit : commit (·.insertSubflowTcpConnInfo (.str it.text) sid (filterFeatures f subflow))
      ⟨db, cache⟩ with
  | ok _ t =>
    rw [bind_of_ok hcommit] at h
    apply reached_of_ok (.subflow r (i + 1) slots) t
    · rw [turn, bind_of_ok hcommit]
      rfl
    · exact .subflow h
  | error e t =>
    rw [bind_of_error hcommit] at h
    apply reached_of_error e t
    · rw [turn, bind_of_error hcommit]
    · exact h

end Outcomes

lemma reached_stop (h : Reached it f db₀ db th) : Reached it f db₀ db { th with running := false } := by
  cases h with
  | start => exact .start
  | top h => exact .top h
  | subflow h => exact .subflow h
  | insert h => exact .insert h
  | ended h => exact .ended h
  | failed h => exact .failed h

lemma reached_act {m : Move} (h : Reached it f db₀ db th) :
    Reached it f db₀ (act it f db th m).1 (act it f db th m).2 := by
  cases m with
  | stop => exact reached_stop h
  | turn r' =>
    cases h with
    | start => exact reached_start
    | top h => exact reached_top h
    | @subflow db cache running rounds r i slots h =>
      cases slots with
      | nil => exact .top h
      | cons slot slots => exact reached_record h
    | insert h => exact reached_insert h
    | ended h => exact .ended h
    | failed h => exact .failed h

lemma solo_reached {past : List Move} {s t : Database × Thread} (h : Trace (SoloStep it f) s past t)
    (hstart : s.2 = .new) : Reached it f s.1 t.1 t.2 := by
  apply h.invariant (I := fun _ t => Reached it f s.1 t.1 t.2)
  · rw [hstart]
    exact .start
  · rintro _ m t _ ht ⟨-, rfl⟩
    exact reached_act ht

lemma Reached.run (h : Reached it f db₀ db th) (hbetween : th.between = true) :
    runLogger it f th.rounds ⟨db₀, []⟩ = .ok () ⟨db, th.cache⟩ := by
  cases h with
  | start => cases hbetween
  | top h => exact h
  | subflow h => cases hbetween
  | insert h => cases hbetween
  | ended h => exact h
  | failed h => cases hbetween

lemma Reached.raised (h : Reached it f db₀ db th) (hpc : th.pc = .failed e) :
    runLogger it f th.rounds ⟨db₀, []⟩ = .error e ⟨db, th.cache⟩ := by
  cases h with
  | failed h =>
    cases hpc
    exact h
  | _ => cases hpc

end Solo

section Views

variable {it : IterationId} {f : Features} {r : Round} {pc pc' : Pc} {running : Bool} {s t : Logger}
  {th : Thread} {m : Move}

def Pc.Keyed : Pc → Prop
  | .subflow _ _ slots => ∀ d, some d ∈ slots → Performance.Keyed d
  | .insert _ _ slots _ last => (∀ d, some d ∈ slots → Performance.Keyed d) ∧ Performance.Keyed last
  | _ => True

lemma adds_turn (h : pc.Keyed) : Adds it (turn it f running r pc) := by
  cases pc with
  | start =>
    refine Adds.bind ?_ fun _ => adds_pure _
    cases f with
    | list fs => exact adds_pure _
    | text text => exact adds_ite (adds_pure _) (adds_throw _)
  | top => exact adds_ite ((adds_ofExcept _).bind fun _ => adds_pure _) (adds_pure _)
  | subflow r i slots =>
    cases slots with
    | nil => exact adds_pure _
    | cons slot slots =>
      refine (adds_ofExcept _).bind fun subflow => (adds_ofExcept _).bind fun sid => ?_
      exact adds_recordSubflow.bind fun _ => adds_pure _
  | insert r i slots sid subflow => exact (adds_insert h.2).bind fun _ => adds_pure _
  | ended => exact adds_pure _
  | failed e => exact adds_pure _

lemma keyed_turn (h : pc.Keyed) (hturn : turn it f running r pc s = .ok pc' t) : pc'.Keyed := by
  cases pc with
  | start =>
    obtain ⟨_, u, -, hpure⟩ := bind_eq_ok.mp hturn
    cases hpure
    trivial
  | top =>
    cases running with
    | false =>
      cases hturn
      trivial
    | true =>
      obtain ⟨slots, u, hquery, hpure⟩ := bind_eq_ok.mp hturn
      cases hpure
      exact keyed_query (ofExcept_eq_ok hquery).1
  | subflow r i slots =>
    cases slots with
    | nil =>
      cases hturn
      trivial
    | cons slot slots =>
      obtain ⟨subflow, u, hslot, hrest⟩ := bind_eq_ok.mp hturn
      obtain ⟨sid, v, -, hrest⟩ := bind_eq_ok.mp hrest
      obtain ⟨_, w, -, hpure⟩ := bind_eq_ok.mp hrest
      cases hpure
      refine ⟨fun d hd => h d (List.mem_cons_of_mem _ hd), h subflow ?_⟩
      cases slot with
      | none => cases (ofExcept_eq_ok hslot).1
      | some d =>
        cases (ofExcept_eq_ok hslot).1
        exact List.mem_cons_self
  | insert r i slots sid subflow =>
    obtain ⟨_, u, -, hpure⟩ := bind_eq_ok.mp hturn
    cases hpure
    exact h.1
  | ended =>
    cases hturn
    trivial
  | failed e =>
    cases hturn
    trivial

lemma keyed_act {db : Database} (h : th.pc.Keyed) : (act it f db th m).2.pc.Keyed := by
  cases m with
  | stop => exact h
  | turn r =>
    cases hturn : turn it f th.running r th.pc ⟨db, th.cache⟩ with
    | ok pc s =>
      simp only [act, hturn]
      exact keyed_turn h hturn
    | error e s =>
      simp only [act, hturn]
      trivial

lemma act_adds (it : IterationId) (f : Features) (m : Move) (h : th.pc.Keyed) :
    ∃ (added : Database) (th' : Thread), added.restrict it.text = added ∧
      ∀ db, act it f db th m = (db.append added, th') := by
  cases m with
  | stop => exact ⟨.empty, _, rfl, fun db => by rw [Database.append_empty]; rfl⟩
  | turn r =>
    have hadds : Adds it (turn it f th.running r th.pc) := adds_turn h
    obtain ⟨result, added, cache', hown, hrun⟩ := hadds th.cache
    cases result with
    | ok pc => exact ⟨added, ⟨pc, cache', _, _⟩, hown, fun db => by simp only [act, hrun]; rfl⟩
    | error e => exact ⟨added, ⟨.failed e, cache', _, _⟩, hown, fun db => by simp only [act, hrun]; rfl⟩

end Views

section Runs

variable {ι : Type} [DecidableEq ι] {its : ι → IterationId} {features : ι → Features} {w w' : World ι}
  {past : List (ι × Move)} {j : ι}

def World.Keyed (w : World ι) : Prop := ∀ j, (w.threads j).pc.Keyed

lemma Step.keyed {l : ι × Move} (h : w.Keyed) (hstep : Step its features l w w') : w'.Keyed := by
  obtain @⟨i, m, w, -⟩ := hstep
  intro j
  by_cases hij : j = i
  · subst hij
    simp only [World.move, Function.update_self]
    exact keyed_act (h j)
  · simp only [World.move, Function.update_of_ne hij]
    exact h j

lemma Step.own {m : Move} (h : w.Keyed) (hstep : Step its features (j, m) w w') :
    SoloStep (its j) (features j) m (view its j w) (view its j w') := by
  obtain ⟨halive⟩ := hstep
  obtain ⟨added, th', hown, hact⟩ := act_adds (its j) (features j) m (h j)
  refine ⟨halive, ?_⟩
  simp only [view, World.move, hact, Function.update_self, Database.restrict_append, hown]

lemma Step.other {i : ι} {m : Move} (hid : ∀ i j, (its i).text = (its j).text → i = j) (hij : i ≠ j)
    (h : w.Keyed) (hstep : Step its features (i, m) w w') : view its j w' = view its j w := by
  obtain ⟨-⟩ := hstep
  obtain ⟨added, th', hown, hact⟩ := act_adds (its i) (features i) m (h i)
  have hnone : added.restrict (its j).text = .empty := by
    rw [← hown]
    exact Database.restrict_other _ _ fun htext => hij (hid i j htext.symm)
  simp only [view, World.move, hact, Function.update_of_ne hij.symm, Database.restrict_append, hnone,
    Database.append_empty]

/-- The turns a thread still makes once it is not to run any more. -/
def Pc.left : Pc → ℕ
  | .start => 2
  | .top => 1
  | .subflow _ _ slots => 2 * slots.length + 2
  | .insert _ _ slots _ _ => 2 * slots.length + 3
  | .ended | .failed _ => 0

def Move.turns : Move → ℕ
  | .turn _ => 1
  | .stop => 0

lemma left_turn {it : IterationId} {f : Features} {r : Round} {pc pc' : Pc} {s t : Logger} (hpos : 0 < pc.left)
    (hturn : turn it f false r pc s = .ok pc' t) : pc'.left + 1 ≤ pc.left := by
  cases pc with
  | start =>
    obtain ⟨_, u, -, hpure⟩ := bind_eq_ok.mp hturn
    cases hpure
    exact le_rfl
  | top =>
    cases hturn
    exact le_rfl
  | subflow r i slots =>
    cases slots with
    | nil =>
      cases hturn
      exact le_rfl
    | cons slot slots =>
      obtain ⟨subflow, u, -, hrest⟩ := bind_eq_ok.mp hturn
      obtain ⟨sid, v, -, hrest⟩ := bind_eq_ok.mp hrest
      obtain ⟨_, w, -, hpure⟩ := bind_eq_ok.mp hrest
      cases hpure
      exact le_rfl
  | insert r i slots sid subflow =>
    obtain ⟨_, u, -, hpure⟩ := bind_eq_ok.mp hturn
    cases hpure
    exact le_rfl
  | ended => exact absurd hpos (lt_irrefl 0)
  | failed e => exact absurd hpos (lt_irrefl 0)

lemma Thread.left_pos {th : Thread} : th.alive = true ↔ 0 < th.pc.left := by
  unfold Thread.alive
  cases th.pc <;> simp [Pc.left]

lemma Thread.begun_stopped {th : Thread} {r : Round} (h : th.running = false) : th.begun r = th.rounds := by
  unfold Thread.begun
  rw [h]
  cases th.pc <;> rfl

lemma act_stopped (it : IterationId) (f : Features) (db : Database) {th : Thread} {m : Move}
    (hstop : th.running = false) (halive : CanMove m th) :
    (act it f db th m).2.running = false ∧ (act it f db th m).2.rounds = th.rounds ∧
      m.turns + (act it f db th m).2.pc.left ≤ th.pc.left := by
  cases m with
  | stop => exact ⟨rfl, rfl, (Nat.zero_add _).le⟩
  | turn r =>
    have hpos : 0 < th.pc.left := Thread.left_pos.mp (halive.resolve_left nofun)
    cases hturn : turn it f th.running r th.pc ⟨db, th.cache⟩ with
    | ok pc s =>
      simp only [act, hturn, Thread.begun_stopped hstop, Move.turns]
      rw [hstop] at hturn
      exact ⟨hstop, trivial, by rw [Nat.add_comm]; exact left_turn hpos hturn⟩
    | error e s =>
      simp only [act, hturn, Thread.begun_stopped hstop, Move.turns]
      exact ⟨hstop, trivial, hpos⟩

def turns (past : List (ι × Move)) (j : ι) : ℕ := ((past.filter (·.1 = j)).map (·.2.turns)).sum

lemma act_rounds {it : IterationId} {f : Features} {db : Database} {th : Thread} {r : Round} :
    (act it f db th (.turn r)).2.rounds = th.begun r := by
  simp only [act]
  split <;> rfl

/-- Whatever the other threads do in between, each has left what a run of its own leaves. -/
lemma trace_reached (hid : ∀ i j, (its i).text = (its j).text → i = j) (hstart : ∀ j, w.threads j = .new)
    (h : Trace (Step its features) w past w') (j : ι) :
    Reached (its j) (features j) (w.db.restrict (its j).text) (w'.db.restrict (its j).text)
      (w'.threads j) := by
  have hkeyed : w.Keyed := fun i => by rw [hstart i]; trivial
  obtain ⟨-, hsolo⟩ := h.alone j (view its j) hkeyed (fun l s t hs hstep => hstep.keyed hs)
    (fun l s t hs hstep => hstep.own hs) fun i l s t hij hs hstep => hstep.other hid hij hs
  exact solo_reached hsolo (hstart j)

end Runs

end TransportConverter.Performance.Sharing
