import TransportConverter.Performance.Sharing

/-! Whole runs of the loggers that share a database. -/

namespace TransportConverter.Performance.Sharing

open Foundations Foundations.Effects Foundations.Refinement Foundations.Sql Wire

section Pace

inductive Stage
  | start
  | top
  | subflow (left : ℕ)
  | insert (left : ℕ)
  | ended
  deriving DecidableEq

def Pc.stage : Pc → Option Stage
  | .start => some .start
  | .top => some .top
  | .subflow _ _ slots => some (.subflow slots.length)
  | .insert _ _ slots _ _ => some (.insert slots.length)
  | .ended => some .ended
  | .failed _ => none

def Stage.next (running : Bool) (found : ℕ) : Stage → Stage
  | .start => .top
  | .top => if running then .subflow found else .ended
  | .subflow 0 => .top
  | .subflow (left + 1) => .insert left
  | .insert left => .subflow left
  | .ended => .ended

variable {it : IterationId} {f : Features} {sel : Selection} {db₀ db : Database} {th : Thread}
  {snap : Snapshot} {snaps : List Snapshot} {running : Bool} {pc pc' : Pc} {s t : Logger}

lemma turn_stage (hfew : snap.count ≤ 2) (h : turn it f running snap.round pc s = .ok pc' t) :
    pc'.stage = pc.stage.map (Stage.next running snap.count) := by
  cases pc with
  | start =>
    obtain ⟨_, u, -, hpure⟩ := bind_eq_ok.mp h
    cases hpure
    rfl
  | top =>
    cases running with
    | false =>
      cases h
      rfl
    | true =>
      obtain ⟨slots, u, hquery, hpure⟩ := bind_eq_ok.mp h
      cases hpure
      have hslots : slots = snap.measurements.map slotOf :=
        Except.ok.inj ((ofExcept_eq_ok hquery).1.symm.trans (query_tcpInfo hfew))
      have hlength : slots.length = snap.count := by
        rw [hslots, List.length_map, Snapshot.measurements, List.length_zipIdx, Snapshot.measured_length]
      simp only [Pc.stage, Option.map_some, Stage.next, if_true, hlength]
  | subflow r i slots =>
    cases slots with
    | nil =>
      cases h
      rfl
    | cons slot slots =>
      obtain ⟨subflow, u, -, hrest⟩ := bind_eq_ok.mp h
      obtain ⟨sid, v, -, hrest⟩ := bind_eq_ok.mp hrest
      obtain ⟨_, w, -, hpure⟩ := bind_eq_ok.mp hrest
      cases hpure
      rfl
  | insert r i slots sid subflow =>
    obtain ⟨_, u, -, hpure⟩ := bind_eq_ok.mp h
    cases hpure
    rfl
  | ended =>
    cases h
    rfl
  | failed e =>
    cases h
    rfl

lemma Reached.not_failed (h : Reached it sel.argument db₀ db th) (hkept : kept sel.argument ≠ [])
    (hrounds : th.rounds = snaps.map Snapshot.round) (hregular : ∀ snap ∈ snaps, Regular [] snap) (e : Fault) :
    th.pc ≠ .failed e := by
  intro hpc
  have hraised := h.raised hpc
  have hall : Throughout Regular snaps := by
    intro pre snap post heq
    have hsnap := hregular snap (heq ▸ List.mem_append_right pre List.mem_cons_self)
    exact ⟨hsnap.few, fun _ => hsnap.known (List.forall_mem_nil _)⟩
  rw [hrounds] at hraised
  rcases runLogger_kept it db₀ snaps hkept with ⟨-, hends⟩ | ⟨hirregular, -⟩
  · rw [hends] at hraised
    cases hraised
  · exact hirregular hall

/-- What a thread has done when no answer of the kernel is to blame. The calls of `stop` are those without a
snapshot. -/
structure Plan where
  stage : Stage
  running : Bool
  snaps : List Snapshot

def Plan.new : Plan := ⟨.start, true, []⟩

def Plan.after (p : Plan) : Option Snapshot → Plan
  | none => { p with running := false }
  | some snap =>
    { p with
      stage := p.stage.next p.running snap.count
      snaps := if p.stage = .top ∧ p.running = true then p.snaps ++ [snap] else p.snaps }

def moveOf : Option Snapshot → Move
  | none => .stop
  | some snap => .turn snap.round

structure Follows (it : IterationId) (sel : Selection) (db₀ : Database) (s : Database × Thread) (p : Plan) :
    Prop where
  reached : Reached it sel.argument db₀ s.1 s.2
  stage : s.2.pc.stage = some p.stage
  running : s.2.running = p.running
  rounds : s.2.rounds = p.snaps.map Snapshot.round
  regular : ∀ snap ∈ p.snaps, Regular [] snap

variable {p : Plan} {v : Database × Thread}

lemma after_snaps : (p.after (some snap)).snaps =
    if p.stage = .top ∧ p.running = true then p.snaps ++ [snap] else p.snaps := rfl

lemma begun_stage (h : th.pc.stage = some p.stage) (hrunning : th.running = p.running) (r : Round) :
    th.begun r = if p.stage = .top ∧ p.running = true then th.rounds ++ [r] else th.rounds := by
  obtain ⟨pc, cache, running, rounds⟩ := th
  obtain ⟨stage, running', snaps⟩ := p
  obtain rfl : running = running' := hrunning
  cases pc with
  | top =>
    obtain rfl : .top = stage := Option.some.inj h
    cases running <;> rfl
  | failed e => cases h
  | start | subflow r i slots | insert r i slots sid subflow | ended =>
    cases h
    rfl

lemma between_ended (h : th.pc.stage = some .ended) : th.between = true := by
  unfold Thread.between
  cases hpc : th.pc with
  | top | ended => rfl
  | _ =>
    rw [hpc] at h
    cases h

lemma Follows.canMove (h : Follows it sel db₀ v p) {cue : Option Snapshot}
    (hcue : cue = none ∨ p.stage ≠ .ended) : CanMove (moveOf cue) v.2 := by
  rcases hcue with rfl | hstage
  · exact Or.inl rfl
  · right
    have hpc := h.stage
    unfold Thread.alive
    cases heq : v.2.pc with
    | ended =>
      rw [heq] at hpc
      exact absurd (Option.some.inj hpc).symm hstage
    | failed e =>
      rw [heq] at hpc
      cases hpc
    | _ => rfl

lemma act_running {r : Round} : (act it f db th (.turn r)).2.running = th.running := by
  simp only [act]
  split <;> rfl

lemma Follows.act (h : Follows it sel db₀ v p) (hkept : kept sel.argument ≠ []) {cue : Option Snapshot}
    (hcue : ∀ snap, cue = some snap → Regular [] snap) :
    Follows it sel db₀ (act it sel.argument v.1 v.2 (moveOf cue)) (p.after cue) := by
  have hreached := reached_act (m := moveOf cue) h.reached
  cases cue with
  | none => exact ⟨hreached, h.stage, rfl, h.rounds, h.regular⟩
  | some snap =>
    have hsnap := hcue snap rfl
    have hrounds : (Sharing.act it sel.argument v.1 v.2 (.turn snap.round)).2.rounds =
        (p.after (some snap)).snaps.map Snapshot.round := by
      rw [act_rounds, begun_stage h.stage h.running, h.rounds, after_snaps]
      split_ifs
      · rw [List.map_append, List.map_singleton]
      · rfl
    have hregular : ∀ snap' ∈ (p.after (some snap)).snaps, Regular [] snap' := by
      intro snap' hmem
      rw [after_snaps] at hmem
      split_ifs at hmem
      · rcases List.mem_append.mp hmem with hold | hnew
        · exact h.regular snap' hold
        · rwa [List.mem_singleton.mp hnew]
      · exact h.regular snap' hmem
    have hsound := hreached.not_failed hkept hrounds hregular
    refine ⟨hreached, ?_, act_running.trans h.running, hrounds, hregular⟩
    cases hturn : turn it sel.argument v.2.running snap.round v.2.pc ⟨v.1, v.2.cache⟩ with
    | ok pc s =>
      simp only [Sharing.act, moveOf, hturn]
      rw [turn_stage hsnap.few hturn, h.stage, h.running]
      rfl
    | error e s =>
      have hfailed := hsound e
      simp only [Sharing.act, moveOf, hturn] at hfailed
      exact absurd rfl hfailed

lemma start_follows (h : th = .new) : Follows it sel db₀ (db₀, th) .new := by
  rw [h]
  exact ⟨.start, rfl, rfl, rfl, List.forall_mem_nil _⟩

end Pace

section Rehearsal

variable {ι : Type} [DecidableEq ι]

/-- What has become of the plans, if no thread that has ended is to make a turn. -/
def rehearse : List (ι × Option Snapshot) → (ι → Plan) → Option (ι → Plan)
  | [], plans => some plans
  | (j, cue) :: cues, plans =>
    if cue = none ∨ (plans j).stage ≠ .ended then
      rehearse cues (Function.update plans j ((plans j).after cue))
    else none

def movesOf (cues : List (ι × Option Snapshot)) : List (ι × Move) := cues.map fun cue => (cue.1, moveOf cue.2)

variable {its : ι → IterationId} {sels : ι → Selection} {w₀ w : World ι} {cues : List (ι × Option Snapshot)}
  {plans plans' : ι → Plan}

def AllFollow (its : ι → IterationId) (sels : ι → Selection) (w₀ w : World ι) (plans : ι → Plan) : Prop :=
  w.Keyed ∧ ∀ j, Follows (its j) (sels j) (w₀.db.restrict (its j).text) (view its j w) (plans j)

lemma AllFollow.step (hid : ∀ i j, (its i).text = (its j).text → i = j) (h : AllFollow its sels w₀ w plans)
    {i : ι} {cue : Option Snapshot} (hkept : kept (sels i).argument ≠ [])
    (hregular : ∀ snap, cue = some snap → Regular [] snap) (hcue : cue = none ∨ (plans i).stage ≠ .ended) :
    ∃ v, Step its (fun j => (sels j).argument) (i, moveOf cue) w v ∧
      AllFollow its sels w₀ v (Function.update plans i ((plans i).after cue)) := by
  obtain ⟨hkeyed, hfollows⟩ := h
  have hstep : Step its (fun j => (sels j).argument) (i, moveOf cue) w _ := .move ((hfollows i).canMove hcue)
  refine ⟨_, hstep, hstep.keyed hkeyed, fun j => ?_⟩
  by_cases hij : j = i
  · subst hij
    rw [Function.update_self, (hstep.own hkeyed).2]
    exact (hfollows j).act hkept hregular
  · rw [Function.update_of_ne hij, hstep.other hid (Ne.symm hij) hkeyed]
    exact hfollows j

lemma AllFollow.run (hid : ∀ i j, (its i).text = (its j).text → i = j)
    (hkept : ∀ j, kept (sels j).argument ≠ []) (h : AllFollow its sels w₀ w plans)
    (hregular : ∀ cue ∈ cues, ∀ snap, cue.2 = some snap → Regular [] snap)
    (hplans : rehearse cues plans = some plans') :
    ∃ v, Trace (Step its fun j => (sels j).argument) w (movesOf cues) v ∧ AllFollow its sels w₀ v plans' := by
  induction cues generalizing w plans with
  | nil =>
    cases hplans
    exact ⟨w, .nil, h⟩
  | cons cue cues ih =>
    obtain ⟨i, cue⟩ := cue
    rw [List.forall_mem_cons] at hregular
    rw [rehearse] at hplans
    split_ifs at hplans with hcue
    obtain ⟨v, hstep, hnext⟩ := h.step hid (hkept i) hregular.1 hcue
    obtain ⟨u, hrun, hlast⟩ := ih hnext hregular.2 hplans
    exact ⟨u, hrun.after hstep, hlast⟩

lemma rehearsed_run (hid : ∀ i j, (its i).text = (its j).text → i = j) (hstart : ∀ j, w₀.threads j = .new)
    (hkept : ∀ j, kept (sels j).argument ≠ [])
    (hregular : ∀ cue ∈ cues, ∀ snap, cue.2 = some snap → Regular [] snap)
    (hplans : rehearse cues (fun _ => .new) = some plans') :
    ∃ v, Trace (Step its fun j => (sels j).argument) w₀ (movesOf cues) v ∧ AllFollow its sels w₀ v plans' := by
  refine AllFollow.run hid hkept ⟨fun j => ?_, fun j => start_follows (hstart j)⟩ hregular hplans
  rw [hstart j]
  trivial

end Rehearsal

section Results

variable {ι : Type} [DecidableEq ι] {its : ι → IterationId} {features : ι → Features} {w w' : World ι}
  {past : List (ι × Move)} {j : ι}

def ids : Bool → IterationId
  | false => someRun
  | true => ⟨"asdfghjklz", rfl, by simp⟩

lemma ids_injective : ∀ i j, (ids i).text = (ids j).text → i = j := by
  rintro (_ | _) (_ | _) h
  · rfl
  · exact absurd h (by decide)
  · exact absurd h (by decide)
  · rfl

def metrics : Bool → Selection
  | false => .only ["tcpi_rtt"]
  | true => .all

lemma metrics_kept : ∀ j, kept (metrics j).argument ≠ [] := by
  have hrtt : ∀ j, TcpiField.rtt ∈ kept (metrics j).argument := by
    rintro (_ | _) <;> exact mem_kept.mpr (by decide)
  exact fun j => List.ne_nil_of_mem (hrtt j)

def turnsOf (n : ℕ) (j : Bool) (snap : Snapshot) : List (Bool × Option Snapshot) := List.replicate n (j, some snap)

/-- One thread goes through its first round while the other one is in its own, and is told to stop in its
third round. -/
def crossing : List (Bool × Option Snapshot) :=
  turnsOf 3 false (cableAndPhone 8 9) ++ turnsOf 3 true (cableAndPhone 10 5) ++
    turnsOf 1 false (cableAndPhone 8 9) ++ turnsOf 4 true (cableAndPhone 10 5) ++
    turnsOf 2 false (cableAndPhone 8 9) ++ turnsOf 6 true (cableAndPhone 20 7) ++
    turnsOf 2 true (cableOnly (.level 30)) ++ [(true, none)]

def finishing : List (Bool × Option Snapshot) := turnsOf 3 true (cableOnly (.level 30))

lemma turnsOf_regular {n : ℕ} {j : Bool} {snap : Snapshot} (hfew : snap.subflows.length ≤ 2)
    (hknown : ∀ sub ∈ snap.subflows, sub.addrs.Known) :
    ∀ cue ∈ turnsOf n j snap, ∀ snap, cue.2 = some snap → Regular [] snap := by
  intro cue hcue snap' hsnap
  obtain ⟨-, rfl⟩ := List.mem_replicate.mp hcue
  obtain rfl := Option.some.inj hsnap
  exact (regular_few (List.forall_mem_nil _) hfew).mpr fun _ => hknown

lemma both_known (n m : ℕ) : ∀ sub ∈ (cableAndPhone n m).subflows, sub.addrs.Known := by
  simp only [cableAndPhone, List.forall_mem_cons]
  decide

lemma cable_known (info : TcpInfo) : ∀ sub ∈ (cableOnly info).subflows, sub.addrs.Known :=
  List.forall_mem_singleton.mpr (by decide : cablePath.Known)

lemma finishing_regular : ∀ cue ∈ finishing, ∀ snap, cue.2 = some snap → Regular [] snap :=
  turnsOf_regular (Nat.le_succ 1) (cable_known _)

lemma crossing_regular : ∀ cue ∈ crossing, ∀ snap, cue.2 = some snap → Regular [] snap := by
  have hboth : ∀ k j n m, ∀ cue ∈ turnsOf k j (cableAndPhone n m), ∀ snap, cue.2 = some snap → Regular [] snap :=
    fun k j n m => turnsOf_regular le_rfl (both_known n m)
  have hcable : ∀ k j info, ∀ cue ∈ turnsOf k j (cableOnly info), ∀ snap, cue.2 = some snap → Regular [] snap :=
    fun k j info => turnsOf_regular (Nat.le_succ 1) (cable_known info)
  simp only [crossing, List.forall_mem_append]
  exact ⟨⟨⟨⟨⟨⟨⟨hboth _ _ _ _, hboth _ _ _ _⟩, hboth _ _ _ _⟩, hboth _ _ _ _⟩, hboth _ _ _ _⟩, hboth _ _ _ _⟩,
    hcable _ _ _⟩, by simp⟩

def fresh : World Bool := ⟨.empty, fun _ => .new⟩

lemma fresh_new (j : Bool) : fresh.threads j = .new := rfl

lemma fresh_restrict (it : String) : fresh.db.restrict it = .empty := rfl

lemma metrics_all : (metrics true).argument = Selection.all.argument := rfl

lemma ended_run : ∃ w, Trace (Step ids fun j => (metrics j).argument) fresh (movesOf (crossing ++ finishing)) w ∧
    (w.threads true).rounds = threeRounds.map Snapshot.round ∧ (w.threads true).between = true := by
  obtain ⟨plans, hplans, hends⟩ : ∃ plans, rehearse (crossing ++ finishing) (fun _ => .new) = some plans ∧
      plans true = ⟨.ended, false, threeRounds⟩ := ⟨_, rfl, rfl⟩
  have hregular := List.forall_mem_append.mpr ⟨crossing_regular, finishing_regular⟩
  obtain ⟨w, htrace, -, hfollow⟩ := rehearsed_run ids_injective fresh_new metrics_kept hregular hplans
  have htrue := hfollow true
  rw [hends] at htrue
  exact ⟨w, htrace, htrue.rounds, between_ended htrue.stage⟩

/-- What each logger has left between two rounds, or when it has raised, is what a run over its rounds
leaves in its own rows alone. -/
theorem threads_run_alone (hid : ∀ i j, (its i).text = (its j).text → i = j)
    (hstart : ∀ j, w.threads j = .new) (h : Trace (Step its features) w past w') (j : ι) :
    ((w'.threads j).between = true →
      runLogger (its j) (features j) (w'.threads j).rounds ⟨w.db.restrict (its j).text, []⟩ =
        .ok () ⟨w'.db.restrict (its j).text, (w'.threads j).cache⟩) ∧
    ∀ e, (w'.threads j).pc = .failed e →
      runLogger (its j) (features j) (w'.threads j).rounds ⟨w.db.restrict (its j).text, []⟩ =
        .error e ⟨w'.db.restrict (its j).text, (w'.threads j).cache⟩ := by
  have hreached := trace_reached hid hstart h j
  exact ⟨hreached.run, fun e hpc => hreached.raised hpc⟩

theorem threads_run_alone_crossing :
    ∃ w, Trace (Step ids fun j => (metrics j).argument) fresh (movesOf (crossing ++ finishing)) w ∧
      (w.threads true).rounds = threeRounds.map Snapshot.round ∧
      runLogger (ids true) (metrics true).argument (w.threads true).rounds
          ⟨fresh.db.restrict (ids true).text, []⟩ =
        .ok () ⟨w.db.restrict (ids true).text, (w.threads true).cache⟩ := by
  obtain ⟨w, htrace, hrounds, hbetween⟩ := ended_run
  exact ⟨w, htrace, hrounds, (threads_run_alone ids_injective fresh_new htrace true).1 hbetween⟩

/-- A thread that is told to stop finishes the round it is in and begins no other. -/
theorem stopped_thread_ends (hstop : (w.threads j).running = false) (h : Trace (Step its features) w past w') :
    (w'.threads j).rounds = (w.threads j).rounds ∧
      turns past j + (w'.threads j).pc.left ≤ (w.threads j).pc.left := by
  suffices hall : (w'.threads j).running = false ∧ (w'.threads j).rounds = (w.threads j).rounds ∧
      turns past j + (w'.threads j).pc.left ≤ (w.threads j).pc.left from hall.2
  induction h with
  | nil => exact ⟨hstop, rfl, (Nat.zero_add _).le⟩
  | @snoc past l t u _ hstep ih =>
    obtain ⟨hrunning, hrounds, hleft⟩ := ih
    obtain @⟨i, m, t, halive⟩ := hstep
    have hturns : turns (past ++ [(i, m)]) j = turns past j + if i = j then m.turns else 0 := by
      by_cases hij : i = j <;> simp [turns, hij]
    rw [hturns]
    by_cases hij : i = j
    · subst hij
      obtain ⟨hrunning', hrounds', hleft'⟩ := act_stopped (its i) (features i) t.db hrunning halive
      simp only [World.move, Function.update_self, if_true]
      exact ⟨hrunning', hrounds'.trans hrounds, by omega⟩
    · simp only [World.move, Function.update_of_ne (Ne.symm hij), if_neg hij]
      exact ⟨hrunning, hrounds, by omega⟩

lemma stopped_run : ∃ w v, Trace (Step ids fun j => (metrics j).argument) fresh (movesOf crossing) w ∧
    Trace (Step ids fun j => (metrics j).argument) w (movesOf finishing) v ∧ (w.threads true).running = false := by
  obtain ⟨plans, plans', hcrossing, hfinishing, hleft⟩ : ∃ plans plans',
      rehearse crossing (fun _ => .new) = some plans ∧ rehearse finishing plans = some plans' ∧
        plans true = ⟨.insert 0, false, threeRounds⟩ := ⟨_, _, rfl, rfl, rfl⟩
  obtain ⟨w, hw, hfollow⟩ := rehearsed_run ids_injective fresh_new metrics_kept crossing_regular hcrossing
  obtain ⟨v, hv, -⟩ := hfollow.run ids_injective metrics_kept finishing_regular hfinishing
  have hrunning := (hfollow.2 true).running
  rw [hleft] at hrunning
  exact ⟨w, v, hw, hv, hrunning⟩

theorem stopped_thread_ends_finishing :
    ∃ w v, Trace (Step ids fun j => (metrics j).argument) fresh (movesOf crossing) w ∧
      Trace (Step ids fun j => (metrics j).argument) w (movesOf finishing) v ∧
      (v.threads true).rounds = (w.threads true).rounds ∧
      turns (movesOf finishing) true + (v.threads true).pc.left ≤ (w.threads true).pc.left := by
  obtain ⟨w, v, hcrossing, hfinishing, hstop⟩ := stopped_run
  exact ⟨w, v, hcrossing, hfinishing, stopped_thread_ends hstop hfinishing⟩

end Results

end TransportConverter.Performance.Sharing
