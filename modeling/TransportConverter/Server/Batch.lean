import TransportConverter.Server.Relay

/-! One batch of readable sockets, from any state whose tables are consistent. -/

namespace TransportConverter.Server

open Foundations.Memory Foundations.Effects

def DistinctFds (s : TcServer) : Prop :=
  ∀ x y, s.fileno x ≠ -1 → s.fileno x = s.fileno y → x = y

def Partners (s : TcServer) (x y : ℕ) : Prop :=
  s.forwardMap (s.fileno x) = some y ∧ s.forwardMap (s.fileno y) = some x

structure Consistent (s : TcServer) : Prop where
  distinct : DistinctFds s
  isOpen : ∀ x ∈ s.inputs, x ≠ listener → s.fileno x ≠ -1
  once : ∀ x ∈ s.inputs, x ≠ listener → s.inputs.count x = 1
  paired : ∀ x ∈ s.inputs, x ≠ listener →
    ∃ y ∈ s.inputs, y ≠ listener ∧ y ≠ x ∧ Partners s x y

structure Serve where
  sock : ℕ
  recv : RecvAnswer
  accepted : ℕ

def Serve.ready (a : Serve) : Ready := .serve a.sock a.recv (.accepts a.accepted)

def Serve.Closes (a : Serve) : Prop := a.recv = .raises ∨ a.recv = .octets []

/-- No socket at its end is followed by its partner, and the loggers that get stopped were started. -/
structure Harmless (s : TcServer) (batch : List Serve) : Prop where
  order : batch.Pairwise fun a b => a.Closes → s.forwardMap (s.fileno a.sock) ≠ some b.sock
  loggers : ∀ a ∈ batch, a.Closes → ∀ partner,
    s.forwardMap (s.fileno a.sock) = some partner → LoggerStops s a.sock partner

section Erase

variable {x y z : ℕ}

lemma mem_erase_erase {l : List ℕ} (hz : z ∈ l) (hx : z ≠ x) (hy : z ≠ y) :
    z ∈ (l.erase x).erase y :=
  (List.mem_erase_of_ne hy).mpr ((List.mem_erase_of_ne hx).mpr hz)

lemma ne_of_mem_erase_once {l : List ℕ} (h : l.count x = 1) (hz : z ∈ l.erase x) : z ≠ x := by
  rintro rfl
  have := List.count_pos_iff.mpr hz
  rw [List.count_erase_self, h] at this
  exact Nat.lt_irrefl 0 this

end Erase

section Consistent

variable {s t : TcServer} {x y z : ℕ}

lemma Consistent.cleanable (hs : Consistent s) (hx : x ∈ s.inputs) (hxl : x ≠ listener)
    (hy : y ∈ s.inputs) (hne : y ≠ x) (hpair : Partners s x y) (hlogger : LoggerStops s x y) :
    Cleanable s x y where
  cfd_input := hx
  cfd_mapped := by simp [hpair.1]
  sfd_mapped := by simp [hpair.2]
  distinct := fun heq => hne (hs.distinct x y (hs.isOpen x hx hxl) heq.symm).symm
  sfd_input := (List.mem_erase_of_ne hne).mpr hy
  logger := hlogger

lemma Consistent.partner_unique (hs : Consistent s) (hx : x ∈ s.inputs) (hxl : x ≠ listener)
    (h : s.forwardMap (s.fileno x) = some y) :
    y ∈ s.inputs ∧ y ≠ listener ∧ y ≠ x ∧ Partners s x y := by
  obtain ⟨y', hy', hyl, hne, hpair⟩ := hs.paired x hx hxl
  obtain rfl : y = y' := Option.some.inj (h.symm.trans hpair.1)
  exact ⟨hy', hyl, hne, hpair⟩

lemma mem_cleaned_inputs (hs : Consistent s) (hx : x ∈ s.inputs) (hxl : x ≠ listener)
    (hy : y ∈ s.inputs) (hyl : y ≠ listener) (hne : y ≠ x) :
    z ∈ (s.cleaned x y).inputs ↔ z ∈ s.inputs ∧ z ≠ x ∧ z ≠ y := by
  rw [cleaned_inputs]
  constructor
  · intro hz
    have hz' := List.mem_of_mem_erase hz
    have hcount : (s.inputs.erase x).count y = 1 := by
      rw [List.count_erase_of_ne hne, hs.once y hy hyl]
    exact ⟨List.mem_of_mem_erase hz', ne_of_mem_erase_once (hs.once x hx hxl) hz',
      ne_of_mem_erase_once hcount hz⟩
  · rintro ⟨hz, hzx, hzy⟩
    exact mem_erase_erase hz hzx hzy

lemma partners_cleaned (hs : Consistent s) (hx : x ∈ s.inputs) (hxl : x ≠ listener)
    (hy : y ∈ s.inputs) (hyl : y ≠ listener) (hpair : Partners s x y) {w : ℕ}
    (hz : z ∈ s.inputs) (hzl : z ≠ listener) (hzx : z ≠ x) (hzy : z ≠ y) (h : Partners s z w) :
    w ≠ x ∧ w ≠ y ∧ Partners (s.cleaned x y) z w := by
  have hwx : w ≠ x := by
    rintro rfl
    exact hzy (Option.some.inj (h.2.symm.trans hpair.1))
  have hwy : w ≠ y := by
    rintro rfl
    exact hzx (Option.some.inj (h.2.symm.trans hpair.2))
  obtain ⟨hw, hwl, -, -⟩ := hs.partner_unique hz hzl h.1
  have haway : ∀ v, v ∈ s.inputs → v ≠ listener → v ≠ x → v ≠ y →
      s.fileno v ≠ s.fileno x ∧ s.fileno v ≠ s.fileno y := by
    intro v hv hvl hvx hvy
    exact ⟨fun heq => hvx (hs.distinct v x (hs.isOpen v hv hvl) heq),
      fun heq => hvy (hs.distinct v y (hs.isOpen v hv hvl) heq)⟩
  obtain ⟨hz₁, hz₂⟩ := haway z hz hzl hzx hzy
  obtain ⟨hw₁, hw₂⟩ := haway w hw hwl hwx hwy
  refine ⟨hwx, hwy, ?_, ?_⟩
  · rw [cleaned_fileno_of_ne hzx hzy, cleaned_forwardMap_of_ne hz₁ hz₂]
    exact h.1
  · rw [cleaned_fileno_of_ne hwx hwy, cleaned_forwardMap_of_ne hw₁ hw₂]
    exact h.2

lemma Consistent.cleaned (hs : Consistent s) (hx : x ∈ s.inputs) (hxl : x ≠ listener)
    (hy : y ∈ s.inputs) (hyl : y ≠ listener) (hne : y ≠ x) (hpair : Partners s x y) :
    Consistent (s.cleaned x y) := by
  have hmem : ∀ z, z ∈ (s.cleaned x y).inputs ↔ z ∈ s.inputs ∧ z ≠ x ∧ z ≠ y :=
    fun z => mem_cleaned_inputs hs hx hxl hy hyl hne
  refine ⟨?_, ?_, ?_, ?_⟩
  · intro u v hu huv
    obtain ⟨-, -, hu'⟩ := cleaned_open hu
    obtain ⟨-, -, hv'⟩ := cleaned_open (show (s.cleaned x y).fileno v ≠ -1 from huv ▸ hu)
    exact hs.distinct u v (hu' ▸ hu) (hu'.symm.trans (huv.trans hv'))
  · intro z hz hzl
    obtain ⟨hz, hzx, hzy⟩ := (hmem z).mp hz
    rw [cleaned_fileno_of_ne hzx hzy]
    exact hs.isOpen z hz hzl
  · intro z hz hzl
    obtain ⟨hz, hzx, hzy⟩ := (hmem z).mp hz
    rw [cleaned_inputs, List.count_erase_of_ne hzy, List.count_erase_of_ne hzx, hs.once z hz hzl]
  · intro z hz hzl
    obtain ⟨hz, hzx, hzy⟩ := (hmem z).mp hz
    obtain ⟨w, hw, hwl, hwz, hzw⟩ := hs.paired z hz hzl
    obtain ⟨hwx, hwy, hzw'⟩ := partners_cleaned hs hx hxl hy hyl hpair hz hzl hzx hzy hzw
    exact ⟨w, (hmem w).mpr ⟨hw, hwx, hwy⟩, hwl, hwz, hzw'⟩

end Consistent

section Batch

variable {s t : TcServer} {x y : ℕ} {a : Serve} {batch : List Serve}

def Serves (batch : List Serve) (s t : TcServer) : Prop :=
  serveBatch (batch.map Serve.ready) s = .ok () t

lemma serves_nil : Serves [] s t ↔ t = s := by
  have h : serveBatch [] s = .ok () s := rfl
  simp [Serves, h, eq_comm]

lemma serves_cons : Serves (a :: batch) s t ↔ ∃ partner u,
    s.forwardMap (s.fileno a.sock) = some partner ∧ s.fileno a.sock ≠ -1 ∧ s.fileno partner ≠ -1 ∧
      Relayed s a.sock partner a.recv (.accepts a.accepted) u ∧ Serves batch u t := by
  have hread : ∀ u, readAndForward a.sock a.recv (.accepts a.accepted) s = .ok () u ↔ _ :=
    fun u => readAndForward_eq_ok
  simp only [Serves, List.map_cons, serveBatch, bind_eq_ok, Serve.ready, serveReady, hread]
  constructor
  · rintro ⟨-, u, ⟨partner, hmap, hopen, hopen', hu⟩, ht⟩
    exact ⟨partner, u, hmap, hopen, hopen', hu, ht⟩
  · rintro ⟨partner, u, hmap, hopen, hopen', hu, ht⟩
    exact ⟨(), u, ⟨partner, hmap, hopen, hopen', hu⟩, ht⟩

lemma relayed_fileno_closed {recv : RecvAnswer} {send : SendAnswer} {z : ℕ}
    (h : Relayed s x y recv send t) (hz : s.fileno z = -1) : t.fileno z = -1 := by
  cases h with
  | forwarded _ _ _ _ _ => exact hz
  | cleaned _ _ =>
    rcases eq_or_ne z x with rfl | hzx
    · exact cleaned_fileno_left
    rcases eq_or_ne z y with rfl | hzy
    · exact cleaned_fileno_right
    · rw [cleaned_fileno_of_ne hzx hzy]
      exact hz

lemma not_serves_of_closed (hz : s.fileno y = -1) (hmem : y ∈ batch.map Serve.sock) :
    ¬ Serves batch s t := by
  induction batch generalizing s with
  | nil => cases hmem
  | cons a batch ih =>
    rw [serves_cons]
    rintro ⟨partner, u, -, hopen, -, hu, ht⟩
    rcases List.mem_cons.mp hmem with rfl | hmem
    · exact hopen hz
    · exact ih (relayed_fileno_closed hu hz) hmem ht

lemma loggerStops_cleaned {z w : ℕ} (hlogger : LoggerStops s x y) (hzx : z ≠ x) (hzy : z ≠ y)
    (hwx : w ≠ x) (hwy : w ≠ y) : LoggerStops (s.cleaned x y) z w ↔ LoggerStops s z w := by
  have hof : (s.cleaned x y).loggerOf z w = s.loggerOf z w := by
    simp only [TcServer.loggerOf, cleaned_fileno_of_ne hzx hzy, cleaned_fileno_of_ne hwx hwy]
    rfl
  have hstate : ∀ l, (s.cleaned x y).loggers l = .created ↔ s.loggers l = .created := by
    intro l
    simp only [TcServer.cleaned]
    cases hl : s.loggerOf x y with
    | none => rfl
    | some logger =>
      rcases eq_or_ne l logger with rfl | hne
      · simp [hlogger l hl]
      · simp [Function.update_of_ne hne]
  simp only [LoggerStops, hof, ne_eq, hstate]

lemma harmless_cons : Harmless s (a :: batch) ↔
    (a.Closes → (∀ b ∈ batch, s.forwardMap (s.fileno a.sock) ≠ some b.sock) ∧
      ∀ partner, s.forwardMap (s.fileno a.sock) = some partner → LoggerStops s a.sock partner) ∧
    Harmless s batch := by
  constructor
  · rintro ⟨horder, hloggers⟩
    obtain ⟨hhead, htail⟩ := List.pairwise_cons.mp horder
    exact ⟨fun hc => ⟨fun b hb => hhead b hb hc, hloggers a (by simp) hc⟩, htail,
      fun b hb => hloggers b (List.mem_cons_of_mem a hb)⟩
  · rintro ⟨hhead, horder, hloggers⟩
    refine ⟨List.pairwise_cons.mpr ⟨fun b hb hc => (hhead hc).1 b hb, horder⟩, fun b hb => ?_⟩
    rcases List.mem_cons.mp hb with rfl | hb
    · exact fun hc => (hhead hc).2
    · exact hloggers b hb

structure Readable (s : TcServer) (batch : List Serve) : Prop where
  nodup : (batch.map Serve.sock).Nodup
  inputs : ∀ a ∈ batch, a.sock ∈ s.inputs ∧ a.sock ≠ listener

lemma Readable.tail (h : Readable s (a :: batch)) : Readable s batch :=
  ⟨(List.nodup_cons.mp h.nodup).2, fun b hb => h.inputs b (List.mem_cons_of_mem a hb)⟩

lemma Readable.ne_head (h : Readable s (a :: batch)) {b : Serve} (hb : b ∈ batch) :
    b.sock ≠ a.sock := by
  intro heq
  exact (List.nodup_cons.mp h.nodup).1 (heq ▸ List.mem_map_of_mem hb)

lemma harmless_cleaned (hs : Consistent s) (hx : x ∈ s.inputs) (hxl : x ≠ listener)
    (hy : y ∈ s.inputs) (hyl : y ≠ listener) (hpair : Partners s x y) (hlogger : LoggerStops s x y)
    (hbatch : ∀ b ∈ batch, (b.sock ∈ s.inputs ∧ b.sock ≠ listener) ∧ b.sock ≠ x ∧ b.sock ≠ y) :
    Harmless (s.cleaned x y) batch ↔ Harmless s batch := by
  have hmap : ∀ b ∈ batch, (s.cleaned x y).forwardMap ((s.cleaned x y).fileno b.sock) =
      s.forwardMap (s.fileno b.sock) := by
    intro b hb
    obtain ⟨⟨hbi, hbl⟩, hbx, hby⟩ := hbatch b hb
    obtain ⟨w, -, -, -, hw⟩ := hs.paired b.sock hbi hbl
    rw [hw.1]
    exact (partners_cleaned hs hx hxl hy hyl hpair hbi hbl hbx hby hw).2.2.1
  have hstops : ∀ b ∈ batch, ∀ w, s.forwardMap (s.fileno b.sock) = some w →
      (LoggerStops (s.cleaned x y) b.sock w ↔ LoggerStops s b.sock w) := by
    intro b hb w hw
    obtain ⟨⟨hbi, hbl⟩, hbx, hby⟩ := hbatch b hb
    obtain ⟨-, -, -, hbw⟩ := hs.partner_unique hbi hbl hw
    obtain ⟨hwx, hwy, -⟩ := partners_cleaned hs hx hxl hy hyl hpair hbi hbl hbx hby hbw
    exact loggerStops_cleaned hlogger hbx hby hwx hwy
  have horder : ∀ r : Serve → Serve → Prop, ∀ r' : Serve → Serve → Prop,
      (∀ b ∈ batch, ∀ c, r b c ↔ r' b c) → (batch.Pairwise r ↔ batch.Pairwise r') := by
    intro r r' h
    exact List.Pairwise.iff_of_mem fun {b c} hb _ => h b hb c
  constructor
  · rintro ⟨h₁, h₂⟩
    refine ⟨(horder _ _ fun b hb c => by rw [hmap b hb]).mp h₁, fun b hb hc w hw => ?_⟩
    exact (hstops b hb w hw).mp (h₂ b hb hc w ((hmap b hb).trans hw))
  · rintro ⟨h₁, h₂⟩
    refine ⟨(horder _ _ fun b hb c => by rw [hmap b hb]).mpr h₁, fun b hb hc w hw => ?_⟩
    have hw' := (hmap b hb).symm.trans hw
    exact (hstops b hb w hw').mpr (h₂ b hb hc w hw')

lemma not_closes_iff : ¬ a.Closes ↔ ∃ data, data ≠ [] ∧ a.recv = .octets data := by
  simp only [Serve.Closes]
  cases a.recv with
  | raises => simp
  | octets data => simp

lemma Consistent.recorded (hs : Consistent s) (e : Event) : Consistent (s.record e) :=
  ⟨hs.distinct, hs.isOpen, hs.once, hs.paired⟩

lemma harmless_recorded (e : Event) : Harmless (s.record e) batch ↔ Harmless s batch :=
  ⟨fun h => ⟨h.order, h.loggers⟩, fun h => ⟨h.order, h.loggers⟩⟩

lemma Readable.cleaned (hb : Readable s (a :: batch)) (hs : Consistent s) (hy : y ∈ s.inputs)
    (hyl : y ≠ listener) (hne : y ≠ a.sock) (habsent : ∀ b ∈ batch, b.sock ≠ y) :
    Readable (s.cleaned a.sock y) batch := by
  obtain ⟨hx, hxl⟩ := hb.inputs a (by simp)
  refine ⟨hb.tail.nodup, fun b hmem => ⟨?_, (hb.tail.inputs b hmem).2⟩⟩
  exact (mem_cleaned_inputs hs hx hxl hy hyl hne).mpr
    ⟨(hb.tail.inputs b hmem).1, hb.ne_head hmem, habsent b hmem⟩

lemma serves_iff (hs : Consistent s) (hb : Readable s batch) :
    (∃ t, Serves batch s t ∧ Consistent t) ↔ Harmless s batch := by
  induction batch generalizing s with
  | nil =>
    simp only [serves_nil, exists_eq_left, hs, true_iff]
    exact ⟨List.Pairwise.nil, fun a ha => by cases ha⟩
  | cons a batch ih =>
    obtain ⟨hx, hxl⟩ := hb.inputs a (by simp)
    obtain ⟨y, hy, hyl, hne, hpair⟩ := hs.paired a.sock hx hxl
    simp only [serves_cons, harmless_cons, hpair.1, Option.some.injEq]
    by_cases hcloses : a.Closes
    · have hbatch : (∀ b ∈ batch, b.sock ≠ y) → ∀ b ∈ batch,
          (b.sock ∈ s.inputs ∧ b.sock ≠ listener) ∧ b.sock ≠ a.sock ∧ b.sock ≠ y :=
        fun habsent b hmem => ⟨hb.tail.inputs b hmem, hb.ne_head hmem, habsent b hmem⟩
      have hnext := hs.cleaned hx hxl hy hyl hne hpair
      constructor
      · rintro ⟨t, ⟨_, u, rfl, -, -, hu, ht⟩, hcons⟩
        cases hu with
        | forwarded data n hdata hrecv _ => exact (not_closes_iff.mpr ⟨data, hdata, hrecv⟩ hcloses).elim
        | cleaned _ hclean =>
          have habsent : ∀ b ∈ batch, b.sock ≠ y := by
            rintro b hmem rfl
            exact not_serves_of_closed cleaned_fileno_right (List.mem_map_of_mem hmem) ht
          have htail := (ih hnext (hb.cleaned hs hy hyl hne habsent)).mp ⟨t, ht, hcons⟩
          rw [harmless_cleaned hs hx hxl hy hyl hpair hclean.logger (hbatch habsent)] at htail
          exact ⟨fun _ => ⟨fun b hmem heq => habsent b hmem (Option.some.inj heq).symm,
            fun _ heq => heq ▸ hclean.logger⟩, htail⟩
      · rintro ⟨hhead, htail⟩
        obtain ⟨hbehind, hlogger⟩ := hhead hcloses
        have habsent : ∀ b ∈ batch, b.sock ≠ y := fun b hmem heq => hbehind b hmem (congrArg some heq.symm)
        have hlogger := hlogger y rfl
        rw [← harmless_cleaned hs hx hxl hy hyl hpair hlogger (hbatch habsent)] at htail
        obtain ⟨t, ht, hcons⟩ := (ih hnext (hb.cleaned hs hy hyl hne habsent)).mpr htail
        exact ⟨t, ⟨y, _, rfl, hs.isOpen _ hx hxl, hs.isOpen y hy hyl,
          .cleaned hcloses (hs.cleanable hx hxl hy hne hpair hlogger), ht⟩, hcons⟩
    · obtain ⟨data, hdata, hrecv⟩ := not_closes_iff.mp hcloses
      have hsame : ∀ e e' : Event, (∃ t, Serves batch ((s.record e).record e') t ∧ Consistent t) ↔
          Harmless s batch := by
        intro e e'
        rw [ih ((hs.recorded e).recorded e') ⟨hb.tail.nodup, hb.tail.inputs⟩, harmless_recorded,
          harmless_recorded]
      simp only [hcloses, false_implies, true_and]
      rw [← hsame (.received a.sock data) (.forwarded a.sock y (data.take a.accepted))]
      constructor
      · rintro ⟨t, ⟨_, u, rfl, -, -, hu, ht⟩, hcons⟩
        cases hu with
        | forwarded data' n _ hrecv' hsend =>
          obtain rfl := RecvAnswer.octets.inj (hrecv.symm.trans hrecv')
          obtain rfl := SendAnswer.accepts.inj hsend
          exact ⟨t, ht, hcons⟩
        | cleaned hcloses' _ => exact (hcloses hcloses').elim
      · rintro ⟨t, ht, hcons⟩
        exact ⟨t, ⟨y, _, rfl, hs.isOpen _ hx hxl, hs.isOpen y hy hyl,
          .forwarded data a.accepted hdata hrecv rfl, ht⟩, hcons⟩

end Batch

theorem serveBatch_survives_iff (s : TcServer) (hs : Consistent s) (batch : List Serve)
    (hb : Readable s batch) :
    (∃ t, serveBatch (batch.map Serve.ready) s = .ok () t ∧ Consistent t) ↔ Harmless s batch :=
  serves_iff hs hb

def onePair : TcServer where
  nextSock := 3
  fileno
    | 0 => 3
    | 1 => 4
    | 2 => 5
    | _ => -1
  inputs := [listener, 2, 1]
  forwardMap := Function.update (Function.update (fun _ => none) 4 (some 2)) 5 (some 1)
  trackClientSockets := Function.update (Function.update (fun _ => none) 4 (some true)) 5 (some false)
  perfLoggers := Function.update (fun _ => none) 4 (some 0)
  nextLogger := 1
  loggers _ := .running
  clientSock := some 1
  log := [.registered 1 2]

lemma onePair_consistent : Consistent onePair := by
  refine ⟨?_, ?_, ?_, ?_⟩
  · intro x y hx hxy
    rcases x with _ | _ | _ | x <;> rcases y with _ | _ | _ | y <;> simp_all [onePair]
  · decide
  · decide
  · simp only [onePair, List.mem_cons, List.not_mem_nil, or_false]
    rintro x (rfl | rfl | rfl) hx
    · exact (hx rfl).elim
    · exact ⟨1, by decide, by decide, by decide, rfl, rfl⟩
    · exact ⟨2, by decide, by decide, by decide, rfl, rfl⟩

theorem serveBatch_survives_iff_octets :
    ∃ t, serveBatch ([⟨1, .octets [7], 1⟩, ⟨2, .octets [], 1⟩].map Serve.ready) onePair = .ok () t ∧
      Consistent t := by
  refine (serveBatch_survives_iff onePair onePair_consistent _ ⟨by decide, by decide⟩).mpr ⟨?_, ?_⟩
  · refine List.pairwise_pair.mpr fun hcloses => ?_
    rcases hcloses with h | h <;> cases h
  · intro a ha hcloses partner hpartner logger hlogger
    simp [onePair]

def bothAtEnd : List Serve := [⟨1, .octets [], 0⟩, ⟨2, .octets [], 0⟩]

theorem bothAtEnd_raises :
    Consistent onePair ∧ Readable onePair bothAtEnd ∧
      ∃ t, serveBatch (bothAtEnd.map Serve.ready) onePair = .error .keyError t :=
  ⟨onePair_consistent, ⟨by decide, by decide⟩, _, rfl⟩

end TransportConverter.Server
