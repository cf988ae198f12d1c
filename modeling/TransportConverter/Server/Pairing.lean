import TransportConverter.Server.Runs

/-! Runs in which every readable message asks for one connection: the tables stay exact. -/

namespace TransportConverter.Server

open Foundations.Memory Foundations.Effects

structure Pairing (s : TcServer) : Prop where
  sound : Sound s
  listening : listener ∈ s.inputs
  nodup : s.inputs.Nodup
  isOpen : ∀ x ∈ s.inputs, s.fileno x ≠ -1
  together : ∀ x y, Pair s x y → x ∈ s.inputs → y ∈ s.inputs
  keys : ∀ fd y, s.forwardMap fd = some y → ∃ x ∈ s.inputs, x ≠ listener ∧ s.fileno x = fd

def SingleConnect (tlvs : List TlvPacket) : Prop :=
  tlvs.countP (fun tlv => convertTlvs tlv.hdr.type = some .connect) = 1 ∧
    ∀ tlv ∈ tlvs, convertTlvs tlv.hdr.type ≠ none

def FromClient : Ready → Prop
  | .accept conn =>
    (∀ i, (conn.dials i).logger = .starts) ∧
      ∀ convert, conn.read = .header convert → SingleConnect convert.tlvs
  | .serve _ _ _ => True

section Keeps

variable {s t : TcServer} {x y client : ℕ}

lemma Pairing.of_tables (hs : Pairing s) (ht : Sound t) (hin : t.inputs = s.inputs)
    (hf : ∀ x ∈ s.inputs, t.fileno x = s.fileno x) (hm : t.forwardMap = s.forwardMap)
    (hp : ∀ x y, Pair t x y → Pair s x y) : Pairing t := by
  refine ⟨ht, ?_, ?_, ?_, ?_, ?_⟩
  · rw [hin]
    exact hs.listening
  · rw [hin]
    exact hs.nodup
  · intro x hx
    rw [hin] at hx
    rw [hf x hx]
    exact hs.isOpen x hx
  · intro x y hxy hx
    rw [hin] at hx ⊢
    exact hs.together x y (hp x y hxy) hx
  · intro fd y hfd
    rw [hm] at hfd
    obtain ⟨x, hx, hxl, hfx⟩ := hs.keys fd y hfd
    exact ⟨x, hin ▸ hx, hxl, (hf x hx).trans hfx⟩

lemma Sound.not_input (hs : Sound s) (hclient : x ≠ listener) (hfree : Unpaired s x) :
    x ∉ s.inputs := by
  intro hx
  rcases hs.inputs x hx with h | ⟨y, hxy⟩
  · exact hclient h
  · exact hfree y hxy

lemma Sound.input_lt (hs : Sound s) (hx : x ∈ s.inputs) : x < s.nextSock := by
  rcases hs.inputs x hx with rfl | ⟨y, hxy⟩
  · exact hs.started
  · exact (hs.born x y hxy).1

lemma Pairing.accepted (hs : Pairing s) (fd : FdChoice) : Pairing (s.accepted fd) := by
  have hold : ∀ x ∈ s.inputs, (s.opened fd).fileno x = s.fileno x :=
    fun x hx => opened_fileno_of_lt (hs.sound.input_lt hx)
  have hsound := hs.sound.accepted fd
  unfold TcServer.accepted at hsound ⊢
  rcases bindClient_cases (s := s.opened fd) s.nextSock with h | ⟨previous, hprevious, h⟩
  · rw [h] at hsound ⊢
    exact hs.of_tables hsound rfl hold rfl fun _ _ h => h
  · rw [h] at hsound ⊢
    refine hs.of_tables hsound rfl (fun x hx => ?_) rfl fun _ _ h => h
    have hne : x ≠ previous := by
      rintro rfl
      exact hprevious hx
    exact (closed_fileno_of_ne hne).trans (hold x hx)

section Inputs

variable {server : ℕ}

lemma mem_register_inputs : x ∈ (s.register client server).inputs ↔
    x ∈ s.inputs ∨ x = server ∨ x = client := by
  simp [TcServer.register]

lemma Sound.register_nodup (hs : Sound s) (h : Joinable s client server) (hnodup : s.inputs.Nodup) :
    (s.register client server).inputs.Nodup := by
  have hclient := hs.not_input h.client_ne h.client_free
  have hserver := hs.not_input h.server_ne h.server_free
  refine List.nodup_append.mpr ⟨hnodup, by simp [h.ne.symm], ?_⟩
  intro x hx z hz
  rcases List.mem_pair.mp hz with rfl | rfl
  · rintro rfl
    exact hserver hx
  · rintro rfl
    exact hclient hx

lemma Joinable.register_together (h : Joinable s client server)
    (htogether : ∀ x y, Pair s x y → x ∈ s.inputs → y ∈ s.inputs)
    (hxy : Pair (s.register client server) x y) (hx : x ∈ (s.register client server).inputs) :
    y ∈ (s.register client server).inputs := by
  rw [mem_register_inputs]
  rcases pair_register_iff.mp hxy with hold | ⟨rfl, rfl⟩ | ⟨rfl, rfl⟩
  · rcases mem_register_inputs.mp hx with hx | rfl | rfl
    · exact Or.inl (htogether x y hold hx)
    · exact (h.server_free y hold).elim
    · exact (h.client_free y hold).elim
  · exact Or.inr (Or.inl rfl)
  · exact Or.inr (Or.inr rfl)

lemma cleaned_inputs_of_nodup {z : ℕ} (hnodup : s.inputs.Nodup) :
    z ∈ (s.cleaned x y).inputs ↔ z ∈ s.inputs ∧ z ≠ x ∧ z ≠ y := by
  rw [cleaned_inputs, (hnodup.erase x).mem_erase_iff, hnodup.mem_erase_iff]
  tauto

lemma Sound.cleaned_together {z w : ℕ} (hs : Sound s) (hxy : Pair s x y) (hnodup : s.inputs.Nodup)
    (htogether : ∀ x y, Pair s x y → x ∈ s.inputs → y ∈ s.inputs) (hzw : Pair s z w)
    (hz : z ∈ (s.cleaned x y).inputs) : w ∈ (s.cleaned x y).inputs := by
  obtain ⟨hz, hzx, hzy⟩ := (cleaned_inputs_of_nodup hnodup).mp hz
  refine (cleaned_inputs_of_nodup hnodup).mpr ⟨htogether z w hzw hz, ?_, ?_⟩
  · rintro rfl
    exact hzy (hs.partner w z y hzw.symm hxy)
  · rintro rfl
    exact hzx (hs.partner w z x hzw.symm hxy.symm)

end Inputs

lemma Pairing.register {server : ℕ} (hs : Pairing s) (h : Joinable s client server) :
    Pairing (s.register client server) := by
  refine ⟨hs.sound.register h, mem_register_inputs.mpr (Or.inl hs.listening),
    hs.sound.register_nodup h hs.nodup, ?_, fun x y hxy hx => h.register_together hs.together hxy hx, ?_⟩
  · intro x hx
    rcases mem_register_inputs.mp hx with hx | rfl | rfl
    · exact hs.isOpen x hx
    · exact h.server_open
    · exact h.client_open
  · intro fd y hfd
    rcases eq_or_ne fd (s.fileno server) with rfl | hfs
    · exact ⟨server, mem_register_inputs.mpr (Or.inr (Or.inl rfl)), h.server_ne, rfl⟩
    rcases eq_or_ne fd (s.fileno client) with rfl | hfc
    · exact ⟨client, mem_register_inputs.mpr (Or.inr (Or.inr rfl)), h.client_ne, rfl⟩
    rw [register_forwardMap_of_ne hfc hfs] at hfd
    obtain ⟨x, hx, hxl, hfx⟩ := hs.keys fd y hfd
    exact ⟨x, mem_register_inputs.mpr (Or.inl hx), hxl, hfx⟩

lemma Pairing.cleaned (hs : Pairing s) (hxy : Pair s x y) (hx : s.fileno x ≠ -1)
    (hy : s.fileno y ≠ -1) : Pairing (s.cleaned x y) := by
  obtain ⟨-, hxl, hne⟩ := hs.sound.born x y hxy
  obtain ⟨-, hyl, -⟩ := hs.sound.born y x hxy.symm
  have hmem : ∀ z, z ∈ (s.cleaned x y).inputs ↔ z ∈ s.inputs ∧ z ≠ x ∧ z ≠ y :=
    fun z => cleaned_inputs_of_nodup hs.nodup
  refine ⟨hs.sound.cleaned hx hy, ?_, (hs.nodup.erase x).erase y, ?_,
    fun z w hzw hz => hs.sound.cleaned_together hxy hs.nodup hs.together hzw hz, ?_⟩
  · exact (hmem _).mpr ⟨hs.listening, hxl.symm, hyl.symm⟩
  · intro z hz
    obtain ⟨hz, hzx, hzy⟩ := (hmem z).mp hz
    rw [cleaned_fileno_of_ne hzx hzy]
    exact hs.isOpen z hz
  · intro fd w hfd
    rcases eq_or_ne fd (s.fileno y) with rfl | hfy
    · simp [TcServer.cleaned] at hfd
    rcases eq_or_ne fd (s.fileno x) with rfl | hfx
    · simp [TcServer.cleaned, Function.update_of_ne hfy] at hfd
    rw [cleaned_forwardMap_of_ne hfx hfy] at hfd
    obtain ⟨z, hz, hzl, rfl⟩ := hs.keys fd w hfd
    have hzx : z ≠ x := by
      rintro rfl
      exact hfx rfl
    have hzy : z ≠ y := by
      rintro rfl
      exact hfy rfl
    exact ⟨z, (hmem z).mpr ⟨hz, hzx, hzy⟩, hzl, cleaned_fileno_of_ne hzx hzy⟩

lemma Pairing.relayed {recv : RecvAnswer} {send : SendAnswer} (hs : Pairing s) (hxy : Pair s x y)
    (hx : s.fileno x ≠ -1) (hy : s.fileno y ≠ -1) (h : Relayed s x y recv send t) : Pairing t := by
  have ht := hs.sound.relayed hxy hx hy h
  cases h with
  | forwarded data n _ _ _ =>
    refine hs.of_tables ht rfl (fun _ _ => rfl) rfl fun u v huv => ?_
    rwa [pair_record_iff (by simp), pair_record_iff (by simp)] at huv
  | cleaned _ _ => exact hs.cleaned hxy hx hy

lemma pair_record_record_iff {e f : Event} (he : e.Plain) (hf : f.Plain) :
    Pair ((s.record e).record f) x y ↔ Pair s x y := by
  rw [pair_record_iff, pair_record_iff]
  · rintro u v rfl
    exact he
  · rintro u v rfl
    exact hf

lemma Pairing.outcome {tlv : TlvPacket} {a : Dial} {raised : Bool} (hs : Pairing s)
    (hlt : client < s.nextSock) (hclient : client ≠ listener) (hfree : Unpaired s client)
    (hlogger : a.logger = .starts) (h : TlvOutcome client tlv a s raised t) :
    Pairing t ∧ (raised = true → client ∉ t.inputs) := by
  have ht := hs.sound.outcome hlt hclient (fun _ _ => hfree) h
  have hnot := hs.sound.not_input hclient hfree
  have hold : ∀ fd x, x ∈ s.inputs → (s.opened fd).fileno x = s.fileno x :=
    fun fd x hx => opened_fileno_of_lt (hs.sound.input_lt hx)
  have hne : ∀ x ∈ s.inputs, x ≠ client ∧ x ≠ s.nextSock := by
    intro x hx
    have := hs.sound.input_lt hx
    refine ⟨?_, by omega⟩
    rintro rfl
    exact hnot hx
  cases h with
  | notMade => exact ⟨hs, fun _ => hnot⟩
  | noPort fd =>
    refine ⟨hs.of_tables ht rfl (fun x hx => ?_) rfl fun _ _ h => h, fun h => by cases h⟩
    obtain ⟨hxc, hxn⟩ := hne x hx
    rw [closed_fileno_of_ne hxn, closed_fileno_of_ne hxc]
    exact hold fd x hx
  | refused fd host port =>
    refine ⟨hs.of_tables ht rfl (fun x hx => ?_) rfl fun x y hxy => ?_, fun h => by cases h⟩
    · obtain ⟨hxc, hxn⟩ := hne x hx
      rw [closed_fileno_of_ne hxn, closed_fileno_of_ne hxc]
      exact hold fd x hx
    · exact (pair_record_iff (by simp)).mp hxy
  | noReply fd host port =>
    refine ⟨hs.of_tables ht rfl (fun x hx => ?_) rfl fun x y hxy => ?_, fun _ => hnot⟩
    · rw [closed_fileno_of_ne (hne x hx).2]
      exact hold fd x hx
    · exact (pair_record_iff (by simp)).mp hxy
  | paired fd host port n _ hopen _ _ hraised =>
    refine ⟨?_, fun h => (hraised.mp h hlogger).elim⟩
    have hjoin := hs.sound.joinable (e := .dialed host port)
      (f := .replied client (emptyConvert.take n)) hlt hclient hopen hfree trivial trivial
    have hu : Pairing (((s.opened fd).record (.dialed host port)).record
        (.replied client (emptyConvert.take n))) := by
      refine hs.of_tables ?_ rfl (hold fd) rfl fun x y hxy => ?_
      · exact ((hs.sound.opened fd).record (e := .dialed host port) trivial).record
          (e := .replied client (emptyConvert.take n)) trivial
      · exact (pair_record_record_iff (e := .dialed host port)
          (f := .replied client (emptyConvert.take n)) trivial trivial).mp hxy
    rw [hlogger] at ht ⊢
    exact (hu.register hjoin).of_tables ht rfl (fun _ _ => rfl) rfl fun _ _ h => h

end Keeps

section Message

variable {s t : TcServer} {client : ℕ} {tlvs : List TlvPacket} {dials : ℕ → Dial}

lemma handleTlvs_idle
    (h : ∀ tlv ∈ tlvs, convertTlvs tlv.hdr.type ≠ none ∧ convertTlvs tlv.hdr.type ≠ some .connect) :
    handleTlvs client tlvs dials s = .ok () s := by
  induction tlvs generalizing dials with
  | nil => rfl
  | cons tlv tlvs ih =>
    obtain ⟨hknown, hother⟩ := h tlv (by simp)
    obtain ⟨name, hname⟩ := Option.ne_none_iff_exists'.mp hknown
    rw [handleTlvs_other hname fun heq => hother (hname.trans (congrArg some heq))]
    exact ih fun u hu => h u (List.mem_cons_of_mem tlv hu)

lemma SingleConnect.outcome (h : SingleConnect tlvs) :
    ∃ tlv i, Outcome client tlv (dials i) s (handleTlvs client tlvs dials s) := by
  obtain ⟨hcount, hknown⟩ := h
  induction tlvs generalizing dials with
  | nil => cases hcount
  | cons tlv tlvs ih =>
    have htail : ∀ u ∈ tlvs, convertTlvs u.hdr.type ≠ none :=
      fun u hu => hknown u (List.mem_cons_of_mem tlv hu)
    by_cases hconnect : convertTlvs tlv.hdr.type = some .connect
    · have hnone : tlvs.countP (fun tlv => convertTlvs tlv.hdr.type = some .connect) = 0 := by
        rw [List.countP_cons_of_pos (by simpa using hconnect)] at hcount
        omega
      have hidle : ∀ u ∈ tlvs,
          convertTlvs u.hdr.type ≠ none ∧ convertTlvs u.hdr.type ≠ some .connect :=
        fun u hu => ⟨htail u hu, by simpa using List.countP_eq_zero.mp hnone u hu⟩
      refine ⟨tlv, 0, ?_⟩
      have hout : Outcome client tlv (dials 0) s (handleTlvConnect tlv client (dials 0) s) :=
        handleTlvConnect_outcome tlv
      rw [handleTlvs_connect hconnect]
      cases hres : handleTlvConnect tlv client (dials 0) s with
      | ok b u =>
        rw [hres] at hout
        rw [bind_of_ok hres, handleTlvs_idle hidle]
        exact hout
      | error e u =>
        rw [hres] at hout
        rw [bind_of_error hres]
        exact hout
    · rw [List.countP_cons_of_neg (by simpa using hconnect)] at hcount
      obtain ⟨name, hname⟩ := Option.ne_none_iff_exists'.mp (hknown tlv (by simp))
      rw [handleTlvs_other hname fun heq => hconnect (hname.trans (congrArg some heq))]
      obtain ⟨u, i, hi⟩ : ∃ u i, Outcome client u (dials (i + 1)) s
        (handleTlvs client tlvs (fun i => dials (i + 1)) s) := ih hcount htail
      exact ⟨u, i + 1, hi⟩

lemma Pairing.close_unregistered (hs : Pairing s) (hclient : client ∉ s.inputs) :
    Pairing (s.closed client) := by
  refine hs.of_tables (hs.sound.closed client) rfl (fun x hx => closed_fileno_of_ne ?_) rfl
    fun _ _ h => h
  rintro rfl
  exact hclient hx

lemma Pairing.acceptConnection {conn : Conn} {a : Unit} (hs : Pairing s)
    (hconn : FromClient (.accept conn)) (h : acceptConnection conn s = .ok a t) : Pairing t := by
  obtain ⟨success, v, hv, ht⟩ : ∃ success v, _ ∧ Server.acceptConnection conn s = _ :=
    acceptConnection_eq
  cases h.symm.trans ht
  have hu := hs.accepted conn.fd
  have hne : s.nextSock ≠ listener := Nat.ne_of_gt hs.sound.started
  have hlt : s.nextSock < (s.accepted conn.fd).nextSock := lt_accepted_nextSock conn.fd
  have hfree := hs.sound.accepted_unpaired conn.fd
  have hnot := hu.sound.not_input hne hfree
  cases hread : conn.read with
  | raised | nothing =>
    rw [hread] at hv
    cases hv
    exact hu.close_unregistered hnot
  | header convert =>
    rw [hread] at hv
    have hhandled := handleConnection_header hv
    obtain ⟨tlv, i, hout⟩ : ∃ tlv i, Outcome s.nextSock tlv (conn.dials i) (s.accepted conn.fd)
        (handleTlvs s.nextSock convert.tlvs conn.dials (s.accepted conn.fd)) :=
      (hconn.2 convert hread).outcome
    cases success with
    | true =>
      rw [show handleTlvs _ _ _ _ = _ from hhandled] at hout
      exact (hu.outcome hlt hne hfree (hconn.1 i) hout).1
    | false =>
      obtain ⟨e, he⟩ := hhandled
      rw [he] at hout
      obtain ⟨hv', hclient⟩ := hu.outcome hlt hne hfree (hconn.1 i) hout
      exact hv'.close_unregistered (hclient rfl)

end Message

lemma start_pairing (fd : ℕ) : Pairing (.start fd) := by
  refine ⟨start_sound fd, List.mem_singleton_self _, List.nodup_singleton _, ?_, ?_, ?_⟩
  · intro x hx
    rw [List.mem_singleton.mp hx, start_fileno_listener]
    omega
  · exact fun x y hxy => (start_unpaired fd x y hxy).elim
  · exact fun fd y h => by cases h

lemma reachable_pairing {scapy : Scapy} {s : TcServer} (h : Reachable scapy FromClient s) :
    Pairing s := by
  refine h.induction (K := Known) start_pairing (fun s ready hs hsel => hs.sound.known hsel)
    (fun s t ready other hs hk _ _ hserve => hk.mono (serveReady_log hserve)) ?_
  intro s t ready hs hk hallowed hserve
  cases ready with
  | accept conn => exact hs.acceptConnection hallowed hserve
  | serve sock recv send =>
    obtain ⟨partner, hpair⟩ := hk
    obtain ⟨hx, hy, hrelayed, -⟩ := hs.sound.readAndForward hpair hserve
    exact hs.relayed hpair hx hy hrelayed

section Traced

/-- What goes out was received right before, from the socket it is forwarded for. -/
def Traced (log : List Event) : Prop :=
  ∀ before after x y octets, log = before ++ .forwarded x y octets :: after →
    ∃ earlier data, before = earlier ++ [.received x data] ∧ octets <+: data

def Event.Forwards : Event → Prop
  | .forwarded _ _ _ => True
  | _ => False

variable {s t : TcServer} {client : ℕ} {log : List Event}

lemma Traced.snoc (h : Traced log) (e : Event)
    (he : ∀ x y octets, e = .forwarded x y octets → ∃ earlier data, log = earlier ++ [.received x data] ∧
      octets <+: data) : Traced (log ++ [e]) := by
  intro before after x y octets heq
  rcases List.eq_nil_or_concat after with rfl | ⟨rest, last, rfl⟩
  · obtain ⟨rfl, hlast⟩ := List.append_inj' heq rfl
    exact he x y octets (List.singleton_inj.mp hlast)
  · rw [List.concat_eq_append, ← List.cons_append, ← List.append_assoc] at heq
    exact h before rest x y octets (List.append_inj' heq rfl).1

lemma Traced.silent (h : Traced log) {e : Event} (he : ¬ e.Forwards) : Traced (log ++ [e]) :=
  h.snoc e fun _ _ _ heq => (he (heq ▸ trivial)).elim

lemma Traced.outcome {tlv : TlvPacket} {a : Dial} {raised : Bool} (hs : Traced s.log)
    (h : TlvOutcome client tlv a s raised t) : Traced t.log := by
  cases h with
  | notMade | noPort fd => exact hs
  | refused fd host port | noReply fd host port => exact hs.silent id
  | paired fd host port n _ _ _ _ _ =>
    rw [withLogger_log]
    exact ((hs.silent id).silent id).silent id

lemma Traced.steps (hs : Traced s.log) (h : Relation.ReflTransGen (TlvStep client) s t) : Traced t.log := by
  induction h with
  | refl => exact hs
  | tail _ hstep ih =>
    obtain ⟨tlv, a, raised, hout⟩ := hstep
    exact ih.outcome hout

lemma Traced.accepted {conn : Conn} {a : Unit} (hs : Traced s.log) (h : acceptConnection conn s = .ok a t) :
    Traced t.log := by
  obtain ⟨success, v, hv, ht⟩ : ∃ success v, _ ∧ acceptConnection conn s = _ := acceptConnection_eq
  have hstart : Traced (s.accepted conn.fd).log := by rwa [accepted_log]
  have hsteps := hstart.steps (handleConnection_steps hv)
  cases h.symm.trans ht
  split_ifs <;> exact hsteps

lemma Traced.relayed {x y : ℕ} {recv : RecvAnswer} {send : SendAnswer} (hs : Traced s.log)
    (h : Relayed s x y recv send t) : Traced t.log := by
  cases h with
  | forwarded data n _ _ _ =>
    refine (hs.silent (e := .received x data) id).snoc _ fun x' y' octets heq => ?_
    obtain ⟨rfl, rfl, rfl⟩ := Event.forwarded.inj heq
    exact ⟨s.log, data, rfl, List.take_prefix n data⟩
  | cleaned _ _ => exact hs

lemma reachable_traced {scapy : Scapy} {allowed : Ready → Prop} (h : Reachable scapy allowed s) :
    Traced s.log := by
  refine h.induction (I := fun s => Traced s.log) (K := fun _ _ => True) (fun fd => ?_) (fun _ _ _ _ => trivial)
    (fun _ _ _ _ _ _ _ _ _ => trivial) fun s t ready hs _ _ hserve => ?_
  · intro before after x y octets heq
    exact (List.append_ne_nil_of_right_ne_nil before (List.cons_ne_nil _ after) heq.symm).elim
  · cases ready with
    | accept conn => exact hs.accepted hserve
    | serve sock recv send =>
      obtain ⟨partner, -, -, -, hrelayed⟩ := readAndForward_eq_ok.mp hserve
      exact hs.relayed hrelayed

end Traced

structure TablesPaired (s : TcServer) : Prop where
  listening : s.inputs.count listener = 1
  once : ∀ x ∈ s.inputs, s.inputs.count x = 1 ∧ s.fileno x ≠ -1
  keys : ∀ fd, s.forwardMap fd ≠ none ↔ ∃ x ∈ s.inputs, x ≠ listener ∧ s.fileno x = fd
  partner : ∀ x ∈ s.inputs, x ≠ listener → ∃ y ∈ s.inputs, y ≠ listener ∧ y ≠ x ∧ Pair s x y ∧
    s.forwardMap (s.fileno x) = some y ∧ s.forwardMap (s.fileno y) = some x
  isolated : ∀ before after x y octets, s.log = before ++ .forwarded x y octets :: after →
    (∃ earlier data, before = earlier ++ [.received x data] ∧ octets <+: data) ∧
      Pair s x y ∧ ∀ z, Pair s x z → z = y

lemma Pairing.partnered {s : TcServer} {x : ℕ} (hs : Pairing s) (hx : x ∈ s.inputs)
    (hxl : x ≠ listener) : ∃ y ∈ s.inputs, y ≠ listener ∧ y ≠ x ∧ Pair s x y ∧
      s.forwardMap (s.fileno x) = some y ∧ s.forwardMap (s.fileno y) = some x := by
  obtain ⟨y, hxy⟩ := (hs.sound.inputs x hx).resolve_left hxl
  obtain ⟨-, hyl, hne⟩ := hs.sound.born y x hxy.symm
  have hy := hs.together x y hxy hx
  exact ⟨y, hy, hyl, hne, hxy, hs.sound.mapped x y hxy (hs.isOpen x hx),
    hs.sound.mapped y x hxy.symm (hs.isOpen y hy)⟩

theorem reachable_tablesPaired (scapy : Scapy) (s : TcServer) (h : Reachable scapy FromClient s) :
    TablesPaired s := by
  have hs := reachable_pairing h
  refine ⟨List.count_eq_one_of_mem hs.nodup hs.listening,
    fun x hx => ⟨List.count_eq_one_of_mem hs.nodup hx, hs.isOpen x hx⟩, fun fd => ⟨?_, ?_⟩,
    fun x hx hxl => hs.partnered hx hxl, fun before after x y octets hlog => ?_⟩
  · intro hfd
    obtain ⟨y, hy⟩ := Option.ne_none_iff_exists'.mp hfd
    exact hs.keys fd y hy
  · rintro ⟨x, hx, hxl, rfl⟩
    obtain ⟨y, -, -, -, -, hmap, -⟩ := hs.partnered hx hxl
    simp [hmap]
  · have hxy := hs.sound.forwarded x y octets (hlog ▸ List.mem_append_right before List.mem_cons_self)
    exact ⟨reachable_traced h before after x y octets hlog, hxy, fun z hxz => hs.sound.partner x z y hxz hxy⟩

def connectMessage : Bytes :=
  [1, 6, 0x22, 0x63, 0x0a, 5, 0x1f, 0x90] ++ (v4mapped 192 0 2 1).toList

def connectTlv : TlvPacket :=
  .connect ⟨⟨0xa, 5⟩, some 8080, some (strictScapy.inetNtop (v4mapped 192 0 2 1))⟩

def obliging : Dial := ⟨some .above, true, .accepts 4, .starts⟩

def connectConn : Conn := ⟨.above, .header ⟨1, 6, 0x2263, [connectTlv]⟩, fun _ => obliging⟩

lemma connectConn_read : ReadReturns strictScapy (.whole connectMessage) connectConn.read := ⟨2, rfl⟩

lemma relayTurns (n : ℕ) (allowed : Ready → Prop) (haccept : allowed (.accept connectConn))
    (hserve : allowed (.serve 1 (.octets [7, 8]) (.accepts n))) :
    ∃ s, Reachable strictScapy allowed s ∧ s.inputs = [listener, 2, 1] ∧ s.log =
      [.dialed (dottedQuad 192 0 2 1) 8080, .replied 1 emptyConvert, .registered 1 2,
        .received 1 [7, 8], .forwarded 1 2 ([7, 8].take n)] := by
  obtain ⟨s, hs, hinputs, hopen, hserved⟩ : ∃ s, LoopStep strictScapy allowed (.start 3) s ∧
      s.inputs = [listener, 2, 1] ∧ (∀ x ∈ s.inputs, s.fileno x ≠ -1) ∧
      ∃ t, serveReady (.serve 1 (.octets [7, 8]) (.accepts n)) s = .ok () t ∧
        t.inputs = [listener, 2, 1] ∧ t.log =
        [.dialed (dottedQuad 192 0 2 1) 8080, .replied 1 emptyConvert, .registered 1 2,
          .received 1 [7, 8], .forwarded 1 2 ([7, 8].take n)] := by
    refine ⟨_, ⟨by decide, [.accept connectConn], ?_, rfl⟩, rfl, by decide, _, rfl, rfl, rfl⟩
    intro ready hready
    obtain rfl := List.mem_singleton.mp hready
    exact ⟨⟨by decide, _, connectConn_read⟩, haccept⟩
  obtain ⟨t, hserved, hleft, hlog⟩ := hserved
  have hturn : LoopStep strictScapy allowed s t := by
    refine ⟨hopen, [.serve 1 (.octets [7, 8]) (.accepts n)], ?_, ?_⟩
    · intro ready hready
      obtain rfl := List.mem_singleton.mp hready
      exact ⟨⟨by simp [hinputs], by decide⟩, hserve⟩
    · exact serveBatch_cons_eq_ok.mpr ⟨t, hserved, rfl⟩
  exact ⟨t, ⟨3, .tail (.single hs) hturn⟩, hleft, hlog⟩

theorem reachable_tablesPaired_relay : ∃ t, Reachable strictScapy FromClient t ∧
    t.inputs = [listener, 2, 1] ∧ .forwarded 1 2 [7, 8] ∈ t.log ∧ TablesPaired t := by
  have haccept : FromClient (.accept connectConn) := by
    refine ⟨fun _ => rfl, fun convert hread => ?_⟩
    obtain rfl := ReadResult.header.inj hread
    exact ⟨by decide, by decide⟩
  obtain ⟨t, ht, hinputs, hlog⟩ := relayTurns 2 FromClient haccept trivial
  exact ⟨t, ht, hinputs, by simp [hlog], reachable_tablesPaired strictScapy t ht⟩

end TransportConverter.Server
