import TransportConverter.Server.Relay

/-! Messages, batches and runs of the loop, and what every run keeps: the bookkeeping of the pairs. -/

namespace TransportConverter.Server

open Foundations.Memory Foundations.Effects

section Tlvs

variable {client : ℕ} {tlv : TlvPacket} {tlvs : List TlvPacket} {dials : ℕ → Dial} {s : TcServer}

lemma handleTlvs_unknown (h : convertTlvs tlv.hdr.type = none) :
    handleTlvs client (tlv :: tlvs) dials s = .error .keyError s := by
  simp only [handleTlvs, h]
  rfl

lemma handleTlvs_connect (h : convertTlvs tlv.hdr.type = some .connect) :
    handleTlvs client (tlv :: tlvs) dials s =
      (handleTlvConnect tlv client (dials 0) >>= fun _ =>
        handleTlvs client tlvs (fun i => dials (i + 1))) s := by
  simp only [handleTlvs, h]

lemma handleTlvs_other {name : TlvName} (h : convertTlvs tlv.hdr.type = some name)
    (hname : name ≠ .connect) :
    handleTlvs client (tlv :: tlvs) dials s =
      handleTlvs client tlvs (fun i => dials (i + 1)) s := by
  simp only [handleTlvs, h]

variable {t : TcServer}

lemma leaves_handleTlvs_nil (h : Leaves (handleTlvs client [] dials) s t) : t = s := by
  rcases h with ⟨_, h⟩ | ⟨_, h⟩
  · cases h
    rfl
  · cases h

lemma leaves_handleTlvs_cons (h : Leaves (handleTlvs client (tlv :: tlvs) dials) s t) :
    (convertTlvs tlv.hdr.type = none ∧ t = s) ∨
    (convertTlvs tlv.hdr.type = some .connect ∧
      ((∃ e, handleTlvConnect tlv client (dials 0) s = .error e t) ∨
        ∃ u, handleTlvConnect tlv client (dials 0) s = .ok () u ∧
          Leaves (handleTlvs client tlvs fun i => dials (i + 1)) u t)) ∨
    (∃ name, convertTlvs tlv.hdr.type = some name ∧ name ≠ .connect ∧
      Leaves (handleTlvs client tlvs fun i => dials (i + 1)) s t) := by
  cases htype : convertTlvs tlv.hdr.type with
  | none =>
    simp only [Leaves, handleTlvs_unknown htype, reduceCtorEq, exists_false, false_or] at h
    obtain ⟨_, h⟩ := h
    cases h
    exact Or.inl ⟨rfl, rfl⟩
  | some name =>
    right
    by_cases hname : name = .connect
    · subst hname
      rw [Leaves, handleTlvs_connect htype] at h
      refine Or.inl ⟨rfl, ?_⟩
      rcases leaves_bind h with hraised | ⟨_, u, hok, hrest⟩
      · exact Or.inl hraised
      · exact Or.inr ⟨u, hok, hrest⟩
    · rw [Leaves, handleTlvs_other htype hname] at h
      exact Or.inr ⟨name, rfl, hname, h⟩

end Tlvs

/-- The two sockets of one `handle_tlv_connect` call, from either side. -/
def Pair (s : TcServer) (x y : ℕ) : Prop :=
  .registered x y ∈ s.log ∨ .registered y x ∈ s.log

lemma Pair.symm {s : TcServer} {x y : ℕ} (h : Pair s x y) : Pair s y x := Or.symm h

def Unpaired (s : TcServer) (x : ℕ) : Prop := ∀ y, ¬ Pair s x y

structure Sound (s : TcServer) : Prop where
  started : listener < s.nextSock
  unborn : ∀ x, s.nextSock ≤ x → s.fileno x = -1
  valid : ∀ x, s.fileno x = -1 ∨ 0 ≤ s.fileno x
  distinct : ∀ x y, s.fileno x ≠ -1 → s.fileno x = s.fileno y → x = y
  born : ∀ x y, Pair s x y → x < s.nextSock ∧ x ≠ listener ∧ x ≠ y
  partner : ∀ x y z, Pair s x y → Pair s x z → y = z
  mapped : ∀ x y, Pair s x y → s.fileno x ≠ -1 → s.forwardMap (s.fileno x) = some y
  unmapped : s.forwardMap (-1) = none
  inputs : ∀ x ∈ s.inputs, x = listener ∨ ∃ y, Pair s x y
  forwarded : ∀ x y octets, .forwarded x y octets ∈ s.log → Pair s x y

section Sound

variable {s : TcServer} {x y : ℕ} {e : Event}

def Event.Plain : Event → Prop
  | .registered _ _ | .forwarded _ _ _ => False
  | _ => True

lemma pair_record_iff (he : ∀ x y, e ≠ .registered x y) : Pair (s.record e) x y ↔ Pair s x y := by
  simp only [Pair, TcServer.record, List.mem_append, List.mem_singleton]
  simp [(he x y).symm, (he y x).symm]

lemma Sound.recorded (hs : Sound s) (he : ∀ x y, e ≠ .registered x y)
    (hf : ∀ x y octets, e = .forwarded x y octets → Pair s x y) : Sound (s.record e) := by
  have hpair : ∀ x y, Pair (s.record e) x y ↔ Pair s x y := fun _ _ => pair_record_iff he
  refine ⟨hs.started, hs.unborn, hs.valid, hs.distinct, ?_, ?_, ?_, hs.unmapped, ?_, ?_⟩
  · simp only [hpair]
    exact hs.born
  · simp only [hpair]
    exact hs.partner
  · simp only [hpair]
    exact hs.mapped
  · simp only [hpair]
    exact hs.inputs
  · intro x y octets hmem
    rw [hpair]
    rcases List.mem_append.mp hmem with hmem | hmem
    · exact hs.forwarded x y octets hmem
    · exact hf x y octets (List.mem_singleton.mp hmem).symm

lemma Sound.record (hs : Sound s) (he : e.Plain) : Sound (s.record e) := by
  apply hs.recorded
  · rintro x y rfl
    exact he
  · rintro x y octets rfl
    exact he.elim

lemma Sound.record_forwarded (hs : Sound s) (hxy : Pair s x y) (octets : Bytes) :
    Sound (s.record (.forwarded x y octets)) := by
  apply hs.recorded (by simp)
  rintro u v octets' heq
  obtain ⟨rfl, rfl, -⟩ := Event.forwarded.inj heq
  exact hxy

lemma mem_filenos (hx : x < s.nextSock) : s.fileno x ∈ s.filenos :=
  List.mem_map_of_mem (List.mem_range.mpr hx)

lemma opened_fileno_of_lt {fd : FdChoice} (hx : x < s.nextSock) :
    (s.opened fd).fileno x = s.fileno x := Function.update_of_ne (by omega) _ _

lemma opened_fileno_self {fd : FdChoice} : (s.opened fd).fileno s.nextSock = fd.pick s.filenos :=
  Function.update_self ..

lemma opened_fileno_of_ne {fd : FdChoice} (hx : x ≠ s.nextSock) :
    (s.opened fd).fileno x = s.fileno x := Function.update_of_ne hx _ _

lemma opened_distinct (hunborn : ∀ x, s.nextSock ≤ x → s.fileno x = -1)
    (hdistinct : ∀ x y, s.fileno x ≠ -1 → s.fileno x = s.fileno y → x = y) (fd : FdChoice) (x y : ℕ)
    (hx : (s.opened fd).fileno x ≠ -1) (hxy : (s.opened fd).fileno x = (s.opened fd).fileno y) :
    x = y := by
  have hfresh : ∀ x, s.fileno x ≠ fd.pick s.filenos := by
    intro x heq
    rcases lt_or_ge x s.nextSock with hx | hx
    · exact fd.fresh s.filenos (heq ▸ mem_filenos hx)
    · have := fd.nonneg s.filenos
      rw [hunborn x hx] at heq
      omega
  rcases eq_or_ne x s.nextSock with rfl | hxn <;> rcases eq_or_ne y s.nextSock with rfl | hyn
  · rfl
  · rw [opened_fileno_self, opened_fileno_of_ne hyn] at hxy
    exact (hfresh y hxy.symm).elim
  · rw [opened_fileno_self, opened_fileno_of_ne hxn] at hxy
    exact (hfresh x hxy).elim
  · rw [opened_fileno_of_ne hxn] at hx hxy
    rw [opened_fileno_of_ne hyn] at hxy
    exact hdistinct x y hx hxy

lemma Sound.opened (hs : Sound s) (fd : FdChoice) : Sound (s.opened fd) := by
  refine ⟨Nat.lt_succ_of_lt hs.started, ?_, ?_, ?_, ?_, hs.partner, ?_, hs.unmapped, hs.inputs,
    hs.forwarded⟩
  · intro x hx
    have hx' : s.nextSock + 1 ≤ x := hx
    rw [opened_fileno_of_ne (by omega)]
    exact hs.unborn x (by omega)
  · intro x
    rcases eq_or_ne x s.nextSock with rfl | hx
    · rw [opened_fileno_self]
      exact Or.inr (fd.nonneg _)
    · rw [opened_fileno_of_ne hx]
      exact hs.valid x
  · exact opened_distinct hs.unborn hs.distinct fd
  · intro x y hxy
    obtain ⟨hx, hxl, hne⟩ := hs.born x y hxy
    exact ⟨Nat.lt_succ_of_lt hx, hxl, hne⟩
  · intro x y hxy hx
    have hlt := (hs.born x y hxy).1
    rw [opened_fileno_of_ne (by omega)] at hx ⊢
    exact hs.mapped x y hxy hx

lemma closed_fileno_of_ne (h : x ≠ y) : (s.closed y).fileno x = s.fileno x :=
  Function.update_of_ne h _ _

@[simp] lemma closed_fileno_self : (s.closed x).fileno x = -1 := Function.update_self ..

lemma closed_fileno_of_open (h : (s.closed y).fileno x ≠ -1) :
    x ≠ y ∧ (s.closed y).fileno x = s.fileno x := by
  have hne : x ≠ y := by
    rintro rfl
    exact h closed_fileno_self
  exact ⟨hne, closed_fileno_of_ne hne⟩

lemma Sound.closed (hs : Sound s) (y : ℕ) : Sound (s.closed y) := by
  refine ⟨hs.started, ?_, ?_, ?_, hs.born, hs.partner, ?_, hs.unmapped, hs.inputs, hs.forwarded⟩
  · intro x hx
    by_contra hopen
    obtain ⟨-, heq⟩ := closed_fileno_of_open hopen
    exact hopen (heq.trans (hs.unborn x hx))
  · intro x
    rcases eq_or_ne x y with rfl | hne
    · exact Or.inl closed_fileno_self
    · rw [closed_fileno_of_ne hne]
      exact hs.valid x
  · intro u v hu huv
    obtain ⟨-, hu'⟩ := closed_fileno_of_open hu
    obtain ⟨-, hv'⟩ := closed_fileno_of_open (show (s.closed y).fileno v ≠ -1 from huv ▸ hu)
    rw [hu', hv'] at huv
    exact hs.distinct u v (hu' ▸ hu) huv
  · intro u v huv hu
    obtain ⟨-, hu'⟩ := closed_fileno_of_open hu
    rw [hu'] at hu ⊢
    exact hs.mapped u v huv hu

lemma bindClient_cases (client : ℕ) :
    s.bindClient client = { s with clientSock := some client } ∨
      ∃ previous, previous ∉ s.inputs ∧
        s.bindClient client = { s.closed previous with clientSock := some client } := by
  unfold TcServer.bindClient
  cases s.clientSock with
  | none => exact Or.inl rfl
  | some previous =>
    dsimp only
    split_ifs with h
    · exact Or.inl rfl
    · exact Or.inr ⟨previous, h, rfl⟩

lemma Sound.rebound (hs : Sound s) (client : Option ℕ) : Sound { s with clientSock := client } :=
  ⟨hs.started, hs.unborn, hs.valid, hs.distinct, hs.born, hs.partner, hs.mapped, hs.unmapped,
    hs.inputs, hs.forwarded⟩

lemma Sound.bindClient (hs : Sound s) (client : ℕ) : Sound (s.bindClient client) := by
  rcases bindClient_cases client with h | ⟨previous, -, h⟩
  · rw [h]
    exact hs.rebound _
  · rw [h]
    exact (hs.closed previous).rebound _

lemma Sound.addLogger (hs : Sound s) (client : ℕ) (state : LoggerState) :
    Sound (s.addLogger client state) :=
  ⟨hs.started, hs.unborn, hs.valid, hs.distinct, hs.born, hs.partner, hs.mapped, hs.unmapped,
    hs.inputs, hs.forwarded⟩

lemma Sound.withLogger (hs : Sound s) (client : ℕ) (answer : LoggerAnswer) :
    Sound (s.withLogger client answer) := by
  cases answer with
  | initRaises => exact hs
  | runRaises | starts => exact hs.addLogger client _

structure Joinable (s : TcServer) (client server : ℕ) : Prop where
  client_lt : client < s.nextSock
  server_lt : server < s.nextSock
  client_ne : client ≠ listener
  server_ne : server ≠ listener
  ne : client ≠ server
  client_open : s.fileno client ≠ -1
  server_open : s.fileno server ≠ -1
  client_free : Unpaired s client
  server_free : Unpaired s server

lemma pair_register_iff {client server : ℕ} : Pair (s.register client server) x y ↔
    Pair s x y ∨ (x = client ∧ y = server) ∨ (x = server ∧ y = client) := by
  simp only [Pair, TcServer.register, List.mem_append, List.mem_singleton, Event.registered.injEq]
  tauto

lemma register_forwardMap_of_ne {client server : ℕ} {fd : ℤ} (hc : fd ≠ s.fileno client)
    (hv : fd ≠ s.fileno server) : (s.register client server).forwardMap fd = s.forwardMap fd := by
  simp [TcServer.register, Function.update_of_ne hc, Function.update_of_ne hv]

lemma register_forwardMap_server {client server : ℕ} :
    (s.register client server).forwardMap (s.fileno server) = some client :=
  Function.update_self ..

lemma register_forwardMap_client {client server : ℕ} (h : s.fileno client ≠ s.fileno server) :
    (s.register client server).forwardMap (s.fileno client) = some server :=
  (Function.update_of_ne h _ _).trans (Function.update_self ..)

lemma Sound.register {client server : ℕ} (hs : Sound s) (h : Joinable s client server) :
    Sound (s.register client server) := by
  have hne : s.fileno client ≠ s.fileno server :=
    fun heq => h.ne (hs.distinct client server h.client_open heq)
  have hfree : ∀ x y, Pair s x y → x ≠ client ∧ x ≠ server := by
    intro x y hxy
    refine ⟨?_, ?_⟩
    · rintro rfl
      exact h.client_free y hxy
    · rintro rfl
      exact h.server_free y hxy
  refine ⟨hs.started, hs.unborn, hs.valid, hs.distinct, ?_, ?_, ?_, ?_, ?_, ?_⟩
  · intro x y hxy
    rcases pair_register_iff.mp hxy with hxy | ⟨rfl, rfl⟩ | ⟨rfl, rfl⟩
    · exact hs.born x y hxy
    · exact ⟨h.client_lt, h.client_ne, h.ne⟩
    · exact ⟨h.server_lt, h.server_ne, h.ne.symm⟩
  · intro x y z hxy hxz
    rcases pair_register_iff.mp hxy with hold | ⟨rfl, rfl⟩ | ⟨rfl, rfl⟩ <;>
      rcases pair_register_iff.mp hxz with hold' | ⟨hx, rfl⟩ | ⟨hx, rfl⟩
    · exact hs.partner x y z hold hold'
    · exact ((hfree x y hold).1 hx).elim
    · exact ((hfree x y hold).2 hx).elim
    · exact ((hfree _ z hold').1 rfl).elim
    · rfl
    · exact (h.ne hx).elim
    · exact ((hfree _ z hold').2 rfl).elim
    · exact (h.ne hx.symm).elim
    · rfl
  · intro x y hxy hx
    rcases pair_register_iff.mp hxy with hxy | ⟨rfl, rfl⟩ | ⟨rfl, rfl⟩
    · obtain ⟨hxc, hxv⟩ := hfree x y hxy
      refine (register_forwardMap_of_ne ?_ ?_).trans (hs.mapped x y hxy hx)
      · exact fun heq => hxc (hs.distinct x client hx heq)
      · exact fun heq => hxv (hs.distinct x server hx heq)
    · exact register_forwardMap_client hne
    · exact register_forwardMap_server
  · exact (register_forwardMap_of_ne h.client_open.symm h.server_open.symm).trans hs.unmapped
  · intro x hx
    simp only [pair_register_iff]
    rcases List.mem_append.mp hx with hx | hx
    · exact (hs.inputs x hx).imp_right fun ⟨y, hxy⟩ => ⟨y, Or.inl hxy⟩
    · rcases List.mem_pair.mp hx with rfl | rfl
      · exact Or.inr ⟨client, Or.inr (Or.inr ⟨rfl, rfl⟩)⟩
      · exact Or.inr ⟨server, Or.inr (Or.inl ⟨rfl, rfl⟩)⟩
  · intro x y octets hmem
    rw [pair_register_iff]
    rcases List.mem_append.mp hmem with hmem | hmem
    · exact Or.inl (hs.forwarded x y octets hmem)
    · cases List.mem_singleton.mp hmem

lemma Sound.cleaned (hs : Sound s) (hx : s.fileno x ≠ -1)
    (hy : s.fileno y ≠ -1) : Sound (s.cleaned x y) := by
  refine ⟨hs.started, ?_, ?_, ?_, hs.born, hs.partner, ?_, ?_, ?_, hs.forwarded⟩
  · intro z hz
    by_contra hopen
    obtain ⟨-, -, heq⟩ := cleaned_open hopen
    exact hopen (heq.trans (hs.unborn z hz))
  · intro z
    by_cases hopen : (s.cleaned x y).fileno z = -1
    · exact Or.inl hopen
    · obtain ⟨-, -, heq⟩ := cleaned_open hopen
      rw [heq]
      exact hs.valid z
  · intro u v hu huv
    obtain ⟨-, -, hu'⟩ := cleaned_open hu
    obtain ⟨-, -, hv'⟩ := cleaned_open (show (s.cleaned x y).fileno v ≠ -1 from huv ▸ hu)
    exact hs.distinct u v (hu' ▸ hu) (hu'.symm.trans (huv.trans hv'))
  · intro z w hzw hz
    obtain ⟨hzx, hzy, heq⟩ := cleaned_open hz
    rw [heq] at hz ⊢
    refine (cleaned_forwardMap_of_ne ?_ ?_).trans (hs.mapped z w hzw hz)
    · exact fun h => hzx (hs.distinct z x hz h)
    · exact fun h => hzy (hs.distinct z y hz h)
  · exact (cleaned_forwardMap_of_ne hx.symm hy.symm).trans hs.unmapped
  · intro z hz
    exact hs.inputs z (List.mem_of_mem_erase (List.mem_of_mem_erase hz))

lemma Sound.relayed {recv : RecvAnswer} {send : SendAnswer} {t : TcServer} (hs : Sound s)
    (hxy : Pair s x y) (hx : s.fileno x ≠ -1) (hy : s.fileno y ≠ -1)
    (h : Relayed s x y recv send t) : Sound t := by
  cases h with
  | forwarded data n _ _ _ =>
    exact (hs.record (e := .received x data) trivial).record_forwarded ((pair_record_iff (by simp)).mpr hxy) _
  | cleaned _ _ => exact hs.cleaned hx hy

lemma Sound.readAndForward {recv : RecvAnswer} {send : SendAnswer} {t : TcServer} {a : Unit}
    (hs : Sound s) (hxy : Pair s x y) (h : readAndForward x recv send s = .ok a t) :
    s.fileno x ≠ -1 ∧ s.fileno y ≠ -1 ∧ Relayed s x y recv send t ∧ Sound t := by
  obtain ⟨partner, hmap, hx, hy, hrelayed⟩ := readAndForward_eq_ok.mp h
  obtain rfl : partner = y := Option.some.inj (hmap.symm.trans (hs.mapped x y hxy hx))
  exact ⟨hx, hy, hrelayed, hs.relayed hxy hx hy hrelayed⟩

lemma Sound.unborn_unpaired (hs : Sound s) : Unpaired s s.nextSock :=
  fun y hxy => Nat.lt_irrefl _ (hs.born _ y hxy).1

lemma Sound.joinable {client : ℕ} {fd : FdChoice} {f : Event} (hs : Sound s)
    (hlt : client < s.nextSock) (hclient : client ≠ listener)
    (hopen : (s.opened fd).fileno client ≠ -1) (hfree : Unpaired s client) (he : e.Plain)
    (hf : f.Plain) :
    Joinable (((s.opened fd).record e).record f) client s.nextSock := by
  have hpair : ∀ x y, Pair (((s.opened fd).record e).record f) x y ↔ Pair s x y := by
    intro x y
    rw [pair_record_iff, pair_record_iff]
    · exact Iff.rfl
    · rintro u v rfl
      exact he
    · rintro u v rfl
      exact hf
  have hstarted := hs.started
  have hnonneg := fd.nonneg s.filenos
  refine ⟨Nat.lt_succ_of_lt hlt, Nat.lt_succ_self _, hclient, by omega, by omega, hopen, ?_, ?_, ?_⟩
  · show (s.opened fd).fileno s.nextSock ≠ -1
    rw [opened_fileno_self]
    omega
  · exact fun y hy => hfree y ((hpair _ y).mp hy)
  · exact fun y hy => hs.unborn_unpaired y ((hpair _ y).mp hy)

lemma Sound.outcome {client : ℕ} {tlv : TlvPacket} {a : Dial} {raised : Bool} {t : TcServer}
    (hs : Sound s) (hlt : client < s.nextSock) (hclient : client ≠ listener)
    (hfree : a.Pairs tlv → s.fileno client ≠ -1 → Unpaired s client)
    (h : TlvOutcome client tlv a s raised t) : Sound t := by
  cases h with
  | notMade => exact hs
  | noPort fd => exact ((hs.opened fd).closed client).closed _
  | refused fd host port =>
    exact (((hs.opened fd).record (e := .dialed host port) trivial).closed client).closed _
  | noReply fd host port => exact ((hs.opened fd).record (e := .dialed host port) trivial).closed _
  | paired fd host port n hpairs hopen _ _ _ =>
    have hfree := hfree hpairs (by rwa [opened_fileno_of_lt hlt] at hopen)
    have hjoin := hs.joinable (e := .dialed host port) (f := .replied client (emptyConvert.take n))
      hlt hclient hopen hfree trivial trivial
    have hu : Sound (((s.opened fd).record (.dialed host port)).record
        (.replied client (emptyConvert.take n))) :=
      ((hs.opened fd).record (e := .dialed host port) trivial).record
        (e := .replied client (emptyConvert.take n)) trivial
    exact (hu.register hjoin).withLogger _ _

def TcServer.accepted (s : TcServer) (fd : FdChoice) : TcServer := (s.opened fd).bindClient s.nextSock

lemma Sound.accepted (hs : Sound s) (fd : FdChoice) : Sound (s.accepted fd) :=
  (hs.opened fd).bindClient _

end Sound

section Accept

variable {s t : TcServer} {fd : FdChoice} {conn : Conn} {client : ℕ}

lemma handleConnection_eq_ok (read : ReadResult) (dials : ℕ → Dial) (u : TcServer) :
    ∃ success v, handleConnection client read dials u = .ok success v := by
  unfold handleConnection
  cases read with
  | raised | nothing => exact ⟨false, u, rfl⟩
  | header convert =>
    cases h : handleTlvs client convert.tlvs dials u with
    | ok _ v => exact ⟨true, v, by simp only [h]⟩
    | error _ v => exact ⟨false, v, by simp only [h]⟩

lemma acceptConnection_eq : ∃ success v,
    handleConnection s.nextSock conn.read conn.dials (s.accepted conn.fd) = .ok success v ∧
      acceptConnection conn s = .ok () (if success then v else v.closed s.nextSock) := by
  obtain ⟨success, v, h⟩ : ∃ success v,
      handleConnection s.nextSock conn.read conn.dials (s.accepted conn.fd) = .ok success v :=
    handleConnection_eq_ok conn.read conn.dials (s.accepted conn.fd)
  have hopen : openSocket (some conn.fd) s = .ok s.nextSock (s.opened conn.fd) := rfl
  have hbind : (modify (·.bindClient s.nextSock) : Py Unit) (s.opened conn.fd) =
      .ok () (s.accepted conn.fd) := rfl
  refine ⟨success, v, h, ?_⟩
  rw [acceptConnection, bind_of_ok hopen, bind_of_ok hbind, bind_of_ok h]
  cases success <;> rfl

def TlvStep (client : ℕ) (s t : TcServer) : Prop := ∃ tlv a raised, TlvOutcome client tlv a s raised t

lemma handleTlvs_steps {tlvs : List TlvPacket} {dials : ℕ → Dial}
    (h : Leaves (handleTlvs client tlvs dials) s t) : Relation.ReflTransGen (TlvStep client) s t := by
  induction tlvs generalizing dials s with
  | nil => rw [leaves_handleTlvs_nil h]
  | cons tlv tlvs ih =>
    have hout : Outcome client tlv (dials 0) s (handleTlvConnect tlv client (dials 0) s) :=
      handleTlvConnect_outcome tlv
    rcases leaves_handleTlvs_cons h with
      ⟨-, rfl⟩ | ⟨-, ⟨_, h⟩ | ⟨u, h, hrest⟩⟩ | ⟨_, -, -, hrest⟩
    · exact .refl
    · rw [h] at hout
      exact .single ⟨_, _, _, hout⟩
    · rw [h] at hout
      exact .head ⟨_, _, _, hout⟩ (ih hrest)
    · exact ih hrest

lemma TlvOutcome.log {tlv : TlvPacket} {a : Dial} {raised : Bool}
    (h : TlvOutcome client tlv a s raised t) :
    s.log <+: t.log := by
  cases h with
  | notMade => exact List.prefix_rfl
  | noPort fd => exact List.prefix_rfl
  | refused fd host port | noReply fd host port => exact List.prefix_append _ _
  | paired fd host port n _ _ _ _ _ =>
    rw [withLogger_log]
    simp only [TcServer.register, TcServer.record, TcServer.opened, List.append_assoc]
    exact List.prefix_append _ _

lemma TlvOutcome.nextSock_le {tlv : TlvPacket} {a : Dial} {raised : Bool}
    (h : TlvOutcome client tlv a s raised t) :
    s.nextSock ≤ t.nextSock := by
  cases h with
  | notMade => exact le_rfl
  | noPort fd | refused fd host port | noReply fd host port => exact Nat.le_succ _
  | paired fd host port n _ _ _ _ _ =>
    rw [withLogger_nextSock]
    exact Nat.le_succ _

lemma TlvOutcome.closed {tlv : TlvPacket} {a : Dial} {raised : Bool} (hlt : client < s.nextSock)
    (hclosed : s.fileno client = -1) (h : TlvOutcome client tlv a s raised t) :
    t.fileno client = -1 := by
  have hne : client ≠ s.nextSock := Nat.ne_of_lt hlt
  cases h with
  | notMade => exact hclosed
  | noPort fd | refused fd host port =>
    rw [closed_fileno_of_ne hne]
    exact closed_fileno_self
  | noReply fd host port =>
    rw [closed_fileno_of_ne hne]
    exact (opened_fileno_of_lt hlt).trans hclosed
  | paired fd host port n _ hopen _ _ _ =>
    rw [opened_fileno_of_lt hlt] at hopen
    exact (hopen hclosed).elim

lemma bindClient_log : (s.bindClient client).log = s.log := by
  rcases bindClient_cases (s := s) client with h | ⟨_, -, h⟩
  · rw [h]
  · rw [h]
    rfl

lemma handleConnection_header {convert : Convert} {dials : ℕ → Dial} {success : Bool}
    (h : handleConnection client (.header convert) dials s = .ok success t) :
    if success then handleTlvs client convert.tlvs dials s = .ok () t
    else ∃ e, handleTlvs client convert.tlvs dials s = .error e t := by
  unfold handleConnection at h
  cases htlvs : handleTlvs client convert.tlvs dials s with
  | ok b w =>
    simp only [htlvs] at h
    cases h
    rfl
  | error e w =>
    simp only [htlvs] at h
    cases h
    exact ⟨e, rfl⟩

lemma handleConnection_leaves {convert : Convert} {dials : ℕ → Dial} {success : Bool}
    (h : handleConnection client (.header convert) dials s = .ok success t) :
    Leaves (handleTlvs client convert.tlvs dials) s t := by
  have hhandled := handleConnection_header h
  cases success with
  | true => exact Or.inl ⟨(), hhandled⟩
  | false => exact Or.inr hhandled

lemma handleConnection_steps {read : ReadResult} {dials : ℕ → Dial} {success : Bool}
    (h : handleConnection client read dials s = .ok success t) :
    Relation.ReflTransGen (TlvStep client) s t := by
  cases read with
  | raised | nothing =>
    cases h
    exact .refl
  | header convert => exact handleTlvs_steps (handleConnection_leaves h)

lemma tlvSteps_log (h : Relation.ReflTransGen (TlvStep client) s t) : s.log <+: t.log := by
  induction h with
  | refl => exact List.prefix_rfl
  | tail _ hstep ih =>
    obtain ⟨_, _, _, hout⟩ := hstep
    exact ih.trans hout.log

lemma tlvSteps_closed (h : Relation.ReflTransGen (TlvStep client) s t) (hlt : client < s.nextSock)
    (hclosed : s.fileno client = -1) : client < t.nextSock ∧ t.fileno client = -1 := by
  induction h with
  | refl => exact ⟨hlt, hclosed⟩
  | tail _ hstep ih =>
    obtain ⟨_, _, _, hout⟩ := hstep
    exact ⟨ih.1.trans_le hout.nextSock_le, hout.closed ih.1 ih.2⟩

lemma acceptConnection_log {a : Unit} (h : acceptConnection conn s = .ok a t) : s.log <+: t.log := by
  obtain ⟨success, v, hv, ht⟩ : ∃ success v, _ ∧ acceptConnection conn s = _ := acceptConnection_eq
  have hstart : (s.accepted conn.fd).log = s.log := bindClient_log
  have hlog := tlvSteps_log (handleConnection_steps hv)
  rw [hstart] at hlog
  cases h.symm.trans ht
  split_ifs <;> exact hlog

lemma accepted_nextSock (fd : FdChoice) : (s.accepted fd).nextSock = s.nextSock + 1 := by
  unfold TcServer.accepted
  rcases bindClient_cases (s := s.opened fd) s.nextSock with h | ⟨_, -, h⟩
  · rw [h]
    rfl
  · rw [h]
    rfl

lemma lt_accepted_nextSock (fd : FdChoice) : s.nextSock < (s.accepted fd).nextSock := by
  rw [accepted_nextSock]
  exact Nat.lt_succ_self _

lemma accepted_log (fd : FdChoice) : (s.accepted fd).log = s.log := bindClient_log

lemma Sound.accepted_unpaired (hs : Sound s) (fd : FdChoice) :
    Unpaired (s.accepted fd) s.nextSock := by
  intro y hxy
  rw [Pair, accepted_log] at hxy
  exact hs.unborn_unpaired y hxy

end Accept

lemma serveReady_log {ready : Ready} {s t : TcServer} {a : Unit}
    (h : serveReady ready s = .ok a t) : s.log <+: t.log := by
  cases ready with
  | accept conn => exact acceptConnection_log h
  | serve sock recv send =>
    obtain ⟨partner, -, -, -, hrelayed⟩ := readAndForward_eq_ok.mp h
    cases hrelayed with
    | forwarded data n _ _ _ =>
      simp only [TcServer.record, List.append_assoc]
      exact List.prefix_append _ _
    | cleaned _ _ => exact List.prefix_rfl

lemma Pair.mono {s t : TcServer} {x y : ℕ} (h : Pair s x y) (hlog : s.log <+: t.log) : Pair t x y :=
  h.imp (hlog.subset ·) (hlog.subset ·)

/-- What may become of a socket select reports, and the message behind an accepted connection. -/
def Selected (scapy : Scapy) (s : TcServer) : Ready → Prop
  | .accept conn => listener ∈ s.inputs ∧ ∃ sock, ReadReturns scapy sock conn.read
  | .serve sock _ _ => sock ∈ s.inputs ∧ sock ≠ listener

/-- One turn of `run_nonblocking`: select refuses closed sockets, and no exception escapes the batch. -/
structure LoopStep (scapy : Scapy) (allowed : Ready → Prop) (s t : TcServer) : Prop where
  isOpen : ∀ x ∈ s.inputs, s.fileno x ≠ -1
  batch : ∃ batch, (∀ ready ∈ batch, Selected scapy s ready ∧ allowed ready) ∧
    serveBatch batch s = .ok () t

def TcServer.start (fd : ℕ) : TcServer where
  nextSock := 1
  fileno := Function.update (fun _ => -1) listener fd
  inputs := [listener]
  forwardMap _ := none
  trackClientSockets _ := none
  perfLoggers _ := none
  nextLogger := 0
  loggers _ := .stopped
  clientSock := none
  log := []

lemma start_fileno_listener (fd : ℕ) : (TcServer.start fd).fileno listener = fd := by
  simp [TcServer.start]

lemma start_unpaired (fd : ℕ) (x : ℕ) : Unpaired (.start fd) x := by
  intro y
  simp [Pair, TcServer.start]

lemma start_sound (fd : ℕ) : Sound (.start fd) := by
  have hfileno : ∀ x, x ≠ listener → (TcServer.start fd).fileno x = -1 := by
    intro x hx
    simp [TcServer.start, Function.update_of_ne hx]
  have hopen : ∀ x, (TcServer.start fd).fileno x ≠ -1 → x = listener := by
    intro x hx
    by_contra hne
    exact hx (hfileno x hne)
  have hpair := start_unpaired fd
  refine ⟨Nat.one_pos, ?_, ?_, ?_, ?_, ?_, ?_, rfl, ?_, ?_⟩
  · intro x hx
    exact hfileno x (Nat.ne_of_gt hx)
  · intro x
    rcases eq_or_ne x listener with rfl | hx
    · rw [start_fileno_listener]
      exact Or.inr (Int.natCast_nonneg fd)
    · exact Or.inl (hfileno x hx)
  · intro x y hx hxy
    rw [hopen x hx, hopen y (hxy ▸ hx)]
  · exact fun x y hxy => (hpair x y hxy).elim
  · exact fun x y z hxy => (hpair x y hxy).elim
  · exact fun x y hxy => (hpair x y hxy).elim
  · exact fun x hx => Or.inl (List.mem_singleton.mp hx)
  · exact fun x y octets h => by cases h

def Reachable (scapy : Scapy) (allowed : Ready → Prop) (s : TcServer) : Prop :=
  ∃ fd, Relation.ReflTransGen (LoopStep scapy allowed) (TcServer.start fd) s

def Known (s : TcServer) : Ready → Prop
  | .accept _ => True
  | .serve sock _ _ => ∃ partner, Pair s sock partner

lemma Sound.known {scapy : Scapy} {s : TcServer} {ready : Ready} (hs : Sound s)
    (h : Selected scapy s ready) : Known s ready := by
  cases ready with
  | accept conn => trivial
  | serve sock recv send => exact (hs.inputs sock h.1).resolve_left h.2

lemma Known.mono {s t : TcServer} {ready : Ready} (h : Known s ready) (hlog : s.log <+: t.log) :
    Known t ready := by
  cases ready with
  | accept conn => trivial
  | serve sock recv send =>
    obtain ⟨partner, hpair⟩ := h
    exact ⟨partner, hpair.mono hlog⟩

lemma serveBatch_cons_eq_ok {ready : Ready} {batch : List Ready} {s t : TcServer} {a : Unit} :
    serveBatch (ready :: batch) s = .ok a t ↔
      ∃ u, serveReady ready s = .ok () u ∧ serveBatch batch u = .ok a t := by
  rw [serveBatch, bind_eq_ok]
  exact ⟨fun ⟨_, u, h⟩ => ⟨u, h⟩, fun ⟨u, h⟩ => ⟨(), u, h⟩⟩

-- An invariant of serving one socket is an invariant of whole runs. `K` is what is left, within the batch,
-- of what select promised about a socket.
section Induction

variable {scapy : Scapy} {allowed : Ready → Prop} {I : TcServer → Prop}
  {K : TcServer → Ready → Prop}

lemma serveBatch_keeps
    (hkeeps : ∀ s t ready other, I s → K s ready → K s other → allowed other →
      serveReady other s = .ok () t → K t ready)
    (hstep : ∀ s t ready, I s → K s ready → allowed ready → serveReady ready s = .ok () t → I t)
    {batch : List Ready} {s t : TcServer} (hs : I s)
    (hbatch : ∀ ready ∈ batch, K s ready ∧ allowed ready)
    (h : serveBatch batch s = .ok () t) : I t := by
  induction batch generalizing s with
  | nil =>
    cases h
    exact hs
  | cons other batch ih =>
    obtain ⟨u, hother, hrest⟩ := serveBatch_cons_eq_ok.mp h
    obtain ⟨hk, ha⟩ := hbatch other (by simp)
    refine ih (hstep s u other hs hk ha hother) (fun ready hready => ?_) hrest
    obtain ⟨hkr, har⟩ := hbatch ready (List.mem_cons_of_mem other hready)
    exact ⟨hkeeps s u ready other hs hkr hk ha hother, har⟩

lemma Reachable.induction (hstart : ∀ fd, I (.start fd))
    (hknown : ∀ s ready, I s → Selected scapy s ready → K s ready)
    (hkeeps : ∀ s t ready other, I s → K s ready → K s other → allowed other →
      serveReady other s = .ok () t → K t ready)
    (hstep : ∀ s t ready, I s → K s ready → allowed ready → serveReady ready s = .ok () t → I t)
    {s : TcServer} (h : Reachable scapy allowed s) : I s := by
  obtain ⟨fd, h⟩ := h
  induction h with
  | refl => exact hstart fd
  | tail _ hturn ih =>
    obtain ⟨-, batch, hbatch, hserve⟩ := hturn
    exact serveBatch_keeps hkeeps hstep ih
      (fun ready hready => ⟨hknown _ ready ih (hbatch ready hready).1, (hbatch ready hready).2⟩) hserve

end Induction

end TransportConverter.Server
