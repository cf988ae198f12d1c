import TransportConverter.Server.Messages

/-! What an accepted message makes of consistent tables. -/

namespace TransportConverter.Server

open Foundations.Memory Foundations.Effects

/-- Open sockets, listed once; `forward_map` is defined on their descriptors, and undoes itself. -/
structure Tables (s : TcServer) : Prop where
  isOpen : ∀ x ∈ s.inputs, x ≠ listener → s.fileno x ≠ -1
  once : ∀ x ∈ s.inputs, x ≠ listener → s.inputs.count x = 1
  keys : ∀ fd, s.forwardMap fd ≠ none ↔ ∃ x ∈ s.inputs, x ≠ listener ∧ s.fileno x = fd
  inverse : ∀ x ∈ s.inputs, x ≠ listener → ∃ y ∈ s.inputs, y ≠ listener ∧ Partners s x y

/-- What the kernel guarantees about descriptors. -/
structure Kernel (s : TcServer) : Prop where
  started : listener < s.nextSock
  unborn : ∀ x, s.nextSock ≤ x → s.fileno x = -1
  distinct : DistinctFds s

structure Fresh (s : TcServer) (client : ℕ) : Prop where
  ne : client ≠ listener
  unlisted : client ∉ s.inputs
  isOpen : s.fileno client ≠ -1

section Tables

variable {client server : ℕ} {tlv : TlvPacket} {tlvs : List TlvPacket} {dials : ℕ → Dial} {a : Dial}
  {s t : TcServer} {fd : FdChoice} {c : ConvertTlvConnect} {port n : ℕ}

lemma Kernel.lt (hk : Kernel s) {x : ℕ} (h : s.fileno x ≠ -1) : x < s.nextSock := by
  by_contra hge
  exact h (hk.unborn x (not_lt.mp hge))

lemma Tables.of_tables (hs : Tables s) (hin : t.inputs = s.inputs) (hm : t.forwardMap = s.forwardMap)
    (hf : ∀ x ∈ s.inputs, x ≠ listener → t.fileno x = s.fileno x) : Tables t := by
  refine ⟨?_, ?_, ?_, ?_⟩
  · intro x hx hxl
    rw [hin] at hx
    rw [hf x hx hxl]
    exact hs.isOpen x hx hxl
  · rw [hin]
    exact hs.once
  · intro key
    rw [hm, hs.keys, hin]
    constructor
    · rintro ⟨x, hx, hxl, rfl⟩
      exact ⟨x, hx, hxl, hf x hx hxl⟩
    · rintro ⟨x, hx, hxl, rfl⟩
      exact ⟨x, hx, hxl, (hf x hx hxl).symm⟩
  · intro x hx hxl
    rw [hin] at hx ⊢
    obtain ⟨y, hy, hyl, hpair⟩ := hs.inverse x hx hxl
    refine ⟨y, hy, hyl, ?_⟩
    rw [Partners, hm, hf x hx hxl, hf y hy hyl]
    exact hpair

lemma Tables.register (hs : Tables s) (hd : DistinctFds s) (hc : Fresh s client)
    (hv : Fresh s server) (hne : client ≠ server) : Tables (s.register client server) := by
  have hfds : s.fileno client ≠ s.fileno server :=
    fun heq => hne (hd client server hc.isOpen heq)
  have hmem : ∀ x, x ∈ (s.register client server).inputs ↔
      x ∈ s.inputs ∨ x = server ∨ x = client := by
    intro x
    simp [TcServer.register]
  have haway : ∀ x ∈ s.inputs, x ≠ listener →
      s.fileno x ≠ s.fileno client ∧ s.fileno x ≠ s.fileno server := by
    intro x hx hxl
    refine ⟨fun heq => hc.unlisted ?_, fun heq => hv.unlisted ?_⟩
    · exact hd x client (hs.isOpen x hx hxl) heq ▸ hx
    · exact hd x server (hs.isOpen x hx hxl) heq ▸ hx
  refine ⟨?_, ?_, ?_, ?_⟩
  · intro x hx hxl
    rcases (hmem x).mp hx with hx | rfl | rfl
    · exact hs.isOpen x hx hxl
    · exact hv.isOpen
    · exact hc.isOpen
  · intro x hx hxl
    have hcount : (s.register client server).inputs.count x =
        s.inputs.count x + [server, client].count x := List.count_append
    rw [hcount]
    rcases (hmem x).mp hx with hx | rfl | rfl
    · have hxc : client ≠ x := fun heq => hc.unlisted (heq ▸ hx)
      have hxv : server ≠ x := fun heq => hv.unlisted (heq ▸ hx)
      simp [hs.once x hx hxl, hxc, hxv]
    · simp [List.count_eq_zero.mpr hv.unlisted, hne]
    · simp [List.count_eq_zero.mpr hc.unlisted, hne.symm]
  · intro key
    rcases eq_or_ne key (s.fileno server) with rfl | hkv
    · refine iff_of_true ?_ ⟨server, (hmem _).mpr (Or.inr (Or.inl rfl)), hv.ne, rfl⟩
      rw [register_forwardMap_server]
      simp
    rcases eq_or_ne key (s.fileno client) with rfl | hkc
    · refine iff_of_true ?_ ⟨client, (hmem _).mpr (Or.inr (Or.inr rfl)), hc.ne, rfl⟩
      rw [register_forwardMap_client hfds]
      simp
    rw [register_forwardMap_of_ne hkc hkv, hs.keys]
    constructor
    · rintro ⟨x, hx, hxl, rfl⟩
      exact ⟨x, (hmem x).mpr (Or.inl hx), hxl, rfl⟩
    · rintro ⟨x, hx, hxl, rfl⟩
      rcases (hmem x).mp hx with hx | rfl | rfl
      · exact ⟨x, hx, hxl, rfl⟩
      · exact (hkv rfl).elim
      · exact (hkc rfl).elim
  · intro x hx hxl
    rcases (hmem x).mp hx with hx | rfl | rfl
    · obtain ⟨y, hy, hyl, hpair⟩ := hs.inverse x hx hxl
      obtain ⟨hxc, hxv⟩ := haway x hx hxl
      obtain ⟨hyc, hyv⟩ := haway y hy hyl
      exact ⟨y, (hmem y).mpr (Or.inl hy), hyl, (register_forwardMap_of_ne hxc hxv).trans hpair.1,
        (register_forwardMap_of_ne hyc hyv).trans hpair.2⟩
    · exact ⟨client, (hmem _).mpr (Or.inr (Or.inr rfl)), hc.ne, register_forwardMap_server,
        register_forwardMap_client hfds⟩
    · exact ⟨server, (hmem _).mpr (Or.inr (Or.inl rfl)), hv.ne, register_forwardMap_client hfds,
        register_forwardMap_server⟩

lemma Tables.paired (hs : Tables s) (hk : Kernel s) (hc : Fresh s client) (fd : FdChoice)
    (c : ConvertTlvConnect) (port n : ℕ) : Tables (s.paired fd c port client n) := by
  have hlt := hk.lt hc.isOpen
  have hborn : ∀ x ∈ s.inputs, x ≠ listener → x < s.nextSock :=
    fun x hx hxl => hk.lt (hs.isOpen x hx hxl)
  have hself : (s.opened fd).fileno s.nextSock = fd.pick s.filenos := opened_fileno_self
  have hnonneg := fd.nonneg s.filenos
  have hdialled : Tables ((s.dialling fd c port).record (.replied client (emptyConvert.take n))) :=
    hs.of_tables rfl rfl fun x hx hxl => opened_fileno_of_lt (hborn x hx hxl)
  refine hdialled.register (opened_distinct hk.unborn hk.distinct fd) ⟨hc.ne, hc.unlisted, ?_⟩ ⟨?_, ?_, ?_⟩
    (Nat.ne_of_lt hlt)
  · exact (opened_fileno_of_lt hlt).symm ▸ hc.isOpen
  · exact Nat.ne_of_gt hk.started
  · intro hx
    exact Nat.lt_irrefl _ (hborn _ hx (Nat.ne_of_gt hk.started))
  · intro hclosed
    have hopened : (s.opened fd).fileno s.nextSock = -1 := hclosed
    omega

lemma Tables.of_same (hs : Tables s) (hk : Kernel s) (hc : Fresh s client) (h : SameTables s t)
    (hsteps : Relation.ReflTransGen (TlvStep client) s t) : Tables t := by
  refine hs.of_tables h.inputs h.forwardMap fun x hx hxl => ?_
  have hne : x ≠ client := by
    rintro rfl
    exact hc.unlisted hx
  exact (tlvSteps_fileno hsteps (hk.lt (hs.isOpen x hx hxl)) hne).2

def Spoilt (client : ℕ) (s : TcServer) : Prop :=
  client ∈ s.inputs ∧ (s.fileno client = -1 ∨ 2 ≤ s.inputs.count client)

lemma Spoilt.not_tables (h : Spoilt client s) (hcl : client ≠ listener) : ¬ Tables s := by
  intro hs
  obtain ⟨hmem, hclosed | hcount⟩ := h
  · exact hs.isOpen client hmem hcl hclosed
  · rw [hs.once client hmem hcl] at hcount
    omega

lemma Spoilt.steps (h : Spoilt client s) (hlt : client < s.nextSock)
    (hsteps : Relation.ReflTransGen (TlvStep client) s t) : Spoilt client t := by
  have hinputs := tlvSteps_inputs hsteps
  obtain ⟨hmem, hbad⟩ := h
  refine ⟨hinputs.subset hmem, hbad.imp (fun hclosed => ?_) fun hcount => ?_⟩
  · exact (tlvSteps_closed hsteps hlt hclosed).2
  · exact hcount.trans (hinputs.sublist.count_le client)

lemma TlvOutcome.spoils (hlt : client < s.nextSock) (hmem : client ∈ s.inputs)
    (h : TlvOutcome client tlv a s false t) : Spoilt client t := by
  have hne : client ≠ s.nextSock := Nat.ne_of_lt hlt
  cases h with
  | noPort fd | refused fd host port =>
    refine ⟨hmem, Or.inl ?_⟩
    rw [closed_fileno_of_ne hne]
    exact closed_fileno_self
  | paired fd host port n _ _ _ _ _ =>
    rw [Spoilt, withLogger_inputs]
    refine ⟨List.mem_append_left _ hmem, Or.inr ?_⟩
    have hcount : 1 ≤ s.inputs.count client := List.count_pos_iff.mpr hmem
    have hpair : 1 ≤ [s.nextSock, client].count client := List.count_pos_iff.mpr (by simp)
    have happend : (s.inputs ++ [s.nextSock, client]).count client =
        s.inputs.count client + [s.nextSock, client].count client := List.count_append
    exact le_trans (by omega) happend.ge

lemma handleTlvs_spoils (hlt : client < s.nextSock) (hmem : client ∈ s.inputs)
    (hconnect : tlvs.countP IsConnect ≠ 0) (h : handleTlvs client tlvs dials s = .ok () t) :
    Spoilt client t := by
  induction tlvs generalizing dials s with
  | nil => exact (hconnect rfl).elim
  | cons tlv tlvs ih =>
    rcases leaves_handleTlvs_cons (Or.inl ⟨(), h⟩) with
      ⟨htype, -⟩ | ⟨htype, -⟩ | ⟨name, htype, hname, -⟩
    · rw [handleTlvs_unknown htype] at h
      cases h
    · rw [handleTlvs_connect htype] at h
      obtain ⟨_, u, hok, hrest⟩ := bind_eq_ok.mp h
      have hout : Outcome client tlv (dials 0) s (handleTlvConnect tlv client (dials 0) s) :=
        handleTlvConnect_outcome tlv
      rw [hok] at hout
      exact (hout.spoils hlt hmem).steps (hlt.trans_le hout.nextSock_le)
        (handleTlvs_steps (Or.inl ⟨(), hrest⟩))
    · rw [handleTlvs_other htype hname] at h
      rw [List.countP_cons_of_neg (by simp [IsConnect, htype, hname])] at hconnect
      exact ih hlt hmem hconnect h

lemma handleTlvs_no_connect (hnone : tlvs.countP IsConnect = 0)
    (h : handleTlvs client tlvs dials s = .ok () t) : t = s := by
  induction tlvs generalizing dials s with
  | nil =>
    cases h
    rfl
  | cons tlv tlvs ih =>
    rcases leaves_handleTlvs_cons (Or.inl ⟨(), h⟩) with
      ⟨htype, -⟩ | ⟨htype, -⟩ | ⟨name, htype, hname, -⟩
    · rw [handleTlvs_unknown htype] at h
      cases h
    · rw [List.countP_cons_of_pos (by simp [IsConnect, htype])] at hnone
      omega
    · rw [handleTlvs_other htype hname] at h
      rw [List.countP_cons_of_neg (by simp [IsConnect, htype, hname])] at hnone
      exact ih hnone h

lemma startLogger_ok {logger : LoggerAnswer} {b : Unit} (h : startLogger client logger s = .ok b t) :
    t = s.addLogger client .running := by
  cases logger with
  | initRaises | runRaises => cases h
  | starts =>
    cases h
    rfl

lemma tables_iff_of_pairing (hs : Tables s) (hk : Kernel s) (hc : Fresh s client)
    (hpairs : pairings tlvs dials ≠ 0) (h : handleTlvs client tlvs dials s = .ok () t) :
    Tables t ↔ tlvs.countP IsConnect = 1 := by
  have hlt := hk.lt hc.isOpen
  obtain ⟨fd, c, port, n, logger, rest, dials', heq, hcount⟩ := first_pairing hlt hc.isOpen hpairs
  rw [heq] at h
  obtain ⟨_, u, hlogger, hrest⟩ := bind_eq_ok.mp h
  obtain rfl := startLogger_ok hlogger
  have hu : Tables ((s.paired fd c port client n).addLogger client .running) :=
    (hs.paired hk hc fd c port n).of_tables rfl rfl fun _ _ _ => rfl
  have hmem : client ∈ ((s.paired fd c port client n).addLogger client .running).inputs :=
    List.mem_append_right _ (by simp)
  have hlt' : client < ((s.paired fd c port client n).addLogger client .running).nextSock :=
    Nat.lt_succ_of_lt hlt
  by_cases hnone : rest.countP IsConnect = 0
  · rw [handleTlvs_no_connect hnone hrest, hcount, hnone]
    exact iff_of_true hu rfl
  · refine iff_of_false ?_ (by omega)
    exact (handleTlvs_spoils hlt' hmem hnone hrest).not_tables hc.ne

end Tables

theorem accepted_tables_iff (s : TcServer) (client : ℕ) (convert : Convert) (dials : ℕ → Dial)
    (hs : Tables s) (hk : Kernel s) (hc : Fresh s client) :
    (∀ t, handleConnection client (.header convert) dials s = .ok true t → Tables t) ↔
      raises true convert.tlvs dials = true ∨ pairings convert.tlvs dials = 0 ∨
        convert.tlvs.countP IsConnect = 1 := by
  have hlt := hk.lt hc.isOpen
  constructor
  · intro h
    by_contra hnot
    simp only [not_or] at hnot
    obtain ⟨hraises, hpairs, hcount⟩ := hnot
    cases hres : handleTlvs client convert.tlvs dials s with
    | error e t => exact hraises ((handleTlvs_raises_open hlt hc.isOpen).mp ⟨e, t, hres⟩)
    | ok b t =>
      have htrue : handleConnection client (.header convert) dials s = .ok true t := by
        simp only [handleConnection, hres]
      exact hcount ((tables_iff_of_pairing hs hk hc hpairs hres).mp (h t htrue))
  · intro h t htrue
    have hok : handleTlvs client convert.tlvs dials s = .ok () t := handleConnection_header htrue
    by_cases hpairs : pairings convert.tlvs dials = 0
    · have hsame := sameTables_of_no_pairing hlt (Or.inr hpairs) (Or.inl ⟨(), hok⟩)
      exact hs.of_same hk hc hsame (handleTlvs_steps (Or.inl ⟨(), hok⟩))
    · apply (tables_iff_of_pairing hs hk hc hpairs hok).mpr
      rcases h with hraises | hzero | hcount
      · obtain ⟨e, u, herror⟩ := (handleTlvs_raises_open hlt hc.isOpen).mpr hraises
        rw [herror] at hok
        cases hok
      · exact (hpairs hzero).elim
      · exact hcount

lemma acceptedStart_fileno {x : ℕ} (h : 2 ≤ x) : acceptedStart.fileno x = -1 := by
  have h1 : x ≠ 1 := by omega
  have h0 : x ≠ listener := by
    rintro rfl
    exact absurd h (by decide)
  have haccepted : acceptedStart.fileno = ((TcServer.start 3).opened .above).fileno := rfl
  have hstart : (TcServer.start 3).fileno x = -1 := by simp [TcServer.start, Function.update_of_ne h0]
  rw [haccepted]
  exact (Function.update_of_ne h1 _ _).trans hstart

lemma acceptedStart_kernel : Kernel acceptedStart where
  started := by decide
  unborn x hx := acceptedStart_fileno hx
  distinct x y hx hxy := by
    have hsmall : ∀ x, acceptedStart.fileno x ≠ -1 → x = 0 ∨ x = 1 := by
      intro x hx
      by_contra hnot
      exact hx (acceptedStart_fileno (by omega))
    have h01 : acceptedStart.fileno 0 ≠ acceptedStart.fileno 1 := by decide
    rcases hsmall x hx with rfl | rfl <;> rcases hsmall y (hxy ▸ hx) with rfl | rfl
    · rfl
    · exact (h01 hxy).elim
    · exact (h01 hxy.symm).elim
    · rfl

lemma acceptedStart_tables : Tables acceptedStart := by
  have honly : ∀ x ∈ acceptedStart.inputs, x = listener := fun x hx => List.mem_singleton.mp hx
  refine ⟨fun x hx hxl => (hxl (honly x hx)).elim, fun x hx hxl => (hxl (honly x hx)).elim,
    fun fd => iff_of_false ?_ ?_, fun x hx hxl => (hxl (honly x hx)).elim⟩
  · exact fun h => h rfl
  · rintro ⟨x, hx, hxl, -⟩
    exact hxl (honly x hx)

lemma acceptedStart_fresh : Fresh acceptedStart 1 := ⟨by decide, by decide, by decide⟩

theorem accepted_tables_connect :
    ∃ t, handleConnection 1 connectConn.read (fun _ => obliging) acceptedStart = .ok true t ∧
      t.inputs = [listener, 2, 1] ∧ Tables t := by
  have hcond : raises true [connectTlv] (fun _ => obliging) = true ∨
      pairings [connectTlv] (fun _ => obliging) = 0 ∨ [connectTlv].countP IsConnect = 1 :=
    Or.inr (Or.inr (by decide))
  exact ⟨_, rfl, rfl, (accepted_tables_iff acceptedStart 1 ⟨1, 6, 0x2263, [connectTlv]⟩ _
    acceptedStart_tables acceptedStart_kernel acceptedStart_fresh).mpr hcond _ rfl⟩

/-- Two CONNECT TLVs: the client is listed twice, and mapped to the second server only. -/
theorem two_connects_listed_twice :
    ∃ t, handleConnection 1 (.header ⟨1, 11, 0x2263, [connectTlv, connectTlv]⟩) (fun _ => obliging)
        acceptedStart = .ok true t ∧
      Tables acceptedStart ∧ t.inputs = [listener, 2, 1, 3, 1] ∧ ¬ Tables t := by
  refine ⟨_, rfl, acceptedStart_tables, rfl, fun h => ?_⟩
  have honce := h.once 1 (by decide) (by decide)
  exact absurd honce (by decide)

end TransportConverter.Server
