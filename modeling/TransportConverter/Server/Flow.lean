import TransportConverter.Server.Pairing

/-! The octets of a pair, in both directions, over whole runs. -/

namespace TransportConverter.Server

open Foundations.Memory Foundations.Effects

def sentOn (sock : ℕ) (log : List Event) : Bytes :=
  log.flatMap fun
    | .replied client octets => if client = sock then octets else []
    | .forwarded _ destination octets => if destination = sock then octets else []
    | _ => []

def receivedOn (sock : ℕ) (log : List Event) : Bytes :=
  log.flatMap fun
    | .received source octets => if source = sock then octets else []
    | _ => []

/-- The server got what the client sent, and the client the whole reply and what the server sent. -/
def Lossless (s : TcServer) : Prop :=
  ∀ client server, .registered client server ∈ s.log →
    sentOn server s.log = receivedOn client s.log ∧
      sentOn client s.log = emptyConvert ++ receivedOn server s.log

/-- How many servers a message gets its client. The first TLV that raises ends the message, and a dial that
fails closes the client, which then takes no further reply. -/
def pairings : List TlvPacket → (ℕ → Dial) → ℕ
  | [], _ => 0
  | tlv :: tlvs, dials =>
    match convertTlvs tlv.hdr.type with
    | none => 0
    | some .connect =>
      if (dials 0).Pairs tlv then
        1 + if (dials 0).logger = .starts then pairings tlvs (fun i => dials (i + 1)) else 0
      else 0
    | some _ => pairings tlvs (fun i => dials (i + 1))

/-- Every `send` takes all it is given, and no message gets its client two servers. -/
def Generous : Ready → Prop
  | .accept conn =>
    (∀ i n, (conn.dials i).reply = .accepts n → emptyConvert.length ≤ n) ∧
      ∀ convert, conn.read = .header convert → pairings convert.tlvs conn.dials ≤ 1
  | .serve _ recv send => ∀ data n, recv = .octets data → send = .accepts n → data.length ≤ n

structure Flowing (s : TcServer) : Prop where
  sound : Sound s
  lossless : Lossless s
  quiet : ∀ x, Unpaired s x → sentOn x s.log = [] ∧ receivedOn x s.log = []

section Log

variable {x : ℕ} {log : List Event} {e : Event}

def Event.Silent : Event → Prop
  | .dialed _ _ | .registered _ _ => True
  | _ => False

lemma sentOn_append (log log' : List Event) : sentOn x (log ++ log') = sentOn x log ++ sentOn x log' :=
  List.flatMap_append ..

lemma receivedOn_append (log log' : List Event) :
    receivedOn x (log ++ log') = receivedOn x log ++ receivedOn x log' := List.flatMap_append ..

lemma sentOn_silent (he : e.Silent) : sentOn x [e] = [] := by
  cases e with
  | dialed _ _ | registered _ _ => rfl
  | replied _ _ | received _ _ | forwarded _ _ _ => exact he.elim

lemma receivedOn_silent (he : e.Silent) : receivedOn x [e] = [] := by
  cases e with
  | dialed _ _ | registered _ _ => rfl
  | replied _ _ | received _ _ | forwarded _ _ _ => exact he.elim

end Log

section Keeps

variable {s t : TcServer} {x y client : ℕ} {tlv : TlvPacket} {a : Dial} {raised : Bool}

lemma Flowing.of_flows (hs : Flowing s) (ht : Sound t)
    (hreg : ∀ c v, .registered c v ∈ t.log ↔ .registered c v ∈ s.log)
    (hsent : ∀ x, sentOn x t.log = sentOn x s.log)
    (hreceived : ∀ x, receivedOn x t.log = receivedOn x s.log) : Flowing t := by
  refine ⟨ht, ?_, ?_⟩
  · intro c v hcv
    simp only [hsent, hreceived]
    exact hs.lossless c v ((hreg c v).mp hcv)
  · intro x hx
    simp only [hsent, hreceived]
    refine hs.quiet x fun y hxy => hx y ?_
    simpa only [Pair, hreg] using hxy

lemma Flowing.same_log (hs : Flowing s) (ht : Sound t) (hlog : t.log = s.log) : Flowing t :=
  hs.of_flows ht (by simp [hlog]) (by simp [hlog]) (by simp [hlog])

lemma Flowing.dialed (hs : Flowing s) (host : Text) (port : ℕ) (ht : Sound t)
    (hlog : t.log = s.log ++ [.dialed host port]) : Flowing t := by
  refine hs.of_flows ht (by simp [hlog]) (fun x => ?_) fun x => ?_
  · rw [hlog, sentOn_append, sentOn_silent (e := .dialed host port) trivial, List.append_nil]
  · rw [hlog, receivedOn_append, receivedOn_silent (e := .dialed host port) trivial, List.append_nil]

lemma Flowing.paired {server : ℕ} (hs : Flowing s) (host : Text) (port : ℕ) (ht : Sound t)
    (hclient : Unpaired s client) (hserver : Unpaired s server) (hne : client ≠ server)
    (hlog : t.log = s.log ++
      [.dialed host port, .replied client emptyConvert, .registered client server]) : Flowing t := by
  have hsent : ∀ x, sentOn x t.log =
      sentOn x s.log ++ if client = x then emptyConvert else [] := by
    intro x
    rw [hlog, sentOn_append]
    simp [sentOn]
  have hreceived : ∀ x, receivedOn x t.log = receivedOn x s.log := by
    intro x
    rw [hlog, receivedOn_append]
    simp [receivedOn]
  have hreg : ∀ c v, .registered c v ∈ t.log ↔
      .registered c v ∈ s.log ∨ (c = client ∧ v = server) := by
    intro c v
    simp [hlog]
  refine ⟨ht, ?_, ?_⟩
  · intro c v hcv
    simp only [hsent, hreceived]
    rcases (hreg c v).mp hcv with hcv | ⟨rfl, rfl⟩
    · have hc : client ≠ c := by
        rintro rfl
        exact hclient v (Or.inl hcv)
      have hv : client ≠ v := by
        rintro rfl
        exact hclient c (Or.inr hcv)
      simp only [if_neg hc, if_neg hv, List.append_nil]
      exact hs.lossless c v hcv
    · obtain ⟨hc, hc'⟩ := hs.quiet c hclient
      obtain ⟨hv, hv'⟩ := hs.quiet v hserver
      simp [hc, hc', hv, hv', hne]
  · intro x hx
    have hxc : client ≠ x := by
      rintro rfl
      exact hx server (Or.inl ((hreg _ _).mpr (Or.inr ⟨rfl, rfl⟩)))
    simp only [hsent, hreceived, if_neg hxc, List.append_nil]
    refine hs.quiet x fun y hxy => hx y ?_
    exact hxy.imp (fun h => (hreg _ _).mpr (Or.inl h)) fun h => (hreg _ _).mpr (Or.inl h)

lemma Flowing.forwarded (hs : Flowing s) (data : Bytes) (ht : Sound t) (hxy : Pair s x y)
    (hlog : t.log = s.log ++ [.received x data, .forwarded x y data]) : Flowing t := by
  have hne := (hs.sound.born x y hxy).2.2
  have hsent : ∀ z, sentOn z t.log = sentOn z s.log ++ if y = z then data else [] := by
    intro z
    rw [hlog, sentOn_append]
    simp [sentOn]
  have hreceived : ∀ z, receivedOn z t.log = receivedOn z s.log ++ if x = z then data else [] := by
    intro z
    rw [hlog, receivedOn_append]
    simp [receivedOn]
  have hreg : ∀ c v, .registered c v ∈ t.log ↔ .registered c v ∈ s.log := by
    intro c v
    simp [hlog]
  refine ⟨ht, ?_, ?_⟩
  · intro c v hcv
    have hcv := (hreg c v).mp hcv
    obtain ⟨hv, hc⟩ := hs.lossless c v hcv
    have hpair : Pair s c v := Or.inl hcv
    simp only [hsent, hreceived, hv, hc]
    rcases eq_or_ne x c with rfl | hxc
    · obtain rfl := hs.sound.partner x y v hxy hpair
      simp [hne, hne.symm]
    rcases eq_or_ne y c with rfl | hyc
    · obtain rfl := hs.sound.partner y x v hxy.symm hpair
      simp [hxc, hxc.symm]
    have hxv : x ≠ v := by
      rintro rfl
      exact hyc (hs.sound.partner x y c hxy hpair.symm)
    have hyv : y ≠ v := by
      rintro rfl
      exact hxc (hs.sound.partner y x c hxy.symm hpair.symm)
    simp [hxc, hyc, hxv, hyv]
  · intro z hz
    have hz' : Unpaired s z := fun w hzw => hz w (hzw.imp (hreg _ _).mpr (hreg _ _).mpr)
    have hxz : x ≠ z := by
      rintro rfl
      exact hz' y hxy
    have hyz : y ≠ z := by
      rintro rfl
      exact hz' x hxy.symm
    simp only [hsent, hreceived, if_neg hxz, if_neg hyz, List.append_nil]
    exact hs.quiet z hz'

lemma Flowing.outcome (hs : Flowing s) (hlt : client < s.nextSock) (hclient : client ≠ listener)
    (hfree : a.Pairs tlv → s.fileno client ≠ -1 → Unpaired s client)
    (hreply : ∀ n, a.reply = .accepts n → emptyConvert.length ≤ n)
    (h : TlvOutcome client tlv a s raised t) : Flowing t := by
  have ht := hs.sound.outcome hlt hclient hfree h
  cases h with
  | notMade => exact hs
  | noPort fd => exact hs.same_log ht rfl
  | refused fd host port | noReply fd host port => exact hs.dialed host port ht rfl
  | paired fd host port n hpairs hopen haccepts _ _ =>
    have hfree := hfree hpairs (by rwa [opened_fileno_of_lt hlt] at hopen)
    apply hs.paired host port ht hfree hs.sound.unborn_unpaired (Nat.ne_of_lt hlt)
    rw [withLogger_log, List.take_of_length_le (hreply n haccepts)]
    simp [TcServer.register, TcServer.record, TcServer.opened]

end Keeps

section Message

variable {s t : TcServer} {client : ℕ} {tlv : TlvPacket} {tlvs : List TlvPacket} {a : Dial}
  {dials : ℕ → Dial}

lemma pairings_connect (h : convertTlvs tlv.hdr.type = some .connect) :
    pairings (tlv :: tlvs) dials =
      if (dials 0).Pairs tlv then
        1 + if (dials 0).logger = .starts then pairings tlvs (fun i => dials (i + 1)) else 0
      else 0 := by
  rw [pairings, h]

lemma pairings_other {name : TlvName} (h : convertTlvs tlv.hdr.type = some name)
    (hname : name ≠ .connect) :
    pairings (tlv :: tlvs) dials = pairings tlvs (fun i => dials (i + 1)) := by
  rw [pairings, h]
  cases name with
  | connect => exact (hname rfl).elim
  | info | extended | supported | cookie | error => rfl

lemma TlvOutcome.closes (hlt : client < s.nextSock) (h : TlvOutcome client tlv a s false t) :
    t.fileno client = -1 ∨
      (a.Pairs tlv ∧ s.fileno client ≠ -1 ∧ a.logger = .starts) := by
  have hne : client ≠ s.nextSock := Nat.ne_of_lt hlt
  cases h with
  | noPort fd | refused fd host port =>
    rw [closed_fileno_of_ne hne]
    exact Or.inl closed_fileno_self
  | paired fd host port n hpairs hopen _ _ hraised =>
    rw [opened_fileno_of_lt hlt] at hopen
    exact Or.inr ⟨hpairs, hopen, by simpa using hraised⟩

lemma unpaired_of_pairings (htype : convertTlvs tlv.hdr.type = some .connect)
    (hfree : s.fileno client = -1 ∨ pairings (tlv :: tlvs) dials = 0 ∨
      (Unpaired s client ∧ pairings (tlv :: tlvs) dials ≤ 1))
    (hpairs : (dials 0).Pairs tlv) (hopen : s.fileno client ≠ -1) : Unpaired s client := by
  rw [pairings_connect htype, if_pos hpairs] at hfree
  rcases hfree with hclosed | hzero | ⟨hfree, -⟩
  · exact (hopen hclosed).elim
  · omega
  · exact hfree

lemma TlvOutcome.pairings_rest (htype : convertTlvs tlv.hdr.type = some .connect)
    (hlt : client < s.nextSock)
    (hfree : s.fileno client = -1 ∨ pairings (tlv :: tlvs) dials = 0 ∨
      (Unpaired s client ∧ pairings (tlv :: tlvs) dials ≤ 1))
    (h : TlvOutcome client tlv (dials 0) s false t) :
    t.fileno client = -1 ∨ pairings tlvs (fun i => dials (i + 1)) = 0 ∨
      (Unpaired t client ∧ pairings tlvs (fun i => dials (i + 1)) ≤ 1) := by
  rcases h.closes hlt with hclosed | ⟨hpairs, hopen, hstarts⟩
  · exact Or.inl hclosed
  · rw [pairings_connect htype, if_pos hpairs, if_pos hstarts] at hfree
    omega

lemma Flowing.handleTlvs (hs : Flowing s)
    (hlt : client < s.nextSock) (hclient : client ≠ listener)
    (hreply : ∀ i n, (dials i).reply = .accepts n → emptyConvert.length ≤ n)
    (hfree : s.fileno client = -1 ∨ pairings tlvs dials = 0 ∨
      (Unpaired s client ∧ pairings tlvs dials ≤ 1))
    (h : Leaves (handleTlvs client tlvs dials) s t) : Flowing t := by
  induction tlvs generalizing dials s with
  | nil =>
    rw [leaves_handleTlvs_nil h]
    exact hs
  | cons tlv tlvs ih =>
    have hout : Outcome client tlv (dials 0) s (handleTlvConnect tlv client (dials 0) s) :=
      handleTlvConnect_outcome tlv
    rcases leaves_handleTlvs_cons h with
      ⟨-, rfl⟩ | ⟨htype, hconnect⟩ | ⟨name, htype, hname, hrest⟩
    · exact hs
    · have hunpaired : (dials 0).Pairs tlv → s.fileno client ≠ -1 → Unpaired s client :=
        unpaired_of_pairings htype hfree
      rcases hconnect with ⟨_, h⟩ | ⟨u, h, hrest⟩
      · rw [h] at hout
        exact hs.outcome hlt hclient hunpaired (hreply 0) hout
      · rw [h] at hout
        have hu := hs.outcome hlt hclient hunpaired (hreply 0) hout
        have hnext := hout.pairings_rest htype hlt hfree
        exact ih hu (hlt.trans_le hout.nextSock_le) (fun i => hreply (i + 1)) hnext hrest
    · rw [pairings_other htype hname] at hfree
      exact ih hs hlt (fun i => hreply (i + 1)) hfree hrest

lemma Flowing.accepted (hs : Flowing s) (fd : FdChoice) : Flowing (s.accepted fd) :=
  hs.same_log (hs.sound.accepted fd) (accepted_log fd)

lemma Flowing.acceptConnection {conn : Conn} {a : Unit} (hs : Flowing s)
    (hconn : Generous (.accept conn)) (h : acceptConnection conn s = .ok a t) : Flowing t := by
  obtain ⟨success, v, hv, ht⟩ : ∃ success v, _ ∧ Server.acceptConnection conn s = _ :=
    acceptConnection_eq
  cases h.symm.trans ht
  have hu := hs.accepted conn.fd
  have hne : s.nextSock ≠ listener := Nat.ne_of_gt hs.sound.started
  have hlt : s.nextSock < (s.accepted conn.fd).nextSock := lt_accepted_nextSock conn.fd
  have hfree := hs.sound.accepted_unpaired conn.fd
  have hflow : Flowing v := by
    cases hread : conn.read with
    | raised | nothing =>
      rw [hread] at hv
      cases hv
      exact hu
    | header convert =>
      rw [hread] at hv
      exact hu.handleTlvs hlt hne hconn.1 (Or.inr (Or.inr ⟨hfree, hconn.2 convert hread⟩))
        (handleConnection_leaves hv)
  cases success with
  | true => exact hflow
  | false => exact hflow.same_log (hflow.sound.closed _) rfl

end Message

lemma start_flowing (fd : ℕ) : Flowing (.start fd) :=
  ⟨start_sound fd, fun _ _ h => (List.not_mem_nil h).elim, fun _ _ => ⟨rfl, rfl⟩⟩

lemma Flowing.relayed {s t : TcServer} {x y : ℕ} {recv : RecvAnswer} {send : SendAnswer}
    (hs : Flowing s) (hxy : Pair s x y) (hx : s.fileno x ≠ -1) (hy : s.fileno y ≠ -1)
    (hsend : Generous (.serve x recv send)) (h : Relayed s x y recv send t) : Flowing t := by
  have ht := hs.sound.relayed hxy hx hy h
  cases h with
  | forwarded data n _ hrecv haccepts =>
    apply hs.forwarded data ht hxy
    rw [List.take_of_length_le (hsend data n hrecv haccepts)]
    simp [TcServer.record]
  | cleaned _ _ => exact hs.same_log ht rfl

theorem reachable_lossless (scapy : Scapy) (s : TcServer) (h : Reachable scapy Generous s) :
    Lossless s := by
  have hflow : Flowing s := by
    refine h.induction (K := Known) start_flowing (fun s ready hs hsel => hs.sound.known hsel)
      (fun s t ready other hs hk _ _ hserve => hk.mono (serveReady_log hserve)) ?_
    intro s t ready hs hk hallowed hserve
    cases ready with
    | accept conn => exact hs.acceptConnection hallowed hserve
    | serve sock recv send =>
      obtain ⟨partner, hpair⟩ := hk
      obtain ⟨hx, hy, hrelayed, -⟩ := hs.sound.readAndForward hpair hserve
      exact hs.relayed hpair hx hy hallowed hrelayed
  exact hflow.lossless

lemma connectConn_replies (i n : ℕ) (h : (connectConn.dials i).reply = .accepts n) : emptyConvert.length ≤ n := by
  cases h
  exact le_rfl

lemma generous_serve {x n : ℕ} {data : Bytes} (h : data.length ≤ n) :
    Generous (.serve x (.octets data) (.accepts n)) := by
  intro data' n' hdata hn
  cases hdata
  cases hn
  exact h

theorem reachable_lossless_relay : ∃ s, Reachable strictScapy Generous s ∧ Lossless s ∧
    receivedOn 1 s.log = [7, 8] ∧ sentOn 2 s.log = [7, 8] ∧ sentOn 1 s.log = emptyConvert := by
  have haccept : Generous (.accept connectConn) := by
    refine ⟨connectConn_replies, fun convert hread => ?_⟩
    obtain rfl := ReadResult.header.inj hread
    decide
  obtain ⟨s, hs, -, hlog⟩ := relayTurns 2 Generous haccept (generous_serve le_rfl)
  refine ⟨s, hs, reachable_lossless strictScapy s hs, ?_⟩
  rw [hlog]
  exact ⟨rfl, rfl, rfl⟩

def Prefixes : Ready → Prop
  | .accept conn => ∀ i, ∃ n, (conn.dials i).reply = .accepts n ∧ 0 < n
  | .serve _ _ send => ∃ n, send = .accepts n ∧ 0 < n

theorem shortSend_loses : ¬ ∀ s, Reachable strictScapy Prefixes s → Lossless s := by
  intro h
  obtain ⟨s, hs, -, hlog⟩ : ∃ s, Reachable strictScapy Prefixes s ∧ _ ∧ _ :=
    relayTurns 1 Prefixes (fun _ => ⟨4, rfl, by decide⟩) ⟨1, rfl, by decide⟩
  have hlossless := (h s hs 1 2 (by simp [hlog])).1
  rw [hlog] at hlossless
  revert hlossless
  decide

end TransportConverter.Server
