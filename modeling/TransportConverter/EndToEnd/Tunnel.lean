import TransportConverter.Client.Fallback
import TransportConverter.Client.ReplyStream
import TransportConverter.EndToEnd.Redirect
import TransportConverter.Server.ReadStream

/-! The two programs together: one socket of the client library, the connection it opens to the server,
and a server that has any number of other connections. Every step of either side, and every octet on
the way between them, may come before or after any other. -/

namespace TransportConverter.EndToEnd.Tunnel

open Foundations.Memory Foundations.Effects Wire Codec Server
open Client (Library Answers Attempt KernelSocket Sockaddr connectOn redirectOpts redirectMessage readConvert
  originalRecv originalSend syscallRun syscallSkip received Waiting Passed ValidReply)

inductive Peer
  | nobody
  | converter
  | destination
  deriving DecidableEq

/-- `toServer` and `fromServer` are on their way; `sock` is the server's end of the connection. -/
structure World where
  lib : Library
  kernel : KernelSocket
  peer : Peer
  toServer : Bytes
  fromServer : Bytes
  handedOver : Bytes
  srv : TcServer
  sock : Option ℕ

inductive Move
  -- the intercepted `connect` up to its read, with what becomes of the attempts to connect to the
  -- converter and then to the destination, and what `send` answers
  | connect (addr : Sockaddr) (converter original : Attempt) (sent : ℤ)
  | settle (established : Bool)
  -- `_read_convert`, at the end of `connect` or ahead of `send` and `recv`
  | read (a : Answers)
  | send (a : Answers) (octets : Bytes)
  | recv (a : Answers) (len : ℕ) (peek : Bool)
  | deliver (octets : Bytes)
  | answer (octets : Bytes)
  -- the turn of the server that accepts this connection, and any other one
  | accept (conn : Conn) (pieces : Incoming)
  | turn (ready : Ready)

namespace World

variable (w : World)

def Ended : Prop := (∃ c, w.sock = some c ∧ w.srv.fileno c = -1) ∧ w.fromServer = []

structure Linked : Prop where
  kernel : w.kernel = .connected
  peer : w.peer = .converter

def linked (peer : Peer) (kernel : KernelSocket) : World :=
  { w with kernel, peer := if w.kernel = .unconnected ∧ kernel ≠ .unconnected then peer else w.peer }

end World

def arrive (lib : Library) (fd : ℤ) (octets : Bytes) : Library :=
  { lib with inbox := Function.update lib.inbox fd (lib.inbox fd ++ octets) }

def World.arrived (w : World) (fd : ℤ) : Library := arrive w.lib fd w.fromServer

def newlySent (sock : Option ℕ) (s t : TcServer) : Bytes :=
  match sock with
  | none => []
  | some c => (sentOn c t.log).drop (sentOn c s.log).length

/-- The octets a turn of the server reads from this connection come off the wire. -/
def Reads (sock : Option ℕ) (ready : Ready) (wire rest : Bytes) : Prop :=
  match ready with
  | .serve x (.octets data) _ => if sock = some x then wire = data ++ rest else rest = wire
  | _ => rest = wire

def From (pieces : Incoming) (wire : Bytes) : Prop :=
  ∀ head, pieces.header = some head → Piece wire convertHeaderLength head ∧
    ∀ n tail, pieces.rest n = some tail → Piece (wire.drop head.length) n tail

def leftBehind (pieces : Incoming) (wire : Bytes) : Bytes :=
  match pieces.header with
  | none => wire
  | some head =>
    if head.length ≠ convertHeaderLength then wire.drop head.length
    else
      match pieces.rest ((wire.getD 1 0).toNat * 4) with
      | none => wire.drop head.length
      | some tail => wire.drop (head.length + tail.length)

/-- A read that waits returns all it asked for, unless the stream ends before. -/
def Waited (fd : ℤ) (a : Answers) (w : World) : Prop :=
  (a.header = .all → sizeofConvertHeader ≤ (w.lib.inbox fd).length ∨ w.Ended) ∧
    (a.area = .all → ∀ length,
      convertParseHeader ((w.lib.inbox fd).take sizeofConvertHeader) = some length →
        sizeofConvertHeader + length ≤ (w.lib.inbox fd).length ∨ w.Ended)

inductive Step (scapy : Scapy) (cookie : Option Block) (fd : ℤ) : Move → World → World → Prop
  | redirect {w : World} {addr : Sockaddr} {converter original : Attempt} {sent : ℤ} {lib : Library}
      {kernel : KernelSocket} {message : Bytes}
      (h : connectOn cookie converter sent fd addr w.lib w.kernel = .reads lib kernel)
      (hmessage : lib = w.lib.record (.redirected fd message)) (hsent : sent ≤ message.length) :
      Step scapy cookie fd (.connect addr converter original sent) w
        { w.linked .converter kernel with lib, toServer := w.toServer ++ message.take sent.toNat }
  | refuse {w : World} {addr : Sockaddr} {converter original : Attempt} {sent : ℤ} {lib : Library}
      {kernel : KernelSocket}
      (h : connectOn cookie converter sent fd addr w.lib w.kernel = .refuses lib kernel) :
      Step scapy cookie fd (.connect addr converter original sent) w
        { w.linked .converter kernel with lib }
  | fallBack {w : World} {addr : Sockaddr} {converter original : Attempt} {sent : ℤ} {lib : Library}
      {kernel : KernelSocket}
      (h : connectOn cookie converter sent fd addr w.lib w.kernel = .fallsBack lib kernel) :
      Step scapy cookie fd (.connect addr converter original sent) w
        { (w.linked .converter kernel).linked .destination (kernel.connect original).socket with
          lib := lib.record (.connect fd) }
  | direct {w : World} {addr : Sockaddr} {converter original : Attempt} {sent : ℤ}
      (h : connectOn cookie converter sent fd addr w.lib w.kernel = .untracked) :
      Step scapy cookie fd (.connect addr converter original sent) w
        { w.linked .destination (w.kernel.connect original).socket with lib := w.lib.record (.connect fd) }
  | established {w : World} (hpending : w.kernel = .pending) :
      Step scapy cookie fd (.settle true) w { w with kernel := .connected }
  | givenUp {w : World} (hpending : w.kernel = .pending) :
      Step scapy cookie fd (.settle false) w { w with kernel := .unconnected, peer := .nobody }
  | read {w : World} {a : Answers} {fuel : ℕ} {result : ℤ} {lib : Library}
      (htracked : w.lib.htable.lookup fd = some true) (hthere : Waited fd a w)
      (h : readConvert a fuel false fd w.lib = some (.returns result lib)) :
      Step scapy cookie fd (.read a) w { w with lib }
  -- `send` answers with what the kernel has taken
  | send {w : World} {a : Answers} {octets : Bytes} {result : ℤ} {lib : Library}
      (huntracked : w.lib.htable.lookup fd = some false) (hconnected : 0 < result → w.kernel = .connected)
      (hresult : result ≤ octets.length) (h : originalSend a fd w.lib = .returns result lib) :
      Step scapy cookie fd (.send a octets) w
        { w with
          lib
          toServer := w.toServer ++ if w.peer = .converter then octets.take result.toNat else []
          handedOver := w.handedOver ++ octets.take result.toNat }
  | recv {w : World} {a : Answers} {len : ℕ} {peek : Bool} {result : ℤ} {lib : Library}
      (huntracked : w.lib.htable.lookup fd = some false)
      (h : originalRecv a fd len peek w.lib = .returns result lib) :
      Step scapy cookie fd (.recv a len peek) w { w with lib }
  | deliver {w : World} {octets rest : Bytes} (h : w.fromServer = octets ++ rest) :
      Step scapy cookie fd (.deliver octets) w { w with lib := arrive w.lib fd octets, fromServer := rest }
  -- the destination itself, on a connection that does not go through the server
  | answer {w : World} {octets : Bytes} (hkernel : w.kernel = .connected) (hpeer : w.peer = .destination) :
      Step scapy cookie fd (.answer octets) w { w with lib := arrive w.lib fd octets }
  | accept {w : World} {conn : Conn} {pieces : Incoming} {srv : TcServer} (hlinked : w.Linked)
      (hnew : w.sock = none) (hthere : w.toServer ≠ []) (hpieces : From pieces w.toServer)
      (hread : ReadReturns scapy pieces conn.read) (h : serveReady (.accept conn) w.srv = .ok () srv) :
      Step scapy cookie fd (.accept conn pieces) w
        { w with
          toServer := leftBehind pieces w.toServer
          fromServer := w.fromServer ++ newlySent (some w.srv.nextSock) w.srv srv
          srv, sock := some w.srv.nextSock }
  | turn {w : World} {ready : Ready} {rest : Bytes} {srv : TcServer} (hknown : Known w.srv ready)
      (hreads : Reads w.sock ready w.toServer rest) (h : serveReady ready w.srv = .ok () srv) :
      Step scapy cookie fd (.turn ready) w
        { w with fromServer := w.fromServer ++ newlySent w.sock w.srv srv, toServer := rest, srv }

structure Settled (fd : ℤ) (w : World) : Prop where
  copies : w.lib.htable.copies fd ≤ 1
  pending : w.kernel = .pending → w.lib.htable.copies fd = 0

/-- One `connect` reaches the converter and hands the whole message over, and there is no other before the
reply is read. -/
def RedirectsWhole (cookie : Option Block) (addr : Sockaddr) (converter : Attempt) (sent : ℤ) (w : World) :
    Prop :=
  w.kernel = .unconnected ∧ converter = .established ∧
    ∃ remoteAddr, addr.remoteAddr = some remoteAddr ∧ (redirectOpts cookie remoteAddr).need ≤ 1024 ∧
      sent = (redirectOpts cookie remoteAddr).need

/-- Nothing goes half-way: the message goes out and is read in one piece, what the server sends is taken
whole, no message gets its client two servers, and no read of a reply is cut short. -/
def Smooth (cookie : Option Block) (fd : ℤ) : Move → World → Prop
  | .connect addr converter _ sent, w =>
    w.lib.htable.lookup fd = some true → RedirectsWhole cookie addr converter sent w
  | .read a, _ => a.Waits
  | .accept conn pieces, w =>
    pieces = .whole w.toServer ∧ ∀ i n, (conn.dials i).reply = .accepts n → emptyConvert.length ≤ n
  | .turn ready, _ => Generous ready
  | .settle _, _ | .send _ _, _ | .recv _ _ _, _ | .deliver _, _ | .answer _, _ => True

def SmoothRun (scapy : Scapy) (cookie : Option Block) (fd : ℤ) : World → World → Prop :=
  Relation.ReflTransGen fun w v => ∃ move, Smooth cookie fd move w ∧ Step scapy cookie fd move w v

structure Starts (fd : ℤ) (w : World) : Prop where
  copies : w.lib.htable.copies fd = 1
  inbox : w.lib.inbox fd = []
  received : received fd w.lib.log = []
  kernel : w.kernel = .unconnected
  toServer : w.toServer = []
  fromServer : w.fromServer = []
  handedOver : w.handedOver = []
  srv : ∃ listening, w.srv = .start listening
  sock : w.sock = none

section Server

variable {s t u : TcServer} {x y c v client : ℕ} {conn : Conn} {ready : Ready}

structure Handled (client : ℕ) (s t : TcServer) : Prop where
  nextSock : s.nextSock ≤ t.nextSock
  received : ∀ x, receivedOn x t.log = receivedOn x s.log
  sent : ∀ x, x ≠ client → sentOn x t.log = sentOn x s.log
  registered : ∀ x y, .registered x y ∈ t.log →
    .registered x y ∈ s.log ∨ (x = client ∧ s.nextSock ≤ y)

lemma Handled.same (hlog : t.log = s.log) (hnext : s.nextSock ≤ t.nextSock) : Handled client s t := by
  refine ⟨hnext, fun x => ?_, fun x _ => ?_, fun x y hxy => ?_⟩
  · rw [hlog]
  · rw [hlog]
  · rw [hlog] at hxy
    exact Or.inl hxy

lemma Handled.trans (h : Handled client s t) (h' : Handled client t u) : Handled client s u := by
  refine ⟨h.nextSock.trans h'.nextSock, fun x => ?_, fun x hx => ?_, fun x y hxy => ?_⟩
  · rw [h'.received, h.received]
  · rw [h'.sent x hx, h.sent x hx]
  · rcases h'.registered x y hxy with hxy | ⟨hx, hy⟩
    · exact h.registered x y hxy
    · exact Or.inr ⟨hx, h.nextSock.trans hy⟩

lemma tlvStep_handled (h : TlvStep client s t) : Handled client s t := by
  obtain ⟨tlv, a, raised, h⟩ := h
  have hnext := h.nextSock_le
  cases h with
  | notMade | noPort fd => exact .same rfl hnext
  | refused fd host port | noReply fd host port =>
    refine ⟨hnext, fun x => ?_, fun x _ => ?_, fun x y hxy => Or.inl ?_⟩
    · exact (receivedOn_append _ _).trans (List.append_nil _)
    · exact (sentOn_append _ _).trans (List.append_nil _)
    · simpa [TcServer.closed, TcServer.record, TcServer.opened] using hxy
  | paired fd host port n _ _ _ _ _ =>
    refine ⟨hnext, fun x => ?_, fun x hx => ?_, fun x y hxy => ?_⟩
    · rw [withLogger_log]
      simp [TcServer.register, TcServer.record, TcServer.opened, receivedOn]
    · rw [withLogger_log]
      simp [TcServer.register, TcServer.record, TcServer.opened, sentOn, hx.symm]
    · rw [withLogger_log] at hxy
      have hcases : .registered x y ∈ s.log ∨ (x = client ∧ y = s.nextSock) := by
        simpa [TcServer.register, TcServer.record, TcServer.opened] using hxy
      exact hcases.imp_right fun h => ⟨h.1, h.2.ge⟩

lemma tlvSteps_handled (h : Relation.ReflTransGen (TlvStep client) s t) : Handled client s t := by
  induction h with
  | refl => exact .same rfl le_rfl
  | tail _ hstep ih => exact ih.trans (tlvStep_handled hstep)

lemma acceptConnection_handled (h : serveReady (.accept conn) s = .ok () t) : Handled s.nextSock s t := by
  obtain ⟨success, v, hv, ht⟩ : ∃ success v, _ ∧ acceptConnection conn s = _ := acceptConnection_eq
  have hstart : Handled s.nextSock s (s.accepted conn.fd) :=
    .same (accepted_log conn.fd) (lt_accepted_nextSock conn.fd).le
  have hall := hstart.trans (tlvSteps_handled (handleConnection_steps hv))
  have hend : t = if success then v else v.closed s.nextSock :=
    (EStateM.Result.ok.inj (h.symm.trans ht)).2
  rw [hend]
  cases success with
  | true => exact hall
  | false => exact hall.trans (.same rfl le_rfl)

lemma acceptConnection_nextSock (h : serveReady (.accept conn) s = .ok () t) : s.nextSock < t.nextSock := by
  obtain ⟨success, v, hv, ht⟩ : ∃ success v, _ ∧ acceptConnection conn s = _ := acceptConnection_eq
  have hend : t = if success then v else v.closed s.nextSock :=
    (EStateM.Result.ok.inj (h.symm.trans ht)).2
  have hlater : s.nextSock < v.nextSock :=
    (lt_accepted_nextSock conn.fd).trans_le (tlvSteps_handled (handleConnection_steps hv)).nextSock
  rw [hend]
  cases success with
  | true => exact hlater
  | false => exact hlater

def taken (x : ℕ) : Ready → Bytes
  | .serve y (.octets data) _ => if y = x then data else []
  | _ => []

lemma serveReady_received (h : serveReady ready s = .ok () t) :
    receivedOn x t.log = receivedOn x s.log ++ taken x ready := by
  cases ready with
  | accept conn => exact ((acceptConnection_handled h).received x).trans (List.append_nil _).symm
  | serve sock recv send =>
    obtain ⟨partner, -, -, -, hrelayed⟩ := readAndForward_eq_ok.mp h
    cases hrelayed with
    | forwarded data n _ hrecv _ =>
      subst hrecv
      simp [TcServer.record, receivedOn, taken]
    | cleaned hrecv _ =>
      have hnone : taken x (.serve sock recv send) = [] := by
        rcases hrecv with rfl | rfl
        · rfl
        · exact ite_self _
      rw [hnone, List.append_nil]
      rfl

lemma serveReady_unpaired (hx : x < s.nextSock) (hfree : Unpaired s x)
    (h : serveReady ready s = .ok () t) : Unpaired t x := by
  cases ready with
  | accept conn =>
    have hhandled := acceptConnection_handled h
    rintro y (hxy | hxy)
    · rcases hhandled.registered x y hxy with hold | ⟨hnew, -⟩
      · exact hfree y (Or.inl hold)
      · omega
    · rcases hhandled.registered y x hxy with hold | ⟨-, hnew⟩
      · exact hfree y (Or.inr hold)
      · omega
  | serve sock recv send =>
    obtain ⟨partner, -, -, -, hrelayed⟩ := readAndForward_eq_ok.mp h
    cases hrelayed with
    | forwarded data n _ _ _ =>
      intro y hxy
      apply hfree y
      simpa [Pair, TcServer.record] using hxy
    | cleaned _ _ => exact hfree

lemma serveReady_nextSock (h : serveReady ready s = .ok () t) : s.nextSock ≤ t.nextSock := by
  cases ready with
  | accept conn => exact (acceptConnection_handled h).nextSock
  | serve sock recv send =>
    obtain ⟨partner, -, -, -, hrelayed⟩ := readAndForward_eq_ok.mp h
    cases hrelayed with
    | forwarded data n _ _ _ => exact le_rfl
    | cleaned _ _ => exact le_rfl

lemma serveReady_flowing (hs : Flowing s) (hknown : Known s ready) (hgenerous : Generous ready)
    (h : serveReady ready s = .ok () t) : Flowing t := by
  cases ready with
  | accept conn => exact hs.acceptConnection hgenerous h
  | serve sock recv send =>
    obtain ⟨partner, hpair⟩ := hknown
    obtain ⟨hx, hy, hrelayed, -⟩ := hs.sound.readAndForward hpair h
    exact hs.relayed hpair hx hy hgenerous hrelayed

lemma newlySent_received (hs : Flowing s) (ht : Flowing t) (hlog : s.log <+: t.log)
    (hpair : .registered c v ∈ s.log) :
    receivedOn v t.log = receivedOn v s.log ++ newlySent (some c) s t := by
  obtain ⟨later, hlater⟩ := hlog
  have hbefore := (hs.lossless c v hpair).2
  have hafter := (ht.lossless c v (hlater ▸ List.mem_append_left _ hpair)).2
  have hmore : receivedOn v t.log = receivedOn v s.log ++ receivedOn v later := by
    rw [← hlater, receivedOn_append]
  have hnew : newlySent (some c) s t = receivedOn v later := by
    rw [newlySent, hafter, hbefore, hmore, ← List.append_assoc, List.drop_left]
  rw [hmore, hnew]

lemma newlySent_unpaired (ht : Flowing t) (hfree : Unpaired t c) : newlySent (some c) s t = [] := by
  rw [newlySent, (ht.quiet c hfree).1, List.drop_nil]

lemma acceptConnection_idle (hread : ∀ convert, conn.read = .header convert → convert.tlvs = [])
    (h : serveReady (.accept conn) s = .ok () t) : t.log = s.log := by
  obtain ⟨success, v, hv, ht⟩ : ∃ success v, _ ∧ acceptConnection conn s = _ := acceptConnection_eq
  have hend : t = if success then v else v.closed s.nextSock :=
    (EStateM.Result.ok.inj (h.symm.trans ht)).2
  have hlog : v.log = s.log := by
    cases hconn : conn.read with
    | raised | nothing =>
      rw [hconn] at hv
      cases hv
      exact accepted_log conn.fd
    | header convert =>
      rw [hconn] at hv
      have hleaves := handleConnection_leaves hv
      rw [hread convert hconn] at hleaves
      rw [leaves_handleTlvs_nil hleaves]
      exact accepted_log conn.fd
  rw [hend]
  cases success with
  | true => exact hlog
  | false => exact hlog

lemma acceptConnection_pair (hs : Sound s) (ht : Sound t) (h : serveReady (.accept conn) s = .ok () t)
    (hpair : Pair t s.nextSock v) : .registered s.nextSock v ∈ t.log := by
  rcases hpair with hpair | hpair
  · exact hpair
  · rcases (acceptConnection_handled h).registered _ _ hpair with hold | ⟨rfl, -⟩
    · exact (hs.unborn_unpaired v (Or.inr hold)).elim
    · exact ((ht.born _ _ (Or.inl hpair)).2.2 rfl).elim

end Server

section Message

variable {scapy : Scapy} {cookie : Option Block} {remoteAddr : SockaddrIn6} {read : ReadResult}

lemma whole_from (wire : Bytes) (hlong : convertHeaderLength ≤ wire.length) : From (.whole wire) wire := by
  intro head hhead
  obtain rfl := Option.some.inj hhead
  refine ⟨piece_take _ _, fun n tail htail => ?_⟩
  obtain rfl := Option.some.inj htail
  rw [List.length_take, min_eq_left hlong]
  exact piece_take _ n

lemma leftBehind_whole {wire : Bytes} (hlong : convertHeaderLength ≤ wire.length) :
    leftBehind (.whole wire) wire = wire.drop (convertHeaderLength + (secondRecv wire).length) := by
  have hlength : (wire.take convertHeaderLength).length = convertHeaderLength := by
    rw [List.length_take, min_eq_left hlong]
  simp only [leftBehind, Incoming.whole, hlength, ne_eq, not_true_eq_false, if_false, secondRecv]

lemma reads_message (hneed : (redirectOpts cookie remoteAddr).need ≤ 1024)
    (h : ReadReturns scapy (.whole (redirectMessage cookie remoteAddr)) read) :
    (leftBehind (.whole (redirectMessage cookie remoteAddr)) (redirectMessage cookie remoteAddr) = [] ∧
      ∃ convert, read = .header convert ∧
        convert.tlvs = packet scapy (.connect remoteAddr.sin6Port remoteAddr.sin6Addr) ::
          (Client.cookieTlv cookie).map (packet scapy)) ∨
    ∀ convert, read = .header convert → convert.tlvs = [] := by
  have hmod := need_mod (redirectOpts cookie remoteAddr)
  have hlength := Client.redirectMessage_length cookie remoteAddr
  have hlong : convertHeaderLength ≤ (redirectMessage cookie remoteAddr).length := by
    rw [hlength]
    exact Nat.le_add_right _ _
  by_cases hshort : (redirectOpts cookie remoteAddr).need ≤ 1020
  · left
    refine ⟨?_, ?_⟩
    · have htlvs : (redirectMessage cookie remoteAddr).length =
          convertHeaderLength + ((redirectOpts cookie remoteAddr).tlvs.flatMap encodeTlv).length := by
        rw [redirectMessage, List.length_append]
        rfl
      rw [leftBehind_whole hlong, secondRecv_redirectMessage hshort, ← htlvs, List.drop_length]
    · obtain ⟨convert, hconvert, htlvs⟩ := redirectMessage_reads scapy hshort
      exact ⟨convert, h.unique hconvert, htlvs⟩
  · right
    have hfull : (redirectOpts cookie remoteAddr).need = 1024 := by omega
    have hnone : secondRecv (redirectMessage cookie remoteAddr) = [] := by
      have hoctet : (redirectMessage cookie remoteAddr).getD 1 0 =
          bytesToConvert (redirectOpts cookie remoteAddr).need := rfl
      rw [secondRecv, hoctet, hfull]
      rfl
    obtain ⟨header, -, hiff⟩ := readReturns_whole scapy hlong
    obtain ⟨w, hwalk, rfl⟩ := (hiff read).mp h
    rw [hnone] at hwalk
    intro convert hconvert
    cases hwalk with
    | done =>
      cases hconvert
      rfl
    | raises hne _ => exact (hne rfl).elim
    | next hne _ _ => exact (hne rfl).elim

lemma pairings_message (dials : ℕ → Dial) :
    pairings (packet scapy (.connect remoteAddr.sin6Port remoteAddr.sin6Addr) ::
      (Client.cookieTlv cookie).map (packet scapy)) dials ≤ 1 := by
  have hcookie : ∀ dials, pairings ((Client.cookieTlv cookie).map (packet scapy)) dials = 0 := by
    intro dials
    cases cookie <;> rfl
  rw [pairings_connect rfl, hcookie]
  split_ifs <;> omega

end Message

section Client

variable {a : Answers} {fuel len : ℕ} {peek : Bool} {fd : ℤ} {lib lib' : Library} {result : ℤ}
  {d octets : Bytes}

lemma arrive_inbox : (arrive lib fd octets).inbox fd = lib.inbox fd ++ octets := Function.update_self ..

lemma arrive_arrive {more : Bytes} :
    arrive (arrive lib fd octets) fd more = arrive lib fd (octets ++ more) := by
  simp only [arrive, Function.update_self, Function.update_idem, List.append_assoc]

lemma emptyConvert_header : convertParseHeader emptyConvert = some 0 :=
  parseHeader_message (n := 4) rfl (by decide) le_rfl []

lemma emptyConvert_valid : ValidReply emptyConvert :=
  ⟨emptyConvert, [], rfl, emptyConvert_header, by decide, Or.inl rfl⟩

lemma waiting_read (hw : Waiting fd emptyConvert d lib) (hwaits : a.Waits)
    (h : readConvert a fuel false fd lib = some (.returns result lib')) :
    (a.header = .fails ∧ result = syscallSkip ∧ lib' = lib) ∨
      (result = syscallRun ∧ Passed fd d lib') := by
  have hcases := Client.readConvert_cases h
  rw [hw.inbox] at hcases
  rcases hcases with hfails | ⟨hdr, area, hreply, hresult, rfl⟩ | ⟨n, hrefused, -, -⟩
  · exact Or.inl hfails
  · right
    rw [hreply.whole emptyConvert_valid hwaits]
    exact ⟨hresult, hw.consumed⟩
  · exfalso
    rcases hwaits.1 with hfail | hall
    · cases hrefused with
      | badHeader hdr hhdr _ | noArea hdr _ hhdr _ _ _ | badArea hdr _ _ hhdr _ _ _ _ =>
        rw [hfail] at hhdr
        cases hhdr
    · have hhead : ∀ hdr, a.header.octets (emptyConvert ++ d) sizeofConvertHeader = some hdr →
          convertParseHeader hdr = some 0 := by
        intro hdr hhdr
        rw [hall] at hhdr
        obtain rfl := Option.some.inj hhdr
        exact emptyConvert_header
      cases hrefused with
      | badHeader hdr hhdr hparse =>
        rw [hhead hdr hhdr] at hparse
        cases hparse
      | noArea hdr length hhdr hparse hpos _ | badArea hdr length _ hhdr hparse hpos _ _ =>
        rw [hhead hdr hhdr] at hparse
        exact hpos (Option.some.inj hparse).symm

lemma empty_read (hempty : lib.inbox fd = [])
    (h : readConvert a fuel false fd lib = some (.returns result lib')) :
    result = syscallSkip ∧ lib'.inbox fd = [] ∧ received fd lib'.log = received fd lib.log := by
  have hcases := Client.readConvert_cases h
  rw [hempty] at hcases
  rcases hcases with ⟨-, hresult, rfl⟩ | ⟨hdr, area, hreply, -, -⟩ | ⟨n, -, hresult, rfl⟩
  · exact ⟨hresult, hempty, rfl⟩
  · have hnil : hdr = [] := by
      have hhdr := hreply.header
      cases hheader : a.header with
      | fails =>
        rw [hheader] at hhdr
        cases hhdr
      | upTo k | all =>
        rw [hheader] at hhdr
        exact (Option.some.inj hhdr).symm.trans List.take_nil
    have hvalid := hreply.valid
    rw [hnil] at hvalid
    cases hvalid
  · refine ⟨hresult, ?_, Client.received_record (e := .noLinger fd) trivial⟩
    change (lib.consume fd n).inbox fd = []
    rw [Client.consume_inbox, hempty, List.drop_nil]

lemma originalRecv_moves (h : originalRecv a fd len peek lib = .returns result lib') :
    lib'.htable = lib.htable ∧
      received fd lib'.log ++ lib'.inbox fd = received fd lib.log ++ lib.inbox fd := by
  unfold Client.originalRecv at h
  cases hoctets : a.recv.octets (lib.inbox fd) len with
  | none =>
    rw [hoctets] at h
    cases h
    refine ⟨rfl, ?_⟩
    rw [Client.received_recv, ite_self, List.append_nil]
    rfl
  | some delivered =>
    rw [hoctets] at h
    have hbegins : lib.inbox fd = delivered ++ (lib.inbox fd).drop delivered.length := by
      cases hrecv : a.recv with
      | fails =>
        rw [hrecv] at hoctets
        cases hoctets
      | upTo k | all =>
        rw [hrecv] at hoctets
        obtain rfl := Option.some.inj hoctets
        exact List.prefix_iff_eq_append.mp (List.take_prefix _ _) |>.symm
    cases peek with
    | true =>
      cases h
      refine ⟨rfl, ?_⟩
      rw [if_pos rfl, Client.received_recv, if_pos rfl, List.append_nil]
      rfl
    | false =>
      cases h
      refine ⟨rfl, ?_⟩
      rw [if_neg (by decide), Client.consume_inbox]
      change received fd (lib.record _).log ++ (lib.inbox fd).drop delivered.length = _
      rw [Client.received_recv, if_neg (by decide), List.append_assoc, ← hbegins]

lemma originalSend_moves (h : originalSend a fd lib = .returns result lib') :
    lib'.htable = lib.htable ∧ lib'.inbox = lib.inbox ∧
      received fd lib'.log = received fd lib.log := by
  cases h
  refine ⟨rfl, rfl, ?_⟩
  simp [Client.received, Library.record]

lemma waiting_delivered (h : Waiting fd emptyConvert d (arrive lib fd octets))
    (hthere : sizeofConvertHeader ≤ (lib.inbox fd).length ∨ octets = []) :
    ∃ d', d = d' ++ octets ∧ Waiting fd emptyConvert d' lib := by
  have hinbox : lib.inbox fd ++ octets = emptyConvert ++ d := arrive_inbox.symm.trans h.inbox
  obtain ⟨d', hd'⟩ : emptyConvert <+: lib.inbox fd := by
    rcases hthere with hlong | rfl
    · exact List.prefix_of_prefix_length_le ⟨d, hinbox.symm⟩ (List.prefix_append _ _) hlong
    · exact ⟨d, by rw [← hinbox, List.append_nil]⟩
  refine ⟨d', ?_, h.copies, hd'.symm, h.received⟩
  rw [← hd', List.append_assoc] at hinbox
  exact (List.append_cancel_left hinbox).symm

lemma passed_arrived (h : Passed fd d lib) : Passed fd (d ++ octets) (arrive lib fd octets) := by
  refine ⟨h.copies, ?_⟩
  rw [arrive_inbox, ← List.append_assoc]
  exact congrArg (· ++ octets) h.inbox

end Client

section Pending

variable {scapy : Scapy} {cookie : Option Block} {fd : ℤ} {w v : World} {move : Move}

lemma readConvert_copies {a : Answers} {fuel : ℕ} {result : ℤ} {lib lib' : Library}
    (h : readConvert a fuel false fd lib = some (.returns result lib')) :
    lib'.htable.copies fd ≤ lib.htable.copies fd := by
  rcases Client.readConvert_cases h with ⟨-, -, rfl⟩ | ⟨hdr, area, -, -, rfl⟩ | ⟨n, -, -, rfl⟩
  · exact le_rfl
  · exact Client.copies_freeState.trans_le (Nat.sub_le _ _)
  · exact Client.copies_freeState.trans_le (Nat.sub_le _ _)

lemma Settled.fewer (h : Settled fd w) (hcopies : v.lib.htable.copies fd ≤ w.lib.htable.copies fd)
    (hkernel : v.kernel = .pending → w.kernel = .pending) : Settled fd v :=
  ⟨hcopies.trans h.copies, fun hpending => Nat.le_zero.mp (hcopies.trans (h.pending (hkernel hpending)).le)⟩

lemma settled_step (h : Settled fd w) (hstep : Step scapy cookie fd move w v) : Settled fd v := by
  cases hstep with
  | redirect hconnect hmessage hsent =>
    obtain ⟨rfl, htable⟩ := Client.connectOn_connected hconnect (Or.inl rfl)
    exact ⟨htable ▸ h.copies, fun hpending => by cases hpending⟩
  | refuse hconnect =>
    obtain ⟨rfl, htable⟩ := Client.connectOn_connected hconnect (Or.inr rfl)
    exact ⟨htable ▸ h.copies, fun hpending => by cases hpending⟩
  | @fallBack _ _ _ _ _ lib kernel hconnect =>
    have hnone : lib.htable.copies fd = 0 := by
      rw [(Client.connectOn_fallsBack hconnect).1, Client.copies_freeState]
      exact Nat.sub_eq_zero_of_le h.copies
    exact ⟨hnone.trans_le (Nat.zero_le 1), fun _ => hnone⟩
  | direct hconnect =>
    obtain ⟨-, hnone⟩ := Client.lookup_eq_false_iff.mp (Client.connectOn_untracked_iff.mp hconnect)
    exact ⟨h.copies, fun _ => hnone⟩
  | established hpending | givenUp hpending => exact ⟨h.copies, fun hstill => by cases hstill⟩
  | read htracked hthere hread => exact h.fewer (readConvert_copies hread) id
  | send huntracked hconnected hresult hsend => exact h.fewer (by rw [(originalSend_moves hsend).1]) id
  | recv huntracked hrecv => exact h.fewer (by rw [(originalRecv_moves hrecv).1]) id
  | deliver hwire => exact ⟨h.copies, h.pending⟩
  | answer hkernel hpeer => exact ⟨h.copies, h.pending⟩
  | accept hlinked hnew hthere hpieces hread hserve => exact ⟨h.copies, h.pending⟩
  | turn hknown hreads hserve => exact ⟨h.copies, h.pending⟩

lemma settled_run {w₀ : World} (h₀ : Starts fd w₀)
    (h : Relation.ReflTransGen (fun w v => ∃ move, Step scapy cookie fd move w v) w₀ w) :
    Settled fd w := by
  induction h with
  | refl =>
    refine ⟨h₀.copies.le, fun hpending => ?_⟩
    rw [h₀.kernel] at hpending
    cases hpending
  | tail _ hstep ih =>
    obtain ⟨move, hstep⟩ := hstep
    exact settled_step ih hstep

/-- In every run, however its steps go, `connect` makes no attempt for a descriptor while one is under way.
-/
theorem pending_untracked {w₀ : World} (h₀ : Starts fd w₀)
    (h : Relation.ReflTransGen (fun w v => ∃ move, Step scapy cookie fd move w v) w₀ w)
    (hpending : w.kernel = .pending) : w.lib.htable.lookup fd ≠ some true := by
  intro htracked
  have hpos := Client.lookup_eq_true_iff.mp htracked
  rw [(settled_run h₀ h).pending hpending] at hpos
  exact Nat.lt_irrefl 0 hpos

end Pending

end TransportConverter.EndToEnd.Tunnel
