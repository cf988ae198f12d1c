import TransportConverter.EndToEnd.Tunnel

/-! What crosses the tunnel, and what each side makes of it, in every run in which nothing goes half-way. -/

namespace TransportConverter.EndToEnd.Tunnel

open Foundations.Memory Foundations.Effects Wire Codec Server
open Client (Library Answers Attempt KernelSocket Sockaddr connectOn redirectOpts redirectMessage readConvert
  originalRecv originalSend syscallRun syscallSkip received Waiting Passed)

section Invariant

variable {scapy : Scapy} {cookie : Option Block} {fd : ℤ} {w w' : World}

structure Quiet (fd : ℤ) (w : World) : Prop where
  copies : w.lib.htable.copies fd = 1
  inbox : w.lib.inbox fd = []
  fromServer : w.fromServer = []
  received : received fd w.lib.log = []
  handedOver : w.handedOver = []
  sock : w.sock = none

inductive Phase (cookie : Option Block) (fd : ℤ) (w : World) : Prop
  | fresh (hquiet : Quiet fd w) (hkernel : w.kernel = .unconnected) (hwire : w.toServer = [])
  | asked (hquiet : Quiet fd w) (hlinked : w.Linked) (remoteAddr : SockaddrIn6)
      (hneed : (redirectOpts cookie remoteAddr).need ≤ 1024)
      (hwire : w.toServer = redirectMessage cookie remoteAddr)
  | refused (c : ℕ) (hlinked : w.Linked) (hsock : w.sock = some c) (hborn : c < w.srv.nextSock)
      (hfree : Unpaired w.srv c) (hinbox : w.lib.inbox fd = []) (hfrom : w.fromServer = [])
      (hreceived : received fd w.lib.log = [])
  | paired (c v : ℕ) (hlinked : w.Linked) (hsock : w.sock = some c) (hpair : .registered c v ∈ w.srv.log)
      (hup : receivedOn c w.srv.log ++ w.toServer = w.handedOver)
      (hdown : (Waiting fd emptyConvert (receivedOn v w.srv.log) (w.arrived fd) ∧ w.handedOver = []) ∨
        Passed fd (receivedOn v w.srv.log) (w.arrived fd))

structure Inv (cookie : Option Block) (fd : ℤ) (w : World) : Prop where
  flowing : Flowing w.srv
  phase : Phase cookie fd w

lemma Quiet.tracked (h : Quiet fd w) : w.lib.htable.lookup fd = some true :=
  Client.lookup_eq_true_iff.mpr (by rw [h.copies]; exact Nat.one_pos)

lemma Quiet.not_untracked (h : Quiet fd w) : w.lib.htable.lookup fd ≠ some false := by
  rw [h.tracked]
  simp

lemma Starts.inv (h : Starts fd w) : Inv cookie fd w := by
  obtain ⟨listening, hsrv⟩ := h.srv
  have hquiet : Quiet fd w := ⟨h.copies, h.inbox, h.fromServer, h.received, h.handedOver, h.sock⟩
  refine ⟨?_, .fresh hquiet h.kernel h.toServer⟩
  rw [hsrv]
  exact start_flowing listening

lemma untracked_passed {lib : Library} {d : Bytes} {p : Prop}
    (h : (Waiting fd emptyConvert d lib ∧ p) ∨ Passed fd d lib)
    (huntracked : lib.htable.lookup fd = some false) : Passed fd d lib := by
  rcases h with ⟨hw, -⟩ | hp
  · rw [hw.tracked] at huntracked
    cases huntracked
  · exact hp

lemma World.Linked.stays (h : w.Linked) (peer : Peer) (attempt : Attempt) :
    w.linked peer (w.kernel.connect attempt).socket = w := by
  have hsocket : (w.kernel.connect attempt).socket = w.kernel := by
    rw [h.kernel]
    rfl
  have hconnected : ¬ (w.kernel = .unconnected ∧ w.kernel ≠ .unconnected) := by
    rw [h.kernel]
    decide
  rw [World.linked, hsocket, if_neg hconnected]

section Connect

variable {addr : Sockaddr} {converter original : Attempt} {sent : ℤ} {lib : Library} {kernel : KernelSocket}
  {message : Bytes}

lemma smooth_connect (htracked : w.lib.htable.lookup fd = some true)
    (hsmooth : RedirectsWhole cookie addr converter sent w) :
    w.kernel = .unconnected ∧ ∃ remoteAddr, (redirectOpts cookie remoteAddr).need ≤ 1024 ∧
      sent = (redirectOpts cookie remoteAddr).need ∧
      connectOn cookie converter sent fd addr w.lib w.kernel =
        .reads (w.lib.record (.redirected fd (redirectMessage cookie remoteAddr))) .connected := by
  obtain ⟨hkernel, rfl, remoteAddr, haddr, hneed, rfl⟩ := hsmooth
  have hpos : (0 : ℤ) < (redirectOpts cookie remoteAddr).need := by
    rw [Client.redirectOpts_need]
    omega
  refine ⟨hkernel, remoteAddr, hneed, rfl, ?_⟩
  rw [hkernel]
  exact Client.connectOn_sends haddr hneed htracked hpos

lemma phase_redirect (hp : Phase cookie fd w)
    (hsmooth : w.lib.htable.lookup fd = some true → RedirectsWhole cookie addr converter sent w)
    (htracked : w.lib.htable.lookup fd = some true)
    (h : connectOn cookie converter sent fd addr w.lib w.kernel = .reads lib kernel)
    (hmessage : lib = w.lib.record (.redirected fd message)) :
    Phase cookie fd
      { w.linked .converter kernel with lib, toServer := w.toServer ++ message.take sent.toNat } := by
  obtain ⟨hkernel, remoteAddr, hneed, rfl, hsends⟩ := smooth_connect htracked (hsmooth htracked)
  obtain ⟨hlib, rfl⟩ := Client.ConnectEnd.reads.inj (h.symm.trans hsends)
  have hsent : message = redirectMessage cookie remoteAddr := by
    have hlog := congrArg Client.Library.log (hmessage.symm.trans hlib)
    simp only [Library.record, List.append_cancel_left_eq, List.cons.injEq, and_true,
      Client.Event.redirected.injEq, true_and] at hlog
    exact hlog
  cases hp with
  | fresh hquiet _ hwire =>
    refine .asked ⟨?_, ?_, hquiet.fromServer, ?_, hquiet.handedOver, hquiet.sock⟩ ⟨rfl, ?_⟩ remoteAddr hneed ?_
    · rw [hlib]
      exact hquiet.copies
    · rw [hlib]
      exact hquiet.inbox
    · rw [hlib]
      exact (Client.received_record (e := .redirected fd _) trivial).trans hquiet.received
    · exact if_pos ⟨hkernel, by decide⟩
    · change w.toServer ++ message.take _ = _
      rw [hwire, List.nil_append, hsent, Int.toNat_natCast]
      apply List.take_of_length_le
      rw [Client.redirectMessage_length]
  | asked _ hlinked | refused _ hlinked | paired _ _ hlinked =>
    rw [hlinked.kernel] at hkernel
    cases hkernel

lemma phase_direct (hp : Phase cookie fd w)
    (h : connectOn cookie converter sent fd addr w.lib w.kernel = .untracked) :
    Phase cookie fd
      { w.linked .destination (w.kernel.connect original).socket with lib := w.lib.record (.connect fd) } := by
  have huntracked := Client.connectOn_untracked_iff.mp h
  have hreceived : received fd (w.lib.record (.connect fd)).log = received fd w.lib.log :=
    Client.received_record (e := .connect fd) trivial
  cases hp with
  | fresh hquiet | asked hquiet => exact (hquiet.not_untracked huntracked).elim
  | refused c hlinked hsock hborn hfree hinbox hfrom hnone =>
    rw [hlinked.stays]
    exact .refused c ⟨hlinked.kernel, hlinked.peer⟩ hsock hborn hfree hinbox hfrom (hreceived.trans hnone)
  | paired c v hlinked hsock hpair hup hdown =>
    rw [hlinked.stays]
    have hpassed := untracked_passed hdown huntracked
    exact .paired c v ⟨hlinked.kernel, hlinked.peer⟩ hsock hpair hup
      (Or.inr (hpassed.record (e := .connect fd) trivial))

end Connect

lemma quiet_read {a : Answers} {fuel : ℕ} {result : ℤ} {lib : Library} (hquiet : Quiet fd w)
    (hwaits : a.Waits) (hthere : Waited fd a w)
    (h : readConvert a fuel false fd w.lib = some (.returns result lib)) :
    result = syscallSkip ∧ lib = w.lib := by
  rcases hwaits.1 with hfail | hall
  · rw [readConvert, hfail] at h
    cases h
    exact ⟨rfl, rfl⟩
  · rcases hthere.1 hall with hlong | ⟨⟨c, hsock, -⟩, -⟩
    · rw [hquiet.inbox] at hlong
      cases hlong
    · rw [hquiet.sock] at hsock
      cases hsock

lemma phase_read {a : Answers} {fuel : ℕ} {result : ℤ} {lib : Library} (hp : Phase cookie fd w)
    (htracked : w.lib.htable.lookup fd = some true) (hwaits : a.Waits) (hthere : Waited fd a w)
    (h : readConvert a fuel false fd w.lib = some (.returns result lib)) :
    Phase cookie fd { w with lib } := by
  cases hp with
  | fresh hquiet hkernel hwire =>
    obtain ⟨-, rfl⟩ := quiet_read hquiet hwaits hthere h
    exact .fresh hquiet hkernel hwire
  | asked hquiet hlinked remoteAddr hneed hwire =>
    obtain ⟨-, rfl⟩ := quiet_read hquiet hwaits hthere h
    exact .asked hquiet hlinked remoteAddr hneed hwire
  | refused c hlinked hsock hborn hfree hinbox hfrom hreceived =>
    obtain ⟨-, hinbox', hreceived'⟩ := empty_read hinbox h
    exact .refused c ⟨hlinked.kernel, hlinked.peer⟩ hsock hborn hfree hinbox' hfrom
      (hreceived'.trans hreceived)
  | paired c v hlinked hsock hpair hup hdown =>
    refine .paired c v ⟨hlinked.kernel, hlinked.peer⟩ hsock hpair hup ?_
    rcases hdown with ⟨hw, hnone⟩ | hpassed
    · rcases hwaits.1 with hfail | hall
      · rw [readConvert, hfail] at h
        cases h
        exact Or.inl ⟨hw, hnone⟩
      · obtain ⟨d, hd, hwaiting⟩ := waiting_delivered hw ((hthere.1 hall).imp_right And.right)
        rw [hd]
        rcases waiting_read hwaiting hwaits h with ⟨hfails, -, -⟩ | ⟨-, hpassed⟩
        · rw [hall] at hfails
          cases hfails
        · exact Or.inr (passed_arrived hpassed)
    · exact (hpassed.untracked htracked).elim

lemma phase_call {lib : Library} {octets : Bytes} (hp : Phase cookie fd w)
    (huntracked : w.lib.htable.lookup fd = some false) (htable : lib.htable = w.lib.htable)
    (hmoved : received fd lib.log ++ lib.inbox fd = received fd w.lib.log ++ w.lib.inbox fd) :
    Phase cookie fd
      { w with
        lib
        toServer := w.toServer ++ if w.peer = .converter then octets else []
        handedOver := w.handedOver ++ octets } := by
  cases hp with
  | fresh hquiet | asked hquiet => exact (hquiet.not_untracked huntracked).elim
  | refused c hlinked hsock hborn hfree hinbox hfrom hreceived =>
    rw [hinbox, hreceived] at hmoved
    obtain ⟨hreceived', hinbox'⟩ := List.append_eq_nil_iff.mp hmoved
    exact .refused c ⟨hlinked.kernel, hlinked.peer⟩ hsock hborn hfree hinbox' hfrom hreceived'
  | paired c v hlinked hsock hpair hup hdown =>
    refine .paired c v ⟨hlinked.kernel, hlinked.peer⟩ hsock hpair ?_ (Or.inr ?_)
    · rw [if_pos hlinked.peer, ← List.append_assoc, hup]
    · have hpassed := untracked_passed hdown huntracked
      refine ⟨htable ▸ hpassed.copies, ?_⟩
      rw [← hpassed.inbox]
      change received fd lib.log ++ (arrive lib fd w.fromServer).inbox fd =
        received fd w.lib.log ++ (arrive w.lib fd w.fromServer).inbox fd
      rw [arrive_inbox, arrive_inbox, ← List.append_assoc, hmoved, List.append_assoc]

lemma phase_send {a : Answers} {octets : Bytes} {result : ℤ} {lib : Library} (hp : Phase cookie fd w)
    (huntracked : w.lib.htable.lookup fd = some false) (h : originalSend a fd w.lib = .returns result lib) :
    Phase cookie fd
      { w with
        lib
        toServer := w.toServer ++ if w.peer = .converter then octets.take result.toNat else []
        handedOver := w.handedOver ++ octets.take result.toNat } := by
  obtain ⟨htable, hinbox, hreceived⟩ := originalSend_moves h
  exact phase_call hp huntracked htable (by rw [hinbox, hreceived])

lemma phase_recv {a : Answers} {len : ℕ} {peek : Bool} {result : ℤ} {lib : Library}
    (hp : Phase cookie fd w) (huntracked : w.lib.htable.lookup fd = some false)
    (h : originalRecv a fd len peek w.lib = .returns result lib) : Phase cookie fd { w with lib } := by
  obtain ⟨htable, hmoved⟩ := originalRecv_moves h
  have hcalled : Phase cookie fd _ := @phase_call cookie fd w lib [] hp huntracked htable hmoved
  simp only [ite_self, List.append_nil] at hcalled
  exact hcalled

lemma phase_deliver {octets rest : Bytes} (hp : Phase cookie fd w) (h : w.fromServer = octets ++ rest) :
    Phase cookie fd { w with lib := arrive w.lib fd octets, fromServer := rest } := by
  have hnothing : w.fromServer = [] → octets = [] ∧ rest = [] := fun hnone =>
    List.append_eq_nil_iff.mp (h.symm.trans hnone)
  have hempty : w.fromServer = [] → w.lib.inbox fd = [] → (arrive w.lib fd octets).inbox fd = [] := by
    intro hnone hinbox
    rw [arrive_inbox, hinbox, (hnothing hnone).1, List.append_nil]
  have hquiet' : Quiet fd w → Quiet fd { w with lib := arrive w.lib fd octets, fromServer := rest } :=
    fun hq => ⟨hq.copies, hempty hq.fromServer hq.inbox, (hnothing hq.fromServer).2, hq.received,
      hq.handedOver, hq.sock⟩
  cases hp with
  | fresh hquiet hkernel hwire => exact .fresh (hquiet' hquiet) hkernel hwire
  | asked hquiet hlinked remoteAddr hneed hwire =>
    exact .asked (hquiet' hquiet) ⟨hlinked.kernel, hlinked.peer⟩ remoteAddr hneed hwire
  | refused c hlinked hsock hborn hfree hinbox hfrom hreceived =>
    exact .refused c ⟨hlinked.kernel, hlinked.peer⟩ hsock hborn hfree (hempty hfrom hinbox)
      (hnothing hfrom).2 hreceived
  | paired c v hlinked hsock hpair hup hdown =>
    refine .paired c v ⟨hlinked.kernel, hlinked.peer⟩ hsock hpair hup ?_
    rw [World.arrived, h, ← arrive_arrive] at hdown
    exact hdown

lemma reads_taken {c : ℕ} {ready : Ready} {wire rest : Bytes} (h : Reads (some c) ready wire rest) :
    wire = taken c ready ++ rest := by
  cases ready with
  | accept conn => exact h.symm
  | serve x recv send =>
    cases recv with
    | raises => exact h.symm
    | octets data =>
      simp only [Reads, Option.some.injEq] at h
      simp only [taken]
      rcases eq_or_ne x c with rfl | hne
      · simpa using h
      · rw [if_neg hne.symm] at h
        rw [if_neg hne, h, List.nil_append]

lemma reads_none {ready : Ready} {wire rest : Bytes} (h : Reads none ready wire rest) : rest = wire := by
  cases ready with
  | accept conn => exact h
  | serve x recv send =>
    cases recv with
    | raises => exact h
    | octets data => simpa [Reads] using h

lemma phase_turn {ready : Ready} {rest : Bytes} {srv : TcServer} (hi : Inv cookie fd w)
    (ht : Flowing srv) (hreads : Reads w.sock ready w.toServer rest)
    (h : serveReady ready w.srv = .ok () srv) :
    Phase cookie fd
      { w with fromServer := w.fromServer ++ newlySent w.sock w.srv srv, toServer := rest, srv } := by
  obtain ⟨hs, hp⟩ := hi
  have hquiet' : Quiet fd w → Quiet fd
      { w with fromServer := w.fromServer ++ newlySent w.sock w.srv srv, toServer := rest, srv } := by
    intro hq
    refine ⟨hq.copies, hq.inbox, ?_, hq.received, hq.handedOver, hq.sock⟩
    rw [hq.fromServer, hq.sock]
    rfl
  cases hp with
  | fresh hquiet hkernel hwire =>
    rw [hquiet.sock] at hreads
    exact .fresh (hquiet' hquiet) hkernel ((reads_none hreads).trans hwire)
  | asked hquiet hlinked remoteAddr hneed hwire =>
    rw [hquiet.sock] at hreads
    exact .asked (hquiet' hquiet) ⟨hlinked.kernel, hlinked.peer⟩ remoteAddr hneed
      ((reads_none hreads).trans hwire)
  | refused c hlinked hsock hborn hfree hinbox hfrom hreceived =>
    have hfree' := serveReady_unpaired hborn hfree h
    refine .refused c ⟨hlinked.kernel, hlinked.peer⟩ hsock (hborn.trans_le (serveReady_nextSock h)) hfree'
      hinbox ?_ hreceived
    rw [hsock, newlySent_unpaired ht hfree', hfrom]
    rfl
  | paired c v hlinked hsock hpair hup hdown =>
    rw [hsock] at hreads
    have hlog := serveReady_log h
    have hnew := newlySent_received hs ht hlog hpair
    refine .paired c v ⟨hlinked.kernel, hlinked.peer⟩ hsock (hlog.subset hpair) ?_ ?_
    · rw [serveReady_received h, ← hup, reads_taken hreads, List.append_assoc]
    · rw [hnew, World.arrived, hsock, ← arrive_arrive]
      rcases hdown with ⟨hw, hnone⟩ | hpassed
      · refine Or.inl ⟨⟨hw.copies, ?_, hw.received⟩, hnone⟩
        rw [arrive_inbox, ← List.append_assoc]
        exact congrArg (· ++ _) hw.inbox
      · exact Or.inr (passed_arrived hpassed)

lemma inv_accept {conn : Conn} {srv : TcServer} (hi : Inv cookie fd w) (hlinked : w.Linked)
    (hnew : w.sock = none) (hthere : w.toServer ≠ [])
    (hread : ReadReturns scapy (.whole w.toServer) conn.read)
    (hreply : ∀ i n, (conn.dials i).reply = .accepts n → emptyConvert.length ≤ n)
    (h : serveReady (.accept conn) w.srv = .ok () srv) :
    Inv cookie fd
      { w with
        toServer := leftBehind (.whole w.toServer) w.toServer
        fromServer := w.fromServer ++ newlySent (some w.srv.nextSock) w.srv srv
        srv, sock := some w.srv.nextSock } := by
  obtain ⟨hs, hp⟩ := hi
  cases hp with
  | fresh _ _ hwire => exact (hthere hwire).elim
  | refused _ _ hsock | paired _ _ _ hsock =>
    rw [hnew] at hsock
    cases hsock
  | asked hquiet _ remoteAddr hneed hwire =>
    rw [hwire] at hread ⊢
    have hmessage := reads_message hneed hread
    have hgenerous : Generous (.accept conn) := by
      refine ⟨hreply, fun convert hconvert => ?_⟩
      rcases hmessage with ⟨-, convert', hread', htlvs⟩ | hnone
      · obtain rfl := ReadResult.header.inj (hread'.symm.trans hconvert)
        rw [htlvs]
        exact pairings_message conn.dials
      · rw [hnone convert hconvert]
        exact Nat.zero_le 1
    have ht : Flowing srv := hs.acceptConnection hgenerous h
    have hunborn := hs.sound.unborn_unpaired
    refine ⟨ht, ?_⟩
    by_cases hfree : Unpaired srv w.srv.nextSock
    · refine .refused _ ⟨hlinked.kernel, hlinked.peer⟩ rfl (acceptConnection_nextSock h) hfree hquiet.inbox ?_
        hquiet.received
      rw [newlySent_unpaired ht hfree, hquiet.fromServer]
      rfl
    · obtain ⟨v, hv⟩ := not_forall_not.mp hfree
      have hpair := acceptConnection_pair hs.sound ht.sound h hv
      rcases hmessage with ⟨htaken, -⟩ | hnone
      · refine .paired _ v ⟨hlinked.kernel, hlinked.peer⟩ rfl hpair ?_
          (Or.inl ⟨⟨hquiet.copies, ?_, hquiet.received⟩, hquiet.handedOver⟩)
        · rw [(acceptConnection_handled h).received, (hs.quiet _ hunborn).2, htaken]
          exact hquiet.handedOver.symm
        · rw [World.arrived, arrive_inbox, hquiet.inbox, hquiet.fromServer, newlySent,
            (hs.quiet _ hunborn).1, (ht.lossless _ v hpair).2]
          rfl
      · exfalso
        apply hfree
        intro y hy
        rw [Pair, acceptConnection_idle hnone h] at hy
        exact hunborn y hy

lemma inv_connect {addr : Sockaddr} {converter original : Attempt} {sent : ℤ} (hi : Inv cookie fd w)
    (hsmooth : w.lib.htable.lookup fd = some true → RedirectsWhole cookie addr converter sent w)
    (h : Step scapy cookie fd (.connect addr converter original sent) w w') : Inv cookie fd w' := by
  have hreads : w.lib.htable.lookup fd = some true → ∃ lib kernel,
      connectOn cookie converter sent fd addr w.lib w.kernel = .reads lib kernel := by
    intro htracked
    obtain ⟨-, remoteAddr, -, -, hsends⟩ := smooth_connect htracked (hsmooth htracked)
    exact ⟨_, _, hsends⟩
  cases h with
  | redirect h hmessage hsent =>
    have htracked := Client.connectOn_tracked h (by simp) (by simp)
    exact ⟨hi.flowing, phase_redirect hi.phase hsmooth htracked h hmessage⟩
  | direct h => exact ⟨hi.flowing, phase_direct hi.phase h⟩
  | refuse h | fallBack h =>
    obtain ⟨lib, kernel, hsends⟩ := hreads (Client.connectOn_tracked h (by simp) (by simp))
    rw [hsends] at h
    cases h

lemma Phase.not_pending (h : Phase cookie fd w) : w.kernel ≠ .pending := by
  intro hpending
  cases h with
  | fresh _ hkernel =>
    rw [hkernel] at hpending
    cases hpending
  | asked _ hlinked | refused _ hlinked | paired _ _ hlinked =>
    rw [hlinked.kernel] at hpending
    cases hpending

lemma Phase.through_server (h : Phase cookie fd w) (hkernel : w.kernel = .connected) :
    w.peer ≠ .destination := by
  cases h with
  | fresh _ hunconnected =>
    rw [hkernel] at hunconnected
    cases hunconnected
  | asked _ hlinked | refused _ hlinked | paired _ _ hlinked =>
    rw [hlinked.peer]
    decide

lemma inv_step {move : Move} (hi : Inv cookie fd w) (hsmooth : Smooth cookie fd move w)
    (h : Step scapy cookie fd move w w') : Inv cookie fd w' := by
  have hconnect := h
  cases h with
  | redirect _ _ _ | refuse _ | fallBack _ | direct _ => exact inv_connect hi hsmooth hconnect
  | established hpending | givenUp hpending => exact (hi.phase.not_pending hpending).elim
  | read htracked hthere h => exact ⟨hi.flowing, phase_read hi.phase htracked hsmooth hthere h⟩
  | send huntracked hconnected hresult h => exact ⟨hi.flowing, phase_send hi.phase huntracked h⟩
  | recv huntracked h => exact ⟨hi.flowing, phase_recv hi.phase huntracked h⟩
  | deliver h => exact ⟨hi.flowing, phase_deliver hi.phase h⟩
  | answer hkernel hpeer => exact (hi.phase.through_server hkernel hpeer).elim
  | accept hlinked hnew hthere hpieces hread h =>
    obtain ⟨rfl, hreply⟩ := hsmooth
    exact inv_accept hi hlinked hnew hthere hread hreply h
  | turn hknown hreads h =>
    have ht := serveReady_flowing hi.flowing hknown hsmooth h
    exact ⟨ht, phase_turn hi ht hreads h⟩

lemma run_inv {w₀ : World} (h₀ : Starts fd w₀) (h : SmoothRun scapy cookie fd w₀ w) : Inv cookie fd w := by
  induction h with
  | refl => exact h₀.inv
  | tail _ hstep ih =>
    obtain ⟨move, hsmooth, hstep⟩ := hstep
    exact inv_step ih hsmooth hstep

lemma paired_unique {c v : ℕ} (hs : Flowing w.srv) (hp : Phase cookie fd w) (hsock : w.sock = some c)
    (hpair : .registered c v ∈ w.srv.log) :
    receivedOn c w.srv.log ++ w.toServer = w.handedOver ∧
      ((Waiting fd emptyConvert (receivedOn v w.srv.log) (w.arrived fd) ∧ w.handedOver = []) ∨
        Passed fd (receivedOn v w.srv.log) (w.arrived fd)) := by
  cases hp with
  | fresh hquiet _ _ | asked hquiet _ _ _ _ =>
    rw [hquiet.sock] at hsock
    cases hsock
  | refused c' _ hsock' _ hfree =>
    obtain rfl := Option.some.inj (hsock'.symm.trans hsock)
    exact (hfree v (Or.inl hpair)).elim
  | paired c' v' _ hsock' hpair' hup hdown =>
    obtain rfl := Option.some.inj (hsock'.symm.trans hsock)
    obtain rfl := hs.sound.partner _ _ _ (Or.inl hpair') (Or.inl hpair)
    exact ⟨hup, hdown⟩

end Invariant

/-- Whatever the order of the steps, the destination has got what the application handed over, up to what is
still on the wire, and the application what the destination sent, up to what is on its way or waits to be
read. Nothing of the Convert protocol reaches either of them. -/
theorem tunnel_transparent (scapy : Scapy) (cookie : Option Block) (fd : ℤ) (w₀ w : World)
    (h₀ : Starts fd w₀) (h : SmoothRun scapy cookie fd w₀ w) (c v : ℕ) (hsock : w.sock = some c)
    (hpair : .registered c v ∈ w.srv.log) :
    sentOn v w.srv.log ++ w.toServer = w.handedOver ∧
      (w.lib.htable.lookup fd = some true → received fd w.lib.log = [] ∧ w.handedOver = []) ∧
      (w.lib.htable.lookup fd = some false →
        received fd w.lib.log ++ w.lib.inbox fd ++ w.fromServer = receivedOn v w.srv.log) := by
  have hi : Inv cookie fd w := run_inv h₀ h
  obtain ⟨hup, hdown⟩ := paired_unique hi.flowing hi.phase hsock hpair
  refine ⟨?_, fun htracked => ?_, fun huntracked => ?_⟩
  · rw [(hi.flowing.lossless c v hpair).1]
    exact hup
  · rcases hdown with ⟨hw, hnone⟩ | hpassed
    · exact ⟨hw.received, hnone⟩
    · exact (hpassed.untracked htracked).elim
  · have hpassed := untracked_passed hdown huntracked
    rw [← hpassed.inbox, World.arrived, arrive_inbox, List.append_assoc]
    rfl

def idle : World := ⟨Client.managed [], .unconnected, .nobody, [], [], [], .start 3, none⟩

lemma idle_starts : Starts 3 idle := ⟨rfl, rfl, rfl, rfl, rfl, rfl, rfl, ⟨3, rfl⟩, rfl⟩

lemma redirectMessage_someServer {remoteAddr : SockaddrIn6}
    (h : Client.someServer.remoteAddr = some remoteAddr) :
    redirectMessage none remoteAddr = connectMessage := by
  cases h
  rfl

def asked : World :=
  { idle with
    lib := (Client.managed []).record (.redirected 3 connectMessage)
    kernel := .connected, peer := .converter, toServer := connectMessage }

lemma asked_run : SmoothRun strictScapy none 3 idle asked := by
  obtain ⟨remoteAddr, haddr⟩ : ∃ r, Client.someServer.remoteAddr = some r := ⟨_, rfl⟩
  have hneed : (redirectOpts none remoteAddr).need = 24 := Client.redirectOpts_need none remoteAddr
  have hsends : connectOn none .established 24 3 Client.someServer idle.lib idle.kernel = _ :=
    Client.connectOn_sends haddr (by rw [hneed]; decide) (Client.managed_tracked []) (by decide)
  rw [redirectMessage_someServer haddr] at hsends
  have hsmooth : Smooth none 3 (.connect Client.someServer .established .established 24) idle :=
    fun _ => ⟨rfl, rfl, remoteAddr, haddr, by rw [hneed]; decide, by rw [hneed]; rfl⟩
  have hstep : Step strictScapy none 3 (.connect Client.someServer .established .established 24) idle _ :=
    .redirect hsends rfl le_rfl
  exact .single ⟨_, hsmooth, hstep⟩

lemma server_turns : ∃ s₁ s₂ s₃, serveReady (.accept connectConn) (.start 3) = .ok () s₁ ∧
    serveReady (.serve 1 (.octets [7, 8]) (.accepts 2)) s₁ = .ok () s₂ ∧
    serveReady (.serve 2 (.octets [5, 6]) (.accepts 2)) s₂ = .ok () s₃ ∧
    s₁.log = [.dialed (dottedQuad 192 0 2 1) 8080, .replied 1 emptyConvert, .registered 1 2] ∧
    s₂.log = s₁.log ++ [.received 1 [7, 8], .forwarded 1 2 [7, 8]] ∧
    s₃.log = s₂.log ++ [.received 2 [5, 6], .forwarded 2 1 [5, 6]] :=
  ⟨_, _, _, rfl, rfl, rfl, rfl, rfl, rfl⟩

def tunnelled (lib : Library) (toServer fromServer handedOver : Bytes) (srv : TcServer) : World :=
  ⟨lib, .connected, .converter, toServer, fromServer, handedOver, srv, some 1⟩

lemma smooth_tail {w v : World} {move : Move} (h : SmoothRun strictScapy none 3 idle w)
    (hstep : Step strictScapy none 3 move w v) (hsmooth : Smooth none 3 move w) :
    SmoothRun strictScapy none 3 idle v :=
  h.tail ⟨move, hsmooth, hstep⟩

lemma accept_run {conn : Conn} {srv : TcServer} {reply : Bytes}
    (hread : ReadReturns strictScapy (.whole connectMessage) conn.read)
    (hreplies : ∀ i n, (conn.dials i).reply = .accepts n → emptyConvert.length ≤ n)
    (h : serveReady (.accept conn) (.start 3) = .ok () srv)
    (hnew : newlySent (some 1) (.start 3) srv = reply) :
    SmoothRun strictScapy none 3 idle (tunnelled asked.lib [] reply [] srv) := by
  subst hnew
  have hstep : Step strictScapy none 3 (.accept conn (.whole connectMessage)) asked
      (tunnelled asked.lib [] (newlySent (some 1) (.start 3) srv) [] srv) :=
    .accept ⟨rfl, rfl⟩ rfl (by decide) (whole_from connectMessage (by decide)) hread h
  exact smooth_tail asked_run hstep ⟨rfl, hreplies⟩

def replied : Library := arrive asked.lib 3 emptyConvert
def passed : Library := (replied.consume 3 4).freeState 3

lemma replied_inbox : replied.inbox 3 = emptyConvert := rfl

lemma replied_length : (replied.inbox 3).length = sizeofConvertHeader := by
  rw [replied_inbox]
  rfl

lemma readConvert_replied :
    readConvert Client.willing 0 false 3 replied = some (.returns syscallRun passed) := by
  have hhdr : Client.willing.header.octets (replied.inbox 3) sizeofConvertHeader = some emptyConvert := by
    rw [replied_inbox]
    rfl
  rw [Client.readConvert_headerOnly hhdr emptyConvert_header]
  rfl

lemma willing_waits : Client.willing.Waits := ⟨Or.inr rfl, Or.inr rfl⟩

section Accepted

variable {srv : TcServer} (h : serveReady (.accept connectConn) (.start 3) = .ok () srv)
  (hlog : srv.log = [.dialed (dottedQuad 192 0 2 1) 8080, .replied 1 emptyConvert, .registered 1 2])

include h hlog

lemma answered_run : SmoothRun strictScapy none 3 idle (tunnelled replied [] [] [] srv) := by
  have hnew : newlySent (some 1) (.start 3) srv = emptyConvert := by
    rw [newlySent, hlog]
    rfl
  have hstep : Step strictScapy none 3 (.deliver emptyConvert)
      (tunnelled asked.lib [] emptyConvert [] srv) (tunnelled replied [] [] [] srv) :=
    .deliver (List.append_nil emptyConvert).symm
  exact smooth_tail (accept_run connectConn_read connectConn_replies h hnew) hstep trivial

lemma read_run : SmoothRun strictScapy none 3 idle (tunnelled passed [] [] [] srv) := by
  have hthere : Waited 3 Client.willing (tunnelled replied [] [] [] srv) := by
    refine ⟨fun _ => Or.inl replied_length.ge, fun _ length hheader => Or.inl ?_⟩
    have hnone : convertParseHeader ((replied.inbox 3).take sizeofConvertHeader) = some 0 := by
      rw [replied_inbox]
      exact emptyConvert_header
    obtain rfl : 0 = length := Option.some.inj (hnone.symm.trans hheader)
    exact replied_length.ge
  have hstep : Step strictScapy none 3 (.read Client.willing) (tunnelled replied [] [] [] srv)
      (tunnelled passed [] [] [] srv) := .read rfl hthere readConvert_replied
  exact smooth_tail (answered_run h hlog) hstep willing_waits

end Accepted

lemma sent_run : ∃ w, SmoothRun strictScapy none 3 idle w ∧ w.sock = some 1 ∧
    .registered 1 2 ∈ w.srv.log ∧ w.lib.htable.lookup 3 = some false ∧ w.handedOver = [7, 8, 9] ∧
    w.toServer = [9] ∧ w.fromServer = [6] ∧ received 3 w.lib.log = [5] ∧
    receivedOn 2 w.srv.log = [5, 6] := by
  obtain ⟨s₁, s₂, s₃, h₁, h₂, h₃, hlog₁, hlog₂, hlog₃⟩ := server_turns
  let takes (n : ℤ) : Answers := { Client.willing with send := n }
  let lib₁ := passed.record (.send 3 [])
  let lib₂ := lib₁.record (.send 3 [])
  let lib₃ := arrive lib₂ 3 [5]
  let lib₄ := (lib₃.record (.recv 3 [5] [5] false)).consume 3 1
  have h := read_run h₁ hlog₁
  have hsend : Step strictScapy none 3 (.send (takes 2) [7, 8]) (tunnelled passed [] [] [] s₁)
      (tunnelled lib₁ [7, 8] [] [7, 8] s₁) := .send rfl (fun _ => rfl) le_rfl rfl
  have h := smooth_tail h hsend trivial
  have hknown : Known s₁ (.serve 1 (.octets [7, 8]) (.accepts 2)) := ⟨2, Or.inl (by rw [hlog₁]; simp)⟩
  have hquiet : newlySent (some 1) s₁ s₂ = [] := by
    rw [newlySent, hlog₂, hlog₁]
    rfl
  have hforward : Step strictScapy none 3 (.turn (.serve 1 (.octets [7, 8]) (.accepts 2)))
      (tunnelled lib₁ [7, 8] [] [7, 8] s₁)
      (tunnelled lib₁ [] ([] ++ newlySent (some 1) s₁ s₂) [7, 8] s₂) := .turn hknown rfl h₂
  rw [hquiet] at hforward
  have h := smooth_tail h hforward (generous_serve (x := 1) le_rfl)
  have hmore : Step strictScapy none 3 (.send (takes 1) [9, 1]) (tunnelled lib₁ [] [] [7, 8] s₂)
      (tunnelled lib₂ [9] [] [7, 8, 9] s₂) := .send rfl (fun _ => rfl) (by decide) rfl
  have h := smooth_tail h hmore trivial
  have hknown : Known s₂ (.serve 2 (.octets [5, 6]) (.accepts 2)) :=
    ⟨1, Or.inr (by rw [hlog₂, hlog₁]; simp)⟩
  have hback : newlySent (some 1) s₂ s₃ = [5, 6] := by
    rw [newlySent, hlog₃, hlog₂, hlog₁]
    rfl
  have hreturn : Step strictScapy none 3 (.turn (.serve 2 (.octets [5, 6]) (.accepts 2)))
      (tunnelled lib₂ [9] [] [7, 8, 9] s₂)
      (tunnelled lib₂ [9] ([] ++ newlySent (some 1) s₂ s₃) [7, 8, 9] s₃) := .turn hknown rfl h₃
  rw [hback] at hreturn
  have h := smooth_tail h hreturn (generous_serve (x := 2) le_rfl)
  have hdeliver : Step strictScapy none 3 (.deliver [5]) (tunnelled lib₂ [9] [5, 6] [7, 8, 9] s₃)
      (tunnelled lib₃ [9] [6] [7, 8, 9] s₃) := .deliver rfl
  have h := smooth_tail h hdeliver trivial
  have hrecv : Step strictScapy none 3 (.recv Client.willing 10 false)
      (tunnelled lib₃ [9] [6] [7, 8, 9] s₃) (tunnelled lib₄ [9] [6] [7, 8, 9] s₃) := .recv rfl rfl
  have h := smooth_tail h hrecv trivial
  refine ⟨_, h, rfl, ?_, rfl, rfl, rfl, rfl, rfl, ?_⟩
  · change Event.registered 1 2 ∈ s₃.log
    rw [hlog₃, hlog₂, hlog₁]
    simp
  · change receivedOn 2 s₃.log = [5, 6]
    rw [hlog₃, hlog₂, hlog₁]
    rfl

theorem tunnel_transparent_sent : ∃ w, SmoothRun strictScapy none 3 idle w ∧ w.handedOver = [7, 8, 9] ∧
    w.toServer = [9] ∧ w.fromServer = [6] ∧ received 3 w.lib.log = [5] ∧ receivedOn 2 w.srv.log = [5, 6] ∧
    sentOn 2 w.srv.log ++ w.toServer = w.handedOver ∧
    received 3 w.lib.log ++ w.lib.inbox 3 ++ w.fromServer = receivedOn 2 w.srv.log := by
  obtain ⟨w, hrun, hsock, hpair, huntracked, hsent, hwire, hfrom, hgiven, hgot⟩ := sent_run
  obtain ⟨hup, -, hdown⟩ := tunnel_transparent strictScapy none 3 idle w idle_starts hrun 1 2 hsock hpair
  exact ⟨w, hrun, hsent, hwire, hfrom, hgiven, hgot, hup, hdown huntracked⟩

/-- The server reads the message before the application can hand anything over, so that it finds nothing of
the application behind it; and a connection without a destination carries nothing. -/
theorem tunnel_ordered (scapy : Scapy) (cookie : Option Block) (fd : ℤ) (w₀ w : World)
    (h₀ : Starts fd w₀) (h : SmoothRun scapy cookie fd w₀ w) :
    (w.sock = none → w.handedOver = [] ∧
      (w.toServer = [] ∨ ∃ remoteAddr, w.toServer = redirectMessage cookie remoteAddr)) ∧
    ((∀ c v, w.sock = some c → .registered c v ∉ w.srv.log) →
      received fd w.lib.log = [] ∧ ∀ c, w.sock = some c → receivedOn c w.srv.log = []) := by
  have hi : Inv cookie fd w := run_inv h₀ h
  refine ⟨fun hnone => ?_, fun hfree => ?_⟩
  · cases hi.phase with
    | fresh hquiet _ hwire => exact ⟨hquiet.handedOver, Or.inl hwire⟩
    | asked hquiet _ remoteAddr _ hwire => exact ⟨hquiet.handedOver, Or.inr ⟨remoteAddr, hwire⟩⟩
    | refused _ _ hsock | paired _ _ _ hsock =>
      rw [hnone] at hsock
      cases hsock
  · cases hi.phase with
    | fresh hquiet _ _ | asked hquiet _ _ _ _ =>
      refine ⟨hquiet.received, fun c hsock => ?_⟩
      rw [hquiet.sock] at hsock
      cases hsock
    | refused c _ hsock _ hunpaired _ _ hreceived =>
      refine ⟨hreceived, fun c' hsock' => ?_⟩
      obtain rfl := Option.some.inj (hsock.symm.trans hsock')
      exact (hi.flowing.quiet _ hunpaired).2
    | paired c v _ hsock hpair => exact (hfree c v hsock hpair).elim

def refusedConn : Conn := { connectConn with dials := fun _ => { obliging with connects := false } }

lemma server_refuses : ∃ srv, serveReady (.accept refusedConn) (.start 3) = .ok () srv ∧
    srv.log = [.dialed (dottedQuad 192 0 2 1) 8080] ∧ srv.fileno 1 = -1 :=
  ⟨_, rfl, rfl, rfl⟩

lemma refused_run : ∃ srv, SmoothRun strictScapy none 3 idle (tunnelled asked.lib [] [] [] srv) ∧
    srv.log = [.dialed (dottedQuad 192 0 2 1) 8080] ∧ srv.fileno 1 = -1 := by
  obtain ⟨srv, h, hlog, hclosed⟩ := server_refuses
  have hnew : newlySent (some 1) (.start 3) srv = [] := by
    rw [newlySent, hlog]
    rfl
  have hread : ReadReturns strictScapy (.whole connectMessage) refusedConn.read := connectConn_read
  exact ⟨srv, accept_run hread connectConn_replies h hnew, hlog, hclosed⟩

theorem tunnel_ordered_asked :
    (SmoothRun strictScapy none 3 idle asked ∧ asked.sock = none ∧ asked.toServer ≠ [] ∧
      asked.handedOver = [] ∧
      (asked.toServer = [] ∨ ∃ remoteAddr, asked.toServer = redirectMessage none remoteAddr)) ∧
    ∃ srv, SmoothRun strictScapy none 3 idle (tunnelled asked.lib [] [] [] srv) ∧
      received 3 asked.lib.log = [] ∧ receivedOn 1 srv.log = [] := by
  obtain ⟨hearly, -⟩ := tunnel_ordered strictScapy none 3 idle asked idle_starts asked_run
  obtain ⟨srv, hrun, hlog, -⟩ := refused_run
  obtain ⟨-, hapart⟩ := tunnel_ordered strictScapy none 3 idle _ idle_starts hrun
  have hfree : ∀ c v, (tunnelled asked.lib [] [] [] srv).sock = some c → .registered c v ∉ srv.log := by
    intro c v _
    rw [hlog]
    simp
  obtain ⟨hreceived, hread⟩ := hapart hfree
  exact ⟨⟨asked_run, rfl, by decide, hearly rfl⟩, srv, hrun, hreceived, hread 1 rfl⟩

/-- A read of the reply that does not fail tells the client the call may go on if and only if the server has
a destination for it. -/
theorem tunnel_agrees (scapy : Scapy) (cookie : Option Block) (fd : ℤ) (w₀ w : World)
    (h₀ : Starts fd w₀) (h : SmoothRun scapy cookie fd w₀ w) (a : Answers) (fuel : ℕ) (result : ℤ)
    (lib : Library) (htracked : w.lib.htable.lookup fd = some true) (hwaits : a.Waits)
    (hall : a.header = .all) (hthere : sizeofConvertHeader ≤ (w.lib.inbox fd).length ∨ w.Ended)
    (hread : readConvert a fuel false fd w.lib = some (.returns result lib)) :
    (result = syscallRun ∧ ∃ c v, w.sock = some c ∧ .registered c v ∈ w.srv.log) ∨
      (result = syscallSkip ∧ ∃ c, w.sock = some c ∧ ∀ v, .registered c v ∉ w.srv.log) := by
  have hi : Inv cookie fd w := run_inv h₀ h
  cases hi.phase with
  | fresh hquiet _ _ | asked hquiet _ _ _ _ =>
    rcases hthere with hlong | ⟨⟨c, hsock, -⟩, -⟩
    · rw [hquiet.inbox] at hlong
      cases hlong
    · rw [hquiet.sock] at hsock
      cases hsock
  | refused c _ hsock _ hfree hinbox _ _ =>
    exact Or.inr ⟨(empty_read hinbox hread).1, c, hsock, fun v hv => hfree v (Or.inl hv)⟩
  | paired c v _ hsock hpair _ hdown =>
    left
    rcases hdown with ⟨hw, -⟩ | hpassed
    · obtain ⟨d, -, hwaiting⟩ := waiting_delivered hw (hthere.imp_right And.right)
      rcases waiting_read hwaiting hwaits hread with ⟨hfails, -, -⟩ | ⟨hresult, -⟩
      · rw [hall] at hfails
        cases hfails
      · exact ⟨hresult, c, v, hsock, hpair⟩
    · exact (hpassed.untracked htracked).elim

theorem tunnel_agrees_accepted :
    (∃ w lib, SmoothRun strictScapy none 3 idle w ∧
      readConvert Client.willing 0 false 3 w.lib = some (.returns syscallRun lib) ∧
      ∃ c v, w.sock = some c ∧ .registered c v ∈ w.srv.log) ∧
    ∃ w lib, SmoothRun strictScapy none 3 idle w ∧
      readConvert Client.willing 0 false 3 w.lib = some (.returns syscallSkip lib) ∧
      ∃ c, w.sock = some c ∧ ∀ v, .registered c v ∉ w.srv.log := by
  obtain ⟨s₁, -, -, h₁, -, -, hlog₁, -, -⟩ := server_turns
  obtain ⟨srv, hrefused, hlog, hclosed⟩ := refused_run
  have hanswered := answered_run h₁ hlog₁
  have hrun := tunnel_agrees strictScapy none 3 idle _ idle_starts hanswered Client.willing 0 syscallRun _
    rfl willing_waits rfl (Or.inl replied_length.ge)
    readConvert_replied
  have hread : readConvert Client.willing 0 false 3 asked.lib = some (.returns syscallSkip _) := rfl
  have hskip := tunnel_agrees strictScapy none 3 idle _ idle_starts hrefused Client.willing 0 syscallSkip _
    rfl willing_waits rfl (Or.inr ⟨⟨1, rfl, hclosed⟩, rfl⟩) hread
  refine ⟨⟨_, _, hanswered, readConvert_replied, ?_⟩, _, _, hrefused, hread, ?_⟩
  · rcases hrun with ⟨-, hpaired⟩ | ⟨hno, -⟩
    · exact hpaired
    · exact absurd hno (by decide)
  · rcases hskip with ⟨hno, -⟩ | ⟨-, hfree⟩
    · exact absurd hno (by decide)
    · exact hfree

end TransportConverter.EndToEnd.Tunnel
