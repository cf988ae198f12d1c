import TransportConverter.Server.Batch
import TransportConverter.Server.Flow
import TransportConverter.Server.Validation

/-! What a refused message leaves in the tables, from whatever state it finds. -/

namespace TransportConverter.Server

open Foundations.Memory Foundations.Effects

structure SameTables (s t : TcServer) : Prop where
  inputs : t.inputs = s.inputs
  forwardMap : t.forwardMap = s.forwardMap
  trackClientSockets : t.trackClientSockets = s.trackClientSockets
  perfLoggers : t.perfLoggers = s.perfLoggers

lemma accepts_of_ne_raises {answer : SendAnswer} (h : answer ≠ .raises) :
    ∃ n, answer = .accepts n := by
  cases answer with
  | raises => exact (h rfl).elim
  | accepts n => exact ⟨n, rfl⟩

/-- Whether some TLV raises, given whether the client is open. A dial that fails does not raise, but closes
the client, and a dial that succeeds then raises at the reply. -/
def raises (isOpen : Bool) : List TlvPacket → (ℕ → Dial) → Bool
  | [], _ => false
  | tlv :: tlvs, dials =>
    match convertTlvs tlv.hdr.type with
    | none => true
    | some .connect =>
      match tlv with
      | .connect c =>
        if (dials 0).socket.isNone then true
        else if c.remotePort.isNone ∨ (dials 0).connects = false then
          raises false tlvs fun i => dials (i + 1)
        else if isOpen = false ∨ (dials 0).reply = .raises ∨ (dials 0).logger ≠ .starts then true
        else raises true tlvs fun i => dials (i + 1)
      | _ => true
    | some _ => raises isOpen tlvs fun i => dials (i + 1)

def IsConnect (tlv : TlvPacket) : Bool := convertTlvs tlv.hdr.type = some .connect

section Raises

variable {client : ℕ} {tlv : TlvPacket} {c : ConvertTlvConnect} {tlvs : List TlvPacket}
  {dials : ℕ → Dial} {s t : TcServer}

def TcServer.hasOpen (s : TcServer) (sock : ℕ) : Bool := decide (s.fileno sock ≠ -1)

lemma raises_other {isOpen : Bool} {name : TlvName} (h : convertTlvs tlv.hdr.type = some name)
    (hname : name ≠ .connect) :
    raises isOpen (tlv :: tlvs) dials = raises isOpen tlvs fun i => dials (i + 1) := by
  cases name with
  | connect => exact (hname rfl).elim
  | info | extended | supported | cookie | error => simp only [raises, h]

lemma raises_connect {isOpen : Bool} (h : convertTlvs c.hdr.type = some .connect) :
    raises isOpen (.connect c :: tlvs) dials =
      if (dials 0).socket.isNone then true
      else if c.remotePort.isNone ∨ (dials 0).connects = false then
        raises false tlvs fun i => dials (i + 1)
      else if isOpen = false ∨ (dials 0).reply = .raises ∨ (dials 0).logger ≠ .starts then true
      else raises true tlvs fun i => dials (i + 1) := by
  have htype : convertTlvs (TlvPacket.connect c).hdr.type = some .connect := h
  rw [raises, htype]

lemma connect_goesOn (tlvs : List TlvPacket) (h : convertTlvs c.hdr.type = some .connect)
    (hlt : client < s.nextSock) :
    ((∃ e t, handleTlvConnect (.connect c) client (dials 0) s = .error e t) ∧
      raises (s.hasOpen client) (.connect c :: tlvs) dials = true) ∨
    ∃ u, handleTlvConnect (.connect c) client (dials 0) s = .ok () u ∧ client < u.nextSock ∧
      raises (s.hasOpen client) (.connect c :: tlvs) dials =
        raises (u.hasOpen client) tlvs fun i => dials (i + 1) := by
  have hne : client ≠ s.nextSock := Nat.ne_of_lt hlt
  have hlt' : client < s.nextSock + 1 := Nat.lt_succ_of_lt hlt
  rw [raises_connect h]
  cases hsocket : (dials 0).socket with
  | none => exact Or.inl ⟨⟨_, s, handleTlvConnect_noSocket hsocket⟩, rfl⟩
  | some fd =>
    have hgone : ∀ u : TcServer, ((u.closed client).closed s.nextSock).hasOpen client = false := by
      intro u
      rw [TcServer.hasOpen, closed_fileno_of_ne hne, closed_fileno_self]
      rfl
    cases hport : c.remotePort with
    | none =>
      refine Or.inr ⟨_, handleTlvConnect_noPort hsocket hport, hlt', ?_⟩
      rw [hgone (s.opened fd)]
      simp
    | some port =>
      cases hconnects : (dials 0).connects with
      | false =>
        refine Or.inr ⟨_, handleTlvConnect_refused hsocket hport hconnects, hlt', ?_⟩
        rw [hgone (s.dialling fd c port)]
        simp
      | true =>
        have hopened : (s.opened fd).fileno client = s.fileno client := opened_fileno_of_lt hlt
        by_cases hnoReply : s.fileno client = -1 ∨ (dials 0).reply = .raises
        · refine Or.inl ⟨⟨_, _, handleTlvConnect_noReply hsocket hport hconnects ?_⟩, ?_⟩
          · rwa [hopened]
          · rcases hnoReply with hclosed | hraises
            · simp [TcServer.hasOpen, hclosed]
            · simp [hraises]
        · obtain ⟨hopen, hreply⟩ := not_or.mp hnoReply
          obtain ⟨n, hn⟩ := accepts_of_ne_raises hreply
          have hpaired : handleTlvConnect (.connect c) client (dials 0) s = _ :=
            handleTlvConnect_paired hsocket hport hconnects (by rwa [hopened]) hn
          rw [hpaired]
          cases hlogger : (dials 0).logger with
          | initRaises | runRaises => exact Or.inl ⟨⟨_, _, rfl⟩, by simp⟩
          | starts =>
            have hstill : ((s.paired fd c port client n).addLogger client .running).fileno client =
                s.fileno client := hopened
            refine Or.inr ⟨_, rfl, hlt', ?_⟩
            simp only [TcServer.hasOpen, hstill, hn]
            simp [hopen]

lemma handleTlvs_raises_iff (hlt : client < s.nextSock) :
    (∃ e t, handleTlvs client tlvs dials s = .error e t) ↔
      raises (s.hasOpen client) tlvs dials = true := by
  induction tlvs generalizing dials s with
  | nil =>
    constructor
    · rintro ⟨e, t, h⟩
      cases h
    · intro h
      cases h
  | cons tlv tlvs ih =>
    cases htype : convertTlvs tlv.hdr.type with
    | none =>
      simp only [handleTlvs_unknown htype, raises, htype, iff_true]
      exact ⟨_, s, rfl⟩
    | some name =>
      by_cases hname : name = .connect
      · subst hname
        rw [handleTlvs_connect htype]
        cases tlv with
        | convertTlv _ | info _ | error _ =>
          simp only [raises, htype, iff_true]
          exact ⟨_, s, rfl⟩
        | connect c =>
          rcases connect_goesOn tlvs htype hlt with ⟨⟨e, t, herror⟩, htrue⟩ | ⟨u, hok, hlt', hrest⟩
          · rw [bind_of_error herror, htrue]
            exact ⟨fun _ => rfl, fun _ => ⟨e, t, rfl⟩⟩
          · rw [bind_of_ok hok, hrest]
            exact ih hlt'
      · rw [handleTlvs_other htype hname, raises_other htype hname]
        exact ih hlt

lemma handleTlvs_raises_open (hlt : client < s.nextSock) (hopen : s.fileno client ≠ -1) :
    (∃ e t, handleTlvs client tlvs dials s = .error e t) ↔ raises true tlvs dials = true := by
  have hflag : s.hasOpen client = true := decide_eq_true hopen
  rw [handleTlvs_raises_iff hlt, hflag]

end Raises

section Pairings

variable {client : ℕ} {tlv : TlvPacket} {tlvs : List TlvPacket} {dials : ℕ → Dial} {a : Dial}
  {raised : Bool} {s t : TcServer}

lemma TlvOutcome.sameTables (hlt : client < s.nextSock) (h : TlvOutcome client tlv a s raised t)
    (hnone : s.fileno client = -1 ∨ ¬ a.Pairs tlv) : SameTables s t := by
  cases h with
  | notMade | noPort fd | refused fd host port | noReply fd host port => exact ⟨rfl, rfl, rfl, rfl⟩
  | paired fd host port n hpairs hopen _ _ _ =>
    rw [opened_fileno_of_lt hlt] at hopen
    exact (hnone.elim hopen fun h => h hpairs).elim

lemma TlvOutcome.inputs (h : TlvOutcome client tlv a s raised t) : s.inputs <+: t.inputs := by
  cases h with
  | notMade | noPort fd | refused fd host port | noReply fd host port => exact List.prefix_rfl
  | paired fd host port n _ _ _ _ _ =>
    rw [withLogger_inputs]
    exact List.prefix_append _ _

lemma tlvSteps_inputs (h : Relation.ReflTransGen (TlvStep client) s t) : s.inputs <+: t.inputs := by
  induction h with
  | refl => exact List.prefix_rfl
  | tail _ hstep ih =>
    obtain ⟨_, _, _, hout⟩ := hstep
    exact ih.trans hout.inputs

lemma TlvOutcome.fileno {x : ℕ} (h : TlvOutcome client tlv a s raised t) (hx : x < s.nextSock)
    (hne : x ≠ client) : t.fileno x = s.fileno x := by
  have hnew : x ≠ s.nextSock := Nat.ne_of_lt hx
  cases h with
  | notMade => rfl
  | noPort fd | refused fd host port =>
    rw [closed_fileno_of_ne hnew, closed_fileno_of_ne hne]
    exact opened_fileno_of_lt hx
  | noReply fd host port =>
    rw [closed_fileno_of_ne hnew]
    exact opened_fileno_of_lt hx
  | paired fd host port n _ _ _ _ _ =>
    rw [withLogger_fileno]
    exact opened_fileno_of_lt hx

lemma tlvSteps_fileno {x : ℕ} (h : Relation.ReflTransGen (TlvStep client) s t) (hx : x < s.nextSock)
    (hne : x ≠ client) : x < t.nextSock ∧ t.fileno x = s.fileno x := by
  induction h with
  | refl => exact ⟨hx, rfl⟩
  | tail _ hstep ih =>
    obtain ⟨_, _, _, hout⟩ := hstep
    exact ⟨ih.1.trans_le hout.nextSock_le, (hout.fileno ih.1 hne).trans ih.2⟩

lemma SameTables.refl (s : TcServer) : SameTables s s := ⟨rfl, rfl, rfl, rfl⟩

lemma SameTables.trans {u : TcServer} (h : SameTables s t) (h' : SameTables t u) : SameTables s u :=
  ⟨h'.inputs.trans h.inputs, h'.forwardMap.trans h.forwardMap,
    h'.trackClientSockets.trans h.trackClientSockets, h'.perfLoggers.trans h.perfLoggers⟩

lemma sameTables_of_no_pairing (hlt : client < s.nextSock)
    (hnone : s.fileno client = -1 ∨ pairings tlvs dials = 0)
    (h : Leaves (handleTlvs client tlvs dials) s t) : SameTables s t := by
  induction tlvs generalizing dials s with
  | nil =>
    rw [leaves_handleTlvs_nil h]
    exact .refl s
  | cons tlv tlvs ih =>
    rcases leaves_handleTlvs_cons h with
      ⟨-, rfl⟩ | ⟨htype, hconnect⟩ | ⟨name, htype, hname, hrest⟩
    · exact .refl t
    · have hout : Outcome client tlv (dials 0) s (handleTlvConnect tlv client (dials 0) s) :=
        handleTlvConnect_outcome tlv
      have hidle : s.fileno client = -1 ∨ ¬ (dials 0).Pairs tlv := by
        refine hnone.imp_right fun hzero hpairs => ?_
        rw [pairings_connect htype, if_pos hpairs] at hzero
        omega
      rcases hconnect with ⟨_, h⟩ | ⟨u, h, hrest⟩
      · rw [h] at hout
        exact hout.sameTables hlt hidle
      · rw [h] at hout
        refine (hout.sameTables hlt hidle).trans (ih (hlt.trans_le hout.nextSock_le) ?_ hrest)
        rcases hout.closes hlt with hclosed | ⟨hpairs, hopen, -⟩
        · exact Or.inl hclosed
        · exact (hidle.elim hopen fun h => h hpairs).elim
    · rw [pairings_other htype hname] at hnone
      exact ih hlt hnone hrest

lemma first_pairing (hlt : client < s.nextSock) (hopen : s.fileno client ≠ -1)
    (hpairs : pairings tlvs dials ≠ 0) :
    ∃ fd c port n logger rest dials', handleTlvs client tlvs dials s =
        (startLogger client logger >>= fun _ => handleTlvs client rest dials')
          (s.paired fd c port client n) ∧
      tlvs.countP IsConnect = 1 + rest.countP IsConnect := by
  induction tlvs generalizing dials with
  | nil => exact (hpairs rfl).elim
  | cons tlv tlvs ih =>
    cases htype : convertTlvs tlv.hdr.type with
    | none => simp [pairings, htype] at hpairs
    | some name =>
      by_cases hname : name = .connect
      · subst hname
        rw [pairings_connect htype] at hpairs
        have hdial : (dials 0).Pairs tlv := by
          by_contra hnot
          exact hpairs (if_neg hnot)
        obtain ⟨hsocket, hport, hconnects, hreply⟩ := hdial
        cases tlv with
        | convertTlv _ | info _ | error _ => cases hport
        | connect c =>
          obtain ⟨fd, hfd⟩ := Option.isSome_iff_exists.mp hsocket
          obtain ⟨port, hport⟩ : ∃ port, c.remotePort = some port := Option.isSome_iff_exists.mp hport
          obtain ⟨n, hn⟩ := accepts_of_ne_raises hreply
          refine ⟨fd, c, port, n, (dials 0).logger, tlvs, fun i => dials (i + 1), ?_, ?_⟩
          · have hpaired : handleTlvConnect (.connect c) client (dials 0) s = _ :=
              handleTlvConnect_paired hfd hport hconnects (by rwa [opened_fileno_of_lt hlt]) hn
            rw [handleTlvs_connect htype]
            cases hlogger : startLogger client (dials 0).logger (s.paired fd c port client n) with
            | ok b u => rw [bind_of_ok (hpaired.trans hlogger), bind_of_ok hlogger]
            | error e u => rw [bind_of_error (hpaired.trans hlogger), bind_of_error hlogger]
          · rw [List.countP_cons_of_pos (by simp [IsConnect, htype]), Nat.add_comm]
      · rw [pairings_other htype hname] at hpairs
        obtain ⟨fd, c, port, n, logger, rest, dials', heq, hcount⟩ := ih hpairs
        refine ⟨fd, c, port, n, logger, rest, dials', ?_, ?_⟩
        · rw [handleTlvs_other htype hname, heq]
        · rw [List.countP_cons_of_neg (by simp [IsConnect, htype, hname]), hcount]

lemma leaves_startLogger {logger : LoggerAnswer} (h : Leaves (startLogger client logger) s t) :
    t = s.withLogger client logger := by
  rcases h with ⟨_, h⟩ | ⟨_, h⟩ <;> cases logger <;> cases h <;> rfl

lemma not_sameTables_of_pairing (hlt : client < s.nextSock) (hopen : s.fileno client ≠ -1)
    (hpairs : pairings tlvs dials ≠ 0) (h : Leaves (handleTlvs client tlvs dials) s t) :
    ¬ SameTables s t := by
  obtain ⟨fd, c, port, n, logger, rest, dials', heq, -⟩ := first_pairing hlt hopen hpairs
  rw [Leaves, heq] at h
  have hlogger : (s.paired fd c port client n).inputs <+: t.inputs := by
    rcases leaves_bind h with ⟨e, hraised⟩ | ⟨_, u, hok, hrest⟩
    · obtain rfl := leaves_startLogger (Or.inr ⟨e, hraised⟩)
      cases logger <;> exact List.prefix_rfl
    · obtain rfl := leaves_startLogger (Or.inl ⟨_, hok⟩)
      have hinputs := tlvSteps_inputs (handleTlvs_steps hrest)
      cases logger <;> exact hinputs
  intro hsame
  have hlen := hlogger.length_le
  rw [hsame.inputs] at hlen
  simp [TcServer.paired, TcServer.register, TcServer.record, TcServer.dialling, TcServer.opened] at hlen

end Pairings

/-- A refusal takes nothing back: what a TLV registered before the exception stays registered. -/
theorem refused_sameTables_iff (s : TcServer) (client : ℕ) (read : ReadResult) (dials : ℕ → Dial)
    (hlt : client < s.nextSock) (hopen : s.fileno client ≠ -1) :
    (∀ t, handleConnection client read dials s = .ok false t → SameTables s t) ↔
      ∀ convert, read = .header convert →
        raises true convert.tlvs dials = false ∨ pairings convert.tlvs dials = 0 := by
  constructor
  · rintro h convert rfl
    by_contra hnot
    obtain ⟨hraises, hpairs⟩ := not_or.mp hnot
    rw [Bool.not_eq_false] at hraises
    obtain ⟨e, t, herror⟩ := (handleTlvs_raises_open hlt hopen).mpr hraises
    have hfalse : handleConnection client (.header convert) dials s = .ok false t := by
      simp only [handleConnection, herror]
    exact not_sameTables_of_pairing hlt hopen hpairs (Or.inr ⟨e, herror⟩) (h t hfalse)
  · intro h t hfalse
    cases read with
    | raised | nothing =>
      cases hfalse
      exact .refl s
    | header convert =>
      obtain ⟨e, herror⟩ := handleConnection_header hfalse
      rcases h convert rfl with hraises | hzero
      · have htrue := (handleTlvs_raises_open hlt hopen).mp ⟨e, t, herror⟩
        rw [hraises] at htrue
        cases htrue
      · exact sameTables_of_no_pairing hlt (Or.inr hzero) (Or.inr ⟨e, herror⟩)

def acceptedStart : TcServer := (TcServer.start 3).accepted .above

theorem refused_sameTables_noReply :
    ∃ t, handleConnection 1 connectConn.read (fun _ => ⟨some .above, true, .raises, .starts⟩)
        acceptedStart = .ok false t ∧ SameTables acceptedStart t := by
  have hcond : ∀ convert, connectConn.read = .header convert →
      raises true convert.tlvs (fun _ => ⟨some .above, true, .raises, .starts⟩) = false ∨
        pairings convert.tlvs (fun _ => ⟨some .above, true, .raises, .starts⟩) = 0 := by
    intro convert hread
    obtain rfl := ReadResult.header.inj hread
    exact Or.inr (by decide)
  exact ⟨_, rfl, (refused_sameTables_iff acceptedStart 1 connectConn.read _ (by decide) (by decide)).mpr
    hcond _ rfl⟩

/-- The logger does not start: the message is refused, and its pair stays in the tables. -/
theorem unstarted_logger_registered :
    ∃ t, handleConnection 1 connectConn.read (fun _ => ⟨some .above, true, .accepts 4, .runRaises⟩)
        acceptedStart = .ok false t ∧
      acceptedStart.inputs = [listener] ∧ t.inputs = [listener, 2, 1] ∧
      ¬ SameTables acceptedStart t := by
  refine ⟨_, rfl, rfl, rfl, fun h => ?_⟩
  have hinputs := congrArg List.length h.inputs
  cases hinputs

end TransportConverter.Server
