import TransportConverter.Server.Pairing

/-! Which messages the server turns away. -/

namespace TransportConverter.Server

open Foundations.Memory Foundations.Effects Wire

def dialed (log : List Event) : List (Text × ℕ) :=
  log.filterMap fun
    | .dialed host port => some (host, port)
    | _ => none

inductive Tiled : Bytes → Prop
  | nil : Tiled []
  | cons {type length : UInt8} {value rest : Bytes} (hpositive : 1 ≤ length)
      (hvalue : 2 + value.length = 4 * length.toNat) (hknown : convertTlvs type ≠ none)
      (hconnect : convertTlvs type = some .connect → length = 5) (hrest : Tiled rest) :
      Tiled (type :: length :: value ++ rest)

inductive WellFormed : Bytes → Prop
  | intro {totalLength : UInt8} {words rest : Bytes} (hpositive : 1 ≤ totalLength)
      (hpresent : words.length = 4 * (totalLength.toNat - 1)) (htiled : Tiled words) :
      WellFormed (1 :: totalLength :: 0x22 :: 0x63 :: words ++ rest)

structure TurnedAway (s t : TcServer) (client : ℕ) : Prop where
  dialed : dialed t.log = dialed s.log
  inputs : t.inputs = s.inputs
  forwardMap : t.forwardMap = s.forwardMap
  perfLoggers : t.perfLoggers = s.perfLoggers
  isClosed : t.fileno client = -1

/-- Whatever the sockets answer, a message that is not well formed is turned away. -/
def Validates (scapy : Scapy) (message : Bytes) : Prop :=
  ¬ WellFormed message →
    ∃ read, ReadReturns scapy (.whole message) read ∧
      ∀ s t fd dials, acceptConnection ⟨fd, read, dials⟩ s = .ok () t →
        TurnedAway s t s.nextSock

/-- No CONNECT TLV with a port stands before the first TLV that raises. -/
def Dialless : List TlvPacket → Prop
  | [] => True
  | tlv :: tlvs =>
    match convertTlvs tlv.hdr.type with
    | none => True
    | some .connect =>
      match tlv with
      | .connect tlv => tlv.remotePort = none ∧ Dialless tlvs
      | _ => True
    | some _ => Dialless tlvs

def Acts (tlv : TlvPacket) : Prop :=
  convertTlvs tlv.hdr.type = none ∨ convertTlvs tlv.hdr.type = some .connect

def Refused (tlvs : List TlvPacket) : Prop := Dialless tlvs ∧ ∃ tlv ∈ tlvs, Acts tlv

section Refused

variable {s t : TcServer} {client : ℕ} {tlv : TlvPacket} {tlvs : List TlvPacket} {dials : ℕ → Dial}
  {a : Dial}

structure Unmoved (s t : TcServer) : Prop where
  log : t.log = s.log
  inputs : t.inputs = s.inputs
  forwardMap : t.forwardMap = s.forwardMap
  perfLoggers : t.perfLoggers = s.perfLoggers

lemma Unmoved.refl (s : TcServer) : Unmoved s s := ⟨rfl, rfl, rfl, rfl⟩

lemma Unmoved.trans {u : TcServer} (h : Unmoved s t) (h' : Unmoved t u) : Unmoved s u :=
  ⟨h'.log.trans h.log, h'.inputs.trans h.inputs, h'.forwardMap.trans h.forwardMap,
    h'.perfLoggers.trans h.perfLoggers⟩

lemma unmoved_accepted (fd : FdChoice) : Unmoved s (s.accepted fd) := by
  unfold TcServer.accepted
  rcases bindClient_cases (s := s.opened fd) s.nextSock with h | ⟨_, -, h⟩
  · rw [h]
    exact ⟨rfl, rfl, rfl, rfl⟩
  · rw [h]
    exact ⟨rfl, rfl, rfl, rfl⟩

lemma handleTlvConnect_portless {tlv : ConvertTlvConnect} (hport : tlv.remotePort = none) :
    handleTlvConnect (.connect tlv) client a s = .error .osError s ∨
      ∃ fd, handleTlvConnect (.connect tlv) client a s =
        .ok () (((s.opened fd).closed client).closed s.nextSock) := by
  cases hmake : a.socket with
  | none => exact Or.inl (handleTlvConnect_noSocket hmake)
  | some fd => exact Or.inr ⟨fd, handleTlvConnect_noPort hmake hport⟩

lemma dialless_connect {tlv : ConvertTlvConnect} (h : convertTlvs tlv.hdr.type = some .connect) :
    Dialless (.connect tlv :: tlvs) ↔ tlv.remotePort = none ∧ Dialless tlvs := by
  have htype : convertTlvs (TlvPacket.connect tlv).hdr.type = some .connect := h
  rw [Dialless, htype]

lemma dialless_other {name : TlvName} (h : convertTlvs tlv.hdr.type = some name)
    (hname : name ≠ .connect) : Dialless (tlv :: tlvs) ↔ Dialless tlvs := by
  cases name with
  | connect => exact (hname rfl).elim
  | info | extended | supported | cookie | error => simp only [Dialless, h]

lemma handleTlvConnect_foreign (h : ∀ c, tlv ≠ .connect c) :
    handleTlvConnect tlv client a s = .error .attributeError s := by
  cases tlv with
  | connect c => exact (h c rfl).elim
  | convertTlv _ | info _ | error _ => rfl

lemma Dialless.unmoved (hidle : Dialless tlvs) (h : Leaves (handleTlvs client tlvs dials) s t) :
    Unmoved s t := by
  induction tlvs generalizing dials s with
  | nil =>
    rw [leaves_handleTlvs_nil h]
    exact .refl s
  | cons tlv tlvs ih =>
    rcases leaves_handleTlvs_cons h with
      ⟨-, rfl⟩ | ⟨htype, hconnect⟩ | ⟨name, htype, hname, hrest⟩
    · exact .refl t
    · cases tlv with
      | convertTlv _ | info _ | error _ =>
        rcases hconnect with ⟨_, h⟩ | ⟨_, h, -⟩ <;> cases h
        exact .refl t
      | connect c =>
        obtain ⟨hport, hidle⟩ := (dialless_connect htype).mp hidle
        obtain hraised | ⟨fd, hok⟩ : handleTlvConnect (.connect c) client (dials 0) s = _ ∨ _ :=
          handleTlvConnect_portless hport
        · simp only [hraised, reduceCtorEq, false_and, exists_false, or_false] at hconnect
          obtain ⟨_, h⟩ := hconnect
          cases h
          exact .refl t
        · simp only [hok, reduceCtorEq, exists_false, false_or] at hconnect
          obtain ⟨u, h, hrest⟩ := hconnect
          cases h
          have hu : Unmoved s (((s.opened fd).closed client).closed s.nextSock) :=
            ⟨rfl, rfl, rfl, rfl⟩
          exact hu.trans (ih hidle hrest)
    · exact ih ((dialless_other htype hname).mp hidle) hrest

lemma Refused.closes (hlt : client < s.nextSock) (hrefused : Refused tlvs)
    (h : handleTlvs client tlvs dials s = .ok () t) : t.fileno client = -1 := by
  obtain ⟨hidle, u, hu, hacts⟩ := hrefused
  induction tlvs generalizing dials s with
  | nil => cases hu
  | cons tlv tlvs ih =>
    cases htype : convertTlvs tlv.hdr.type with
    | none =>
      rw [handleTlvs_unknown htype] at h
      cases h
    | some name =>
      by_cases hname : name = .connect
      · subst hname
        rw [handleTlvs_connect htype] at h
        by_cases hclass : ∃ c, tlv = .connect c
        · obtain ⟨c, rfl⟩ := hclass
          obtain ⟨hport, -⟩ := (dialless_connect htype).mp hidle
          obtain hraised | ⟨fd, hok⟩ : handleTlvConnect (.connect c) client (dials 0) s = _ ∨ _ :=
            handleTlvConnect_portless hport
          · rw [bind_of_error hraised] at h
            cases h
          · rw [bind_of_ok hok] at h
            have hclosed : (((s.opened fd).closed client).closed s.nextSock).fileno client = -1 := by
              rw [closed_fileno_of_ne (Nat.ne_of_lt hlt)]
              exact closed_fileno_self
            exact (tlvSteps_closed (handleTlvs_steps (Or.inl ⟨(), h⟩)) (Nat.lt_succ_of_lt hlt) hclosed).2
        · rw [bind_of_error (handleTlvConnect_foreign (not_exists.mp hclass))] at h
          cases h
      · rw [handleTlvs_other htype hname] at h
        have htail : u ∈ tlvs := by
          rcases List.mem_cons.mp hu with rfl | hu
          · rcases hacts with hnone | hconnect
            · rw [hnone] at htype
              cases htype
            · exact (hname (Option.some.inj (htype.symm.trans hconnect))).elim
          · exact hu
        exact ih hlt h ((dialless_other htype hname).mp hidle) htail

end Refused

section Dialled

variable {s t : TcServer} {client : ℕ} {tlvs : List TlvPacket}

def refusal : Dial := ⟨some .above, false, .raises, .initRaises⟩

lemma dialed_mono {log log' : List Event} (h : log <+: log') : dialed log <+: dialed log' :=
  h.filterMap _

lemma dialed_of_not_dialless (hdials : ¬ Dialless tlvs)
    (h : Leaves (handleTlvs client tlvs fun _ => refusal) s t) : dialed t.log ≠ dialed s.log := by
  induction tlvs generalizing s with
  | nil => exact (hdials trivial).elim
  | cons tlv tlvs ih =>
    rcases leaves_handleTlvs_cons h with
      ⟨htype, -⟩ | ⟨htype, hconnect⟩ | ⟨name, htype, hname, hrest⟩
    · simp [Dialless, htype] at hdials
    · cases tlv with
      | convertTlv _ | info _ | error _ => simp [Dialless, htype] at hdials
      | connect c =>
        cases hport : c.remotePort with
        | none =>
          have hok : handleTlvConnect (.connect c) client refusal s = _ :=
            handleTlvConnect_noPort rfl hport
          simp only [hok, reduceCtorEq, exists_false, false_or] at hconnect
          obtain ⟨u, h, hrest⟩ := hconnect
          cases h
          exact ih (s := ((s.opened .above).closed client).closed s.nextSock)
            (fun hidle => hdials ((dialless_connect htype).mpr ⟨hport, hidle⟩)) hrest
        | some port =>
          have hok : handleTlvConnect (.connect c) client refusal s = _ :=
            handleTlvConnect_refused rfl hport rfl
          simp only [hok, reduceCtorEq, exists_false, false_or] at hconnect
          obtain ⟨u, h, hrest⟩ := hconnect
          cases h
          have hlength := (dialed_mono (tlvSteps_log (handleTlvs_steps hrest))).length_le
          intro heq
          rw [heq] at hlength
          simp [TcServer.closed, TcServer.dialling, TcServer.record, TcServer.opened, dialed] at hlength
    · exact ih (fun hidle => hdials ((dialless_other htype hname).mpr hidle)) hrest

lemma idle_of_not_acts (h : ∀ tlv ∈ tlvs, ¬ Acts tlv) (dials : ℕ → Dial) :
    handleTlvs client tlvs dials s = .ok () s :=
  handleTlvs_idle fun tlv htlv => not_or.mp (h tlv htlv)

lemma not_turnedAway (convert : Convert) (h : ¬ Refused convert.tlvs) :
    ∃ t, acceptConnection ⟨.above, .header convert, fun _ => refusal⟩ (.start 3) = .ok () t ∧
      ¬ TurnedAway (.start 3) t (TcServer.start 3).nextSock := by
  obtain ⟨success, v, hv, ht⟩ : ∃ success v, _ ∧
      acceptConnection ⟨.above, .header convert, fun _ => refusal⟩ (.start 3) = _ := acceptConnection_eq
  refine ⟨_, ht, fun haway => ?_⟩
  have hhandled := handleConnection_header hv
  have hmoved : Unmoved (.start 3) ((TcServer.start 3).accepted .above) := unmoved_accepted _
  have hopen : ((TcServer.start 3).accepted .above).fileno (TcServer.start 3).nextSock ≠ -1 := by
    decide
  by_cases hidle : Dialless convert.tlvs
  · have hnone : ∀ tlv ∈ convert.tlvs, ¬ Acts tlv := fun tlv htlv hacts => h ⟨hidle, tlv, htlv, hacts⟩
    rw [idle_of_not_acts hnone] at hhandled
    cases success with
    | false =>
      obtain ⟨e, he⟩ := hhandled
      cases he
    | true =>
      cases hhandled
      exact hopen haway.isClosed
  · apply dialed_of_not_dialless hidle (handleConnection_leaves hv)
    rw [hmoved.log]
    cases success <;> exact haway.dialed

end Dialled

section Iff

variable {scapy : Scapy} {message : Bytes}

def Unusable (scapy : Scapy) (message : Bytes) : Prop :=
  ∃ r, Walk scapy (secondRecv message) r ∧ ∀ tlvs, r = some tlvs → Refused tlvs

lemma turnedAway_of_closed {s t : TcServer} {client : ℕ} (h : Unmoved s t)
    (hclosed : t.fileno client = -1) : TurnedAway s t client :=
  ⟨congrArg dialed h.log, h.inputs, h.forwardMap, h.perfLoggers, hclosed⟩

lemma turnedAway_of_refused {s t : TcServer} {conn : Conn}
    (hread : ∀ convert, conn.read = .header convert → Refused convert.tlvs)
    (h : acceptConnection conn s = .ok () t) : TurnedAway s t s.nextSock := by
  obtain ⟨success, v, hv, ht⟩ : ∃ success v, _ ∧ acceptConnection conn s = _ := acceptConnection_eq
  cases h.symm.trans ht
  have hmoved : Unmoved s (s.accepted conn.fd) := unmoved_accepted _
  have hlt : s.nextSock < (s.accepted conn.fd).nextSock := lt_accepted_nextSock conn.fd
  cases hconn : conn.read with
  | raised | nothing =>
    rw [hconn] at hv
    cases hv
    exact turnedAway_of_closed (hmoved.trans ⟨rfl, rfl, rfl, rfl⟩) closed_fileno_self
  | header convert =>
    rw [hconn] at hv
    have hrefused := hread convert hconn
    have hunmoved := hmoved.trans (hrefused.1.unmoved (handleConnection_leaves hv))
    cases success with
    | true => exact turnedAway_of_closed hunmoved (hrefused.closes hlt (handleConnection_header hv))
    | false => exact turnedAway_of_closed (hunmoved.trans ⟨rfl, rfl, rfl, rfl⟩) closed_fileno_self

theorem validates_iff (scapy : Scapy) (message : Bytes) :
    Validates scapy message ↔
      WellFormed message ∨ message.length < convertHeaderLength ∨ Unusable scapy message := by
  constructor
  · intro h
    by_contra hnot
    obtain ⟨hformed, hlength, husable⟩ := by simpa only [not_or] using hnot
    obtain ⟨read, hread, haway⟩ := h hformed
    obtain ⟨header, -, hreturns⟩ := readReturns_whole scapy (not_lt.mp hlength)
    obtain ⟨r, hwalk, rfl⟩ := (hreturns read).mp hread
    cases r with
    | none => exact husable ⟨none, hwalk, fun tlvs h => by cases h⟩
    | some tlvs =>
      by_cases hrefused : Refused tlvs
      · refine husable ⟨some tlvs, hwalk, fun tlvs' heq => ?_⟩
        cases heq
        exact hrefused
      · obtain ⟨t, ht, hnot⟩ := not_turnedAway { header with tlvs } hrefused
        exact hnot (haway _ t _ _ ht)
  · intro h hformed
    have hrest := h.resolve_left hformed
    rcases lt_or_ge message.length convertHeaderLength with hlength | hlength
    · exact ⟨.nothing, readReturns_short hlength, fun s t fd dials h =>
        turnedAway_of_refused (fun _ h => by cases h) h⟩
    · obtain ⟨r, hwalk, hrefused⟩ := hrest.resolve_left (not_lt.mpr hlength)
      obtain ⟨header, -, hreturns⟩ := readReturns_whole scapy hlength
      refine ⟨header.read r, (hreturns _).mpr ⟨r, hwalk, rfl⟩, fun s t fd dials h => ?_⟩
      refine turnedAway_of_refused (fun convert hread => ?_) h
      cases r with
      | none => cases hread
      | some tlvs =>
        cases hread
        exact hrefused tlvs rfl

end Iff

def foreignMessage : Bytes :=
  [1, 6, 0x22, 0x64, 0x0a, 5, 0x1f, 0x90] ++ (v4mapped 192 0 2 1).toList

theorem foreignMessage_dialed : ¬ Validates strictScapy foreignMessage := by
  intro h
  have hformed : ¬ WellFormed foreignMessage := by
    intro hformed
    cases hformed
  obtain ⟨read, hread, haway⟩ := h hformed
  have hconvert : ReadReturns strictScapy (.whole foreignMessage)
      (.header ⟨1, 6, 0x2264, [connectTlv]⟩) := ⟨2, rfl⟩
  obtain rfl := hread.unique hconvert
  obtain ⟨t, ht, hdialed⟩ : ∃ t, acceptConnection
      ⟨.above, .header ⟨1, 6, 0x2264, [connectTlv]⟩, fun _ => obliging⟩ (.start 3) = .ok () t ∧
        dialed t.log = [(dottedQuad 192 0 2 1, 8080)] := ⟨_, rfl, rfl⟩
  have hnone := (haway _ t _ _ ht).dialed
  rw [hdialed] at hnone
  cases hnone

end TransportConverter.Server
