import TransportConverter.Server.Messages

/-! The loggers over whole runs of the loop: the one a pair was given, and the one its cleanup stops. -/

namespace TransportConverter.Server

open Foundations.Memory Foundations.Effects

/-- A logger, and the pair registered by the call that started it. -/
structure Owner where
  logger : ℕ
  client : ℕ
  server : ℕ
  deriving DecidableEq

def Owner.Of (o : Owner) (x y : ℕ) : Prop :=
  (o.client = x ∧ o.server = y) ∨ (o.client = y ∧ o.server = x)

def startedBy (client : ℕ) (s t : TcServer) : List Owner :=
  if s.nextLogger < t.nextLogger ∧ t.loggers s.nextLogger = .running then
    [⟨s.nextLogger, client, s.nextSock⟩]
  else []

def startedByTlvs (client : ℕ) : List TlvPacket → (ℕ → Dial) → TcServer → List Owner
  | [], _, _ => []
  | tlv :: tlvs, dials, s =>
    match convertTlvs tlv.hdr.type with
    | none => []
    | some .connect =>
      match handleTlvConnect tlv client (dials 0) s with
      | .ok _ t => startedBy client s t ++ startedByTlvs client tlvs (fun i => dials (i + 1)) t
      | .error _ t => startedBy client s t
    | some _ => startedByTlvs client tlvs (fun i => dials (i + 1)) s

def Ready.started (s : TcServer) : Ready → List Owner
  | .accept conn =>
    match conn.read with
    | .header convert => startedByTlvs s.nextSock convert.tlvs conn.dials (s.accepted conn.fd)
    | .raised | .nothing => []
  | .serve _ _ _ => []

/-- The loop between two sockets: what select reported and is still to be served, and the loggers started so
far. -/
structure Loop where
  server : TcServer
  pending : List Ready
  owners : List Owner

def Loop.start (fd : ℕ) : Loop := ⟨.start fd, [], []⟩

inductive Turn (scapy : Scapy) (allowed : TcServer → Ready → Prop) : Loop → Loop → Prop
  | select {s : TcServer} {owners : List Owner} {batch : List Ready}
      (hopen : ∀ x ∈ s.inputs, s.fileno x ≠ -1) (hbatch : ∀ ready ∈ batch, Selected scapy s ready) :
      Turn scapy allowed ⟨s, [], owners⟩ ⟨s, batch, owners⟩
  | serve {s t : TcServer} {owners : List Owner} {ready : Ready} {rest : List Ready}
      (hallowed : allowed s ready) (h : serveReady ready s = .ok () t) :
      Turn scapy allowed ⟨s, ready :: rest, owners⟩ ⟨t, rest, owners ++ ready.started s⟩

def Turns (scapy : Scapy) (allowed : TcServer → Ready → Prop) (l : Loop) : Prop :=
  ∃ fd, Relation.ReflTransGen (Turn scapy allowed) (.start fd) l

def Cleans (s : TcServer) (x y : ℕ) (recv : RecvAnswer) : Prop :=
  s.forwardMap (s.fileno x) = some y ∧
    (s.fileno y = -1 ∨ s.fileno x = -1 ∨ recv = .raises ∨ recv = .octets [])

/-- The call stops the one logger started for the pair, and leaves none running without its pair. -/
structure StopsOwn (s : TcServer) (owners : List Owner) (x y : ℕ) : Prop where
  own : ∃ o ∈ owners, o.Of x y ∧ (∀ o' ∈ owners, o'.Of x y → o' = o) ∧ s.loggerOf x y = some o.logger
  others : ∃ t, cleanupSocketPair x y s = .ok () t ∧ ∀ n, t.loggers n = .running →
    ∃ o ∈ owners, o.logger = n ∧ o.client ∈ t.inputs ∧ o.server ∈ t.inputs

/-- No message gets its client two servers, and a server's socket ends only while no logger is stored under
its number. -/
def Careful (s : TcServer) : Ready → Prop
  | .accept conn => ∀ convert, conn.read = .header convert → pairings convert.tlvs conn.dials ≤ 1
  | .serve sock recv _ => recv = .raises ∨ recv = .octets [] →
      ∀ client, .registered client sock ∈ s.log → s.perfLoggers (s.fileno sock) = none

structure Books (s : TcServer) (owners : List Owner) : Prop where
  sound : Sound s
  ordered : ∀ c v, .registered c v ∈ s.log → c < v
  nodup : s.inputs.Nodup
  together : ∀ x y, Pair s x y → x ∈ s.inputs → y ∈ s.inputs
  listed : ∀ x y, Pair s x y → s.fileno x ≠ -1 → x ∈ s.inputs
  registered : ∀ o ∈ owners, .registered o.client o.server ∈ s.log
  unique : ∀ o ∈ owners, ∀ o' ∈ owners, o.client = o'.client → o = o'
  made : ∀ o ∈ owners, o.logger < s.nextLogger ∧ s.loggers o.logger ≠ .created
  entry : ∀ o ∈ owners, s.fileno o.client ≠ -1 → s.perfLoggers (s.fileno o.client) = some o.logger
  stored : ∀ fd n, s.perfLoggers fd = some n → n < s.nextLogger
  keyed : ∀ fd fd' n, s.perfLoggers fd = some n → s.perfLoggers fd' = some n → fd = fd'
  running : ∀ n, s.loggers n = .running →
    ∃ o ∈ owners, o.logger = n ∧ o.client ∈ s.inputs ∧ o.server ∈ s.inputs

def Covered (s : TcServer) (owners : List Owner) (c : ℕ) : Prop :=
  ∀ v, .registered c v ∈ s.log → s.fileno c ≠ -1 → ∃ o ∈ owners, o.client = c ∧ o.server = v

section Books

variable {s t : TcServer} {owners new : List Owner} {x y c v client server : ℕ} {o : Owner}

lemma Books.of_tables (hs : Books s owners) (ht : Sound t)
    (hlog : ∀ c v, .registered c v ∈ t.log ↔ .registered c v ∈ s.log) (hin : t.inputs = s.inputs)
    (hf : ∀ x y, Pair s x y → t.fileno x ≠ -1 → t.fileno x = s.fileno x)
    (hp : t.perfLoggers = s.perfLoggers) (hl : t.loggers = s.loggers)
    (hn : t.nextLogger = s.nextLogger) : Books t owners := by
  have hpair : ∀ x y, Pair t x y ↔ Pair s x y := by
    intro x y
    rw [Pair, Pair, hlog, hlog]
  refine ⟨ht, ?_, ?_, ?_, ?_, ?_, hs.unique, ?_, ?_, ?_, ?_, ?_⟩
  · intro c v hcv
    exact hs.ordered c v ((hlog c v).mp hcv)
  · rw [hin]
    exact hs.nodup
  · intro x y hxy
    rw [hin]
    exact hs.together x y ((hpair x y).mp hxy)
  · intro x y hxy hopen
    have hxy := (hpair x y).mp hxy
    rw [hin]
    rw [hf x y hxy hopen] at hopen
    exact hs.listed x y hxy hopen
  · intro o ho
    exact (hlog _ _).mpr (hs.registered o ho)
  · intro o ho
    rw [hn, hl]
    exact hs.made o ho
  · intro o ho hopen
    have hsame := hf _ _ (Or.inl (hs.registered o ho)) hopen
    rw [hsame] at hopen ⊢
    rw [hp]
    exact hs.entry o ho hopen
  · rw [hp, hn]
    exact hs.stored
  · rw [hp]
    exact hs.keyed
  · rw [hl, hin]
    exact hs.running

lemma Books.register (hs : Books s owners) (h : Joinable s client server) (hlt : client < server) :
    Books (s.register client server) owners := by
  have hlog : ∀ c v, .registered c v ∈ (s.register client server).log ↔
      .registered c v ∈ s.log ∨ (c = client ∧ v = server) := by
    intro c v
    simp [TcServer.register]
  refine ⟨hs.sound.register h, ?_, hs.sound.register_nodup h hs.nodup,
    fun x y hxy hx => h.register_together hs.together hxy hx, ?_, ?_, hs.unique, hs.made, hs.entry,
    hs.stored, hs.keyed, ?_⟩
  · intro c v hcv
    rcases (hlog c v).mp hcv with hcv | ⟨rfl, rfl⟩
    · exact hs.ordered c v hcv
    · exact hlt
  · intro x y hxy hopen
    rw [mem_register_inputs]
    rcases pair_register_iff.mp hxy with hold | ⟨rfl, rfl⟩ | ⟨rfl, rfl⟩
    · exact Or.inl (hs.listed x y hold hopen)
    · exact Or.inr (Or.inr rfl)
    · exact Or.inr (Or.inl rfl)
  · intro o ho
    exact (hlog _ _).mpr (Or.inl (hs.registered o ho))
  · intro n hn
    obtain ⟨o, ho, hlogger, hc, hv⟩ := hs.running n hn
    exact ⟨o, ho, hlogger, mem_register_inputs.mpr (Or.inl hc), mem_register_inputs.mpr (Or.inl hv)⟩

lemma addLogger_loggers_of_ne {state : LoggerState} {n : ℕ} (h : n ≠ s.nextLogger) :
    (s.addLogger client state).loggers n = s.loggers n := Function.update_of_ne h _ _

lemma addLogger_loggers_self {state : LoggerState} :
    (s.addLogger client state).loggers s.nextLogger = state := Function.update_self ..

lemma addLogger_perfLoggers_of_ne {state : LoggerState} {fd : ℤ} (h : fd ≠ s.fileno client) :
    (s.addLogger client state).perfLoggers fd = s.perfLoggers fd := Function.update_of_ne h _ _

lemma addLogger_perfLoggers_self {state : LoggerState} :
    (s.addLogger client state).perfLoggers (s.fileno client) = some s.nextLogger :=
  Function.update_self ..

lemma Books.addLogger {state : LoggerState} (hs : Books s owners)
    (hfree : ∀ o ∈ owners, o.client ≠ client)
    (hnew : new = [] ∧ state ≠ .running ∨ new = [⟨s.nextLogger, client, server⟩] ∧ state = .running)
    (hreg : .registered client server ∈ s.log) (hclient : client ∈ s.inputs) (hserver : server ∈ s.inputs) :
    Books (s.addLogger client state) (owners ++ new) := by
  have hadded : ∀ o ∈ new, o = ⟨s.nextLogger, client, server⟩ ∧ state = .running := by
    intro o ho
    rcases hnew with ⟨rfl, -⟩ | ⟨rfl, hstate⟩
    · cases ho
    · exact ⟨List.mem_singleton.mp ho, hstate⟩
  have hstored : ∀ fd n, (s.addLogger client state).perfLoggers fd = some n →
      fd = s.fileno client ∧ n = s.nextLogger ∨ fd ≠ s.fileno client ∧ s.perfLoggers fd = some n := by
    intro fd n hfd
    rcases eq_or_ne fd (s.fileno client) with rfl | hne
    · rw [addLogger_perfLoggers_self] at hfd
      exact Or.inl ⟨rfl, (Option.some.inj hfd).symm⟩
    · rw [addLogger_perfLoggers_of_ne hne] at hfd
      exact Or.inr ⟨hne, hfd⟩
  refine ⟨hs.sound.addLogger client state, hs.ordered, hs.nodup, hs.together, hs.listed, ?_, ?_, ?_, ?_, ?_, ?_, ?_⟩
  · intro o ho
    rcases List.mem_append.mp ho with ho | ho
    · exact hs.registered o ho
    · rw [(hadded o ho).1]
      exact hreg
  · intro o ho o' ho' heq
    rcases List.mem_append.mp ho with hold | hadd
    · rcases List.mem_append.mp ho' with hold' | hadd'
      · exact hs.unique o hold o' hold' heq
      · rw [(hadded o' hadd').1] at heq
        exact (hfree o hold heq).elim
    · rcases List.mem_append.mp ho' with hold' | hadd'
      · rw [(hadded o hadd).1] at heq
        exact (hfree o' hold' heq.symm).elim
      · rw [(hadded o hadd).1, (hadded o' hadd').1]
  · intro o ho
    rcases List.mem_append.mp ho with ho | ho
    · obtain ⟨hlt, hmade⟩ := hs.made o ho
      rw [addLogger_loggers_of_ne (Nat.ne_of_lt hlt)]
      exact ⟨Nat.lt_succ_of_lt hlt, hmade⟩
    · obtain ⟨rfl, hstate⟩ := hadded o ho
      rw [addLogger_loggers_self, hstate]
      exact ⟨Nat.lt_succ_self _, nofun⟩
  · intro o ho hopen
    rcases List.mem_append.mp ho with ho | ho
    · have hne : s.fileno o.client ≠ s.fileno client :=
        fun heq => hfree o ho (hs.sound.distinct _ _ hopen heq)
      exact (addLogger_perfLoggers_of_ne hne).trans (hs.entry o ho hopen)
    · rw [(hadded o ho).1]
      exact addLogger_perfLoggers_self
  · intro fd n hfd
    rcases hstored fd n hfd with ⟨-, rfl⟩ | ⟨-, hfd⟩
    · exact Nat.lt_succ_self _
    · exact Nat.lt_succ_of_lt (hs.stored fd n hfd)
  · intro fd fd' n hfd hfd'
    rcases hstored fd n hfd with ⟨rfl, rfl⟩ | ⟨-, hold⟩
    · rcases hstored fd' _ hfd' with ⟨rfl, -⟩ | ⟨-, hold'⟩
      · rfl
      · exact (Nat.lt_irrefl _ (hs.stored fd' _ hold')).elim
    · rcases hstored fd' n hfd' with ⟨-, rfl⟩ | ⟨-, hold'⟩
      · exact (Nat.lt_irrefl _ (hs.stored fd _ hold)).elim
      · exact hs.keyed fd fd' n hold hold'
  · intro n hn
    rcases eq_or_ne n s.nextLogger with rfl | hne
    · rw [addLogger_loggers_self] at hn
      rcases hnew with ⟨-, hstate⟩ | ⟨rfl, -⟩
      · exact (hstate hn).elim
      · exact ⟨_, List.mem_append_right _ (List.mem_singleton_self _), rfl, hclient, hserver⟩
    · rw [addLogger_loggers_of_ne hne] at hn
      obtain ⟨o, ho, hrest⟩ := hs.running n hn
      exact ⟨o, List.mem_append_left _ ho, hrest⟩

lemma Books.replied {fd : FdChoice} {host : Text} {port n : ℕ} (hs : Books s owners) :
    Books (((s.opened fd).record (.dialed host port)).record (.replied client (emptyConvert.take n)))
      owners := by
  apply hs.of_tables
  · exact ((hs.sound.opened fd).record (e := .dialed host port) trivial).record
      (e := .replied client (emptyConvert.take n)) trivial
  · intro c v
    simp [TcServer.record, TcServer.opened]
  · rfl
  · intro x y hxy hopen
    exact opened_fileno_of_lt (hs.sound.born x y hxy).1
  · rfl
  · rfl
  · rfl

lemma Books.paired {answer : LoggerAnswer} (hs : Books s owners) (hjoin : Joinable s client server)
    (hlt : client < server) : Books ((s.register client server).withLogger client answer)
      (owners ++ if answer = .starts then [⟨s.nextLogger, client, server⟩] else []) := by
  have hpair := hs.register hjoin hlt
  have hfree : ∀ o ∈ owners, o.client ≠ client := by
    rintro o ho rfl
    exact hjoin.client_free o.server (Or.inl (hs.registered o ho))
  have hreg : .registered client server ∈ (s.register client server).log :=
    List.mem_append_right _ (List.mem_singleton_self _)
  have hclient : client ∈ (s.register client server).inputs := by
    simp [TcServer.register]
  have hserver : server ∈ (s.register client server).inputs := by
    simp [TcServer.register]
  cases answer with
  | initRaises =>
    rw [if_neg (by decide), List.append_nil]
    exact hpair
  | runRaises =>
    rw [if_neg (by decide)]
    exact hpair.addLogger hfree (Or.inl ⟨rfl, by decide⟩) hreg hclient hserver
  | starts =>
    rw [if_pos rfl]
    exact hpair.addLogger hfree (Or.inr ⟨rfl, rfl⟩) hreg hclient hserver

end Books

section Tlvs

variable {s t : TcServer} {owners : List Owner} {client c v z : ℕ} {tlv : TlvPacket} {a : Dial}
  {raised : Bool}

lemma startedBy_of_eq (h : t.nextLogger = s.nextLogger) : startedBy client s t = [] := by
  rw [startedBy, if_neg]
  rintro ⟨hlt, -⟩
  omega

lemma startedBy_withLogger {answer : LoggerAnswer} {u : TcServer} (h : u.nextLogger = s.nextLogger) :
    startedBy client s (u.withLogger client answer) =
      if answer = .starts then [⟨s.nextLogger, client, s.nextSock⟩] else [] := by
  have hstate : ∀ state, (u.addLogger client state).loggers s.nextLogger = state := by
    intro state
    rw [← h]
    exact addLogger_loggers_self
  cases answer with
  | initRaises => exact startedBy_of_eq h
  | runRaises =>
    rw [startedBy, TcServer.withLogger, hstate]
    exact if_neg fun hstarted => nomatch hstarted.2
  | starts =>
    rw [startedBy, TcServer.withLogger, hstate]
    refine if_pos ⟨?_, rfl⟩
    rw [← h]
    exact Nat.lt_succ_self _

lemma TlvOutcome.fileno_of_open (hlt : z < s.nextSock) (h : TlvOutcome client tlv a s raised t)
    (hopen : t.fileno z ≠ -1) : t.fileno z = s.fileno z := by
  rcases eq_or_ne z client with rfl | hz
  · cases h with
    | notMade => rfl
    | noPort fd | refused fd host port =>
      obtain ⟨hne, -⟩ := closed_fileno_of_open hopen
      rw [closed_fileno_of_ne hne] at hopen
      exact (hopen closed_fileno_self).elim
    | noReply fd host port =>
      rw [(closed_fileno_of_open hopen).2]
      exact opened_fileno_of_lt hlt
    | paired fd host port n _ _ _ _ _ =>
      rw [withLogger_fileno]
      exact opened_fileno_of_lt hlt
  · exact h.fileno hlt hz

lemma TlvOutcome.registered (h : TlvOutcome client tlv a s raised t) (hcv : .registered c v ∈ t.log) :
    .registered c v ∈ s.log ∨ c = client ∧ v = s.nextSock := by
  cases h with
  | notMade | noPort fd => exact Or.inl hcv
  | refused fd host port | noReply fd host port =>
    left
    simpa [TcServer.closed, TcServer.record, TcServer.opened] using hcv
  | paired fd host port n _ _ _ _ _ =>
    rw [withLogger_log] at hcv
    simpa [TcServer.register, TcServer.record, TcServer.opened] using hcv

lemma Books.outcome (hs : Books s owners) (hlt : client < s.nextSock) (hclient : client ≠ listener)
    (hfree : a.Pairs tlv → s.fileno client ≠ -1 → Unpaired s client)
    (h : TlvOutcome client tlv a s raised t) : Books t (owners ++ startedBy client s t) := by
  have ht := hs.sound.outcome hlt hclient hfree h
  have hsame : ∀ x y, Pair s x y → t.fileno x ≠ -1 → t.fileno x = s.fileno x :=
    fun x y hxy => h.fileno_of_open (hs.sound.born x y hxy).1
  have hnone : t.nextLogger = s.nextLogger → owners ++ startedBy client s t = owners := by
    intro hn
    rw [startedBy_of_eq hn, List.append_nil]
  cases h with
  | notMade =>
    rw [hnone rfl]
    exact hs
  | noPort fd =>
    rw [hnone rfl]
    exact hs.of_tables ht (fun _ _ => Iff.rfl) rfl hsame rfl rfl rfl
  | refused fd host port | noReply fd host port =>
    rw [hnone rfl]
    apply hs.of_tables ht _ rfl hsame rfl rfl rfl
    intro c v
    simp [TcServer.closed, TcServer.record, TcServer.opened]
  | paired fd host port n hpairs hopen _ _ _ =>
    have hfree := hfree hpairs (by rwa [opened_fileno_of_lt hlt] at hopen)
    have hjoin := hs.sound.joinable (e := .dialed host port)
      (f := .replied client (emptyConvert.take n)) hlt hclient hopen hfree trivial trivial
    rw [startedBy_withLogger]
    · exact hs.replied.paired hjoin hlt
    · rfl

lemma Covered.outcome_other (hs : Books s owners) (hc : c ≠ client)
    (hcovered : Covered s owners c) (h : TlvOutcome client tlv a s raised t) :
    Covered t (owners ++ startedBy client s t) c := by
  intro v hcv hopen
  have hold := (h.registered hcv).resolve_right fun hnew => hc hnew.1
  rw [h.fileno (hs.sound.born c v (Or.inl hold)).1 hc] at hopen
  obtain ⟨o, ho, hpair⟩ := hcovered v hold hopen
  exact ⟨o, List.mem_append_left _ ho, hpair⟩

lemma covered_outcome_self (hlt : client < s.nextSock)
    (hfree : a.Pairs tlv → s.fileno client ≠ -1 → Unpaired s client)
    (h : TlvOutcome client tlv a s false t) : Covered t (owners ++ startedBy client s t) client := by
  intro v hcv hopen
  obtain ⟨hpairs, hclient, hstarts⟩ := (h.closes hlt).resolve_left hopen
  have hfree := hfree hpairs hclient
  obtain ⟨-, rfl⟩ := (h.registered hcv).resolve_left fun hold => hfree v (Or.inl hold)
  cases h with
  | noPort fd | refused fd host port =>
    rw [closed_fileno_of_ne (Nat.ne_of_lt hlt)] at hopen
    exact (hopen closed_fileno_self).elim
  | paired fd host port n _ _ _ _ _ =>
    refine ⟨⟨s.nextLogger, client, s.nextSock⟩, ?_, rfl, rfl⟩
    rw [startedBy_withLogger]
    · rw [if_pos hstarts]
      exact List.mem_append_right _ (List.mem_singleton_self _)
    · rfl

variable {tlvs : List TlvPacket} {dials : ℕ → Dial}

lemma startedByTlvs_unknown (h : convertTlvs tlv.hdr.type = none) :
    startedByTlvs client (tlv :: tlvs) dials s = [] := by
  rw [startedByTlvs, h]

lemma startedByTlvs_connect (h : convertTlvs tlv.hdr.type = some .connect) :
    startedByTlvs client (tlv :: tlvs) dials s =
      match handleTlvConnect tlv client (dials 0) s with
      | .ok _ t => startedBy client s t ++ startedByTlvs client tlvs (fun i => dials (i + 1)) t
      | .error _ t => startedBy client s t := by
  rw [startedByTlvs, h]

lemma startedByTlvs_other {name : TlvName} (h : convertTlvs tlv.hdr.type = some name)
    (hname : name ≠ .connect) : startedByTlvs client (tlv :: tlvs) dials s =
      startedByTlvs client tlvs (fun i => dials (i + 1)) s := by
  rw [startedByTlvs, h]
  cases name with
  | connect => exact (hname rfl).elim
  | info | extended | supported | cookie | error => rfl

/-- The books behind a message, of which `success` tells whether it was handled to its end. -/
structure Handled (client : ℕ) (success : Bool) (t : TcServer) (owners : List Owner) : Prop where
  books : Books t owners
  others : ∀ c ≠ client, Covered t owners c
  own : success = true → Covered t owners client

lemma Books.handleTlvs {success : Bool} (hs : Books s owners) (hothers : ∀ c ≠ client, Covered s owners c)
    (hown : Covered s owners client) (hlt : client < s.nextSock) (hclient : client ≠ listener)
    (hfree : s.fileno client = -1 ∨ pairings tlvs dials = 0 ∨
      (Unpaired s client ∧ pairings tlvs dials ≤ 1))
    (h : if success then handleTlvs client tlvs dials s = .ok () t
      else ∃ e, handleTlvs client tlvs dials s = .error e t) :
    Handled client success t (owners ++ startedByTlvs client tlvs dials s) := by
  induction tlvs generalizing dials s owners with
  | nil =>
    rw [startedByTlvs, List.append_nil]
    cases success with
    | true =>
      cases h
      exact ⟨hs, hothers, fun _ => hown⟩
    | false =>
      obtain ⟨_, h⟩ := h
      cases h
  | cons tlv tlvs ih =>
    cases htype : convertTlvs tlv.hdr.type with
    | none =>
      rw [startedByTlvs_unknown htype, List.append_nil]
      rw [handleTlvs_unknown htype] at h
      cases success with
      | true => cases h
      | false =>
        obtain ⟨_, h⟩ := h
        cases h
        exact ⟨hs, hothers, nofun⟩
    | some name =>
      by_cases hname : name = .connect
      · subst hname
        rw [startedByTlvs_connect htype]
        rw [handleTlvs_connect htype] at h
        have hunpaired : (dials 0).Pairs tlv → s.fileno client ≠ -1 → Unpaired s client :=
          unpaired_of_pairings htype hfree
        have hstep : ∀ {raised u}, TlvOutcome client tlv (dials 0) s raised u →
            Books u (owners ++ startedBy client s u) ∧
              ∀ c ≠ client, Covered u (owners ++ startedBy client s u) c :=
          fun hout => ⟨hs.outcome hlt hclient hunpaired hout,
            fun c hc => (hothers c hc).outcome_other hs hc hout⟩
        have hout : Outcome client tlv (dials 0) s (handleTlvConnect tlv client (dials 0) s) :=
          handleTlvConnect_outcome tlv
        cases hres : handleTlvConnect tlv client (dials 0) s with
        | error e u =>
          rw [hres] at hout
          rw [bind_of_error hres] at h
          obtain ⟨hbooks, hothers⟩ := hstep hout
          cases success with
          | true => cases h
          | false =>
            obtain ⟨_, h⟩ := h
            cases h
            exact ⟨hbooks, hothers, nofun⟩
        | ok b u =>
          rw [hres] at hout
          rw [bind_of_ok hres] at h
          obtain ⟨hbooks, hothers⟩ := hstep hout
          have hown : Covered u (owners ++ startedBy client s u) client :=
            covered_outcome_self hlt hunpaired hout
          have hnext := hout.pairings_rest htype hlt hfree
          rw [← List.append_assoc]
          exact ih hbooks hothers hown (hlt.trans_le hout.nextSock_le) hnext h
      · rw [startedByTlvs_other htype hname]
        rw [handleTlvs_other htype hname] at h
        rw [pairings_other htype hname] at hfree
        exact ih hs hothers hown hlt hfree h

end Tlvs

section Turns

variable {s t : TcServer} {owners : List Owner} {x y z : ℕ} {o : Owner} {conn : Conn} {recv : RecvAnswer}
  {send : SendAnswer}

lemma Books.closed (hs : Books s owners) (z : ℕ) : Books (s.closed z) owners :=
  hs.of_tables (hs.sound.closed z) (fun _ _ => Iff.rfl) rfl (fun _ _ _ hopen => (closed_fileno_of_open hopen).2)
    rfl rfl rfl

lemma Books.opened (hs : Books s owners) (fd : FdChoice) : Books (s.opened fd) owners :=
  hs.of_tables (hs.sound.opened fd) (fun _ _ => Iff.rfl) rfl
    (fun x y hxy _ => opened_fileno_of_lt (hs.sound.born x y hxy).1) rfl rfl rfl

lemma Books.accepted (hs : Books s owners) (fd : FdChoice) : Books (s.accepted fd) owners := by
  have hsound := hs.sound.accepted fd
  have hopened := hs.opened fd
  unfold TcServer.accepted at hsound ⊢
  rcases bindClient_cases (s := s.opened fd) s.nextSock with h | ⟨previous, -, h⟩
  · rw [h] at hsound ⊢
    exact hopened.of_tables hsound (fun _ _ => Iff.rfl) rfl (fun _ _ _ _ => rfl) rfl rfl rfl
  · rw [h] at hsound ⊢
    exact (hopened.closed previous).of_tables hsound (fun _ _ => Iff.rfl) rfl (fun _ _ _ _ => rfl) rfl rfl rfl

lemma Books.accepted_fileno (hs : Books s owners) (fd : FdChoice) (hxy : Pair s x y) :
    (s.accepted fd).fileno x = s.fileno x := by
  have hlt := (hs.sound.born x y hxy).1
  unfold TcServer.accepted
  rcases bindClient_cases (s := s.opened fd) s.nextSock with h | ⟨previous, hprevious, h⟩
  · rw [h]
    exact opened_fileno_of_lt hlt
  · rw [h]
    rcases eq_or_ne x previous with rfl | hne
    · have hclosed : s.fileno x = -1 := by
        by_contra hopen
        exact hprevious (hs.listed x y hxy hopen)
      rw [hclosed]
      exact closed_fileno_self
    · exact (closed_fileno_of_ne hne).trans (opened_fileno_of_lt hlt)

lemma Covered.accepted (hs : Books s owners) (fd : FdChoice) {c : ℕ} (h : Covered s owners c) :
    Covered (s.accepted fd) owners c := by
  intro v hcv hopen
  rw [accepted_log] at hcv
  rw [hs.accepted_fileno fd (Or.inl hcv)] at hopen
  exact h v hcv hopen

lemma Books.acceptConnection_fileno {a : Unit} (hs : Books s owners) (hxy : Pair s x y)
    (h : acceptConnection conn s = .ok a t) : t.fileno x = s.fileno x := by
  obtain ⟨success, v, hv, ht⟩ : ∃ success v, _ ∧ acceptConnection conn s = _ := acceptConnection_eq
  cases h.symm.trans ht
  have hne : x ≠ s.nextSock := Nat.ne_of_lt (hs.sound.born x y hxy).1
  have hlt : x < (s.accepted conn.fd).nextSock :=
    (hs.sound.born x y hxy).1.trans (lt_accepted_nextSock conn.fd)
  have hsteps := (tlvSteps_fileno (handleConnection_steps hv) hlt hne).2
  rw [hs.accepted_fileno conn.fd hxy] at hsteps
  cases success with
  | true => exact hsteps
  | false => exact (closed_fileno_of_ne hne).trans hsteps

lemma Books.handled (hs : Books s owners) (hcovered : ∀ c, Covered s owners c)
    (hconn : Careful s (.accept conn)) {success : Bool} {v : TcServer}
    (h : handleConnection s.nextSock conn.read conn.dials (s.accepted conn.fd) = .ok success v) :
    Handled s.nextSock success v (owners ++ (Ready.accept conn).started s) := by
  have hu := hs.accepted conn.fd
  have hfree := hs.sound.accepted_unpaired conn.fd
  have hothers : ∀ c, Covered (s.accepted conn.fd) owners c := fun c => (hcovered c).accepted hs conn.fd
  cases hread : conn.read with
  | raised | nothing =>
    rw [hread] at h
    cases h
    rw [Ready.started, hread, List.append_nil]
    exact ⟨hu, fun c _ => hothers c, nofun⟩
  | header convert =>
    rw [hread] at h
    rw [Ready.started, hread]
    exact hu.handleTlvs (fun c _ => hothers c) (hothers _) (lt_accepted_nextSock conn.fd)
      (Nat.ne_of_gt hs.sound.started) (Or.inr (Or.inr ⟨hfree, hconn convert hread⟩))
      (handleConnection_header h)

lemma Covered.closed {c : ℕ} (h : Covered s owners c) : Covered (s.closed z) owners c := by
  intro v hcv hopen
  rw [(closed_fileno_of_open hopen).2] at hopen
  exact h v hcv hopen

lemma covered_closed_self : Covered (s.closed z) owners z :=
  fun _ _ hopen => (hopen closed_fileno_self).elim

lemma Books.acceptConnection {a : Unit} (hs : Books s owners) (hcovered : ∀ c, Covered s owners c)
    (hconn : Careful s (.accept conn)) (h : acceptConnection conn s = .ok a t) :
    Books t (owners ++ (Ready.accept conn).started s) ∧
      ∀ c, Covered t (owners ++ (Ready.accept conn).started s) c := by
  obtain ⟨success, v, hv, ht⟩ : ∃ success v, _ ∧ Server.acceptConnection conn s = _ :=
    acceptConnection_eq
  cases h.symm.trans ht
  obtain ⟨hbooks, hothers, hown⟩ := hs.handled hcovered hconn hv
  cases success with
  | true =>
    refine ⟨hbooks, fun c => ?_⟩
    rcases eq_or_ne c s.nextSock with rfl | hc
    · exact hown rfl
    · exact hothers c hc
  | false =>
    refine ⟨hbooks.closed _, fun c => ?_⟩
    rcases eq_or_ne c s.nextSock with rfl | hc
    · exact covered_closed_self
    · exact (hothers c hc).closed

def Owner.Has (o : Owner) (z : ℕ) : Prop := o.client = z ∨ o.server = z

lemma Owner.Of.has (h : o.Of x y) : (o.Has x ∧ o.Has y) ∧ ∀ z, o.Has z → z = x ∨ z = y := by
  rcases h with ⟨rfl, rfl⟩ | ⟨rfl, rfl⟩
  · refine ⟨⟨Or.inl rfl, Or.inr rfl⟩, ?_⟩
    rintro z (rfl | rfl)
    · exact Or.inl rfl
    · exact Or.inr rfl
  · refine ⟨⟨Or.inr rfl, Or.inl rfl⟩, ?_⟩
    rintro z (rfl | rfl)
    · exact Or.inr rfl
    · exact Or.inl rfl

lemma Books.owner_unique {o' : Owner} (hs : Books s owners) (ho : o ∈ owners) (ho' : o' ∈ owners)
    (h : o.Has z) (h' : o'.Has z) : o' = o := by
  have hreg := hs.registered o ho
  have hreg' := hs.registered o' ho'
  have hlt := hs.ordered _ _ hreg
  have hlt' := hs.ordered _ _ hreg'
  rcases h with hc | hv
  · rcases h' with hc' | hv'
    · exact hs.unique o' ho' o ho (hc'.trans hc.symm)
    · rw [hc] at hreg hlt
      rw [hv'] at hreg' hlt'
      have := hs.sound.partner z _ _ (Or.inl hreg) (Or.inr hreg')
      omega
  · rcases h' with hc' | hv'
    · rw [hv] at hreg hlt
      rw [hc'] at hreg' hlt'
      have := hs.sound.partner z _ _ (Or.inr hreg) (Or.inl hreg')
      omega
    · rw [hv] at hreg
      rw [hv'] at hreg'
      exact hs.unique o' ho' o ho (hs.sound.partner z _ _ (Or.inr hreg') (Or.inr hreg))

lemma cleaned_loggers_self {n : ℕ} (h : s.loggerOf x y = some n) :
    (s.cleaned x y).loggers n = .stopped := by
  simp [TcServer.cleaned, h]

lemma cleaned_loggers_of_ne {n m : ℕ} (h : s.loggerOf x y = some n) (hne : m ≠ n) :
    (s.cleaned x y).loggers m = s.loggers m := by
  simp [TcServer.cleaned, h, Function.update_of_ne hne]

lemma Books.cleaned_running (hs : Books s owners) (ho : o ∈ owners) (hof : o.Of x y)
    (hlogger : s.loggerOf x y = some o.logger) {n : ℕ} (hn : (s.cleaned x y).loggers n = .running) :
    ∃ o ∈ owners, o.logger = n ∧ o.client ∈ (s.cleaned x y).inputs ∧ o.server ∈ (s.cleaned x y).inputs := by
  have hne : n ≠ o.logger := by
    rintro rfl
    rw [cleaned_loggers_self hlogger] at hn
    cases hn
  rw [cleaned_loggers_of_ne hlogger hne] at hn
  obtain ⟨o', ho', rfl, hc, hv⟩ := hs.running n hn
  obtain ⟨⟨hx, hy⟩, -⟩ := hof.has
  have haway : ∀ z, o'.Has z → z ≠ x ∧ z ≠ y := by
    intro z hz
    refine ⟨?_, ?_⟩
    · rintro rfl
      exact hne (congrArg Owner.logger (hs.owner_unique ho ho' hx hz))
    · rintro rfl
      exact hne (congrArg Owner.logger (hs.owner_unique ho ho' hy hz))
  obtain ⟨hcx, hcy⟩ := haway _ (Or.inl rfl)
  obtain ⟨hvx, hvy⟩ := haway _ (Or.inr rfl)
  exact ⟨o', ho', rfl, mem_erase_erase hc hcx hcy, mem_erase_erase hv hvx hvy⟩

lemma Books.cleaned (hs : Books s owners) (hxy : Pair s x y) (hx : s.fileno x ≠ -1) (hy : s.fileno y ≠ -1)
    (ho : o ∈ owners) (hof : o.Of x y) (hlogger : s.loggerOf x y = some o.logger) :
    Books (s.cleaned x y) owners := by
  refine ⟨hs.sound.cleaned hx hy, hs.ordered, (hs.nodup.erase x).erase y,
    fun z w hzw hz => hs.sound.cleaned_together hxy hs.nodup hs.together hzw hz, ?_, hs.registered,
    hs.unique, ?_, ?_, hs.stored, hs.keyed, fun n hn => hs.cleaned_running ho hof hlogger hn⟩
  · intro z w hzw hz
    obtain ⟨hzx, hzy, heq⟩ := cleaned_open hz
    rw [heq] at hz
    exact mem_erase_erase (hs.listed z w hzw hz) hzx hzy
  · intro o' ho'
    obtain ⟨hlt, hmade⟩ := hs.made o' ho'
    refine ⟨hlt, ?_⟩
    rcases eq_or_ne o'.logger o.logger with heq | hne
    · rw [heq, cleaned_loggers_self hlogger]
      exact nofun
    · rwa [cleaned_loggers_of_ne hlogger hne]
  · intro o' ho' hopen
    obtain ⟨-, -, heq⟩ := cleaned_open hopen
    rw [heq] at hopen ⊢
    exact hs.entry o' ho' hopen

def Balanced (s : TcServer) : Ready → Prop
  | .accept _ => True
  | .serve sock _ _ => ∃ partner, Pair s sock partner ∧ (s.fileno sock = -1 ↔ s.fileno partner = -1)

structure LoopBooks (l : Loop) : Prop where
  books : Books l.server l.owners
  covered : ∀ c, Covered l.server l.owners c
  pending : ∀ ready ∈ l.pending, Balanced l.server ready

lemma owner_of_covered (hcovered : ∀ c, Covered s owners c) (hxy : Pair s x y)
    (hx : s.fileno x ≠ -1) (hy : s.fileno y ≠ -1) : ∃ o ∈ owners, o.Of x y := by
  rcases hxy with hxy | hxy
  · obtain ⟨o, ho, hpair⟩ := hcovered x y hxy hx
    exact ⟨o, ho, Or.inl hpair⟩
  · obtain ⟨o, ho, hpair⟩ := hcovered y x hxy hy
    exact ⟨o, ho, Or.inr hpair⟩

lemma Books.finds_own_iff (hs : Books s owners) (hx : s.fileno x ≠ -1) (hy : s.fileno y ≠ -1)
    (ho : o ∈ owners) (hof : o.Of x y) : s.loggerOf x y = some o.logger ↔
      ∀ client, .registered client x ∈ s.log → s.perfLoggers (s.fileno x) = none := by
  have hreg := hs.registered o ho
  have hentry := hs.entry o ho
  rcases hof with ⟨rfl, rfl⟩ | ⟨rfl, rfl⟩
  · have hfound : s.loggerOf o.client o.server = some o.logger := by
      rw [TcServer.loggerOf, hentry hx]
      rfl
    refine ⟨fun _ client hclient => ?_, fun _ => hfound⟩
    have hlt := hs.ordered _ _ hreg
    have hlt' := hs.ordered _ _ hclient
    have := hs.sound.partner _ _ _ (Or.inl hreg) (Or.inr hclient)
    omega
  · constructor
    · intro hfound client _
      by_contra hstored
      obtain ⟨n, hn⟩ := Option.ne_none_iff_exists'.mp hstored
      rw [TcServer.loggerOf, hn] at hfound
      have hown := hn.trans hfound
      have hfd := hs.keyed _ _ _ hown (hentry hy)
      have heq := hs.sound.distinct _ _ hx hfd
      have hlt := hs.ordered _ _ hreg
      omega
    · intro hnone
      rw [TcServer.loggerOf, hnone _ hreg, hentry hy]
      rfl

lemma Balanced.serveReady {ready other : Ready} {a : Unit} (hs : Books s owners) (h : Balanced s ready)
    (hother : Balanced s other) (hserve : serveReady other s = .ok a t) : Balanced t ready := by
  cases ready with
  | accept conn => trivial
  | serve x _ _ =>
    obtain ⟨y, hxy, hboth⟩ := h
    have hlog := serveReady_log hserve
    refine ⟨y, hxy.mono hlog, ?_⟩
    cases other with
    | accept conn =>
      rw [hs.acceptConnection_fileno hxy hserve, hs.acceptConnection_fileno hxy.symm hserve]
      exact hboth
    | serve z _ _ =>
      obtain ⟨w, hzw, -⟩ := hother
      obtain ⟨-, -, hrelayed, -⟩ := hs.sound.readAndForward hzw hserve
      cases hrelayed with
      | forwarded _ _ _ _ _ => exact hboth
      | cleaned _ _ =>
        rcases eq_or_ne x z with rfl | hxz
        · obtain rfl := hs.sound.partner x y w hxy hzw
          rw [cleaned_fileno_left, cleaned_fileno_right]
        rcases eq_or_ne x w with rfl | hxw
        · obtain rfl := hs.sound.partner x y z hxy hzw.symm
          rw [cleaned_fileno_left, cleaned_fileno_right]
        have hyz : y ≠ z := by
          rintro rfl
          exact hxw (hs.sound.partner y x w hxy.symm hzw)
        have hyw : y ≠ w := by
          rintro rfl
          exact hxz (hs.sound.partner y x z hxy.symm hzw.symm)
        rw [cleaned_fileno_of_ne hxz hxw, cleaned_fileno_of_ne hyz hyw]
        exact hboth

lemma Books.relayed (hs : Books s owners) (hcovered : ∀ c, Covered s owners c) (hxy : Pair s x y)
    (hcareful : Careful s (.serve x recv send)) (hserve : readAndForward x recv send s = .ok () t) :
    Books t owners ∧ ∀ c, Covered t owners c := by
  obtain ⟨hx, hy, hrelayed, hsound⟩ := hs.sound.readAndForward hxy hserve
  cases hrelayed with
  | forwarded data n _ _ _ =>
    have hreg : ∀ c v, .registered c v ∈ ((s.record (.received x data)).record
        (.forwarded x y (data.take n))).log ↔ .registered c v ∈ s.log := by
      intro c v
      simp [TcServer.record]
    refine ⟨hs.of_tables hsound hreg rfl (fun _ _ _ _ => rfl) rfl rfl rfl, fun c v hcv hopen => ?_⟩
    exact hcovered c v ((hreg c v).mp hcv) hopen
  | cleaned hends _ =>
    obtain ⟨o, ho, hof⟩ := owner_of_covered hcovered hxy hx hy
    have hown := (hs.finds_own_iff hx hy ho hof).mpr (hcareful hends)
    refine ⟨hs.cleaned hxy hx hy ho hof hown, fun c v hcv hopen => ?_⟩
    rw [(cleaned_open hopen).2.2] at hopen
    exact hcovered c v hcv hopen

lemma LoopBooks.turn {scapy : Scapy} {l m : Loop} (hl : LoopBooks l) (h : Turn scapy Careful l m) :
    LoopBooks m := by
  obtain ⟨hbooks, hcovered, hpending⟩ := hl
  cases h with
  | select hopen hbatch =>
    refine ⟨hbooks, hcovered, fun ready hready => ?_⟩
    have hselected := hbatch ready hready
    cases ready with
    | accept conn => trivial
    | serve x recv send =>
      obtain ⟨hx, hxl⟩ := hselected
      obtain ⟨y, hxy⟩ := (hbooks.sound.inputs x hx).resolve_left hxl
      refine ⟨y, hxy, ?_⟩
      simp only [hopen x hx, hopen y (hbooks.together x y hxy hx)]
  | @serve s t owners ready rest hcareful hserve =>
    have hother := hpending ready List.mem_cons_self
    have hrest : ∀ r ∈ rest, Balanced t r :=
      fun r hr => (hpending r (List.mem_cons_of_mem ready hr)).serveReady hbooks hother hserve
    cases ready with
    | accept conn =>
      obtain ⟨ht, hcovered'⟩ := hbooks.acceptConnection hcovered hcareful hserve
      exact ⟨ht, hcovered', hrest⟩
    | serve x recv send =>
      obtain ⟨y, hxy, -⟩ := hother
      obtain ⟨ht, hcovered'⟩ := hbooks.relayed hcovered hxy hcareful hserve
      rw [Ready.started, List.append_nil]
      exact ⟨ht, hcovered', hrest⟩

lemma start_loopBooks (fd : ℕ) : LoopBooks (.start fd) where
  books := by
    have hnone : ∀ x y, ¬ Pair (.start fd) x y := start_unpaired fd
    refine ⟨start_sound fd, fun c v h => (List.not_mem_nil h).elim, List.nodup_singleton _,
      fun x y h => (hnone x y h).elim, fun x y h => (hnone x y h).elim, fun o h => (List.not_mem_nil h).elim,
      fun o h => (List.not_mem_nil h).elim, fun o h => (List.not_mem_nil h).elim,
      fun o h => (List.not_mem_nil h).elim, nofun, nofun, nofun⟩
  covered c v h := (List.not_mem_nil h).elim
  pending ready h := (List.not_mem_nil h).elim

lemma Turns.books {scapy : Scapy} {l : Loop} (h : Turns scapy Careful l) : LoopBooks l := by
  obtain ⟨fd, h⟩ := h
  induction h with
  | refl => exact start_loopBooks fd
  | tail _ hturn ih => exact ih.turn hturn

end Turns

theorem cleanup_stopsOwn_iff (scapy : Scapy) (l : Loop) (h : Turns scapy Careful l) (x y : ℕ)
    (recv : RecvAnswer) (send : SendAnswer) (rest : List Ready)
    (hpending : l.pending = .serve x recv send :: rest) (hcall : Cleans l.server x y recv) :
    StopsOwn l.server l.owners x y ↔ Careful l.server (.serve x recv send) := by
  obtain ⟨hs, hcovered, hbalanced⟩ := h.books
  obtain ⟨partner, hxy, hboth⟩ : Balanced l.server (.serve x recv send) :=
    hbalanced _ (by rw [hpending]; exact List.mem_cons_self)
  obtain ⟨hmap, hends⟩ := hcall
  have hx : l.server.fileno x ≠ -1 := by
    intro hclosed
    rw [hclosed, hs.sound.unmapped] at hmap
    cases hmap
  obtain rfl : partner = y := Option.some.inj ((hs.sound.mapped x partner hxy hx).symm.trans hmap)
  have hy : l.server.fileno partner ≠ -1 := fun hclosed => hx (hboth.mpr hclosed)
  have hends := (hends.resolve_left hy).resolve_left hx
  obtain ⟨o, ho, hof⟩ := owner_of_covered hcovered hxy hx hy
  have hfinds := hs.finds_own_iff hx hy ho hof
  constructor
  · rintro ⟨⟨o', ho', hof', -, hfound⟩, -⟩ -
    apply hfinds.mp
    rwa [hs.owner_unique ho' ho hof'.has.1.1 hof.has.1.1]
  · intro hcareful
    have hfound := hfinds.mpr (hcareful hends)
    have hclean : Cleanable l.server x partner := by
      have hne : partner ≠ x := (hs.sound.born partner x hxy.symm).2.2
      refine ⟨hs.listed x partner hxy hx, ?_, ?_, ?_, ?_, ?_⟩
      · rw [hmap]
        exact nofun
      · rw [hs.sound.mapped partner x hxy.symm hy]
        exact nofun
      · exact fun heq => hne (hs.sound.distinct partner x hy heq)
      · exact (List.mem_erase_of_ne hne).mpr (hs.listed partner x hxy.symm hy)
      · intro logger hlogger
        obtain rfl := Option.some.inj (hfound.symm.trans hlogger)
        exact (hs.made o ho).2
    refine ⟨⟨o, ho, hof, fun o' ho' hof' => ?_, hfound⟩, _, cleanupSocketPair_eq_ok.mpr ⟨hclean, rfl⟩,
      fun n hn => hs.cleaned_running ho hof hfound hn⟩
    exact hs.owner_unique ho ho' hof.has.1.1 hof'.has.1.1

section Runs

variable {scapy : Scapy} {allowed : TcServer → Ready → Prop} {s t : TcServer} {owners : List Owner}
  {ready : Ready}

lemma Turns.reports (h : Turns scapy allowed ⟨s, [], owners⟩) (hopen : ∀ x ∈ s.inputs, s.fileno x ≠ -1)
    (hready : Selected scapy s ready) : Turns scapy allowed ⟨s, [ready], owners⟩ := by
  obtain ⟨fd, h⟩ := h
  refine ⟨fd, h.tail (.select hopen fun other hother => ?_)⟩
  rwa [List.mem_singleton.mp hother]

lemma Turns.serves (h : Turns scapy allowed ⟨s, [ready], owners⟩) (hallowed : allowed s ready)
    (hserve : serveReady ready s = .ok () t) :
    Turns scapy allowed ⟨t, [], owners ++ ready.started s⟩ := by
  obtain ⟨fd, h⟩ := h
  exact ⟨fd, h.tail (.serve hallowed hserve)⟩

lemma Turns.batch {batch : List Ready} (h : Turns scapy allowed ⟨s, batch, owners⟩)
    (hallowed : ∀ ready ∈ batch, ∀ u, allowed u ready) (hserve : serveBatch batch s = .ok () t) :
    ∃ owners', Turns scapy allowed ⟨t, [], owners'⟩ := by
  induction batch generalizing s owners with
  | nil =>
    cases hserve
    exact ⟨owners, h⟩
  | cons ready batch ih =>
    obtain ⟨u, hready, hrest⟩ := serveBatch_cons_eq_ok.mp hserve
    obtain ⟨fd, h⟩ := h
    have hnext := h.tail (.serve (hallowed ready List.mem_cons_self s) hready)
    exact ih ⟨fd, hnext⟩ (fun other hother => hallowed other (List.mem_cons_of_mem ready hother)) hrest

theorem reachable_turns (h : Reachable scapy (fun _ => True) s) :
    ∃ owners, Turns scapy (fun _ _ => True) ⟨s, [], owners⟩ := by
  obtain ⟨fd, h⟩ := h
  induction h with
  | refl => exact ⟨[], fd, .refl⟩
  | tail _ hstep ih =>
    obtain ⟨owners, fd, hturns⟩ := ih
    obtain ⟨hopen, batch, hbatch, hserve⟩ := hstep
    have hselect := hturns.tail (.select hopen fun ready hready => (hbatch ready hready).1)
    exact Turns.batch ⟨fd, hselect⟩ (fun _ _ _ => trivial) hserve

def Ready.Listed (s : TcServer) : Ready → Prop
  | .accept _ => listener ∈ s.inputs
  | .serve sock _ _ => sock ∈ s.inputs ∧ sock ≠ listener

instance (s : TcServer) (ready : Ready) : Decidable (ready.Listed s) :=
  match ready with
  | .accept _ => inferInstanceAs (Decidable (listener ∈ s.inputs))
  | .serve sock _ _ => inferInstanceAs (Decidable (sock ∈ s.inputs ∧ sock ≠ listener))

def oneByOne : List Ready → TcServer → List Owner → Option (TcServer × List Owner)
  | [], s, owners => some (s, owners)
  | ready :: rest, s, owners =>
    if (∀ x ∈ s.inputs, s.fileno x ≠ -1) ∧ ready.Listed s then
      match serveReady ready s with
      | .ok _ t => oneByOne rest t (owners ++ ready.started s)
      | .error _ _ => none
    else none

lemma Ready.Listed.selected (h : ready.Listed s)
    (hread : ∀ conn, ready = .accept conn → ∃ sock, ReadReturns scapy sock conn.read) :
    Selected scapy s ready := by
  cases ready with
  | accept conn => exact ⟨h, hread conn rfl⟩
  | serve sock recv send => exact h

lemma Turns.oneByOne {turns : List Ready} {owners' : List Owner} (h : Turns scapy allowed ⟨s, [], owners⟩)
    (hallowed : ∀ ready ∈ turns, ∀ u, allowed u ready)
    (hread : ∀ conn, .accept conn ∈ turns → ∃ sock, ReadReturns scapy sock conn.read)
    (hrun : oneByOne turns s owners = some (t, owners')) : Turns scapy allowed ⟨t, [], owners'⟩ := by
  induction turns generalizing s owners with
  | nil =>
    cases hrun
    exact h
  | cons ready turns ih =>
    rw [Server.oneByOne] at hrun
    split_ifs at hrun with hready
    cases hserve : serveReady ready s with
    | error e u =>
      rw [hserve] at hrun
      cases hrun
    | ok b u =>
      rw [hserve] at hrun
      have hselected : Selected scapy s ready := by
        apply hready.2.selected
        rintro conn rfl
        exact hread conn List.mem_cons_self
      have hnext := (h.reports hready.1 hselected).serves (hallowed ready List.mem_cons_self s) hserve
      exact ih hnext (fun other hother => hallowed other (List.mem_cons_of_mem ready hother))
        (fun conn hconn => hread conn (List.mem_cons_of_mem ready hconn)) hrun

end Runs

def FdChoice.prefer (k : ℕ) : FdChoice where
  pick used := if (k : ℤ) ∈ used then above.pick used else k
  fresh used h := by
    split_ifs at h with hk
    · exact above.fresh used h
    · exact hk h
  nonneg used := by
    split_ifs
    · exact above.nonneg used
    · exact Int.natCast_nonneg k

def numbered (c v : ℕ) : Conn :=
  { connectConn with fd := .prefer c, dials := fun _ => { obliging with socket := some (.prefer v) } }

lemma numbered_careful {s : TcServer} {c v : ℕ} : Careful s (.accept (numbered c v)) := by
  intro convert hread
  obtain rfl := ReadResult.header.inj hread
  exact Nat.le_of_ble_eq_true rfl

lemma open_of_filenos {s : TcServer} {fds : List ℤ} (h : s.inputs.map s.fileno = fds) (hfds : -1 ∉ fds) :
    ∀ x ∈ s.inputs, s.fileno x ≠ -1 := by
  intro x hx heq
  apply hfds
  rw [← h, ← heq]
  exact List.mem_map_of_mem hx

def clientEnds : Ready := .serve 1 (.octets []) (.accepts 0)

theorem cleanup_stopsOwn_iff_client : ∃ l, Turns strictScapy Careful l ∧ l.pending = [clientEnds] ∧
    l.owners = [⟨0, 1, 2⟩] ∧ (StopsOwn l.server l.owners 1 2 ↔ Careful l.server clientEnds) := by
  have hrun : (oneByOne [.accept (numbered 4 5)] (.start 3) []).map (fun r =>
      (r.1.inputs, r.1.inputs.map r.1.fileno, r.1.forwardMap (r.1.fileno 1), r.2)) =
      some ([listener, 2, 1], [3, 5, 4], some 2, [⟨0, 1, 2⟩]) := by
    decide +kernel
  obtain ⟨⟨s, owners⟩, hrun, hfacts⟩ := Option.map_eq_some_iff.mp hrun
  simp only [Prod.mk.injEq] at hfacts
  obtain ⟨hinputs, hfileno, hmap, rfl⟩ := hfacts
  have hstart : Turns strictScapy Careful ⟨.start 3, [], []⟩ := ⟨3, .refl⟩
  have hturns : Turns strictScapy Careful ⟨s, [], [⟨0, 1, 2⟩]⟩ := by
    apply hstart.oneByOne _ _ hrun
    · intro ready hready u
      rw [List.mem_singleton.mp hready]
      exact numbered_careful
    · intro conn hconn
      obtain rfl := Ready.accept.inj (List.mem_singleton.mp hconn)
      exact ⟨.whole connectMessage, connectConn_read⟩
  have hopen := open_of_filenos hfileno (by decide)
  have hend : Turns strictScapy Careful ⟨s, [clientEnds], [⟨0, 1, 2⟩]⟩ :=
    hturns.reports hopen ⟨by rw [hinputs]; decide, by decide⟩
  exact ⟨_, hend, rfl, rfl, cleanup_stopsOwn_iff strictScapy _ hend 1 2 _ _ [] rfl
    ⟨hmap, Or.inr (Or.inr (Or.inr rfl))⟩⟩

/-- The second server's socket gets the number of the first client, which is closed by then. -/
def reusing : List Ready := [.accept (numbered 4 5), clientEnds, .accept (numbered 5 4)]

def serverEnds : Ready := .serve 4 (.octets []) (.accepts 0)

theorem reusedNumber_stopsOther : ∃ l, Turns strictScapy (fun _ _ => True) l ∧ l.pending = [serverEnds] ∧
    l.owners = [⟨0, 1, 2⟩, ⟨1, 3, 4⟩] ∧ Cleans l.server 4 3 (.octets []) ∧
    l.server.loggerOf 4 3 = some 0 ∧ l.server.loggers 1 = .running ∧
    ¬ StopsOwn l.server l.owners 4 3 := by
  have hrun : (oneByOne reusing (.start 3) []).map (fun r =>
      ((r.1.inputs, r.1.inputs.map r.1.fileno, r.1.forwardMap (r.1.fileno 4)),
        r.1.loggerOf 4 3, r.1.loggers 1, r.2)) =
      some (([listener, 4, 3], [3, 4, 5], some 3), some 0, .running, [⟨0, 1, 2⟩, ⟨1, 3, 4⟩]) := by
    decide +kernel
  obtain ⟨⟨s, owners⟩, hrun, hfacts⟩ := Option.map_eq_some_iff.mp hrun
  simp only [Prod.mk.injEq] at hfacts
  obtain ⟨⟨hinputs, hfileno, hmap⟩, hlogger, hrunning, rfl⟩ := hfacts
  have hstart : Turns strictScapy (fun _ _ => True) ⟨.start 3, [], []⟩ := ⟨3, .refl⟩
  have hturns : Turns strictScapy (fun _ _ => True) ⟨s, [], [⟨0, 1, 2⟩, ⟨1, 3, 4⟩]⟩ := by
    apply hstart.oneByOne (fun _ _ _ => trivial) _ hrun
    intro conn hconn
    simp only [reusing, clientEnds, List.mem_cons, Ready.accept.injEq, reduceCtorEq, List.not_mem_nil,
      or_false, false_or] at hconn
    rcases hconn with rfl | rfl
    · exact ⟨.whole connectMessage, connectConn_read⟩
    · exact ⟨.whole connectMessage, connectConn_read⟩
  have hopen := open_of_filenos hfileno (by decide)
  have hend : Turns strictScapy (fun _ _ => True) ⟨s, [serverEnds], [⟨0, 1, 2⟩, ⟨1, 3, 4⟩]⟩ :=
    hturns.reports hopen ⟨by rw [hinputs]; decide, by decide⟩
  refine ⟨_, hend, rfl, rfl, ⟨hmap, Or.inr (Or.inr (Or.inr rfl))⟩, hlogger, hrunning, ?_⟩
  rintro ⟨⟨o, ho, hof, -, hfound⟩, -⟩
  have hzero : o.logger = 0 := Option.some.inj (hfound.symm.trans hlogger)
  rcases List.mem_pair.mp ho with rfl | rfl
  · rcases hof with ⟨hclient, -⟩ | ⟨hclient, -⟩
    · cases hclient
    · cases hclient
  · cases hzero

end TransportConverter.Server
