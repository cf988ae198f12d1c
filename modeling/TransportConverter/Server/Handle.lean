import TransportConverter.Server.State

/-! `handle_connection` and `handle_tlv_connect`. -/

namespace TransportConverter.Server

open Foundations.Memory Foundations.Effects

inductive LoggerAnswer
  | initRaises
  | runRaises
  | starts
  deriving DecidableEq

structure Dial where
  socket : Option FdChoice
  connects : Bool
  reply : SendAnswer
  logger : LoggerAnswer

/-- Without a port `connect` raises before it dials. -/
def dial (host : Text) (port : Option ℕ) (connects : Bool) : Py Bool := fun s =>
  match port with
  | none => .ok false s
  | some port => .ok connects (s.record (.dialed host port))

/-- When `send` raises, the last reference to the server's socket goes with the frame. -/
def sendReply (client server : ℕ) (answer : SendAnswer) : Py Unit := fun s =>
  match convertBuild [] with
  | none => .error .structError (s.closed server)
  | some reply =>
    match sendSocket client reply answer (.replied client) s with
    | .ok _ s => .ok () s
    | .error e s => .error e (s.closed server)

def startLogger (client : ℕ) (answer : LoggerAnswer) : Py Unit := fun s =>
  match answer with
  | .initRaises => .error .runtimeError s
  | .runRaises => .error .osError (s.addLogger client .created)
  | .starts => .ok () (s.addLogger client .running)

def handleTlvConnect (tlv : TlvPacket) (client : ℕ) (a : Dial) : Py Unit :=
  match tlv with
  | .connect tlv => do
    let ipv4 := ipv6ToIpv4 tlv.remoteAddr
    let server ← openSocket a.socket
    if ← dial ipv4 tlv.remotePort a.connects then
      sendReply client server a.reply
      modify (·.register client server)
      startLogger client a.logger
    else
      closeSocket client
      closeSocket server
  | _ => throw .attributeError

def handleTlvs (client : ℕ) : List TlvPacket → (ℕ → Dial) → Py Unit
  | [], _ => pure ()
  | tlv :: tlvs, dials => do
    match convertTlvs tlv.hdr.type with
    | none => throw .keyError
    | some .connect => handleTlvConnect tlv client (dials 0)
    | some _ => pure ()
    handleTlvs client tlvs (fun i => dials (i + 1))

def handleConnection (client : ℕ) (read : ReadResult) (dials : ℕ → Dial) : Py Bool := fun s =>
  match read with
  | .raised | .nothing => .ok false s
  | .header convert =>
    match handleTlvs client convert.tlvs dials s with
    | .ok _ s => .ok true s
    | .error _ s => .ok false s

structure Conn where
  fd : FdChoice
  read : ReadResult
  dials : ℕ → Dial

def acceptConnection (conn : Conn) : Py Unit := do
  let client ← openSocket (some conn.fd)
  modify (·.bindClient client)
  let success ← handleConnection client conn.read conn.dials
  if !success then closeSocket client

def emptyConvert : Bytes := [1, 1, 0x22, 0x63]

lemma convertBuild_nil : convertBuild [] = some emptyConvert := rfl

def TcServer.withLogger (s : TcServer) (client : ℕ) : LoggerAnswer → TcServer
  | .initRaises => s
  | .runRaises => s.addLogger client .created
  | .starts => s.addLogger client .running

@[simp] lemma withLogger_log (s : TcServer) (client : ℕ) (answer : LoggerAnswer) :
    (s.withLogger client answer).log = s.log := by
  cases answer <;> rfl

@[simp] lemma withLogger_inputs (s : TcServer) (client : ℕ) (answer : LoggerAnswer) :
    (s.withLogger client answer).inputs = s.inputs := by
  cases answer <;> rfl

@[simp] lemma withLogger_fileno (s : TcServer) (client : ℕ) (answer : LoggerAnswer) :
    (s.withLogger client answer).fileno = s.fileno := by
  cases answer <;> rfl

@[simp] lemma withLogger_nextSock (s : TcServer) (client : ℕ) (answer : LoggerAnswer) :
    (s.withLogger client answer).nextSock = s.nextSock := by
  cases answer <;> rfl

def TlvPacket.remotePort : TlvPacket → Option ℕ
  | .connect tlv => tlv.remotePort
  | _ => none

structure Dial.Pairs (a : Dial) (tlv : TlvPacket) : Prop where
  socket : a.socket.isSome
  port : tlv.remotePort.isSome
  connects : a.connects = true
  reply : a.reply ≠ .raises

instance (a : Dial) (tlv : TlvPacket) : Decidable (a.Pairs tlv) :=
  decidable_of_iff (a.socket.isSome ∧ tlv.remotePort.isSome ∧ a.connects = true ∧ a.reply ≠ .raises)
    ⟨fun ⟨h₁, h₂, h₃, h₄⟩ => ⟨h₁, h₂, h₃, h₄⟩, fun h => ⟨h.socket, h.port, h.connects, h.reply⟩⟩

/-- What one CONNECT TLV can do, and whether it raises; `s.nextSock` is the socket it makes. -/
inductive TlvOutcome (client : ℕ) (tlv : TlvPacket) (a : Dial) (s : TcServer) :
    Bool → TcServer → Prop
  | notMade : TlvOutcome client tlv a s true s
  | noPort (fd : FdChoice) :
      TlvOutcome client tlv a s false (((s.opened fd).closed client).closed s.nextSock)
  | refused (fd : FdChoice) (host : Text) (port : ℕ) :
      TlvOutcome client tlv a s false
        ((((s.opened fd).record (.dialed host port)).closed client).closed s.nextSock)
  | noReply (fd : FdChoice) (host : Text) (port : ℕ) :
      TlvOutcome client tlv a s true (((s.opened fd).record (.dialed host port)).closed s.nextSock)
  | paired (fd : FdChoice) (host : Text) (port n : ℕ) (hpairs : a.Pairs tlv)
      (hopen : (s.opened fd).fileno client ≠ -1) (hreply : a.reply = .accepts n) (raised : Bool)
      (hraised : raised = true ↔ a.logger ≠ .starts) :
      TlvOutcome client tlv a s raised
        (((((s.opened fd).record (.dialed host port)).record
          (.replied client (emptyConvert.take n))).register client s.nextSock).withLogger client a.logger)

def Outcome (client : ℕ) (tlv : TlvPacket) (a : Dial) (s : TcServer) :
    EStateM.Result PyError TcServer Unit → Prop
  | .ok _ t => TlvOutcome client tlv a s false t
  | .error _ t => TlvOutcome client tlv a s true t

section Connect

variable {client : ℕ} {a : Dial} {s : TcServer} {tlv : ConvertTlvConnect} {fd : FdChoice}

lemma openSocket_some : openSocket (some fd) s = .ok s.nextSock (s.opened fd) := rfl

lemma closeSocket_ok (sock : ℕ) (s : TcServer) : closeSocket sock s = .ok () (s.closed sock) := rfl

lemma handleTlvConnect_noSocket (h : a.socket = none) :
    handleTlvConnect (.connect tlv) client a s = .error .osError s := by
  have hmake : openSocket a.socket s = .error .osError s := by rw [h]; rfl
  exact bind_of_error hmake

lemma handleTlvConnect_noPort (h : a.socket = some fd) (hport : tlv.remotePort = none) :
    handleTlvConnect (.connect tlv) client a s =
      .ok () (((s.opened fd).closed client).closed s.nextSock) := by
  have hdial : ∀ host, dial host tlv.remotePort a.connects (s.opened fd) = .ok false (s.opened fd) := by
    intro host
    rw [hport]
    rfl
  rw [handleTlvConnect, h, bind_of_ok openSocket_some, bind_of_ok (hdial _), if_neg (by decide),
    bind_of_ok (closeSocket_ok _ _), closeSocket_ok]

def TcServer.dialling (s : TcServer) (fd : FdChoice) (tlv : ConvertTlvConnect) (port : ℕ) : TcServer :=
  (s.opened fd).record (.dialed (ipv6ToIpv4 tlv.remoteAddr) port)

variable {port n : ℕ}

lemma handleTlvConnect_refused (h : a.socket = some fd) (hport : tlv.remotePort = some port)
    (hconnects : a.connects = false) :
    handleTlvConnect (.connect tlv) client a s =
      .ok () (((s.dialling fd tlv port).closed client).closed s.nextSock) := by
  have hdial : ∀ host, dial host tlv.remotePort a.connects (s.opened fd) =
      .ok false ((s.opened fd).record (.dialed host port)) := by
    intro host
    rw [hport, hconnects]
    rfl
  rw [handleTlvConnect, h, bind_of_ok openSocket_some, bind_of_ok (hdial _), if_neg (by decide),
    bind_of_ok (closeSocket_ok _ _), closeSocket_ok]
  rfl

lemma handleTlvConnect_connected (h : a.socket = some fd) (hport : tlv.remotePort = some port)
    (hconnects : a.connects = true) :
    handleTlvConnect (.connect tlv) client a s =
      (do
        sendReply client s.nextSock a.reply
        modify (·.register client s.nextSock)
        startLogger client a.logger : Py Unit) (s.dialling fd tlv port) := by
  have hdial : ∀ host, dial host tlv.remotePort a.connects (s.opened fd) =
      .ok true ((s.opened fd).record (.dialed host port)) := by
    intro host
    rw [hport, hconnects]
    rfl
  rw [handleTlvConnect, h, bind_of_ok openSocket_some, bind_of_ok (hdial _), if_pos rfl]
  rfl

lemma sendReply_raises {server : ℕ} {answer : SendAnswer}
    (h : s.fileno client = -1 ∨ answer = .raises) :
    sendReply client server answer s = .error .osError (s.closed server) := by
  have hsend : sendSocket client emptyConvert answer (.replied client) s = .error .osError s := by
    unfold sendSocket
    split_ifs with hclosed
    · rfl
    · rw [h.resolve_left hclosed]
  simp only [sendReply, convertBuild_nil, hsend]

lemma sendReply_accepts {server : ℕ} (h : s.fileno client ≠ -1) :
    sendReply client server (.accepts n) s =
      .ok () (s.record (.replied client (emptyConvert.take n))) := by
  have hsend : sendSocket client emptyConvert (.accepts n) (.replied client) s =
      .ok () (s.record (.replied client (emptyConvert.take n))) := by
    unfold sendSocket
    exact if_neg h
  simp only [sendReply, convertBuild_nil, hsend]

lemma handleTlvConnect_noReply (h : a.socket = some fd) (hport : tlv.remotePort = some port)
    (hconnects : a.connects = true)
    (hreply : (s.opened fd).fileno client = -1 ∨ a.reply = .raises) :
    handleTlvConnect (.connect tlv) client a s =
      .error .osError ((s.dialling fd tlv port).closed s.nextSock) := by
  have hsend : sendReply client s.nextSock a.reply (s.dialling fd tlv port) = _ :=
    sendReply_raises hreply
  rw [handleTlvConnect_connected h hport hconnects, bind_of_error hsend]

def TcServer.paired (s : TcServer) (fd : FdChoice) (tlv : ConvertTlvConnect) (port client n : ℕ) :
    TcServer :=
  ((s.dialling fd tlv port).record (.replied client (emptyConvert.take n))).register client s.nextSock

lemma handleTlvConnect_paired (h : a.socket = some fd) (hport : tlv.remotePort = some port)
    (hconnects : a.connects = true) (hopen : (s.opened fd).fileno client ≠ -1)
    (hreply : a.reply = .accepts n) :
    handleTlvConnect (.connect tlv) client a s =
      startLogger client a.logger (s.paired fd tlv port client n) := by
  have hsend : sendReply client s.nextSock (.accepts n) (s.dialling fd tlv port) = _ :=
    sendReply_accepts hopen
  have hmodify : (modify (·.register client s.nextSock) : Py Unit)
      ((s.dialling fd tlv port).record (.replied client (emptyConvert.take n))) =
        .ok () (s.paired fd tlv port client n) := rfl
  rw [handleTlvConnect_connected h hport hconnects, hreply, bind_of_ok hsend, bind_of_ok hmodify]

lemma handleTlvConnect_outcome (tlv : TlvPacket) :
    Outcome client tlv a s (handleTlvConnect tlv client a s) := by
  cases tlv with
  | convertTlv _ | info _ | error _ => exact .notMade
  | connect tlv =>
    cases hmake : a.socket with
    | none =>
      rw [handleTlvConnect_noSocket hmake]
      exact .notMade
    | some fd =>
      cases hport : tlv.remotePort with
      | none =>
        rw [handleTlvConnect_noPort hmake hport]
        exact .noPort fd
      | some port =>
        cases hconnects : a.connects with
        | false =>
          rw [handleTlvConnect_refused hmake hport hconnects]
          exact .refused fd _ port
        | true =>
          by_cases hopen : (s.opened fd).fileno client = -1
          · rw [handleTlvConnect_noReply hmake hport hconnects (Or.inl hopen)]
            exact .noReply fd _ port
          cases hreply : a.reply with
          | raises =>
            rw [handleTlvConnect_noReply hmake hport hconnects (Or.inr hreply)]
            exact .noReply fd _ port
          | accepts n =>
            rw [handleTlvConnect_paired hmake hport hconnects hopen hreply]
            have hpairs : a.Pairs (.connect tlv) :=
              ⟨by simp [hmake], by simp [TlvPacket.remotePort, hport], hconnects, by simp [hreply]⟩
            have hpaired : ∀ raised, (raised = true ↔ a.logger ≠ .starts) →
                TlvOutcome client (.connect tlv) a s raised
                  ((s.paired fd tlv port client n).withLogger client a.logger) :=
              fun raised => .paired fd _ port n hpairs hopen hreply raised
            cases hlogger : a.logger with
            | initRaises | runRaises =>
              rw [hlogger] at hpaired
              exact hpaired true (by simp)
            | starts =>
              rw [hlogger] at hpaired
              exact hpaired false (by simp)

end Connect

end TransportConverter.Server
