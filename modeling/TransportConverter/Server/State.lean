import TransportConverter.Foundations.Effects
import TransportConverter.Server.ReadHeader

/-! The state of `TCServer` with the sockets it has made. A socket is its number in the order of
creation; number 0 is the listener. -/

namespace TransportConverter.Server

open Foundations.Memory

inductive Event
  | dialed (host : Text) (port : ℕ)
  | replied (client : ℕ) (octets : Bytes)
  | registered (client server : ℕ)
  | received (sock : ℕ) (octets : Bytes)
  | forwarded (source destination : ℕ) (octets : Bytes)
  deriving DecidableEq

/-- A logger without a thread was made but never started. -/
inductive LoggerState
  | created
  | running
  | stopped
  deriving DecidableEq

structure TcServer where
  nextSock : ℕ
  fileno : ℕ → ℤ
  inputs : List ℕ
  forwardMap : ℤ → Option ℕ
  trackClientSockets : ℤ → Option Bool
  perfLoggers : ℤ → Option ℕ
  nextLogger : ℕ
  loggers : ℕ → LoggerState
  clientSock : Option ℕ
  log : List Event

inductive PyError
  | keyError
  | valueError
  | osError
  | attributeError
  | structError
  | runtimeError
  deriving DecidableEq

abbrev Py := EStateM PyError TcServer

def listener : ℕ := 0

/-- A number for a new descriptor: the kernel takes one that is not open. -/
structure FdChoice where
  pick : List ℤ → ℤ
  fresh : ∀ used, pick used ∉ used
  nonneg : ∀ used, 0 ≤ pick used

def FdChoice.above : FdChoice where
  pick used := ((used.map Int.natAbs).sum + 1 : ℕ)
  fresh used h := by
    have := List.le_sum_of_mem (List.mem_map_of_mem (f := Int.natAbs) h)
    omega
  nonneg used := Int.natCast_nonneg _

namespace TcServer

variable (s : TcServer)

def filenos : List ℤ := (List.range s.nextSock).map s.fileno

def opened (fd : FdChoice) : TcServer :=
  { s with
    nextSock := s.nextSock + 1
    fileno := Function.update s.fileno s.nextSock (fd.pick s.filenos) }

def closed (sock : ℕ) : TcServer := { s with fileno := Function.update s.fileno sock (-1) }

def record (e : Event) : TcServer := { s with log := s.log ++ [e] }

/-- `client_sock` of the loop is rebound; an unregistered socket it held is collected. -/
def bindClient (client : ℕ) : TcServer :=
  match s.clientSock with
  | none => { s with clientSock := some client }
  | some previous =>
    if previous ∈ s.inputs then { s with clientSock := some client }
    else { s.closed previous with clientSock := some client }

/-- The statements of `handle_tlv_connect` between the reply and the logger. -/
def register (client server : ℕ) : TcServer :=
  { s with
    inputs := s.inputs ++ [server, client]
    trackClientSockets := Function.update
      (Function.update s.trackClientSockets (s.fileno client) (some true)) (s.fileno server) (some false)
    forwardMap := Function.update
      (Function.update s.forwardMap (s.fileno client) (some server)) (s.fileno server) (some client)
    log := s.log ++ [.registered client server] }

def addLogger (client : ℕ) (state : LoggerState) : TcServer :=
  { s with
    perfLoggers := Function.update s.perfLoggers (s.fileno client) (some s.nextLogger)
    loggers := Function.update s.loggers s.nextLogger state
    nextLogger := s.nextLogger + 1 }

end TcServer

inductive SendAnswer
  | raises
  | accepts (n : ℕ)
  deriving DecidableEq

def openSocket (fd : Option FdChoice) : Py ℕ := fun s =>
  match fd with
  | none => .error .osError s
  | some fd => .ok s.nextSock (s.opened fd)

def closeSocket (sock : ℕ) : Py Unit := modify (·.closed sock)

/-- `send` hands over a prefix of `data`, which `event` keeps in the log. -/
def sendSocket (sock : ℕ) (data : Bytes) (answer : SendAnswer) (event : Bytes → Event) : Py Unit :=
  fun s =>
    if s.fileno sock = -1 then .error .osError s
    else
      match answer with
      | .raises => .error .osError s
      | .accepts n => .ok () (s.record (event (data.take n)))

end TransportConverter.Server
