import TransportConverter.Evaluation.MptcpClient

/-! The server of the measurements: what `mptcp_server.py` does with one connection, from its header to the
end of its thread. -/

namespace TransportConverter.Evaluation

open Foundations.Memory Foundations.Parties Foundations.Refinement

def defaultBufferSize : ℕ := 1024

/-- Its socket is the connection that this is about. -/
structure ClientConnection where
  type : ClientType
  bufferSize : ℕ

/-- Where the server is with a connection: in `read_client_header`, where what it raises ends the server, or
in the thread of `handle_client`. -/
inductive ServerPc
  | magicNumber
  | clientType
  | bufferSize (type : ClientType)
  | rejected
  | crashed
  | generating (conn : ClientConnection)
  | sending (conn : ClientConnection) (left : Bytes)
  | receiving (conn : ClientConnection)
  | ended (conn : ClientConnection)
  | failed (conn : ClientConnection)

/-- The first three are the calls of `recv` for the header; `send` is a part of a `sendall`. -/
inductive ServerMove
  | magicNumber (octets : Bytes)
  | clientType (octets : Bytes)
  | bufferSize (octets : Bytes)
  | random (octets : Bytes)
  | send (octets : Bytes)
  | sent
  | recv (octets : Bytes)
  | recvNothing
  | fail

def fromBytes (octets : Bytes) : ℕ := Nat.ofDigits 256 (octets.map UInt8.toNat)

def clientTypeOf (octets : Bytes) : Option ClientType :=
  match fromBytes octets with
  | 0 => some .uplink
  | 1 => some .downlink
  | 2 => some .echo
  | _ => none

def bufferSizeOf (octets : Bytes) : ℕ :=
  if (fromBytes octets : ℤ) < 0 then defaultBufferSize else fromBytes octets

def generateRandomDataBuffer (random : Bytes) : Bytes := random.filter (· ≠ magicNumber)

def afterMagicNumber (octets : Bytes) : ServerPc :=
  if fromBytes octets = magicNumber.toNat then .clientType else .rejected

def afterClientType (octets : Bytes) : ServerPc :=
  match clientTypeOf octets with
  | none => .rejected
  | some type => .bufferSize type

def handleClient (conn : ClientConnection) : ServerPc :=
  match conn.type with
  | .echo => .generating conn
  | .uplink | .downlink => .sending conn [magicNumber]

def afterSend (conn : ClientConnection) : ServerPc :=
  match conn.type with
  | .downlink => .generating conn
  | .uplink | .echo => .receiving conn

def afterRecv (conn : ClientConnection) (data : Bytes) : ServerPc :=
  if data = [] then .ended conn
  else
    match conn.type with
    | .echo => .sending conn data
    | .uplink | .downlink => .receiving conn

def ServerPc.readsHeader : ServerPc → Bool
  | .magicNumber | .clientType | .bufferSize _ => true
  | _ => false

def ServerPc.running : ServerPc → Option ClientConnection
  | .generating conn | .sending conn _ | .receiving conn => some conn
  | _ => none

def ServerPc.conn : ServerPc → Option ClientConnection
  | .generating conn | .sending conn _ | .receiving conn | .ended conn | .failed conn => some conn
  | _ => none

def ServerPc.pending : ServerPc → Bytes
  | .sending _ left => left
  | _ => []

inductive Server.Step : ServerMove → ServerPc → ServerPc → Prop
  | magicNumber {octets : Bytes} (hlength : octets.length ≤ 1) :
      Step (.magicNumber octets) .magicNumber (afterMagicNumber octets)
  | clientType {octets : Bytes} (hlength : octets.length ≤ 1) :
      Step (.clientType octets) .clientType (afterClientType octets)
  | bufferSize {type : ClientType} {octets : Bytes} (hlength : octets.length ≤ 4) :
      Step (.bufferSize octets) (.bufferSize type) (handleClient ⟨type, bufferSizeOf octets⟩)
  | random {conn : ClientConnection} {octets : Bytes} (hlength : octets.length = conn.bufferSize) :
      Step (.random octets) (.generating conn) (.sending conn (generateRandomDataBuffer octets))
  | send {conn : ClientConnection} {octets left : Bytes} :
      Step (.send octets) (.sending conn (octets ++ left)) (.sending conn left)
  | sent {conn : ClientConnection} : Step .sent (.sending conn []) (afterSend conn)
  | recv {conn : ClientConnection} {octets : Bytes} (hsome : 0 < conn.bufferSize)
      (hlength : octets.length ≤ conn.bufferSize) :
      Step (.recv octets) (.receiving conn) (afterRecv conn octets)
  -- asked for no octets `recv` returns none, whatever is there
  | recvNothing {conn : ClientConnection} (hnone : conn.bufferSize = 0) :
      Step .recvNothing (.receiving conn) (.ended conn)
  | crash {pc : ServerPc} (hheader : pc.readsHeader = true) : Step .fail pc .crashed
  | fail {pc : ServerPc} {conn : ClientConnection} (hrunning : pc.running = some conn) :
      Step .fail pc (.failed conn)

def ServerMove.took : ServerMove → Bytes
  | .magicNumber octets | .clientType octets | .bufferSize octets | .recv octets => octets
  | .random _ | .send _ | .sent | .recvNothing | .fail => []

def ServerMove.gave : ServerMove → Bytes
  | .send octets => octets
  | _ => []

def ServerMove.sawEnd : ServerMove → Bool
  | .magicNumber octets | .clientType octets | .bufferSize octets | .recv octets => octets.isEmpty
  | .random _ | .send _ | .sent | .recvNothing | .fail => false

def ServerPc.closed : ServerPc → Bool
  | .rejected | .crashed | .ended _ | .failed _ => true
  | _ => false

def serverParty : Party UInt8 ServerPc ServerMove where
  step := Server.Step
  took := ServerMove.took
  gave := ServerMove.gave
  sawEnd move := move.sawEnd = true
  closed pc := pc.closed = true

def ServerMove.randomOctets : ServerMove → Option Bytes
  | .random octets => some octets
  | _ => none

def firstBuffer (moves : List ServerMove) : Bytes :=
  ((moves.filterMap ServerMove.randomOctets).head?.map generateRandomDataBuffer).getD []

section Runs

variable {moves more : List ServerMove} {move : ServerMove} {pc qc : ServerPc} {conn : ClientConnection}
  {kind octets out : Bytes}

lemma fromBytes_one {octet : UInt8} : fromBytes [octet] = octet.toNat := Nat.ofDigits_singleton

lemma bufferSizeOf_eq : bufferSizeOf octets = fromBytes octets := if_neg (Int.natCast_nonneg _).not_gt

structure Accepts (moves more : List ServerMove) (kind octets : Bytes) (conn : ClientConnection) : Prop where
  moves : moves = .magicNumber [magicNumber] :: .clientType kind :: .bufferSize octets :: more
  kind_length : kind.length ≤ 1
  octets_length : octets.length ≤ 4
  type : clientTypeOf kind = some conn.type
  bufferSize : conn.bufferSize = fromBytes octets

def Owed (conn : ClientConnection) (more : List ServerMove) (out : Bytes) : Prop :=
  match conn.type with
  | .uplink => out = [magicNumber]
  | .downlink => ∃ data, magicNumber ∉ data ∧ out = magicNumber :: data
  | .echo => magicNumber ∉ firstBuffer more ∧ (firstBuffer more).length ≤ conn.bufferSize ∧
      out = firstBuffer more ++ more.flatMap ServerMove.took

def Sends (conn : ClientConnection) (more : List ServerMove) : ServerPc → Prop
  | .generating _ => conn.type ≠ .uplink ∧
      (conn.type = .echo → more.flatMap ServerMove.gave = [] ∧ more.flatMap ServerMove.took = [] ∧
        more.filterMap ServerMove.randomOctets = []) ∧
      Owed conn more (more.flatMap ServerMove.gave)
  | .sending _ left => Owed conn more (more.flatMap ServerMove.gave ++ left)
  | .failed _ => ∃ out, more.flatMap ServerMove.gave <+: out ∧ Owed conn more out
  | _ => Owed conn more (more.flatMap ServerMove.gave)

def Did (moves : List ServerMove) (pc : ServerPc) : Prop :=
  match pc with
  | .magicNumber => moves = []
  | .clientType => moves = [.magicNumber [magicNumber]]
  | .bufferSize type => ∃ kind, kind.length ≤ 1 ∧ clientTypeOf kind = some type ∧
      moves = [.magicNumber [magicNumber], .clientType kind]
  | .rejected => (∃ octets, octets.length ≤ 1 ∧ octets ≠ [magicNumber] ∧ moves = [.magicNumber octets]) ∨
      ∃ kind, kind.length ≤ 1 ∧ clientTypeOf kind = none ∧ moves = [.magicNumber [magicNumber], .clientType kind]
  | .crashed => moves.flatMap ServerMove.gave = []
  | .generating conn | .sending conn _ | .receiving conn | .ended conn | .failed conn =>
    ∃ kind octets more, Accepts moves more kind octets conn ∧ Sends conn more pc

lemma Accepts.snoc (h : Accepts moves more kind octets conn) :
    Accepts (moves ++ [move]) (more ++ [move]) kind octets conn :=
  { h with moves := by rw [h.moves]; rfl }

lemma afterMagicNumber_did (hlength : octets.length ≤ 1) :
    Did [.magicNumber octets] (afterMagicNumber octets) := by
  have hiff : fromBytes octets = magicNumber.toNat ↔ octets = [magicNumber] := by
    match octets, hlength with
    | [], _ => decide
    | [octet], _ => rw [fromBytes_one, UInt8.toNat_inj, List.singleton_inj]
  rw [afterMagicNumber]
  split_ifs with hmagic
  · rw [hiff.mp hmagic]
    rfl
  · exact Or.inl ⟨octets, hlength, fun heq => hmagic (hiff.mpr heq), rfl⟩

lemma afterClientType_did (hlength : octets.length ≤ 1) :
    Did [.magicNumber [magicNumber], .clientType octets] (afterClientType octets) := by
  rw [afterClientType]
  cases htype : clientTypeOf octets with
  | none => exact Or.inr ⟨octets, hlength, htype, rfl⟩
  | some type => exact ⟨octets, hlength, htype, rfl⟩

lemma did_serving (hconn : pc.conn = some conn) (haccepts : Accepts moves more kind octets conn)
    (hsends : Sends conn more pc) : Did moves pc := by
  cases pc with
  | generating | sending | receiving | ended | failed =>
    cases hconn
    exact ⟨kind, octets, more, haccepts, hsends⟩
  | magicNumber | clientType | bufferSize | rejected | crashed => cases hconn

lemma Did.serving (h : Did moves pc) (hconn : pc.conn = some conn) :
    ∃ kind octets more, Accepts moves more kind octets conn ∧ Sends conn more pc := by
  cases pc with
  | generating | sending | receiving | ended | failed =>
    cases hconn
    exact h
  | magicNumber | clientType | bufferSize | rejected | crashed => cases hconn

lemma handleClient_conn (conn : ClientConnection) : (handleClient conn).conn = some conn := by
  rw [handleClient]
  cases conn.type <;> rfl

lemma handleClient_sends (conn : ClientConnection) : Sends conn [] (handleClient conn) := by
  rw [handleClient]
  cases htype : conn.type with
  | uplink =>
    show Owed conn [] _
    rw [Owed, htype]
    rfl
  | downlink =>
    show Owed conn [] _
    rw [Owed, htype]
    exact ⟨[], List.not_mem_nil, rfl⟩
  | echo =>
    refine ⟨by rw [htype]; exact ClientType.noConfusion, fun _ => ⟨rfl, rfl, rfl⟩, ?_⟩
    rw [Owed, htype]
    exact ⟨List.not_mem_nil, Nat.zero_le _, rfl⟩

lemma not_mem_generate (random : Bytes) : magicNumber ∉ generateRandomDataBuffer random := by
  rw [generateRandomDataBuffer, List.mem_filter]
  simp

lemma firstBuffer_other (h : move.randomOctets = none) : firstBuffer (more ++ [move]) = firstBuffer more := by
  rw [firstBuffer, List.filterMap_append, List.filterMap_cons_none h, List.filterMap_nil, List.append_nil]
  rfl

lemma firstBuffer_random (h : more.filterMap ServerMove.randomOctets = []) :
    firstBuffer (more ++ [.random octets]) = generateRandomDataBuffer octets := by
  rw [firstBuffer, List.filterMap_append, h]
  rfl

lemma Sends.random (h : Sends conn more (.generating conn)) (hlength : octets.length = conn.bufferSize) :
    Sends conn (more ++ [.random octets]) (.sending conn (generateRandomDataBuffer octets)) := by
  obtain ⟨huplink, hecho, howed⟩ := h
  show Owed conn _ _
  simp only [List.flatMap_append, List.flatMap_singleton, ServerMove.gave, List.append_nil]
  rw [Owed] at howed ⊢
  cases htype : conn.type with
  | uplink => exact absurd htype huplink
  | downlink =>
    rw [htype] at howed
    obtain ⟨data, hdata, hout⟩ := howed
    refine ⟨data ++ generateRandomDataBuffer octets, ?_, ?_⟩
    · rw [List.mem_append, not_or]
      exact ⟨hdata, not_mem_generate octets⟩
    · rw [hout]
      rfl
  | echo =>
    obtain ⟨hgave, htook, hnone⟩ := hecho htype
    dsimp only
    rw [firstBuffer_random hnone]
    refine ⟨not_mem_generate octets, ?_, ?_⟩
    · rw [← hlength]
      exact List.length_filter_le _ _
    · simp only [List.flatMap_append, List.flatMap_singleton, ServerMove.took, List.append_nil]
      rw [hgave, htook, List.append_nil]
      rfl

lemma owed_other (h : Owed conn more out) (htook : move.took = []) (hrandom : move.randomOctets = none) :
    Owed conn (more ++ [move]) out := by
  rw [Owed] at h ⊢
  cases htype : conn.type with
  | uplink | downlink =>
    rw [htype] at h
    exact h
  | echo =>
    rw [htype] at h
    rwa [firstBuffer_other hrandom, List.flatMap_append, List.flatMap_singleton, htook, List.append_nil]

lemma gave_other (move : ServerMove) (left : Bytes) (h : Owed conn more (more.flatMap ServerMove.gave ++ left))
    (hgave : move.gave = []) (htook : move.took = []) (hrandom : move.randomOctets = none) :
    Owed conn (more ++ [move]) ((more ++ [move]).flatMap ServerMove.gave ++ left) := by
  rw [List.flatMap_append, List.flatMap_singleton, hgave, List.append_nil]
  exact owed_other h htook hrandom

lemma Sends.send {left : Bytes} (h : Sends conn more (.sending conn (octets ++ left))) :
    Sends conn (more ++ [.send octets]) (.sending conn left) := by
  show Owed conn (more ++ [.send octets]) ((more ++ [ServerMove.send octets]).flatMap ServerMove.gave ++ left)
  rw [List.flatMap_append, List.flatMap_singleton, List.append_assoc]
  exact owed_other h rfl rfl

lemma Sends.sent (h : Sends conn more (.sending conn [])) : Sends conn (more ++ [.sent]) (afterSend conn) := by
  have howed := gave_other .sent [] h rfl rfl rfl
  rw [List.append_nil] at howed
  rw [afterSend]
  cases htype : conn.type with
  | uplink | echo => exact howed
  | downlink =>
    have hother (t : ClientType) (ht : .downlink ≠ t) : conn.type ≠ t := by rwa [htype]
    exact ⟨hother _ ClientType.noConfusion, fun hecho => absurd hecho (hother _ ClientType.noConfusion), howed⟩

lemma Sends.recv (h : Sends conn more (.receiving conn)) :
    Sends conn (more ++ [.recv octets]) (afterRecv conn octets) := by
  have hgave : (more ++ [ServerMove.recv octets]).flatMap ServerMove.gave = more.flatMap ServerMove.gave := by
    rw [List.flatMap_append, List.flatMap_singleton]
    exact List.append_nil _
  have htook : (more ++ [ServerMove.recv octets]).flatMap ServerMove.took = more.flatMap ServerMove.took ++ octets := by
    rw [List.flatMap_append, List.flatMap_singleton, ServerMove.took]
  have hfirst : firstBuffer (more ++ [ServerMove.recv octets]) = firstBuffer more := firstBuffer_other rfl
  have howed : Owed conn more (more.flatMap ServerMove.gave) := h
  rw [afterRecv]
  split_ifs with hnone
  · show Owed conn _ _
    rw [hgave]
    rw [Owed] at howed ⊢
    cases htype : conn.type with
    | uplink | downlink =>
      rw [htype] at howed
      exact howed
    | echo =>
      rw [htype] at howed
      dsimp only
      rwa [hfirst, htook, hnone, List.append_nil]
  · rw [Owed] at howed
    cases htype : conn.type with
    | uplink | downlink =>
      show Owed conn _ _
      rw [htype] at howed
      rw [hgave, Owed, htype]
      exact howed
    | echo =>
      show Owed conn _ _
      rw [htype] at howed
      obtain ⟨hinitial, hlength, hout⟩ := howed
      rw [hgave, Owed, htype]
      dsimp only
      rw [hfirst]
      refine ⟨hinitial, hlength, ?_⟩
      rw [htook, hout, List.append_assoc]

lemma Sends.recvNothing (h : Sends conn more (.receiving conn)) :
    Sends conn (more ++ [.recvNothing]) (.ended conn) := by
  have howed := gave_other .recvNothing [] (by rwa [List.append_nil]) rfl rfl rfl
  rwa [List.append_nil] at howed

lemma Sends.running {served : ClientConnection} (h : Sends conn more pc) (hrunning : pc.running = some served) :
    Owed conn more (more.flatMap ServerMove.gave ++ pc.pending) := by
  cases pc with
  | generating => exact (List.append_nil _).symm ▸ h.2.2
  | sending _ left => exact h
  | receiving =>
    have howed : Owed conn more (more.flatMap ServerMove.gave) := h
    exact (List.append_nil _).symm ▸ howed
  | magicNumber | clientType | bufferSize | rejected | crashed | ended | failed => cases hrunning

lemma Sends.fail (h : Sends conn more pc) (hrunning : pc.running = some conn) :
    Sends conn (more ++ [.fail]) (.failed conn) :=
  ⟨_, List.prefix_append _ pc.pending, gave_other .fail pc.pending (h.running hrunning) rfl rfl rfl⟩

lemma Sends.sent_begins (h : Sends conn more pc) :
    ∃ out, more.flatMap ServerMove.gave <+: out ∧ Owed conn more out := by
  cases pc with
  | generating => exact ⟨_, List.prefix_rfl, h.2.2⟩
  | sending _ left => exact ⟨_, List.prefix_append _ left, h⟩
  | failed => exact h
  | magicNumber | clientType | bufferSize | rejected | crashed | receiving | ended =>
    exact ⟨_, List.prefix_rfl, h⟩

lemma Accepts.gave (h : Accepts moves more kind octets conn) :
    moves.flatMap ServerMove.gave = more.flatMap ServerMove.gave := by
  rw [h.moves]
  rfl

lemma Accepts.start {type : ClientType} (hkind : kind.length ≤ 1) (htype : clientTypeOf kind = some type)
    (hlength : octets.length ≤ 4) :
    Accepts [.magicNumber [magicNumber], .clientType kind, .bufferSize octets] [] kind octets
      ⟨type, bufferSizeOf octets⟩ :=
  ⟨rfl, hkind, hlength, htype, bufferSizeOf_eq⟩

lemma afterSend_conn (conn : ClientConnection) : (afterSend conn).conn = some conn := by
  rw [afterSend]
  cases conn.type <;> rfl

lemma afterRecv_conn (conn : ClientConnection) (data : Bytes) : (afterRecv conn data).conn = some conn := by
  rw [afterRecv]
  split_ifs
  · rfl
  · cases conn.type <;> rfl

lemma running_conn (h : pc.running = some conn) : pc.conn = some conn := by
  cases pc with
  | generating | sending | receiving => exact h
  | magicNumber | clientType | bufferSize | rejected | crashed | ended | failed => cases h

lemma Did.silent (h : Did moves pc) (hconn : pc.conn = none) : moves.flatMap ServerMove.gave = [] := by
  cases pc with
  | magicNumber =>
    have hnil : moves = [] := h
    rw [hnil]
    rfl
  | clientType =>
    have hone : moves = [.magicNumber [magicNumber]] := h
    rw [hone]
    rfl
  | bufferSize type =>
    obtain ⟨kind, -, -, rfl⟩ := h
    rfl
  | rejected =>
    rcases h with ⟨octets, -, -, rfl⟩ | ⟨kind, -, -, rfl⟩
    · rfl
    · rfl
  | crashed => exact h
  | generating | sending | receiving | ended | failed => cases hconn

lemma header_conn (h : pc.readsHeader = true) : pc.conn = none := by
  cases pc with
  | magicNumber | clientType | bufferSize => rfl
  | rejected | crashed | generating | sending | receiving | ended | failed => cases h

lemma did_step (h : Did moves pc) (hstep : Server.Step move pc qc) : Did (moves ++ [move]) qc := by
  cases hstep with
  | magicNumber hlength =>
    have hnil : moves = [] := h
    rw [hnil]
    exact afterMagicNumber_did hlength
  | clientType hlength =>
    have hone : moves = [.magicNumber [magicNumber]] := h
    rw [hone]
    exact afterClientType_did hlength
  | bufferSize hlength =>
    obtain ⟨kind, hkind, htype, rfl⟩ := h
    exact did_serving (handleClient_conn _) (.start hkind htype hlength) (handleClient_sends _)
  | random hlength =>
    obtain ⟨kind, octets, more, haccepts, hsends⟩ := h.serving rfl
    exact did_serving rfl haccepts.snoc (hsends.random hlength)
  | send =>
    obtain ⟨kind, octets, more, haccepts, hsends⟩ := h.serving rfl
    exact did_serving rfl haccepts.snoc hsends.send
  | sent =>
    obtain ⟨kind, octets, more, haccepts, hsends⟩ := h.serving rfl
    exact did_serving (afterSend_conn _) haccepts.snoc hsends.sent
  | recv =>
    obtain ⟨kind, octets, more, haccepts, hsends⟩ := h.serving rfl
    exact did_serving (afterRecv_conn _ _) haccepts.snoc hsends.recv
  | recvNothing =>
    obtain ⟨kind, octets, more, haccepts, hsends⟩ := h.serving rfl
    exact did_serving rfl haccepts.snoc hsends.recvNothing
  | crash hheader =>
    show (moves ++ [ServerMove.fail]).flatMap ServerMove.gave = []
    rw [List.flatMap_append, h.silent (header_conn hheader)]
    rfl
  | @fail _ conn hrunning =>
    obtain ⟨kind, octets, more, haccepts, hsends⟩ := h.serving (running_conn hrunning)
    exact did_serving rfl haccepts.snoc (hsends.fail hrunning)

lemma run_did (h : Trace Server.Step .magicNumber moves pc) : Did moves pc :=
  h.invariant (I := Did) rfl fun _ _ _ _ hdid hstep => did_step hdid hstep

end Runs

end TransportConverter.Evaluation
