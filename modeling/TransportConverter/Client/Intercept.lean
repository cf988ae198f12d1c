import TransportConverter.Client.ReadConvert

/-! The intercepted calls: `socket`, `connect`, `close`, `recv` and `send`. -/

namespace TransportConverter.Client

open Foundations.Memory Wire Codec

def afInet : ℤ := 2
def afInet6 : ℤ := 10
def sockStream : ℤ := 1
def ipprotoMptcp : ℤ := 262

namespace Library

def opened (s : Library) (fd : ℤ) (stream : Bytes) : Library :=
  { s with
    isOpen := Function.update s.isOpen fd true
    inbox := Function.update s.inbox fd stream }

def alloc (s : Library) (fd : ℤ) : Library := { s with htable := s.htable.alloc fd }

end Library

def socket (domain type protocol fd : ℤ) (malloc : Bool) (stream : Bytes) (s : Library) :
    ℤ × Library :=
  let s := if 0 ≤ fd then s.opened fd stream else s
  if (domain = afInet ∨ domain = afInet6) ∧ type = sockStream ∧ protocol = ipprotoMptcp ∧
      0 ≤ fd ∧ malloc then (fd, s.alloc fd)
  else (fd, s)

variable (cookie : Option Block) (a : Answers) (fuel : ℕ) (fd : ℤ)

def redirect (addr : Sockaddr) (s : Library) : Option (ℤ × Library) :=
  (redirectConnectTlv cookie redirectBuf addr).map fun w =>
    if w.ret < 0 then (w.ret, s)
    else if a.converterConnect < 0 then (-1, s)
    else (a.converterSend, s.record (.redirected fd (w.buff.take w.ret.toNat)))

def originalConnect (s : Library) : Outcome ℤ := .returns a.connect (s.record (.connect fd))

def connect (addr : Sockaddr) (s : Library) : Option (Outcome ℤ) :=
  match s.htable.lookup fd with
  | none => some .undefined
  | some false => some (originalConnect a fd s)
  | some true =>
    match addr with
    | .inet _ _ | .inet6 _ =>
      match redirect cookie a fd addr s with
      | none => some .undefined
      | some (result, s) =>
        if 0 ≤ result then
          if 0 < result then readConvert a fuel false fd s
          else some (.returns (-econnrefused) s)
        else some (originalConnect a fd (s.freeState fd))
    | .other _ => some (originalConnect a fd (s.freeState fd))

def close (s : Library) : Option (Outcome ℤ) :=
  match s.free fd with
  | none => some .undefined
  | some s => some (.returns a.close ((s.shut fd).record (.close fd)))

def afterReply (original : Library → Outcome ℤ) (s : Library) : Option (Outcome ℤ) :=
  match s.htable.lookup fd with
  | none => some .undefined
  | some false => some (original s)
  | some true =>
    match readConvert a fuel false fd s with
    | some (.returns result s) =>
      if result = syscallRun then some (original s)
      else if result = syscallSkip then some (.returns 0 s)
      else some (.returns (-1) s)
    | other => other

def originalRecv (len : ℕ) (peek : Bool) (s : Library) : Outcome ℤ :=
  match a.recv.octets (s.inbox fd) len with
  | none => .returns (-1) (s.record (.recv fd (s.inbox fd) [] peek))
  | some delivered =>
    let recorded := s.record (.recv fd (s.inbox fd) delivered peek)
    .returns delivered.length (if peek then recorded else recorded.consume fd delivered.length)

def recv (len : ℕ) (peek : Bool) : Library → Option (Outcome ℤ) :=
  afterReply a fuel fd (originalRecv a fd len peek)

def originalSend (s : Library) : Outcome ℤ := .returns a.send (s.record (.send fd (s.inbox fd)))

def send : Library → Option (Outcome ℤ) := afterReply a fuel fd (originalSend a fd)

inductive Call
  | connect (addr : Sockaddr)
  | send
  | recv (len : ℕ) (peek : Bool)
  | close

def perform : Call → Library → Option (Outcome ℤ)
  | .connect addr => connect cookie a fuel fd addr
  | .send => send a fuel fd
  | .recv len peek => recv a fuel fd len peek
  | .close => close a fd

def Redirects (addr : Sockaddr) (s sent : Library) : Prop :=
  ∃ result, redirect cookie a fd addr s = some (result, sent) ∧ 0 < result

section Lemmas

variable {cookie a fuel fd} {addr : Sockaddr} {s sent t : Library} {result : ℤ}

lemma redirect_state (h : redirect cookie a fd addr s = some (result, sent)) :
    sent = s ∨ ∃ message, sent = s.record (.redirected fd message) := by
  obtain ⟨w, -, hw⟩ := Option.map_eq_some_iff.mp h
  split_ifs at hw
  · exact Or.inl (congrArg Prod.snd hw).symm
  · exact Or.inl (congrArg Prod.snd hw).symm
  · exact Or.inr ⟨_, (congrArg Prod.snd hw).symm⟩

lemma redirect_sends {remoteAddr : SockaddrIn6} (haddr : addr.remoteAddr = some remoteAddr)
    (hneed : (redirectOpts cookie remoteAddr).need ≤ 1024) (hconnect : 0 ≤ a.converterConnect) :
    redirect cookie a fd addr s =
      some (a.converterSend, s.record (.redirected fd (redirectMessage cookie remoteAddr))) := by
  have hwrite := convertWrite_spec redirectBuf (redirectOpts cookie remoteAddr)
  have hbuf : redirectBuf.size = 1024 := zeros_length 1024
  rw [if_pos ⟨redirectOpts_supported _ _, by omega⟩] at hwrite
  have hneg : ¬ ((redirectOpts cookie remoteAddr).need : ℤ) < 0 := by omega
  have htake : ∀ rest, (messageHeader (redirectOpts cookie remoteAddr).need ++
      (redirectOpts cookie remoteAddr).tlvs.flatMap encodeTlv ++ rest).take
        (redirectOpts cookie remoteAddr).need = redirectMessage cookie remoteAddr :=
    fun _ => List.take_left' (redirectMessage_length cookie remoteAddr)
  rw [redirect, redirectConnectTlv_eq haddr, hwrite]
  simp only [Option.map_some, if_neg hneg, if_neg (not_lt.mpr hconnect), Int.toNat_natCast]
  rw [htake]

lemma Redirects.family (h : Redirects cookie a fd addr s sent) : addr.remoteAddr ≠ none := by
  obtain ⟨result, h, hpos⟩ := h
  intro hnone
  cases addr with
  | inet _ _ | inet6 _ => cases hnone
  | other family =>
    simp [redirect, redirectConnectTlv, eafnosupport] at h
    omega

lemma connect_redirected (htrack : s.htable.lookup fd = some true)
    (h : Redirects cookie a fd addr s sent) :
    connect cookie a fuel fd addr s = readConvert a fuel false fd sent := by
  have hfamily := h.family
  obtain ⟨result, h, hpos⟩ := h
  cases addr with
  | inet _ _ | inet6 _ => simp only [connect, htrack, h, if_pos hpos.le, if_pos hpos]
  | other family => exact (hfamily rfl).elim

end Lemmas

end TransportConverter.Client
