import TransportConverter.Client.PassThrough
import TransportConverter.Client.TrackedSet

/-! What the kernel's socket is when `connect` falls back to the destination of the application. -/

namespace TransportConverter.Client

open Foundations.Memory Foundations.Refinement Wire Codec

inductive KernelSocket
  | unconnected
  | pending
  | connected
  deriving DecidableEq

/-- What comes of an attempt to connect while the call lasts. One in progress goes on behind the call, which
a socket that does not block reports, or a signal. -/
inductive Attempt
  | established
  | failed (errno : ℕ)
  | inProgress (errno : ℕ)
  deriving DecidableEq

structure ConnectAnswer where
  ret : ℤ
  errno : Option ℕ
  socket : KernelSocket
  deriving DecidableEq

def ealready : ℕ := 114
def eisconn : ℕ := 106

/-- A pending socket answers as one that does not block. A blocking call would wait for the attempt that is
under way, but `connect` makes none on a descriptor it still tracks: see `pending_untracked`. -/
def KernelSocket.connect : KernelSocket → Attempt → ConnectAnswer
  | .unconnected, .established => ⟨0, none, .connected⟩
  | .unconnected, .failed errno => ⟨-1, some errno, .unconnected⟩
  | .unconnected, .inProgress errno => ⟨-1, some errno, .pending⟩
  | .pending, _ => ⟨-1, some ealready, .pending⟩
  | .connected, _ => ⟨-1, some eisconn, .connected⟩

inductive ConnectEnd
  | undefined
  | untracked
  | reads (s : Library) (k : KernelSocket)
  | refuses (s : Library) (k : KernelSocket)
  | fallsBack (s : Library) (k : KernelSocket)

section Redirection

variable (cookie : Option Block) (converter : Attempt) (sent : ℤ) (fd : ℤ) (addr : Sockaddr)
  (s : Library) (k : KernelSocket)

def redirectOn : Option (ℤ × Library × KernelSocket) :=
  (redirectConnectTlv cookie redirectBuf addr).map fun w =>
    if w.ret < 0 then (w.ret, s, k)
    else
      let answer := k.connect converter
      if answer.ret < 0 then (-1, s, answer.socket)
      else (sent, s.record (.redirected fd (w.buff.take w.ret.toNat)), answer.socket)

def connectOn : ConnectEnd :=
  match s.htable.lookup fd with
  | none => .undefined
  | some false => .untracked
  | some true =>
    match addr with
    | .inet _ _ | .inet6 _ =>
      match redirectOn cookie converter sent fd addr s k with
      | none => .undefined
      | some (result, s, k) =>
        if 0 ≤ result then if 0 < result then .reads s k else .refuses s k
        else .fallsBack (s.freeState fd) k
    | .other _ => .fallsBack (s.freeState fd) k

def Answers.within (a : Answers) : Answers :=
  { a with converterConnect := (k.connect converter).ret, converterSend := sent }

end Redirection

section Ends

variable {cookie : Option Block} {converter : Attempt} {sent fd : ℤ} {addr : Sockaddr}
  {s t : Library} {k m : KernelSocket} {a : Answers} {fuel : ℕ}

lemma redirect_within : redirect cookie (a.within converter sent k) fd addr s =
    (redirectOn cookie converter sent fd addr s k).map fun r => (r.1, r.2.1) := by
  rw [redirect, redirectOn, Option.map_map]
  congr 1
  funext w
  simp only [Function.comp_apply]
  by_cases hret : w.ret < 0
  · simp only [if_pos hret]
  · by_cases hconnect : (k.connect converter).ret < 0
    · simp only [if_neg hret, if_pos hconnect]
      exact if_pos hconnect
    · simp only [if_neg hret, if_neg hconnect]
      exact if_neg hconnect

lemma connectThrough_eq {original : Library → Outcome ℤ} :
    connectThrough cookie (a.within converter sent k) fuel fd original addr s =
      match connectOn cookie converter sent fd addr s k with
      | .undefined => some .undefined
      | .untracked => some (original s)
      | .reads t _ => readConvert (a.within converter sent k) fuel false fd t
      | .refuses t _ => some (.returns (-econnrefused) t)
      | .fallsBack t _ => some (original t) := by
  cases hlookup : s.htable.lookup fd with
  | none => simp only [connectThrough, connectOn, hlookup]
  | some found =>
    cases found with
    | false => simp only [connectThrough, connectOn, hlookup]
    | true =>
      cases addr with
      | other family => simp only [connectThrough, connectOn, hlookup]
      | inet _ _ | inet6 _ =>
        simp only [connectThrough, connectOn, hlookup, redirect_within]
        cases redirectOn cookie converter sent fd _ s k with
        | none => rfl
        | some r =>
          obtain ⟨result, t, m⟩ := r
          simp only [Option.map_some]
          split_ifs <;> rfl

def Writable (cookie : Option Block) (addr : Sockaddr) : Prop :=
  ∃ remoteAddr, addr.remoteAddr = some remoteAddr ∧ (redirectOpts cookie remoteAddr).need ≤ 1024

lemma redirectConnectTlv_writable (cookie : Option Block) (addr : Sockaddr) :
    ∃ w, redirectConnectTlv cookie redirectBuf addr = some w ∧ (0 ≤ w.ret ↔ Writable cookie addr) := by
  have hbuf : redirectBuf.size = 1024 := zeros_length 1024
  cases haddr : addr.remoteAddr with
  | none =>
    have hnot : ¬ Writable cookie addr := by
      rintro ⟨remoteAddr, hsome, -⟩
      rw [haddr] at hsome
      cases hsome
    cases addr with
    | inet _ _ | inet6 _ => cases haddr
    | other family => exact ⟨_, rfl, by simp [hnot, eafnosupport]⟩
  | some remoteAddr =>
    have hfits : Writable cookie addr ↔ (redirectOpts cookie remoteAddr).need ≤ 1024 := by
      refine ⟨fun h => ?_, fun h => ⟨remoteAddr, haddr, h⟩⟩
      obtain ⟨other, hother, hneed⟩ := h
      obtain rfl := Option.some.inj (haddr.symm.trans hother)
      exact hneed
    have hspec := convertWrite_spec redirectBuf (redirectOpts cookie remoteAddr)
    rw [hfits, redirectConnectTlv_eq haddr]
    by_cases hneed : (redirectOpts cookie remoteAddr).need ≤ 1024
    · rw [if_pos ⟨redirectOpts_supported _ _, by omega⟩] at hspec
      have hpos : (0 : ℤ) ≤ (redirectOpts cookie remoteAddr).need := Int.natCast_nonneg _
      rw [hspec, Option.map_some, if_neg (not_lt.mpr hpos)]
      exact ⟨_, rfl, fun _ => hneed, fun _ => hpos⟩
    · rw [if_neg fun h => hneed (hbuf ▸ h.2)] at hspec
      obtain ⟨w, hw, hret⟩ := hspec
      have hneg : w.ret < 0 := hret ▸ (by decide : (-1 : ℤ) < 0)
      rw [hw, Option.map_some, if_pos hneg]
      exact ⟨_, rfl, fun h => absurd h (by decide : ¬ (0 : ℤ) ≤ -eopnotsupp), fun h => (hneed h).elim⟩

lemma remoteAddr_of_writable (h : Writable cookie addr) : ∀ family, addr ≠ .other family := by
  obtain ⟨remoteAddr, haddr, -⟩ := h
  rintro family rfl
  cases haddr

lemma connectOn_sends {remoteAddr : SockaddrIn6} (haddr : addr.remoteAddr = some remoteAddr)
    (hneed : (redirectOpts cookie remoteAddr).need ≤ 1024) (htrack : s.htable.lookup fd = some true)
    (hsent : 0 < sent) :
    connectOn cookie .established sent fd addr s .unconnected =
      .reads (s.record (.redirected fd (redirectMessage cookie remoteAddr))) .connected := by
  have hwrite := convertWrite_spec redirectBuf (redirectOpts cookie remoteAddr)
  have hbuf : redirectBuf.size = 1024 := zeros_length 1024
  rw [if_pos ⟨redirectOpts_supported _ _, by omega⟩] at hwrite
  have hneg : ¬ ((redirectOpts cookie remoteAddr).need : ℤ) < 0 := by omega
  have htake : ∀ rest, (messageHeader (redirectOpts cookie remoteAddr).need ++
      (redirectOpts cookie remoteAddr).tlvs.flatMap encodeTlv ++ rest).take
        (redirectOpts cookie remoteAddr).need = redirectMessage cookie remoteAddr :=
    fun _ => List.take_left' (redirectMessage_length cookie remoteAddr)
  have hredirect : redirectOn cookie .established sent fd addr s .unconnected =
      some (sent, s.record (.redirected fd (redirectMessage cookie remoteAddr)), .connected) := by
    rw [redirectOn, redirectConnectTlv_eq haddr, hwrite]
    simp only [Option.map_some, if_neg hneg, KernelSocket.connect, lt_irrefl, if_false,
      Int.toNat_natCast]
    rw [htake]
  cases haddr' : addr with
  | other family =>
    rw [haddr'] at haddr
    cases haddr
  | inet _ _ | inet6 _ =>
    rw [haddr'] at hredirect
    simp only [connectOn, htrack, hredirect, if_pos hsent.le, if_pos hsent]

lemma redirectOn_connected {result : ℤ} (hsent : 0 ≤ result)
    (h : redirectOn cookie converter sent fd addr s k = some (result, t, m)) :
    m = .connected ∧ t.htable = s.htable := by
  obtain ⟨w, -, hw⟩ := Option.map_eq_some_iff.mp h
  dsimp only at hw
  split_ifs at hw with hret hconnect
  · obtain ⟨rfl, -⟩ := Prod.mk.inj hw
    exact absurd hret (not_lt.mpr hsent)
  · obtain ⟨rfl, -⟩ := Prod.mk.inj hw
    exact absurd hsent (by decide)
  · obtain ⟨-, hstate⟩ := Prod.mk.inj hw
    obtain ⟨rfl, rfl⟩ := Prod.mk.inj hstate
    refine ⟨?_, rfl⟩
    cases k with
    | pending | connected => exact absurd (by decide : (-1 : ℤ) < 0) hconnect
    | unconnected =>
      cases converter with
      | established => rfl
      | failed _ | inProgress _ => exact absurd (by decide : (-1 : ℤ) < 0) hconnect

lemma connectOn_connected {o : ConnectEnd} (h : connectOn cookie converter sent fd addr s k = o)
    (ho : o = .reads t m ∨ o = .refuses t m) : m = .connected ∧ t.htable = s.htable := by
  cases hlookup : s.htable.lookup fd with
  | none => rcases ho with rfl | rfl <;> simp [connectOn, hlookup] at h
  | some found =>
    cases found with
    | false => rcases ho with rfl | rfl <;> simp [connectOn, hlookup] at h
    | true =>
      cases haddr : addr with
      | other family => rcases ho with rfl | rfl <;> simp [haddr, connectOn, hlookup] at h
      | inet _ _ | inet6 _ =>
        subst haddr
        simp only [connectOn, hlookup] at h
        cases hredirect : redirectOn cookie converter sent fd _ s k with
        | none =>
          rw [hredirect] at h
          rcases ho with rfl | rfl <;> cases h
        | some r =>
          obtain ⟨result, t', m'⟩ := r
          rw [hredirect] at h
          dsimp only at h
          split_ifs at h with hnonneg hpos
          · rcases ho with rfl | rfl
            · cases h
              exact redirectOn_connected hnonneg hredirect
            · cases h
          · rcases ho with rfl | rfl
            · cases h
            · cases h
              exact redirectOn_connected hnonneg hredirect
          · rcases ho with rfl | rfl <;> cases h

lemma connectOn_untracked_iff : connectOn cookie converter sent fd addr s k = .untracked ↔
    s.htable.lookup fd = some false := by
  constructor
  · intro h
    cases hlookup : s.htable.lookup fd with
    | none => simp [connectOn, hlookup] at h
    | some found =>
      cases found with
      | false => rfl
      | true =>
        cases haddr : addr with
        | other family => simp [haddr, connectOn, hlookup] at h
        | inet _ _ | inet6 _ =>
          subst haddr
          simp only [connectOn, hlookup] at h
          cases hredirect : redirectOn cookie converter sent fd _ s k with
          | none =>
            rw [hredirect] at h
            cases h
          | some r =>
            obtain ⟨result, t, m⟩ := r
            rw [hredirect] at h
            dsimp only at h
            split_ifs at h
  · intro hlookup
    simp only [connectOn, hlookup]

lemma connectOn_tracked {o : ConnectEnd} (h : connectOn cookie converter sent fd addr s k = o)
    (hdefined : o ≠ .undefined) (hmanaged : o ≠ .untracked) : s.htable.lookup fd = some true := by
  cases hlookup : s.htable.lookup fd with
  | none =>
    simp only [connectOn, hlookup] at h
    exact (hdefined h.symm).elim
  | some found =>
    cases found with
    | true => rfl
    | false => exact (hmanaged (h.symm.trans (connectOn_untracked_iff.mpr hlookup))).elim

def HalfRedirected (cookie : Option Block) (converter : Attempt) (sent : ℤ) (addr : Sockaddr)
    (k : KernelSocket) : Prop :=
  k = .unconnected ∧ Writable cookie addr ∧
    ((∃ errno, converter = .inProgress errno) ∨ converter = .established ∧ sent < 0)

lemma connectOn_fallsBack (h : connectOn cookie converter sent fd addr s k = .fallsBack t m) :
    t.htable = s.htable.freeState fd ∧
      (m = k ∨ HalfRedirected cookie converter sent addr k) := by
  obtain ⟨w, hw, hwritable⟩ := redirectConnectTlv_writable cookie addr
  cases hlookup : s.htable.lookup fd with
  | none => simp [connectOn, hlookup] at h
  | some found =>
    cases found with
    | false => simp [connectOn, hlookup] at h
    | true =>
      cases haddr : addr with
      | other family =>
        subst haddr
        simp only [connectOn, hlookup, ConnectEnd.fallsBack.injEq] at h
        obtain ⟨rfl, rfl⟩ := h
        exact ⟨rfl, Or.inl rfl⟩
      | inet _ _ | inet6 _ =>
        rw [← haddr]
        subst haddr
        simp only [connectOn, hlookup, redirectOn, hw, Option.map_some] at h
        by_cases hret : w.ret < 0
        · simp only [if_pos hret, if_neg (not_le.mpr hret), ConnectEnd.fallsBack.injEq] at h
          obtain ⟨rfl, rfl⟩ := h
          exact ⟨rfl, Or.inl rfl⟩
        · rw [if_neg hret] at h
          have hfits := hwritable.mp (not_lt.mp hret)
          by_cases hconnect : (k.connect converter).ret < 0
          · simp only [if_pos hconnect, ConnectEnd.fallsBack.injEq,
              show ¬ (0 : ℤ) ≤ -1 by decide, if_false] at h
            obtain ⟨rfl, rfl⟩ := h
            refine ⟨rfl, ?_⟩
            cases k with
            | pending | connected => exact Or.inl rfl
            | unconnected =>
              cases converter with
              | established => exact absurd hconnect (by decide)
              | failed errno => exact Or.inl rfl
              | inProgress errno => exact Or.inr ⟨rfl, hfits, Or.inl ⟨errno, rfl⟩⟩
          · rw [if_neg hconnect] at h
            dsimp only at h
            split_ifs at h with hsent
            obtain ⟨rfl, rfl⟩ := ConnectEnd.fallsBack.inj h
            refine ⟨rfl, Or.inr ?_⟩
            cases k with
            | pending | connected => exact absurd (by decide : (-1 : ℤ) < 0) hconnect
            | unconnected =>
              cases converter with
              | established => exact ⟨rfl, hfits, Or.inr ⟨rfl, not_le.mp hsent⟩⟩
              | failed errno | inProgress errno => exact absurd (by decide : (-1 : ℤ) < 0) hconnect

lemma HalfRedirected.fallsBack (h : HalfRedirected cookie converter sent addr k)
    (htrack : s.htable.lookup fd = some true) :
    ∃ t m, connectOn cookie converter sent fd addr s k = .fallsBack t m ∧ m ≠ .unconnected := by
  obtain ⟨rfl, hfits, hattempt⟩ := h
  obtain ⟨w, hw, hwritable⟩ := redirectConnectTlv_writable cookie addr
  have hret : ¬ w.ret < 0 := not_lt.mpr (hwritable.mpr hfits)
  cases haddr : addr with
  | other family => exact (remoteAddr_of_writable hfits family haddr).elim
  | inet _ _ | inet6 _ =>
    rw [haddr] at hw
    rcases hattempt with ⟨errno, rfl⟩ | ⟨rfl, hsent⟩
    · refine ⟨s.freeState fd, .pending, ?_, by decide⟩
      simp only [connectOn, htrack, redirectOn, hw, Option.map_some, if_neg hret]
      rfl
    · refine ⟨(s.record (.redirected fd (w.buff.take w.ret.toNat))).freeState fd, .connected, ?_,
        by decide⟩
      simp only [connectOn, htrack, redirectOn, hw, Option.map_some, if_neg hret]
      exact if_neg (not_le.mpr hsent)

end Ends

/-- At a fall-back the socket is as unconnected as it was, the descriptor has no node, and any attempt gets
the answer it would have got at first. -/
def CleanFallback (cookie : Option Block) (converter : Attempt) (sent fd : ℤ) (addr : Sockaddr)
    (s : Library) (k : KernelSocket) : Prop :=
  ∀ t m, connectOn cookie converter sent fd addr s k = .fallsBack t m →
    (k = .unconnected → m = .unconnected) ∧ Unmanaged t.htable fd ∧
      ∀ destination, m.connect destination = k.connect destination

lemma Represents.unmanaged {htable : SocketHtable} {tracked : Finset ℤ} {fd : ℤ}
    (h : Represents htable tracked) (hfd : fd ∉ tracked) : Unmanaged htable fd := by
  intro bucket hmem
  have hcopies := h.copies fd
  rw [if_neg hfd] at hcopies
  simp only [SocketHtable.copies, h.placed bucket fd hmem] at hcopies
  exact List.count_eq_zero.mp hcopies hmem

theorem fallback_clean_iff (cookie : Option Block) (past : List Action) (start s : Library)
    (htable : start.htable = fun _ => []) (hfreed : start.freed = [])
    (hrun : Trace (SessionStep cookie) start past s) (fd : ℤ)
    (htrack : s.htable.lookup fd = some true) (converter : Attempt) (sent : ℤ) (addr : Sockaddr)
    (k : KernelSocket) :
    CleanFallback cookie converter sent fd addr s k ↔
      ¬ HalfRedirected cookie converter sent addr k := by
  have hinit : Tracking start ∅ :=
    ⟨htable ▸ .empty, fun _ hmem => absurd hmem (Finset.notMem_empty _), by simp [hfreed]⟩
  obtain ⟨tracked, -, ht⟩ := hrun.simulated sessionStep_simulates hinit
  constructor
  · intro hclean hhalf
    obtain ⟨t, m, hends, hne⟩ := hhalf.fallsBack htrack
    exact hne ((hclean t m hends).1 hhalf.1)
  · intro hhalf t m hends
    obtain ⟨hnode, hkernel⟩ := connectOn_fallsBack hends
    obtain rfl := hkernel.resolve_right hhalf
    refine ⟨id, ?_, fun _ => rfl⟩
    rw [hnode]
    exact ht.table.freeState.unmanaged (Finset.notMem_erase fd tracked)

lemma writable_someServer : Writable none someServer := by
  refine ⟨_, rfl, ?_⟩
  rw [redirectOpts_need]
  exact (by decide : 24 + areaSize (cookieTlv none) ≤ 1024)

lemma managed_run : Trace (SessionStep none) .start [.socket afInet sockStream ipprotoMptcp 3 true]
    (managed []) :=
  Trace.nil.snoc (.socket (Or.inr rfl))

theorem fallback_clean_iff_refused :
    CleanFallback none (.failed 111) 0 3 someServer (managed []) .unconnected ↔
      ¬ HalfRedirected none (.failed 111) 0 someServer .unconnected :=
  fallback_clean_iff none _ .start (managed []) rfl rfl managed_run 3 (managed_tracked []) (.failed 111)
    0 someServer .unconnected

theorem inProgress_not_clean :
    (∃ t, connectOn none (.inProgress 115) 0 3 someServer (managed []) .unconnected =
      .fallsBack t .pending) ∧
    ¬ CleanFallback none (.inProgress 115) 0 3 someServer (managed []) .unconnected := by
  have hhalf : HalfRedirected none (.inProgress 115) 0 someServer .unconnected :=
    ⟨rfl, writable_someServer, Or.inl ⟨115, rfl⟩⟩
  obtain ⟨w, hw, hwritable⟩ := redirectConnectTlv_writable none someServer
  have hret : ¬ w.ret < 0 := not_lt.mpr (hwritable.mpr writable_someServer)
  have hends : connectOn none (.inProgress 115) 0 3 someServer (managed []) .unconnected =
      .fallsBack ((managed []).freeState 3) .pending := by
    simp only [someServer] at hw
    simp only [connectOn, managed_tracked, someServer, redirectOn, hw, Option.map_some, if_neg hret]
    rfl
  refine ⟨⟨_, hends⟩, fun hclean => ?_⟩
  exact absurd ((hclean _ _ hends).1 rfl) (by decide)

end TransportConverter.Client
