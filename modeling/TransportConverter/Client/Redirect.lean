import TransportConverter.Codec.LengthFields

/-! `_to_v4mapped` and `_redirect_connect_tlv`: the message the client library sends. -/

namespace TransportConverter.Client

open Foundations.Memory Wire Codec

inductive Sockaddr
  | inet (sinPort : Octets 2) (sinAddr : Octets 4)
  | inet6 (in6 : SockaddrIn6)
  | other (family : ℕ)
  deriving DecidableEq

def eafnosupport : ℤ := 97
def eopnotsupp : ℤ := 95
def econnrefused : ℤ := 111

def toV4mapped (src : Octets 4) : Octets 16 :=
  ⟨zeros 4 ++ zeros 4 ++ [0, 0, 0xff, 0xff] ++ src.toList, by simp⟩

def redirectOpts (cookie : Option Block) (remoteAddr : SockaddrIn6) : ConvertOpts :=
  match cookie with
  | none => { ConvertOpts.zero with flags := convertFConnect, remoteAddr }
  | some cookie =>
    { ConvertOpts.zero with
      flags := convertFConnect ||| convertFCookie, remoteAddr, cookieData := cookie }

def redirectConnectTlv (cookie : Option Block) (buf : Block) (addr : Sockaddr) : Option WriteResult :=
  let write (remoteAddr : SockaddrIn6) :=
    (convertWrite buf (redirectOpts cookie remoteAddr)).map fun w =>
      if w.ret < 0 then { w with ret := -eopnotsupp } else w
  match addr with
  | .inet sinPort sinAddr => write ⟨sinPort, toV4mapped sinAddr⟩
  | .inet6 in6 => write in6
  | .other _ => some ⟨-eafnosupport, buf.bytes, []⟩

def redirectBuf : Block := ⟨zeros 1024, by simp⟩

def cookieTlv : Option Block → List Tlv
  | none => []
  | some cookie => [.cookie cookie.bytes]

lemma redirectOpts_tlvs (cookie : Option Block) (remoteAddr : SockaddrIn6) :
    (redirectOpts cookie remoteAddr).tlvs =
      .connect remoteAddr.sin6Port remoteAddr.sin6Addr :: cookieTlv cookie := by
  rw [tlvs_eq]
  cases cookie with
  | none =>
    have hflag : Flagged (redirectOpts none remoteAddr) convertFConnect ∧
        ¬ Flagged (redirectOpts none remoteAddr) convertFExtendedTcpHdr ∧
        ¬ Flagged (redirectOpts none remoteAddr) convertFCookie ∧
        ¬ Flagged (redirectOpts none remoteAddr) convertFError := by
      simp only [Flagged, redirectOpts]
      decide
    simp only [tlvIf, hflag, if_true, if_false]
    rfl
  | some cookie =>
    have hflag : Flagged (redirectOpts (some cookie) remoteAddr) convertFConnect ∧
        ¬ Flagged (redirectOpts (some cookie) remoteAddr) convertFExtendedTcpHdr ∧
        Flagged (redirectOpts (some cookie) remoteAddr) convertFCookie ∧
        ¬ Flagged (redirectOpts (some cookie) remoteAddr) convertFError := by
      simp only [Flagged, redirectOpts]
      decide
    simp only [tlvIf, hflag, if_true, if_false]
    rfl

lemma redirectOpts_supported (cookie : Option Block) (remoteAddr : SockaddrIn6) :
    (redirectOpts cookie remoteAddr).Supported := by
  cases cookie with
  | none =>
    have hflags : convertFInfo &&& convertFConnect = 0 ∧
        convertFSupportedTcpExt &&& convertFConnect = 0 := by decide
    exact hflags
  | some cookie =>
    have hflags : convertFInfo &&& (convertFConnect ||| convertFCookie) = 0 ∧
        convertFSupportedTcpExt &&& (convertFConnect ||| convertFCookie) = 0 := by decide
    exact hflags

lemma redirectOpts_need (cookie : Option Block) (remoteAddr : SockaddrIn6) :
    (redirectOpts cookie remoteAddr).need = 24 + areaSize (cookieTlv cookie) := by
  simp only [ConvertOpts.need, redirectOpts_tlvs, areaSize_cons, sizeofConvertHeader, Tlv.size,
    Tlv.body, List.length_append, List.Vector.toList_length]
  omega

def Sockaddr.remoteAddr : Sockaddr → Option SockaddrIn6
  | .inet sinPort sinAddr => some ⟨sinPort, toV4mapped sinAddr⟩
  | .inet6 in6 => some in6
  | .other _ => none

lemma redirectConnectTlv_eq {cookie : Option Block} {buf : Block} {addr : Sockaddr}
    {remoteAddr : SockaddrIn6} (h : addr.remoteAddr = some remoteAddr) :
    redirectConnectTlv cookie buf addr =
      (convertWrite buf (redirectOpts cookie remoteAddr)).map fun w =>
        if w.ret < 0 then { w with ret := -eopnotsupp } else w := by
  cases addr with
  | inet _ _ | inet6 _ =>
    obtain rfl := Option.some.inj h
    rfl
  | other _ => cases h

lemma redirectConnectTlv_written {cookie : Option Block} {buf : Block} {addr : Sockaddr}
    {w : WriteResult} (hw : redirectConnectTlv cookie buf addr = some w) (h0 : 0 ≤ w.ret) :
    ∃ remoteAddr, addr.remoteAddr = some remoteAddr ∧
      convertWrite buf (redirectOpts cookie remoteAddr) = some w := by
  cases haddr : addr.remoteAddr with
  | none =>
    cases addr with
    | inet _ _ | inet6 _ => cases haddr
    | other _ =>
      obtain rfl := Option.some.inj hw
      simp only [eafnosupport] at h0
      omega
  | some remoteAddr =>
    rw [redirectConnectTlv_eq haddr] at hw
    obtain ⟨v, hv, hif⟩ := Option.map_eq_some_iff.mp hw
    by_cases hneg : v.ret < 0
    · rw [if_pos hneg] at hif
      subst hif
      simp only [eopnotsupp] at h0
      omega
    · rw [if_neg hneg] at hif
      subst hif
      exact ⟨remoteAddr, rfl, hv⟩

def redirectMessage (cookie : Option Block) (remoteAddr : SockaddrIn6) : Bytes :=
  let opts := redirectOpts cookie remoteAddr
  messageHeader opts.need ++ opts.tlvs.flatMap encodeTlv

lemma redirectMessage_length (cookie : Option Block) (remoteAddr : SockaddrIn6) :
    (redirectMessage cookie remoteAddr).length = (redirectOpts cookie remoteAddr).need := by
  rw [redirectMessage, List.length_append, area_length]
  rfl

lemma redirectConnectTlv_message {cookie : Option Block} {buf : Block} {addr : Sockaddr}
    {w : WriteResult} (hw : redirectConnectTlv cookie buf addr = some w) (h0 : 0 ≤ w.ret) :
    ∃ remoteAddr, addr.remoteAddr = some remoteAddr ∧
      w.ret = (redirectOpts cookie remoteAddr).need ∧
      w.buff.take w.ret.toNat = redirectMessage cookie remoteAddr := by
  obtain ⟨remoteAddr, haddr, hwrite⟩ := redirectConnectTlv_written hw h0
  obtain ⟨-, -, hret, hbuff, -⟩ := written_message hwrite h0
  refine ⟨remoteAddr, haddr, hret, ?_⟩
  rw [hret, hbuff, Int.toNat_natCast]
  exact List.take_left' (redirectMessage_length cookie remoteAddr)

lemma cookie_size (cookie : Block) :
    areaSize (cookieTlv (some cookie)) = 4 + cookie.size + paddingOf cookie.size := by
  simp only [cookieTlv, areaSize, List.map_cons, List.map_nil, List.sum_cons, List.sum_nil,
    Tlv.size, Tlv.body, padded, List.length_append, zeros_length, Block.size]
  omega

def RedirectTruthful (cookie : Option Block) (buf : Block) (addr : Sockaddr) : Prop :=
  ∃ w, redirectConnectTlv cookie buf addr = some w ∧ w.LengthsTruthful ∧
    ∀ remoteAddr, addr.remoteAddr = some remoteAddr →
      1020 < (redirectOpts cookie remoteAddr).need → w.ret < 0

lemma redirectTruthful_other {cookie : Option Block} {buf : Block} {addr : Sockaddr}
    (h : addr.remoteAddr = none) : RedirectTruthful cookie buf addr := by
  cases addr with
  | inet _ _ | inet6 _ => cases h
  | other family =>
    refine ⟨_, rfl, fun h0 => ?_, fun _ hr => by cases hr⟩
    simp only [eafnosupport] at h0
    omega

lemma redirectTruthful_written {cookie : Option Block} {buf : Block} {addr : Sockaddr}
    {remoteAddr : SockaddrIn6} (h : addr.remoteAddr = some remoteAddr) :
    RedirectTruthful cookie buf addr ↔ LengthFieldsTruthful buf (redirectOpts cookie remoteAddr) := by
  rw [RedirectTruthful, LengthFieldsTruthful, redirectConnectTlv_eq h]
  constructor
  · rintro ⟨w, hw, htrue, hlong⟩
    obtain ⟨v, hv, rfl⟩ := Option.map_eq_some_iff.mp hw
    by_cases hneg : v.ret < 0
    · exact ⟨v, hv, fun h0 => by omega, fun _ => hneg⟩
    · rw [if_neg hneg] at htrue hlong
      exact ⟨v, hv, htrue, hlong remoteAddr h⟩
  · rintro ⟨v, hv, htrue, hlong⟩
    refine ⟨_, Option.map_eq_some_iff.mpr ⟨v, hv, rfl⟩, ?_, ?_⟩
    · by_cases hneg : v.ret < 0
      · rw [if_pos hneg]
        intro h0
        simp only [eopnotsupp] at h0
        omega
      · rw [if_neg hneg]
        exact htrue
    · intro r hr hneed
      obtain rfl := Option.some.inj (h.symm.trans hr)
      rw [if_pos (hlong hneed)]
      simp [eopnotsupp]

/-- The 1024 octets of `_redirect` leave room for one word more than the octet can count. -/
lemma redirectTruthful_iff (cookie : Option Block) (addr : Sockaddr) :
    RedirectTruthful cookie redirectBuf addr ↔
      ¬ (addr.remoteAddr ≠ none ∧ ∃ c, cookie = some c ∧ 993 ≤ c.size ∧ c.size ≤ 996) := by
  have hbuf : redirectBuf.size = 1024 := zeros_length 1024
  cases haddr : addr.remoteAddr with
  | none => simp [redirectTruthful_other haddr]
  | some remoteAddr =>
    have hneed := redirectOpts_need cookie remoteAddr
    have hsupp := redirectOpts_supported cookie remoteAddr
    rw [redirectTruthful_written haddr, lengthFields_iff, hbuf, hneed]
    cases cookie with
    | none => simp [cookieTlv, areaSize]
    | some c =>
      simp only [cookie_size, paddingOf, convertPadding, hsupp, not_true_eq_false, false_or, ne_eq,
        reduceCtorEq, not_false_eq_true, true_and, Option.some.injEq, exists_eq_left']
      omega

theorem writtenLengths_truthful_iff (buff : Block) (opts : ConvertOpts) (cookie : Option Block)
    (addr : Sockaddr) :
    (LengthFieldsTruthful buff opts ↔
      ¬ opts.Supported ∨ buff.size < opts.need ∨ opts.need ≤ 1020) ∧
    (RedirectTruthful cookie redirectBuf addr ↔
      ¬ (addr.remoteAddr ≠ none ∧ ∃ c, cookie = some c ∧ 993 ≤ c.size ∧ c.size ≤ 996)) :=
  ⟨lengthFields_iff buff opts, redirectTruthful_iff cookie addr⟩

def longCookie : Block := ⟨List.replicate 993 0x61, by rw [List.length_replicate]; decide⟩

def someServer : Sockaddr := .inet (twoOctets 0x1f 0x90) ⟨[192, 0, 2, 1], rfl⟩

theorem longCookie_lies :
    (∃ w, redirectConnectTlv (some longCookie) redirectBuf someServer = some w ∧ w.ret = 1024 ∧
      w.buff[1]? = some 0) ∧
    ¬ RedirectTruthful (some longCookie) redirectBuf someServer := by
  have hsize : longCookie.size = 993 := List.length_replicate
  have hbuf : redirectBuf.size = 1024 := zeros_length 1024
  have hneed : ∀ remoteAddr, (redirectOpts (some longCookie) remoteAddr).need = 1024 := by
    intro remoteAddr
    rw [redirectOpts_need, cookie_size, hsize]
    rfl
  refine ⟨?_, ?_⟩
  · obtain ⟨remoteAddr, haddr⟩ : ∃ r, someServer.remoteAddr = some r := ⟨_, rfl⟩
    have hspec := convertWrite_spec redirectBuf (redirectOpts (some longCookie) remoteAddr)
    rw [hneed, if_pos ⟨redirectOpts_supported _ _, by omega⟩] at hspec
    have hwrite : redirectConnectTlv (some longCookie) redirectBuf someServer = _ :=
      redirectConnectTlv_eq haddr
    rw [hspec, Option.map_some, if_neg (by simp)] at hwrite
    exact ⟨_, hwrite, rfl, rfl⟩
  · rw [redirectTruthful_iff]
    exact not_not.mpr ⟨by simp [someServer, Sockaddr.remoteAddr], longCookie, rfl, by omega⟩

end TransportConverter.Client
