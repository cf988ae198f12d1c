import TransportConverter.Codec.Acceptance
import TransportConverter.Codec.RoundTrip
import TransportConverter.Client.ReadConvert
import TransportConverter.Server.Packets

/-! What the server builds, read by the client library. -/

namespace TransportConverter.EndToEnd

open Foundations.Memory Foundations.Records Wire Codec Client Server

section Packets

variable (inetPton : Text → Option (Octets 16))

inductive Buildable : TlvPacket → Prop
  | connect {port : ℕ} {text : Text} {addr : Octets 16} (hport : port < 65536)
      (haddr : inetPton text = some addr) : Buildable (.connect (.make (some port) (some text)))
  | error (errorCode value : UInt8) : Buildable (.error (.make errorCode value))

def octets (p : TlvPacket) : Bytes := (p.build inetPton).getD []

def builtArea (l : List TlvPacket) : Bytes := (l.map (octets inetPton)).flatten

def isError : TlvPacket → Bool
  | .error _ => true
  | _ => false

/-- The options hold what the last packet of each type says, and nothing else. -/
structure Carries (l : List TlvPacket) (opts : ConvertOpts) : Prop where
  flags : opts.flags = l.foldl (fun flags p => flags ||| flagOf p.hdr.type) 0
  connect : ∀ before tlv after, l = before ++ .connect tlv :: after →
    (∀ p ∈ after, p.hdr.type ≠ convertConnect) →
    tlv.remotePort = some (ntohs opts.remoteAddr.sin6Port) ∧
      tlv.remoteAddr.bind inetPton = some opts.remoteAddr.sin6Addr
  error : ∀ before tlv after, l = before ++ .error tlv :: after →
    (∀ p ∈ after, p.hdr.type ≠ convertError) → opts.errorCode = tlv.errorCode
  noConnect : (∀ p ∈ l, p.hdr.type ≠ convertConnect) → opts.remoteAddr = .zero
  noError : (∀ p ∈ l, p.hdr.type ≠ convertError) → opts.errorCode = 0
  tcpOptions : opts.tcpOptions = .empty
  cookieData : opts.cookieData = .empty

structure ReadBack (malloc : Allocator) (l : List TlvPacket) (bytes : Bytes) : Prop where
  header : convertParseHeader (bytes.take 4) = some (bytes.drop 4).length
  parsed : l ≠ [] →
    ∃ opts, ParseReturns malloc (.ofBytes (bytes.drop 4)) (.opts opts) ∧ Carries inetPton l opts
  read : ∀ (a : Answers) (fd : ℤ) (s : Library) (rest : Bytes), a.malloc = malloc → a.header = .all →
    a.area = .all → s.inbox fd = bytes ++ rest →
    ∃ fuel t, readConvert a fuel false fd s =
      some (.returns (if l.any isError then syscallSkip else syscallRun) t) ∧ t.inbox fd = rest

end Packets

variable {inetPton : Text → Option (Octets 16)} {malloc : Allocator} {p : TlvPacket} {l : List TlvPacket}

lemma ntohs_htons {n : ℕ} (h : n < 65536) {v : Octets 2} (hv : v.toList = htons n) : ntohs v = n := by
  simp only [ntohs, hv, htons, List.foldl_cons, List.foldl_nil, UInt8.toNat_ofNat']
  omega

lemma build_connect {port : ℕ} {text : Text} {addr : Octets 16} (hport : port < 65536)
    (haddr : inetPton text = some addr) :
    octets inetPton (.connect (.make (some port) (some text))) =
      [convertConnect, 5] ++ htons port ++ addr.toList := by
  simp [octets, TlvPacket.build, ConvertTlvConnect.make, shortField, hport, haddr]
  rfl

lemma Buildable.build (h : Buildable inetPton p) : p.build inetPton = some (octets inetPton p) := by
  cases h with
  | connect hport haddr =>
    simp [octets, TlvPacket.build, ConvertTlvConnect.make, shortField, hport, haddr]
  | error errorCode value => rfl

lemma Buildable.typeOctet (h : Buildable inetPton p) : typeOctet (octets inetPton p) = p.hdr.type := by
  cases h with
  | connect hport haddr =>
    rw [build_connect hport haddr]
    rfl
  | error errorCode value => rfl

lemma Buildable.isTlv (h : Buildable inetPton p) : IsTlv (octets inetPton p) := by
  cases h with
  | @connect port text addr hport haddr =>
    rw [build_connect hport haddr]
    have hfive : lengthOctet ([convertConnect, 5] ++ htons port ++ addr.toList) = 5 := rfl
    refine ⟨by rw [hfive]; decide, ?_, Or.inl ⟨rfl, by rw [hfive]; rfl⟩⟩
    rw [hfive]
    simp [htons]
  | error errorCode value =>
    exact ⟨Nat.le_refl 1, rfl, Or.inr (Or.inr (Or.inr rfl))⟩

lemma Buildable.uncopied (h : Buildable inetPton p) {t : Tlv} (ht : readTlv (octets inetPton p) = some t) :
    t.copied = none := by
  have htype := (readTlv_describes ht).1.trans h.typeOctet
  cases t with
  | connect port addr => rfl
  | error errorCode => rfl
  | extendedTcpHdr tcpOptions => cases h <;> cases htype
  | cookie opaqueBytes => cases h <;> cases htype

lemma build_all (hl : ∀ p ∈ l, Buildable inetPton p) :
    l.mapM (TlvPacket.build inetPton) = some (l.map (octets inetPton)) := by
  induction l with
  | nil => rfl
  | cons p l ih =>
    simp only [List.mem_cons, forall_eq_or_imp] at hl
    rw [List.mapM_cons, hl.1.build, ih hl.2]
    rfl

lemma isTlv_all (hl : ∀ p ∈ l, Buildable inetPton p) : ∀ f ∈ l.map (octets inetPton), IsTlv f := by
  intro f hf
  obtain ⟨p, hp, rfl⟩ := List.mem_map.mp hf
  exact (hl p hp).isTlv

lemma area_mod {fs : List Bytes} (h : ∀ f ∈ fs, IsTlv f) : fs.flatten.length % 4 = 0 := by
  induction fs with
  | nil => rfl
  | cons f fs ih =>
    simp only [List.mem_cons, forall_eq_or_imp] at h
    have hf := h.1.2.1
    have hfs := ih h.2
    rw [List.flatten_cons, List.length_append]
    omega

lemma buildConvert_eq (hl : ∀ p ∈ l, Buildable inetPton p)
    (hsize : (builtArea inetPton l).length ≤ 254 * 4) :
    buildConvert inetPton l = some (messageHeader (4 + (builtArea inetPton l).length) ++
      builtArea inetPton l) := by
  have hcount : 1 + (builtArea inetPton l).length / 4 < 256 := by omega
  have hwords : (4 + (builtArea inetPton l).length) / 4 =
      1 + (builtArea inetPton l).length / 4 := by omega
  rw [buildConvert, build_all hl, Option.bind_eq_bind, Option.bind_some]
  change convertBuild (builtArea inetPton l) = _
  simp only [convertBuild, if_pos hcount, messageHeader, bytesToConvert, convertPadding, hwords]
  rfl

lemma grantsTlvs_of_uncopied {ts : List Tlv} (h : ∀ t ∈ ts, t.copied = none) (i : ℕ) :
    malloc.GrantsTlvs i ts := by
  induction ts generalizing i with
  | nil => trivial
  | cons t ts ih =>
    simp only [List.mem_cons, forall_eq_or_imp] at h
    exact ⟨by simp [Tlv.granted, h.1], ih h.2 _⟩

lemma builtArea_ne_nil (hl : ∀ p ∈ l, Buildable inetPton p) (hne : l ≠ []) :
    builtArea inetPton l ≠ [] := by
  obtain ⟨p, l, rfl⟩ := List.exists_cons_of_ne_nil hne
  have hp := (hl p (by simp)).isTlv
  rw [builtArea, List.map_cons, List.flatten_cons]
  intro hnil
  have h1 := hp.1
  have hlen := hp.2.1
  have hzero : (octets inetPton p).length = 0 := by rw [(List.append_eq_nil_iff.mp hnil).1]; rfl
  omega

lemma parse_built (hcalloc : malloc 0 sizeofConvertOpts = true) (hl : ∀ p ∈ l, Buildable inetPton p)
    (hne : l ≠ []) {buff : Block} (hbuff : buff.bytes = builtArea inetPton l) :
    ParseReturns malloc buff (.opts (foldTlvs (l.map (octets inetPton)))) := by
  have harea : TlvArea buff.bytes ((l.map (octets inetPton)).filterMap readTlv) :=
    tlvArea_iff.mpr ⟨_, hbuff, isTlv_all hl, rfl⟩
  refine parseReturns_of_granted hcalloc ?_ harea (grantsTlvs_of_uncopied ?_ 1)
  · rw [hbuff]
    exact builtArea_ne_nil hl hne
  · intro t ht
    obtain ⟨f, hf, hft⟩ := List.mem_filterMap.mp ht
    obtain ⟨p, hp, rfl⟩ := List.mem_map.mp hf
    exact (hl p hp).uncopied hft

lemma lastOfType_octets (hl : ∀ p ∈ l, Buildable inetPton p) {before after : List TlvPacket}
    (hsplit : l = before ++ p :: after) (hlast : ∀ q ∈ after, q.hdr.type ≠ p.hdr.type) :
    LastOfType (l.map (octets inetPton)) p.hdr.type (octets inetPton p) := by
  subst hsplit
  refine ⟨before.map (octets inetPton), after.map (octets inetPton), by simp,
    (hl p (by simp)).typeOctet, ?_⟩
  intro f hf
  obtain ⟨q, hq, rfl⟩ := List.mem_map.mp hf
  rw [(hl q (by simp [hq])).typeOctet]
  exact hlast q hq

lemma absent_octets (hl : ∀ p ∈ l, Buildable inetPton p) {type : UInt8}
    (h : ∀ p ∈ l, p.hdr.type ≠ type) : ∀ f ∈ l.map (octets inetPton), typeOctet f ≠ type := by
  intro f hf
  obtain ⟨p, hp, rfl⟩ := List.mem_map.mp hf
  rw [(hl p hp).typeOctet]
  exact h p hp

lemma Buildable.type_ne (h : Buildable inetPton p) :
    p.hdr.type ≠ convertExtendedTcpHdr ∧ p.hdr.type ≠ convertCookie := by
  cases h with
  | connect => exact show convertConnect ≠ _ ∧ convertConnect ≠ _ by decide
  | error => exact show convertError ≠ _ ∧ convertError ≠ _ by decide

lemma carries_built (hl : ∀ p ∈ l, Buildable inetPton p) :
    Carries inetPton l (foldTlvs (l.map (octets inetPton))) where
  flags := by
    have htypes : ∀ (flags : UInt8), ∀ p ∈ l,
        flags ||| flagOf (typeOctet (octets inetPton p)) = flags ||| flagOf p.hdr.type :=
      fun flags p hp => by rw [(hl p hp).typeOctet]
    rw [(foldTlvs_rightBiased (isTlv_all hl)).flags, List.foldl_map]
    exact List.foldl_ext _ _ 0 htypes
  connect before tlv after hsplit hlast := by
    have hp := hl (.connect tlv) (by simp [hsplit])
    cases hp with
    | @connect port text addr hport haddr =>
      have hread := (foldTlvs_rightBiased (isTlv_all hl)).connect _ (lastOfType_octets hl hsplit hlast)
      rw [build_connect hport haddr] at hread
      obtain ⟨hsin6Port, hsin6Addr⟩ := hread
      refine ⟨congrArg some (ntohs_htons hport hsin6Port).symm, haddr.trans (congrArg some ?_)⟩
      exact Subtype.ext hsin6Addr.symm
  error before tlv after hsplit hlast := by
    have hp := hl (.error tlv) (by simp [hsplit])
    cases hp with
    | error errorCode value =>
      have hcode := (foldTlvs_rightBiased (isTlv_all hl)).error _ (lastOfType_octets hl hsplit hlast)
      exact (Option.some.inj hcode).symm
  noConnect habsent := (foldTlvs_rightBiased (isTlv_all hl)).noConnect (absent_octets hl habsent)
  noError habsent := (foldTlvs_rightBiased (isTlv_all hl)).noError (absent_octets hl habsent)
  tcpOptions := (foldTlvs_rightBiased (isTlv_all hl)).noExtendedTcpHdr
    (absent_octets hl fun p hp => (hl p hp).type_ne.1)
  cookieData := (foldTlvs_rightBiased (isTlv_all hl)).noCookie
    (absent_octets hl fun p hp => (hl p hp).type_ne.2)

lemma Buildable.flag_error (h : Buildable inetPton p) :
    flagOf p.hdr.type &&& convertFError = if isError p then convertFError else 0 := by
  cases h with
  | connect => exact show flagOf convertConnect &&& convertFError = 0 by decide
  | error => exact show flagOf convertError &&& convertFError = convertFError by decide

lemma or_ne_zero {a b : UInt8} : a ||| b ≠ 0 ↔ a ≠ 0 ∨ b ≠ 0 := by
  rw [← not_and_or, ne_eq, not_iff_not]
  exact UInt8.or_eq_zero_iff

lemma errorFlag_iff (hl : ∀ p ∈ l, Buildable inetPton p) (flags : UInt8) :
    l.foldl (fun flags p => flags ||| flagOf p.hdr.type) flags &&& convertFError ≠ 0 ↔
      flags &&& convertFError ≠ 0 ∨ l.any isError := by
  induction l generalizing flags with
  | nil => simp
  | cons p l ih =>
    simp only [List.mem_cons, forall_eq_or_imp] at hl
    rw [List.foldl_cons, ih hl.2, or_and_distrib, hl.1.flag_error, or_ne_zero, List.any_cons]
    cases isError p <;> simp [convertFError]

lemma parseHeader_built (hl : ∀ p ∈ l, Buildable inetPton p)
    (hsize : (builtArea inetPton l).length ≤ 254 * 4) :
    convertParseHeader (messageHeader (4 + (builtArea inetPton l).length)) =
      some (builtArea inetPton l).length := by
  have hmod : (builtArea inetPton l).length % 4 = 0 := area_mod (isTlv_all hl)
  have hheader := parseHeader_message (n := 4 + (builtArea inetPton l).length) (by omega) (by omega)
    (by omega) []
  rwa [Nat.add_sub_cancel_left] at hheader

lemma readConvert_built {a : Answers} {fd : ℤ} {s : Library} {rest : Bytes}
    (hcalloc : a.malloc 0 sizeofConvertOpts = true) (hheader : a.header = .all) (harea : a.area = .all)
    (hl : ∀ p ∈ l, Buildable inetPton p)
    (hsize : (builtArea inetPton l).length ≤ 254 * 4)
    (hinbox : s.inbox fd = messageHeader (4 + (builtArea inetPton l).length) ++
      builtArea inetPton l ++ rest) :
    ∃ fuel t, readConvert a fuel false fd s =
      some (.returns (if l.any isError then syscallSkip else syscallRun) t) ∧ t.inbox fd = rest := by
  have hvalid := parseHeader_built hl hsize
  have hhdr : a.header.octets (s.inbox fd) sizeofConvertHeader =
      some (messageHeader (4 + (builtArea inetPton l).length)) := by
    rw [hheader, hinbox]
    rfl
  by_cases hne : l = []
  · subst hne
    refine ⟨0, _, readConvert_headerOnly hhdr hvalid, ?_⟩
    exact (consume_inbox _).trans (by rw [hinbox]; rfl)
  have hoctets : a.area.octets ((s.inbox fd).drop 4) (builtArea inetPton l).length =
      some (builtArea inetPton l) := by
    rw [harea, hinbox]
    simp [Recv.octets, messageHeader]
  have hparse := parse_built hcalloc hl hne
    (Block.ofBytes_bytes (show (builtArea inetPton l).length < 2 ^ 63 by omega))
  obtain ⟨fuel, hread⟩ :=
    readConvert_parsed hhdr hvalid (by omega) (builtArea_ne_nil hl hne) hoctets hparse
  have hrest : (s.consume fd (4 + (builtArea inetPton l).length)).inbox fd = rest := by
    rw [consume_inbox, hinbox]
    exact List.drop_left' (by rw [List.length_append]; rfl)
  have hflag : (foldTlvs (l.map (octets inetPton))).flags &&& convertFError ≠ 0 ↔
      l.any isError = true := by
    rw [(carries_built hl).flags, errorFlag_iff hl]
    simp
  refine ⟨fuel, ?_⟩
  rw [hread]
  by_cases herror : l.any isError = true
  · rw [if_pos (hflag.mpr herror), if_pos herror]
    exact ⟨_, rfl, hrest⟩
  · rw [if_neg (fun h => herror (hflag.mp h)), if_neg herror]
    exact ⟨_, rfl, hrest⟩

theorem buildConvert_readBack (inetPton : Text → Option (Octets 16)) (malloc : Allocator)
    (hcalloc : malloc 0 sizeofConvertOpts = true) (l : List TlvPacket)
    (hl : ∀ p ∈ l, Buildable inetPton p) (hsize : (builtArea inetPton l).length ≤ 254 * 4) :
    ∃ bytes, buildConvert inetPton l = some bytes ∧ ReadBack inetPton malloc l bytes := by
  refine ⟨_, buildConvert_eq hl hsize, parseHeader_built hl hsize, fun hne => ?_, ?_⟩
  · have hbuff := Block.ofBytes_bytes (show (builtArea inetPton l).length < 2 ^ 63 by omega)
    exact ⟨_, parse_built hcalloc hl hne hbuff, carries_built hl⟩
  · rintro a fd s rest rfl hheader harea hinbox
    exact readConvert_built hcalloc hheader harea hl hsize hinbox

def loopbackPton (text : Text) : Option (Octets 16) :=
  if text = [':', ':', '1'] then some ⟨zeros 15 ++ [1], rfl⟩
  else if text = [':', ':'] then some ⟨zeros 16, rfl⟩
  else none

def loopbackTlvs : List TlvPacket :=
  [.connect (.make (some 8080) (some [':', ':', '1'])), .error (.make 9 0)]

theorem buildConvert_readBack_loopback :
    ∃ bytes, buildConvert loopbackPton loopbackTlvs = some bytes ∧
      ReadBack loopbackPton grantingMalloc loopbackTlvs bytes := by
  refine buildConvert_readBack loopbackPton grantingMalloc (by decide) loopbackTlvs ?_ (by decide)
  intro p hp
  simp only [loopbackTlvs, List.mem_cons, List.not_mem_nil, or_false] at hp
  rcases hp with rfl | rfl
  · exact .connect (by decide) rfl
  · exact .error 9 0

end TransportConverter.EndToEnd
