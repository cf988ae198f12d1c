import TransportConverter.Codec.LengthFields

/-! The whole specification of `convert_write`: when it refuses, the octets it leaves in the buffer,
and the room it thinks is left at every turn of its loop. -/

namespace TransportConverter.Codec

open Foundations.Memory Foundations.Records Wire

def roundUp (n : ℕ) : ℕ := (n + 3) / 4 * 4

def ConvertOpts.needed (opts : ConvertOpts) : ℕ :=
  4 + (if Flagged opts convertFConnect then 20 else 0) +
    (if Flagged opts convertFExtendedTcpHdr then roundUp (4 + opts.tcpOptions.size) else 0) +
    (if Flagged opts convertFCookie then roundUp (4 + opts.cookieData.size) else 0) +
    (if Flagged opts convertFError then 4 else 0)

def tlvOctets (type : UInt8) (payload : Bytes) : Bytes :=
  let size := roundUp (2 + payload.length)
  [type, UInt8.ofNat (size / 4)] ++ payload ++ zeros (size - (2 + payload.length))

def reserved : Bytes := zeros 2

def ConvertOpts.message (opts : ConvertOpts) : Bytes :=
  [1, UInt8.ofNat (opts.needed / 4), 0x22, 0x63] ++
    (if Flagged opts convertFConnect then
      tlvOctets 0xa (opts.remoteAddr.sin6Port.toList ++ opts.remoteAddr.sin6Addr.toList) else []) ++
    (if Flagged opts convertFExtendedTcpHdr then
      tlvOctets 0x14 (reserved ++ opts.tcpOptions.bytes) else []) ++
    (if Flagged opts convertFCookie then tlvOctets 0x16 (reserved ++ opts.cookieData.bytes) else []) ++
    (if Flagged opts convertFError then tlvOctets 0x1e [opts.errorCode] else [])

lemma roundUp_padding (n : ℕ) : roundUp (4 + n) = 4 + n + paddingOf n := by
  simp only [roundUp, paddingOf, convertPadding]
  omega

lemma needed_eq_need (opts : ConvertOpts) : opts.needed = opts.need := by
  rw [need_eq]
  simp only [ConvertOpts.needed, roundUp_padding]

section Octets

lemma tlvOctets_padded (type : UInt8) (xs : Bytes) :
    tlvOctets type (reserved ++ xs) =
      [type, bytesToConvert (4 + (padded xs).length)] ++ (zeros 2 ++ padded xs) := by
  have hsize : roundUp (2 + (reserved ++ xs).length) = 4 + (padded xs).length := by
    simp only [reserved, padded, List.length_append, zeros_length, roundUp, paddingOf, convertPadding]
    omega
  have hrest : 4 + (padded xs).length - (2 + (reserved ++ xs).length) = paddingOf xs.length := by
    simp only [reserved, padded, List.length_append, zeros_length]
    omega
  simp only [tlvOctets, hsize, hrest, bytesToConvert, convertPadding]
  simp only [reserved, padded, List.append_assoc]

lemma encodeTlv_connect (port : Octets 2) (addr : Octets 16) :
    encodeTlv (.connect port addr) = tlvOctets 0xa (port.toList ++ addr.toList) := by
  simp [encodeTlv, tlvOctets, Tlv.type, Tlv.size, Tlv.body, roundUp, convertConnect, bytesToConvert,
    convertPadding, zeros]

lemma encodeTlv_error (code : UInt8) : encodeTlv (.error code) = tlvOctets 0x1e [code] := by
  simp [encodeTlv, tlvOctets, Tlv.type, Tlv.size, Tlv.body, roundUp, convertError, bytesToConvert,
    convertPadding, zeros]

lemma encodeTlv_extendedTcpHdr (xs : Bytes) :
    encodeTlv (.extendedTcpHdr xs) = tlvOctets 0x14 (reserved ++ xs) := by
  rw [tlvOctets_padded]
  have hsize : Tlv.size (.extendedTcpHdr xs) = 4 + (padded xs).length := by
    simp only [Tlv.size, Tlv.body, List.length_append, zeros_length]
    omega
  rw [encodeTlv, hsize]
  rfl

lemma encodeTlv_cookie (xs : Bytes) :
    encodeTlv (.cookie xs) = tlvOctets 0x16 (reserved ++ xs) := by
  rw [tlvOctets_padded]
  have hsize : Tlv.size (.cookie xs) = 4 + (padded xs).length := by
    simp only [Tlv.size, Tlv.body, List.length_append, zeros_length]
    omega
  rw [encodeTlv, hsize]
  rfl

lemma flatMap_tlvIf (p : Prop) [Decidable p] (t : Tlv) :
    (tlvIf p t).flatMap encodeTlv = if p then encodeTlv t else [] := by
  by_cases hp : p <;> simp [tlvIf, hp]

lemma message_eq (opts : ConvertOpts) :
    messageHeader opts.need ++ opts.tlvs.flatMap encodeTlv = opts.message := by
  rw [tlvs_eq, ConvertOpts.message, needed_eq_need]
  simp only [List.flatMap_append, flatMap_tlvIf, encodeTlv_connect, encodeTlv_extendedTcpHdr,
    encodeTlv_cookie, encodeTlv_error, ← List.append_assoc]
  rfl

end Octets

section Turns

variable {opts : ConvertOpts}

structure WriteState where
  entries : List TlvEntry
  flags : UInt8
  buff : Bytes
  pos : ℕ
  buffLen : ℕ
  len : ℤ
  tlvs : List WrittenTlv

def WriteState.finish (opts : ConvertOpts) (s : WriteState) : Option WriteResult :=
  writeLoop opts s.entries s.flags s.buff s.pos s.buffLen s.len s.tlvs

def writeStart (buff : Block) (opts : ConvertOpts) : WriteState :=
  ⟨converterTlvs, opts.flags, [convertVersion, 0, 0x22, 0x63] ++ zeros (buff.size - 4), 4,
    sizeSub buff.size sizeofConvertHeader, 0, []⟩

inductive WriteTurn (opts : ConvertOpts) : WriteState → WriteState → Prop
  | skip {e : TlvEntry} {es : List TlvEntry} {flags : UInt8} {buff : Bytes} {pos buffLen : ℕ}
      {len : ℤ} {tlvs : List WrittenTlv} (hflag : e.flag &&& flags = 0) :
      WriteTurn opts ⟨e :: es, flags, buff, pos, buffLen, len, tlvs⟩
        ⟨es, flags, buff, pos, buffLen, len, tlvs⟩
  | write {e : TlvEntry} {es : List TlvEntry} {flags : UInt8} {buff called typed sized : Bytes}
      {pos buffLen : ℕ} {len ret : ℤ} {tlvs : List WrittenTlv} (hflag : e.flag &&& flags ≠ 0)
      (hcb : e.cb opts buff pos buffLen = some (ret, called)) (hret : 0 ≤ ret)
      (htype : store called pos [e.type] = some typed)
      (hlength : store typed (pos + 1) [bytesToConvert ret.toNat] = some sized) :
      WriteTurn opts ⟨e :: es, flags, buff, pos, buffLen, len, tlvs⟩
        ⟨es, flags &&& ~~~e.flag, sized, pos + ret.toNat, sizeSub buffLen ret.toNat, len + ret,
          tlvs ++ [⟨pos, ret.toNat⟩]⟩

def WriteReaches (opts : ConvertOpts) : WriteState → WriteState → Prop :=
  Relation.ReflTransGen (WriteTurn opts)

lemma convertWrite_finish {buff : Block} (h : 4 ≤ buff.size) :
    convertWrite buff opts = ((writeStart buff opts).finish opts).bind finishWrite := by
  have hcount : sizeSub buff.size sizeofConvertHeader = buff.size - 4 :=
    sizeSub_of_le h (by have hfits : buff.size < 2 ^ 63 := buff.fits; omega)
  rw [convertWrite_loop h, WriteState.finish, writeStart, hcount]

lemma WriteTurn.finish {s t : WriteState} (h : WriteTurn opts s t) : s.finish opts = t.finish opts := by
  cases h with
  | skip hflag => rw [WriteState.finish, writeLoop, if_pos hflag]; rfl
  | write hflag hcb hret htype hlength =>
    rw [WriteState.finish, writeLoop, if_neg hflag, hcb]
    simp only [if_neg (not_lt.mpr hret), htype, hlength, Option.bind_eq_bind, Option.bind_some]
    rfl

structure Writing (opts : ConvertOpts) (size : ℕ) (s : WriteState) : Prop where
  encodes : ∀ e ∈ s.entries, Encodes opts e
  blank : s.buff = s.buff.take s.pos ++ zeros s.buffLen
  room : s.pos + s.buffLen = size
  start : (s.buff.take s.pos).length = s.pos
  fits : size < 2 ^ 63

lemma Writing.turn {size : ℕ} {s t : WriteState} (hs : Writing opts size s) (h : WriteTurn opts s t) :
    Writing opts size t := by
  obtain ⟨hencodes, hblank, hroom, hstart, hfits⟩ := hs
  cases h with
  | skip hflag =>
    exact ⟨fun e he => hencodes e (List.mem_cons_of_mem _ he), hblank, hroom, hstart, hfits⟩
  | @write e es flags buff called typed sized pos n len ret tlvs hflag hcb hret htype hlength =>
    dsimp only at hencodes hblank hroom hstart
    generalize buff.take pos = front at hblank hstart
    subst hblank hstart
    have hn : n < 2 ^ 63 := by omega
    have henc := hencodes e List.mem_cons_self
    simp only [Encodes] at henc
    cases ht : entryTlv opts e with
    | none =>
      rw [ht] at henc
      have hcb' : e.cb = convertWriteTlvNotSupp := henc
      rw [hcb'] at hcb
      cases hcb
      exact absurd hret (by decide)
    | some u =>
      rw [ht] at henc
      obtain ⟨htypes, hwrites⟩ := henc
      obtain ⟨hrefuse, hwrite⟩ := hwrites front n hn
      by_cases hsize : n < u.size
      · rw [hrefuse hsize] at hcb
        cases hcb
        exact absurd hret (by decide)
      · rw [hwrite (not_lt.mp hsize)] at hcb
        obtain ⟨rfl, rfl⟩ := Prod.ext_iff.mp (Option.some.inj hcb)
        have hheader := store_header front u (zeros (n - u.size))
        rw [htypes] at htype
        rw [Int.toNat_natCast] at hlength ⊢
        rw [htype, Option.bind_some, hlength] at hheader
        obtain rfl := Option.some.inj hheader
        have hleft : sizeSub n u.size = n - u.size := sizeSub_of_le (not_lt.mp hsize) (by omega)
        have htake : (front ++ encodeTlv u ++ zeros (n - u.size)).take (front.length + u.size) =
            front ++ encodeTlv u := List.take_left' (by simp)
        refine ⟨fun e he => hencodes e (List.mem_cons_of_mem _ he), ?_, ?_, ?_, hfits⟩
        · simp only [htake, hleft]
        · simp only [hleft]
          omega
        · simp only [htake, List.length_append, encodeTlv_length]

lemma writeStart_writing {buff : Block} (h : 4 ≤ buff.size) :
    Writing opts buff.size (writeStart buff opts) := by
  have hfits : buff.size < 2 ^ 63 := buff.fits
  have hcount : sizeSub buff.size sizeofConvertHeader = buff.size - 4 :=
    sizeSub_of_le h (by omega)
  refine ⟨converterTlvs_encode opts, ?_, ?_, rfl, hfits⟩
  · simp only [writeStart, hcount]
    rfl
  · simp only [writeStart, hcount]
    omega

lemma writeReaches_room {buff : Block} (h : 4 ≤ buff.size) {s : WriteState}
    (hs : WriteReaches opts (writeStart buff opts) s) : s.pos + s.buffLen = buff.size := by
  have hwriting : Writing opts buff.size s := by
    induction hs with
    | refl => exact writeStart_writing h
    | tail _ hturn ih => exact ih.turn hturn
  exact hwriting.room

end Turns

/-- At every turn the room kept count of is the buffer's rest; without a header there is no turn. -/
def NeverUnderflows (buff : Block) (opts : ConvertOpts) : Prop :=
  4 ≤ buff.size → ∀ s, WriteReaches opts (writeStart buff opts) s → s.pos + s.buffLen = buff.size

theorem convertWrite_encodes (buff : Block) (opts : ConvertOpts) :
    (∃ w, convertWrite buff opts = some w ∧
      (w.ret < 0 ↔ Flagged opts convertFInfo ∨ Flagged opts convertFSupportedTcpExt ∨
        buff.size < opts.needed) ∧
      (0 ≤ w.ret → w.ret = opts.needed ∧
        w.buff = opts.message ++ zeros (buff.size - opts.needed))) ∧
    NeverUnderflows buff opts := by
  refine ⟨?_, fun h s hs => writeReaches_room h hs⟩
  have hspec := convertWrite_spec buff opts
  rw [needed_eq_need]
  by_cases hok : opts.Supported ∧ opts.need ≤ buff.size
  · rw [if_pos hok, message_eq] at hspec
    refine ⟨_, hspec, ⟨fun hneg => ?_, fun hrefused => ?_⟩, fun _ => ⟨rfl, rfl⟩⟩
    · dsimp only at hneg
      omega
    · obtain ⟨⟨hinfo, hsupp⟩, hroom⟩ := hok
      rcases hrefused with h | h | h
      · exact (h hinfo).elim
      · exact (h hsupp).elim
      · omega
  · rw [if_neg hok] at hspec
    obtain ⟨w, hw, hret⟩ := hspec
    refine ⟨w, hw, ⟨fun _ => ?_, fun _ => by omega⟩, fun h0 => by omega⟩
    by_contra hnone
    simp only [not_or, Flagged, not_not, not_lt] at hnone
    exact hok ⟨⟨hnone.1, hnone.2.1⟩, hnone.2.2⟩

end TransportConverter.Codec
