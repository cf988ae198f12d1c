import TransportConverter.Codec.WriterLoop

/-! What `convert_write` writes, `convert_parse_header` and `convert_parse_tlvs` read back. -/

namespace TransportConverter.Codec

open Foundations.Memory Foundations.Loops Foundations.Records Wire

/-- What the parser makes of an encoded TLV: the padding has become part of the data. -/
def Tlv.readBack : Tlv → Tlv
  | .connect port addr => .connect port addr
  | .extendedTcpHdr tcpOptions => .extendedTcpHdr (padded tcpOptions)
  | .cookie opaqueBytes => .cookie (padded opaqueBytes)
  | .error errorCode => .error errorCode

lemma readTlv_encodeTlv (t : Tlv) : readTlv (encodeTlv t) = some t.readBack := by
  cases t with
  | connect port addr =>
    obtain ⟨xs, hxs⟩ := port
    obtain ⟨a, b, rfl⟩ := List.length_eq_two.mp hxs
    obtain ⟨ys, hys⟩ := addr
    simp [encodeTlv, Tlv.type, Tlv.body, readTlv, Tlv.readBack, convertConnect, convertError, hys]
  | extendedTcpHdr xs => rfl
  | cookie xs => rfl
  | error code => rfl

lemma encodeTlv_isRecord {t : Tlv} (h : t.size ≤ 1020) : tlvFormat.IsRecord (encodeTlv t) := by
  refine ⟨?_, ?_⟩
  · rw [encodeTlv_length]
    exact four_le_size t
  · rw [encodeTlv_length]
    exact convertToBytes_bytesToConvert (size_mod t) h

lemma tlvArea_encode {ts : List Tlv} (h : areaSize ts ≤ 1020) :
    TlvArea (ts.flatMap encodeTlv) (ts.map Tlv.readBack) := by
  refine decodes_flatMap ?_ (fun t _ => readTlv_encodeTlv t)
  intro t ht
  exact encodeTlv_isRecord ((size_le_areaSize ht).trans h)

def Flagged (opts : ConvertOpts) (flag : UInt8) : Prop := flag &&& opts.flags ≠ 0

instance (opts : ConvertOpts) (flag : UInt8) : Decidable (Flagged opts flag) :=
  inferInstanceAs (Decidable (¬ _))

def tlvIf (b : Prop) [Decidable b] (t : Tlv) : List Tlv := if b then [t] else []

lemma selected_tlvs (opts : ConvertOpts) (es : List TlvEntry) :
    (selected es opts.flags).filterMap (entryTlv opts) =
      es.flatMap (fun e => if Flagged opts e.flag then (entryTlv opts e).toList else []) := by
  induction es with
  | nil => rfl
  | cons e es ih =>
    simp only [List.flatMap_cons, ← ih, selected]
    by_cases h : e.flag &&& opts.flags = 0
    · rw [List.filter_cons_of_neg (by simp [h]), if_neg (show ¬ Flagged opts e.flag from not_not.mpr h),
        List.nil_append]
    · rw [List.filter_cons_of_pos (by simp [h]), if_pos (show Flagged opts e.flag from h)]
      cases ht : entryTlv opts e with
      | none => rw [List.filterMap_cons_none ht]; rfl
      | some t => rw [List.filterMap_cons_some ht]; rfl

lemma tlvs_eq (opts : ConvertOpts) :
    opts.tlvs =
      tlvIf (Flagged opts convertFConnect)
        (.connect opts.remoteAddr.sin6Port opts.remoteAddr.sin6Addr) ++
      tlvIf (Flagged opts convertFExtendedTcpHdr) (.extendedTcpHdr opts.tcpOptions.bytes) ++
      tlvIf (Flagged opts convertFCookie) (.cookie opts.cookieData.bytes) ++
      tlvIf (Flagged opts convertFError) (.error opts.errorCode) := by
  have hinfo : entryTlv opts ⟨convertFInfo, convertInfo, convertWriteTlvNotSupp⟩ = none := rfl
  have hsupp : entryTlv opts
      ⟨convertFSupportedTcpExt, convertSupportedTcpExt, convertWriteTlvNotSupp⟩ = none := rfl
  rw [ConvertOpts.tlvs, selected_tlvs]
  simp only [converterTlvs, List.flatMap_cons, List.flatMap_nil, hinfo, hsupp, Option.toList_none,
    ite_self, List.nil_append, List.append_nil, List.append_assoc]
  rfl

def carriedFlags : UInt8 :=
  convertFConnect ||| convertFExtendedTcpHdr ||| convertFCookie ||| convertFError

lemma flag_and (flags : UInt8) :
    ∀ flag ∈ [convertFConnect, convertFExtendedTcpHdr, convertFCookie, convertFError],
      flag &&& flags = if flag &&& flags ≠ 0 then flag else 0 := by
  have hvec : ∀ c ∈ [2#8, 4#8, 16#8, 32#8], ∀ v : BitVec 8, c &&& v = 0 ∨ c &&& v = c := by decide
  intro flag hflag
  have hmem : flag.toBitVec ∈ [2#8, 4#8, 16#8, 32#8] := by
    simp only [List.mem_cons, List.not_mem_nil, or_false] at hflag
    rcases hflag with rfl | rfl | rfl | rfl <;> decide
  rcases hvec flag.toBitVec hmem flags.toBitVec with h | h
  · have h0 : flag &&& flags = 0 := UInt8.eq_of_toBitVec_eq h
    rw [if_neg (not_not.mpr h0), h0]
  · have hf : flag &&& flags = flag := UInt8.eq_of_toBitVec_eq h
    by_cases h0 : flag = 0
    · simp [h0]
    · rw [hf, if_pos h0]

lemma or_and_distrib (a b c : UInt8) : (a ||| b) &&& c = a &&& c ||| b &&& c :=
  UInt8.eq_of_toBitVec_eq BitVec.and_or_distrib_right

lemma carriedFlags_and (opts : ConvertOpts) :
    carriedFlags &&& opts.flags =
      (if Flagged opts convertFConnect then convertFConnect else 0) |||
      (if Flagged opts convertFExtendedTcpHdr then convertFExtendedTcpHdr else 0) |||
      (if Flagged opts convertFCookie then convertFCookie else 0) |||
      (if Flagged opts convertFError then convertFError else 0) := by
  have hbit := flag_and opts.flags
  simp only [List.mem_cons, List.not_mem_nil, or_false, forall_eq_or_imp, forall_eq] at hbit
  obtain ⟨hc, hx, hk, he⟩ := hbit
  rw [carriedFlags, or_and_distrib, or_and_distrib, or_and_distrib, hc, hx, hk, he]
  rfl

lemma fold_tlvIf (c x k e : Prop) [Decidable c] [Decidable x] [Decidable k] [Decidable e]
    (port : Octets 2) (addr : Octets 16) (xs ys : Bytes) (code : UInt8) :
    ((tlvIf c (.connect port addr) ++ tlvIf x (.extendedTcpHdr xs) ++ tlvIf k (.cookie ys) ++
      tlvIf e (.error code)).map Tlv.readBack).foldl ConvertOpts.assign .zero =
      { flags := (if c then convertFConnect else 0) ||| (if x then convertFExtendedTcpHdr else 0) |||
          (if k then convertFCookie else 0) ||| (if e then convertFError else 0)
        remoteAddr := if c then ⟨port, addr⟩ else .zero
        errorCode := if e then code else 0
        tcpOptions := if x then .ofBytes (padded xs) else .empty
        cookieData := if k then .ofBytes (padded ys) else .empty } := by
  by_cases hc : c <;> by_cases hx : x <;> by_cases hk : k <;> by_cases he : e <;>
    simp [tlvIf, hc, hx, hk, he, Tlv.readBack, ConvertOpts.assign, ConvertOpts.setConnect,
      ConvertOpts.setExtendedTcpHdr, ConvertOpts.setCookie, ConvertOpts.setError, ConvertOpts.zero]

lemma readBack_fold (opts : ConvertOpts) :
    (opts.tlvs.map Tlv.readBack).foldl ConvertOpts.assign .zero =
      { flags := carriedFlags &&& opts.flags
        remoteAddr := if Flagged opts convertFConnect then opts.remoteAddr else .zero
        errorCode := if Flagged opts convertFError then opts.errorCode else 0
        tcpOptions := if Flagged opts convertFExtendedTcpHdr then
          .ofBytes (padded opts.tcpOptions.bytes) else .empty
        cookieData := if Flagged opts convertFCookie then
          .ofBytes (padded opts.cookieData.bytes) else .empty } := by
  rw [carriedFlags_and, tlvs_eq, fold_tlvIf]

def areaBlock (w : WriteResult) : Block := .ofBytes ((w.buff.drop 4).take (w.ret.toNat - 4))

lemma written_message {buff : Block} {opts : ConvertOpts} {w : WriteResult}
    (hw : convertWrite buff opts = some w) (h0 : 0 ≤ w.ret) :
    opts.Supported ∧ opts.need ≤ buff.size ∧ w.ret = opts.need ∧
      w.buff = messageHeader opts.need ++ opts.tlvs.flatMap encodeTlv ++
        zeros (buff.size - opts.need) ∧ w.tlvs = layout 4 opts.tlvs := by
  have hspec := convertWrite_spec buff opts
  by_cases hok : opts.Supported ∧ opts.need ≤ buff.size
  · rw [if_pos hok, hw] at hspec
    obtain rfl := Option.some.inj hspec
    exact ⟨hok.1, hok.2, rfl, rfl, rfl⟩
  · rw [if_neg hok] at hspec
    obtain ⟨w', hw', hret⟩ := hspec
    obtain rfl := Option.some.inj (hw.symm.trans hw')
    omega

lemma area_bytes {buff : Block} {opts : ConvertOpts} {w : WriteResult}
    (hw : convertWrite buff opts = some w) (h0 : 0 ≤ w.ret) (hle : w.ret ≤ 1020) :
    (areaBlock w).bytes = opts.tlvs.flatMap encodeTlv := by
  obtain ⟨-, -, hret, hbuff, -⟩ := written_message hw h0
  have hlen := area_length opts.tlvs
  have hneed : opts.need = 4 + areaSize opts.tlvs := rfl
  have hcut : (w.buff.drop 4).take (w.ret.toNat - 4) = opts.tlvs.flatMap encodeTlv := by
    rw [hret, hbuff, Int.toNat_natCast, hneed, Nat.add_sub_cancel_left, ← hlen]
    simp [messageHeader]
  rw [areaBlock, hcut]
  exact Block.ofBytes_bytes (by omega)

lemma parseHeader_message {n : ℕ} (h4 : n % 4 = 0) (hle : n ≤ 1020) (hge : 4 ≤ n) (rest : Bytes) :
    convertParseHeader ((messageHeader n ++ rest).take 4) = some (n - 4) := by
  have hbytes := convertToBytes_bytesToConvert h4 hle
  have hmagic : ntohs ⟨[0x22, 0x63], rfl⟩ = convertMagicNo := rfl
  simp only [messageHeader, List.cons_append, List.take_succ_cons, List.take_zero,
    convertParseHeader, hmagic, hbytes, ne_eq, not_true_eq_false, if_false]
  exact congrArg some (sizeSub_of_le hge (by omega))

lemma tlvs_ne_nil {opts : ConvertOpts} (hflags : opts.flags ≠ 0)
    (hcarried : carriedFlags &&& opts.flags = opts.flags) : opts.tlvs ≠ [] := by
  intro hnil
  have hfold := congrArg ConvertOpts.flags (readBack_fold opts)
  rw [hnil] at hfold
  exact hflags (hcarried.symm.trans hfold.symm)

lemma padded_of_mem {opts : ConvertOpts} (hle : opts.need ≤ 1020) {t : Tlv} (ht : t ∈ opts.tlvs)
    {xs : Bytes} (hbody : t.body = zeros 2 ++ padded xs) :
    (Block.ofBytes (padded xs)).bytes = padded xs := by
  have hsize := size_le_areaSize ht
  have hneed : opts.need = 4 + areaSize opts.tlvs := rfl
  simp only [Tlv.size, hbody, List.length_append, zeros_length] at hsize
  exact Block.ofBytes_bytes (by omega)

theorem convertParse_convertWrite (malloc : Allocator) (hgrants : malloc.Grants 1016) (buff : Block)
    (opts : ConvertOpts) (hflags : opts.flags ≠ 0) (hcarried : carriedFlags &&& opts.flags = opts.flags)
    (w : WriteResult) (hw : convertWrite buff opts = some w) (h0 : 0 ≤ w.ret) (hle : w.ret ≤ 1020) :
    convertParseHeader (w.buff.take 4) = some (w.ret.toNat - 4) ∧
      ∃ parsed, ParseReturns malloc (areaBlock w) (.opts parsed) ∧ parsed.flags = opts.flags ∧
        (Flagged opts convertFConnect → parsed.remoteAddr = opts.remoteAddr) ∧
        (Flagged opts convertFError → parsed.errorCode = opts.errorCode) ∧
        (Flagged opts convertFExtendedTcpHdr →
          parsed.tcpOptions.bytes = padded opts.tcpOptions.bytes) ∧
        (Flagged opts convertFCookie → parsed.cookieData.bytes = padded opts.cookieData.bytes) := by
  obtain ⟨-, -, hret, hbuff, -⟩ := written_message hw h0
  have hneed : opts.need = 4 + areaSize opts.tlvs := rfl
  have hn : opts.need ≤ 1020 := by omega
  have harea := area_bytes hw h0 hle
  have htlvs := tlvArea_encode (show areaSize opts.tlvs ≤ 1020 by omega)
  rw [← harea] at htlvs
  refine ⟨?_, _, parseReturns_of_area hgrants ?_ htlvs, ?_⟩
  · rw [hret, hbuff, Int.toNat_natCast, List.append_assoc]
    exact parseHeader_message (need_mod opts) hn (by omega) _
  · rw [harea]
    intro hnil
    have hlen := area_length opts.tlvs
    obtain ⟨t, ts, htlv⟩ := List.exists_cons_of_ne_nil (tlvs_ne_nil hflags hcarried)
    rw [hnil, htlv, areaSize_cons] at hlen
    have := four_le_size t
    simp only [List.length_nil] at hlen
    omega
  · rw [readBack_fold]
    refine ⟨hcarried, fun h => if_pos h, fun h => if_pos h, fun h => ?_, fun h => ?_⟩
    · rw [if_pos h]
      exact padded_of_mem hn (by simp [tlvs_eq, tlvIf, h]) (t := .extendedTcpHdr _) rfl
    · rw [if_pos h]
      exact padded_of_mem hn (by simp [tlvs_eq, tlvIf, h]) (t := .cookie _) rfl

def connectWithCookie : ConvertOpts :=
  { ConvertOpts.zero with
    flags := convertFConnect ||| convertFCookie
    remoteAddr := ⟨⟨[0x1f, 0x90], rfl⟩, .replicate 16 7⟩
    cookieData := ⟨[0x61, 0x62, 0x63, 0x64, 0x65], by decide⟩ }

def smallBuffer : Block := ⟨zeros 40, by decide⟩

theorem convertParse_convertWrite_cookie :
    ∃ w, convertWrite smallBuffer connectWithCookie = some w ∧ w.ret = 36 ∧
      convertParseHeader (w.buff.take 4) = some 32 ∧
      ∃ parsed, ParseReturns grantingMalloc (areaBlock w) (.opts parsed) ∧
        parsed.cookieData.bytes = [0x61, 0x62, 0x63, 0x64, 0x65, 0, 0, 0] := by
  obtain ⟨w, hw, hret⟩ : ∃ w, convertWrite smallBuffer connectWithCookie = some w ∧ w.ret = 36 :=
    ⟨_, rfl, rfl⟩
  obtain ⟨hhead, parsed, hp, -, -, -, -, hcookie⟩ := convertParse_convertWrite grantingMalloc
    grantingMalloc_grants smallBuffer connectWithCookie (by decide) (by decide) w hw (by omega)
    (by omega)
  rw [hret] at hhead
  exact ⟨w, hw, hret, hhead, parsed, hp, hcookie (by decide)⟩

end TransportConverter.Codec
