import TransportConverter.Codec.Encoder

/-! Options that come from the parser are written back in at most the octets they were read from, and
the message so written is a fixed point of parsing and writing. -/

namespace TransportConverter.Codec

open Foundations.Memory Foundations.Records Wire

/-- The copy a record is kept in is of whole words, as the length octet counts them. -/
def Tlv.Whole (t : Tlv) : Prop := ∀ n, t.copied = some n → n % 4 = 0 ∧ n < 2 ^ 63

structure Normal (opts : ConvertOpts) : Prop where
  carried : carriedFlags &&& opts.flags = opts.flags
  connect : ¬ Flagged opts convertFConnect → opts.remoteAddr = .zero
  extendedTcpHdr : ¬ Flagged opts convertFExtendedTcpHdr → opts.tcpOptions = .empty
  cookie : ¬ Flagged opts convertFCookie → opts.cookieData = .empty
  error : ¬ Flagged opts convertFError → opts.errorCode = 0
  tcpOptions_words : opts.tcpOptions.size % 4 = 0
  cookieData_words : opts.cookieData.size % 4 = 0

section Records

variable {f b : Bytes} {t : Tlv} {ts : List Tlv}

lemma readTlv_whole (hf : tlvFormat.IsRecord f) (ht : readTlv f = some t) :
    t.Whole ∧ t.size ≤ f.length := by
  obtain ⟨hhead, hsize⟩ := hf
  change 4 ≤ f.length at hhead
  change convertToBytes (lengthOctet f) = f.length at hsize
  have hle := convertToBytes_le (lengthOctet f)
  simp only [convertToBytes, convertPadding] at hsize hle
  obtain ⟨-, hd⟩ := readTlv_describes ht
  have hcopied : ∀ n, n = (f.drop 4).length → n % 4 = 0 ∧ n < 2 ^ 63 := by
    rintro n rfl
    rw [List.length_drop]
    omega
  have hpadded : 2 + (zeros 2 ++ padded (f.drop 4)).length ≤ f.length := by
    simp only [padded, List.length_append, zeros_length, List.length_drop, paddingOf, convertPadding]
    omega
  cases t with
  | connect port addr =>
    have haddr := congrArg List.length hd.2
    simp only [List.Vector.toList_length, List.length_drop] at haddr
    refine ⟨fun n hn => (by cases hn), ?_⟩
    simp only [Tlv.size, Tlv.body, List.length_append, List.Vector.toList_length]
    omega
  | extendedTcpHdr xs | cookie xs =>
    obtain rfl : xs = f.drop 4 := hd
    exact ⟨fun n hn => hcopied n (Option.some.inj hn).symm, hpadded⟩
  | error code => exact ⟨fun n hn => (by cases hn), hhead⟩

lemma tlvArea_whole (h : TlvArea b ts) : (∀ t ∈ ts, t.Whole) ∧ areaSize ts ≤ b.length := by
  induction h with
  | nil => exact ⟨fun t ht => (by cases ht), le_rfl⟩
  | @cons f rest t ts hf ht _ ih =>
    obtain ⟨hwhole, hsize⟩ := readTlv_whole hf ht
    refine ⟨?_, ?_⟩
    · simpa only [List.mem_cons, forall_eq_or_imp] using ⟨hwhole, ih.1⟩
    · rw [areaSize_cons, List.length_append]
      exact Nat.add_le_add hsize ih.2

end Records

section Assign

variable {opts : ConvertOpts} {t : Tlv} {ts : List Tlv} {flag : UInt8}

lemma flagged_assign : Flagged (opts.assign t) flag ↔ Flagged opts flag ∨ flag &&& t.flag ≠ 0 := by
  have hzero : ∀ a b : UInt8, a ||| b = 0 ↔ a = 0 ∧ b = 0 := by
    intro a b
    simp only [← UInt8.toNat_inj, UInt8.toNat_or, UInt8.toNat_zero, Nat.or_eq_zero_iff]
  rw [Flagged, Flagged, assign_flags, UInt8.and_comm flag, or_and_distrib, UInt8.and_comm t.flag,
    UInt8.and_comm opts.flags, ne_eq, hzero, not_and_or]

lemma flagged_foldl (h : Flagged opts flag) : Flagged (ts.foldl ConvertOpts.assign opts) flag := by
  induction ts generalizing opts with
  | nil => exact h
  | cons t ts ih => exact ih (flagged_assign.mpr (Or.inl h))

lemma Tlv.flag_carried (t : Tlv) : carriedFlags &&& t.flag = t.flag ∧ t.flag &&& t.flag ≠ 0 := by
  cases t <;> exact ⟨by simp only [Tlv.flag]; decide, by simp only [Tlv.flag]; decide⟩

lemma Block.ofBytes_self (data : Block) : .ofBytes data.bytes = data := by
  obtain ⟨bytes, hfits⟩ := data
  simp only [Block.ofBytes, Block.mk.injEq]
  exact List.take_of_length_le (by omega)

lemma ofBytes_size {xs : Bytes} (h : xs.length < 2 ^ 63) : (Block.ofBytes xs).size = xs.length := by
  rw [Block.size, Block.ofBytes_bytes h]

lemma Normal.zero : Normal .zero :=
  ⟨rfl, fun _ => rfl, fun _ => rfl, fun _ => rfl, fun _ => rfl, rfl, rfl⟩

lemma Normal.assign (h : Normal opts) (ht : t.Whole) : Normal (opts.assign t) := by
  have hcarried : carriedFlags &&& (opts.assign t).flags = (opts.assign t).flags := by
    rw [assign_flags, UInt8.and_comm, or_and_distrib, UInt8.and_comm opts.flags, h.carried,
      UInt8.and_comm t.flag, t.flag_carried.1]
  have hold : ∀ flag, ¬ Flagged (opts.assign t) flag → ¬ Flagged opts flag :=
    fun flag hnot hflag => hnot (flagged_assign.mpr (Or.inl hflag))
  have hown : Flagged (opts.assign t) t.flag := flagged_assign.mpr (Or.inr t.flag_carried.2)
  cases t with
  | connect port addr =>
    exact ⟨hcarried, fun hnot => (hnot hown).elim, fun hnot => h.extendedTcpHdr (hold _ hnot),
      fun hnot => h.cookie (hold _ hnot), fun hnot => h.error (hold _ hnot), h.tcpOptions_words,
      h.cookieData_words⟩
  | extendedTcpHdr xs =>
    obtain ⟨hwords, hfits⟩ := ht xs.length rfl
    refine ⟨hcarried, fun hnot => h.connect (hold _ hnot), fun hnot => (hnot hown).elim,
      fun hnot => h.cookie (hold _ hnot), fun hnot => h.error (hold _ hnot), ?_, h.cookieData_words⟩
    exact (congrArg (· % 4) (ofBytes_size hfits)).trans hwords
  | cookie xs =>
    obtain ⟨hwords, hfits⟩ := ht xs.length rfl
    refine ⟨hcarried, fun hnot => h.connect (hold _ hnot), fun hnot => h.extendedTcpHdr (hold _ hnot),
      fun hnot => (hnot hown).elim, fun hnot => h.error (hold _ hnot), h.tcpOptions_words, ?_⟩
    exact (congrArg (· % 4) (ofBytes_size hfits)).trans hwords
  | error code =>
    exact ⟨hcarried, fun hnot => h.connect (hold _ hnot), fun hnot => h.extendedTcpHdr (hold _ hnot),
      fun hnot => h.cookie (hold _ hnot), fun hnot => (hnot hown).elim, h.tcpOptions_words,
      h.cookieData_words⟩

lemma Normal.foldl (h : Normal opts) (hts : ∀ t ∈ ts, t.Whole) :
    Normal (ts.foldl ConvertOpts.assign opts) := by
  induction ts generalizing opts with
  | nil => exact h
  | cons t ts ih =>
    simp only [List.mem_cons, forall_eq_or_imp] at hts
    exact ih (h.assign hts.1) hts.2

lemma padded_size_eq (xs : Bytes) :
    2 + (zeros 2 ++ padded xs).length = 4 + xs.length + paddingOf xs.length := by
  simp only [padded, List.length_append, zeros_length]
  omega

/-- A repeated type replaces what the earlier record had taken. -/
lemma need_assign (ht : t.Whole) : (opts.assign t).need ≤ opts.need + t.size := by
  rw [need_eq, need_eq]
  simp only [flagged_assign]
  cases t with
  | connect port addr =>
    have hsize : Tlv.size (.connect port addr) = 20 := by simp [Tlv.size, Tlv.body]
    rw [hsize]
    simp only [Tlv.flag, ConvertOpts.assign, ConvertOpts.setConnect,
      show convertFConnect &&& convertFConnect ≠ 0 by decide,
      show ¬ convertFExtendedTcpHdr &&& convertFConnect ≠ 0 by decide,
      show ¬ convertFCookie &&& convertFConnect ≠ 0 by decide,
      show ¬ convertFError &&& convertFConnect ≠ 0 by decide, ne_eq, not_false_eq_true,
      or_false, or_true, if_true]
    split_ifs <;> omega
  | extendedTcpHdr xs =>
    have hsize : Tlv.size (.extendedTcpHdr xs) = _ := padded_size_eq xs
    rw [hsize]
    simp only [Tlv.flag, ConvertOpts.assign, ConvertOpts.setExtendedTcpHdr,
      ofBytes_size (ht xs.length rfl).2,
      show convertFExtendedTcpHdr &&& convertFExtendedTcpHdr ≠ 0 by decide,
      show ¬ convertFConnect &&& convertFExtendedTcpHdr ≠ 0 by decide,
      show ¬ convertFCookie &&& convertFExtendedTcpHdr ≠ 0 by decide,
      show ¬ convertFError &&& convertFExtendedTcpHdr ≠ 0 by decide, ne_eq, not_false_eq_true,
      or_false, or_true, if_true]
    split_ifs <;> omega
  | cookie xs =>
    have hsize : Tlv.size (.cookie xs) = _ := padded_size_eq xs
    rw [hsize]
    simp only [Tlv.flag, ConvertOpts.assign, ConvertOpts.setCookie,
      ofBytes_size (ht xs.length rfl).2,
      show convertFCookie &&& convertFCookie ≠ 0 by decide,
      show ¬ convertFConnect &&& convertFCookie ≠ 0 by decide,
      show ¬ convertFExtendedTcpHdr &&& convertFCookie ≠ 0 by decide,
      show ¬ convertFError &&& convertFCookie ≠ 0 by decide, ne_eq, not_false_eq_true,
      or_false, or_true, if_true]
    split_ifs <;> omega
  | error code =>
    have hsize : Tlv.size (.error code) = 4 := rfl
    rw [hsize]
    simp only [Tlv.flag, ConvertOpts.assign, ConvertOpts.setError,
      show convertFError &&& convertFError ≠ 0 by decide,
      show ¬ convertFConnect &&& convertFError ≠ 0 by decide,
      show ¬ convertFExtendedTcpHdr &&& convertFError ≠ 0 by decide,
      show ¬ convertFCookie &&& convertFError ≠ 0 by decide, ne_eq, not_false_eq_true,
      or_false, or_true, if_true]
    split_ifs <;> omega

lemma need_foldl (hts : ∀ t ∈ ts, t.Whole) :
    (ts.foldl ConvertOpts.assign opts).need ≤ opts.need + areaSize ts := by
  induction ts generalizing opts with
  | nil => exact le_rfl
  | cons t ts ih =>
    simp only [List.mem_cons, forall_eq_or_imp] at hts
    have htail : ((t :: ts).foldl ConvertOpts.assign opts).need ≤ (opts.assign t).need + areaSize ts :=
      ih hts.2
    have hhead : (opts.assign t).need ≤ opts.need + t.size := need_assign hts.1
    rw [areaSize_cons]
    omega

end Assign

section Fixed

variable {opts : ConvertOpts}

lemma padded_of_words {data : Block} (h : data.size % 4 = 0) : .ofBytes (padded data.bytes) = data := by
  have hpadding : paddingOf data.bytes.length = 0 := by
    change data.bytes.length % 4 = 0 at h
    simp only [paddingOf, convertPadding, h]
  have hbytes : padded data.bytes = data.bytes := by
    rw [padded, hpadding]
    exact List.append_nil _
  rw [hbytes]
  exact Block.ofBytes_self data

lemma Normal.readBack (h : Normal opts) :
    (opts.tlvs.map Tlv.readBack).foldl ConvertOpts.assign .zero = opts := by
  rw [readBack_fold, h.carried, padded_of_words h.tcpOptions_words, padded_of_words h.cookieData_words]
  have hconnect : (if Flagged opts convertFConnect then opts.remoteAddr else .zero) =
      opts.remoteAddr := by
    split_ifs with hflag
    · rfl
    · exact (h.connect hflag).symm
  have herror : (if Flagged opts convertFError then opts.errorCode else 0) = opts.errorCode := by
    split_ifs with hflag
    · rfl
    · exact (h.error hflag).symm
  have hextended : (if Flagged opts convertFExtendedTcpHdr then opts.tcpOptions else .empty) =
      opts.tcpOptions := by
    split_ifs with hflag
    · rfl
    · exact (h.extendedTcpHdr hflag).symm
  have hcookie : (if Flagged opts convertFCookie then opts.cookieData else .empty) =
      opts.cookieData := by
    split_ifs with hflag
    · rfl
    · exact (h.cookie hflag).symm
  rw [hconnect, herror, hextended, hcookie]

lemma Normal.supported (h : Normal opts) : opts.Supported := by
  have hand : ∀ flag, flag &&& carriedFlags = 0 → flag &&& opts.flags = 0 := by
    intro flag hflag
    rw [← h.carried, ← UInt8.and_assoc, hflag, UInt8.zero_and]
  exact ⟨hand _ (by decide), hand _ (by decide)⟩

end Fixed

theorem reencoding_normalises (malloc malloc' : Allocator) (hgrants : malloc'.Grants 1016)
    (area buff : Block) (opts : ConvertOpts) (hparse : ParseReturns malloc area (.opts opts))
    (hshort : area.size ≤ 1016) (hroom : area.size + 4 ≤ buff.size) :
    ∃ w, convertWrite buff opts = some w ∧ 0 ≤ w.ret ∧ w.ret ≤ area.size + 4 ∧
      convertParseHeader (w.buff.take 4) = some (w.ret.toNat - 4) ∧
      ∃ again, ParseReturns malloc' (areaBlock w) (.opts again) ∧ again = opts ∧
        convertWrite buff again = some w := by
  obtain ⟨hne, -, ts, hts, -, hopts⟩ := area_of_opts hparse
  obtain ⟨hwhole, harea⟩ := tlvArea_whole hts
  have hnormal : Normal opts := hopts ▸ Normal.zero.foldl hwhole
  have hneed : opts.need ≤ area.size + 4 := by
    have hfold : (ts.foldl ConvertOpts.assign .zero).need ≤ ConvertOpts.zero.need + areaSize ts :=
      need_foldl hwhole
    have hzero : ConvertOpts.zero.need = 4 := rfl
    rw [← hopts, hzero] at hfold
    change areaSize ts ≤ area.size at harea
    omega
  have hflags : opts.flags ≠ 0 := by
    obtain ⟨-, -, t, ts', rfl, -, -⟩ := (decodes_cut hne).mp hts
    have hfirst : Flagged (ConvertOpts.zero.assign t) t.flag :=
      flagged_assign.mpr (Or.inr t.flag_carried.2)
    have hflag : Flagged opts t.flag := by
      have hfold : Flagged (ts'.foldl ConvertOpts.assign (ConvertOpts.zero.assign t)) t.flag :=
        flagged_foldl hfirst
      rw [hopts]
      exact hfold
    intro h0
    rw [Flagged, h0, UInt8.and_zero] at hflag
    exact hflag rfl
  have hspec := convertWrite_spec buff opts
  rw [if_pos ⟨hnormal.supported, hneed.trans hroom⟩] at hspec
  have hle : ((opts.need : ℕ) : ℤ) ≤ 1020 := by omega
  have hbytes := area_bytes hspec (Int.natCast_nonneg _) hle
  have hareaSize : areaSize opts.tlvs ≤ 1020 := by
    have hneedSize : opts.need = 4 + areaSize opts.tlvs := rfl
    omega
  have htlvs := tlvArea_encode hareaSize
  rw [← hbytes] at htlvs
  have hnonempty : (areaBlock ⟨opts.need, messageHeader opts.need ++ opts.tlvs.flatMap encodeTlv ++
      zeros (buff.size - opts.need), layout 4 opts.tlvs⟩).bytes ≠ [] := by
    rw [hbytes]
    intro hnil
    have hlen := area_length opts.tlvs
    obtain ⟨t, ts', htlv⟩ := List.exists_cons_of_ne_nil (tlvs_ne_nil hflags hnormal.carried)
    have hfour := four_le_size t
    rw [hnil, htlv, areaSize_cons, List.length_nil] at hlen
    omega
  have hagain := parseReturns_of_area hgrants hnonempty htlvs
  rw [hnormal.readBack] at hagain
  have hlength : ((opts.need : ℕ) : ℤ) ≤ area.size + 4 := by omega
  refine ⟨_, hspec, Int.natCast_nonneg _, hlength, ?_, opts, hagain, rfl, hspec⟩
  have hfour : 4 ≤ opts.need := Nat.le_add_right 4 _
  simp only [Int.toNat_natCast, List.append_assoc]
  exact parseHeader_message (need_mod opts) (by omega) hfour _

theorem reencoding_normalises_repeatedErrors :
    ∃ w, convertWrite smallBuffer { ConvertOpts.zero with flags := 32, errorCode := 9 } = some w ∧
      0 ≤ w.ret ∧ w.ret ≤ 12 := by
  have hr : ParseReturns grantingMalloc repeatedErrors
      (.opts { ConvertOpts.zero with flags := 32, errorCode := 9 }) := ⟨3, by decide⟩
  obtain ⟨w, hw, hpos, hle, -⟩ := reencoding_normalises grantingMalloc grantingMalloc
    grantingMalloc_grants repeatedErrors smallBuffer _ hr (by decide) (by decide)
  exact ⟨w, hw, hpos, hle⟩

end TransportConverter.Codec
