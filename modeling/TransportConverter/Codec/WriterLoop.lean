import TransportConverter.Codec.WriterLayout

/-! The write loop over the table, and the buffer `convert_write` returns. -/

namespace TransportConverter.Codec

open Foundations.Memory Foundations.Records Wire

/-- What the entry of the table stands for; `none` for the two types without an encoder. -/
def entryTlv (opts : ConvertOpts) (e : TlvEntry) : Option Tlv :=
  if e.type = convertConnect then
    some (.connect opts.remoteAddr.sin6Port opts.remoteAddr.sin6Addr)
  else if e.type = convertExtendedTcpHdr then some (.extendedTcpHdr opts.tcpOptions.bytes)
  else if e.type = convertCookie then some (.cookie opts.cookieData.bytes)
  else if e.type = convertError then some (.error opts.errorCode)
  else none

def Encodes (opts : ConvertOpts) (e : TlvEntry) : Prop :=
  match entryTlv opts e with
  | some t => e.type = t.type ∧ WritesTlv e.cb opts t
  | none => e.cb = convertWriteTlvNotSupp

lemma converterTlvs_encode (opts : ConvertOpts) : ∀ e ∈ converterTlvs, Encodes opts e := by
  intro e he
  simp only [converterTlvs, List.mem_cons, List.not_mem_nil, or_false] at he
  rcases he with rfl | rfl | rfl | rfl | rfl | rfl
  · exact rfl
  · exact ⟨rfl, connect_writes opts⟩
  · exact ⟨rfl, padded_writes opts rfl rfl⟩
  · exact rfl
  · exact ⟨rfl, padded_writes opts rfl rfl⟩
  · exact ⟨rfl, error_writes opts⟩

lemma converterTlvs_flags :
    converterTlvs.Pairwise (fun e e' => e'.flag &&& ~~~e.flag = e'.flag) := by
  simp only [converterTlvs, List.pairwise_cons, List.mem_cons, List.not_mem_nil, or_false,
    forall_eq_or_imp, forall_eq, IsEmpty.forall_iff, implies_true, List.Pairwise.nil, and_true]
  decide

def selected (es : List TlvEntry) (flags : UInt8) : List TlvEntry :=
  es.filter (fun e => e.flag &&& flags ≠ 0)

lemma selected_clear {e : TlvEntry} {es : List TlvEntry} (flags : UInt8)
    (h : ∀ e' ∈ es, e'.flag &&& ~~~e.flag = e'.flag) :
    selected es (flags &&& ~~~e.flag) = selected es flags := by
  apply List.filter_congr
  intro e' he'
  have : e'.flag &&& (flags &&& ~~~e.flag) = e'.flag &&& flags := by
    rw [UInt8.and_comm flags, ← UInt8.and_assoc, h e' he']
  rw [this]

def layout : ℕ → List Tlv → List WrittenTlv
  | _, [] => []
  | pos, t :: ts => ⟨pos, t.size⟩ :: layout (pos + t.size) ts

lemma areaSize_cons (t : Tlv) (ts : List Tlv) : areaSize (t :: ts) = t.size + areaSize ts := rfl

lemma store_header (front : Bytes) (t : Tlv) (rest : Bytes) :
    (store (front ++ zeros 2 ++ t.body ++ rest) front.length [t.type]).bind
      (fun buff => store buff (front.length + 1) [bytesToConvert t.size]) =
        some (front ++ encodeTlv t ++ rest) := by
  have htype := store_front front [0] ([0] ++ t.body ++ rest) [t.type] rfl
  have hlen := store_front (front ++ [t.type]) [0] (t.body ++ rest) [bytesToConvert t.size] rfl
  have hz : front ++ zeros 2 ++ t.body ++ rest = front ++ [0] ++ ([0] ++ t.body ++ rest) := by
    simp [zeros]
  rw [hz, htype, Option.bind_some]
  have hassoc : front ++ [t.type] ++ ([0] ++ t.body ++ rest) =
      front ++ [t.type] ++ [0] ++ (t.body ++ rest) := by simp
  rw [hassoc]
  rw [List.length_append, List.length_singleton] at hlen
  rw [hlen]
  simp [encodeTlv]

section Loop

variable {opts : ConvertOpts}

lemma writeLoop_refuse {e : TlvEntry} {es : List TlvEntry} (henc : Encodes opts e) {flags : UInt8}
    (hflag : e.flag &&& flags ≠ 0) {front : Bytes} {n : ℕ} (hn : n < 2 ^ 63) {len : ℤ}
    {tlvs : List WrittenTlv} (h : ∀ t, entryTlv opts e = some t → n < t.size) :
    writeLoop opts (e :: es) flags (front ++ zeros n) front.length n len tlvs =
      some ⟨-1, front ++ zeros n, tlvs⟩ := by
  rw [writeLoop, if_neg hflag]
  simp only [Encodes] at henc
  cases ht : entryTlv opts e with
  | none =>
    rw [ht] at henc
    have hcb : e.cb = convertWriteTlvNotSupp := henc
    rw [hcb]
    rfl
  | some t =>
    rw [ht] at henc
    rw [(henc.2 front n hn).1 (h t ht)]
    rfl

lemma writeLoop_append {e : TlvEntry} {es : List TlvEntry} (henc : Encodes opts e) {flags : UInt8}
    (hflag : e.flag &&& flags ≠ 0) {front : Bytes} {n : ℕ} (hn : n < 2 ^ 63) {len : ℤ}
    {tlvs : List WrittenTlv} {t : Tlv} (ht : entryTlv opts e = some t) (hroom : t.size ≤ n) :
    writeLoop opts (e :: es) flags (front ++ zeros n) front.length n len tlvs =
      writeLoop opts es (flags &&& ~~~e.flag) (front ++ encodeTlv t ++ zeros (n - t.size))
        (front ++ encodeTlv t).length (n - t.size) (len + t.size)
        (tlvs ++ [⟨front.length, t.size⟩]) := by
  simp only [Encodes, ht] at henc
  have hhead := store_header front t (zeros (n - t.size))
  rw [writeLoop, if_neg hflag, (henc.2 front n hn).2 hroom, henc.1]
  simp only [Int.toNat_natCast, if_neg (show ¬ (t.size : ℤ) < 0 by omega)]
  rw [sizeSub_of_le hroom (by omega), List.length_append, encodeTlv_length]
  simp only [Option.bind_eq_bind]
  cases hs : store (front ++ zeros 2 ++ t.body ++ zeros (n - t.size)) front.length [t.type] with
  | none =>
    rw [hs] at hhead
    cases hhead
  | some buff =>
    rw [hs, Option.bind_some] at hhead
    simp only [Option.bind_some, hhead]

lemma writeLoop_spec {es : List TlvEntry} (henc : ∀ e ∈ es, Encodes opts e)
    (hpair : es.Pairwise (fun e e' => e'.flag &&& ~~~e.flag = e'.flag)) (flags : UInt8)
    (front : Bytes) {n : ℕ} (hn : n < 2 ^ 63) (len : ℤ) (tlvs : List WrittenTlv) :
    let ts := (selected es flags).filterMap (entryTlv opts)
    if (∀ e ∈ selected es flags, (entryTlv opts e).isSome) ∧ areaSize ts ≤ n then
      writeLoop opts es flags (front ++ zeros n) front.length n len tlvs =
        some ⟨len + areaSize ts, front ++ ts.flatMap encodeTlv ++ zeros (n - areaSize ts),
          tlvs ++ layout front.length ts⟩
    else ∃ buff written,
      writeLoop opts es flags (front ++ zeros n) front.length n len tlvs =
        some ⟨-1, buff, written⟩ := by
  induction es generalizing flags front n len tlvs with
  | nil => simp [selected, writeLoop, areaSize, layout]
  | cons e es ih =>
    simp only [List.mem_cons, forall_eq_or_imp] at henc
    rw [List.pairwise_cons] at hpair
    by_cases hflag : e.flag &&& flags = 0
    · have hsel : selected (e :: es) flags = selected es flags :=
        List.filter_cons_of_neg (by simp [hflag])
      have hloop : writeLoop opts (e :: es) flags (front ++ zeros n) front.length n len tlvs =
          writeLoop opts es flags (front ++ zeros n) front.length n len tlvs := by
        rw [writeLoop, if_pos hflag]
      rw [hsel, hloop]
      exact ih henc.2 hpair.2 flags front hn len tlvs
    · have hsel : selected (e :: es) flags = e :: selected es flags :=
        List.filter_cons_of_pos (by simp [hflag])
      rw [hsel]
      cases ht : entryTlv opts e with
      | none =>
        rw [if_neg (by simp [ht])]
        exact ⟨_, _, writeLoop_refuse henc.1 hflag hn (by simp [ht])⟩
      | some t =>
        by_cases hroom : t.size ≤ n
        · have hih := ih henc.2 hpair.2 (flags &&& ~~~e.flag) (front ++ encodeTlv t)
            (n := n - t.size) (by omega) (len + t.size) (tlvs ++ [⟨front.length, t.size⟩])
          rw [selected_clear flags hpair.1] at hih
          rw [writeLoop_append henc.1 hflag hn ht hroom]
          simp only [List.filterMap_cons_some ht, List.mem_cons, forall_eq_or_imp, ht,
            Option.isSome_some, true_and, areaSize_cons]
          by_cases hok : (∀ e ∈ selected es flags, (entryTlv opts e).isSome) ∧
              areaSize ((selected es flags).filterMap (entryTlv opts)) ≤ n - t.size
          · rw [if_pos hok] at hih
            rw [if_pos ⟨hok.1, by omega⟩, hih]
            simp only [List.flatMap_cons, List.append_assoc, List.length_append, encodeTlv_length,
              layout, Nat.sub_sub, Nat.cast_add, add_assoc, List.singleton_append]
          · rw [if_neg hok] at hih
            rw [if_neg (fun h => hok ⟨h.1, by omega⟩)]
            exact hih
        · rw [if_neg (by
            rw [List.filterMap_cons_some ht, areaSize_cons]
            omega)]
          refine ⟨_, _, writeLoop_refuse henc.1 hflag hn ?_⟩
          intro u hu
          obtain rfl := Option.some.inj (ht.symm.trans hu)
          omega

end Loop

def ConvertOpts.tlvs (opts : ConvertOpts) : List Tlv :=
  (selected converterTlvs opts.flags).filterMap (entryTlv opts)

def ConvertOpts.Supported (opts : ConvertOpts) : Prop :=
  convertFInfo &&& opts.flags = 0 ∧ convertFSupportedTcpExt &&& opts.flags = 0

instance (opts : ConvertOpts) : Decidable opts.Supported := inferInstanceAs (Decidable (_ ∧ _))

def ConvertOpts.need (opts : ConvertOpts) : ℕ := sizeofConvertHeader + areaSize opts.tlvs

lemma supported_iff (opts : ConvertOpts) :
    (∀ e ∈ selected converterTlvs opts.flags, (entryTlv opts e).isSome) ↔ opts.Supported := by
  simp only [selected, List.mem_filter, converterTlvs, List.mem_cons, List.not_mem_nil, or_false,
    decide_eq_true_eq, ConvertOpts.Supported]
  constructor
  · intro h
    refine ⟨?_, ?_⟩
    · by_contra hf
      exact absurd (h ⟨convertFInfo, convertInfo, convertWriteTlvNotSupp⟩ ⟨by simp, hf⟩)
        (by simp [entryTlv, convertInfo, convertConnect, convertExtendedTcpHdr, convertCookie,
          convertError])
    · by_contra hf
      exact absurd (h ⟨convertFSupportedTcpExt, convertSupportedTcpExt, convertWriteTlvNotSupp⟩
        ⟨by simp, hf⟩) (by simp [entryTlv, convertSupportedTcpExt, convertConnect,
          convertExtendedTcpHdr, convertCookie, convertError])
  · rintro ⟨hi, hs⟩ e ⟨he, hf⟩
    rcases he with rfl | rfl | rfl | rfl | rfl | rfl
    · exact (hf hi).elim
    · rfl
    · rfl
    · exact (hf hs).elim
    · rfl
    · rfl

lemma need_mod (opts : ConvertOpts) : opts.need % 4 = 0 := by
  have := areaSize_mod opts.tlvs
  simp only [ConvertOpts.need, sizeofConvertHeader]
  omega

def messageHeader (n : ℕ) : Bytes := [convertVersion, bytesToConvert n, 0x22, 0x63]

def finishWrite (w : WriteResult) : Option WriteResult :=
  if w.ret < 0 then some w
  else
    (store w.buff 1 [bytesToConvert (sizeT (sizeofConvertHeader + w.ret.toNat))]).map
      (fun written => ⟨ssizeT (sizeT (sizeofConvertHeader + w.ret.toNat)), written, w.tlvs⟩)

lemma convertWrite_loop {buff : Block} (h : 4 ≤ buff.size) (opts : ConvertOpts) :
    convertWrite buff opts =
      (writeLoop opts converterTlvs opts.flags
        ([convertVersion, 0, 0x22, 0x63] ++ zeros (buff.size - 4)) 4 (buff.size - 4) 0 []).bind
        finishWrite := by
  have hfits : buff.size < 2 ^ 63 := buff.fits
  have hsplit : zeros buff.size = [0] ++ ([0, 0, 0] ++ zeros (buff.size - 4)) := by
    have hsize : buff.size = 1 + (3 + (buff.size - 4)) := by omega
    conv_lhs => rw [hsize, zeros_add, zeros_add]
    rfl
  have hversion : store (zeros buff.size) 0 [convertVersion] =
      some ([convertVersion, 0] ++ [0, 0] ++ zeros (buff.size - 4)) := by
    have hs := store_front [] [0] ([0, 0, 0] ++ zeros (buff.size - 4)) [convertVersion] rfl
    simp only [List.nil_append, List.length_nil] at hs
    rw [← hsplit] at hs
    simpa using hs
  have hmagic : store ([convertVersion, 0] ++ [0, 0] ++ zeros (buff.size - 4)) 2
      (htons convertMagicNo) = some ([convertVersion, 0, 0x22, 0x63] ++ zeros (buff.size - 4)) :=
    store_front [convertVersion, 0] [0, 0] (zeros (buff.size - 4)) (htons convertMagicNo) rfl
  have hcount : sizeSub buff.size sizeofConvertHeader = buff.size - 4 :=
    sizeSub_of_le h (by omega)
  rw [convertWrite, if_neg (show ¬ buff.size < sizeofConvertHeader from not_lt.mpr h), hversion]
  simp only [Option.bind_eq_bind, Option.bind_some, hmagic, convertWriteTlvs, hcount]
  apply Option.bind_congr
  intro w _
  simp only [finishWrite, pure, Option.map_eq_bind, Function.comp_def]

lemma finishWrite_area {n total : ℕ} (hn : 4 + total ≤ n) (hlt : n < 2 ^ 63) (area : Bytes)
    (tlvs : List WrittenTlv) :
    finishWrite ⟨total, [convertVersion, 0, 0x22, 0x63] ++ area ++ zeros (n - 4 - total), tlvs⟩ =
      some ⟨((4 + total : ℕ) : ℤ), messageHeader (4 + total) ++ area ++ zeros (n - (4 + total)), tlvs⟩ := by
  have htotal : sizeT (sizeofConvertHeader + total) = 4 + total :=
    Nat.mod_eq_of_lt (by simp only [sizeofConvertHeader]; omega)
  have hlength := store_front [convertVersion] [0] ([0x22, 0x63] ++ area ++ zeros (n - 4 - total))
    [bytesToConvert (4 + total)] rfl
  have hassoc : [convertVersion, 0, 0x22, 0x63] ++ area ++ zeros (n - 4 - total) =
      [convertVersion] ++ [0] ++ ([0x22, 0x63] ++ area ++ zeros (n - 4 - total)) := by simp
  simp only [finishWrite, if_neg (show ¬ ((total : ℕ) : ℤ) < 0 by omega), Int.toNat_natCast, htotal,
    hassoc]
  rw [show (1 : ℕ) = [convertVersion].length from rfl, hlength, Option.map_some,
    ssizeT_of_lt (by omega)]
  simp [messageHeader, Nat.sub_sub]

lemma convertWrite_spec (buff : Block) (opts : ConvertOpts) :
    if opts.Supported ∧ opts.need ≤ buff.size then
      convertWrite buff opts = some ⟨opts.need,
        messageHeader opts.need ++ opts.tlvs.flatMap encodeTlv ++ zeros (buff.size - opts.need),
        layout 4 opts.tlvs⟩
    else ∃ w, convertWrite buff opts = some w ∧ w.ret = -1 := by
  have hfits : buff.size < 2 ^ 63 := buff.fits
  have hneed : opts.need = 4 + areaSize opts.tlvs := rfl
  by_cases hhead : buff.size < 4
  · rw [if_neg (by omega)]
    exact ⟨_, if_pos hhead, rfl⟩
  have hloop := writeLoop_spec (converterTlvs_encode opts) converterTlvs_flags opts.flags
    [convertVersion, 0, 0x22, 0x63] (n := buff.size - 4) (by omega) 0 []
  have harea : (selected converterTlvs opts.flags).filterMap (entryTlv opts) = opts.tlvs := rfl
  have hheader : [convertVersion, 0, 0x22, 0x63].length = 4 := rfl
  simp only [supported_iff, harea, hheader, zero_add, List.nil_append] at hloop
  rw [convertWrite_loop (not_lt.mp hhead)]
  by_cases hok : opts.Supported ∧ opts.need ≤ buff.size
  · rw [if_pos ⟨hok.1, by omega⟩] at hloop
    rw [if_pos hok, hloop, Option.bind_some, hneed]
    exact finishWrite_area (by omega) hfits _ _
  · rw [if_neg (fun h => hok ⟨h.1, by omega⟩)] at hloop
    obtain ⟨written, tlvs, hw⟩ := hloop
    rw [if_neg hok, hw]
    exact ⟨_, rfl, rfl⟩

end TransportConverter.Codec
