import TransportConverter.Codec.ParserCorrect

/-! What an accepted TLV area is, octet by octet, and what the parser makes of it. -/

namespace TransportConverter.Codec

open Foundations.Memory Foundations.Loops Foundations.Records Wire

def typeOctet (f : Bytes) : UInt8 := f.getD 0 0

def IsTlv (f : Bytes) : Prop :=
  1 ≤ (lengthOctet f).toNat ∧ f.length = 4 * (lengthOctet f).toNat ∧
    (typeOctet f = convertConnect ∧ (lengthOctet f).toNat = 5 ∨ typeOctet f = convertExtendedTcpHdr ∨
      typeOctet f = convertCookie ∨ typeOctet f = convertError)

def IsTlvArea (b : Bytes) (fs : List Bytes) : Prop :=
  fs ≠ [] ∧ b = fs.flatten ∧ ∀ f ∈ fs, IsTlv f

def foldTlvs (fs : List Bytes) : ConvertOpts :=
  (fs.filterMap readTlv).foldl ConvertOpts.assign .zero

def flagOf (type : UInt8) : UInt8 :=
  if type = convertConnect then convertFConnect
  else if type = convertExtendedTcpHdr then convertFExtendedTcpHdr
  else if type = convertCookie then convertFCookie
  else if type = convertError then convertFError
  else 0

def LastOfType (fs : List Bytes) (type : UInt8) (f : Bytes) : Prop :=
  ∃ before after, fs = before ++ f :: after ∧ typeOctet f = type ∧ ∀ g ∈ after, typeOctet g ≠ type

structure RightBiased (fs : List Bytes) (opts : ConvertOpts) : Prop where
  flags : opts.flags = fs.foldl (fun flags f => flags ||| flagOf (typeOctet f)) 0
  connect : ∀ f, LastOfType fs convertConnect f →
    opts.remoteAddr.sin6Port.toList = (f.drop 2).take 2 ∧ opts.remoteAddr.sin6Addr.toList = f.drop 4
  extendedTcpHdr : ∀ f, LastOfType fs convertExtendedTcpHdr f → opts.tcpOptions.bytes = f.drop 4
  cookie : ∀ f, LastOfType fs convertCookie f → opts.cookieData.bytes = f.drop 4
  error : ∀ f, LastOfType fs convertError f → f[2]? = some opts.errorCode
  noConnect : (∀ f ∈ fs, typeOctet f ≠ convertConnect) → opts.remoteAddr = .zero
  noExtendedTcpHdr : (∀ f ∈ fs, typeOctet f ≠ convertExtendedTcpHdr) → opts.tcpOptions = .empty
  noCookie : (∀ f ∈ fs, typeOctet f ≠ convertCookie) → opts.cookieData = .empty
  noError : (∀ f ∈ fs, typeOctet f ≠ convertError) → opts.errorCode = 0

def Tlv.type : Tlv → UInt8
  | .connect _ _ => convertConnect
  | .extendedTcpHdr _ => convertExtendedTcpHdr
  | .cookie _ => convertCookie
  | .error _ => convertError

lemma flagOf_type (t : Tlv) : flagOf t.type = t.flag := by
  cases t <;> rfl

def Tlv.Describes (f : Bytes) : Tlv → Prop
  | .connect port addr => port.toList = (f.drop 2).take 2 ∧ addr.toList = f.drop 4
  | .extendedTcpHdr tcpOptions => tcpOptions = f.drop 4
  | .cookie opaqueBytes => opaqueBytes = f.drop 4
  | .error errorCode => f[2]? = some errorCode

lemma readTlv_describes {f : Bytes} {t : Tlv} (h : readTlv f = some t) :
    t.type = typeOctet f ∧ t.Describes f := by
  rcases f with _ | ⟨type, _ | ⟨length, _ | ⟨b₂, _ | ⟨b₃, body⟩⟩⟩⟩
  all_goals try (simp [readTlv] at h; done)
  simp only [readTlv] at h
  split at h
  · rename_i he
    obtain rfl := Option.some.inj h
    exact ⟨he.symm, rfl⟩
  split at h
  · rename_i hcon
    split at h
    · obtain rfl := Option.some.inj h
      exact ⟨hcon.symm, rfl, rfl⟩
    · cases h
  split at h
  · rename_i hx
    obtain rfl := Option.some.inj h
    exact ⟨hx.symm, rfl⟩
  split at h
  · rename_i hk
    obtain rfl := Option.some.inj h
    exact ⟨hk.symm, rfl⟩
  · cases h

lemma isTlv_iff (f : Bytes) : IsTlv f ↔ tlvFormat.IsRecord f ∧ ∃ t, readTlv f = some t := by
  have hbound := (lengthOctet f).toNat_lt
  constructor
  · rintro ⟨h1, hlen, htype⟩
    refine ⟨⟨by change 4 ≤ _; omega, ?_⟩, ?_⟩
    · change convertToBytes (lengthOctet f) = f.length
      simp only [convertToBytes, convertPadding]
      omega
    · obtain ⟨type, length, b₂, b₃, body, rfl⟩ := four_octets (show 4 ≤ f.length by omega)
      rcases htype with ⟨hcon, h5⟩ | hx | hk | he
      · obtain rfl : type = convertConnect := hcon
        rw [h5] at hlen
        have h16 : body.length = 16 := by simp only [List.length_cons] at hlen; omega
        exact ⟨.connect ⟨[b₂, b₃], rfl⟩ ⟨body, h16⟩, by simp [readTlv, h16, convertConnect, convertError]⟩
      · obtain rfl : type = convertExtendedTcpHdr := hx
        exact ⟨_, rfl⟩
      · obtain rfl : type = convertCookie := hk
        exact ⟨_, rfl⟩
      · obtain rfl : type = convertError := he
        exact ⟨_, rfl⟩
  · rintro ⟨⟨h4, hsize⟩, t, ht⟩
    change 4 ≤ f.length at h4
    change convertToBytes (lengthOctet f) = f.length at hsize
    simp only [convertToBytes, convertPadding] at hsize
    obtain ⟨htype, hd⟩ := readTlv_describes ht
    refine ⟨by omega, by omega, ?_⟩
    cases t with
    | connect port addr =>
      have hl : addr.toList.length = (f.drop 4).length := by rw [hd.2]
      simp only [List.Vector.toList_length, List.length_drop] at hl
      exact Or.inl ⟨htype.symm, by omega⟩
    | extendedTcpHdr _ => exact Or.inr (Or.inl htype.symm)
    | cookie _ => exact Or.inr (Or.inr (Or.inl htype.symm))
    | error _ => exact Or.inr (Or.inr (Or.inr htype.symm))

lemma readTlv_of_isTlv {fs : List Bytes} (h : ∀ f ∈ fs, IsTlv f) :
    fs.map readTlv = (fs.filterMap readTlv).map some := by
  induction fs with
  | nil => rfl
  | cons f fs ih =>
    simp only [List.mem_cons, forall_eq_or_imp] at h
    obtain ⟨t, ht⟩ := ((isTlv_iff f).mp h.1).2
    simp only [List.map_cons, ht, List.filterMap_cons_some ht, ih h.2]

lemma tlvArea_iff {b : Bytes} {ts : List Tlv} :
    TlvArea b ts ↔ ∃ fs : List Bytes, b = fs.flatten ∧ (∀ f ∈ fs, IsTlv f) ∧ ts = fs.filterMap readTlv := by
  refine decodes_iff_records.trans ⟨?_, ?_⟩
  · rintro ⟨fs, hb, hrec, hmap⟩
    have htlv : ∀ f ∈ fs, IsTlv f := by
      intro f hf
      have hm : readTlv f ∈ ts.map some := by
        rw [← hmap]
        exact List.mem_map_of_mem hf
      obtain ⟨t, _, ht⟩ := List.mem_map.mp hm
      exact (isTlv_iff f).mpr ⟨hrec f hf, t, ht.symm⟩
    refine ⟨fs, hb, htlv, ?_⟩
    rw [readTlv_of_isTlv htlv] at hmap
    exact (List.map_injective_iff.mpr (Option.some_injective _) hmap).symm
  · rintro ⟨fs, hb, htlv, rfl⟩
    exact ⟨fs, hb, fun f hf => ((isTlv_iff f).mp (htlv f hf)).1, readTlv_of_isTlv htlv⟩

section Fold

variable {γ : Type} (field : ConvertOpts → γ)

lemma fold_untouched {fs : List Bytes} (opts : ConvertOpts)
    (h : ∀ f ∈ fs, ∀ t, readTlv f = some t → ∀ o : ConvertOpts, field (o.assign t) = field o) :
    field ((fs.filterMap readTlv).foldl ConvertOpts.assign opts) = field opts := by
  induction fs generalizing opts with
  | nil => rfl
  | cons f fs ih =>
    simp only [List.mem_cons, forall_eq_or_imp] at h
    cases ht : readTlv f with
    | none => simpa only [List.filterMap_cons_none ht] using ih opts h.2
    | some t =>
      simp only [List.filterMap_cons_some ht, List.foldl_cons]
      rw [ih _ h.2, h.1 t ht]

lemma fold_last {fs : List Bytes} {type : UInt8} {f : Bytes} {t : Tlv}
    (hlast : LastOfType fs type f) (ht : readTlv f = some t)
    (hother : ∀ u : Tlv, u.type ≠ type → ∀ o : ConvertOpts, field (o.assign u) = field o) :
    ∃ o : ConvertOpts, field (foldTlvs fs) = field (o.assign t) := by
  obtain ⟨before, after, rfl, -, hafter⟩ := hlast
  refine ⟨(before.filterMap readTlv).foldl ConvertOpts.assign .zero, ?_⟩
  simp only [foldTlvs, List.filterMap_append, List.filterMap_cons_some ht, List.foldl_append,
    List.foldl_cons]
  apply fold_untouched
  intro g hg u hu
  apply hother
  rw [(readTlv_describes hu).1]
  exact hafter g hg

lemma fold_absent {fs : List Bytes} {type : UInt8} (habsent : ∀ f ∈ fs, typeOctet f ≠ type)
    (hother : ∀ u : Tlv, u.type ≠ type → ∀ o : ConvertOpts, field (o.assign u) = field o) :
    field (foldTlvs fs) = field .zero := by
  apply fold_untouched
  intro f hf t ht
  apply hother
  rw [(readTlv_describes ht).1]
  exact habsent f hf

end Fold

lemma connect_only (u : Tlv) (h : u.type ≠ convertConnect) (o : ConvertOpts) :
    (o.assign u).remoteAddr = o.remoteAddr := by
  cases u with
  | connect _ _ => exact (h rfl).elim
  | extendedTcpHdr _ | cookie _ | error _ => rfl

lemma extendedTcpHdr_only (u : Tlv) (h : u.type ≠ convertExtendedTcpHdr) (o : ConvertOpts) :
    (o.assign u).tcpOptions = o.tcpOptions := by
  cases u with
  | extendedTcpHdr _ => exact (h rfl).elim
  | connect _ _ | cookie _ | error _ => rfl

lemma cookie_only (u : Tlv) (h : u.type ≠ convertCookie) (o : ConvertOpts) :
    (o.assign u).cookieData = o.cookieData := by
  cases u with
  | cookie _ => exact (h rfl).elim
  | connect _ _ | extendedTcpHdr _ | error _ => rfl

lemma error_only (u : Tlv) (h : u.type ≠ convertError) (o : ConvertOpts) :
    (o.assign u).errorCode = o.errorCode := by
  cases u with
  | error _ => exact (h rfl).elim
  | connect _ _ | extendedTcpHdr _ | cookie _ => rfl

lemma fold_flags {fs : List Bytes} (h : ∀ f ∈ fs, IsTlv f) (opts : ConvertOpts) :
    ((fs.filterMap readTlv).foldl ConvertOpts.assign opts).flags =
      fs.foldl (fun flags f => flags ||| flagOf (typeOctet f)) opts.flags := by
  induction fs generalizing opts with
  | nil => rfl
  | cons f fs ih =>
    simp only [List.mem_cons, forall_eq_or_imp] at h
    obtain ⟨t, ht⟩ := ((isTlv_iff f).mp h.1).2
    simp only [List.filterMap_cons_some ht, List.foldl_cons]
    rw [ih h.2, assign_flags, ← flagOf_type, (readTlv_describes ht).1]

lemma lastOfType_read {fs : List Bytes} (h : ∀ f ∈ fs, IsTlv f) {type : UInt8} {f : Bytes}
    (hlast : LastOfType fs type f) :
    ∃ t, readTlv f = some t ∧ t.type = type ∧ t.Describes f ∧ f.length ≤ 1020 := by
  obtain ⟨before, after, hfs, htype, -⟩ := hlast
  have htlv := h f (by simp [hfs])
  obtain ⟨-, t, ht⟩ := (isTlv_iff f).mp htlv
  have hbound := (lengthOctet f).toNat_lt
  have hlen := htlv.2.1
  exact ⟨t, ht, (readTlv_describes ht).1.trans htype, (readTlv_describes ht).2, by omega⟩

lemma foldTlvs_rightBiased {fs : List Bytes} (h : ∀ f ∈ fs, IsTlv f) :
    RightBiased fs (foldTlvs fs) where
  flags := fold_flags h .zero
  connect f hlast := by
    obtain ⟨t, ht, htype, hd, -⟩ := lastOfType_read h hlast
    obtain ⟨o, ho⟩ := fold_last ConvertOpts.remoteAddr hlast ht connect_only
    cases t with
    | connect port addr => rw [ho]; exact hd
    | extendedTcpHdr _ | cookie _ | error _ =>
      simp [Tlv.type, convertConnect, convertExtendedTcpHdr, convertCookie, convertError] at htype
  extendedTcpHdr f hlast := by
    obtain ⟨t, ht, htype, hd, hlen⟩ := lastOfType_read h hlast
    obtain ⟨o, ho⟩ := fold_last ConvertOpts.tcpOptions hlast ht extendedTcpHdr_only
    cases t with
    | extendedTcpHdr tcpOptions =>
      obtain rfl : tcpOptions = f.drop 4 := hd
      rw [ho]
      exact Block.ofBytes_bytes (by rw [List.length_drop]; omega)
    | connect _ _ | cookie _ | error _ =>
      simp [Tlv.type, convertConnect, convertExtendedTcpHdr, convertCookie, convertError] at htype
  cookie f hlast := by
    obtain ⟨t, ht, htype, hd, hlen⟩ := lastOfType_read h hlast
    obtain ⟨o, ho⟩ := fold_last ConvertOpts.cookieData hlast ht cookie_only
    cases t with
    | cookie opaqueBytes =>
      obtain rfl : opaqueBytes = f.drop 4 := hd
      rw [ho]
      exact Block.ofBytes_bytes (by rw [List.length_drop]; omega)
    | connect _ _ | extendedTcpHdr _ | error _ =>
      simp [Tlv.type, convertConnect, convertExtendedTcpHdr, convertCookie, convertError] at htype
  error f hlast := by
    obtain ⟨t, ht, htype, hd, -⟩ := lastOfType_read h hlast
    obtain ⟨o, ho⟩ := fold_last ConvertOpts.errorCode hlast ht error_only
    cases t with
    | error errorCode => rw [ho]; exact hd
    | connect _ _ | extendedTcpHdr _ | cookie _ =>
      simp [Tlv.type, convertConnect, convertExtendedTcpHdr, convertCookie, convertError] at htype
  noConnect habsent := fold_absent ConvertOpts.remoteAddr habsent connect_only
  noExtendedTcpHdr habsent := fold_absent ConvertOpts.tcpOptions habsent extendedTcpHdr_only
  noCookie habsent := fold_absent ConvertOpts.cookieData habsent cookie_only
  noError habsent := fold_absent ConvertOpts.errorCode habsent error_only

theorem convertParseTlvs_grammar (malloc : Allocator) (hgrants : malloc.Grants 1016)
    (hhuge : malloc.RefusesHuge) (buff : Block) (r : ParseResult)
    (hr : ParseReturns malloc buff r) :
    (r ≠ .null ↔ ∃ fs, IsTlvArea buff.bytes fs) ∧
      ∀ fs, IsTlvArea buff.bytes fs → r = .opts (foldTlvs fs) ∧ RightBiased fs (foldTlvs fs) := by
  have hfold : ∀ fs, IsTlvArea buff.bytes fs → r = .opts (foldTlvs fs) := by
    rintro fs ⟨hne, hb, htlv⟩
    have hbne : buff.bytes ≠ [] := by
      obtain ⟨f, fs, rfl⟩ := List.exists_cons_of_ne_nil hne
      have hf := htlv f (by simp)
      intro h0
      simp only [hb, List.flatten_cons, List.append_eq_nil_iff] at h0
      have hl0 : f.length = 0 := by rw [h0.1]; rfl
      have h1 := hf.1
      have hlen := hf.2.1
      omega
    exact parseReturns_unique hr
      (parseReturns_of_area hgrants hbne (tlvArea_iff.mpr ⟨fs, hb, htlv, rfl⟩))
  refine ⟨⟨?_, ?_⟩, fun fs hfs => ⟨hfold fs hfs, foldTlvs_rightBiased hfs.2.2⟩⟩
  · intro hnull
    by_cases hbne : buff.bytes = []
    · obtain ⟨fuel, hf⟩ := hr
      rw [convertParseTlvs, if_pos (by rw [Block.size, hbne]; rfl)] at hf
      exact (hnull (Option.some.inj hf).symm).elim
    · have hret := (parseReturns_iff (hgrants 0 _ (by decide)) hbne).mp hr
      rcases area_of_parse_returns hret (List.nil_append _).symm (cursor_start buff)
        with h | ⟨-, hhuge'⟩ | ⟨ts, hts, -⟩
      · exact (hnull h).elim
      · exact (hhuge' hhuge).elim
      · obtain ⟨fs, hb, htlv, -⟩ := tlvArea_iff.mp hts
        refine ⟨fs, ?_, hb, htlv⟩
        rintro rfl
        exact hbne hb
  · rintro ⟨fs, hfs⟩
    rw [hfold fs hfs]
    simp

def repeatedErrors : Block := ⟨[0x1e, 1, 7, 0, 0x1e, 1, 9, 0], by decide⟩

theorem convertParseTlvs_grammar_repeatedErrors :
    ParseReturns grantingMalloc repeatedErrors (.opts { ConvertOpts.zero with flags := 32, errorCode := 9 }) ∧
      ∃ fs, IsTlvArea repeatedErrors.bytes fs := by
  have hr : ParseReturns grantingMalloc repeatedErrors
      (.opts { ConvertOpts.zero with flags := 32, errorCode := 9 }) := ⟨3, by decide⟩
  exact ⟨hr, (convertParseTlvs_grammar grantingMalloc grantingMalloc_grants
    grantingMalloc_refusesHuge repeatedErrors _ hr).1.mp (by simp)⟩

end TransportConverter.Codec
