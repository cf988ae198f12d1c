import TransportConverter.Codec.Grammar

/-! `convert_parse_tlvs` accepts the grammar and nothing else, and returns the right-biased fold. -/

namespace TransportConverter.Codec

open Foundations.Memory Foundations.Loops Foundations.Records Wire

section Runs

variable {malloc : Allocator} {front rest : Bytes} {c : Cursor}

lemma Cursor.At.advance (hc : c.At front rest) {n : ℕ} (hn : n ≤ rest.length) (opts : ConvertOpts)
    (mallocs : ℕ) : Cursor.At ⟨c.pos + n, sizeSub c.buffLen n, opts, mallocs⟩ (front ++ rest.take n)
      (rest.drop n) := by
  have hl := hc.buffLen
  have hfits := hc.fits
  refine ⟨?_, ?_, ?_⟩
  · simp [hc.pos, min_eq_left hn]
  · simp only [List.length_drop]
    rw [sizeSub_of_le (by omega) (by omega), hl]
  · simp only [List.length_drop]
    omega

lemma four_octets (h : 4 ≤ rest.length) :
    ∃ type length b₂ b₃ tail, rest = type :: length :: b₂ :: b₃ :: tail := by
  rcases rest with _ | ⟨type, _ | ⟨length, _ | ⟨b₂, _ | ⟨b₃, tail⟩⟩⟩⟩
  all_goals try (simp at h; done)
  exact ⟨type, length, b₂, b₃, tail, rfl⟩

lemma convertToBytes_pos {length : UInt8} (h : length ≠ 0) : 4 ≤ convertToBytes length := by
  have hpos : length.toNat ≠ 0 := fun h0 => h (UInt8.toNat_inj.mp h0)
  simp only [convertToBytes, convertPadding]
  omega

lemma parseBody_cut (hc : c.At front rest) (h4 : 4 ≤ tlvFormat.size rest)
    (hle : tlvFormat.size rest ≤ rest.length) :
    parseBody malloc (front ++ rest) c =
      match readTlv (rest.take (tlvFormat.size rest)) with
      | some t =>
        if t.granted malloc c.mallocs then
          .again ⟨c.pos + tlvFormat.size rest, sizeSub c.buffLen (tlvFormat.size rest),
            c.opts.assign t, c.mallocs + t.requests⟩
        else .done .null
      | none => .done .null := by
  obtain ⟨type, length, b₂, b₃, tail, rfl⟩ := four_octets (h4.trans hle)
  rw [tlvFormat_size] at h4 hle ⊢
  obtain ⟨k, hk⟩ : ∃ k, convertToBytes length = 4 + k := ⟨convertToBytes length - 4, by omega⟩
  have hktail : k ≤ tail.length := by simp only [List.length_cons] at hle; omega
  have htail : tail = tail.take k ++ tail.drop k := (List.take_append_drop k tail).symm
  have hcase : parseCase malloc _ c type (convertToBytes length) = _ :=
    parseCase_record hc htail (by rw [hk, List.length_take, min_eq_left hktail])
  have htake : (type :: length :: b₂ :: b₃ :: tail).take (convertToBytes length) =
      type :: length :: b₂ :: b₃ :: tail.take k := by rw [hk, Nat.add_comm]; rfl
  rw [parseBody_header hc, if_neg (not_lt.mpr hle), hcase, htake]
  cases readTlv (type :: length :: b₂ :: b₃ :: tail.take k) with
  | none => rfl
  | some t =>
    dsimp only
    split_ifs <;> rfl

def ZeroError (rest : Bytes) : Prop :=
  4 ≤ rest.length ∧ rest.getD 0 0 = convertError ∧ lengthOctet rest = 0

lemma zeroError_not_area {ts : List Tlv} (hz : ZeroError rest) (h : TlvArea rest ts) : False := by
  obtain ⟨h4, -, hlength⟩ := hz
  have hne : rest ≠ [] := by
    rintro rfl
    exact absurd h4 (by decide)
  have hsize := ((decodes_cut hne).mp h).1
  rw [show tlvFormat.size rest = convertToBytes (lengthOctet rest) from rfl, hlength] at hsize
  exact absurd hsize (by decide)

lemma parseBody_zeroError (malloc : Allocator) (hc : c.At front rest) (hz : ZeroError rest) :
    ∃ c', parseBody malloc (front ++ rest) c = .again c' ∧ c'.At front rest := by
  obtain ⟨h4, htype, hlength⟩ := hz
  obtain ⟨type, length, b₂, b₃, tail, rfl⟩ := four_octets h4
  obtain rfl : type = convertError := htype
  obtain rfl : length = 0 := hlength
  have hcase : parseCase malloc (front ++ convertError :: 0 :: b₂ :: b₃ :: tail) c convertError 0 =
      .accept (c.opts.setError b₂) c.mallocs := by rw [parseCase, if_pos rfl, parseError_eq hc]
  refine ⟨⟨c.pos + 0, sizeSub c.buffLen 0, c.opts.setError b₂, c.mallocs⟩, ?_, ?_⟩
  · rw [parseBody_header hc, show convertToBytes 0 = 0 from rfl, if_neg (Nat.not_lt_zero _), hcase]
  · simpa using hc.advance (Nat.zero_le _) (c.opts.setError b₂) c.mallocs

lemma parseBody_other (hc : c.At front rest) (hne : rest ≠ []) (hz : ¬ ZeroError rest)
    (hno : ¬ (4 ≤ tlvFormat.size rest ∧ tlvFormat.size rest ≤ rest.length ∧
      ∃ t, readTlv (rest.take (tlvFormat.size rest)) = some t ∧ t.granted malloc c.mallocs = true)) :
    parseBody malloc (front ++ rest) c = .done .null ∨
      parseBody malloc (front ++ rest) c = .done .undefined ∧ ¬ malloc.RefusesHuge := by
  by_cases h4 : rest.length < 4
  · exact Or.inl (parseBody_short hc hne h4)
  by_cases hover : rest.length < tlvFormat.size rest
  · left
    obtain ⟨type, length, b₂, b₃, tail, rfl⟩ := four_octets (not_lt.mp h4)
    rw [parseBody_header hc]
    exact if_pos hover
  by_cases hsize : 4 ≤ tlvFormat.size rest
  · left
    rw [parseBody_cut hc hsize (not_lt.mp hover)]
    cases ht : readTlv (rest.take (tlvFormat.size rest)) with
    | none => rfl
    | some t =>
      cases hg : t.granted malloc c.mallocs with
      | false => simp [hg]
      | true => exact (hno ⟨hsize, not_lt.mp hover, t, ht, hg⟩).elim
  · obtain ⟨type, length, b₂, b₃, tail, rfl⟩ := four_octets (not_lt.mp h4)
    have hlength : length = 0 := by
      by_contra hpos
      exact hsize (convertToBytes_pos hpos)
    subst hlength
    have htype : type ≠ convertError := fun he => hz ⟨by simp, he, rfl⟩
    rw [parseBody_header hc, show convertToBytes 0 = 0 from rfl, if_neg (Nat.not_lt_zero _)]
    rcases parseCase_zero malloc hc htype with hcase | ⟨hcase, hhuge⟩
    · exact Or.inl (by rw [hcase])
    · exact Or.inr ⟨by rw [hcase], hhuge⟩

lemma parseBody_record (hc : c.At front rest) {t : Tlv} (h4 : 4 ≤ tlvFormat.size rest)
    (hle : tlvFormat.size rest ≤ rest.length)
    (ht : readTlv (rest.take (tlvFormat.size rest)) = some t)
    (hg : t.granted malloc c.mallocs = true) :
    ∃ c', parseBody malloc (front ++ rest) c = .again c' ∧ c'.opts = c.opts.assign t ∧
      c'.mallocs = c.mallocs + t.requests ∧
      c'.At (front ++ rest.take (tlvFormat.size rest)) (rest.drop (tlvFormat.size rest)) := by
  refine ⟨_, ?_, rfl, rfl, hc.advance hle (c.opts.assign t) (c.mallocs + t.requests)⟩
  rw [parseBody_cut hc h4 hle, ht]
  exact if_pos hg

lemma parseBody_again {c' : Cursor} (hc : c.At front rest)
    (hb : parseBody malloc (front ++ rest) c = .again c') :
    (ZeroError rest ∧ c'.At front rest) ∨
    (4 ≤ tlvFormat.size rest ∧ tlvFormat.size rest ≤ rest.length ∧
      ∃ t, readTlv (rest.take (tlvFormat.size rest)) = some t ∧ t.granted malloc c.mallocs = true ∧
        c'.mallocs = c.mallocs + t.requests ∧ c'.opts = c.opts.assign t ∧
        c'.At (front ++ rest.take (tlvFormat.size rest)) (rest.drop (tlvFormat.size rest))) := by
  by_cases hne : rest = []
  · subst hne
    rw [parseBody_end hc] at hb
    cases hb
  by_cases hz : ZeroError rest
  · obtain ⟨c'', hb', hc'⟩ := parseBody_zeroError malloc hc hz
    obtain rfl := Turn.again.inj (hb.symm.trans hb')
    exact Or.inl ⟨hz, hc'⟩
  · right
    by_contra hrec
    have hno : ¬ (4 ≤ tlvFormat.size rest ∧ tlvFormat.size rest ≤ rest.length ∧
        ∃ t, readTlv (rest.take (tlvFormat.size rest)) = some t ∧
          t.granted malloc c.mallocs = true) := by
      rintro ⟨h4, hle, t, ht, hg⟩
      obtain ⟨c'', hb', hopts, hmallocs, hc'⟩ := parseBody_record hc h4 hle ht hg
      obtain rfl := Turn.again.inj (hb.symm.trans hb')
      exact hrec ⟨h4, hle, t, ht, hg, hmallocs, hopts, hc'⟩
    rcases parseBody_other hc hne hz hno with hb' | ⟨hb', -⟩ <;>
    · rw [hb] at hb'
      cases hb'

lemma parseBody_isRecord {f : Bytes} {t : Tlv} (hc : c.At front (f ++ rest)) (hf : tlvFormat.IsRecord f)
    (ht : readTlv f = some t) (hg : t.granted malloc c.mallocs = true) :
    ∃ c', parseBody malloc (front ++ (f ++ rest)) c = .again c' ∧ c'.opts = c.opts.assign t ∧
      c'.mallocs = c.mallocs + t.requests ∧ c'.At (front ++ f) rest := by
  have hsize := hf.size_append rest
  obtain ⟨c', hb, hopts, hmallocs, hc'⟩ := parseBody_record hc (t := t) (by rw [hsize]; exact hf.1)
    (by rw [hsize]; simp) (by rwa [hsize, List.take_left]) hg
  rw [hsize, List.take_left, List.drop_left] at hc'
  exact ⟨c', hb, hopts, hmallocs, hc'⟩

lemma parse_returns_of_area {ts : List Tlv} (h : TlvArea rest ts) (hc : c.At front rest)
    (hgrants : malloc.GrantsTlvs c.mallocs ts) :
    Returns (parseBody malloc (front ++ rest)) c (.opts (ts.foldl ConvertOpts.assign c.opts)) := by
  induction h generalizing front c with
  | nil => exact .done (parseBody_end hc)
  | @cons f rest t ts hf ht _ ih =>
    obtain ⟨c', hb, hopts, hmallocs, hc'⟩ := parseBody_isRecord hc hf ht hgrants.1
    have hr := ih hc' (hmallocs ▸ hgrants.2)
    rw [hopts, List.append_assoc] at hr
    exact hr.again hb

lemma parseBody_done {r : ParseResult} (hc : c.At front rest)
    (hb : parseBody malloc (front ++ rest) c = .done r) :
    (rest = [] ∧ r = .opts c.opts) ∨ r = .null ∨ r = .undefined ∧ ¬ malloc.RefusesHuge := by
  by_cases hne : rest = []
  · subst hne
    rw [parseBody_end hc] at hb
    exact Or.inl ⟨rfl, (Turn.done.inj hb).symm⟩
  right
  by_cases hz : ZeroError rest
  · obtain ⟨c', hb', -⟩ := parseBody_zeroError malloc hc hz
    rw [hb] at hb'
    cases hb'
  by_cases hrec : 4 ≤ tlvFormat.size rest ∧ tlvFormat.size rest ≤ rest.length ∧
      ∃ t, readTlv (rest.take (tlvFormat.size rest)) = some t ∧ t.granted malloc c.mallocs = true
  · obtain ⟨h4, hle, t, ht, hg⟩ := hrec
    obtain ⟨c', hb', -⟩ := parseBody_record hc h4 hle ht hg
    rw [hb] at hb'
    cases hb'
  · rcases parseBody_other hc hne hz hrec with hb' | ⟨hb', hhuge⟩
    · exact Or.inl (Turn.done.inj (hb.symm.trans hb'))
    · exact Or.inr ⟨Turn.done.inj (hb.symm.trans hb'), hhuge⟩

lemma area_of_parse_returns {buff : Bytes} {r : ParseResult} (hr : Returns (parseBody malloc buff) c r)
    (hbuff : buff = front ++ rest) (hc : c.At front rest) :
    r = .null ∨ (r = .undefined ∧ ¬ malloc.RefusesHuge) ∨
      ∃ ts, TlvArea rest ts ∧ malloc.GrantsTlvs c.mallocs ts := by
  induction hr using Returns.induction generalizing front rest with
  | done c r hb =>
    subst hbuff
    rcases parseBody_done hc hb with ⟨rfl, -⟩ | hnull | hund
    · exact Or.inr (Or.inr ⟨[], .nil, trivial⟩)
    · exact Or.inl hnull
    · exact Or.inr (Or.inl hund)
  | again c c'' r hb _ ih =>
    subst hbuff
    rcases parseBody_again hc hb with ⟨hz, hc'⟩ | ⟨h4, hle, t, ht, hg, hmallocs, -, hc'⟩
    · rcases ih rfl hc' with hnull | hund | ⟨ts, hts, -⟩
      · exact Or.inl hnull
      · exact Or.inr (Or.inl hund)
      · exact (zeroError_not_area hz hts).elim
    · rcases ih (by rw [List.append_assoc, List.take_append_drop]) hc' with hnull | hund | ⟨ts, hts, hgs⟩
      · exact Or.inl hnull
      · exact Or.inr (Or.inl hund)
      · have hne : rest ≠ [] := by
          rintro rfl
          simp only [List.length_nil] at hle
          omega
        exact Or.inr (Or.inr ⟨t :: ts, (decodes_cut hne).mpr ⟨h4, hle, t, ts, rfl, ht, hts⟩, hg,
          hmallocs ▸ hgs⟩)

end Runs

lemma cursor_start (buff : Block) : (Cursor.start buff).At [] buff.bytes :=
  ⟨rfl, rfl, buff.fits⟩

lemma parseReturns_iff {malloc : Allocator} (hcalloc : malloc 0 sizeofConvertOpts = true) {buff : Block}
    (hne : buff.bytes ≠ []) {r : ParseResult} :
    ParseReturns malloc buff r ↔ Returns (parseBody malloc buff.bytes) (.start buff) r := by
  have hsize : buff.size ≠ 0 := by simpa [Block.size] using hne
  have hcalloc : ¬ malloc 0 sizeofConvertOpts = false := by
    rw [hcalloc]
    simp
  simp only [ParseReturns, convertParseTlvs, if_neg hsize, if_neg hcalloc, Returns]

lemma parseReturns_of_granted {malloc : Allocator} (hcalloc : malloc 0 sizeofConvertOpts = true)
    {buff : Block} (hne : buff.bytes ≠ []) {ts : List Tlv} (h : TlvArea buff.bytes ts)
    (hgrants : malloc.GrantsTlvs 1 ts) :
    ParseReturns malloc buff (.opts (ts.foldl ConvertOpts.assign .zero)) :=
  (parseReturns_iff hcalloc hne).mpr (parse_returns_of_area h (cursor_start buff) hgrants)

lemma readTlv_granted {malloc : Allocator} (hgrants : malloc.Grants 1016) {f : Bytes} {t : Tlv}
    (hf : tlvFormat.IsRecord f) (ht : readTlv f = some t) (i : ℕ) : t.granted malloc i = true := by
  obtain ⟨type, length, b₂, b₃, body, rfl⟩ := four_octets hf.1
  have hlen : convertToBytes length = body.length + 4 := hf.2
  have hgrant : malloc i body.length = true :=
    hgrants _ _ (by have := convertToBytes_le length; omega)
  simp only [readTlv] at ht
  split_ifs at ht <;> cases ht <;> simp [Tlv.granted, Tlv.copied, hgrant]

lemma grantsTlvs_of_grants {malloc : Allocator} (hgrants : malloc.Grants 1016) {b : Bytes}
    {ts : List Tlv} (h : TlvArea b ts) (i : ℕ) : malloc.GrantsTlvs i ts := by
  induction h generalizing i with
  | nil => trivial
  | cons hf ht _ ih => exact ⟨readTlv_granted hgrants hf ht i, ih _⟩

lemma parseReturns_of_area {malloc : Allocator} (hgrants : malloc.Grants 1016) {buff : Block}
    (hne : buff.bytes ≠ []) {ts : List Tlv} (h : TlvArea buff.bytes ts) :
    ParseReturns malloc buff (.opts (ts.foldl ConvertOpts.assign .zero)) :=
  parseReturns_of_granted (hgrants 0 _ (by decide)) hne h (grantsTlvs_of_grants hgrants h 1)

lemma starts_of_parse {malloc : Allocator} {buff : Block} {r : ParseResult}
    (h : ParseReturns malloc buff r) (hr : r ≠ .null) :
    buff.bytes ≠ [] ∧ malloc 0 sizeofConvertOpts = true := by
  obtain ⟨fuel, hf⟩ := h
  have hsize : buff.size ≠ 0 := by
    intro hempty
    rw [convertParseTlvs, if_pos hempty] at hf
    exact hr (Option.some.inj hf).symm
  refine ⟨fun hempty => hsize (by rw [Block.size, hempty]; rfl), ?_⟩
  by_contra hnone
  rw [convertParseTlvs, if_neg hsize, if_pos (Bool.not_eq_true _ ▸ hnone)] at hf
  exact hr (Option.some.inj hf).symm

lemma area_of_opts {malloc : Allocator} {buff : Block} {opts : ConvertOpts}
    (h : ParseReturns malloc buff (.opts opts)) :
    buff.bytes ≠ [] ∧ malloc 0 sizeofConvertOpts = true ∧
      ∃ ts, TlvArea buff.bytes ts ∧ malloc.GrantsTlvs 1 ts ∧ opts = ts.foldl ConvertOpts.assign .zero := by
  obtain ⟨hne, hcalloc⟩ := starts_of_parse h (by simp)
  have hr := (parseReturns_iff hcalloc hne).mp h
  rcases area_of_parse_returns hr (List.nil_append _).symm (cursor_start buff) with
    hnull | ⟨hund, -⟩ | ⟨ts, hts, hgrants⟩
  · cases hnull
  · cases hund
  · have hfold : ParseResult.opts opts = .opts (ts.foldl ConvertOpts.assign .zero) :=
      returns_unique hr (parse_returns_of_area hts (cursor_start buff) hgrants)
    exact ⟨hne, hcalloc, ts, hts, hgrants, ParseResult.opts.inj hfold⟩

lemma not_parseReturns_undefined {malloc : Allocator} (hhuge : malloc.RefusesHuge) {buff : Block} :
    ¬ ParseReturns malloc buff .undefined := by
  intro h
  obtain ⟨hne, hcalloc⟩ := starts_of_parse h (by simp)
  have hr := (parseReturns_iff hcalloc hne).mp h
  rcases area_of_parse_returns hr (List.nil_append _).symm (cursor_start buff) with
    hnull | ⟨-, hnot⟩ | ⟨ts, hts, hgrants⟩
  · cases hnull
  · exact hnot hhuge
  · cases returns_unique hr (parse_returns_of_area hts (cursor_start buff) hgrants)

lemma parseReturns_unique {malloc : Allocator} {buff : Block} {r r' : ParseResult}
    (h : ParseReturns malloc buff r) (h' : ParseReturns malloc buff r') : r = r' := by
  obtain ⟨m, hm⟩ := h
  obtain ⟨n, hn⟩ := h'
  simp only [convertParseTlvs] at hm hn
  split at hm
  · rename_i h0
    rw [if_pos h0] at hn
    exact Option.some.inj (hm.symm.trans hn)
  · rename_i h0
    rw [if_neg h0] at hn
    split at hm
    · rename_i h1
      rw [if_pos h1] at hn
      exact Option.some.inj (hm.symm.trans hn)
    · rename_i h1
      rw [if_neg h1] at hn
      exact returns_unique ⟨m, hm⟩ ⟨n, hn⟩

end TransportConverter.Codec
