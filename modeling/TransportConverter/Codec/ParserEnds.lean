import TransportConverter.Codec.Acceptance

/-! Which buffers `convert_parse_tlvs` comes to an end on. -/

namespace TransportConverter.Codec

open Foundations.Memory Foundations.Loops Foundations.Records Wire

/-- The loop leaves with `NULL` or options, and no turn that goes on leaves as much as it found. -/
def Ends (malloc : Allocator) (buff : Block) : Prop :=
  (∃ r, ParseReturns malloc buff r ∧ r ≠ .undefined) ∧
    (malloc 0 sizeofConvertOpts = true → ∀ c c', Reaches (parseBody malloc buff.bytes) (.start buff) c →
      parseBody malloc buff.bytes c = .again c' → c'.buffLen < c.buffLen)

def Stalls (malloc : Allocator) (i : ℕ) (b : Bytes) : Prop :=
  ∃ front ts tail, b = front ++ tail ∧ TlvArea front ts ∧ malloc.GrantsTlvs i ts ∧ ZeroError tail

variable {malloc : Allocator} {front rest : Bytes} {c c' : Cursor} {buff : Block}

lemma ZeroError.stalls (h : ZeroError rest) (i : ℕ) : Stalls malloc i rest :=
  ⟨[], [], rest, rfl, .nil, trivial, h⟩

lemma Stalls.behind {i : ℕ} {t : Tlv} (h4 : 4 ≤ tlvFormat.size rest)
    (hle : tlvFormat.size rest ≤ rest.length)
    (ht : readTlv (rest.take (tlvFormat.size rest)) = some t) (hg : t.granted malloc i = true)
    (h : Stalls malloc (i + t.requests) (rest.drop (tlvFormat.size rest))) : Stalls malloc i rest := by
  obtain ⟨front, ts, tail, hdrop, hts, hgs, hz⟩ := h
  have hrest : rest = rest.take (tlvFormat.size rest) ++ front ++ tail := by
    rw [List.append_assoc, ← hdrop, List.take_append_drop]
  exact ⟨_, t :: ts, tail, hrest, .cons (tlvFormat.isRecord_take h4 hle) ht hts, ⟨hg, hgs⟩, hz⟩

def Progressing (malloc : Allocator) (buff : Bytes) (c : Cursor) : Prop :=
  ∃ front rest, buff = front ++ rest ∧ c.At front rest ∧ ¬ Stalls malloc c.mallocs rest

lemma Progressing.again {b : Bytes} (h : Progressing malloc b c)
    (hb : parseBody malloc b c = .again c') : Progressing malloc b c' ∧ c'.buffLen < c.buffLen := by
  obtain ⟨front, rest, rfl, hc, hstalls⟩ := h
  rcases parseBody_again hc hb with ⟨hz, -⟩ | ⟨h4, hle, t, ht, hg, hmallocs, -, hc'⟩
  · exact (hstalls (hz.stalls _)).elim
  · refine ⟨⟨_, _, ?_, hc', fun h => hstalls (.behind h4 hle ht hg (hmallocs ▸ h))⟩, ?_⟩
    · rw [List.append_assoc, List.take_append_drop]
    · rw [hc'.buffLen, hc.buffLen, List.length_drop]
      omega

lemma Progressing.returns (hhuge : malloc.RefusesHuge) {b : Bytes} (h : Progressing malloc b c) :
    ∃ r, Returns (parseBody malloc b) c r ∧ r ≠ .undefined := by
  apply returns_of_decreases (Progressing malloc b) Cursor.buffLen _ h
  intro c h
  cases hb : parseBody malloc b c with
  | again c' => exact Or.inr ⟨c', rfl, h.again hb⟩
  | done r =>
    obtain ⟨front, rest, rfl, hc, -⟩ := h
    refine Or.inl ⟨r, rfl, ?_⟩
    rintro rfl
    rcases parseBody_done hc hb with ⟨-, hr⟩ | hr | ⟨-, hno⟩
    · cases hr
    · cases hr
    · exact hno hhuge

lemma Stalls.diverges (h : Stalls malloc c.mallocs rest) (hc : c.At front rest) :
    Diverges (parseBody malloc (front ++ rest)) c := by
  obtain ⟨area, ts, tail, rfl, hts, hgs, hz⟩ := h
  induction hts generalizing front c with
  | nil =>
    refine diverges_of_stays (fun c => c.At front ([] ++ tail)) (fun c hc => ?_) hc
    exact parseBody_zeroError malloc hc hz
  | @cons f rest t ts hf ht _ ih =>
    rw [List.append_assoc] at hc ⊢
    obtain ⟨c', hb, -, hmallocs, hc'⟩ := parseBody_isRecord hc hf ht hgs.1
    have hdiv := ih hc' (hmallocs ▸ hgs.2)
    rw [List.append_assoc] at hdiv
    exact hdiv.again hb

lemma Stalls.ne_nil {i : ℕ} {b : Bytes} (h : Stalls malloc i b) : b ≠ [] := by
  obtain ⟨front, ts, tail, rfl, -, -, h4, -⟩ := h
  intro hnil
  rw [(List.append_eq_nil_iff.mp hnil).2] at h4
  exact absurd h4 (by decide)

lemma Stalls.not_ends (hcalloc : malloc 0 sizeofConvertOpts = true) (h : Stalls malloc 1 buff.bytes) :
    ¬ Ends malloc buff := by
  rintro ⟨⟨r, hr, -⟩, -⟩
  have hreturns := (parseReturns_iff hcalloc h.ne_nil).mp hr
  exact diverges_iff.mp (Stalls.diverges h (cursor_start buff)) r hreturns

lemma ends_of_not_stalls (hhuge : malloc.RefusesHuge)
    (h : malloc 0 sizeofConvertOpts = true → ¬ Stalls malloc 1 buff.bytes) : Ends malloc buff := by
  have hstart : malloc 0 sizeofConvertOpts = true → Progressing malloc buff.bytes (.start buff) :=
    fun hcalloc => ⟨[], buff.bytes, rfl, cursor_start buff, h hcalloc⟩
  refine ⟨?_, fun hcalloc c c' hreach hb => ?_⟩
  · by_cases hne : buff.bytes = []
    · have hsize : buff.size = 0 := by rw [Block.size, hne]; rfl
      exact ⟨.null, ⟨0, if_pos hsize⟩, by simp⟩
    cases hcalloc : malloc 0 sizeofConvertOpts with
    | false => exact ⟨.null, ⟨0, by simp [convertParseTlvs, hcalloc]⟩, by simp⟩
    | true =>
      obtain ⟨r, hr, hdefined⟩ := (hstart hcalloc).returns hhuge
      exact ⟨r, (parseReturns_iff hcalloc hne).mpr hr, hdefined⟩
  · have hc := hreach.invariant (fun _ _ hs ht => (hs.again ht).1) (hstart hcalloc)
    exact (hc.again hb).2

theorem convertParseTlvs_ends_iff (malloc : Allocator) (hhuge : malloc.RefusesHuge) (buff : Block) :
    Ends malloc buff ↔ ¬ (malloc 0 sizeofConvertOpts = true ∧ Stalls malloc 1 buff.bytes) :=
  ⟨fun h hstalls => hstalls.2.not_ends hstalls.1 h,
    fun h => ends_of_not_stalls hhuge fun hcalloc hstalls => h ⟨hcalloc, hstalls⟩⟩

theorem convertParseTlvs_ends_repeatedErrors : Ends grantingMalloc repeatedErrors := by
  apply (convertParseTlvs_ends_iff grantingMalloc grantingMalloc_refusesHuge repeatedErrors).mpr
  rintro ⟨-, hstalls⟩
  have hr : ParseReturns grantingMalloc repeatedErrors
      (.opts { ConvertOpts.zero with flags := 32, errorCode := 9 }) := ⟨3, by decide⟩
  have hdiv := Stalls.diverges hstalls (cursor_start repeatedErrors)
  exact diverges_iff.mp hdiv _ ((parseReturns_iff rfl hstalls.ne_nil).mp hr)

def zeroError : Block := ⟨[0x1e, 0, 0, 0], by decide⟩

/-- Four octets from the peer, and `connect` never comes back. -/
theorem zeroError_not_ends :
    ¬ Ends grantingMalloc zeroError ∧ ¬ ∃ r, ParseReturns grantingMalloc zeroError r := by
  have hz : ZeroError zeroError.bytes := ⟨by decide, rfl, rfl⟩
  have hstalls : Stalls grantingMalloc 1 zeroError.bytes := hz.stalls 1
  refine ⟨hstalls.not_ends rfl, ?_⟩
  rintro ⟨r, hr⟩
  exact diverges_iff.mp (Stalls.diverges hstalls (cursor_start zeroError)) r
    ((parseReturns_iff rfl hstalls.ne_nil).mp hr)

end TransportConverter.Codec
