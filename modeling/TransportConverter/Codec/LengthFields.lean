import TransportConverter.Codec.RoundTrip

/-! When the length octets of a written message are true. -/

namespace TransportConverter.Codec

open Foundations.Memory Wire

def WriteResult.LengthsTruthful (w : WriteResult) : Prop :=
  0 ≤ w.ret →
    (∃ totalLength, w.buff[1]? = some totalLength ∧ (convertToBytes totalLength : ℤ) = w.ret) ∧
      ∀ t ∈ w.tlvs, ∃ length, w.buff[t.offset + 1]? = some length ∧ convertToBytes length = t.bytes

lemma need_eq (opts : ConvertOpts) :
    opts.need = 4 + (if Flagged opts convertFConnect then 20 else 0) +
      (if Flagged opts convertFExtendedTcpHdr then
        4 + opts.tcpOptions.size + paddingOf opts.tcpOptions.size else 0) +
      (if Flagged opts convertFCookie then
        4 + opts.cookieData.size + paddingOf opts.cookieData.size else 0) +
      (if Flagged opts convertFError then 4 else 0) := by
  have hpart : ∀ (p : Prop) [Decidable p] (t : Tlv) (n : ℕ), t.size = n →
      ((tlvIf p t).map Tlv.size).sum = if p then n else 0 := by
    intro p _ t n ht
    by_cases hp : p <;> simp [tlvIf, hp, ht]
  have hpadded : ∀ data : Block,
      2 + (zeros 2 ++ padded data.bytes).length = 4 + data.size + paddingOf data.size := by
    intro data
    simp only [padded, Block.size, List.length_append, zeros_length]
    omega
  rw [ConvertOpts.need, tlvs_eq]
  simp only [areaSize, List.map_append, List.sum_append]
  rw [hpart _ (.connect _ _) 20 (by simp [Tlv.size, Tlv.body]),
    hpart _ (.extendedTcpHdr _) _ (hpadded opts.tcpOptions),
    hpart _ (.cookie _) _ (hpadded opts.cookieData), hpart _ (.error _) 4 rfl]
  simp only [sizeofConvertHeader, Nat.add_assoc]

def LengthFieldsTruthful (buff : Block) (opts : ConvertOpts) : Prop :=
  ∃ w, convertWrite buff opts = some w ∧ w.LengthsTruthful ∧ (1020 < opts.need → w.ret < 0)

lemma layout_lengths (front rest : Bytes) (ts : List Tlv) :
    ∀ t ∈ layout front.length ts, ∃ u ∈ ts, t.bytes = u.size ∧
      (front ++ ts.flatMap encodeTlv ++ rest)[t.offset + 1]? = some (bytesToConvert u.size) := by
  induction ts generalizing front with
  | nil => simp [layout]
  | cons u us ih =>
    intro t ht
    simp only [layout, List.mem_cons] at ht
    rcases ht with rfl | ht
    · refine ⟨u, by simp, rfl, ?_⟩
      rw [List.append_assoc, getElem?_behind]
      rfl
    · have hlen : front.length + u.size = (front ++ encodeTlv u).length := by simp
      rw [hlen] at ht
      obtain ⟨v, hv, hbytes, hget⟩ := ih (front ++ encodeTlv u) t ht
      refine ⟨v, List.mem_cons_of_mem u hv, hbytes, ?_⟩
      simpa only [List.flatMap_cons, List.append_assoc] using hget

lemma truthful_of_short {buff : Block} {opts : ConvertOpts} {w : WriteResult}
    (hw : convertWrite buff opts = some w) (hn : opts.need ≤ 1020) : w.LengthsTruthful := by
  intro h0
  obtain ⟨-, -, hret, hbuff, htlvs⟩ := written_message hw h0
  have hneed : opts.need = 4 + areaSize opts.tlvs := rfl
  refine ⟨⟨bytesToConvert opts.need, ?_, ?_⟩, ?_⟩
  · rw [hbuff]
    rfl
  · rw [hret, convertToBytes_bytesToConvert (need_mod opts) hn]
  · intro t ht
    rw [htlvs] at ht
    obtain ⟨u, hu, hbytes, hget⟩ := layout_lengths (messageHeader opts.need)
      (zeros (buff.size - opts.need)) opts.tlvs t ht
    have := size_le_areaSize hu
    refine ⟨_, by rw [hbuff]; exact hget, ?_⟩
    rw [hbytes, convertToBytes_bytesToConvert (size_mod u) (by omega)]

lemma lengthFields_iff (buff : Block) (opts : ConvertOpts) :
    LengthFieldsTruthful buff opts ↔
      ¬ opts.Supported ∨ buff.size < opts.need ∨ opts.need ≤ 1020 := by
  have hspec := convertWrite_spec buff opts
  by_cases hok : opts.Supported ∧ opts.need ≤ buff.size
  · rw [if_pos hok] at hspec
    constructor
    · rintro ⟨w, hw, -, hlong⟩
      obtain rfl := Option.some.inj (hspec.symm.trans hw)
      dsimp only at hlong
      omega
    · intro h
      have hn : opts.need ≤ 1020 := by
        rcases h with h | h | h
        · exact (h hok.1).elim
        · omega
        · exact h
      exact ⟨_, hspec, truthful_of_short hspec hn, fun hlong => by omega⟩
  · rw [if_neg hok] at hspec
    obtain ⟨w, hw, hret⟩ := hspec
    refine ⟨fun _ => ?_, fun _ => ⟨w, hw, fun h0 => by omega, fun _ => by omega⟩⟩
    by_cases hs : opts.Supported
    · exact Or.inr (Or.inl (by
        by_contra hlt
        exact hok ⟨hs, not_lt.mp hlt⟩))
    · exact Or.inl hs

end TransportConverter.Codec
