import TransportConverter.Codec.Acceptance
import TransportConverter.Codec.Writer

/-! What `convert_write` leaves in the buffer: the header, the selected TLVs in table order, zeros. -/

namespace TransportConverter.Codec

open Foundations.Memory Foundations.Records Wire

def padded (xs : Bytes) : Bytes := xs ++ zeros (paddingOf xs.length)

def Tlv.body : Tlv → Bytes
  | .connect port addr => port.toList ++ addr.toList
  | .extendedTcpHdr tcpOptions => zeros 2 ++ padded tcpOptions
  | .cookie opaqueBytes => zeros 2 ++ padded opaqueBytes
  | .error errorCode => [errorCode, 0]

def Tlv.size (t : Tlv) : ℕ := 2 + t.body.length

def encodeTlv (t : Tlv) : Bytes := t.type :: bytesToConvert t.size :: t.body

def areaSize (ts : List Tlv) : ℕ := (ts.map Tlv.size).sum

@[simp] lemma encodeTlv_length (t : Tlv) : (encodeTlv t).length = t.size := by
  simp only [encodeTlv, Tlv.size, List.length_cons]
  omega

lemma area_length (ts : List Tlv) : (ts.flatMap encodeTlv).length = areaSize ts := by
  simp [areaSize, List.length_flatMap]

lemma padded_length_mod (xs : Bytes) : (padded xs).length % 4 = 0 := by
  simp only [padded, List.length_append, zeros_length, paddingOf, convertPadding]
  omega

lemma size_mod (t : Tlv) : t.size % 4 = 0 := by
  cases t with
  | connect port addr => simp [Tlv.size, Tlv.body]
  | error errorCode => simp [Tlv.size, Tlv.body]
  | extendedTcpHdr xs | cookie xs =>
    have := padded_length_mod xs
    simp only [Tlv.size, Tlv.body, List.length_append, zeros_length]
    omega

lemma four_le_size (t : Tlv) : 4 ≤ t.size := by
  have := size_mod t
  have : 2 ≤ t.size := by simp [Tlv.size]
  omega

lemma areaSize_mod (ts : List Tlv) : areaSize ts % 4 = 0 := by
  induction ts with
  | nil => rfl
  | cons t ts ih =>
    have := size_mod t
    simp only [areaSize, List.map_cons, List.sum_cons] at ih ⊢
    omega

lemma size_le_areaSize {t : Tlv} {ts : List Tlv} (h : t ∈ ts) : t.size ≤ areaSize ts :=
  List.le_sum_of_mem (List.mem_map_of_mem h)

section Callbacks

def WritesTlv (cb : WriteCb) (opts : ConvertOpts) (t : Tlv) : Prop :=
  ∀ front n, n < 2 ^ 63 →
    (n < t.size → cb opts (front ++ zeros n) front.length n = some (-1, front ++ zeros n)) ∧
    (t.size ≤ n → cb opts (front ++ zeros n) front.length n =
      some ((t.size : ℤ), front ++ zeros 2 ++ t.body ++ zeros (n - t.size)))

variable (opts : ConvertOpts)

lemma ssizeT_of_lt {n : ℕ} (h : n < 2 ^ 63) : ssizeT n = n := if_pos h

lemma connect_writes : WritesTlv convertWriteTlvConnect opts
    (.connect opts.remoteAddr.sin6Port opts.remoteAddr.sin6Addr) := by
  intro front n hn
  have hsize : Tlv.size (.connect opts.remoteAddr.sin6Port opts.remoteAddr.sin6Addr) = 20 := by
    simp [Tlv.size, Tlv.body]
  rw [hsize]
  refine ⟨fun h => if_pos h, fun h => ?_⟩
  have haddr := store_zeros front opts.remoteAddr.sin6Addr.toList (k := 4) (n := n) (by simp; omega)
  have hport : store (front ++ zeros 4 ++ opts.remoteAddr.sin6Addr.toList ++ zeros (n - 4 - 16))
      (front.length + 2) opts.remoteAddr.sin6Port.toList =
        some (front ++ zeros 2 ++ opts.remoteAddr.sin6Port.toList ++
          (opts.remoteAddr.sin6Addr.toList ++ zeros (n - 4 - 16))) := by
    have hf := store_front (front ++ zeros 2) (zeros 2)
      (opts.remoteAddr.sin6Addr.toList ++ zeros (n - 4 - 16)) opts.remoteAddr.sin6Port.toList (by simp)
    rw [List.length_append, zeros_length, List.append_assoc front, ← zeros_add] at hf
    simpa only [List.append_assoc] using hf
  simp only [List.Vector.toList_length] at haddr
  simp only [convertWriteTlvConnect, convertAlign_connect, if_neg (not_lt.mpr h), haddr, hport,
    Option.bind_eq_bind, Option.bind_some, pure, Tlv.body, ssizeT_of_lt (show 20 < 2 ^ 63 by decide)]
  simp only [List.append_assoc, show n - 4 - 16 = n - 20 by omega]

lemma error_writes : WritesTlv convertWriteTlvError opts (.error opts.errorCode) := by
  intro front n hn
  have hsize : Tlv.size (.error opts.errorCode) = 4 := rfl
  rw [hsize]
  refine ⟨fun h => if_pos h, fun h => ?_⟩
  have hcode := store_zeros front [opts.errorCode] (k := 2) (n := n) (by simp; omega)
  have hrest : zeros (n - 2 - 1) = zeros 1 ++ zeros (n - 4) := by
    rw [← zeros_add]
    congr 1
    omega
  simp only [List.length_singleton, hrest] at hcode
  simp only [convertWriteTlvError, convertAlign_error, if_neg (not_lt.mpr h), hcode,
    Option.bind_eq_bind, Option.bind_some, pure, Tlv.body, ssizeT_of_lt (show 4 < 2 ^ 63 by decide)]
  simp [zeros]

lemma padded_size (data : Block) :
    convertAlign (sizeT (4 + data.size)) = 4 + (padded data.bytes).length := by
  have hfits := data.fits
  have hsize : sizeT (4 + data.size) = 4 + data.size := Nat.mod_eq_of_lt (by simp only [Block.size]; omega)
  rw [hsize, convertAlign_eq (by simp only [Block.size]; omega)]
  simp only [padded, Block.size, List.length_append, zeros_length, paddingOf, convertPadding]
  omega

lemma writePadded_eq (data : Block) (front : Bytes) {n : ℕ} (hn : n < 2 ^ 63) :
    writePadded 4 data (front ++ zeros n) front.length n =
      if n < 4 + (padded data.bytes).length then some (-1, front ++ zeros n)
      else some (((4 + (padded data.bytes).length : ℕ) : ℤ),
        front ++ zeros 4 ++ padded data.bytes ++ zeros (n - (4 + (padded data.bytes).length))) := by
  rw [writePadded, padded_size]
  by_cases h : n < 4 + (padded data.bytes).length
  · simp only [if_pos h]
  have hle : data.bytes.length ≤ (padded data.bytes).length := by simp [padded]
  have hset : store (front ++ zeros n) front.length
      (zeros (4 + (padded data.bytes).length)) = some (front ++ zeros n) := by
    have hz := store_zeros front (zeros (4 + (padded data.bytes).length)) (k := 0) (n := n)
      (by simp; omega)
    rw [zeros_length, Nat.sub_zero, List.append_assoc, List.append_assoc, ← zeros_add,
      Nat.add_sub_cancel' (by omega)] at hz
    exact hz
  have hdata := store_zeros front data.bytes (k := 4) (n := n) (by omega)
  have hrest : zeros (n - 4 - data.bytes.length) =
      zeros (paddingOf data.bytes.length) ++ zeros (n - (4 + (padded data.bytes).length)) := by
    rw [← zeros_add]
    congr 1
    simp only [padded, List.length_append, zeros_length] at h ⊢
    omega
  simp only [if_neg h, hset, hdata, Option.bind_eq_bind, Option.bind_some, pure,
    ssizeT_of_lt (show 4 + (padded data.bytes).length < 2 ^ 63 by omega), hrest]
  simp only [padded, List.append_assoc]

lemma padded_writes {cb : WriteCb} {t : Tlv} {data : Block} (hcb : cb opts = writePadded 4 data)
    (ht : t.body = zeros 2 ++ padded data.bytes) : WritesTlv cb opts t := by
  intro front n hn
  have hsize : t.size = 4 + (padded data.bytes).length := by
    simp only [Tlv.size, ht, List.length_append, zeros_length]
    omega
  rw [hcb, writePadded_eq data front hn, hsize, ht]
  refine ⟨fun h => if_pos h, fun h => ?_⟩
  rw [if_neg (not_lt.mpr h)]
  rw [show zeros 4 = zeros 2 ++ zeros 2 from rfl]
  simp only [List.append_assoc]

end Callbacks

end TransportConverter.Codec
