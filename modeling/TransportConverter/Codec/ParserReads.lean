import TransportConverter.Foundations.Watched
import TransportConverter.Codec.ParserEnds

/-! `convert_parse_tlvs` with every octet it reads. -/

namespace TransportConverter.Codec

open Foundations Foundations.Memory Foundations.Loops Foundations.Records Foundations.Watched Wire

section Cases

variable (malloc : Allocator) (buff : Bytes) (c : Cursor)

def readError : Watched CaseResult :=
  if c.buffLen < convertAlign sizeofConvertError then pure .reject
  else do
    let errorCode ← element buff (c.pos + 2)
    pure (.accept (c.opts.setError errorCode) c.mallocs)

/-- The length octet is read a second time here. -/
def readConnect : Watched CaseResult :=
  if c.buffLen < convertAlign sizeofConvertConnect then pure .reject
  else do
    let length ← element buff (c.pos + 1)
    if convertToBytes length ≠ convertAlign sizeofConvertConnect then pure .reject
    else do
      let remoteAddr ← octets 16 buff (c.pos + 4)
      let remotePort ← octets 2 buff (c.pos + 2)
      pure (.accept (c.opts.setConnect remotePort remoteAddr) c.mallocs)

def readExtendedTcpHdr (tlvLen : ℕ) : Watched CaseResult :=
  let tcpOptionsLen := sizeSub tlvLen sizeofConvertExtendedTcpHdr
  if c.buffLen < convertAlign sizeofConvertExtendedTcpHdr then pure .reject
  else if malloc c.mallocs tcpOptionsLen = false then pure .reject
  else do
    let tcpOptions ← copy buff (c.pos + 4) tcpOptionsLen
    pure (.accept (c.opts.setExtendedTcpHdr tcpOptions) (c.mallocs + 1))

def readCookie (tlvLen : ℕ) : Watched CaseResult :=
  let cookieLen := sizeSub tlvLen sizeofConvertCookie
  if malloc c.mallocs cookieLen = false then pure .reject
  else do
    let opaqueBytes ← copy buff (c.pos + 4) cookieLen
    pure (.accept (c.opts.setCookie opaqueBytes) (c.mallocs + 1))

def readCase (type : UInt8) (tlvLen : ℕ) : Watched CaseResult :=
  if type = convertError then readError buff c
  else if type = convertConnect then readConnect buff c
  else if type = convertExtendedTcpHdr then readExtendedTcpHdr malloc buff c tlvLen
  else if type = convertCookie then readCookie malloc buff c tlvLen
  else pure .reject

def Cursor.after (c : Cursor) (tlvLen : ℕ) : CaseResult → Turn Cursor ParseResult
  | .accept opts mallocs => .again ⟨c.pos + tlvLen, sizeSub c.buffLen tlvLen, opts, mallocs⟩
  | .reject => .done .null
  | .undefined => .done .undefined

def readBody : Watched (Turn Cursor ParseResult) :=
  if c.buffLen = 0 then pure (.done (.opts c.opts))
  else if c.buffLen < convertAlign sizeofConvertTlv then pure (.done .null)
  else do
    let length ← element buff (c.pos + 1)
    let tlvLen := convertToBytes length
    if c.buffLen < tlvLen then pure (.done .null)
    else do
      let type ← element buff c.pos
      let result ← readCase malloc buff c type tlvLen
      pure (c.after tlvLen result)

end Cases

section Erasure

variable {malloc : Allocator} {buff : Bytes} {c : Cursor} {type length : UInt8} {tlvLen : ℕ}

lemma readError_erase : (readError buff c).value.getD .undefined = parseError buff c := by
  unfold readError parseError
  split_ifs
  · rfl
  · cases h : buff[c.pos + 2]? <;> simp [h]

lemma readConnect_erase (hlength : buff[c.pos + 1]? = some length) :
    (readConnect buff c).value.getD .undefined = parseConnect buff c (convertToBytes length) := by
  unfold readConnect parseConnect
  by_cases hshort : c.buffLen < convertAlign sizeofConvertConnect
  · rw [if_pos hshort, if_pos hshort]
    rfl
  rw [if_neg hshort, if_neg hshort, value_bind, value_element, hlength, Option.bind_some]
  by_cases hsize : convertToBytes length ≠ convertAlign sizeofConvertConnect
  · rw [if_pos hsize, if_pos hsize]
    rfl
  rw [if_neg hsize, if_neg hsize]
  cases hport : loadOctets 2 buff (c.pos + 2) <;> cases haddr : loadOctets 16 buff (c.pos + 4) <;>
    simp [hport, haddr]

lemma readExtendedTcpHdr_erase :
    (readExtendedTcpHdr malloc buff c tlvLen).value.getD .undefined =
      parseExtendedTcpHdr malloc buff c tlvLen := by
  unfold readExtendedTcpHdr parseExtendedTcpHdr
  dsimp only
  split_ifs
  · rfl
  · rfl
  · cases h : load buff (c.pos + 4) (sizeSub tlvLen sizeofConvertExtendedTcpHdr) <;> simp [h]

lemma readCookie_erase :
    (readCookie malloc buff c tlvLen).value.getD .undefined = parseCookie malloc buff c tlvLen := by
  unfold readCookie parseCookie
  dsimp only
  split_ifs
  · rfl
  · cases h : load buff (c.pos + 4) (sizeSub tlvLen sizeofConvertCookie) <;> simp [h]

lemma readCase_erase (hlength : buff[c.pos + 1]? = some length) :
    (readCase malloc buff c type (convertToBytes length)).value.getD .undefined =
      parseCase malloc buff c type (convertToBytes length) := by
  unfold readCase parseCase
  split_ifs
  · exact readError_erase
  · exact readConnect_erase hlength
  · exact readExtendedTcpHdr_erase
  · exact readCookie_erase
  · rfl

lemma readBody_erase : (readBody malloc buff c).value.getD (.done .undefined) = parseBody malloc buff c := by
  unfold readBody parseBody
  split_ifs
  · rfl
  · rfl
  cases hlength : buff[c.pos + 1]? with
  | none =>
    rw [value_bind, value_element, hlength]
    cases buff[c.pos]? <;> rfl
  | some length =>
    have hin : c.pos + 1 < buff.length := (List.getElem?_eq_some_iff.mp hlength).1
    obtain ⟨type, htype⟩ : ∃ type, buff[c.pos]? = some type :=
      ⟨_, List.getElem?_eq_getElem (by omega)⟩
    rw [value_bind, value_element, hlength, htype, Option.bind_some]
    dsimp only
    split_ifs
    · rfl
    rw [value_bind, value_element, htype, Option.bind_some, value_bind, ← readCase_erase hlength]
    cases (readCase malloc buff c type (convertToBytes length)).value with
    | none => rfl
    | some result => cases result <;> rfl

end Erasure

section Reads

variable {malloc : Allocator} {buff : Block} {c c' : Cursor} {length : UInt8} {i n : ℕ}

def Placed (buff : Block) (c : Cursor) : Prop := c.pos + c.buffLen = buff.size

lemma placed_start (buff : Block) : Placed buff (.start buff) := Nat.zero_add _

lemma copy_inside (hhuge : malloc.RefusesHuge) (hgrant : malloc i (sizeSub (convertToBytes length) 4) ≠ false)
    (hle : convertToBytes length ≤ n) : 4 + sizeSub (convertToBytes length) 4 ≤ n := by
  have hle' := convertToBytes_le length
  have hfour : 4 ≤ convertToBytes length := by
    apply convertToBytes_pos
    rintro rfl
    exact hgrant (hhuge i _ (by decide))
  rw [sizeSub_of_le hfour (by omega)]
  omega

lemma readCase_within (hhuge : malloc.RefusesHuge) (hc : Placed buff c) (hfour : 4 ≤ c.buffLen)
    (hle : convertToBytes length ≤ c.buffLen) (type : UInt8) :
    Within buff.size (readCase malloc buff.bytes c type (convertToBytes length)) := by
  have hplace : c.pos + c.buffLen = buff.size := hc
  unfold readCase
  split_ifs
  · unfold readError
    split_ifs
    · exact within_pure _
    · refine within_bind.mpr ⟨within_element.mpr (by omega), fun _ _ => within_pure _⟩
  · unfold readConnect
    split_ifs with hshort
    · exact within_pure _
    rw [convertAlign_connect] at hshort
    refine within_bind.mpr ⟨within_element.mpr (by omega), fun length _ => ?_⟩
    split_ifs
    · exact within_pure _
    refine within_bind.mpr ⟨within_octets (by omega), fun _ _ => ?_⟩
    exact within_bind.mpr ⟨within_octets (by omega), fun _ _ => within_pure _⟩
  · unfold readExtendedTcpHdr
    dsimp only
    split_ifs with _ hgrant
    · exact within_pure _
    · exact within_pure _
    have hcopy := copy_inside hhuge hgrant hle
    refine within_bind.mpr ⟨within_copy ?_, fun _ _ => within_pure _⟩
    simp only [sizeofConvertExtendedTcpHdr]
    omega
  · unfold readCookie
    dsimp only
    split_ifs with hgrant
    · exact within_pure _
    have hcopy := copy_inside hhuge hgrant hle
    refine within_bind.mpr ⟨within_copy ?_, fun _ _ => within_pure _⟩
    simp only [sizeofConvertCookie]
    omega
  · exact within_pure _

lemma readBody_within (hhuge : malloc.RefusesHuge) (hc : Placed buff c) :
    Within buff.size (readBody malloc buff.bytes c) := by
  have hplace : c.pos + c.buffLen = buff.size := hc
  unfold readBody
  split_ifs with _ hshort
  · exact within_pure _
  · exact within_pure _
  rw [convertAlign_tlv] at hshort
  refine within_bind.mpr ⟨within_element.mpr (by omega), fun length _ => ?_⟩
  dsimp only
  split_ifs with hle
  · exact within_pure _
  refine within_bind.mpr ⟨within_element.mpr (by omega), fun type _ => ?_⟩
  refine within_bind.mpr ⟨readCase_within hhuge hc (by omega) (by omega) type, fun _ _ => within_pure _⟩

lemma parseBody_takes {b : Bytes} (h : parseBody malloc b c = .again c') :
    ∃ length, b[c.pos + 1]? = some length ∧ convertToBytes length ≤ c.buffLen ∧
      c'.pos = c.pos + convertToBytes length ∧ c'.buffLen = sizeSub c.buffLen (convertToBytes length) := by
  unfold parseBody at h
  split_ifs at h
  split at h
  · rename_i type length _ hlength
    dsimp only at h
    split_ifs at h with hle
    split at h
    · cases h
      exact ⟨length, hlength, by omega, rfl, rfl⟩
    · cases h
    · cases h
  · cases h

lemma Placed.again (hc : Placed buff c) (h : parseBody malloc buff.bytes c = .again c') : Placed buff c' := by
  obtain ⟨length, -, hle, hpos, hleft⟩ := parseBody_takes h
  have hplace : c.pos + c.buffLen = buff.size := hc
  have hfits : buff.size < 2 ^ 63 := buff.fits
  show c'.pos + c'.buffLen = buff.size
  rw [hpos, hleft, sizeSub_of_le hle (by omega)]
  omega

/-- An iteration reads no octet outside the buffer, does what the parser does with those it reads, and takes
off no more than is left. -/
structure Safe (malloc : Allocator) (buff : Block) (c : Cursor) : Prop where
  reads : ∀ i ∈ (readBody malloc buff.bytes c).reads, i < buff.size
  value : (readBody malloc buff.bytes c).value = some (parseBody malloc buff.bytes c)
  subtracts : ∀ c', parseBody malloc buff.bytes c = .again c' →
    ∃ length, buff.bytes[c.pos + 1]? = some length ∧ convertToBytes length ≤ c.buffLen ∧
      c'.buffLen = c.buffLen - convertToBytes length

lemma Placed.at (hc : Placed buff c) : c.At (buff.bytes.take c.pos) (buff.bytes.drop c.pos) := by
  have hplace : c.pos + c.buffLen = buff.bytes.length := hc
  have hfits := buff.fits
  refine ⟨?_, ?_, ?_⟩
  · rw [List.length_take]
    omega
  · rw [List.length_drop]
    omega
  · rw [List.length_drop]
    omega

lemma Placed.defined (hhuge : malloc.RefusesHuge) (hc : Placed buff c) :
    parseBody malloc buff.bytes c ≠ .done .undefined := by
  intro hundefined
  rw [← List.take_append_drop c.pos buff.bytes] at hundefined
  rcases parseBody_done hc.at hundefined with ⟨-, hr⟩ | hr | ⟨-, hno⟩
  · cases hr
  · cases hr
  · exact hno hhuge

lemma Placed.safe (hhuge : malloc.RefusesHuge) (hc : Placed buff c) : Safe malloc buff c := by
  refine ⟨readBody_within hhuge hc, ?_, fun c' hb => ?_⟩
  · have herase : (readBody malloc buff.bytes c).value.getD (.done .undefined) =
        parseBody malloc buff.bytes c := readBody_erase
    cases hvalue : (readBody malloc buff.bytes c).value with
    | none =>
      rw [hvalue] at herase
      exact (hc.defined hhuge herase.symm).elim
    | some turn =>
      rw [hvalue] at herase
      exact congrArg some herase
  · obtain ⟨length, hlength, hle, -, hleft⟩ := parseBody_takes hb
    have hplace : c.pos + c.buffLen = buff.size := hc
    have hfits : buff.size < 2 ^ 63 := buff.fits
    refine ⟨length, hlength, hle, ?_⟩
    rw [hleft, sizeSub_of_le hle (by omega)]

theorem convertParseTlvs_safe (malloc : Allocator) (hhuge : malloc.RefusesHuge) (buff : Block) (c : Cursor)
    (hreach : Reaches (parseBody malloc buff.bytes) (.start buff) c) : Safe malloc buff c :=
  Placed.safe hhuge (hreach.invariant (fun _ _ => Placed.again) (placed_start buff))

def zeroCookie : Block := ⟨[0x16, 0, 0, 0], by decide⟩

theorem convertParseTlvs_safe_zeroCookie :
    Safe grantingMalloc zeroCookie (.start zeroCookie) ∧
      (readBody grantingMalloc zeroCookie.bytes (.start zeroCookie)).reads = [1, 0] :=
  ⟨convertParseTlvs_safe grantingMalloc grantingMalloc_refusesHuge zeroCookie _ .refl, by decide⟩

end Reads

end TransportConverter.Codec
