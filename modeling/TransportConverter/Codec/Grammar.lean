import TransportConverter.Foundations.Records
import TransportConverter.Codec.Parser

/-! The parse loop against the grammar of TLV areas: records of `4 * L` octets laid end to end. -/

namespace TransportConverter.Codec

open Foundations.Memory Foundations.Loops Foundations.Records Wire

def lengthOctet (f : Bytes) : UInt8 := f.getD 1 0

def tlvFormat : Format UInt8 where
  head := 4
  size f := convertToBytes (lengthOctet f)
  size_append xs ys h := by
    simp only [lengthOctet, List.getD_eq_getElem?_getD, List.getElem?_append_left (show 1 < xs.length by omega)]

def readTlv : Bytes → Option Tlv
  | type :: _ :: b₂ :: b₃ :: body =>
    if type = convertError then some (.error b₂)
    else if type = convertConnect then
      if h : body.length = 16 then some (.connect (twoOctets b₂ b₃) ⟨body, h⟩) else none
    else if type = convertExtendedTcpHdr then some (.extendedTcpHdr body)
    else if type = convertCookie then some (.cookie body)
    else none
  | _ => none

abbrev TlvArea (b : Bytes) (ts : List Tlv) : Prop := Decodes tlvFormat readTlv b ts

/-- Whether the parser gets the memory it keeps `t` in, when it has made `i` requests before. -/
def Tlv.granted (malloc : Allocator) (i : ℕ) (t : Tlv) : Bool := t.copied.all (malloc i)

def Tlv.requests (t : Tlv) : ℕ := t.copied.toList.length

def Allocator.GrantsTlvs (malloc : Allocator) : ℕ → List Tlv → Prop
  | _, [] => True
  | i, t :: ts => t.granted malloc i = true ∧ malloc.GrantsTlvs (i + t.requests) ts

lemma tlvFormat_size (type length b₂ b₃ : UInt8) (tail : Bytes) :
    tlvFormat.size (type :: length :: b₂ :: b₃ :: tail) = convertToBytes length := rfl

lemma getElem?_behind (front rest : Bytes) (i : ℕ) : (front ++ rest)[front.length + i]? = rest[i]? := by
  rw [List.getElem?_append_right (Nat.le_add_right _ _), Nat.add_sub_cancel_left]

section Turn

variable {malloc : Allocator} {front rest : Bytes} {c : Cursor}

structure Cursor.At (c : Cursor) (front rest : Bytes) : Prop where
  pos : c.pos = front.length
  buffLen : c.buffLen = rest.length
  fits : rest.length < 2 ^ 63

lemma parseBody_end (hc : c.At front []) :
    parseBody malloc (front ++ []) c = .done (.opts c.opts) := by
  rw [parseBody, if_pos (by rw [hc.buffLen]; rfl)]

lemma parseBody_short (hc : c.At front rest) (hne : rest ≠ []) (h : rest.length < 4) :
    parseBody malloc (front ++ rest) c = .done .null := by
  have hpos : 0 < rest.length := List.length_pos_iff.mpr hne
  have hl := hc.buffLen
  rw [parseBody, if_neg (by omega), if_pos (by rw [hl, convertAlign_tlv]; exact h)]

variable {type length b₂ b₃ : UInt8} {tail : Bytes}

lemma parseBody_header (hc : c.At front (type :: length :: b₂ :: b₃ :: tail)) :
    parseBody malloc (front ++ type :: length :: b₂ :: b₃ :: tail) c =
      if (type :: length :: b₂ :: b₃ :: tail).length < convertToBytes length then .done .null
      else
        match parseCase malloc (front ++ type :: length :: b₂ :: b₃ :: tail) c type
          (convertToBytes length) with
        | .accept opts mallocs =>
          .again ⟨c.pos + convertToBytes length, sizeSub c.buffLen (convertToBytes length), opts,
            mallocs⟩
        | .reject => .done .null
        | .undefined => .done .undefined := by
  have hl := hc.buffLen
  have h₀ := getElem?_behind front (type :: length :: b₂ :: b₃ :: tail) 0
  have h₁ := getElem?_behind front (type :: length :: b₂ :: b₃ :: tail) 1
  rw [Nat.add_zero, List.getElem?_cons_zero] at h₀
  rw [List.getElem?_cons_succ, List.getElem?_cons_zero] at h₁
  rw [parseBody, if_neg (by rw [hl]; simp), if_neg (by rw [hl]; simp), hc.pos, h₀, h₁]
  exact hl ▸ rfl

lemma parseError_eq (hc : c.At front (type :: length :: b₂ :: b₃ :: tail)) :
    parseError (front ++ type :: length :: b₂ :: b₃ :: tail) c =
      .accept (c.opts.setError b₂) c.mallocs := by
  have h₂ := getElem?_behind front (type :: length :: b₂ :: b₃ :: tail) 2
  simp only [List.getElem?_cons_succ, List.getElem?_cons_zero] at h₂
  rw [parseError, if_neg (by rw [hc.buffLen]; simp), hc.pos, h₂]

lemma parseConnect_reject {tlvLen : ℕ} (h : tlvLen ≠ 20) :
    parseConnect (front ++ rest) c tlvLen = .reject := by
  rw [parseConnect]
  by_cases hb : c.buffLen < convertAlign sizeofConvertConnect
  · rw [if_pos hb]
  · rw [if_neg hb, if_pos (by simpa using h)]

lemma parseConnect_accept (hc : c.At front (type :: length :: b₂ :: b₃ :: tail))
    (addr : Octets 16) {after : Bytes} (htail : tail = addr.toList ++ after) :
    parseConnect (front ++ type :: length :: b₂ :: b₃ :: tail) c 20 =
      .accept (c.opts.setConnect ⟨[b₂, b₃], rfl⟩ addr) c.mallocs := by
  have hlen : tail.length = 16 + after.length := by simp [htail]
  have hport : loadOctets 2 (type :: length :: b₂ :: b₃ :: tail) 2 = some ⟨[b₂, b₃], rfl⟩ :=
    loadOctets_eq_some (by simp) rfl
  have haddr : loadOctets 16 (type :: length :: b₂ :: b₃ :: tail) 4 = some addr :=
    loadOctets_eq_some (by simp [hlen]) (by simp [htail])
  rw [parseConnect, if_neg (by rw [hc.buffLen]; simp [hlen]), if_neg (by simp), hc.pos,
    loadOctets_append, loadOctets_append, hport, haddr]

lemma copy_size (hc : c.At front (type :: length :: b₂ :: b₃ :: tail)) {body after : Bytes}
    (htail : tail = body ++ after) : sizeSub (4 + body.length) 4 = body.length := by
  have hfits := hc.fits
  have : body.length ≤ tail.length := by simp [htail]
  simp only [List.length_cons] at hfits
  rw [sizeSub_of_le (by omega) (by omega), Nat.add_sub_cancel_left]

lemma parseExtendedTcpHdr_accept (hc : c.At front (type :: length :: b₂ :: b₃ :: tail))
    {body after : Bytes} (htail : tail = body ++ after) (hm : malloc c.mallocs body.length = true) :
    parseExtendedTcpHdr malloc (front ++ type :: length :: b₂ :: b₃ :: tail) c (4 + body.length) =
      .accept (c.opts.setExtendedTcpHdr body) (c.mallocs + 1) := by
  have hload : load (type :: length :: b₂ :: b₃ :: tail) 4 body.length = some body := by
    rw [load_eq (by simp [htail]; omega)]
    simp [htail]
  have hsize : sizeSub (4 + body.length) sizeofConvertExtendedTcpHdr = body.length := copy_size hc htail
  simp only [parseExtendedTcpHdr, hsize, hm]
  rw [if_neg (by rw [hc.buffLen]; simp), if_neg (by simp), hc.pos, load_append, hload]

lemma parseExtendedTcpHdr_reject (hc : c.At front (type :: length :: b₂ :: b₃ :: tail))
    {body after : Bytes} (htail : tail = body ++ after) (hm : malloc c.mallocs body.length = false) :
    parseExtendedTcpHdr malloc (front ++ type :: length :: b₂ :: b₃ :: tail) c (4 + body.length) =
      .reject := by
  have hsize : sizeSub (4 + body.length) sizeofConvertExtendedTcpHdr = body.length := copy_size hc htail
  simp only [parseExtendedTcpHdr, hsize, hm, if_true, ite_self]

lemma parseCookie_accept (hc : c.At front (type :: length :: b₂ :: b₃ :: tail))
    {body after : Bytes} (htail : tail = body ++ after) (hm : malloc c.mallocs body.length = true) :
    parseCookie malloc (front ++ type :: length :: b₂ :: b₃ :: tail) c (4 + body.length) =
      .accept (c.opts.setCookie body) (c.mallocs + 1) := by
  have hload : load (type :: length :: b₂ :: b₃ :: tail) 4 body.length = some body := by
    rw [load_eq (by simp [htail]; omega)]
    simp [htail]
  have hsize : sizeSub (4 + body.length) sizeofConvertCookie = body.length := copy_size hc htail
  simp only [parseCookie, hsize, hm]
  rw [if_neg (by simp), hc.pos, load_append, hload]

lemma parseCookie_reject (hc : c.At front (type :: length :: b₂ :: b₃ :: tail))
    {body after : Bytes} (htail : tail = body ++ after) (hm : malloc c.mallocs body.length = false) :
    parseCookie malloc (front ++ type :: length :: b₂ :: b₃ :: tail) c (4 + body.length) =
      .reject := by
  have hsize : sizeSub (4 + body.length) sizeofConvertCookie = body.length := copy_size hc htail
  simp only [parseCookie, hsize, hm, if_true]

lemma parseCase_zero (malloc : Allocator) (hc : c.At front (type :: length :: b₂ :: b₃ :: tail))
    (he : type ≠ convertError) :
    parseCase malloc (front ++ type :: length :: b₂ :: b₃ :: tail) c type 0 = .reject ∨
      parseCase malloc (front ++ type :: length :: b₂ :: b₃ :: tail) c type 0 = .undefined ∧
        ¬ malloc.RefusesHuge := by
  have hload : load (front ++ type :: length :: b₂ :: b₃ :: tail) (c.pos + 4) (sizeSub 0 4) = none := by
    have hfits := hc.fits
    have hsize : sizeSub 0 4 = 2 ^ 64 - 4 := rfl
    rw [hc.pos, load_append, load, if_neg (by omega)]
  have hhuge : malloc c.mallocs (sizeSub 0 4) = true → ¬ malloc.RefusesHuge := by
    intro hm hrefuses
    rw [hrefuses c.mallocs (sizeSub 0 4) (by decide)] at hm
    cases hm
  rw [parseCase, if_neg he]
  by_cases hcon : type = convertConnect
  · rw [if_pos hcon, parseConnect_reject (by decide)]
    exact Or.inl rfl
  rw [if_neg hcon]
  by_cases hx : type = convertExtendedTcpHdr
  · have hfour : ¬ c.buffLen < convertAlign 4 := by
      rw [hc.buffLen]
      simp [show convertAlign 4 = 4 from rfl]
    simp only [if_pos hx, parseExtendedTcpHdr, sizeofConvertExtendedTcpHdr, hload, if_neg hfour]
    cases hm : malloc c.mallocs (sizeSub 0 4) with
    | false => exact Or.inl rfl
    | true => exact Or.inr ⟨rfl, hhuge hm⟩
  rw [if_neg hx]
  by_cases hk : type = convertCookie
  · simp only [if_pos hk, parseCookie, sizeofConvertCookie, hload]
    cases hm : malloc c.mallocs (sizeSub 0 4) with
    | false => exact Or.inl rfl
    | true => exact Or.inr ⟨rfl, hhuge hm⟩
  · rw [if_neg hk]
    exact Or.inl rfl

lemma parseCase_record (hc : c.At front (type :: length :: b₂ :: b₃ :: tail)) {body after : Bytes}
    (htail : tail = body ++ after) (hlen : convertToBytes length = 4 + body.length) :
    parseCase malloc (front ++ type :: length :: b₂ :: b₃ :: tail) c type (convertToBytes length) =
      match readTlv (type :: length :: b₂ :: b₃ :: body) with
      | some t =>
        if t.granted malloc c.mallocs then .accept (c.opts.assign t) (c.mallocs + t.requests)
        else .reject
      | none => .reject := by
  rw [hlen, parseCase, readTlv]
  by_cases he : type = convertError
  · simp only [if_pos he]
    exact parseError_eq hc
  simp only [if_neg he]
  by_cases hcon : type = convertConnect
  · simp only [if_pos hcon]
    by_cases h16 : body.length = 16
    · simp only [h16]
      exact parseConnect_accept hc ⟨body, h16⟩ htail
    · simp only [dif_neg h16]
      exact parseConnect_reject (by omega)
  simp only [if_neg hcon]
  by_cases hx : type = convertExtendedTcpHdr
  · simp only [if_pos hx]
    cases hm : malloc c.mallocs body.length with
    | true =>
      simpa [Tlv.granted, Tlv.copied, Tlv.requests, ConvertOpts.assign, hm] using
        parseExtendedTcpHdr_accept hc htail hm
    | false => simpa [Tlv.granted, Tlv.copied, hm] using parseExtendedTcpHdr_reject hc htail hm
  simp only [if_neg hx]
  by_cases hk : type = convertCookie
  · simp only [if_pos hk]
    cases hm : malloc c.mallocs body.length with
    | true =>
      simpa [Tlv.granted, Tlv.copied, Tlv.requests, ConvertOpts.assign, hm] using
        parseCookie_accept hc htail hm
    | false => simpa [Tlv.granted, Tlv.copied, hm] using parseCookie_reject hc htail hm
  · simp only [if_neg hk]

end Turn

end TransportConverter.Codec
