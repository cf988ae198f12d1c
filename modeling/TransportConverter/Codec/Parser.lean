import TransportConverter.Foundations.Loops
import TransportConverter.Codec.Options

/-! `convert_parse_header` and `convert_parse_tlvs`, statement by statement. -/

namespace TransportConverter.Codec

open Foundations.Memory Foundations.Loops Wire

def convertParseHeader (buff : Bytes) : Option ℕ :=
  match buff with
  | [version, totalLength, magic₀, magic₁] =>
    if version ≠ convertVersion then none
    else if ntohs (twoOctets magic₀ magic₁) ≠ convertMagicNo then none
    else some (sizeSub (convertToBytes totalLength) sizeofConvertHeader)
  | _ => none

/-- Whether the allocator grants its `i`-th request, given the number of bytes asked for. -/
abbrev Allocator := ℕ → ℕ → Bool

def Allocator.Grants (malloc : Allocator) (n : ℕ) : Prop := ∀ i m, m ≤ n → malloc i m = true

def Allocator.RefusesHuge (malloc : Allocator) : Prop := ∀ i m, 2 ^ 63 - 1 < m → malloc i m = false

def grantingMalloc : Allocator := fun _ n => decide (n ≤ 2 ^ 63 - 1)

lemma grantingMalloc_grants : grantingMalloc.Grants 1016 := by
  intro i n h
  simp only [grantingMalloc, decide_eq_true_eq]
  omega

lemma grantingMalloc_refusesHuge : grantingMalloc.RefusesHuge := by
  intro i n h
  simp only [grantingMalloc, decide_eq_false_iff_not]
  omega

inductive ParseResult
  | null
  | opts (opts : ConvertOpts)
  | undefined
  deriving DecidableEq

structure Cursor where
  pos : ℕ
  buffLen : ℕ
  opts : ConvertOpts
  mallocs : ℕ

inductive CaseResult
  | accept (opts : ConvertOpts) (mallocs : ℕ)
  | reject
  | undefined

section Cases

variable (malloc : Allocator) (buff : Bytes) (c : Cursor)

def parseError : CaseResult :=
  if c.buffLen < convertAlign sizeofConvertError then .reject
  else
    match buff[c.pos + 2]? with
    | some errorCode => .accept (c.opts.setError errorCode) c.mallocs
    | none => .undefined

def parseConnect (tlvLen : ℕ) : CaseResult :=
  if c.buffLen < convertAlign sizeofConvertConnect then .reject
  else if tlvLen ≠ convertAlign sizeofConvertConnect then .reject
  else
    match loadOctets 2 buff (c.pos + 2), loadOctets 16 buff (c.pos + 4) with
    | some remotePort, some remoteAddr => .accept (c.opts.setConnect remotePort remoteAddr) c.mallocs
    | _, _ => .undefined

def parseExtendedTcpHdr (tlvLen : ℕ) : CaseResult :=
  let tcpOptionsLen := sizeSub tlvLen sizeofConvertExtendedTcpHdr
  if c.buffLen < convertAlign sizeofConvertExtendedTcpHdr then .reject
  else if malloc c.mallocs tcpOptionsLen = false then .reject
  else
    match load buff (c.pos + 4) tcpOptionsLen with
    | some tcpOptions => .accept (c.opts.setExtendedTcpHdr tcpOptions) (c.mallocs + 1)
    | none => .undefined

def parseCookie (tlvLen : ℕ) : CaseResult :=
  let cookieLen := sizeSub tlvLen sizeofConvertCookie
  if malloc c.mallocs cookieLen = false then .reject
  else
    match load buff (c.pos + 4) cookieLen with
    | some opaqueBytes => .accept (c.opts.setCookie opaqueBytes) (c.mallocs + 1)
    | none => .undefined

def parseCase (type : UInt8) (tlvLen : ℕ) : CaseResult :=
  if type = convertError then parseError buff c
  else if type = convertConnect then parseConnect buff c tlvLen
  else if type = convertExtendedTcpHdr then parseExtendedTcpHdr malloc buff c tlvLen
  else if type = convertCookie then parseCookie malloc buff c tlvLen
  else .reject

def parseBody : Turn Cursor ParseResult :=
  if c.buffLen = 0 then .done (.opts c.opts)
  else if c.buffLen < convertAlign sizeofConvertTlv then .done .null
  else
    match buff[c.pos]?, buff[c.pos + 1]? with
    | some type, some length =>
      let tlvLen := convertToBytes length
      if c.buffLen < tlvLen then .done .null
      else
        match parseCase malloc buff c type tlvLen with
        | .accept opts mallocs =>
          .again ⟨c.pos + tlvLen, sizeSub c.buffLen tlvLen, opts, mallocs⟩
        | .reject => .done .null
        | .undefined => .done .undefined
    | _, _ => .done .undefined

end Cases

/-- The block of the options comes from `calloc`, the allocator's first request. -/
def Cursor.start (buff : Block) : Cursor := ⟨0, buff.size, .zero, 1⟩

def convertParseTlvs (malloc : Allocator) (fuel : ℕ) (buff : Block) : Option ParseResult :=
  if buff.size = 0 then some .null
  else if malloc 0 sizeofConvertOpts = false then some .null
  else run (parseBody malloc buff.bytes) fuel (.start buff)

/-- `convert_parse_tlvs` returns `r`; on some buffers it returns nothing. -/
def ParseReturns (malloc : Allocator) (buff : Block) (r : ParseResult) : Prop :=
  ∃ fuel, convertParseTlvs malloc fuel buff = some r

end TransportConverter.Codec
