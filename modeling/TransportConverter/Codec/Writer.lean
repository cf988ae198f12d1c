import TransportConverter.Codec.Options

/-! `convert_write` and its table of callbacks. Memory is the caller's whole buffer; a write outside
it has no result. The list of offsets and sizes of the written TLVs is kept for the proofs. -/

namespace TransportConverter.Codec

open Foundations.Memory Wire

abbrev WriteCb := ConvertOpts → (buff : Bytes) → (pos buffLen : ℕ) → Option (ℤ × Bytes)

def convertWriteTlvNotSupp : WriteCb := fun _ buff _ _ => some (-1, buff)

def convertWriteTlvConnect : WriteCb := fun opts buff pos buffLen =>
  let length := convertAlign sizeofConvertConnect
  if buffLen < length then some (-1, buff)
  else do
    let buff ← store buff (pos + 4) opts.remoteAddr.sin6Addr.toList
    let buff ← store buff (pos + 2) opts.remoteAddr.sin6Port.toList
    return (ssizeT length, buff)

def convertWriteTlvError : WriteCb := fun opts buff pos buffLen =>
  let length := convertAlign sizeofConvertError
  if buffLen < length then some (-1, buff)
  else do
    let buff ← store buff (pos + 2) [opts.errorCode]
    return (ssizeT length, buff)

/-- What the extended TCP header and the cookie callbacks share: a 4-octet fixed part that stays zero, then
the octets of the option, padded with zeros. -/
def writePadded (fixed : ℕ) (data : Block) (buff : Bytes) (pos buffLen : ℕ) : Option (ℤ × Bytes) :=
  let length := convertAlign (sizeT (fixed + data.size))
  if buffLen < length then some (-1, buff)
  else do
    let buff ← store buff pos (zeros length)
    let buff ← store buff (pos + fixed) data.bytes
    return (ssizeT length, buff)

def convertWriteTlvExtendedTcpHdr : WriteCb := fun opts =>
  writePadded sizeofConvertExtendedTcpHdr opts.tcpOptions

def convertWriteTlvCookie : WriteCb := fun opts => writePadded sizeofConvertCookie opts.cookieData

structure TlvEntry where
  flag : UInt8
  type : UInt8
  cb : WriteCb

def converterTlvs : List TlvEntry :=
  [⟨convertFInfo, convertInfo, convertWriteTlvNotSupp⟩,
    ⟨convertFConnect, convertConnect, convertWriteTlvConnect⟩,
    ⟨convertFExtendedTcpHdr, convertExtendedTcpHdr, convertWriteTlvExtendedTcpHdr⟩,
    ⟨convertFSupportedTcpExt, convertSupportedTcpExt, convertWriteTlvNotSupp⟩,
    ⟨convertFCookie, convertCookie, convertWriteTlvCookie⟩,
    ⟨convertFError, convertError, convertWriteTlvError⟩]

structure WrittenTlv where
  offset : ℕ
  bytes : ℕ
  deriving DecidableEq

structure WriteResult where
  ret : ℤ
  buff : Bytes
  tlvs : List WrittenTlv
  deriving DecidableEq

def writeLoop (opts : ConvertOpts) :
    List TlvEntry → UInt8 → Bytes → ℕ → ℕ → ℤ → List WrittenTlv → Option WriteResult
  | [], _, buff, _, _, len, tlvs => some ⟨len, buff, tlvs⟩
  | e :: es, flags, buff, pos, buffLen, len, tlvs =>
    if e.flag &&& flags = 0 then writeLoop opts es flags buff pos buffLen len tlvs
    else
      match e.cb opts buff pos buffLen with
      | none => none
      | some (ret, buff) =>
        if ret < 0 then some ⟨ret, buff, tlvs⟩
        else do
          let buff ← store buff pos [e.type]
          let buff ← store buff (pos + 1) [bytesToConvert ret.toNat]
          writeLoop opts es (flags &&& ~~~e.flag) buff (pos + ret.toNat)
            (sizeSub buffLen ret.toNat) (len + ret) (tlvs ++ [⟨pos, ret.toNat⟩])

def convertWriteTlvs (buff : Bytes) (pos buffLen : ℕ) (opts : ConvertOpts) : Option WriteResult :=
  writeLoop opts converterTlvs opts.flags buff pos buffLen 0 []

def convertWrite (buff : Block) (opts : ConvertOpts) : Option WriteResult :=
  let zeroed := zeros buff.size
  let length := sizeofConvertHeader
  if buff.size < length then some ⟨-1, zeroed, []⟩
  else do
    let headed ← store zeroed 0 [convertVersion]
    let headed ← store headed 2 (htons convertMagicNo)
    let w ← convertWriteTlvs headed length (sizeSub buff.size length) opts
    if w.ret < 0 then return w
    let length := sizeT (length + w.ret.toNat)
    let written ← store w.buff 1 [bytesToConvert length]
    return ⟨ssizeT length, written, w.tlvs⟩

end TransportConverter.Codec
