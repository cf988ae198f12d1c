import TransportConverter.Wire.Layout

/-! `struct convert_opts`, what the parser fills in and the writer reads. -/

namespace TransportConverter.Codec

open Foundations.Memory Wire

def convertFInfo : UInt8 := UInt8.ofNat (1 <<< 0)
def convertFConnect : UInt8 := UInt8.ofNat (1 <<< 1)
def convertFExtendedTcpHdr : UInt8 := UInt8.ofNat (1 <<< 2)
def convertFSupportedTcpExt : UInt8 := UInt8.ofNat (1 <<< 3)
def convertFCookie : UInt8 := UInt8.ofNat (1 <<< 4)
def convertFError : UInt8 := UInt8.ofNat (1 <<< 5)

/-- The members of `sockaddr_in6` that travel, both in network byte order. -/
structure SockaddrIn6 where
  sin6Port : Octets 2
  sin6Addr : Octets 16
  deriving DecidableEq

def SockaddrIn6.zero : SockaddrIn6 := ⟨.replicate 2 0, .replicate 16 0⟩

/-- A pointer and the length kept beside it are one block of memory. -/
structure ConvertOpts where
  flags : UInt8
  remoteAddr : SockaddrIn6
  errorCode : UInt8
  tcpOptions : Block
  cookieData : Block
  deriving DecidableEq

def ConvertOpts.zero : ConvertOpts := ⟨0, .zero, 0, .empty, .empty⟩

def sizeofConvertOpts : ℕ := 72

inductive Tlv
  | connect (remotePort : Octets 2) (remoteAddr : Octets 16)
  | extendedTcpHdr (tcpOptions : Bytes)
  | cookie (opaqueBytes : Bytes)
  | error (errorCode : UInt8)
  deriving DecidableEq

def Tlv.flag : Tlv → UInt8
  | .connect _ _ => convertFConnect
  | .extendedTcpHdr _ => convertFExtendedTcpHdr
  | .cookie _ => convertFCookie
  | .error _ => convertFError

def ConvertOpts.setConnect (opts : ConvertOpts) (port : Octets 2) (addr : Octets 16) :
    ConvertOpts :=
  { opts with flags := opts.flags ||| convertFConnect, remoteAddr := ⟨port, addr⟩ }

def ConvertOpts.setExtendedTcpHdr (opts : ConvertOpts) (tcpOptions : Bytes) : ConvertOpts :=
  { opts with
    flags := opts.flags ||| convertFExtendedTcpHdr, tcpOptions := .ofBytes tcpOptions }

def ConvertOpts.setCookie (opts : ConvertOpts) (opaqueBytes : Bytes) : ConvertOpts :=
  { opts with flags := opts.flags ||| convertFCookie, cookieData := .ofBytes opaqueBytes }

def ConvertOpts.setError (opts : ConvertOpts) (errorCode : UInt8) : ConvertOpts :=
  { opts with flags := opts.flags ||| convertFError, errorCode := errorCode }

def ConvertOpts.assign (opts : ConvertOpts) : Tlv → ConvertOpts
  | .connect port addr => opts.setConnect port addr
  | .extendedTcpHdr tcpOptions => opts.setExtendedTcpHdr tcpOptions
  | .cookie opaqueBytes => opts.setCookie opaqueBytes
  | .error errorCode => opts.setError errorCode

def Tlv.copied : Tlv → Option ℕ
  | .connect _ _ | .error _ => none
  | .extendedTcpHdr tcpOptions => some tcpOptions.length
  | .cookie opaqueBytes => some opaqueBytes.length

@[simp] lemma assign_flags (opts : ConvertOpts) (t : Tlv) :
    (opts.assign t).flags = opts.flags ||| t.flag := by
  cases t <;> rfl

end TransportConverter.Codec
