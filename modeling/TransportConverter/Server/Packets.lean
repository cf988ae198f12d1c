import TransportConverter.Wire.Layout

/-! The scapy classes of `convert.py`. What scapy makes of data that ends inside the fields of a
class depends on its version (it raises, or the fields it did not reach keep their defaults), and
the text of an IPv6 address is the C library's: both are parameters. -/

namespace TransportConverter.Server

open Foundations.Memory Wire

abbrev Text := List Char

structure TlvHdr where
  type : UInt8
  length : UInt8
  deriving DecidableEq

/-- The fields alone: what follows them stays with a packet as scapy's `Padding`, and the server reads that
in `bytes(tlv)` only, which gives back the octets the packet was dissected from. -/
structure ConvertTlv where
  hdr : TlvHdr
  padding : ℕ
  deriving DecidableEq

structure ConvertTlvError where
  hdr : TlvHdr
  errorCode : UInt8
  value : UInt8
  deriving DecidableEq

structure ConvertTlvConnect where
  hdr : TlvHdr
  remotePort : Option ℕ
  remoteAddr : Option Text
  deriving DecidableEq

inductive TlvPacket
  | convertTlv (tlv : ConvertTlv)
  | info (tlv : ConvertTlv)
  | error (tlv : ConvertTlvError)
  | connect (tlv : ConvertTlvConnect)
  deriving DecidableEq

def TlvPacket.hdr : TlvPacket → TlvHdr
  | .convertTlv tlv | .info tlv => tlv.hdr
  | .error tlv => tlv.hdr
  | .connect tlv => tlv.hdr

structure Scapy where
  shortTlv : Bytes → Option ConvertTlv
  shortInfo : Bytes → Option ConvertTlv
  shortError : Bytes → Option ConvertTlvError
  shortConnect : Bytes → Option ConvertTlvConnect
  inetNtop : Octets 16 → Text

namespace Scapy

variable (scapy : Scapy)

def convertTlv (s : Bytes) : Option ConvertTlv :=
  match s with
  | type :: length :: p₀ :: p₁ :: _ => some ⟨⟨type, length⟩, ntohs (twoOctets p₀ p₁)⟩
  | s => scapy.shortTlv s

def convertTlvInfo (s : Bytes) : Option ConvertTlv :=
  match s with
  | type :: length :: p₀ :: p₁ :: _ => some ⟨⟨type, length⟩, ntohs (twoOctets p₀ p₁)⟩
  | s => scapy.shortInfo s

def convertTlvError (s : Bytes) : Option ConvertTlvError :=
  match s with
  | type :: length :: errorCode :: value :: _ => some ⟨⟨type, length⟩, errorCode, value⟩
  | s => scapy.shortError s

def convertTlvConnect (s : Bytes) : Option ConvertTlvConnect :=
  match s with
  | type :: length :: p₀ :: p₁ :: rest =>
    if h : 16 ≤ rest.length then
      some ⟨⟨type, length⟩, some (ntohs (twoOctets p₀ p₁)),
        some (scapy.inetNtop ⟨rest.take 16, by rw [List.length_take]; omega⟩)⟩
    else scapy.shortConnect s
  | s => scapy.shortConnect s

end Scapy

inductive TlvName
  | info
  | connect
  | extended
  | supported
  | cookie
  | error
  deriving DecidableEq

def convertTlvs (type : UInt8) : Option TlvName :=
  if type = 0x1 then some .info
  else if type = 0xa then some .connect
  else if type = 0x14 then some .extended
  else if type = 0x15 then some .supported
  else if type = 0x16 then some .cookie
  else if type = 0x1e then some .error
  else none

structure Convert where
  version : UInt8
  totalLength : UInt8
  magicNo : ℕ
  tlvs : List TlvPacket
  deriving DecidableEq

def convertBuild (tlvs : Bytes) : Option Bytes :=
  let totalLength := 1 + tlvs.length / 4
  if totalLength < 256 then some ([1, UInt8.ofNat totalLength] ++ htons 8803 ++ tlvs) else none

/-- What the constructors set when only these fields are given: class attributes override defaults. -/
def ConvertTlvError.make (errorCode value : UInt8) : ConvertTlvError := ⟨⟨0x1e, 1⟩, errorCode, value⟩

def ConvertTlvConnect.make (remotePort : Option ℕ) (remoteAddr : Option Text) : ConvertTlvConnect :=
  ⟨⟨0xa, 5⟩, remotePort, remoteAddr⟩

def shortField (value : ℕ) : Option Bytes := if value < 65536 then some (htons value) else none

/-- `None` is sent as port 0 and as the address "::". -/
def TlvPacket.build (inetPton : Text → Option (Octets 16)) : TlvPacket → Option Bytes
  | .convertTlv tlv | .info tlv => do
    let padding ← shortField tlv.padding
    some ([tlv.hdr.type, tlv.hdr.length] ++ padding)
  | .error tlv => some [tlv.hdr.type, tlv.hdr.length, tlv.errorCode, tlv.value]
  | .connect tlv => do
    let remotePort ← shortField (tlv.remotePort.getD 0)
    let remoteAddr ← inetPton (tlv.remoteAddr.getD [':', ':'])
    some ([tlv.hdr.type, tlv.hdr.length] ++ remotePort ++ remoteAddr.toList)

def buildConvert (inetPton : Text → Option (Octets 16)) (tlvs : List TlvPacket) : Option Bytes := do
  let octets ← tlvs.mapM (TlvPacket.build inetPton)
  convertBuild octets.flatten

def ipv6ToIpv4 (ipv6 : Option Text) : Text :=
  ((ipv6.getD ['N', 'o', 'n', 'e']).reverse.takeWhile (· ≠ ':')).reverse

lemma ipv6ToIpv4_of_behind {text host : Text} (h : ':' ∉ host) :
    ipv6ToIpv4 (some (text ++ ':' :: host)) = host := by
  have hall : ∀ c ∈ host.reverse, (decide (c ≠ ':')) = true := by
    intro c hc
    rw [List.mem_reverse] at hc
    simp only [decide_eq_true_eq]
    rintro rfl
    exact h hc
  simp only [ipv6ToIpv4, Option.getD_some, List.reverse_append, List.reverse_cons, List.append_assoc]
  rw [List.takeWhile_append_of_pos hall]
  simp

def dottedQuad (a b c d : UInt8) : Text :=
  Nat.toDigits 10 a.toNat ++ '.' :: Nat.toDigits 10 b.toNat ++ '.' :: Nat.toDigits 10 c.toNat ++
    '.' :: Nat.toDigits 10 d.toNat

def v4mapped (a b c d : UInt8) : Octets 16 :=
  ⟨[0, 0, 0, 0, 0, 0, 0, 0, 0, 0, 0xff, 0xff, a, b, c, d], rfl⟩

def Scapy.PrintsMapped (scapy : Scapy) : Prop :=
  ∀ a b c d, scapy.inetNtop (v4mapped a b c d) =
    [':', ':', 'f', 'f', 'f', 'f'] ++ ':' :: dottedQuad a b c d

lemma colon_not_mem_dottedQuad (a b c d : UInt8) : ':' ∉ dottedQuad a b c d := by
  have hdigits : ∀ n : ℕ, ':' ∉ Nat.toDigits 10 n := by
    intro n h
    have := Nat.isDigit_of_mem_toDigits (by decide) (by decide) h
    exact absurd this (by decide)
  simp [dottedQuad, hdigits]

/-- A dissector that raises on short data, and prints the last four octets of an address. -/
def strictScapy : Scapy where
  shortTlv _ := none
  shortInfo _ := none
  shortError _ := none
  shortConnect _ := none
  inetNtop v := [':', ':', 'f', 'f', 'f', 'f'] ++ ':' ::
    dottedQuad (v.toList.getD 12 0) (v.toList.getD 13 0) (v.toList.getD 14 0) (v.toList.getD 15 0)

lemma strictScapy_printsMapped : strictScapy.PrintsMapped := fun _ _ _ _ => rfl

end TransportConverter.Server
