import TransportConverter.Foundations.Memory

/-! The constants, sizes and length macros of `convert.h` and `convert_util.h`. A `size_t` is a
natural number below `2 ^ 64`; arithmetic that may wrap says so. -/

namespace TransportConverter.Wire

open Foundations.Memory

def sizeT (n : ℕ) : ℕ := n % 2 ^ 64

/-- `a - b` on `size_t`. -/
def sizeSub (a b : ℕ) : ℕ := sizeT (a + 2 ^ 64 - b)

lemma sizeSub_of_le {a b : ℕ} (h : b ≤ a) (ha : a < 2 ^ 64) : sizeSub a b = a - b := by
  simp only [sizeSub, sizeT]
  omega

/-- A `size_t` returned through `ssize_t`. -/
def ssizeT (n : ℕ) : ℤ := if n < 2 ^ 63 then n else n - 2 ^ 64

def convertVersion : UInt8 := 1
def convertMagicNo : ℕ := 0x2263

def convertInfo : UInt8 := 0x1
def convertConnect : UInt8 := 0xa
def convertExtendedTcpHdr : UInt8 := 0x14
def convertSupportedTcpExt : UInt8 := 0x15
def convertCookie : UInt8 := 0x16
def convertError : UInt8 := 0x1e

def sizeofConvertHeader : ℕ := 4
def sizeofConvertTlv : ℕ := 2
def sizeofConvertConnect : ℕ := 20
def sizeofConvertCookie : ℕ := 4
def sizeofConvertError : ℕ := 3
def sizeofConvertExtendedTcpHdr : ℕ := 4

def convertPadding : ℕ := 4

/-- `CONVERT_ALIGN`: the mask clears the two low bits of a `size_t`. -/
def convertAlign (bytes : ℕ) : ℕ :=
  sizeT (bytes + (convertPadding - 1)) / convertPadding * convertPadding

def convertToBytes (v : UInt8) : ℕ := v.toNat * convertPadding

/-- `BYTES_TO_CONVERT` as it is stored, in a `uint8_t`. -/
def bytesToConvert (v : ℕ) : UInt8 := UInt8.ofNat (v / convertPadding)

def paddingOf (n : ℕ) : ℕ := (convertPadding - n % convertPadding) % convertPadding

lemma convertAlign_eq {n : ℕ} (h : n + 3 < 2 ^ 64) : convertAlign n = n + paddingOf n := by
  simp only [convertAlign, convertPadding, paddingOf, sizeT]
  omega

@[simp] lemma convertAlign_tlv : convertAlign sizeofConvertTlv = 4 := rfl
@[simp] lemma convertAlign_connect : convertAlign sizeofConvertConnect = 20 := rfl
@[simp] lemma convertAlign_extendedTcpHdr : convertAlign sizeofConvertExtendedTcpHdr = 4 := rfl
@[simp] lemma convertAlign_error : convertAlign sizeofConvertError = 4 := rfl

lemma convertToBytes_le (v : UInt8) : convertToBytes v ≤ 1020 := by
  have := v.toNat_lt
  simp only [convertToBytes, convertPadding]
  omega

lemma convertToBytes_bytesToConvert {n : ℕ} (h4 : n % 4 = 0) (h : n ≤ 1020) :
    convertToBytes (bytesToConvert n) = n := by
  simp only [convertToBytes, bytesToConvert, convertPadding, UInt8.toNat_ofNat']
  omega

def ntohs (v : Octets 2) : ℕ := v.toList.foldl (fun acc x => acc * 256 + x.toNat) 0

def htons (n : ℕ) : Bytes := [UInt8.ofNat (n / 256), UInt8.ofNat n]

end TransportConverter.Wire
