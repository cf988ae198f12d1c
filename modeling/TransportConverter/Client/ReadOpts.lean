import TransportConverter.Client.ReadConvert

/-! `read_convert_opts`, which hands the options of a reply to its caller, and what the caller can
tell from the pointer and the error code it gets. -/

namespace TransportConverter.Client

open Foundations.Memory Wire Codec

/-- What the calls made below `read_convert_opts` answer. No block is larger than the largest pointer
difference, a failed `recvfrom` sets `errno`, and a `printf` may set it. -/
structure OptsAnswers where
  malloc : Allocator
  refusesHuge : malloc.RefusesHuge
  header : Recv
  headerErrno : ℕ+
  printf : ℤ → ℤ
  area : Recv
  areaErrno : ℕ+

structure OptsCaller where
  inbox : Bytes
  errno : ℤ
  errorCode : ℤ
  errorMessage : String

inductive OptsPointer
  | null
  | fresh (opts : ConvertOpts)
  | indeterminate
  deriving DecidableEq

inductive OptsOutcome
  | returns (pointer : OptsPointer) (s : OptsCaller)
  | undefined

namespace OptsCaller

variable (s : OptsCaller)

def consume (n : ℕ) : OptsCaller := { s with inbox := s.inbox.drop n }

def failed (code : ℤ) (message : String) : OptsCaller :=
  { s with errorCode := code, errorMessage := message }

end OptsCaller

structure SecondRead where
  declared : ℕ
  asked : ℕ

def secondRead (peek : Bool) (length : ℕ) : SecondRead :=
  let offset := if peek then sizeofConvertHeader else 0
  ⟨sizeT (length + offset), if peek then sizeT (length + sizeofConvertHeader) else length⟩

section ReadConvertOpts

variable (a : OptsAnswers) (fuel : ℕ) (peek : Bool) (s : OptsCaller)

def readOptsArea (length : ℕ) : Option OptsOutcome :=
  let offset := if peek then sizeofConvertHeader else 0
  let read := secondRead peek length
  if read.declared = 0 ∨ 2 ^ 63 ≤ read.declared then some .undefined
  else
    match a.area.octets s.inbox read.asked with
    | none =>
      let s := { s with errno := (a.areaErrno : ℕ) }
      some (.returns .null (s.failed s.errno "unable to read the convert tlv data"))
    | some buffer =>
      let s := s.consume buffer.length
      if buffer.length ≠ read.asked then
        some (.returns .null (s.failed s.errno "unable to read the convert tlv data"))
      else
        match convertParseTlvs a.malloc fuel (.ofBytes (buffer.drop offset)) with
        | none => none
        | some .undefined => some .undefined
        | some .null => some (.returns .null s)
        | some (.opts opts) =>
          if opts.flags &&& convertFError ≠ 0 then
            some (.returns .null (s.failed opts.errorCode.toNat
              ("received error from the convert server: " ++ toString opts.errorCode.toNat)))
          else some (.returns (.fresh opts) { s with errorCode := 0 })

def readConvertOpts : Option OptsOutcome :=
  match a.header.octets s.inbox sizeofConvertHeader with
  | none =>
    let s := { s with errno := (a.headerErrno : ℕ) }
    some (.returns .null (s.failed s.errno "unable to read the convert header"))
  | some hdr =>
    let s := if peek then s else s.consume hdr.length
    match convertParseHeader hdr with
    | none =>
      let s := { s with errno := a.printf s.errno }
      some (.returns .null (s.failed s.errno "unable to parse the convert header"))
    | some length =>
      if length = 0 then some (.returns .indeterminate { s with errorCode := 0 })
      else readOptsArea a fuel peek s length

end ReadConvertOpts

section Header

def wellFormedHeader (totalLength : UInt8) : Bytes := [1, totalLength, 0x22, 0x63]

def WellFormed (hdr : Bytes) : Prop := ∃ totalLength, hdr = wellFormedHeader totalLength

lemma magicNo_iff (a b : UInt8) : ntohs (twoOctets a b) = convertMagicNo ↔ a = 0x22 ∧ b = 0x63 := by
  have ha := a.toNat_lt
  have hb := b.toNat_lt
  simp only [ntohs, List.Vector.toList, List.foldl_cons, List.foldl_nil, convertMagicNo,
    ← UInt8.toNat_inj]
  change _ ↔ a.toNat = 34 ∧ b.toNat = 99
  omega

lemma parseHeader_wellFormed (totalLength : UInt8) :
    convertParseHeader (wellFormedHeader totalLength) =
      some (sizeSub (convertToBytes totalLength) sizeofConvertHeader) := by
  have hmagic : ntohs (twoOctets 0x22 0x63) = convertMagicNo := rfl
  simp only [convertParseHeader, wellFormedHeader, convertVersion, ne_eq, not_true_eq_false, if_false,
    hmagic]

lemma parseHeader_eq_none_iff {hdr : Bytes} : convertParseHeader hdr = none ↔ ¬ WellFormed hdr := by
  constructor
  · rintro h ⟨totalLength, rfl⟩
    rw [parseHeader_wellFormed] at h
    cases h
  · intro h
    unfold convertParseHeader
    split
    · rename_i version totalLength magic₀ magic₁
      by_cases hversion : version = convertVersion
      · by_cases hmagic : ntohs (twoOctets magic₀ magic₁) = convertMagicNo
        · obtain ⟨rfl, rfl⟩ := (magicNo_iff magic₀ magic₁).mp hmagic
          exact (h ⟨totalLength, by rw [hversion]; rfl⟩).elim
        · simp only [hmagic, hversion, ne_eq, not_true_eq_false, not_false_eq_true, if_true, if_false]
      · simp only [hversion, ne_eq, not_false_eq_true, if_true]
    · rfl

lemma parseHeader_eq_some {hdr : Bytes} {length : ℕ} (h : convertParseHeader hdr = some length) :
    ∃ totalLength, hdr = wellFormedHeader totalLength ∧
      length = sizeSub (convertToBytes totalLength) sizeofConvertHeader := by
  by_cases hwell : WellFormed hdr
  · obtain ⟨totalLength, rfl⟩ := hwell
    rw [parseHeader_wellFormed] at h
    exact ⟨totalLength, rfl, (Option.some.inj h).symm⟩
  · rw [parseHeader_eq_none_iff.mpr hwell] at h
    cases h

variable {totalLength : UInt8}

lemma tlvsLength_zero (h : totalLength.toNat = 0) :
    sizeSub (convertToBytes totalLength) sizeofConvertHeader = 2 ^ 64 - 4 := by
  simp only [convertToBytes, h]
  rfl

lemma tlvsLength_pos (h : 1 ≤ totalLength.toNat) :
    sizeSub (convertToBytes totalLength) sizeofConvertHeader = 4 * totalLength.toNat - 4 := by
  have hlt := totalLength.toNat_lt
  rw [sizeSub_of_le]
  · simp only [convertToBytes, convertPadding, sizeofConvertHeader]
    omega
  · simp only [convertToBytes, convertPadding, sizeofConvertHeader]
    omega
  · simp only [convertToBytes, convertPadding]
    omega

lemma secondRead_pos (peek : Bool) (h : 1 ≤ totalLength.toNat) :
    secondRead peek (4 * totalLength.toNat - 4) =
      ⟨4 * totalLength.toNat - (if peek then 0 else 4),
        4 * totalLength.toNat - (if peek then 0 else 4)⟩ := by
  have hlt := totalLength.toNat_lt
  have hsize : ∀ n, n < 2 ^ 64 → sizeT n = n := fun n hn => Nat.mod_eq_of_lt hn
  cases peek
  · simp only [secondRead, Bool.false_eq_true, if_false, Nat.add_zero]
    rw [hsize _ (by omega)]
  · have hwhole : 4 * totalLength.toNat - 4 + sizeofConvertHeader = 4 * totalLength.toNat - 0 := by
      simp only [sizeofConvertHeader]
      omega
    simp only [secondRead, if_true, hwhole]
    rw [hsize _ (by omega)]

lemma secondRead_wraps (peek : Bool) : (secondRead peek (2 ^ 64 - 4)).declared = 0 ∨
    2 ^ 63 ≤ (secondRead peek (2 ^ 64 - 4)).declared := by
  cases peek
  · exact Or.inr (by decide)
  · exact Or.inl (by decide)

end Header

section Exits

variable {a : OptsAnswers} {fuel : ℕ} {peek : Bool} {s : OptsCaller} {o : OptsOutcome}
  {totalLength : UInt8}

def OptsCaller.headerRead (s : OptsCaller) (peek : Bool) (hdr : Bytes) : OptsCaller :=
  if peek then s else s.consume hdr.length

def areaAsked (peek : Bool) (totalLength : UInt8) : ℕ :=
  4 * totalLength.toNat - if peek then 0 else 4

def tlvArea (peek : Bool) (buffer : Bytes) : Block :=
  .ofBytes (buffer.drop (if peek then sizeofConvertHeader else 0))

structure AsksArea (a : OptsAnswers) (peek : Bool) (s : OptsCaller) (totalLength : UInt8)
    (answer : Option Bytes) : Prop where
  header : a.header.octets s.inbox sizeofConvertHeader = some (wellFormedHeader totalLength)
  length : 2 ≤ totalLength.toNat
  area : a.area.octets (s.headerRead peek (wellFormedHeader totalLength)).inbox
    (areaAsked peek totalLength) = answer

inductive OptsExit (a : OptsAnswers) (peek : Bool) (s : OptsCaller) : OptsOutcome → Prop
  | noHeader (hhdr : a.header.octets s.inbox sizeofConvertHeader = none) :
      OptsExit a peek s (.returns .null ({ s with errno := (a.headerErrno : ℕ) }.failed
        (a.headerErrno : ℕ) "unable to read the convert header"))
  | badHeader (hdr : Bytes) (hhdr : a.header.octets s.inbox sizeofConvertHeader = some hdr)
      (hbad : ¬ WellFormed hdr) :
      OptsExit a peek s (.returns .null
        ({ s.headerRead peek hdr with errno := a.printf (s.headerRead peek hdr).errno }.failed
          (a.printf (s.headerRead peek hdr).errno) "unable to parse the convert header"))
  | wraps (totalLength : UInt8)
      (hhdr : a.header.octets s.inbox sizeofConvertHeader = some (wellFormedHeader totalLength))
      (hzero : totalLength.toNat = 0) : OptsExit a peek s .undefined
  | headerOnly (totalLength : UInt8)
      (hhdr : a.header.octets s.inbox sizeofConvertHeader = some (wellFormedHeader totalLength))
      (hone : totalLength.toNat = 1) :
      OptsExit a peek s (.returns .indeterminate
        { s.headerRead peek (wellFormedHeader totalLength) with errorCode := 0 })
  | noArea (totalLength : UInt8) (hasks : AsksArea a peek s totalLength none) :
      OptsExit a peek s (.returns .null
        ({ s.headerRead peek (wellFormedHeader totalLength) with errno := (a.areaErrno : ℕ) }.failed
          (a.areaErrno : ℕ) "unable to read the convert tlv data"))
  | shortArea (totalLength : UInt8) (buffer : Bytes)
      (hasks : AsksArea a peek s totalLength (some buffer))
      (hshort : buffer.length ≠ areaAsked peek totalLength) :
      OptsExit a peek s (.returns .null
        (((s.headerRead peek (wellFormedHeader totalLength)).consume buffer.length).failed
          (s.headerRead peek (wellFormedHeader totalLength)).errno
          "unable to read the convert tlv data"))
  | refused (totalLength : UInt8) (buffer : Bytes)
      (hasks : AsksArea a peek s totalLength (some buffer))
      (hlen : buffer.length = areaAsked peek totalLength)
      (hparse : ParseReturns a.malloc (tlvArea peek buffer) .null) :
      OptsExit a peek s (.returns .null
        ((s.headerRead peek (wellFormedHeader totalLength)).consume buffer.length))
  | error (totalLength : UInt8) (buffer : Bytes) (opts : ConvertOpts)
      (hasks : AsksArea a peek s totalLength (some buffer))
      (hlen : buffer.length = areaAsked peek totalLength)
      (hparse : ParseReturns a.malloc (tlvArea peek buffer) (.opts opts))
      (herror : opts.flags &&& convertFError ≠ 0) :
      OptsExit a peek s (.returns .null
        (((s.headerRead peek (wellFormedHeader totalLength)).consume buffer.length).failed
          opts.errorCode.toNat
          ("received error from the convert server: " ++ toString opts.errorCode.toNat)))
  | accepted (totalLength : UInt8) (buffer : Bytes) (opts : ConvertOpts)
      (hasks : AsksArea a peek s totalLength (some buffer))
      (hlen : buffer.length = areaAsked peek totalLength)
      (hparse : ParseReturns a.malloc (tlvArea peek buffer) (.opts opts))
      (hnone : opts.flags &&& convertFError = 0) :
      OptsExit a peek s (.returns (.fresh opts)
        { (s.headerRead peek (wellFormedHeader totalLength)).consume buffer.length with
          errorCode := 0 })

def answered (a : OptsAnswers) (fuel : ℕ) (peek : Bool) (totalLength : UInt8) (s : OptsCaller) :
    Option Bytes → Option OptsOutcome
  | none => some (.returns .null ({ s with errno := (a.areaErrno : ℕ) }.failed (a.areaErrno : ℕ)
      "unable to read the convert tlv data"))
  | some buffer =>
    if buffer.length ≠ areaAsked peek totalLength then
      some (.returns .null ((s.consume buffer.length).failed s.errno
        "unable to read the convert tlv data"))
    else
      match convertParseTlvs a.malloc fuel (tlvArea peek buffer) with
      | none => none
      | some .undefined => some .undefined
      | some .null => some (.returns .null (s.consume buffer.length))
      | some (.opts opts) =>
        if opts.flags &&& convertFError ≠ 0 then
          some (.returns .null ((s.consume buffer.length).failed opts.errorCode.toNat
            ("received error from the convert server: " ++ toString opts.errorCode.toNat)))
        else some (.returns (.fresh opts) { s.consume buffer.length with errorCode := 0 })

lemma readConvertOpts_none (hhdr : a.header.octets s.inbox sizeofConvertHeader = none) :
    readConvertOpts a fuel peek s = some (.returns .null ({ s with errno := (a.headerErrno : ℕ) }.failed
      (a.headerErrno : ℕ) "unable to read the convert header")) := by
  rw [readConvertOpts, hhdr]

lemma readConvertOpts_bad {hdr : Bytes} (hhdr : a.header.octets s.inbox sizeofConvertHeader = some hdr)
    (hbad : ¬ WellFormed hdr) :
    readConvertOpts a fuel peek s = some (.returns .null
      ({ s.headerRead peek hdr with errno := a.printf (s.headerRead peek hdr).errno }.failed
        (a.printf (s.headerRead peek hdr).errno) "unable to parse the convert header")) := by
  simp only [readConvertOpts, hhdr, parseHeader_eq_none_iff.mpr hbad]
  rfl

lemma readConvertOpts_wraps
    (hhdr : a.header.octets s.inbox sizeofConvertHeader = some (wellFormedHeader totalLength))
    (hzero : totalLength.toNat = 0) : readConvertOpts a fuel peek s = some .undefined := by
  simp only [readConvertOpts, hhdr, parseHeader_wellFormed, tlvsLength_zero hzero]
  rw [if_neg (by decide), readOptsArea, if_pos (secondRead_wraps peek)]

lemma readConvertOpts_headerOnly
    (hhdr : a.header.octets s.inbox sizeofConvertHeader = some (wellFormedHeader totalLength))
    (hone : totalLength.toNat = 1) :
    readConvertOpts a fuel peek s = some (.returns .indeterminate
      { s.headerRead peek (wellFormedHeader totalLength) with errorCode := 0 }) := by
  simp only [readConvertOpts, hhdr, parseHeader_wellFormed, tlvsLength_pos hone.ge]
  rw [if_pos (by omega)]
  rfl

lemma readConvertOpts_area {answer : Option Bytes} (h : AsksArea a peek s totalLength answer) :
    readConvertOpts a fuel peek s = answered a fuel peek totalLength
      (s.headerRead peek (wellFormedHeader totalLength)) answer := by
  obtain ⟨hhdr, hlength, harea⟩ := h
  have hlt := totalLength.toNat_lt
  have hlong : 1 ≤ totalLength.toNat := by omega
  have hsmall : ¬ (areaAsked peek totalLength = 0 ∨ 2 ^ 63 ≤ areaAsked peek totalLength) := by
    cases peek <;> simp only [areaAsked, Bool.false_eq_true, if_true, if_false] <;> omega
  have hread : secondRead peek (4 * totalLength.toNat - 4) =
      ⟨areaAsked peek totalLength, areaAsked peek totalLength⟩ := secondRead_pos peek hlong
  have harea' : a.area.octets
      (if peek then s else s.consume (wellFormedHeader totalLength).length).inbox
        (areaAsked peek totalLength) = answer := harea
  simp only [readConvertOpts, hhdr, parseHeader_wellFormed, tlvsLength_pos hlong]
  rw [if_neg (by omega)]
  simp only [readOptsArea, hread, if_neg hsmall, harea']
  cases answer with
  | none => rfl
  | some buffer => rfl

lemma exit_of_answered {buffer : Bytes} (hasks : AsksArea a peek s totalLength (some buffer))
    (h : answered a fuel peek totalLength (s.headerRead peek (wellFormedHeader totalLength)) (some buffer) =
      some o) : OptsExit a peek s o := by
  unfold answered at h
  dsimp only at h
  split_ifs at h with hlen
  · obtain rfl := Option.some.inj h
    exact .shortArea totalLength buffer hasks hlen
  · rw [not_not] at hlen
    split at h
    · cases h
    · rename_i hparse
      exact (not_parseReturns_undefined a.refusesHuge ⟨fuel, hparse⟩).elim
    · rename_i hparse
      obtain rfl := Option.some.inj h
      exact .refused totalLength buffer hasks hlen ⟨fuel, hparse⟩
    · rename_i opts hparse
      split_ifs at h with herror
      · obtain rfl := Option.some.inj h
        exact .error totalLength buffer opts hasks hlen ⟨fuel, hparse⟩ herror
      · obtain rfl := Option.some.inj h
        exact .accepted totalLength buffer opts hasks hlen ⟨fuel, hparse⟩ (not_not.mp herror)

lemma exit_of_run (h : readConvertOpts a fuel peek s = some o) : OptsExit a peek s o := by
  cases hhdr : a.header.octets s.inbox sizeofConvertHeader with
  | none =>
    rw [readConvertOpts_none hhdr] at h
    obtain rfl := Option.some.inj h
    exact .noHeader hhdr
  | some hdr =>
    by_cases hwell : WellFormed hdr
    · obtain ⟨totalLength, rfl⟩ := hwell
      rcases (by omega : totalLength.toNat = 0 ∨ totalLength.toNat = 1 ∨ 2 ≤ totalLength.toNat)
        with hzero | hone | hlong
      · rw [readConvertOpts_wraps hhdr hzero] at h
        obtain rfl := Option.some.inj h
        exact .wraps totalLength hhdr hzero
      · rw [readConvertOpts_headerOnly hhdr hone] at h
        obtain rfl := Option.some.inj h
        exact .headerOnly totalLength hhdr hone
      · cases harea : a.area.octets (s.headerRead peek (wellFormedHeader totalLength)).inbox
            (areaAsked peek totalLength) with
        | none =>
          have hasks : AsksArea a peek s totalLength none := ⟨hhdr, hlong, harea⟩
          rw [readConvertOpts_area hasks] at h
          obtain rfl := Option.some.inj h
          exact .noArea totalLength hasks
        | some buffer =>
          have hasks : AsksArea a peek s totalLength (some buffer) := ⟨hhdr, hlong, harea⟩
          rw [readConvertOpts_area hasks] at h
          exact exit_of_answered hasks h
    · rw [readConvertOpts_bad hhdr hwell] at h
      obtain rfl := Option.some.inj h
      exact .badHeader hdr hhdr hwell

lemma run_of_exit (h : OptsExit a peek s o) : ∃ fuel, readConvertOpts a fuel peek s = some o := by
  cases h with
  | noHeader hhdr => exact ⟨0, readConvertOpts_none hhdr⟩
  | badHeader hdr hhdr hbad => exact ⟨0, readConvertOpts_bad hhdr hbad⟩
  | wraps totalLength hhdr hzero => exact ⟨0, readConvertOpts_wraps hhdr hzero⟩
  | headerOnly totalLength hhdr hone => exact ⟨0, readConvertOpts_headerOnly hhdr hone⟩
  | noArea totalLength hasks => exact ⟨0, readConvertOpts_area hasks⟩
  | shortArea totalLength buffer hasks hshort =>
    refine ⟨0, (readConvertOpts_area hasks).trans ?_⟩
    exact if_pos hshort
  | refused totalLength buffer hasks hlen hparse =>
    obtain ⟨fuel, hparse⟩ := hparse
    refine ⟨fuel, (readConvertOpts_area hasks).trans ?_⟩
    simp only [hlen, ne_eq, not_true_eq_false, if_false, answered, hparse]
  | error totalLength buffer opts hasks hlen hparse herror =>
    obtain ⟨fuel, hparse⟩ := hparse
    refine ⟨fuel, (readConvertOpts_area hasks).trans ?_⟩
    simp only [hlen, ne_eq, not_true_eq_false, if_false, answered, hparse]
    exact if_pos herror
  | accepted totalLength buffer opts hasks hlen hparse hnone =>
    obtain ⟨fuel, hparse⟩ := hparse
    refine ⟨fuel, (readConvertOpts_area hasks).trans ?_⟩
    simp only [hlen, ne_eq, not_true_eq_false, if_false, answered, hparse]
    exact if_neg (not_not.mpr hnone)

lemma readConvertOpts_iff :
    (∃ fuel, readConvertOpts a fuel peek s = some o) ↔ OptsExit a peek s o := by
  constructor
  · rintro ⟨fuel, h⟩
    exact exit_of_run h
  · exact run_of_exit

end Exits

section Reports

variable {a : OptsAnswers} {peek : Bool} {s : OptsCaller}

inductive BadReply (a : OptsAnswers) (peek : Bool) (s : OptsCaller) : Prop
  | noHeader (hhdr : a.header.octets s.inbox sizeofConvertHeader = none)
  | badHeader (hdr : Bytes) (hhdr : a.header.octets s.inbox sizeofConvertHeader = some hdr)
      (hbad : ¬ WellFormed hdr ∨ hdr = wellFormedHeader 0)
  | noArea (totalLength : UInt8) (hasks : AsksArea a peek s totalLength none)
  | shortArea (totalLength : UInt8) (buffer : Bytes)
      (hasks : AsksArea a peek s totalLength (some buffer))
      (hshort : buffer.length ≠ areaAsked peek totalLength)
  | refused (totalLength : UInt8) (buffer : Bytes)
      (hasks : AsksArea a peek s totalLength (some buffer))
      (hlen : buffer.length = areaAsked peek totalLength)
      (hparse : ParseReturns a.malloc (tlvArea peek buffer) .null)
  | error (totalLength : UInt8) (buffer : Bytes) (opts : ConvertOpts)
      (hasks : AsksArea a peek s totalLength (some buffer))
      (hlen : buffer.length = areaAsked peek totalLength)
      (hparse : ParseReturns a.malloc (tlvArea peek buffer) (.opts opts))
      (herror : opts.flags &&& convertFError ≠ 0)

structure Reports (bad : Prop) (pointer : OptsPointer) (errorCode : ℤ) : Prop where
  success : errorCode = 0 → ∃ opts, pointer = .fresh opts ∧ opts.flags &&& convertFError = 0
  failure : bad → pointer = .null ∧ errorCode ≠ 0

/-- On every return, code and pointer say what happened. -/
def ReportsTruly (a : OptsAnswers) (peek : Bool) (s : OptsCaller) : Prop :=
  ∀ fuel o, readConvertOpts a fuel peek s = some o →
    ∃ pointer t, o = .returns pointer t ∧ Reports (BadReply a peek s) pointer t.errorCode

/-- What the caller cannot tell from a success, or what is no return at all. -/
inductive Misreported (a : OptsAnswers) (peek : Bool) (s : OptsCaller) : Prop
  | badHeader (hdr : Bytes) (hhdr : a.header.octets s.inbox sizeofConvertHeader = some hdr)
      (hbad : ¬ WellFormed hdr) (herrno : a.printf s.errno = 0)
  | noTlvs (totalLength : UInt8)
      (hhdr : a.header.octets s.inbox sizeofConvertHeader = some (wellFormedHeader totalLength))
      (hlength : totalLength.toNat ≤ 1)
  | shortArea (totalLength : UInt8) (buffer : Bytes)
      (hasks : AsksArea a peek s totalLength (some buffer))
      (hshort : buffer.length ≠ areaAsked peek totalLength) (herrno : s.errno = 0)
  | refused (totalLength : UInt8) (buffer : Bytes)
      (hasks : AsksArea a peek s totalLength (some buffer))
      (hlen : buffer.length = areaAsked peek totalLength)
      (hparse : ParseReturns a.malloc (tlvArea peek buffer) .null) (hcode : s.errorCode = 0)
  | error (totalLength : UInt8) (buffer : Bytes) (opts : ConvertOpts)
      (hasks : AsksArea a peek s totalLength (some buffer))
      (hlen : buffer.length = areaAsked peek totalLength)
      (hparse : ParseReturns a.malloc (tlvArea peek buffer) (.opts opts))
      (herror : opts.flags &&& convertFError ≠ 0) (hcode : opts.errorCode = 0)

lemma headerRead_errno (peek : Bool) (hdr : Bytes) : (s.headerRead peek hdr).errno = s.errno := by
  cases peek <;> rfl

lemma headerRead_errorCode (peek : Bool) (hdr : Bytes) : (s.headerRead peek hdr).errorCode = s.errorCode := by
  cases peek <;> rfl

lemma pnat_ne_zero (n : ℕ+) : ((n : ℕ) : ℤ) ≠ 0 := Int.natCast_ne_zero.mpr n.ne_zero

lemma Reports.of_null {bad : Prop} {errorCode : ℤ} (h : errorCode ≠ 0) :
    Reports bad .null errorCode :=
  ⟨fun h0 => (h h0).elim, fun _ => ⟨rfl, h⟩⟩

lemma errorCode_ne_zero {code : UInt8} (h : code ≠ 0) : ((code.toNat : ℕ) : ℤ) ≠ 0 := by
  intro h0
  apply h
  apply UInt8.toNat_inj.mp
  exact Int.natCast_eq_zero.mp h0

lemma AsksArea.length_unique {m n : UInt8} {x y : Option Bytes} (hm : AsksArea a peek s m x)
    (hn : AsksArea a peek s n y) : m = n ∧ x = y := by
  have hhdr : wellFormedHeader m = wellFormedHeader n := Option.some.inj (hm.header.symm.trans hn.header)
  obtain rfl : m = n := by
    simp only [wellFormedHeader, List.cons.injEq, and_true, true_and] at hhdr
    exact hhdr
  exact ⟨rfl, hm.area.symm.trans hn.area⟩

lemma not_badReply {totalLength : UInt8} {buffer : Bytes} {opts : ConvertOpts}
    (hasks : AsksArea a peek s totalLength (some buffer))
    (hlen : buffer.length = areaAsked peek totalLength)
    (hparse : ParseReturns a.malloc (tlvArea peek buffer) (.opts opts))
    (hnone : opts.flags &&& convertFError = 0) : ¬ BadReply a peek s := by
  intro hbad
  cases hbad with
  | noHeader hhdr =>
    rw [hasks.header] at hhdr
    cases hhdr
  | badHeader hdr hhdr hbad =>
    obtain rfl := Option.some.inj (hasks.header.symm.trans hhdr)
    rcases hbad with hbad | hbad
    · exact hbad ⟨totalLength, rfl⟩
    · obtain rfl : totalLength = 0 := by
        simp only [wellFormedHeader, List.cons.injEq, and_true, true_and] at hbad
        exact hbad
      exact absurd hasks.length (by decide)
  | noArea n hasks' => cases (hasks.length_unique hasks').2
  | shortArea n buffer' hasks' hshort =>
    obtain ⟨rfl, hbuffer⟩ := hasks.length_unique hasks'
    obtain rfl := Option.some.inj hbuffer
    exact hshort hlen
  | refused n buffer' hasks' _ hnull =>
    obtain ⟨rfl, hbuffer⟩ := hasks.length_unique hasks'
    obtain rfl := Option.some.inj hbuffer
    cases parseReturns_unique hparse hnull
  | error n buffer' opts' hasks' _ hparse' herror =>
    obtain ⟨rfl, hbuffer⟩ := hasks.length_unique hasks'
    obtain rfl := Option.some.inj hbuffer
    obtain rfl := ParseResult.opts.inj (parseReturns_unique hparse hparse')
    exact herror hnone

lemma reports_of_exit (hgood : ¬ Misreported a peek s) {o : OptsOutcome} (h : OptsExit a peek s o) :
    ∃ pointer t, o = .returns pointer t ∧ Reports (BadReply a peek s) pointer t.errorCode := by
  cases h with
  | noHeader hhdr => exact ⟨_, _, rfl, .of_null (pnat_ne_zero _)⟩
  | badHeader hdr hhdr hbad =>
    refine ⟨_, _, rfl, .of_null fun h0 => hgood (.badHeader hdr hhdr hbad ?_)⟩
    rwa [← headerRead_errno peek hdr]
  | wraps totalLength hhdr hzero => exact (hgood (.noTlvs totalLength hhdr (by omega))).elim
  | headerOnly totalLength hhdr hone => exact (hgood (.noTlvs totalLength hhdr hone.le)).elim
  | noArea totalLength hasks => exact ⟨_, _, rfl, .of_null (pnat_ne_zero _)⟩
  | shortArea totalLength buffer hasks hshort =>
    refine ⟨_, _, rfl, .of_null fun h0 => hgood (.shortArea totalLength buffer hasks hshort ?_)⟩
    rwa [← headerRead_errno peek]
  | refused totalLength buffer hasks hlen hparse =>
    refine ⟨_, _, rfl, .of_null fun h0 => hgood (.refused totalLength buffer hasks hlen hparse ?_)⟩
    rwa [← headerRead_errorCode peek]
  | error totalLength buffer opts hasks hlen hparse herror =>
    refine ⟨_, _, rfl, .of_null (errorCode_ne_zero fun hcode => hgood ?_)⟩
    exact .error totalLength buffer opts hasks hlen hparse herror hcode
  | accepted totalLength buffer opts hasks hlen hparse hnone =>
    exact ⟨_, _, rfl, fun _ => ⟨opts, rfl, hnone⟩, fun hbad =>
      (not_badReply hasks hlen hparse hnone hbad).elim⟩

end Reports

theorem readConvertOpts_reports_iff (a : OptsAnswers) (peek : Bool) (s : OptsCaller) :
    ReportsTruly a peek s ↔ ¬ Misreported a peek s := by
  constructor
  · intro h hmis
    have hexit : ∀ o, OptsExit a peek s o →
        ∃ pointer t, o = .returns pointer t ∧ Reports (BadReply a peek s) pointer t.errorCode := by
      intro o ho
      obtain ⟨fuel, ho⟩ := readConvertOpts_iff.mpr ho
      exact h fuel o ho
    have hnull : ∀ t, OptsExit a peek s (.returns .null t) → t.errorCode ≠ 0 := by
      intro t ht h0
      obtain ⟨pointer, t', heq, hrep⟩ := hexit _ ht
      obtain ⟨rfl, rfl⟩ := OptsOutcome.returns.inj heq
      obtain ⟨opts, hopts, -⟩ := hrep.success h0
      cases hopts
    cases hmis with
    | badHeader hdr hhdr hbad herrno =>
      apply hnull _ (.badHeader hdr hhdr hbad)
      change a.printf (s.headerRead peek hdr).errno = 0
      rwa [headerRead_errno]
    | noTlvs totalLength hhdr hlength =>
      rcases (by omega : totalLength.toNat = 0 ∨ totalLength.toNat = 1) with hzero | hone
      · obtain ⟨pointer, t, heq, -⟩ := hexit _ (.wraps totalLength hhdr hzero)
        cases heq
      · obtain ⟨pointer, t, heq, hrep⟩ := hexit _ (.headerOnly totalLength hhdr hone)
        obtain ⟨rfl, rfl⟩ := OptsOutcome.returns.inj heq
        obtain ⟨opts, hopts, -⟩ := hrep.success rfl
        cases hopts
    | shortArea totalLength buffer hasks hshort herrno =>
      apply hnull _ (.shortArea totalLength buffer hasks hshort)
      change (s.headerRead peek (wellFormedHeader totalLength)).errno = 0
      rwa [headerRead_errno]
    | refused totalLength buffer hasks hlen hparse hcode =>
      apply hnull _ (.refused totalLength buffer hasks hlen hparse)
      change (s.headerRead peek (wellFormedHeader totalLength)).errorCode = 0
      rwa [headerRead_errorCode]
    | error totalLength buffer opts hasks hlen hparse herror hcode =>
      apply hnull _ (.error totalLength buffer opts hasks hlen hparse herror)
      change ((opts.errorCode.toNat : ℕ) : ℤ) = 0
      rw [hcode]
      rfl
  · rintro hgood fuel o ho
    exact reports_of_exit hgood (readConvertOpts_iff.mp ⟨fuel, ho⟩)

def wholeReplies : OptsAnswers :=
  ⟨grantingMalloc, grantingMalloc_refusesHuge, .all, 1, id, .all, 1⟩

def waitingFor (stream : Bytes) : OptsCaller := ⟨stream, 0, -1, ""⟩

/-- An error of code `0`, an unsupported version, looks like a success with no options. -/
theorem unsupportedVersion_misreported :
    (∃ fuel t, readConvertOpts wholeReplies fuel false
      (waitingFor [1, 2, 0x22, 0x63, 0x1e, 1, 0, 0]) = some (.returns .null t) ∧ t.errorCode = 0) ∧
    ¬ ReportsTruly wholeReplies false (waitingFor [1, 2, 0x22, 0x63, 0x1e, 1, 0, 0]) := by
  have hparse : ParseReturns grantingMalloc (tlvArea false [0x1e, 1, 0, 0])
      (.opts { ConvertOpts.zero with flags := convertFError }) := ⟨2, by decide⟩
  have hasks : AsksArea wholeReplies false (waitingFor [1, 2, 0x22, 0x63, 0x1e, 1, 0, 0]) 2
      (some [0x1e, 1, 0, 0]) := ⟨rfl, by decide, rfl⟩
  obtain ⟨fuel, hread⟩ := readConvertOpts_iff.mpr (.error 2 _ _ hasks rfl hparse (by decide))
  refine ⟨⟨fuel, _, hread, rfl⟩, fun h => ?_⟩
  obtain ⟨pointer, t', heq, hrep⟩ := h fuel _ hread
  obtain ⟨rfl, rfl⟩ := OptsOutcome.returns.inj heq
  obtain ⟨opts, hopts, -⟩ := hrep.success rfl
  cases hopts

end TransportConverter.Client
