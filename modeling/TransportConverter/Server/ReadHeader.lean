import TransportConverter.Foundations.Loops
import TransportConverter.Server.Packets

/-! `read_convert_header`: a header of four octets, and a second `recv` cut into TLVs. -/

namespace TransportConverter.Server

open Foundations.Memory Foundations.Loops

def convertHeaderLength : ℕ := 4

/-- What the two calls of `recv` give: `none` when the call raises. -/
structure Incoming where
  header : Option Bytes
  rest : ℕ → Option Bytes

/-- Every `recv` gets all it asks for that is left of the message. -/
def Incoming.whole (message : Bytes) : Incoming :=
  ⟨some (message.take convertHeaderLength),
    fun n => some ((message.drop convertHeaderLength).take n)⟩

inductive ReadResult
  | raised
  | nothing
  | header (convert : Convert)

variable (scapy : Scapy)

/-- `bytes(tlv)` are the octets the packet was dissected from. -/
def Scapy.tlvAt (s : Bytes) : Option TlvPacket :=
  (scapy.convertTlv s).bind fun tlv =>
    if tlv.hdr.type = 0x1 then (scapy.convertTlvInfo s).map .info
    else if tlv.hdr.type = 0x1e then (scapy.convertTlvError s).map .error
    else if tlv.hdr.type = 0xa then (scapy.convertTlvConnect s).map .connect
    else some (.convertTlv tlv)

lemma tlvAt_connect (length b₂ b₃ : UInt8) (addr : Octets 16) (rest : Bytes) :
    scapy.tlvAt (0xa :: length :: b₂ :: b₃ :: (addr.toList ++ rest)) =
      some (.connect ⟨⟨0xa, length⟩, some (Wire.ntohs (twoOctets b₂ b₃)), some (scapy.inetNtop addr)⟩) := by
  obtain ⟨ys, hys⟩ := addr
  have htake : (ys ++ rest).take 16 = ys := List.take_left' hys
  simp [Scapy.tlvAt, Scapy.convertTlv, Scapy.convertTlvConnect, hys, List.Vector.toList, htake]

lemma tlvAt_hdr {type : UInt8} {rest : Bytes} (length b₂ b₃ : UInt8)
    (hconnect : type = 0xa → 16 ≤ rest.length) :
    ∃ tlv, scapy.tlvAt (type :: length :: b₂ :: b₃ :: rest) = some tlv ∧ tlv.hdr = ⟨type, length⟩ := by
  by_cases hcon : type = 0xa
  · subst hcon
    have h16 : (rest.take 16).length = 16 := by rw [List.length_take, min_eq_left (hconnect rfl)]
    have hdissected := tlvAt_connect scapy length b₂ b₃ ⟨rest.take 16, h16⟩ (rest.drop 16)
    rw [List.Vector.toList_mk, List.take_append_drop] at hdissected
    exact ⟨_, hdissected, rfl⟩
  · simp only [Scapy.tlvAt, Scapy.convertTlv, Option.bind_some, if_neg hcon]
    split_ifs <;> exact ⟨_, rfl, rfl⟩

structure TlvLoop where
  offset : ℕ
  tlvs : List TlvPacket

def tlvBody (data : Bytes) (loop : TlvLoop) : Turn TlvLoop (Option (List TlvPacket)) :=
  if loop.offset < data.length then
    match scapy.tlvAt (data.drop loop.offset) with
    | none => .done none
    | some tlv => .again ⟨loop.offset + tlv.hdr.length.toNat * 4, loop.tlvs ++ [tlv]⟩
  else .done (some loop.tlvs)

def convertHeader (data : Bytes) : Option Convert :=
  match data with
  | [version, totalLength, m₀, m₁] => some ⟨version, totalLength, Wire.ntohs (twoOctets m₀ m₁), []⟩
  | _ => none

def readConvertHeader (fuel : ℕ) (sock : Incoming) : Option ReadResult :=
  match sock.header with
  | none => some .raised
  | some data =>
    match convertHeader data with
    | none => some .nothing
    | some header =>
      match sock.rest (header.totalLength.toNat * 4) with
      | none => some .raised
      | some data =>
        match run (tlvBody scapy data) fuel ⟨0, []⟩ with
        | none => none
        | some none => some .raised
        | some (some tlvs) => some (.header { header with tlvs })

def ReadReturns (sock : Incoming) (r : ReadResult) : Prop :=
  ∃ fuel, readConvertHeader scapy fuel sock = some r

/-- The loop seen from the octets that are left: it raises, or it ends behind the last of them. -/
inductive Walk : Bytes → Option (List TlvPacket) → Prop
  | done : Walk [] (some [])
  | raises {s : Bytes} (hne : s ≠ []) (h : scapy.tlvAt s = none) : Walk s none
  | next {s : Bytes} {tlv : TlvPacket} {r : Option (List TlvPacket)} (hne : s ≠ [])
      (h : scapy.tlvAt s = some tlv) (hw : Walk (s.drop (tlv.hdr.length.toNat * 4)) r) :
      Walk s (r.map (tlv :: ·))

variable {scapy}

section Loop

variable {data s : Bytes} {loop : TlvLoop} {r r' : Option (List TlvPacket)}

lemma tlvBody_end (h : data.length ≤ loop.offset) : tlvBody scapy data loop = .done (some loop.tlvs) :=
  if_neg (by omega)

lemma tlvBody_raises (h : loop.offset < data.length)
    (htlv : scapy.tlvAt (data.drop loop.offset) = none) :
    tlvBody scapy data loop = .done none := by
  rw [tlvBody, if_pos h, htlv]

lemma tlvBody_next {tlv : TlvPacket} (h : loop.offset < data.length)
    (htlv : scapy.tlvAt (data.drop loop.offset) = some tlv) :
    tlvBody scapy data loop =
      .again ⟨loop.offset + tlv.hdr.length.toNat * 4, loop.tlvs ++ [tlv]⟩ := by
  rw [tlvBody, if_pos h, htlv]

lemma walk_of_returns (h : Returns (tlvBody scapy data) loop r) :
    ∃ r', Walk scapy (data.drop loop.offset) r' ∧ r = r'.map (loop.tlvs ++ ·) := by
  induction h using Returns.induction with
  | done loop r hb =>
    rcases lt_or_ge loop.offset data.length with hlt | hge
    · cases htlv : scapy.tlvAt (data.drop loop.offset) with
      | none =>
        rw [tlvBody_raises hlt htlv] at hb
        cases hb
        exact ⟨none, .raises (by simpa using hlt) htlv, rfl⟩
      | some tlv =>
        rw [tlvBody_next hlt htlv] at hb
        cases hb
    · rw [tlvBody_end hge] at hb
      cases hb
      rw [List.drop_eq_nil_of_le hge]
      exact ⟨some [], .done, by simp⟩
  | again loop next r hb _ ih =>
    obtain ⟨r', hw, rfl⟩ := ih
    rcases lt_or_ge loop.offset data.length with hlt | hge
    · cases htlv : scapy.tlvAt (data.drop loop.offset) with
      | none =>
        rw [tlvBody_raises hlt htlv] at hb
        cases hb
      | some tlv =>
        rw [tlvBody_next hlt htlv] at hb
        cases hb
        refine ⟨r'.map (tlv :: ·), .next (by simpa using hlt) htlv ?_, ?_⟩
        · rw [List.drop_drop]
          exact hw
        · cases r' <;> simp
    · rw [tlvBody_end hge] at hb
      cases hb

lemma returns_of_walk (hw : Walk scapy s r) (hs : s = data.drop loop.offset) :
    Returns (tlvBody scapy data) loop (r.map (loop.tlvs ++ ·)) := by
  induction hw generalizing loop with
  | done =>
    have hge : data.length ≤ loop.offset := List.drop_eq_nil_iff.mp hs.symm
    have hb : tlvBody scapy data loop = .done (some loop.tlvs) := tlvBody_end hge
    simpa using Returns.done hb
  | raises hne h =>
    subst hs
    exact .done (tlvBody_raises (by simpa using hne) h)
  | @next s tlv r hne h _ ih =>
    subst hs
    have hb := tlvBody_next (by simpa using hne) h
    have hnext : Returns (tlvBody scapy data)
        ⟨loop.offset + tlv.hdr.length.toNat * 4, loop.tlvs ++ [tlv]⟩ _ := ih (List.drop_drop ..)
    have hmap : (r.map (tlv :: ·)).map (loop.tlvs ++ ·) = r.map ((loop.tlvs ++ [tlv]) ++ ·) := by
      cases r <;> simp
    rw [hmap]
    exact hnext.again hb

lemma returns_iff_walk : Returns (tlvBody scapy data) ⟨0, []⟩ r ↔ Walk scapy data r := by
  constructor
  · intro h
    obtain ⟨r', hw, rfl⟩ := walk_of_returns h
    simpa using hw
  · intro hw
    have h : Returns (tlvBody scapy data) ⟨0, []⟩ _ := returns_of_walk hw rfl
    simpa using h

end Loop

lemma readConvertHeader_mono {sock : Incoming} {r : ReadResult} {m n : ℕ} (hmn : m ≤ n)
    (h : readConvertHeader scapy m sock = some r) : readConvertHeader scapy n sock = some r := by
  revert h
  unfold readConvertHeader
  cases sock.header with
  | none => exact id
  | some data =>
    dsimp only
    cases convertHeader data with
    | none => exact id
    | some header =>
      dsimp only
      cases sock.rest (header.totalLength.toNat * 4) with
      | none => exact id
      | some data =>
        dsimp only
        cases hrun : run (tlvBody scapy data) m ⟨0, []⟩ with
        | none => exact fun h => by cases h
        | some w =>
          rw [run_mono hmn hrun]
          exact id

lemma ReadReturns.unique {sock : Incoming} {r r' : ReadResult} (h : ReadReturns scapy sock r)
    (h' : ReadReturns scapy sock r') : r = r' := by
  obtain ⟨m, hm⟩ := h
  obtain ⟨n, hn⟩ := h'
  have hm' := readConvertHeader_mono (le_max_left m n) hm
  rw [readConvertHeader_mono (le_max_right m n) hn] at hm'
  exact (Option.some.inj hm').symm

section Whole

variable {message : Bytes} {r : ReadResult}

def secondRecv (message : Bytes) : Bytes :=
  (message.drop convertHeaderLength).take ((message.getD 1 0).toNat * 4)

def Convert.read (header : Convert) : Option (List TlvPacket) → ReadResult
  | none => .raised
  | some tlvs => .header { header with tlvs }

lemma readReturns_iff {sock : Incoming} {head words : Bytes} {header : Convert}
    (hhead : sock.header = some head) (hheader : convertHeader head = some header)
    (hrest : sock.rest (header.totalLength.toNat * 4) = some words) :
    ReadReturns scapy sock r ↔ ∃ w, Walk scapy words w ∧ r = header.read w := by
  have hread : ∀ fuel, readConvertHeader scapy fuel sock =
      (run (tlvBody scapy words) fuel ⟨0, []⟩).map header.read := by
    intro fuel
    simp only [readConvertHeader, hhead, hheader, hrest]
    cases run (tlvBody scapy words) fuel ⟨0, []⟩ with
    | none => rfl
    | some w => cases w <;> rfl
  constructor
  · rintro ⟨fuel, hfuel⟩
    rw [hread, Option.map_eq_some_iff] at hfuel
    obtain ⟨w, hrun, rfl⟩ := hfuel
    exact ⟨w, returns_iff_walk.mp ⟨fuel, hrun⟩, rfl⟩
  · rintro ⟨w, hwalk, rfl⟩
    obtain ⟨fuel, hrun⟩ := returns_iff_walk.mpr hwalk
    exact ⟨fuel, by rw [hread, hrun]; rfl⟩

lemma readReturns_nothing {sock : Incoming} {head : Bytes} (hhead : sock.header = some head)
    (hshort : convertHeader head = none) : ReadReturns scapy sock .nothing :=
  ⟨0, by simp only [readConvertHeader, hhead, hshort]⟩

lemma convertHeader_eq_none {head : Bytes} (h : head.length ≠ convertHeaderLength) :
    convertHeader head = none := by
  unfold convertHeader
  split
  · exact (h rfl).elim
  · rfl

lemma readReturns_short (h : message.length < convertHeaderLength) :
    ReadReturns scapy (.whole message) .nothing := by
  have htake : message.take convertHeaderLength = message := List.take_of_length_le h.le
  apply readReturns_nothing rfl
  rw [htake]
  exact convertHeader_eq_none h.ne

lemma convertHeader_take (h : convertHeaderLength ≤ message.length) :
    ∃ header, convertHeader (message.take convertHeaderLength) = some header ∧
      header.totalLength = message.getD 1 0 := by
  match message, h with
  | version :: totalLength :: m₀ :: m₁ :: _, _ => exact ⟨_, rfl, rfl⟩

lemma readReturns_whole (scapy : Scapy) (h : convertHeaderLength ≤ message.length) :
    ∃ header, convertHeader (message.take convertHeaderLength) = some header ∧
      ∀ r, ReadReturns scapy (.whole message) r ↔
        ∃ w, Walk scapy (secondRecv message) w ∧ r = header.read w := by
  obtain ⟨header, hheader, hlength⟩ := convertHeader_take h
  refine ⟨header, hheader, fun r => readReturns_iff rfl hheader ?_⟩
  rw [hlength]
  rfl

end Whole

end TransportConverter.Server
