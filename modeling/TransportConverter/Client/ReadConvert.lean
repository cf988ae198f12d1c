import TransportConverter.Client.SocketTable

/-! `_read_convert`, over the stream of octets the peer of a socket has sent and nobody consumed. -/

namespace TransportConverter.Client

open Foundations.Memory Wire Codec

def syscallSkip : ℤ := 0
def syscallRun : ℤ := 1

/-- One answer of the kernel to a read: an error, at most `k` octets, or everything asked for that the peer
sends before the end of the stream. -/
inductive Recv
  | fails
  | upTo (k : ℕ)
  | all
  deriving DecidableEq

def Recv.octets (r : Recv) (stream : Bytes) (n : ℕ) : Option Bytes :=
  match r with
  | .fails => none
  | .upTo k => some (stream.take (min k n))
  | .all => some (stream.take n)

structure Answers where
  malloc : Allocator
  converterConnect : ℤ
  converterSend : ℤ
  header : Recv
  area : Recv
  connect : ℤ
  send : ℤ
  recv : Recv
  close : ℤ

inductive Event
  | redirected (fd : ℤ) (message : Bytes)
  | connect (fd : ℤ)
  | noLinger (fd : ℤ)
  | send (fd : ℤ) (unread : Bytes)
  | recv (fd : ℤ) (unread delivered : Bytes) (peek : Bool)
  | close (fd : ℤ)
  deriving DecidableEq

/-- `freed` tells what `_free_state` was applied to: a descriptor, and whether it had a node then. -/
structure Library where
  htable : SocketHtable
  inbox : ℤ → Bytes
  isOpen : ℤ → Bool
  log : List Event
  freed : List (ℤ × Bool)

namespace Library

variable (s : Library) (fd : ℤ)

def record (e : Event) : Library := { s with log := s.log ++ [e] }

def freeState : Library :=
  { s with
    htable := s.htable.freeState fd
    freed := s.freed ++ [(fd, decide (0 < s.htable.copies fd))] }

def free : Option Library :=
  (s.htable.lookup fd).map fun found => if found then s.freeState fd else s

def consume (n : ℕ) : Library :=
  { s with inbox := Function.update s.inbox fd ((s.inbox fd).drop n) }

/-- The socket's stream is not what it was when it was opened: the kernel forgets it. -/
def shut : Library :=
  { s with
    isOpen := Function.update s.isOpen fd false
    inbox := Function.update s.inbox fd [] }

end Library

inductive Outcome (ρ : Type)
  | returns (result : ρ) (s : Library)
  | undefined

section ReadConvert

variable (a : Answers) (fuel : ℕ) (peek : Bool) (fd : ℤ) (s : Library)

def readSkip : Option (Outcome ℤ) := some (.returns syscallSkip s)

def readError : Option (Outcome ℤ) :=
  let s := s.record (.noLinger fd)
  readSkip (if peek then s else s.freeState fd)

def readDone : Option (Outcome ℤ) :=
  some (.returns syscallRun (if peek then s else s.freeState fd))

def readArea (length : ℕ) : Option (Outcome ℤ) :=
  let offset := if peek then sizeofConvertHeader else 0
  let bufferSize := sizeT (length + offset)
  if bufferSize = 0 ∨ 2 ^ 63 ≤ bufferSize then some .undefined
  else
    let length := if peek then length + sizeofConvertHeader else length
    match a.area.octets (s.inbox fd) length with
    | none => readError peek fd s
    | some buffer =>
      let s := s.consume fd buffer.length
      if buffer.length ≠ length then readError peek fd s
      else
        match convertParseTlvs a.malloc fuel (.ofBytes (buffer.drop offset)) with
        | none => none
        | some .undefined => some .undefined
        | some .null => readError peek fd s
        | some (.opts opts) =>
          if opts.flags &&& convertFError ≠ 0 then readError peek fd s else readDone peek fd s

def readConvert : Option (Outcome ℤ) :=
  match a.header.octets (s.inbox fd) sizeofConvertHeader with
  | none => readSkip s
  | some hdr =>
    let s := if peek then s else s.consume fd hdr.length
    match convertParseHeader hdr with
    | none => readError peek fd s
    | some length => if length = 0 then readDone peek fd s else readArea a fuel peek fd s length

end ReadConvert

structure ReplyRead (a : Answers) (stream hdr area : Bytes) : Prop where
  header : a.header.octets stream sizeofConvertHeader = some hdr
  valid : convertParseHeader hdr = some area.length
  fits : area.length < 2 ^ 63
  area : area = [] ∨ a.area.octets (stream.drop hdr.length) area.length = some area ∧
    ∃ opts, ParseReturns a.malloc (.ofBytes area) (.opts opts) ∧ opts.flags &&& convertFError = 0

def Unacceptable (malloc : Allocator) (length : ℕ) (buffer : Bytes) : Prop :=
  buffer.length ≠ length ∨ ParseReturns malloc (.ofBytes buffer) .null ∨
    ∃ opts, ParseReturns malloc (.ofBytes buffer) (.opts opts) ∧ opts.flags &&& convertFError ≠ 0

/-- The ways to the label `error`, with the number of octets consumed on the way. -/
inductive Refused (a : Answers) (stream : Bytes) : ℕ → Prop
  | badHeader (hdr : Bytes) (hhdr : a.header.octets stream sizeofConvertHeader = some hdr)
      (hparse : convertParseHeader hdr = none) : Refused a stream hdr.length
  | noArea (hdr : Bytes) (length : ℕ)
      (hhdr : a.header.octets stream sizeofConvertHeader = some hdr)
      (hparse : convertParseHeader hdr = some length) (hpos : length ≠ 0)
      (harea : a.area.octets (stream.drop hdr.length) length = none) : Refused a stream hdr.length
  | badArea (hdr : Bytes) (length : ℕ) (buffer : Bytes)
      (hhdr : a.header.octets stream sizeofConvertHeader = some hdr)
      (hparse : convertParseHeader hdr = some length) (hpos : length ≠ 0)
      (harea : a.area.octets (stream.drop hdr.length) length = some buffer)
      (hbad : Unacceptable a.malloc length buffer) : Refused a stream (hdr.length + buffer.length)

section Spec

variable {a : Answers} {fuel : ℕ} {fd : ℤ} {s t : Library} {result : ℤ} {stream : Bytes}

lemma consume_consume (m n : ℕ) : (s.consume fd m).consume fd n = s.consume fd (m + n) := by
  simp [Library.consume, List.drop_drop]

lemma consume_inbox (n : ℕ) : (s.consume fd n).inbox fd = (s.inbox fd).drop n :=
  Function.update_self ..

lemma header_inbox (peek : Bool) (n : ℕ) : (if peek then s else s.consume fd n).inbox fd =
    if peek then s.inbox fd else (s.inbox fd).drop n := by
  cases peek
  · exact consume_inbox n
  · rfl

lemma free_log (h : s.free fd = some t) : t.log = s.log := by
  obtain ⟨found, -, rfl⟩ := Option.map_eq_some_iff.mp h
  split_ifs <;> rfl

lemma octets_eq_none_iff {r : Recv} {n : ℕ} : r.octets stream n = none ↔ r = .fails := by
  cases r <;> simp [Recv.octets]

lemma parseHeader_lt {hdr : Bytes} {length : ℕ} (h : convertParseHeader hdr = some length) :
    length < 2 ^ 64 := by
  unfold convertParseHeader at h
  split at h
  · split_ifs at h
    obtain rfl := Option.some.inj h
    exact Nat.mod_lt _ (by decide)
  · cases h

lemma parseHeader_length {hdr : Bytes} {length : ℕ} (h : convertParseHeader hdr = some length) :
    hdr.length = sizeofConvertHeader := by
  unfold convertParseHeader at h
  split at h
  · rfl
  · cases h

lemma readArea_cases {length : ℕ} (hlt : length < 2 ^ 64)
    (h : readArea a fuel false fd s length = some (.returns result t)) :
    (a.area = .fails ∧ result = syscallSkip ∧ t = (s.record (.noLinger fd)).freeState fd) ∨
    (∃ buffer, a.area.octets (s.inbox fd) length = some buffer ∧
      ((Unacceptable a.malloc length buffer ∧ result = syscallSkip ∧
          t = ((s.consume fd buffer.length).record (.noLinger fd)).freeState fd) ∨
        (buffer.length = length ∧ length < 2 ^ 63 ∧ result = syscallRun ∧
          (∃ opts, ParseReturns a.malloc (.ofBytes buffer) (.opts opts) ∧
            opts.flags &&& convertFError = 0) ∧
          t = (s.consume fd buffer.length).freeState fd))) := by
  have hsize : sizeT (length + 0) = length := Nat.mod_eq_of_lt hlt
  simp only [readArea, Bool.false_eq_true, if_false, hsize, List.drop_zero] at h
  by_cases hbig : length = 0 ∨ 2 ^ 63 ≤ length
  · rw [if_pos hbig] at h
    cases h
  rw [if_neg hbig] at h
  cases harea : a.area.octets (s.inbox fd) length with
  | none =>
    rw [harea] at h
    cases h
    exact Or.inl ⟨octets_eq_none_iff.mp harea, rfl, rfl⟩
  | some buffer =>
    rw [harea] at h
    refine Or.inr ⟨buffer, rfl, ?_⟩
    dsimp only at h
    by_cases hlen : buffer.length ≠ length
    · rw [if_pos hlen] at h
      cases h
      exact Or.inl ⟨Or.inl hlen, rfl, rfl⟩
    rw [if_neg hlen] at h
    cases hparse : convertParseTlvs a.malloc fuel (.ofBytes buffer) with
    | none =>
      rw [hparse] at h
      cases h
    | some r =>
      rw [hparse] at h
      cases r with
      | undefined => cases h
      | null =>
        cases h
        exact Or.inl ⟨Or.inr (Or.inl ⟨fuel, hparse⟩), rfl, rfl⟩
      | opts opts =>
        dsimp only at h
        by_cases herr : opts.flags &&& convertFError ≠ 0
        · rw [if_pos herr] at h
          cases h
          exact Or.inl ⟨Or.inr (Or.inr ⟨opts, ⟨fuel, hparse⟩, herr⟩), rfl, rfl⟩
        · rw [if_neg herr] at h
          cases h
          exact Or.inr ⟨not_not.mp hlen, by omega, rfl, ⟨opts, ⟨fuel, hparse⟩, not_not.mp herr⟩, rfl⟩

lemma readConvert_cases (h : readConvert a fuel false fd s = some (.returns result t)) :
    (a.header = .fails ∧ result = syscallSkip ∧ t = s) ∨
    (∃ hdr area, ReplyRead a (s.inbox fd) hdr area ∧ result = syscallRun ∧
      t = (s.consume fd (hdr.length + area.length)).freeState fd) ∨
    (∃ n, Refused a (s.inbox fd) n ∧ result = syscallSkip ∧
      t = ((s.consume fd n).record (.noLinger fd)).freeState fd) := by
  cases hhdr : a.header.octets (s.inbox fd) sizeofConvertHeader with
  | none =>
    rw [readConvert, hhdr] at h
    cases h
    exact Or.inl ⟨octets_eq_none_iff.mp hhdr, rfl, rfl⟩
  | some hdr =>
    right
    simp only [readConvert, hhdr, Bool.false_eq_true, if_false] at h
    cases hparse : convertParseHeader hdr with
    | none =>
      rw [hparse] at h
      cases h
      exact Or.inr ⟨hdr.length, .badHeader hdr hhdr hparse, rfl, rfl⟩
    | some length =>
      rw [hparse] at h
      dsimp only at h
      by_cases hpos : length = 0
      · rw [if_pos hpos] at h
        cases h
        exact Or.inl ⟨hdr, [], ⟨hhdr, by rw [hparse, hpos]; rfl, by decide, Or.inl rfl⟩, rfl, rfl⟩
      · rw [if_neg hpos] at h
        have hcases := readArea_cases (parseHeader_lt hparse) h
        rw [consume_inbox] at hcases
        rcases hcases with ⟨hfail, hres, ht⟩ | ⟨buffer, harea, hcase⟩
        · exact Or.inr ⟨hdr.length, .noArea hdr length hhdr hparse hpos
            (octets_eq_none_iff.mpr hfail), hres, ht⟩
        rw [consume_consume] at hcase
        rcases hcase with ⟨hbad, hres, ht⟩ | ⟨hlen, hfits, hres, hopts, ht⟩
        · exact Or.inr ⟨_, .badArea hdr length buffer hhdr hparse hpos harea hbad, hres, ht⟩
        · subst hlen
          exact Or.inl ⟨hdr, buffer, ⟨hhdr, hparse, hfits, Or.inr ⟨harea, hopts⟩⟩, hres, ht⟩

lemma Refused.not_replyRead {n : ℕ} (h : Refused a stream n) (hdr area : Bytes) :
    ¬ ReplyRead a stream hdr area := by
  rintro ⟨hhdr, hvalid, -, harea⟩
  cases h with
  | badHeader hdr' hhdr' hparse =>
    obtain rfl := Option.some.inj (hhdr.symm.trans hhdr')
    rw [hparse] at hvalid
    cases hvalid
  | noArea hdr' length hhdr' hparse hpos hnone =>
    obtain rfl := Option.some.inj (hhdr.symm.trans hhdr')
    obtain rfl := Option.some.inj (hparse.symm.trans hvalid)
    rcases harea with rfl | ⟨harea, -⟩
    · exact hpos rfl
    · rw [hnone] at harea
      cases harea
  | badArea hdr' length buffer hhdr' hparse hpos hsome hbad =>
    obtain rfl := Option.some.inj (hhdr.symm.trans hhdr')
    obtain rfl := Option.some.inj (hparse.symm.trans hvalid)
    rcases harea with rfl | ⟨harea, opts, hopts, herr⟩
    · exact hpos rfl
    · obtain rfl := Option.some.inj (hsome.symm.trans harea)
      rcases hbad with hbad | hbad | ⟨opts', hopts', herr'⟩
      · exact hbad rfl
      · cases parseReturns_unique hbad hopts
      · cases parseReturns_unique hopts' hopts
        exact herr' herr

lemma readConvert_headerOnly {hdr : Bytes}
    (hhdr : a.header.octets (s.inbox fd) sizeofConvertHeader = some hdr)
    (hvalid : convertParseHeader hdr = some 0) :
    readConvert a fuel false fd s = readDone false fd (s.consume fd hdr.length) := by
  simp only [readConvert, hhdr, hvalid, Bool.false_eq_true, if_false, if_true]

lemma readConvert_parsed {hdr area : Bytes} {opts : ConvertOpts}
    (hhdr : a.header.octets (s.inbox fd) sizeofConvertHeader = some hdr)
    (hvalid : convertParseHeader hdr = some area.length) (hfits : area.length < 2 ^ 63)
    (hne : area ≠ []) (harea : a.area.octets ((s.inbox fd).drop hdr.length) area.length = some area)
    (hparse : ParseReturns a.malloc (.ofBytes area) (.opts opts)) :
    ∃ fuel, readConvert a fuel false fd s =
      if opts.flags &&& convertFError ≠ 0 then
        readError false fd (s.consume fd (hdr.length + area.length))
      else readDone false fd (s.consume fd (hdr.length + area.length)) := by
  obtain ⟨fuel, hparse⟩ := hparse
  have hpos : 0 < area.length := List.length_pos_iff.mpr hne
  have hsize : sizeT (area.length + 0) = area.length := Nat.mod_eq_of_lt (by omega)
  refine ⟨fuel, ?_⟩
  simp only [readConvert, hhdr, hvalid, Bool.false_eq_true, if_false, if_neg hpos.ne', readArea, hsize,
    consume_inbox, harea, ne_eq, not_true_eq_false, List.drop_zero, hparse, consume_consume]
  exact if_neg (by omega)

lemma readConvert_reply {hdr area : Bytes} (h : ReplyRead a (s.inbox fd) hdr area) :
    ∃ fuel, readConvert a fuel false fd s =
      some (.returns syscallRun ((s.consume fd (hdr.length + area.length)).freeState fd)) := by
  obtain ⟨hhdr, hvalid, hfits, harea⟩ := h
  by_cases hne : area = []
  · rw [hne] at hvalid ⊢
    exact ⟨0, readConvert_headerOnly hhdr hvalid⟩
  · obtain ⟨hoctets, opts, hparse, herr⟩ := harea.resolve_left hne
    obtain ⟨fuel, hread⟩ := readConvert_parsed hhdr hvalid hfits hne hoctets hparse
    rw [if_neg (not_not.mpr herr)] at hread
    exact ⟨fuel, hread⟩

end Spec

end TransportConverter.Client
