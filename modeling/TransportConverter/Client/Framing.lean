import TransportConverter.Client.ReadOpts

/-! How much of the stream `_read_convert` and `read_convert_opts` take for the length in a header. -/

namespace TransportConverter.Client

open Foundations.Memory Wire Codec

def totalLength (hdr : Octets 4) : UInt8 := hdr.get 1

def Taken (n : ℕ) (before after : Bytes) : Prop := n ≤ before.length ∧ after = before.drop n

structure Framed (hdr : Octets 4) (peek : Bool) : Prop where
  exact : ∀ n, convertParseHeader hdr.toList = some n →
    (n : ℤ) = 4 * (totalLength hdr).toNat - 4 ∧ n ≤ 1016
  bounded : ∀ n, convertParseHeader hdr.toList = some n →
    (secondRead peek n).asked ≤ (secondRead peek n).declared
  readConvert : ∀ a fuel fd s t, a.header.octets (s.inbox fd) sizeofConvertHeader = some hdr.toList →
    readConvert a fuel peek fd s = some (.returns syscallRun t) →
    Taken (4 * (totalLength hdr).toNat) (s.inbox fd) (t.inbox fd)
  readConvertOpts : ∀ a fuel s pointer t,
    a.header.octets s.inbox sizeofConvertHeader = some hdr.toList →
    readConvertOpts a fuel peek s = some (.returns pointer t) → pointer ≠ .null →
    Taken (4 * (totalLength hdr).toNat) s.inbox t.inbox

section Header

variable {hdr : Octets 4}

lemma wellFormed_toList (h : WellFormed hdr.toList) : hdr.toList = wellFormedHeader (totalLength hdr) := by
  obtain ⟨n, hn⟩ := h
  have hget : hdr = ⟨wellFormedHeader n, rfl⟩ := Subtype.ext hn
  rw [hget]
  rfl

lemma parseHeader_exact (hpos : 1 ≤ (totalLength hdr).toNat) {n : ℕ}
    (h : convertParseHeader hdr.toList = some n) :
    WellFormed hdr.toList ∧ n = 4 * (totalLength hdr).toNat - 4 := by
  have hwell : WellFormed hdr.toList := by
    by_contra hbad
    rw [parseHeader_eq_none_iff.mpr hbad] at h
    cases h
  rw [wellFormed_toList hwell, parseHeader_wellFormed, tlvsLength_pos hpos] at h
  exact ⟨hwell, (Option.some.inj h).symm⟩

end Header

section Taking

variable {stream hdr : Bytes} {n : ℕ}

lemma octets_length_le {r : Recv} (h : r.octets stream n = some hdr) :
    hdr.length ≤ stream.length ∧ hdr.length ≤ n := by
  cases r with
  | fails => cases h
  | upTo k =>
    obtain rfl := Option.some.inj h
    rw [List.length_take]
    omega
  | all =>
    obtain rfl := Option.some.inj h
    rw [List.length_take]
    omega

lemma taken_twice {peek : Bool} {m : ℕ} (hhdr : hdr.length = 4) (hle : hdr.length ≤ stream.length)
    (hread : m - (if peek then 0 else 4) ≤ (if peek then stream else stream.drop hdr.length).length)
    (hm : 4 ≤ m) :
    Taken m stream ((if peek then stream else stream.drop hdr.length).drop
      (m - (if peek then 0 else 4))) := by
  cases peek
  · simp only [Bool.false_eq_true, if_false, List.length_drop] at hread ⊢
    refine ⟨by omega, ?_⟩
    rw [List.drop_drop, hhdr]
    congr 1
    omega
  · simp only [if_true, Nat.sub_zero] at hread ⊢
    exact ⟨hread, rfl⟩

end Taking

section ReadConvert

variable {a : Answers} {fuel : ℕ} {peek : Bool} {fd : ℤ} {s t : Library} {length : ℕ}

lemma parseHeader_le {hdr : Bytes} (h : convertParseHeader hdr = some length) :
    length ≤ 2 ^ 64 - 4 := by
  obtain ⟨n, -, hn⟩ := parseHeader_eq_some h
  have hlt := n.toNat_lt
  rcases Nat.eq_zero_or_pos n.toNat with hzero | hpos
  · rw [tlvsLength_zero hzero] at hn
    exact hn.le
  · rw [tlvsLength_pos hpos] at hn
    omega

lemma readArea_secondRead (hle : length ≤ 2 ^ 64 - 4) :
    readArea a fuel peek fd s length =
      if (secondRead peek length).declared = 0 ∨ 2 ^ 63 ≤ (secondRead peek length).declared then
        some .undefined
      else
        match a.area.octets (s.inbox fd) (secondRead peek length).asked with
        | none => readError peek fd s
        | some buffer =>
          let s := s.consume fd buffer.length
          if buffer.length ≠ (secondRead peek length).asked then readError peek fd s
          else
            match convertParseTlvs a.malloc fuel (tlvArea peek buffer) with
            | none => none
            | some .undefined => some .undefined
            | some .null => readError peek fd s
            | some (.opts opts) =>
              if opts.flags &&& convertFError ≠ 0 then readError peek fd s else readDone peek fd s := by
  cases peek
  · rfl
  · by_cases hwrap : (secondRead true length).declared = 0 ∨ 2 ^ 63 ≤ (secondRead true length).declared
    · have hwrap' : sizeT (length + sizeofConvertHeader) = 0 ∨
          2 ^ 63 ≤ sizeT (length + sizeofConvertHeader) := hwrap
      rw [if_pos hwrap, readArea]
      exact if_pos hwrap'
    · have hasked : (secondRead true length).asked = length + sizeofConvertHeader := by
        simp only [secondRead, sizeT, sizeofConvertHeader, if_true, not_or, not_le] at hwrap ⊢
        omega
      rw [if_neg hwrap, hasked, readArea]
      exact if_neg hwrap

lemma readError_ne_run {u : Library} : readError peek fd u ≠ some (.returns syscallRun t) := by
  intro h
  cases h

lemma readDone_inbox {u : Library} (h : readDone peek fd u = some (.returns syscallRun t)) :
    t.inbox = u.inbox := by
  cases h
  cases peek <;> rfl

lemma readArea_run (hle : length ≤ 2 ^ 64 - 4)
    (h : readArea a fuel peek fd s length = some (.returns syscallRun t)) :
    (secondRead peek length).asked ≤ (s.inbox fd).length ∧
      t.inbox fd = (s.inbox fd).drop (secondRead peek length).asked := by
  rw [readArea_secondRead hle] at h
  by_cases hwrap : (secondRead peek length).declared = 0 ∨ 2 ^ 63 ≤ (secondRead peek length).declared
  · rw [if_pos hwrap] at h
    cases h
  rw [if_neg hwrap] at h
  cases harea : a.area.octets (s.inbox fd) (secondRead peek length).asked with
  | none =>
    rw [harea] at h
    exact (readError_ne_run h).elim
  | some buffer =>
    rw [harea] at h
    dsimp only at h
    split_ifs at h with hlen
    · exact (readError_ne_run h).elim
    · rw [not_not] at hlen
      have hthere := (octets_length_le harea).1
      split at h
      · cases h
      · cases h
      · exact (readError_ne_run h).elim
      · split_ifs at h with herror
        · exact (readError_ne_run h).elim
        · rw [readDone_inbox h, consume_inbox, hlen]
          exact ⟨hlen ▸ hthere, rfl⟩

variable {hdr : Bytes}

lemma readConvert_run (hhdr : a.header.octets (s.inbox fd) sizeofConvertHeader = some hdr)
    (h : readConvert a fuel peek fd s = some (.returns syscallRun t)) :
    ∃ n, convertParseHeader hdr = some n ∧
      let front := if peek then s.inbox fd else (s.inbox fd).drop hdr.length
      (n = 0 ∧ t.inbox fd = front ∨
        n ≠ 0 ∧ (secondRead peek n).asked ≤ front.length ∧
          t.inbox fd = front.drop (secondRead peek n).asked) := by
  have hfront : (if peek then s else s.consume fd hdr.length).inbox fd =
      if peek then s.inbox fd else (s.inbox fd).drop hdr.length := header_inbox peek hdr.length
  simp only [readConvert, hhdr] at h
  cases hparse : convertParseHeader hdr with
  | none =>
    rw [hparse] at h
    exact (readError_ne_run h).elim
  | some n =>
    rw [hparse] at h
    refine ⟨n, rfl, ?_⟩
    dsimp only at h ⊢
    by_cases hzero : n = 0
    · rw [if_pos hzero] at h
      rw [readDone_inbox h]
      exact Or.inl ⟨hzero, hfront⟩
    · rw [if_neg hzero] at h
      obtain ⟨hle, hinbox⟩ := readArea_run (parseHeader_le hparse) h
      rw [hfront] at hle hinbox
      exact Or.inr ⟨hzero, hle, hinbox⟩

end ReadConvert

section Frames

variable {hdr : Octets 4} {peek : Bool}

lemma framed_of_malformed (h : ¬ WellFormed hdr.toList) : Framed hdr peek := by
  have hnone := parseHeader_eq_none_iff.mpr h
  refine ⟨fun n hn => ?_, fun n hn => ?_, fun a fuel fd s t hhdr hrun => ?_,
    fun a fuel s pointer t hhdr hrun hpointer => ?_⟩
  · rw [hnone] at hn
    cases hn
  · rw [hnone] at hn
    cases hn
  · obtain ⟨n, hn, -⟩ := readConvert_run hhdr hrun
    rw [hnone] at hn
    cases hn
  · rw [readConvertOpts_bad hhdr h] at hrun
    cases hrun
    exact (hpointer rfl).elim

lemma framed_of_long (h : 2 ≤ (totalLength hdr).toNat ∨ (totalLength hdr).toNat = 1 ∧ peek = false) :
    Framed hdr peek := by
  have hpos : 1 ≤ (totalLength hdr).toNat := by omega
  have hlt := (totalLength hdr).toNat_lt
  have hfour : hdr.toList.length = 4 := hdr.toList_length
  have hread := secondRead_pos peek hpos
  refine ⟨fun n hn => ?_, fun n hn => ?_, fun a fuel fd s t hhdr hrun => ?_,
    fun a fuel s pointer t hhdr hrun hpointer => ?_⟩
  · obtain ⟨-, rfl⟩ := parseHeader_exact hpos hn
    omega
  · obtain ⟨-, rfl⟩ := parseHeader_exact hpos hn
    rw [hread]
  · have hle := (octets_length_le hhdr).1
    obtain ⟨n, hn, hcase⟩ := readConvert_run hhdr hrun
    obtain ⟨-, rfl⟩ := parseHeader_exact hpos hn
    rcases hcase with ⟨hzero, ht⟩ | ⟨-, hasked, ht⟩
    · obtain ⟨hone, rfl⟩ := h.resolve_left (by omega)
      rw [hone, ht]
      exact ⟨hfour.symm.le.trans hle, congrArg ((s.inbox fd).drop ·) hfour⟩
    · rw [hread] at hasked ht
      rw [ht]
      exact taken_twice hfour hle hasked (by omega)
  · have hle := (octets_length_le hhdr).1
    have hinbox : ∀ hdr, (s.headerRead peek hdr).inbox =
        if peek then s.inbox else s.inbox.drop hdr.length := by
      intro hdr
      cases peek <;> rfl
    by_cases hwell : WellFormed hdr.toList
    · have hlist := wellFormed_toList hwell
      rw [hlist] at hhdr hle hfour
      have hsame : ∀ n, a.header.octets s.inbox sizeofConvertHeader = some (wellFormedHeader n) →
          n = totalLength hdr := by
        intro n hn
        have heq := Option.some.inj (hn.symm.trans hhdr)
        simp only [wellFormedHeader, List.cons.injEq, and_true, true_and] at heq
        exact heq
      generalize totalLength hdr = m at *
      cases readConvertOpts_iff.mp ⟨fuel, hrun⟩ with
      | noHeader | badHeader | noArea | shortArea | refused | error => exact (hpointer rfl).elim
      | headerOnly n hn hone =>
        obtain rfl := hsame n hn
        obtain ⟨-, rfl⟩ := h.resolve_left (by omega)
        rw [hone]
        exact ⟨hfour ▸ hle, rfl⟩
      | accepted n buffer opts hasks hlen hparse hnone =>
        obtain rfl := hsame n hasks.header
        have hsecond := (octets_length_le hasks.area).1
        rw [hlen, hinbox] at hsecond
        have htaken := taken_twice hfour hle hsecond (by omega)
        simpa only [OptsCaller.consume, hinbox, hlen, areaAsked] using htaken
    · rw [readConvertOpts_bad hhdr hwell] at hrun
      cases hrun
      exact (hpointer rfl).elim

lemma not_framed_zero (hwell : WellFormed hdr.toList) (hzero : (totalLength hdr).toNat = 0) :
    ¬ Framed hdr peek := by
  intro h
  have hparse : convertParseHeader hdr.toList = some (2 ^ 64 - 4) := by
    rw [wellFormed_toList hwell, parseHeader_wellFormed, tlvsLength_zero hzero]
  have hbound := (h.exact _ hparse).2
  omega

lemma not_framed_peek (hwell : WellFormed hdr.toList) (hone : (totalLength hdr).toNat = 1) :
    ¬ Framed hdr true := by
  intro h
  have hlist := wellFormed_toList hwell
  have hhdr : wholeReplies.header.octets (waitingFor hdr.toList).inbox sizeofConvertHeader =
      some (wellFormedHeader (totalLength hdr)) := by
    rw [← hlist]
    exact congrArg some (List.take_of_length_le hdr.toList_length.le)
  have hread : readConvertOpts wholeReplies 0 true (waitingFor hdr.toList) = _ :=
    readConvertOpts_headerOnly hhdr hone
  obtain ⟨-, htaken⟩ := h.readConvertOpts _ _ _ _ _ (hlist ▸ hhdr) hread (by simp)
  have hempty : hdr.toList = hdr.toList.drop (4 * (totalLength hdr).toNat) := htaken
  have hlength := congrArg List.length hempty
  rw [List.length_drop, hdr.toList_length, hone] at hlength
  omega

end Frames

theorem framed_iff (hdr : Octets 4) (peek : Bool) :
    Framed hdr peek ↔ ¬ WellFormed hdr.toList ∨ 2 ≤ (totalLength hdr).toNat ∨
      (totalLength hdr).toNat = 1 ∧ peek = false := by
  constructor
  · intro h
    by_contra hnone
    simp only [not_or, not_not, not_le, not_and, Bool.not_eq_false] at hnone
    obtain ⟨hwell, hshort, hpeek⟩ := hnone
    rcases (by omega : (totalLength hdr).toNat = 0 ∨ (totalLength hdr).toNat = 1) with hzero | hone
    · exact not_framed_zero hwell hzero h
    · obtain rfl := hpeek hone
      exact not_framed_peek hwell hone h
  · rintro (h | h)
    · exact framed_of_malformed h
    · exact framed_of_long h

def emptyMessage : Octets 4 := ⟨[1, 0, 0x22, 0x63], rfl⟩

theorem emptyMessage_wraps :
    convertParseHeader emptyMessage.toList = some (2 ^ 64 - 4) ∧ ¬ Framed emptyMessage false :=
  ⟨(parseHeader_wellFormed 0).trans (congrArg some (tlvsLength_zero rfl)),
    not_framed_zero ⟨0, rfl⟩ rfl⟩

end TransportConverter.Client
