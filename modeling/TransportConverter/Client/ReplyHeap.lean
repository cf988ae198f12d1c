import TransportConverter.Codec.Normalise
import TransportConverter.Codec.ParserHeap
import TransportConverter.Client.ConnectTruth
import TransportConverter.Client.Framing

/-! `_read_convert` over the blocks of memory: the options of the reply and the node of the socket. -/

namespace TransportConverter.Client

open Foundations Foundations.Memory Foundations.Records Wire Codec

inductive HeapOutcome
  | returns (result : ℤ) (s : Library) (heap : Heap)
  | undefined

def HeapOutcome.erase : HeapOutcome → Outcome ℤ
  | .returns result s _ => .returns result s
  | .undefined => .undefined

section ReadConvert

variable (a : Answers) (fuel : ℕ) (peek : Bool) (fd : ℤ) (node : ℕ) (s : Library) (heap : Heap)

def heapFreeState (result : ℤ) : HeapOutcome :=
  if peek then .returns result s heap
  else
    match heap.free node with
    | some heap => .returns result (s.freeState fd) heap
    | none => .undefined

def heapReadError : Option HeapOutcome :=
  some (heapFreeState peek fd node (s.record (.noLinger fd)) heap syscallSkip)

def heapReadDone : Option HeapOutcome := some (heapFreeState peek fd node s heap syscallRun)

def heapReadErrorAndFree (blocks : OptsBlocks) : Option HeapOutcome :=
  match convertFreeOpts blocks heap with
  | some heap => heapReadError peek fd node s heap
  | none => some .undefined

def heapReadArea (length : ℕ) : Option HeapOutcome :=
  let read := secondRead peek length
  if read.declared = 0 ∨ 2 ^ 63 ≤ read.declared then some .undefined
  else
    match a.area.octets (s.inbox fd) read.asked with
    | none => heapReadError peek fd node s heap
    | some buffer =>
      let s := s.consume fd buffer.length
      if buffer.length ≠ read.asked then heapReadError peek fd node s heap
      else
        match heapParseTlvs a.malloc fuel (tlvArea peek buffer) heap with
        | none => none
        | some .undefined => some .undefined
        | some (.null heap) => heapReadError peek fd node s heap
        | some (.opts opts blocks heap) =>
          if opts.flags &&& convertFError ≠ 0 then heapReadErrorAndFree peek fd node s heap blocks
          else heapReadDone peek fd node s heap

def heapReadConvert : Option HeapOutcome :=
  match a.header.octets (s.inbox fd) sizeofConvertHeader with
  | none => some (.returns syscallSkip s heap)
  | some hdr =>
    let s := if peek then s else s.consume fd hdr.length
    match convertParseHeader hdr with
    | none => heapReadError peek fd node s heap
    | some length =>
      if length = 0 then heapReadDone peek fd node s heap
      else heapReadArea a fuel peek fd node s heap length

end ReadConvert

section Erasure

variable {a : Answers} {fuel : ℕ} {peek : Bool} {fd : ℤ} {node : ℕ} {s : Library} {heap : Heap}

lemma heapFreeState_erase (hnode : node ∈ heap.live) (result : ℤ) :
    (heapFreeState peek fd node s heap result).erase =
      .returns result (if peek then s else s.freeState fd) := by
  rw [heapFreeState, Heap.free_of_mem hnode]
  cases peek <;> rfl

lemma heapReadError_erase (hnode : node ∈ heap.live) :
    (heapReadError peek fd node s heap).map HeapOutcome.erase = readError peek fd s :=
  congrArg some (heapFreeState_erase hnode syscallSkip)

lemma heapReadDone_erase (hnode : node ∈ heap.live) :
    (heapReadDone peek fd node s heap).map HeapOutcome.erase = readDone peek fd s :=
  congrArg some (heapFreeState_erase hnode syscallRun)

lemma heapParse_keeps {malloc : Allocator} {buff : Block} {r : HeapResult}
    (h : HeapParseReturns malloc buff heap r) :
    match r with
    | .null u => heap.live ⊆ u.live
    | .opts _ blocks u => heap.live ⊆ u.live ∧ ∃ v, convertFreeOpts blocks u = some v ∧ heap.live ⊆ v.live
    | .undefined => True := by
  rcases heapParse_cases h with rfl | rfl | ⟨-, ts, j, tail, t, -, hledger, hcase⟩
  · exact Finset.Subset.refl _
  · trivial
  · rcases hcase with ⟨-, opts, rfl⟩ | ⟨-, u, hu, rfl⟩
    · refine ⟨?_, ?_⟩
      · rw [hledger.grown.live]
        exact Finset.subset_union_left
      · obtain ⟨v, hv, hall, hpart⟩ := hledger.settles
        refine ⟨v, hv, ?_⟩
        by_cases honce : extended ts ≤ 1 ∧ cookies ts ≤ 1
        · exact (hall honce).ge
        · exact (hpart (by omega)).1
    · obtain ⟨v, hv, hall, hpart⟩ := hledger.gives_up
      obtain rfl := Option.some.inj (hu.symm.trans hv)
      by_cases hnone : extended ts = 0 ∧ cookies ts = 0
      · exact (hall hnone).ge
      · exact (hpart (by omega)).1

/-- Without the blocks the function is `_read_convert`. -/
lemma heapReadConvert_erase (hnode : node ∈ heap.live) :
    (heapReadConvert a fuel peek fd node s heap).map HeapOutcome.erase = readConvert a fuel peek fd s := by
  rw [heapReadConvert, readConvert]
  cases a.header.octets (s.inbox fd) sizeofConvertHeader with
  | none => rfl
  | some hdr =>
    dsimp only
    generalize (if peek then s else s.consume fd hdr.length) = t
    cases hparse : convertParseHeader hdr with
    | none => exact heapReadError_erase hnode
    | some length =>
      dsimp only
      by_cases hzero : length = 0
      · rw [if_pos hzero, if_pos hzero]
        exact heapReadDone_erase hnode
      rw [if_neg hzero, if_neg hzero, readArea_secondRead (parseHeader_le hparse), heapReadArea]
      dsimp only
      by_cases hwrap : (secondRead peek length).declared = 0 ∨ 2 ^ 63 ≤ (secondRead peek length).declared
      · rw [if_pos hwrap, if_pos hwrap]
        rfl
      rw [if_neg hwrap, if_neg hwrap]
      cases a.area.octets (t.inbox fd) (secondRead peek length).asked with
      | none => exact heapReadError_erase hnode
      | some buffer =>
        dsimp only
        by_cases hlen : buffer.length ≠ (secondRead peek length).asked
        · rw [if_pos hlen, if_pos hlen]
          exact heapReadError_erase hnode
        rw [if_neg hlen, if_neg hlen, ← heapParseTlvs_erase heap]
        cases hread : heapParseTlvs a.malloc fuel (tlvArea peek buffer) heap with
        | none => rfl
        | some r =>
          have hkeeps := heapParse_keeps ⟨fuel, hread⟩
          cases r with
          | undefined => rfl
          | null u => exact heapReadError_erase (hkeeps hnode)
          | opts opts blocks u =>
            obtain ⟨hlive, v, hv, hlive'⟩ := hkeeps
            simp only [Option.map_some, HeapResult.erase]
            by_cases herror : opts.flags &&& convertFError ≠ 0
            · rw [if_pos herror, if_pos herror, heapReadErrorAndFree, hv]
              exact heapReadError_erase (hlive' hnode)
            · rw [if_neg herror, if_neg herror]
              exact heapReadDone_erase (hlive hnode)

end Erasure

structure AreaRead (a : Answers) (peek : Bool) (stream : Bytes) (totalLength : UInt8) (buffer : Bytes) :
    Prop where
  header : a.header.octets stream sizeofConvertHeader = some (wellFormedHeader totalLength)
  long : 2 ≤ totalLength.toNat
  area : a.area.octets (if peek then stream else stream.drop sizeofConvertHeader)
    (areaAsked peek totalLength) = some buffer
  whole : buffer.length = areaAsked peek totalLength

def AcceptedQuietly (malloc : Allocator) (b : Bytes) : Prop :=
  malloc 0 sizeofConvertOpts = true ∧ b ≠ [] ∧ ∃ ts j, Passes malloc 1 b ts j [] ∧
    ∀ t ∈ ts, t.type ≠ convertError

/-- At each return the outstanding blocks are those before the call, but for the node. -/
def ReplyBalanced (a : Answers) (peek : Bool) (stream : Bytes) : Prop :=
  ∀ fuel fd node s heap result t u, s.inbox fd = stream → node ∈ heap.live →
    heapReadConvert a fuel peek fd node s heap = some (.returns result t u) →
    u.live = heap.live ∨ u.live = heap.live.erase node

def ReplyOrphans (a : Answers) (peek : Bool) (stream : Bytes) : Prop :=
  ∃ totalLength buffer, AreaRead a peek stream totalLength buffer ∧
    (Orphans a.malloc (tlvArea peek buffer).bytes ∨ AcceptedQuietly a.malloc (tlvArea peek buffer).bytes)

section Errors

variable {opts : ConvertOpts} {ts : List Tlv}

lemma error_flag_iff (t : Tlv) : convertFError &&& t.flag ≠ 0 ↔ t.type = convertError := by
  cases t <;> simp only [Tlv.flag, Tlv.type] <;> decide

lemma flagged_error_iff :
    Flagged (ts.foldl ConvertOpts.assign opts) convertFError ↔
      Flagged opts convertFError ∨ ∃ t ∈ ts, t.type = convertError := by
  induction ts generalizing opts with
  | nil => simp
  | cons t ts ih =>
    rw [List.foldl_cons, ih, flagged_assign, error_flag_iff, or_assoc]
    simp only [List.exists_mem_cons_iff]

lemma area_of_passes {malloc : Allocator} {i j : ℕ} {b tail : Bytes} (h : Passes malloc i b ts j tail)
    (hnil : tail = []) : TlvArea b ts := by
  induction h with
  | nil =>
    subst hnil
    exact .nil
  | cons hf ht _ _ ih => exact .cons hf ht (ih hnil)

lemma returned_error_iff {malloc : Allocator} {buff : Block} {heap u : Heap} {blocks : OptsBlocks}
    {j : ℕ} (h : HeapParseReturns malloc buff heap (.opts opts blocks u))
    (hpasses : Passes malloc 1 buff.bytes ts j []) :
    opts.flags &&& convertFError ≠ 0 ↔ ∃ t ∈ ts, t.type = convertError := by
  have hparse : ParseReturns malloc buff (.opts opts) := parseReturns_of_heap h
  obtain ⟨-, -, us, hus, -, rfl⟩ := area_of_opts hparse
  obtain rfl : ts = us := Decodes.unique (by decide) (area_of_passes hpasses rfl) hus
  have hzero : ¬ Flagged .zero convertFError := by simp [Flagged, ConvertOpts.zero]
  have hflag : Flagged (ts.foldl ConvertOpts.assign .zero) convertFError ↔ _ := flagged_error_iff
  rw [or_iff_right hzero, Flagged, UInt8.and_comm] at hflag
  exact hflag

end Errors

section Balance

variable {a : Answers} {fuel : ℕ} {peek : Bool} {fd : ℤ} {node : ℕ} {s t : Library} {heap u v : Heap}
  {result code : ℤ} {stream : Bytes}

lemma heapFreeState_live (h : heapFreeState peek fd node s heap code = .returns result t u) :
    u.live = heap.live ∨ u.live = heap.live.erase node := by
  rw [heapFreeState] at h
  cases peek with
  | true =>
    cases h
    exact Or.inl rfl
  | false =>
    cases hfree : heap.free node with
    | none =>
      rw [hfree] at h
      cases h
    | some v =>
      rw [hfree] at h
      cases h
      right
      rw [Heap.free] at hfree
      split_ifs at hfree
      obtain rfl := Option.some.inj hfree
      rfl

lemma heapFreeState_returns (hnode : node ∈ heap.live) :
    ∃ t u, heapFreeState peek fd node s heap code = .returns code t u ∧
      ∀ p ∈ heap.live, p ≠ node → p ∈ u.live := by
  rw [heapFreeState, Heap.free_of_mem hnode]
  cases peek with
  | true => exact ⟨_, _, rfl, fun p hp _ => hp⟩
  | false => exact ⟨_, _, rfl, fun p hp hne => Finset.mem_erase_of_ne_of_mem hne hp⟩

lemma areaRead_length {totalLength : UInt8} (peek : Bool) (h : 2 ≤ totalLength.toNat) :
    secondRead peek (4 * totalLength.toNat - 4) =
        ⟨areaAsked peek totalLength, areaAsked peek totalLength⟩ ∧
      ¬ (areaAsked peek totalLength = 0 ∨ 2 ^ 63 ≤ areaAsked peek totalLength) := by
  have hlt := totalLength.toNat_lt
  refine ⟨secondRead_pos peek (by omega), ?_⟩
  cases peek <;> simp only [areaAsked, Bool.false_eq_true, if_true, if_false] <;> omega

lemma heapReadConvert_area (fuel node : ℕ) (heap : Heap) {totalLength : UInt8} {buffer : Bytes}
    (h : AreaRead a peek (s.inbox fd) totalLength buffer) :
    ∃ front, heapReadConvert a fuel peek fd node s heap =
      match heapParseTlvs a.malloc fuel (tlvArea peek buffer) heap with
      | none => none
      | some .undefined => some .undefined
      | some (.null heap) => heapReadError peek fd node front heap
      | some (.opts opts blocks heap) =>
        if opts.flags &&& convertFError ≠ 0 then heapReadErrorAndFree peek fd node front heap blocks
        else heapReadDone peek fd node front heap := by
  obtain ⟨hhdr, hlong, harea, hwhole⟩ := h
  obtain ⟨hread, hsmall⟩ := areaRead_length peek hlong
  have hinbox : (if peek then s else s.consume fd (wellFormedHeader totalLength).length).inbox fd =
      if peek then s.inbox fd else (s.inbox fd).drop sizeofConvertHeader :=
    header_inbox peek (wellFormedHeader totalLength).length
  have hpos : ¬ 4 * totalLength.toNat - 4 = 0 := by omega
  refine ⟨(if peek then s else s.consume fd (wellFormedHeader totalLength).length).consume fd
    buffer.length, ?_⟩
  have hone : 1 ≤ totalLength.toNat := by omega
  simp only [heapReadConvert, hhdr, parseHeader_wellFormed, tlvsLength_pos hone, if_neg hpos,
    heapReadArea, hread, if_neg hsmall, hinbox, harea, hwhole, ne_eq, not_true_eq_false, if_false]

lemma heapReadConvert_cases (hstream : s.inbox fd = stream)
    (h : heapReadConvert a fuel peek fd node s heap = some (.returns result t u)) :
    (u.live = heap.live ∨ u.live = heap.live.erase node) ∨
      ∃ totalLength buffer, AreaRead a peek stream totalLength buffer := by
  subst hstream
  rw [heapReadConvert] at h
  cases hhdr : a.header.octets (s.inbox fd) sizeofConvertHeader with
  | none =>
    rw [hhdr] at h
    cases h
    exact Or.inl (Or.inl rfl)
  | some hdr =>
    rw [hhdr] at h
    dsimp only at h
    have hinbox : (if peek then s else s.consume fd hdr.length).inbox fd =
        if peek then s.inbox fd else (s.inbox fd).drop hdr.length := header_inbox peek hdr.length
    generalize (if peek then s else s.consume fd hdr.length) = front at h hinbox
    cases hparse : convertParseHeader hdr with
    | none =>
      rw [hparse] at h
      exact Or.inl (heapFreeState_live (Option.some.inj h))
    | some length =>
      rw [hparse] at h
      dsimp only at h
      by_cases hzero : length = 0
      · rw [if_pos hzero] at h
        exact Or.inl (heapFreeState_live (Option.some.inj h))
      rw [if_neg hzero, heapReadArea] at h
      dsimp only at h
      by_cases hwrap : (secondRead peek length).declared = 0 ∨ 2 ^ 63 ≤ (secondRead peek length).declared
      · rw [if_pos hwrap] at h
        cases h
      rw [if_neg hwrap] at h
      cases harea : a.area.octets (front.inbox fd) (secondRead peek length).asked with
      | none =>
        rw [harea] at h
        exact Or.inl (heapFreeState_live (Option.some.inj h))
      | some buffer =>
        rw [harea] at h
        dsimp only at h
        by_cases hlen : buffer.length ≠ (secondRead peek length).asked
        · rw [if_pos hlen] at h
          exact Or.inl (heapFreeState_live (Option.some.inj h))
        · right
          rw [not_not] at hlen
          obtain ⟨n, rfl, hlength⟩ := parseHeader_eq_some hparse
          have hlong : 2 ≤ n.toNat := by
            by_contra hshort
            rcases (by omega : n.toNat = 0 ∨ n.toNat = 1) with hn | hn
            · rw [tlvsLength_zero hn] at hlength
              rw [hlength] at hwrap
              exact hwrap (secondRead_wraps peek)
            · rw [tlvsLength_pos hn.ge] at hlength
              omega
          rw [tlvsLength_pos (by omega)] at hlength
          rw [hlength, (areaRead_length peek hlong).1] at harea hlen
          rw [hinbox] at harea
          exact ⟨n, buffer, hhdr, hlong, harea, hlen⟩

lemma not_balanced_of_left {front : Library} {p : ℕ} (hstream : s.inbox fd = stream)
    (hnode : node ∈ heap.live)
    (hcall : heapReadConvert a fuel peek fd node s heap = some (heapFreeState peek fd node front v code))
    (hlive : heap.live ⊆ v.live) (hp : p ∈ v.live) (hnew : p ∉ heap.live) :
    ¬ ReplyBalanced a peek stream := by
  intro hbalanced
  obtain ⟨t, u, hreturns, hkept⟩ := heapFreeState_returns (hlive hnode)
  rw [hreturns] at hcall
  have hmem : p ∈ u.live := by
    apply hkept p hp
    rintro rfl
    exact hnew hnode
  rcases hbalanced fuel fd node s heap code t u hstream hnode hcall with hu | hu
  · exact hnew (hu ▸ hmem)
  · rw [hu] at hmem
    exact hnew (Finset.mem_of_mem_erase hmem)

lemma not_balanced_of_quiet {totalLength : UInt8} {buffer : Bytes}
    (harea : AreaRead a peek (s.inbox fd) totalLength buffer) (hnode : node ∈ heap.live)
    {opts : ConvertOpts} {ts : List Tlv} {q : OptsBlocks × Heap}
    (hreturns : HeapParseReturns a.malloc (tlvArea peek buffer) heap (.opts opts q.1 q.2))
    (hledger : Ledger heap ts q) (herror : ¬ opts.flags &&& convertFError ≠ 0) :
    ¬ ReplyBalanced a peek (s.inbox fd) := by
  obtain ⟨fuel, hread⟩ := hreturns
  obtain ⟨front, hcall⟩ := heapReadConvert_area fuel node heap harea
  rw [hread] at hcall
  dsimp only at hcall
  rw [if_neg herror] at hcall
  have hmem : q.1.opts ∈ q.1.pointers := List.mem_append_right _ (List.mem_singleton_self _)
  obtain ⟨hlow, hhigh⟩ := hledger.since _ hmem
  have hlive := hledger.grown.live
  refine not_balanced_of_left rfl hnode hcall ?_ (p := q.1.opts) ?_ ?_
  · rw [hlive]
    exact Finset.subset_union_left
  · rw [hlive]
    exact Finset.mem_union_right _ (Finset.mem_Ico.mpr ⟨hlow, hhigh⟩)
  · intro hold
    exact absurd (heap.fresh _ hold) (not_lt.mpr hlow)

lemma not_balanced_of_orphans (hhuge : a.malloc.RefusesHuge) {totalLength : UInt8} {buffer : Bytes}
    (harea : AreaRead a peek (s.inbox fd) totalLength buffer) (hnode : node ∈ heap.live)
    (horphans : Orphans a.malloc (tlvArea peek buffer).bytes) : ¬ ReplyBalanced a peek (s.inbox fd) := by
  obtain ⟨hcalloc, ts, j, tail, hpasses, hcase⟩ := horphans
  rcases hcase with ⟨rfl, htwice⟩ | ⟨hstops, hsome⟩
  · have hne : ts ≠ [] := by
      rintro rfl
      simp [extended, cookies] at htwice
    obtain ⟨opts, q, hreturns, hledger⟩ :=
      heapParse_accepts heap hcalloc hpasses (hpasses.ne_nil (Or.inl hne))
    by_cases herror : opts.flags &&& convertFError ≠ 0
    · obtain ⟨u, hu, -, hleft⟩ := hledger.settles
      obtain ⟨hlive, p, hp, hnew⟩ := hleft htwice
      obtain ⟨fuel, hread⟩ := hreturns
      obtain ⟨front, hcall⟩ := heapReadConvert_area fuel node heap harea
      rw [hread] at hcall
      dsimp only at hcall
      rw [if_pos herror, heapReadErrorAndFree, hu] at hcall
      exact not_balanced_of_left rfl hnode hcall hlive hp hnew
    · exact not_balanced_of_quiet harea hnode hreturns hledger herror
  · obtain ⟨u, q, hreturns, hledger, hu⟩ := heapParse_gives_up heap hhuge hcalloc hpasses hstops
    obtain ⟨v, hv, -, hleft⟩ := hledger.gives_up
    obtain rfl := Option.some.inj (hu.symm.trans hv)
    obtain ⟨hlive, p, hp, hnew⟩ := hleft hsome
    obtain ⟨fuel, hread⟩ := hreturns
    obtain ⟨front, hcall⟩ := heapReadConvert_area fuel node heap harea
    rw [hread] at hcall
    exact not_balanced_of_left rfl hnode hcall hlive hp hnew

lemma ReplyOrphans.not_balanced (hhuge : a.malloc.RefusesHuge) (h : ReplyOrphans a peek stream) :
    ¬ ReplyBalanced a peek stream := by
  obtain ⟨totalLength, buffer, harea, hcase⟩ := h
  let idle : Library := ⟨fun _ => [], fun _ => stream, fun _ => false, [], []⟩
  have harea' : AreaRead a peek (idle.inbox 0) totalLength buffer := harea
  have hnode : Heap.empty.next ∈ Heap.empty.alloc.live := Finset.mem_insert_self _ _
  rcases hcase with horphans | ⟨hcalloc, hne, ts, j, hpasses, hquiet⟩
  · exact not_balanced_of_orphans hhuge harea' hnode horphans
  · obtain ⟨opts, q, hreturns, hledger⟩ := heapParse_accepts Heap.empty.alloc hcalloc hpasses hne
    refine not_balanced_of_quiet harea' hnode hreturns hledger fun herror => ?_
    obtain ⟨t, ht, htype⟩ := (returned_error_iff hreturns hpasses).mp herror
    exact hquiet t ht htype

lemma orphans_of_accepted {totalLength : UInt8} {buffer : Bytes} {opts : ConvertOpts} {blocks : OptsBlocks}
    (harea : AreaRead a peek stream totalLength buffer)
    (hreturns : HeapParseReturns a.malloc (tlvArea peek buffer) heap (.opts opts blocks v))
    (herror : ¬ opts.flags &&& convertFError ≠ 0) : ReplyOrphans a peek stream := by
  refine ⟨totalLength, buffer, harea, Or.inr ?_⟩
  rcases heapParse_cases hreturns with hr | hr | ⟨hcalloc, ts, j, tail, q, hpasses, -, hcase⟩
  · cases hr
  · cases hr
  · rcases hcase with ⟨rfl, -⟩ | ⟨-, x, -, hr⟩
    · have hne := (starts_of_parse (parseReturns_of_heap hreturns) (by simp [HeapResult.erase])).1
      refine ⟨hcalloc, hne, ts, j, hpasses, fun x hx htype => herror ?_⟩
      exact (returned_error_iff hreturns hpasses).mpr ⟨x, hx, htype⟩
    · cases hr

lemma balanced_of_not_orphans (hhuge : a.malloc.RefusesHuge) (hnone : ¬ ReplyOrphans a peek stream) :
    ReplyBalanced a peek stream := by
  rintro fuel fd node s heap result t u hstream hnode h
  rcases heapReadConvert_cases hstream h with hlive | ⟨totalLength, buffer, harea⟩
  · exact hlive
  have harea' : AreaRead a peek (s.inbox fd) totalLength buffer := hstream ▸ harea
  obtain ⟨front, hcall⟩ := heapReadConvert_area fuel node heap harea'
  rw [hcall] at h
  have horphans : ¬ Orphans a.malloc (tlvArea peek buffer).bytes := fun horphans =>
    hnone ⟨totalLength, buffer, harea, Or.inl horphans⟩
  cases hread : heapParseTlvs a.malloc fuel (tlvArea peek buffer) heap with
  | none =>
    rw [hread] at h
    cases h
  | some r =>
    rw [hread] at h
    have hreturns : HeapParseReturns a.malloc (tlvArea peek buffer) heap r := ⟨fuel, hread⟩
    have hsettled := (noOrphan_iff hhuge).mpr horphans heap r hreturns
    cases r with
    | undefined => cases h
    | null v =>
      obtain ⟨w, hw, hlive⟩ := hsettled (by simp)
      obtain rfl := Option.some.inj hw
      rw [← hlive]
      exact heapFreeState_live (Option.some.inj h)
    | opts opts blocks v =>
      obtain ⟨w, hw, hlive⟩ := hsettled (by simp)
      dsimp only at h
      by_cases herror : opts.flags &&& convertFError ≠ 0
      · rw [if_pos herror, heapReadErrorAndFree] at h
        rw [show convertFreeOpts blocks v = some w from hw] at h
        rw [← hlive]
        exact heapFreeState_live (Option.some.inj h)
      · exact (hnone (orphans_of_accepted harea hreturns herror)).elim

lemma replyBalanced_iff (hhuge : a.malloc.RefusesHuge) :
    ReplyBalanced a peek stream ↔ ¬ ReplyOrphans a peek stream := by
  constructor
  · exact fun hbalanced horphans => horphans.not_balanced hhuge hbalanced
  · exact balanced_of_not_orphans hhuge

end Balance

theorem outstanding_iff (a : Answers) (hhuge : a.malloc.RefusesHuge) :
    (∀ buff, NoOrphan a.malloc buff ↔ ¬ Orphans a.malloc buff.bytes) ∧
      ∀ peek stream, ReplyBalanced a peek stream ↔ ¬ ReplyOrphans a peek stream :=
  ⟨fun _ => noOrphan_iff hhuge, fun _ _ => replyBalanced_iff hhuge⟩

section Accepted

variable {malloc : Allocator} {buff : Block} {opts : ConvertOpts} {ts : List Tlv}

lemma not_orphans_of_accepted (hhuge : malloc.RefusesHuge) (hparse : ParseReturns malloc buff (.opts opts))
    (harea : TlvArea buff.bytes ts) (honce : extended ts ≤ 1 ∧ cookies ts ≤ 1) :
    ¬ Orphans malloc buff.bytes := by
  rintro ⟨hcalloc, us, j, tail, hpasses, hcase⟩
  rcases hcase with ⟨rfl, htwice⟩ | ⟨hstops, -⟩
  · obtain rfl := Decodes.unique (by decide) (area_of_passes hpasses rfl) harea
    omega
  · obtain ⟨u, s, hnull, -⟩ := heapParse_gives_up .empty hhuge hcalloc hpasses hstops
    cases parseReturns_unique hparse (parseReturns_of_heap hnull)

lemma not_acceptedQuietly (harea : TlvArea buff.bytes ts) (herror : ∃ t ∈ ts, t.type = convertError) :
    ¬ AcceptedQuietly malloc buff.bytes := by
  rintro ⟨-, -, us, j, hpasses, hquiet⟩
  obtain rfl := Decodes.unique (by decide) (area_of_passes hpasses rfl) harea
  obtain ⟨t, ht, htype⟩ := herror
  exact hquiet t ht htype

end Accepted

def refusedCookie : Block := ⟨[0x16, 2, 0, 0, 5, 6, 7, 8, 0x1e, 1, 0x60, 0], by decide⟩

lemma refusedCookie_area : TlvArea refusedCookie.bytes [.cookie [5, 6, 7, 8], .error 0x60] :=
  .cons (f := [0x16, 2, 0, 0, 5, 6, 7, 8]) ⟨by decide, by decide⟩ rfl
    (.cons (f := [0x1e, 1, 0x60, 0]) ⟨by decide, by decide⟩ rfl .nil)

/-- Both give the copy back: the caller through `convert_free_opts`, `_read_convert` because of the ERROR.
-/
theorem outstanding_iff_refusedCookie :
    NoOrphan willing.malloc refusedCookie ∧
      ReplyBalanced willing false (wellFormedHeader 4 ++ refusedCookie.bytes) := by
  have hhuge : willing.malloc.RefusesHuge := grantingMalloc_refusesHuge
  have hparse : ParseReturns willing.malloc refusedCookie
      (.opts ([.cookie [5, 6, 7, 8], .error 0x60].foldl ConvertOpts.assign .zero)) := ⟨3, by decide⟩
  have hnone := not_orphans_of_accepted hhuge hparse refusedCookie_area (by decide)
  refine ⟨((outstanding_iff willing hhuge).1 _).mpr hnone, ((outstanding_iff willing hhuge).2 _ _).mpr ?_⟩
  rintro ⟨totalLength, buffer, ⟨hheader, -, harea, -⟩, hcase⟩
  have hlength : wellFormedHeader totalLength = wellFormedHeader 4 := (Option.some.inj hheader).symm
  obtain rfl : totalLength = 4 := by simpa [wellFormedHeader] using hlength
  obtain rfl : buffer = refusedCookie.bytes := (Option.some.inj harea).symm
  rcases hcase with horphans | hquiet
  · exact hnone horphans
  · exact not_acceptedQuietly refusedCookie_area ⟨.error 0x60, by decide, rfl⟩ hquiet

def twoCookies : Block := ⟨[0x16, 2, 0, 0, 1, 2, 3, 4, 0x16, 2, 0, 0, 5, 6, 7, 8], by decide⟩

lemma twoCookies_passes : Passes grantingMalloc 1 twoCookies.bytes
    [.cookie [1, 2, 3, 4], .cookie [5, 6, 7, 8]] 3 [] :=
  .cons (f := [0x16, 2, 0, 0, 1, 2, 3, 4]) ⟨by decide, by decide⟩ rfl (by decide)
    (.cons (f := [0x16, 2, 0, 0, 5, 6, 7, 8]) ⟨by decide, by decide⟩ rfl (by decide) .nil)

/-- The copy of the first cookie is out of reach behind the second one, and a reply with a single cookie is
read and its options forgotten. -/
theorem twoCookies_orphan :
    ¬ NoOrphan grantingMalloc twoCookies ∧
      ¬ ReplyBalanced willing false [1, 3, 0x22, 0x63, 0x16, 2, 0, 0, 5, 6, 7, 8] := by
  constructor
  · rw [noOrphan_iff grantingMalloc_refusesHuge, not_not]
    exact ⟨rfl, _, _, _, twoCookies_passes, Or.inl ⟨rfl, Or.inr (by decide)⟩⟩
  · have hhuge : willing.malloc.RefusesHuge := grantingMalloc_refusesHuge
    rw [replyBalanced_iff hhuge, not_not]
    have harea : AreaRead willing false [1, 3, 0x22, 0x63, 0x16, 2, 0, 0, 5, 6, 7, 8] 3
        [0x16, 2, 0, 0, 5, 6, 7, 8] := ⟨rfl, by decide, rfl, rfl⟩
    have hpasses : Passes willing.malloc 1 (tlvArea false [0x16, 2, 0, 0, 5, 6, 7, 8]).bytes
        [.cookie [5, 6, 7, 8]] 2 [] :=
      .cons (f := [0x16, 2, 0, 0, 5, 6, 7, 8]) ⟨by decide, by decide⟩ rfl (by decide) .nil
    refine ⟨3, _, harea, Or.inr ⟨rfl, by decide, _, _, hpasses, fun t ht => ?_⟩⟩
    obtain rfl := List.mem_singleton.mp ht
    decide

end TransportConverter.Client
