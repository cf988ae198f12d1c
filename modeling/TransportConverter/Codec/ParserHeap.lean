import TransportConverter.Foundations.Heap
import TransportConverter.Codec.ParserEnds

/-! `convert_parse_tlvs` and `convert_free_opts` over the blocks of memory they take and free. -/

namespace TransportConverter.Codec

open Foundations Foundations.Memory Foundations.Loops Foundations.Records Wire

structure OptsBlocks where
  opts : ℕ
  tcpOptions : Option ℕ
  cookieData : Option ℕ

def convertFreeOpts (blocks : OptsBlocks) (heap : Heap) : Option Heap :=
  (heap.freePointer blocks.tcpOptions).bind fun heap =>
    (heap.freePointer blocks.cookieData).bind fun heap => heap.free blocks.opts

structure HeapCursor where
  cursor : Cursor
  blocks : OptsBlocks
  heap : Heap

inductive HeapCase
  | accept (opts : ConvertOpts) (mallocs : ℕ) (blocks : OptsBlocks) (heap : Heap)
  | reject (blocks : OptsBlocks) (heap : Heap)
  | undefined

inductive HeapResult
  | null (heap : Heap)
  | opts (opts : ConvertOpts) (blocks : OptsBlocks) (heap : Heap)
  | undefined

def HeapCase.of (c : HeapCursor) : CaseResult → HeapCase
  | .accept opts mallocs => .accept opts mallocs c.blocks c.heap
  | .reject => .reject c.blocks c.heap
  | .undefined => .undefined

section Cases

variable (malloc : Allocator) (buff : Bytes) (c : HeapCursor)

def heapExtendedTcpHdr (tlvLen : ℕ) : HeapCase :=
  let tcpOptionsLen := sizeSub tlvLen sizeofConvertExtendedTcpHdr
  if c.cursor.buffLen < convertAlign sizeofConvertExtendedTcpHdr then .reject c.blocks c.heap
  else if malloc c.cursor.mallocs tcpOptionsLen = false then
    .reject { c.blocks with tcpOptions := none } c.heap
  else
    match load buff (c.cursor.pos + 4) tcpOptionsLen with
    | some tcpOptions =>
      .accept (c.cursor.opts.setExtendedTcpHdr tcpOptions) (c.cursor.mallocs + 1)
        { c.blocks with tcpOptions := some c.heap.next } c.heap.alloc
    | none => .undefined

def heapCookie (tlvLen : ℕ) : HeapCase :=
  let cookieLen := sizeSub tlvLen sizeofConvertCookie
  if malloc c.cursor.mallocs cookieLen = false then .reject { c.blocks with cookieData := none } c.heap
  else
    match load buff (c.cursor.pos + 4) cookieLen with
    | some opaqueBytes =>
      .accept (c.cursor.opts.setCookie opaqueBytes) (c.cursor.mallocs + 1)
        { c.blocks with cookieData := some c.heap.next } c.heap.alloc
    | none => .undefined

def heapCase (type : UInt8) (tlvLen : ℕ) : HeapCase :=
  if type = convertError then .of c (parseError buff c.cursor)
  else if type = convertConnect then .of c (parseConnect buff c.cursor tlvLen)
  else if type = convertExtendedTcpHdr then heapExtendedTcpHdr malloc buff c tlvLen
  else if type = convertCookie then heapCookie malloc buff c tlvLen
  else .reject c.blocks c.heap

def errorAndFree (blocks : OptsBlocks) (heap : Heap) : HeapResult :=
  match heap.free blocks.opts with
  | some heap => .null heap
  | none => .undefined

def heapBody : Turn HeapCursor HeapResult :=
  if c.cursor.buffLen = 0 then .done (.opts c.cursor.opts c.blocks c.heap)
  else if c.cursor.buffLen < convertAlign sizeofConvertTlv then .done (errorAndFree c.blocks c.heap)
  else
    match buff[c.cursor.pos]?, buff[c.cursor.pos + 1]? with
    | some type, some length =>
      let tlvLen := convertToBytes length
      if c.cursor.buffLen < tlvLen then .done (errorAndFree c.blocks c.heap)
      else
        match heapCase malloc buff c type tlvLen with
        | .accept opts mallocs blocks heap =>
          .again ⟨⟨c.cursor.pos + tlvLen, sizeSub c.cursor.buffLen tlvLen, opts, mallocs⟩, blocks, heap⟩
        | .reject blocks heap => .done (errorAndFree blocks heap)
        | .undefined => .done .undefined
    | _, _ => .done .undefined

end Cases

def HeapCursor.start (buff : Block) (heap : Heap) : HeapCursor :=
  ⟨.start buff, ⟨heap.next, none, none⟩, heap.alloc⟩

def heapParseTlvs (malloc : Allocator) (fuel : ℕ) (buff : Block) (heap : Heap) : Option HeapResult :=
  if buff.size = 0 then some (.null heap)
  else if malloc 0 sizeofConvertOpts = false then some (.null heap)
  else run (heapBody malloc buff.bytes) fuel (.start buff heap)

def HeapParseReturns (malloc : Allocator) (buff : Block) (heap : Heap) (r : HeapResult) : Prop :=
  ∃ fuel, heapParseTlvs malloc fuel buff heap = some r

def HeapResult.settled : HeapResult → Option Heap
  | .null heap => some heap
  | .opts _ blocks heap => convertFreeOpts blocks heap
  | .undefined => none

def HeapResult.erase : HeapResult → ParseResult
  | .null _ => .null
  | .opts o _ _ => .opts o
  | .undefined => .undefined

def hold (type : UInt8) (s : OptsBlocks × Heap) : OptsBlocks × Heap :=
  if type = convertExtendedTcpHdr then ({ s.1 with tcpOptions := some s.2.next }, s.2.alloc)
  else if type = convertCookie then ({ s.1 with cookieData := some s.2.next }, s.2.alloc)
  else s

section Turn

variable {malloc : Allocator} {buff : Bytes} {c : HeapCursor} {type : UInt8} {tlvLen : ℕ}

def Follows (c : HeapCursor) (type : UInt8) : CaseResult → HeapCase → Prop
  | .accept opts mallocs, r =>
    r = .accept opts mallocs (hold type (c.blocks, c.heap)).1 (hold type (c.blocks, c.heap)).2
  | .reject, r => ∃ blocks, r = .reject blocks c.heap ∧ blocks.opts = c.blocks.opts
  | .undefined, r => r = .undefined

lemma follows_of {r : CaseResult} (hx : type ≠ convertExtendedTcpHdr) (hk : type ≠ convertCookie) :
    Follows c type r (.of c r) := by
  cases r with
  | accept opts mallocs =>
    have hold_eq : hold type (c.blocks, c.heap) = (c.blocks, c.heap) := by
      rw [hold, if_neg hx, if_neg hk]
    simp only [Follows, HeapCase.of, hold_eq]
  | reject => exact ⟨c.blocks, rfl, rfl⟩
  | undefined => rfl

lemma heapExtendedTcpHdr_follows : Follows c convertExtendedTcpHdr
    (parseExtendedTcpHdr malloc buff c.cursor tlvLen) (heapExtendedTcpHdr malloc buff c tlvLen) := by
  rw [parseExtendedTcpHdr, heapExtendedTcpHdr]
  by_cases hshort : c.cursor.buffLen < convertAlign sizeofConvertExtendedTcpHdr
  · rw [if_pos hshort, if_pos hshort]
    exact ⟨c.blocks, rfl, rfl⟩
  rw [if_neg hshort, if_neg hshort]
  by_cases hmalloc : malloc c.cursor.mallocs (sizeSub tlvLen sizeofConvertExtendedTcpHdr) = false
  · rw [if_pos hmalloc, if_pos hmalloc]
    exact ⟨_, rfl, rfl⟩
  rw [if_neg hmalloc, if_neg hmalloc]
  cases load buff (c.cursor.pos + 4) (sizeSub tlvLen sizeofConvertExtendedTcpHdr) with
  | none => rfl
  | some tcpOptions => rfl

lemma heapCookie_follows : Follows c convertCookie (parseCookie malloc buff c.cursor tlvLen)
    (heapCookie malloc buff c tlvLen) := by
  rw [parseCookie, heapCookie]
  by_cases hmalloc : malloc c.cursor.mallocs (sizeSub tlvLen sizeofConvertCookie) = false
  · rw [if_pos hmalloc, if_pos hmalloc]
    exact ⟨_, rfl, rfl⟩
  rw [if_neg hmalloc, if_neg hmalloc]
  cases load buff (c.cursor.pos + 4) (sizeSub tlvLen sizeofConvertCookie) with
  | none => rfl
  | some opaqueBytes => rfl

lemma heapCase_follows : Follows c type (parseCase malloc buff c.cursor type tlvLen)
    (heapCase malloc buff c type tlvLen) := by
  rw [parseCase, heapCase]
  by_cases he : type = convertError
  · rw [if_pos he, if_pos he, he]
    exact follows_of (by decide) (by decide)
  by_cases hcon : type = convertConnect
  · rw [if_neg he, if_pos hcon, if_neg he, if_pos hcon, hcon]
    exact follows_of (by decide) (by decide)
  by_cases hx : type = convertExtendedTcpHdr
  · rw [if_neg he, if_neg hcon, if_pos hx, if_neg he, if_neg hcon, if_pos hx, hx]
    exact heapExtendedTcpHdr_follows
  by_cases hk : type = convertCookie
  · rw [if_neg he, if_neg hcon, if_neg hx, if_pos hk, if_neg he, if_neg hcon, if_neg hx, if_pos hk, hk]
    exact heapCookie_follows
  · simp only [if_neg he, if_neg hcon, if_neg hx, if_neg hk]
    exact ⟨c.blocks, rfl, rfl⟩

lemma heapBody_eq :
    heapBody malloc buff c =
      match parseBody malloc buff c.cursor with
      | .again next =>
        .again ⟨next, (hold (buff.getD c.cursor.pos 0) (c.blocks, c.heap)).1,
          (hold (buff.getD c.cursor.pos 0) (c.blocks, c.heap)).2⟩
      | .done .null => .done (errorAndFree c.blocks c.heap)
      | .done (.opts opts) => .done (.opts opts c.blocks c.heap)
      | .done .undefined => .done .undefined := by
  rw [heapBody, parseBody]
  by_cases hend : c.cursor.buffLen = 0
  · rw [if_pos hend, if_pos hend]
  rw [if_neg hend, if_neg hend]
  by_cases hshort : c.cursor.buffLen < convertAlign sizeofConvertTlv
  · rw [if_pos hshort, if_pos hshort]
  rw [if_neg hshort, if_neg hshort, List.getD_eq_getElem?_getD]
  cases htype : buff[c.cursor.pos]? with
  | none => rfl
  | some type =>
    cases hlength : buff[c.cursor.pos + 1]? with
    | none => rfl
    | some length =>
      dsimp only
      by_cases hover : c.cursor.buffLen < convertToBytes length
      · rw [if_pos hover, if_pos hover]
      rw [if_neg hover, if_neg hover]
      have hfollows : Follows c type (parseCase malloc buff c.cursor type (convertToBytes length))
        (heapCase malloc buff c type (convertToBytes length)) := heapCase_follows
      cases hcase : parseCase malloc buff c.cursor type (convertToBytes length) with
      | accept opts mallocs =>
        rw [hcase] at hfollows
        rw [show heapCase malloc buff c type (convertToBytes length) = _ from hfollows]
        rfl
      | reject =>
        rw [hcase] at hfollows
        obtain ⟨blocks, hreject, hopts⟩ := hfollows
        rw [hreject]
        simp only [errorAndFree, hopts]
      | undefined =>
        rw [hcase] at hfollows
        rw [show heapCase malloc buff c type (convertToBytes length) = _ from hfollows]

lemma hold_opts (type : UInt8) (s : OptsBlocks × Heap) : (hold type s).1.opts = s.1.opts := by
  unfold hold
  split_ifs <;> rfl

lemma hold_live (type : UInt8) (s : OptsBlocks × Heap) : s.2.live ⊆ (hold type s).2.live := by
  unfold hold
  split_ifs
  · exact Finset.subset_insert _ _
  · exact Finset.subset_insert _ _
  · exact Finset.Subset.refl _

end Turn

section Erasure

variable {malloc : Allocator}

lemma run_erase {buff : Bytes} {fuel : ℕ} {c : HeapCursor} (hlive : c.blocks.opts ∈ c.heap.live) :
    (run (heapBody malloc buff) fuel c).map HeapResult.erase = run (parseBody malloc buff) fuel c.cursor := by
  induction fuel generalizing c with
  | zero => rfl
  | succ fuel ih =>
    rw [run, run, heapBody_eq]
    cases hbody : parseBody malloc buff c.cursor with
    | again next =>
      apply ih
      rw [hold_opts]
      exact hold_live _ _ hlive
    | done r =>
      cases r with
      | null =>
        simp only [errorAndFree, Heap.free_of_mem hlive]
        rfl
      | opts opts => rfl
      | undefined => rfl

lemma heapParseTlvs_erase {fuel : ℕ} {buff : Block} (heap : Heap) :
    (heapParseTlvs malloc fuel buff heap).map HeapResult.erase = convertParseTlvs malloc fuel buff := by
  rw [heapParseTlvs, convertParseTlvs]
  by_cases hempty : buff.size = 0
  · rw [if_pos hempty, if_pos hempty]
    rfl
  by_cases hcalloc : malloc 0 sizeofConvertOpts = false
  · rw [if_neg hempty, if_pos hcalloc, if_neg hempty, if_pos hcalloc]
    rfl
  · rw [if_neg hempty, if_neg hcalloc, if_neg hempty, if_neg hcalloc]
    exact run_erase (Finset.mem_insert_self heap.next heap.live)

lemma parseReturns_of_heap {buff : Block} {heap : Heap} {r : HeapResult}
    (h : HeapParseReturns malloc buff heap r) : ParseReturns malloc buff r.erase := by
  obtain ⟨fuel, h⟩ := h
  refine ⟨fuel, ?_⟩
  rw [← heapParseTlvs_erase heap, h]
  rfl

end Erasure

/-- The records `ts` stand in front of `rest`, and each gets the memory it asks for: `i` requests were made
before them, and `j` after. -/
inductive Passes (malloc : Allocator) : ℕ → Bytes → List Tlv → ℕ → Bytes → Prop
  | nil {i : ℕ} {b : Bytes} : Passes malloc i b [] i b
  | cons {i j : ℕ} {f b rest : Bytes} {t : Tlv} {ts : List Tlv} (hf : tlvFormat.IsRecord f)
      (ht : readTlv f = some t) (hg : t.granted malloc i = true)
      (h : Passes malloc (i + t.requests) b ts j rest) : Passes malloc i (f ++ b) (t :: ts) j rest

/-- What is left starts with no record that gets its memory, so that the loop gives up there. -/
structure Stops (malloc : Allocator) (i : ℕ) (rest : Bytes) : Prop where
  left : rest ≠ []
  zero : ¬ ZeroError rest
  record : ¬ (4 ≤ tlvFormat.size rest ∧ tlvFormat.size rest ≤ rest.length ∧
    ∃ t, readTlv (rest.take (tlvFormat.size rest)) = some t ∧ t.granted malloc i = true)

def holdAll (ts : List Tlv) (s : OptsBlocks × Heap) : OptsBlocks × Heap :=
  ts.foldl (fun s t => hold t.type s) s

section Runs

variable {malloc : Allocator} {front rest : Bytes} {c : HeapCursor}

lemma typeOctet_behind (front : Bytes) (hne : rest ≠ []) :
    (front ++ rest).getD front.length 0 = typeOctet rest := by
  obtain ⟨type, tail, rfl⟩ := List.exists_cons_of_ne_nil hne
  simp [typeOctet]

lemma ZeroError.not_record {f b : Bytes} (hz : ZeroError (f ++ b)) : ¬ tlvFormat.IsRecord f := by
  intro hf
  have hsize := hf.size_append b
  rw [show tlvFormat.size (f ++ b) = convertToBytes (lengthOctet (f ++ b)) from rfl, hz.2.2] at hsize
  have hhead : 4 ≤ f.length := hf.1
  rw [← hsize] at hhead
  exact absurd hhead (by decide)

lemma ne_nil_of_size (h4 : 4 ≤ tlvFormat.size rest) (hle : tlvFormat.size rest ≤ rest.length) :
    rest ≠ [] := by
  rintro rfl
  exact absurd (h4.trans hle) (by decide)

lemma readTlv_type {n : ℕ} {t : Tlv} (ht : readTlv (rest.take n) = some t) (hn : 4 ≤ n) :
    t.type = typeOctet rest := by
  rw [(readTlv_describes ht).1]
  cases rest with
  | nil => rw [List.take_nil]
  | cons type tail =>
    obtain ⟨m, rfl⟩ : ∃ m, n = m + 1 := ⟨n - 1, by omega⟩
    rfl

lemma heapBody_again {c' : HeapCursor} (hc : c.cursor.At front rest)
    (hb : heapBody malloc (front ++ rest) c = .again c') :
    (ZeroError rest ∧ c'.cursor.At front rest) ∨
    (4 ≤ tlvFormat.size rest ∧ tlvFormat.size rest ≤ rest.length ∧
      ∃ t, readTlv (rest.take (tlvFormat.size rest)) = some t ∧
        t.granted malloc c.cursor.mallocs = true ∧
        c'.cursor.mallocs = c.cursor.mallocs + t.requests ∧
        (c'.blocks, c'.heap) = hold t.type (c.blocks, c.heap) ∧
        c'.cursor.At (front ++ rest.take (tlvFormat.size rest)) (rest.drop (tlvFormat.size rest))) := by
  rw [heapBody_eq] at hb
  cases hbody : parseBody malloc (front ++ rest) c.cursor with
  | done r =>
    rw [hbody] at hb
    cases r <;> cases hb
  | again next =>
    rw [hbody] at hb
    obtain rfl := Turn.again.inj hb
    rcases parseBody_again hc hbody with ⟨hz, hc'⟩ | ⟨h4, hle, t, ht, hg, hmallocs, -, hc'⟩
    · exact Or.inl ⟨hz, hc'⟩
    · refine Or.inr ⟨h4, hle, t, ht, hg, hmallocs, ?_, hc'⟩
      rw [hc.pos, typeOctet_behind front (ne_nil_of_size h4 hle), readTlv_type ht h4]

def EndsAt (malloc : Allocator) (i : ℕ) (rest : Bytes) (s : OptsBlocks × Heap) : HeapResult → Prop
  | .opts _ blocks heap => rest = [] ∧ (blocks, heap) = s
  | .null heap => Stops malloc i rest ∧ s.2.free s.1.opts = some heap
  | .undefined => True

lemma heapBody_done {r : HeapResult} (hc : c.cursor.At front rest)
    (hb : heapBody malloc (front ++ rest) c = .done r) :
    EndsAt malloc c.cursor.mallocs rest (c.blocks, c.heap) r := by
  rw [heapBody_eq] at hb
  cases hbody : parseBody malloc (front ++ rest) c.cursor with
  | again next =>
    rw [hbody] at hb
    cases hb
  | done answer =>
    rw [hbody] at hb
    cases answer with
    | undefined =>
      obtain rfl := Turn.done.inj hb
      trivial
    | opts o =>
      obtain rfl := Turn.done.inj hb
      rcases parseBody_done hc hbody with ⟨hnil, -⟩ | hno | ⟨hno, -⟩
      · exact ⟨hnil, rfl⟩
      · cases hno
      · cases hno
    | null =>
      obtain rfl := Turn.done.inj hb
      have hstops : Stops malloc c.cursor.mallocs rest := by
        refine ⟨?_, fun hz => ?_, ?_⟩
        · rintro rfl
          rw [parseBody_end hc] at hbody
          cases hbody
        · obtain ⟨next, hnext, -⟩ := parseBody_zeroError malloc hc hz
          rw [hbody] at hnext
          cases hnext
        · rintro ⟨h4, hle, t, ht, hg⟩
          obtain ⟨next, hnext, -⟩ := parseBody_record hc h4 hle ht hg
          rw [hbody] at hnext
          cases hnext
      unfold errorAndFree
      cases hfree : c.heap.free c.blocks.opts with
      | none => trivial
      | some heap => exact ⟨hstops, hfree⟩

lemma endsAt_of_returns {buff : Bytes} {r : HeapResult} (hr : Returns (heapBody malloc buff) c r)
    (hbuff : buff = front ++ rest) (hc : c.cursor.At front rest) :
    ∃ ts j tail, Passes malloc c.cursor.mallocs rest ts j tail ∧
      EndsAt malloc j tail (holdAll ts (c.blocks, c.heap)) r := by
  induction hr using Returns.induction generalizing front rest with
  | done c r hb =>
    subst hbuff
    exact ⟨[], _, rest, .nil, heapBody_done hc hb⟩
  | again c c' r hb _ ih =>
    subst hbuff
    rcases heapBody_again hc hb with ⟨hz, hc'⟩ | ⟨h4, hle, t, ht, hg, hmallocs, hblocks, hc'⟩
    · obtain ⟨ts, j, tail, hpasses, hends⟩ := ih rfl hc'
      refine ⟨[], _, rest, .nil, ?_⟩
      cases hpasses with
      | cons hf ht _ _ => exact (hz.not_record hf).elim
      | nil =>
        cases r with
        | opts o blocks heap =>
          obtain rfl := hends.1
          exact absurd hz.1 (by decide)
        | null heap => exact (hends.1.zero hz).elim
        | undefined => trivial
    · obtain ⟨ts, j, tail, hpasses, hends⟩ := ih (by rw [List.append_assoc, List.take_append_drop]) hc'
      rw [hmallocs] at hpasses
      have hall := Passes.cons (tlvFormat.isRecord_take h4 hle) ht hg hpasses
      rw [List.take_append_drop] at hall
      refine ⟨t :: ts, j, tail, hall, ?_⟩
      rw [hblocks] at hends
      exact hends

lemma reaches_of_passes {buff : Bytes} {i j : ℕ} {tail : Bytes} {ts : List Tlv}
    (h : Passes malloc i rest ts j tail) (hbuff : buff = front ++ rest) (hc : c.cursor.At front rest)
    (hi : c.cursor.mallocs = i) :
    ∃ c' front', buff = front' ++ tail ∧ c'.cursor.At front' tail ∧ c'.cursor.mallocs = j ∧
      (c'.blocks, c'.heap) = holdAll ts (c.blocks, c.heap) ∧
      ∀ r, Returns (heapBody malloc buff) c' r → Returns (heapBody malloc buff) c r := by
  induction h generalizing front c with
  | nil => exact ⟨c, front, hbuff, hc, hi, rfl, fun r hr => hr⟩
  | @cons i j f b tail t ts hf ht hg _ ih =>
    subst hbuff hi
    have hsize := hf.size_append b
    have h4 : 4 ≤ tlvFormat.size (f ++ b) := hsize.symm ▸ hf.1
    have hle : tlvFormat.size (f ++ b) ≤ (f ++ b).length := by rw [hsize]; simp
    obtain ⟨next, hnext, -, hmallocs, hat⟩ := parseBody_isRecord hc hf ht hg
    let behind : HeapCursor :=
      ⟨next, (hold t.type (c.blocks, c.heap)).1, (hold t.type (c.blocks, c.heap)).2⟩
    have hbehind : behind.cursor.At (front ++ f) b := hat
    have hbuff : front ++ (f ++ b) = front ++ f ++ b := (List.append_assoc ..).symm
    have hb : heapBody malloc (front ++ (f ++ b)) c = .again behind := by
      have hread : readTlv ((f ++ b).take (tlvFormat.size (f ++ b))) = some t := by
        rwa [hsize, List.take_left]
      have htype : t.type = typeOctet (f ++ b) := readTlv_type hread h4
      rw [heapBody_eq, hnext, hc.pos, typeOctet_behind front (ne_nil_of_size h4 hle), ← htype]
    obtain ⟨c', front', hcut, hat', hj, hblocks, hreturns⟩ := ih hbuff hbehind hmallocs
    exact ⟨c', front', hcut, hat', hj, hblocks, fun r hr => (hreturns r hr).again hb⟩

end Runs

def extended (ts : List Tlv) : ℕ := ts.countP fun t => t.type = convertExtendedTcpHdr
def cookies (ts : List Tlv) : ℕ := ts.countP fun t => t.type = convertCookie

def OptsBlocks.pointers (b : OptsBlocks) : List ℕ :=
  b.tcpOptions.toList ++ b.cookieData.toList ++ [b.opts]

lemma convertFreeOpts_eq (b : OptsBlocks) (h : Heap) : convertFreeOpts b h = Heap.freeAll b.pointers h := by
  rw [OptsBlocks.pointers, List.append_assoc, Heap.freeAll_append, Heap.freeAll_pointer, convertFreeOpts]
  congr 1
  funext t
  rw [Heap.freeAll_append, Heap.freeAll_pointer]
  congr 1
  funext u
  exact (Heap.freeAll_pointer (some b.opts)).symm

/-- The blocks taken for the options since `entry`, and the pointers to some of them that are left. -/
structure Ledger (entry : Heap) (ts : List Tlv) (s : OptsBlocks × Heap) : Prop where
  grown : entry.Grown s.2
  taken : s.2.next = entry.next + 1 + extended ts + cookies ts
  nodup : s.1.pointers.Nodup
  since : ∀ p ∈ s.1.pointers, entry.next ≤ p ∧ p < s.2.next
  tcpOptions : s.1.tcpOptions.toList.length = min 1 (extended ts)
  cookieData : s.1.cookieData.toList.length = min 1 (cookies ts)

section Ledgers

variable {entry : Heap} {past ts : List Tlv} {s : OptsBlocks × Heap} {t : Tlv}

lemma Ledger.start (entry : Heap) : Ledger entry [] (⟨entry.next, none, none⟩, entry.alloc) where
  grown := (Heap.Grown.refl entry).alloc
  taken := rfl
  nodup := List.nodup_singleton _
  since p hp := by
    obtain rfl := List.mem_singleton.mp hp
    exact ⟨le_rfl, Nat.lt_succ_self _⟩
  tcpOptions := rfl
  cookieData := rfl

lemma extended_snoc (past : List Tlv) (t : Tlv) :
    extended (past ++ [t]) = extended past + if t.type = convertExtendedTcpHdr then 1 else 0 := by
  simp only [extended, List.countP_append, List.countP_cons, List.countP_nil, decide_eq_true_eq, zero_add]

lemma cookies_snoc (past : List Tlv) (t : Tlv) :
    cookies (past ++ [t]) = cookies past + if t.type = convertCookie then 1 else 0 := by
  simp only [cookies, List.countP_append, List.countP_cons, List.countP_nil, decide_eq_true_eq, zero_add]

lemma Ledger.extendedTcpHdr (h : Ledger entry past s) (ht : t.type = convertExtendedTcpHdr) :
    Ledger entry (past ++ [t]) ({ s.1 with tcpOptions := some s.2.next }, s.2.alloc) := by
  obtain ⟨hgrown, htaken, hnodup, hsince, htcp, hcookie⟩ := h
  have hk : ¬ t.type = convertCookie := by
    rw [ht]
    decide
  have hothers : ∀ p ∈ s.1.cookieData.toList ++ [s.1.opts], p ∈ s.1.pointers := by
    intro p hp
    rw [OptsBlocks.pointers, List.append_assoc]
    exact List.mem_append_right _ hp
  have hnew : s.2.next ∉ s.1.cookieData.toList ++ [s.1.opts] := by
    intro hmem
    exact absurd (hsince _ (hothers _ hmem)).2 (Nat.lt_irrefl _)
  have hrest : (s.1.cookieData.toList ++ [s.1.opts]).Nodup := by
    rw [OptsBlocks.pointers, List.append_assoc] at hnodup
    exact hnodup.of_append_right
  refine ⟨hgrown.alloc, ?_, List.nodup_cons.mpr ⟨hnew, hrest⟩, ?_, ?_, ?_⟩
  · rw [extended_snoc, cookies_snoc, if_pos ht, if_neg hk]
    change s.2.next + 1 = _
    omega
  · intro p hp
    change _ ∧ p < s.2.next + 1
    rcases List.mem_cons.mp hp with rfl | hp
    · exact ⟨hgrown.next, Nat.lt_succ_self _⟩
    · obtain ⟨hlow, hhigh⟩ := hsince p (hothers p hp)
      exact ⟨hlow, hhigh.trans (Nat.lt_succ_self _)⟩
  · rw [extended_snoc, if_pos ht]
    change 1 = _
    omega
  · rw [cookies_snoc, if_neg hk]
    exact hcookie

lemma Ledger.cookie (h : Ledger entry past s) (ht : t.type = convertCookie) :
    Ledger entry (past ++ [t]) ({ s.1 with cookieData := some s.2.next }, s.2.alloc) := by
  obtain ⟨hgrown, htaken, hnodup, hsince, htcp, hcookie⟩ := h
  have hx : ¬ t.type = convertExtendedTcpHdr := by
    rw [ht]
    decide
  have hothers : ∀ p ∈ s.1.tcpOptions.toList ++ [s.1.opts], p ∈ s.1.pointers := by
    intro p hp
    simp only [OptsBlocks.pointers, List.mem_append] at hp ⊢
    tauto
  have hnew : s.2.next ∉ s.1.tcpOptions.toList ++ [s.1.opts] := by
    intro hmem
    exact absurd (hsince _ (hothers _ hmem)).2 (Nat.lt_irrefl _)
  have hrest : (s.1.tcpOptions.toList ++ [s.1.opts]).Nodup := by
    have hsub : (s.1.tcpOptions.toList ++ [s.1.opts]).Sublist s.1.pointers :=
      (List.sublist_append_left _ _).append_right _
    exact List.Nodup.sublist hsub hnodup
  have hperm : (s.1.tcpOptions.toList ++ [s.2.next] ++ [s.1.opts]).Perm
      (s.2.next :: (s.1.tcpOptions.toList ++ [s.1.opts])) := by
    rw [List.append_assoc]
    exact List.perm_middle
  have hpointers : ∀ p, p ∈ s.1.tcpOptions.toList ++ [s.2.next] ++ [s.1.opts] ↔
      p ∈ s.2.next :: (s.1.tcpOptions.toList ++ [s.1.opts]) := fun p => hperm.mem_iff
  refine ⟨hgrown.alloc, ?_, hperm.nodup_iff.mpr (List.nodup_cons.mpr ⟨hnew, hrest⟩), ?_, ?_, ?_⟩
  · rw [extended_snoc, cookies_snoc, if_neg hx, if_pos ht]
    change s.2.next + 1 = _
    omega
  · intro p hp
    change _ ∧ p < s.2.next + 1
    rcases List.mem_cons.mp ((hpointers p).mp hp) with rfl | hp
    · exact ⟨hgrown.next, Nat.lt_succ_self _⟩
    · obtain ⟨hlow, hhigh⟩ := hsince p (hothers p hp)
      exact ⟨hlow, hhigh.trans (Nat.lt_succ_self _)⟩
  · rw [extended_snoc, if_neg hx]
    exact htcp
  · rw [cookies_snoc, if_pos ht]
    change 1 = _
    omega

lemma Ledger.hold (h : Ledger entry past s) (t : Tlv) :
    Ledger entry (past ++ [t]) (Codec.hold t.type s) := by
  by_cases hx : t.type = convertExtendedTcpHdr
  · rw [Codec.hold, if_pos hx]
    exact h.extendedTcpHdr hx
  by_cases hk : t.type = convertCookie
  · rw [Codec.hold, if_neg hx, if_pos hk]
    exact h.cookie hk
  · rw [Codec.hold, if_neg hx, if_neg hk]
    have hx' : extended (past ++ [t]) = extended past := by rw [extended_snoc, if_neg hx, Nat.add_zero]
    have hk' : cookies (past ++ [t]) = cookies past := by rw [cookies_snoc, if_neg hk, Nat.add_zero]
    exact ⟨h.grown, by rw [hx', hk']; exact h.taken, h.nodup, h.since, by rw [hx']; exact h.tcpOptions,
      by rw [hk']; exact h.cookieData⟩

lemma Ledger.holdAll (h : Ledger entry past s) (ts : List Tlv) :
    Ledger entry (past ++ ts) (Codec.holdAll ts s) := by
  induction ts generalizing past s with
  | nil => rwa [List.append_nil]
  | cons t ts ih =>
    have htail := ih (h.hold t)
    rwa [List.append_assoc] at htail

lemma Ledger.settles (h : Ledger entry ts s) :
    ∃ u, convertFreeOpts s.1 s.2 = some u ∧
      (extended ts ≤ 1 ∧ cookies ts ≤ 1 → u.live = entry.live) ∧
      (2 ≤ extended ts ∨ 2 ≤ cookies ts → entry.live ⊆ u.live ∧ ∃ p ∈ u.live, p ∉ entry.live) := by
  obtain ⟨u, hu, hall, hpart⟩ := h.grown.freeAll h.nodup h.since
  have hcount : s.1.pointers.length = 1 + min 1 (extended ts) + min 1 (cookies ts) := by
    simp only [OptsBlocks.pointers, List.length_append, List.length_singleton, h.tcpOptions, h.cookieData]
    omega
  have htaken := h.taken
  rw [hcount] at hall hpart
  refine ⟨u, ?_, fun honce => hall (by omega), fun htwice => hpart (by omega)⟩
  rw [convertFreeOpts_eq]
  exact hu

lemma Ledger.gives_up (h : Ledger entry ts s) :
    ∃ u, s.2.free s.1.opts = some u ∧
      (extended ts = 0 ∧ cookies ts = 0 → u.live = entry.live) ∧
      (0 < extended ts ∨ 0 < cookies ts → entry.live ⊆ u.live ∧ ∃ p ∈ u.live, p ∉ entry.live) := by
  have hmem : s.1.opts ∈ s.1.pointers := List.mem_append_right _ (List.mem_singleton_self _)
  have hsince : ∀ p ∈ [s.1.opts], entry.next ≤ p ∧ p < s.2.next := by
    intro p hp
    obtain rfl := List.mem_singleton.mp hp
    exact h.since _ hmem
  obtain ⟨u, hu, hall, hpart⟩ := h.grown.freeAll (List.nodup_singleton _) hsince
  have htaken := h.taken
  rw [List.length_singleton] at hall hpart
  refine ⟨u, ?_, fun hnone => hall (by omega), fun hsome => hpart (by omega)⟩
  rw [← hu]
  exact (Heap.freeAll_pointer (some s.1.opts)).symm

end Ledgers

def NoOrphan (malloc : Allocator) (buff : Block) : Prop :=
  ∀ heap r, HeapParseReturns malloc buff heap r → r ≠ .undefined →
    ∃ u, r.settled = some u ∧ u.live = heap.live

/-- The copies are more than the returned options point to: a kind twice in an area that is accepted, or any
in front of what is refused. -/
def Orphans (malloc : Allocator) (b : Bytes) : Prop :=
  malloc 0 sizeofConvertOpts = true ∧ ∃ ts j tail, Passes malloc 1 b ts j tail ∧
    (tail = [] ∧ (2 ≤ extended ts ∨ 2 ≤ cookies ts) ∨
      Stops malloc j tail ∧ (0 < extended ts ∨ 0 < cookies ts))

section Outstanding

variable {malloc : Allocator} {buff : Block} {heap : Heap} {r : HeapResult}

lemma heapParseReturns_iff (hcalloc : malloc 0 sizeofConvertOpts = true) (hne : buff.bytes ≠ []) :
    HeapParseReturns malloc buff heap r ↔ Returns (heapBody malloc buff.bytes) (.start buff heap) r := by
  have hsize : buff.size ≠ 0 := by simpa [Block.size] using hne
  have hgranted : ¬ malloc 0 sizeofConvertOpts = false := by
    rw [hcalloc]
    simp
  simp only [HeapParseReturns, heapParseTlvs, if_neg hsize, if_neg hgranted, Returns]

lemma heapParse_cases (h : HeapParseReturns malloc buff heap r) :
    r = .null heap ∨ r = .undefined ∨
      (malloc 0 sizeofConvertOpts = true ∧ ∃ ts j tail s, Passes malloc 1 buff.bytes ts j tail ∧
        Ledger heap ts s ∧
        ((tail = [] ∧ ∃ opts, r = .opts opts s.1 s.2) ∨
          (Stops malloc j tail ∧ ∃ u, s.2.free s.1.opts = some u ∧ r = .null u))) := by
  by_cases hne : buff.bytes = []
  · obtain ⟨fuel, h⟩ := h
    rw [heapParseTlvs, if_pos (by rw [Block.size, hne]; rfl)] at h
    exact Or.inl (Option.some.inj h).symm
  cases hcalloc : malloc 0 sizeofConvertOpts with
  | false =>
    obtain ⟨fuel, h⟩ := h
    rw [heapParseTlvs, if_neg (by simpa [Block.size] using hne), if_pos hcalloc] at h
    exact Or.inl (Option.some.inj h).symm
  | true =>
    have hreturns := (heapParseReturns_iff hcalloc hne).mp h
    obtain ⟨ts, j, tail, hpasses, hends⟩ :=
      endsAt_of_returns hreturns (List.nil_append _).symm (cursor_start buff)
    have hledger : Ledger heap ts (holdAll ts (⟨heap.next, none, none⟩, heap.alloc)) := by
      have hall := (Ledger.start heap).holdAll ts
      rwa [List.nil_append] at hall
    cases r with
    | undefined => exact Or.inr (Or.inl rfl)
    | opts o blocks u =>
      obtain ⟨hnil, hs⟩ := hends
      refine Or.inr (Or.inr ⟨rfl, ts, j, tail, _, hpasses, hledger, Or.inl ⟨hnil, o, ?_⟩⟩)
      have hs' : (blocks, u) = holdAll ts (⟨heap.next, none, none⟩, heap.alloc) := hs
      rw [← hs']
    | null u =>
      obtain ⟨hstops, hfree⟩ := hends
      exact Or.inr (Or.inr ⟨rfl, ts, j, tail, _, hpasses, hledger, Or.inr ⟨hstops, u, hfree, rfl⟩⟩)

lemma Passes.ne_nil {i j : ℕ} {b tail : Bytes} {ts : List Tlv} (h : Passes malloc i b ts j tail)
    (hleft : ts ≠ [] ∨ tail ≠ []) : b ≠ [] := by
  cases h with
  | nil => exact hleft.resolve_left (fun hts => hts rfl)
  | cons hf _ _ _ =>
    intro hnil
    have hhead := hf.1
    rw [(List.append_eq_nil_iff.mp hnil).1] at hhead
    exact absurd hhead (by decide)

lemma ledger_of_passes (heap : Heap) {i : ℕ} {ts : List Tlv} {tail : Bytes}
    (h : Passes malloc 1 buff.bytes ts i tail) :
    ∃ c front, buff.bytes = front ++ tail ∧ c.cursor.At front tail ∧ c.cursor.mallocs = i ∧
      Ledger heap ts (c.blocks, c.heap) ∧
      ∀ r, Returns (heapBody malloc buff.bytes) c r →
        Returns (heapBody malloc buff.bytes) (.start buff heap) r := by
  obtain ⟨c, front, hbuff, hat, hi, hblocks, hreturns⟩ :=
    reaches_of_passes (c := .start buff heap) h (List.nil_append _).symm (cursor_start buff) rfl
  have hledger := (Ledger.start heap).holdAll ts
  rw [List.nil_append] at hledger
  have hs : (c.blocks, c.heap) = holdAll ts (⟨heap.next, none, none⟩, heap.alloc) := hblocks
  rw [← hs] at hledger
  exact ⟨c, front, hbuff, hat, hi, hledger, hreturns⟩

lemma heapParse_accepts (heap : Heap) (hcalloc : malloc 0 sizeofConvertOpts = true) {ts : List Tlv} {j : ℕ}
    (h : Passes malloc 1 buff.bytes ts j []) (hne : buff.bytes ≠ []) :
    ∃ opts s, HeapParseReturns malloc buff heap (.opts opts s.1 s.2) ∧ Ledger heap ts s := by
  obtain ⟨c', front', hbuff, hat, -, hledger, hreturns⟩ := ledger_of_passes heap h
  refine ⟨c'.cursor.opts, _, ?_, hledger⟩
  rw [heapParseReturns_iff hcalloc hne]
  apply hreturns
  apply Returns.done
  rw [hbuff, heapBody_eq, parseBody_end hat]

lemma heapParse_gives_up (heap : Heap) (hhuge : malloc.RefusesHuge)
    (hcalloc : malloc 0 sizeofConvertOpts = true)
    {ts : List Tlv} {j : ℕ} {tail : Bytes} (h : Passes malloc 1 buff.bytes ts j tail)
    (hstops : Stops malloc j tail) :
    ∃ u s, HeapParseReturns malloc buff heap (.null u) ∧ Ledger heap ts s ∧
      s.2.free s.1.opts = some u := by
  obtain ⟨c', front', hbuff, hat, hj, hledger, hreturns⟩ := ledger_of_passes heap h
  obtain ⟨u, hu, -⟩ := hledger.gives_up
  refine ⟨u, _, ?_, hledger, hu⟩
  rw [heapParseReturns_iff hcalloc (h.ne_nil (Or.inr hstops.left))]
  apply hreturns
  apply Returns.done
  subst hj
  have hbody : parseBody malloc (front' ++ tail) c'.cursor = .done .null := by
    rcases parseBody_other hat hstops.left hstops.zero hstops.record with hnull | ⟨-, hnot⟩
    · exact hnull
    · exact (hnot hhuge).elim
  rw [hbuff, heapBody_eq, hbody]
  simp only [errorAndFree]
  rw [show c'.heap.free c'.blocks.opts = some u from hu]

lemma noOrphan_iff (hhuge : malloc.RefusesHuge) : NoOrphan malloc buff ↔ ¬ Orphans malloc buff.bytes := by
  constructor
  · rintro hnone ⟨hcalloc, ts, j, tail, hpasses, hcase⟩
    rcases hcase with ⟨rfl, htwice⟩ | ⟨hstops, hsome⟩
    · have hne : ts ≠ [] := by
        rintro rfl
        simp [extended, cookies] at htwice
      obtain ⟨opts, s, hreturns, hledger⟩ :=
        heapParse_accepts .empty hcalloc hpasses (hpasses.ne_nil (Or.inl hne))
      obtain ⟨u, hu, -, hleft⟩ := hledger.settles
      obtain ⟨-, p, hp, hnot⟩ := hleft htwice
      obtain ⟨v, hv, hlive⟩ := hnone _ _ hreturns (by simp)
      obtain rfl := Option.some.inj (hu.symm.trans hv)
      exact hnot (hlive ▸ hp)
    · obtain ⟨u, s, hreturns, hledger, hu⟩ :=
        heapParse_gives_up .empty hhuge hcalloc hpasses hstops
      obtain ⟨v, hv, -, hleft⟩ := hledger.gives_up
      obtain rfl := Option.some.inj (hu.symm.trans hv)
      obtain ⟨-, p, hp, hnot⟩ := hleft hsome
      obtain ⟨w, hw, hlive⟩ := hnone _ _ hreturns (by simp)
      obtain rfl := Option.some.inj hw
      exact hnot (hlive ▸ hp)
  · intro horphans heap r hreturns hdefined
    rcases heapParse_cases hreturns with rfl | rfl | ⟨hcalloc, ts, j, tail, s, hpasses, hledger, hcase⟩
    · exact ⟨heap, rfl, rfl⟩
    · exact (hdefined rfl).elim
    · rcases hcase with ⟨rfl, opts, rfl⟩ | ⟨hstops, u, hu, rfl⟩
      · obtain ⟨u, hu, hall, -⟩ := hledger.settles
        have honce : extended ts ≤ 1 ∧ cookies ts ≤ 1 := by
          by_contra htwice
          exact horphans ⟨hcalloc, ts, j, [], hpasses, Or.inl ⟨rfl, by omega⟩⟩
        exact ⟨u, hu, hall honce⟩
      · obtain ⟨v, hv, hall, -⟩ := hledger.gives_up
        obtain rfl := Option.some.inj (hu.symm.trans hv)
        have hnone : extended ts = 0 ∧ cookies ts = 0 := by
          by_contra hsome
          exact horphans ⟨hcalloc, ts, j, tail, hpasses, Or.inr ⟨hstops, by omega⟩⟩
        exact ⟨u, rfl, hall hnone⟩

end Outstanding

end TransportConverter.Codec
