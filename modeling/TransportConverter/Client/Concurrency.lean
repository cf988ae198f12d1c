import TransportConverter.Foundations.Retirement
import TransportConverter.Client.ConnectTruth

/-! Intercepted calls of several threads on one descriptor, a statement at a time: what
`_socket_htable_mutex` guards is one step, and every other statement another. -/

namespace TransportConverter.Client

open Foundations.Memory Foundations.Refinement Foundations.Retirement Wire Codec

/-- The nodes of the descriptor in its bucket, the first one first, beside what the calls share. -/
structure Shared where
  lib : Library
  nodes : List ℕ

inductive After
  | original
  | returns (result : ℤ)
  deriving DecidableEq

/-- The statement a call is about to make, with its local variables; `n` is `state`. -/
inductive Pc
  | lookup
  | redirect (n : ℕ) (addr : Sockaddr)
  | converterConnect (n : ℕ) (message : Bytes)
  | converterSend (n : ℕ) (message : Bytes)
  | announce (n : ℕ)
  | header (n : ℕ)
  | noHeader (n : ℕ)
  | parseHeader (n : ℕ) (hdr : Bytes)
  | area (n : ℕ) (length : ℕ)
  | parseArea (n : ℕ) (buffer : Bytes)
  | refuse (n : ℕ)
  | noLinger (n : ℕ)
  | listRemove (n : ℕ) (next : After)
  | free (n : ℕ) (next : After)
  | original
  | returned (result : ℤ)
  deriving DecidableEq

def After.pc : After → Pc
  | .original => .original
  | .returns result => .returned result

def Pc.node : Pc → Option ℕ
  | .redirect n _ | .converterConnect n _ | .converterSend n _ | .announce n | .header n | .noHeader n
  | .parseHeader n _ | .area n _ | .parseArea n _ | .refuse n | .noLinger n | .listRemove n _
  | .free n _ => some n
  | .lookup | .original | .returned _ => none

def Pc.freeing : Pc → Option ℕ
  | .free n _ => some n
  | _ => none

def Shared.update (s : Shared) (lib : Library) : Shared := { s with lib }

/-- The second removal of a node leaves its bucket as it is here; what it does to the list's memory is
undefined. -/
def Shared.listRemove (s : Shared) (fd : ℤ) (n : ℕ) : Shared :=
  if n ∈ s.nodes then ⟨s.lib.freeState fd, s.nodes.erase n⟩ else s

namespace Call

def found (n : ℕ) : Call → Pc
  | .connect addr => .redirect n addr
  | .send | .recv _ _ => .announce n
  | .close => .listRemove n .original

def afterRead (result : ℤ) : Call → After
  | .connect _ | .close => .returns result
  | .send | .recv _ _ =>
    if result = syscallRun then .original else if result = syscallSkip then .returns 0 else .returns (-1)

def original (a : Answers) (fd : ℤ) : Call → Library → Outcome ℤ
  | .connect _ => originalConnect a fd
  | .send => originalSend a fd
  | .recv len peek => originalRecv a fd len peek
  | .close => fun s => .returns a.close ((s.shut fd).record (.close fd))

end Call

section Next

variable (cookie : Option Block) (a : Answers) (fuel : ℕ) (fd : ℤ) (c : Call) (s : Shared)

/-- Nothing follows where the behaviour of the code is undefined, or the call has returned. -/
def next : Pc → Option (Pc × Shared × Touch ℕ)
  | .lookup =>
    match s.nodes with
    | [] => some (.original, s, .none)
    | n :: _ => some (c.found n, s, .use n)
  | .redirect n addr =>
    match addr with
    | .inet _ _ | .inet6 _ =>
      (redirectConnectTlv cookie redirectBuf addr).map fun w =>
        if w.ret < 0 then (.listRemove n .original, s, .none)
        else (.converterConnect n (w.buff.take w.ret.toNat), s, .none)
    | .other _ => some (.listRemove n .original, s, .none)
  | .converterConnect n message =>
    if a.converterConnect < 0 then some (.listRemove n .original, s, .use n)
    else some (.converterSend n message, s, .use n)
  | .converterSend n message =>
    let s := s.update (s.lib.record (.redirected fd message))
    if 0 ≤ a.converterSend then
      if 0 < a.converterSend then some (.announce n, s, .use n)
      else some (.returned (-econnrefused), s, .use n)
    else some (.listRemove n .original, s, .use n)
  | .announce n => some (.header n, s, .use n)
  | .header n =>
    match a.header.octets (s.lib.inbox fd) sizeofConvertHeader with
    | none => some (.noHeader n, s, .use n)
    | some hdr => some (.parseHeader n hdr, s.update (s.lib.consume fd hdr.length), .use n)
  | .noHeader n => some ((c.afterRead syscallSkip).pc, s, .use n)
  | .parseHeader n hdr =>
    match convertParseHeader hdr with
    | none => some (.refuse n, s, .none)
    | some length =>
      if length = 0 then some (.listRemove n (c.afterRead syscallRun), s, .none)
      else some (.area n length, s, .none)
  | .area n length =>
    if sizeT length = 0 ∨ 2 ^ 63 ≤ sizeT length then none
    else
      match a.area.octets (s.lib.inbox fd) length with
      | none => some (.refuse n, s, .use n)
      | some buffer =>
        let s := s.update (s.lib.consume fd buffer.length)
        if buffer.length ≠ length then some (.refuse n, s, .use n)
        else some (.parseArea n buffer, s, .use n)
  | .parseArea n buffer =>
    match convertParseTlvs a.malloc fuel (.ofBytes buffer) with
    | none | some .undefined => none
    | some .null => some (.refuse n, s, .none)
    | some (.opts opts) =>
      if opts.flags &&& convertFError ≠ 0 then some (.noLinger n, s, .none)
      else some (.listRemove n (c.afterRead syscallRun), s, .none)
  | .refuse n => some (.noLinger n, s, .use n)
  | .noLinger n =>
    some (.listRemove n (c.afterRead syscallSkip), s.update (s.lib.record (.noLinger fd)), .use n)
  | .listRemove n next => some (.free n next, s.listRemove fd n, .remove n)
  | .free n next => some (next.pc, s, .free n)
  | .original =>
    match c.original a fd s.lib with
    | .returns result lib => some (.returned result, s.update lib, .none)
    | .undefined => none
  | .returned _ => none

end Next

section Discipline

variable {cookie : Option Block} {a : Answers} {fuel : ℕ} {fd : ℤ} {c : Call} {s s' : Shared} {n : ℕ}
  {pc pc' : Pc} {touch : Touch ℕ}

lemma After.pc_node {next : After} : next.pc.node = none := by
  cases next <;> rfl

lemma After.pc_freeing {next : After} : next.pc.freeing = none := by
  cases next <;> rfl

lemma Call.found_node : (c.found n).node = some n := by
  cases c <;> rfl

lemma Call.found_freeing : (c.found n).freeing = none := by
  cases c <;> rfl

lemma Shared.listRemove_nodes : (s.listRemove fd n).nodes = s.nodes.erase n := by
  rw [Shared.listRemove]
  split_ifs with h
  · rfl
  · exact (List.erase_of_not_mem h).symm

lemma goesOn (hpc : pc.node = some n) (hidle : pc.freeing = none) (hnodes : s'.nodes = s.nodes)
    (hholds : pc'.node = some n) (hfreeing : pc'.freeing = none)
    (htouch : touch = .none ∨ touch = .use n) :
    Discipline Pc.node Pc.freeing Shared.nodes pc s pc' s' touch := by
  apply Discipline.keeps hpc hidle hnodes _ hfreeing htouch
  intro m hm
  exact Option.some.inj (hm.symm.trans hholds)

lemma lets (hpc : pc.node = some n) (hidle : pc.freeing = none) (hnodes : s'.nodes = s.nodes)
    (hholds : pc'.node = none) (hfreeing : pc'.freeing = none) :
    Discipline Pc.node Pc.freeing Shared.nodes pc s pc' s' (.use n) := by
  apply Discipline.keeps hpc hidle hnodes _ hfreeing (Or.inr rfl)
  intro m hm
  rw [hholds] at hm
  cases hm

lemma next_disciplined (h : next cookie a fuel fd c s pc = some (pc', s', touch)) :
    Discipline Pc.node Pc.freeing Shared.nodes pc s pc' s' touch := by
  cases pc with
  | lookup =>
    rw [next] at h
    split at h
    · cases h
      exact .looks rfl rfl rfl nofun rfl (Or.inl rfl)
    · rename_i n rest hnodes
      cases h
      have hmem : n ∈ s.nodes := by
        rw [hnodes]
        exact List.mem_cons_self
      apply Discipline.looks rfl rfl rfl _ Call.found_freeing (Or.inr ⟨n, hmem, rfl⟩)
      intro m hm
      rw [Call.found_node] at hm
      cases hm
      exact hmem
  | redirect n addr =>
    cases addr with
    | inet _ _ | inet6 _ =>
      rw [next, Option.map_eq_some_iff] at h
      obtain ⟨w, -, hw⟩ := h
      split_ifs at hw
      · cases hw
        exact goesOn rfl rfl rfl rfl rfl (Or.inl rfl)
      · cases hw
        exact goesOn rfl rfl rfl rfl rfl (Or.inl rfl)
    | other _ =>
      cases h
      exact goesOn rfl rfl rfl rfl rfl (Or.inl rfl)
  | converterConnect n message =>
    rw [next] at h
    split_ifs at h
    · cases h
      exact goesOn rfl rfl rfl rfl rfl (Or.inr rfl)
    · cases h
      exact goesOn rfl rfl rfl rfl rfl (Or.inr rfl)
  | converterSend n message =>
    simp only [next] at h
    split_ifs at h
    · cases h
      exact goesOn rfl rfl rfl rfl rfl (Or.inr rfl)
    · cases h
      exact lets rfl rfl rfl rfl rfl
    · cases h
      exact goesOn rfl rfl rfl rfl rfl (Or.inr rfl)
  | announce n =>
    cases h
    exact goesOn rfl rfl rfl rfl rfl (Or.inr rfl)
  | header n =>
    rw [next] at h
    split at h
    · cases h
      exact goesOn rfl rfl rfl rfl rfl (Or.inr rfl)
    · cases h
      exact goesOn rfl rfl rfl rfl rfl (Or.inr rfl)
  | noHeader n =>
    cases h
    exact lets rfl rfl rfl After.pc_node After.pc_freeing
  | parseHeader n hdr =>
    rw [next] at h
    split at h
    · cases h
      exact goesOn rfl rfl rfl rfl rfl (Or.inl rfl)
    · split_ifs at h
      · cases h
        exact goesOn rfl rfl rfl rfl rfl (Or.inl rfl)
      · cases h
        exact goesOn rfl rfl rfl rfl rfl (Or.inl rfl)
  | area n length =>
    rw [next] at h
    split_ifs at h
    split at h
    · cases h
      exact goesOn rfl rfl rfl rfl rfl (Or.inr rfl)
    · dsimp only at h
      split_ifs at h
      · cases h
        exact goesOn rfl rfl rfl rfl rfl (Or.inr rfl)
      · cases h
        exact goesOn rfl rfl rfl rfl rfl (Or.inr rfl)
  | parseArea n buffer =>
    rw [next] at h
    split at h
    · cases h
    · cases h
    · cases h
      exact goesOn rfl rfl rfl rfl rfl (Or.inl rfl)
    · split_ifs at h
      · cases h
        exact goesOn rfl rfl rfl rfl rfl (Or.inl rfl)
      · cases h
        exact goesOn rfl rfl rfl rfl rfl (Or.inl rfl)
  | refuse n =>
    cases h
    exact goesOn rfl rfl rfl rfl rfl (Or.inr rfl)
  | noLinger n =>
    cases h
    exact goesOn rfl rfl rfl rfl rfl (Or.inr rfl)
  | listRemove n after =>
    cases h
    exact .removes rfl rfl Shared.listRemove_nodes rfl rfl
  | free n after =>
    cases h
    exact .frees rfl rfl rfl After.pc_node After.pc_freeing
  | original =>
    rw [next] at h
    split at h
    · cases h
      exact .looks rfl rfl rfl nofun rfl (Or.inl rfl)
    · cases h
  | returned _ => cases h

end Discipline

section Alone

variable (cookie : Option Block) (a : Answers) (fuel : ℕ) (fd : ℤ) (c : Call)

def Proceeds : Pc × Shared → Pc × Shared → Prop :=
  Relation.ReflTransGen fun p q => ∃ touch, next cookie a fuel fd c p.2 p.1 = some (q.1, q.2, touch)

variable {cookie a fuel fd c} {s : Shared} {t : Library} {pc pc' : Pc} {p : Pc × Shared} {n : ℕ}
  {result : ℤ}

lemma Proceeds.step {s' : Shared} {touch : Touch ℕ}
    (h : next cookie a fuel fd c s pc = some (pc', s', touch))
    (hrest : Proceeds cookie a fuel fd c (pc', s') p) : Proceeds cookie a fuel fd c (pc, s) p :=
  .head ⟨touch, h⟩ hrest

def Ends (cookie : Option Block) (a : Answers) (fuel : ℕ) (fd : ℤ) (c : Call) (pc : Pc) (s : Shared)
    (pc' : Pc) (t : Library) : Prop :=
  ∃ nodes, Proceeds cookie a fuel fd c (pc, s) (pc', ⟨t, nodes⟩)

lemma Ends.step {s' : Shared} {pc'' : Pc} {touch : Touch ℕ}
    (h : next cookie a fuel fd c s pc = some (pc', s', touch))
    (hrest : Ends cookie a fuel fd c pc' s' pc'' t) : Ends cookie a fuel fd c pc s pc'' t := by
  obtain ⟨nodes, hrest⟩ := hrest
  exact ⟨nodes, hrest.step h⟩

lemma Ends.here : Ends cookie a fuel fd c pc s pc s.lib := ⟨s.nodes, .refl⟩

lemma ends_freeState {after : After} (hn : n ∈ s.nodes) :
    Ends cookie a fuel fd c (.listRemove n after) s after.pc (s.lib.freeState fd) := by
  apply Ends.step rfl
  apply Ends.step rfl
  rw [Shared.listRemove, if_pos hn]
  exact .here

lemma ends_error (hn : n ∈ s.nodes) (h : readError false fd s.lib = some (.returns result t)) :
    Ends cookie a fuel fd c (.noLinger n) s (c.afterRead result).pc t := by
  cases h
  apply Ends.step rfl
  exact ends_freeState hn

lemma ends_refuse (hn : n ∈ s.nodes) (h : readError false fd s.lib = some (.returns result t)) :
    Ends cookie a fuel fd c (.refuse n) s (c.afterRead result).pc t := by
  apply Ends.step rfl
  exact ends_error hn h

lemma ends_area {length : ℕ} (hn : n ∈ s.nodes)
    (h : readArea a fuel false fd s.lib length = some (.returns result t)) :
    Ends cookie a fuel fd c (.area n length) s (c.afterRead result).pc t := by
  simp only [readArea, Bool.false_eq_true, if_false, add_zero, List.drop_zero] at h
  by_cases hsize : sizeT length = 0 ∨ 2 ^ 63 ≤ sizeT length
  · rw [if_pos hsize] at h
    cases h
  rw [if_neg hsize] at h
  cases harea : a.area.octets (s.lib.inbox fd) length with
  | none =>
    rw [harea] at h
    apply Ends.step (by simp only [next, if_neg hsize, harea]; rfl)
    exact ends_refuse hn h
  | some buffer =>
    simp only [harea] at h
    by_cases hlength : buffer.length ≠ length
    · rw [if_pos hlength] at h
      apply Ends.step (by simp only [next, if_neg hsize, harea, if_pos hlength]; rfl)
      exact ends_refuse hn h
    rw [if_neg hlength] at h
    apply Ends.step (by simp only [next, if_neg hsize, harea, if_neg hlength]; rfl)
    cases hparse : convertParseTlvs a.malloc fuel (.ofBytes buffer) with
    | none =>
      rw [hparse] at h
      cases h
    | some r =>
      rw [hparse] at h
      cases r with
      | undefined => cases h
      | null =>
        apply Ends.step (by simp only [next, hparse]; rfl)
        exact ends_refuse hn h
      | opts opts =>
        dsimp only at h
        by_cases herror : opts.flags &&& convertFError ≠ 0
        · rw [if_pos herror] at h
          apply Ends.step (by simp only [next, hparse, if_pos herror]; rfl)
          exact ends_error hn h
        · rw [if_neg herror] at h
          cases h
          apply Ends.step (by simp only [next, hparse, if_neg herror]; rfl)
          exact ends_freeState hn

lemma ends_readConvert (hn : n ∈ s.nodes)
    (h : readConvert a fuel false fd s.lib = some (.returns result t)) :
    Ends cookie a fuel fd c (.announce n) s (c.afterRead result).pc t := by
  simp only [readConvert, Bool.false_eq_true, if_false] at h
  apply Ends.step rfl
  cases hhdr : a.header.octets (s.lib.inbox fd) sizeofConvertHeader with
  | none =>
    rw [hhdr] at h
    cases h
    apply Ends.step (by simp only [next, hhdr]; rfl)
    apply Ends.step rfl
    exact .here
  | some hdr =>
    simp only [hhdr] at h
    apply Ends.step (by simp only [next, hhdr]; rfl)
    cases hparse : convertParseHeader hdr with
    | none =>
      rw [hparse] at h
      apply Ends.step (by simp only [next, hparse]; rfl)
      exact ends_refuse hn h
    | some length =>
      simp only [hparse] at h
      by_cases hlength : length = 0
      · rw [if_pos hlength] at h
        cases h
        apply Ends.step (by simp only [next, hparse, if_pos hlength]; rfl)
        exact ends_freeState hn
      · rw [if_neg hlength] at h
        apply Ends.step (by simp only [next, hparse, if_neg hlength]; rfl)
        exact ends_area hn h

lemma ends_original (h : c.original a fd s.lib = .returns result t) :
    Ends cookie a fuel fd c .original s (.returned result) t := by
  apply Ends.step (by simp only [next, h]; rfl)
  exact .here

lemma ends_fallback (hn : n ∈ s.nodes) (h : c.original a fd (s.lib.freeState fd) = .returns result t) :
    Ends cookie a fuel fd c (.listRemove n .original) s (.returned result) t := by
  apply Ends.step rfl
  apply Ends.step rfl
  rw [Shared.listRemove, if_pos hn]
  exact ends_original h

lemma ends_connect {addr : Sockaddr} (hn : n ∈ s.nodes) (htrack : s.lib.htable.lookup fd = some true)
    (h : connect cookie a fuel fd addr s.lib = some (.returns result t)) :
    Ends cookie a fuel fd (.connect addr) (.redirect n addr) s (.returned result) t := by
  simp only [connect, htrack] at h
  cases addr with
  | other family =>
    apply Ends.step rfl
    apply ends_fallback hn
    exact Option.some.inj h
  | inet _ _ | inet6 _ =>
    simp only [redirect] at h
    cases hwrite : redirectConnectTlv cookie redirectBuf _ with
    | none =>
      rw [hwrite] at h
      cases h
    | some w =>
      simp only [hwrite, Option.map_some] at h
      by_cases hret : w.ret < 0
      · simp only [if_pos hret, if_neg (not_le.mpr hret)] at h
        apply Ends.step (by simp only [next, hwrite, Option.map_some, if_pos hret]; rfl)
        apply ends_fallback hn
        exact Option.some.inj h
      simp only [if_neg hret] at h
      apply Ends.step (by simp only [next, hwrite, Option.map_some, if_neg hret]; rfl)
      by_cases hconnect : a.converterConnect < 0
      · simp only [if_pos hconnect] at h
        apply Ends.step (by simp only [next, if_pos hconnect]; rfl)
        apply ends_fallback hn
        exact Option.some.inj h
      simp only [if_neg hconnect] at h
      apply Ends.step (by simp only [next, if_neg hconnect]; rfl)
      by_cases hsend : 0 ≤ a.converterSend
      · rw [if_pos hsend] at h
        by_cases hpos : 0 < a.converterSend
        · rw [if_pos hpos] at h
          apply Ends.step (by simp only [next, if_pos hsend, if_pos hpos]; rfl)
          exact ends_readConvert hn h
        · rw [if_neg hpos] at h
          cases h
          apply Ends.step (by simp only [next, if_pos hsend, if_neg hpos]; rfl)
          exact .here
      · rw [if_neg hsend] at h
        apply Ends.step (by simp only [next, if_neg hsend]; rfl)
        apply ends_fallback
        · exact hn
        · exact Option.some.inj h

lemma Ends.andThen {u : Library} {pc'' : Pc} (h : Ends cookie a fuel fd c pc s pc' u)
    (hrest : ∀ nodes, Ends cookie a fuel fd c pc' ⟨u, nodes⟩ pc'' t) :
    Ends cookie a fuel fd c pc s pc'' t := by
  obtain ⟨nodes, h⟩ := h
  obtain ⟨nodes', hrest⟩ := hrest nodes
  exact ⟨nodes', h.trans hrest⟩

lemma ends_afterReply (hn : n ∈ s.nodes) (htrack : s.lib.htable.lookup fd = some true)
    (hafter : ∀ syscall, c.afterRead syscall = if syscall = syscallRun then .original
      else if syscall = syscallSkip then .returns 0 else .returns (-1))
    (h : afterReply a fuel fd (c.original a fd) s.lib = some (.returns result t)) :
    Ends cookie a fuel fd c (.announce n) s (.returned result) t := by
  simp only [afterReply, htrack] at h
  split at h
  · rename_i syscall u hread
    apply (ends_readConvert hn hread).andThen
    intro nodes
    rw [hafter]
    split_ifs at h ⊢
    · exact ends_original (Option.some.inj h)
    · cases h
      exact .here
    · cases h
      exact .here
  · rename_i hread
    exact (hread _ _ h).elim

structure Shared.Tracks (s : Shared) (fd : ℤ) : Prop where
  bucket : hash fd ≠ none
  nodes : s.nodes.length = s.lib.htable.copies fd

/-- Without other calls in between, the statements are the intercepted call. -/
theorem perform_ends (hs : s.Tracks fd) (h : perform cookie a fuel fd c s.lib = some (.returns result t)) :
    Ends cookie a fuel fd c .lookup s (.returned result) t := by
  cases hnodes : s.nodes with
  | nil =>
    have huntracked : s.lib.htable.lookup fd = some false := by
      apply lookup_eq_false_iff.mpr
      refine ⟨hs.bucket, ?_⟩
      rw [← hs.nodes, hnodes]
      rfl
    have hfree : s.lib.free fd = some s.lib := by
      rw [Library.free, huntracked]
      rfl
    apply Ends.step (by simp only [next, hnodes]; rfl)
    apply ends_original
    cases c with
    | connect addr =>
      simp only [perform, connect, huntracked] at h
      exact Option.some.inj h
    | send | recv _ _ =>
      simp only [perform, send, recv, afterReply, huntracked] at h
      exact Option.some.inj h
    | close =>
      simp only [perform, close, hfree] at h
      exact Option.some.inj h
  | cons n rest =>
    have hn : n ∈ s.nodes := by
      rw [hnodes]
      exact List.mem_cons_self
    have htrack : s.lib.htable.lookup fd = some true := by
      apply lookup_eq_true_iff.mpr
      rw [← hs.nodes]
      exact List.length_pos_of_mem hn
    have hfree : s.lib.free fd = some (s.lib.freeState fd) := by
      rw [Library.free, htrack]
      rfl
    apply Ends.step (by simp only [next, hnodes]; rfl)
    cases c with
    | connect addr => exact ends_connect hn htrack h
    | send | recv _ _ => exact ends_afterReply hn htrack (fun _ => rfl) h
    | close =>
      simp only [perform, close, hfree] at h
      apply ends_fallback hn
      exact Option.some.inj h

end Alone

def Statement {ι : Type} (cookie : Option Block) (fd : ℤ) (calls : ι → Call) (i : ι) (pc : Pc) (s : Shared)
    (pc' : Pc) (s' : Shared) (touch : Touch ℕ) : Prop :=
  ∃ a fuel, next cookie a fuel fd (calls i) s pc = some (pc', s', touch)

def entering (ι : Type) (s : Shared) : Threads ι Shared Pc ℕ := ⟨s, fun _ => .lookup, []⟩

lemma statement_disciplined {ι : Type} {cookie : Option Block} {fd : ℤ} {calls : ι → Call} :
    Disciplined (Statement cookie fd calls) Pc.node Pc.freeing Shared.nodes := by
  rintro i pc s pc' s' touch ⟨a, fuel, hnext⟩
  exact next_disciplined hnext

theorem guardedCalls_retireOnce {ι : Type} [DecidableEq ι] (cookie : Option Block) (fd : ℤ)
    (calls : ι → Call) (s : Shared) (hnodes : s.nodes.Nodup) (past : List ι) (p : Threads ι Shared Pc ℕ)
    (h : Trace (GuardedStep (Statement cookie fd calls) Pc.node Pc.freeing) (entering ι s) past p) :
    Safe p.log :=
  Trace.safe statement_disciplined hnodes (fun _ => rfl) h

def turn {ι : Type} (a : Answers) (fd : ℤ) (calls : ι → Call) (i : ι) (pc : Pc) (s : Shared) :
    Option (Pc × Shared × Touch ℕ) :=
  next none a 0 fd (calls i) s pc

lemma turn_statement {ι : Type} {a : Answers} {fd : ℤ} {calls : ι → Call} (i : ι) (pc : Pc) (s : Shared)
    (pc' : Pc) (s' : Shared) (touch : Touch ℕ) (h : turn a fd calls i pc s = some (pc', s', touch)) :
    Statement none fd calls i pc s pc' s' touch :=
  ⟨a, 0, h⟩

def closeBeside (reads : Bool) : Call := if reads then .recv 100 false else .close

def failingPeek : Answers := { willing with header := .fails }

/-- Both find the node, and `close` frees it after `recv` has touched it for the last time. -/
theorem guardedCalls_retireOnce_beside :
    ∃ past p, Trace (GuardedStep (Statement none 3 closeBeside) Pc.node Pc.freeing)
      (entering Bool ⟨managed [], [0]⟩) past p ∧
      p.log = [(true, .use 0), (false, .use 0), (true, .use 0), (true, .use 0), (false, .remove 0),
        (true, .use 0), (false, .free 0), (false, .none)] ∧ Safe p.log := by
  have hrun : Trace (GuardedStep (Statement none 3 closeBeside) Pc.node Pc.freeing)
      (entering Bool ⟨managed [], [0]⟩) _ _ :=
    Trace.guardedTurns (turn failingPeek 3 closeBeside) [true, false, true, true, false, true, false, false]
      turn_statement .nil rfl
  exact ⟨_, _, hrun, rfl, guardedCalls_retireOnce none 3 _ _ (List.nodup_singleton 0) _ _ hrun⟩

def duplex (sends : Bool) : Call := if sends then .send else .recv 100 false

def twoHeaders : Bytes := messageHeader 4 ++ messageHeader 4

/-- A thread that sends while another receives: both find the node before one of them frees it. -/
theorem duplex_retiresTwice :
    ∃ past p, Trace (ThreadStep (Statement none 3 duplex)) (entering Bool ⟨managed twoHeaders, [0]⟩)
        past p ∧
      p.log = [(false, .use 0), (true, .use 0), (false, .use 0), (false, .use 0), (false, .none),
        (false, .remove 0), (false, .free 0), (true, .use 0), (true, .use 0), (true, .none),
        (true, .remove 0), (true, .free 0)] ∧
      removals p.log 0 = 2 ∧ frees p.log 0 = 2 ∧ ¬ Safe p.log := by
  have hrun : Trace (ThreadStep (Statement none 3 duplex)) (entering Bool ⟨managed twoHeaders, [0]⟩) _ _ :=
    Trace.turns (turn willing 3 duplex) [false, true, false, false, false, false, false, true, true,
      true, true, true] turn_statement .nil rfl
  exact ⟨_, _, hrun, rfl, rfl, rfl, fun h => absurd (h.removed 0) (by decide)⟩

end TransportConverter.Client
