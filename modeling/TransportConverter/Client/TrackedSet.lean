import TransportConverter.Foundations.Refinement
import TransportConverter.Client.ConnectTruth

/-! The hash table over a process's intercepted calls, against the finite set of the descriptors it
tracks. -/

namespace TransportConverter.Client

open Foundations.Memory Foundations.Refinement Wire Codec

/-- With `malloc`, whether it granted the block asked for; and with `frees`, whether the call freed a node.
-/
inductive Action
  | socket (domain type protocol fd : ℤ) (malloc : Bool)
  | call (fd : ℤ) (c : Call) (frees : Bool)

/-- The kernel hands out a descriptor that is not open, or fails. -/
inductive SessionStep (cookie : Option Block) : Action → Library → Library → Prop
  | socket {domain type protocol fd : ℤ} {malloc : Bool} {stream : Bytes} {s : Library}
      (hnew : fd < 0 ∨ s.isOpen fd = false) :
      SessionStep cookie (.socket domain type protocol fd malloc) s
        (socket domain type protocol fd malloc stream s).2
  | call {fd : ℤ} {c : Call} {frees : Bool} {a : Answers} {fuel : ℕ} {result : ℤ} {s t : Library}
      (hfd : 0 ≤ fd) (hfrees : frees = true ↔ t.freed ≠ s.freed)
      (h : perform cookie a fuel fd c s = some (.returns result t)) :
      SessionStep cookie (.call fd c frees) s t

def IsManaged (domain type protocol : ℤ) : Prop :=
  (domain = afInet ∨ domain = afInet6) ∧ type = sockStream ∧ protocol = ipprotoMptcp

/-- The set a user of the table has in mind: a managed socket is in it from the start, unless there was no
memory for it, until its node is freed, by `close` at the latest. -/
inductive TrackStep : Action → Finset ℤ → Finset ℤ → Prop
  | tracks {domain type protocol fd : ℤ} {tracked : Finset ℤ}
      (hmanaged : IsManaged domain type protocol) (hfd : 0 ≤ fd) (hnew : fd ∉ tracked) :
      TrackStep (.socket domain type protocol fd true) tracked (insert fd tracked)
  | ignores {domain type protocol fd : ℤ} {malloc : Bool} {tracked : Finset ℤ}
      (hignored : ¬ IsManaged domain type protocol ∨ fd < 0 ∨ malloc = false) :
      TrackStep (.socket domain type protocol fd malloc) tracked tracked
  | keeps {fd : ℤ} {c : Call} {tracked : Finset ℤ} (hclose : c = .close → fd ∉ tracked) :
      TrackStep (.call fd c false) tracked tracked
  | releases {fd : ℤ} {c : Call} {tracked : Finset ℤ} (htracked : fd ∈ tracked) :
      TrackStep (.call fd c true) tracked (tracked.erase fd)

def ManagedSince (past : List Action) (fd : ℤ) : Prop :=
  ∃ before after domain type protocol, past = before ++ .socket domain type protocol fd true :: after ∧
    IsManaged domain type protocol ∧ ∀ frees, .call fd .close frees ∉ after

structure Represents (htable : SocketHtable) (tracked : Finset ℤ) : Prop where
  placed : ∀ bucket fd, fd ∈ htable bucket → hash fd = some bucket
  copies : ∀ fd, htable.copies fd = if fd ∈ tracked then 1 else 0

structure Tracks (past : List Action) (s : Library) (tracked : Finset ℤ) : Prop where
  unique : ∀ bucket fd, (s.htable bucket).count fd ≤ 1
  bucket : ∀ bucket fd, fd ∈ s.htable bucket → 0 ≤ fd ∧ (bucket : ℤ) = fd % numBuckets
  lookup : ∀ fd, 0 ≤ fd → s.htable.lookup fd = some (decide (fd ∈ tracked))
  managed : ∀ fd ∈ tracked, ManagedSince past fd
  freed : ∀ e ∈ s.freed, e.2 = true

section Table

variable {htable : SocketHtable} {tracked : Finset ℤ} {fd : ℤ}

lemma Represents.empty : Represents (fun _ => []) ∅ where
  placed bucket fd h := by cases h
  copies fd := by
    cases h : hash fd <;> simp [SocketHtable.copies, h]

lemma Represents.alloc (h : Represents htable tracked) (hhash : hash fd ≠ none)
    (hnew : fd ∉ tracked) : Represents (htable.alloc fd) (insert fd tracked) where
  placed bucket other hmem := by
    obtain ⟨place, hplace⟩ := Option.ne_none_iff_exists'.mp hhash
    simp only [SocketHtable.alloc, hplace, Function.update_apply] at hmem
    split_ifs at hmem with hbucket
    · subst hbucket
      rcases List.mem_cons.mp hmem with rfl | hmem
      · exact hplace
      · exact h.placed bucket other hmem
    · exact h.placed bucket other hmem
  copies other := by
    rcases eq_or_ne other fd with rfl | hne
    · rw [copies_alloc hhash, h.copies, if_neg hnew, if_pos (Finset.mem_insert_self ..)]
    · rw [copies_alloc_of_ne hne, h.copies]
      simp only [Finset.mem_insert, hne, false_or]

lemma Represents.freeState (h : Represents htable tracked) :
    Represents (htable.freeState fd) (tracked.erase fd) where
  placed bucket other hmem := by
    apply h.placed bucket other
    cases hhash : hash fd with
    | none => simpa only [SocketHtable.freeState, hhash] using hmem
    | some place =>
      simp only [SocketHtable.freeState, hhash, Function.update_apply] at hmem
      split_ifs at hmem with hbucket
      · subst hbucket
        exact List.mem_of_mem_erase hmem
      · exact hmem
  copies other := by
    rcases eq_or_ne other fd with rfl | hne
    · rw [copies_freeState, h.copies, if_neg (Finset.notMem_erase other tracked)]
      split_ifs <;> rfl
    · rw [copies_freeState_of_ne hne, h.copies]
      simp only [Finset.mem_erase, ne_eq, hne, not_false_eq_true, true_and]

lemma Represents.lookup (h : Represents htable tracked) (hfd : 0 ≤ fd) :
    htable.lookup fd = some (decide (fd ∈ tracked)) := by
  have hcopies := h.copies fd
  by_cases hmem : fd ∈ tracked
  · rw [if_pos hmem] at hcopies
    simpa only [hmem, decide_true] using lookup_eq_true_iff.mpr (by omega)
  · rw [if_neg hmem] at hcopies
    have hhash : hash fd ≠ none := by
      rw [hash_of_nonneg hfd]
      simp
    simpa only [hmem, decide_false] using lookup_eq_false_iff.mpr ⟨hhash, hcopies⟩

lemma Represents.unique (h : Represents htable tracked) (bucket : ℕ) :
    (htable bucket).count fd ≤ 1 := by
  by_cases hmem : fd ∈ htable bucket
  · have hcopies := h.copies fd
    simp only [SocketHtable.copies, h.placed bucket fd hmem] at hcopies
    split_ifs at hcopies <;> omega
  · rw [List.count_eq_zero.mpr hmem]
    exact Nat.zero_le 1

lemma hash_eq_some {bucket : ℕ} (hfd : 0 ≤ fd) (h : hash fd = some bucket) :
    (bucket : ℤ) = fd % numBuckets := by
  rw [hash_of_nonneg hfd, Option.some.injEq, Int.tmod_eq_emod_of_nonneg hfd] at h
  have := Int.emod_nonneg fd (by decide : numBuckets ≠ 0)
  omega

end Table

section Calls

variable {cookie : Option Block} {a : Answers} {fuel : ℕ} {fd : ℤ} {addr : Sockaddr} {c : Call}
  {s t u : Library} {result : ℤ}

def Library.Spares (s t : Library) : Prop :=
  t.htable = s.htable ∧ t.freed = s.freed ∧ t.isOpen = s.isOpen

def Library.Releases (fd : ℤ) (s t : Library) : Prop :=
  s.htable.lookup fd = some true ∧ t.htable = s.htable.freeState fd ∧
    t.freed = s.freed ++ [(fd, true)] ∧ t.isOpen = s.isOpen

lemma freeState_releases (h : s.htable.lookup fd = some true) : s.Releases fd (s.freeState fd) := by
  refine ⟨h, rfl, ?_, rfl⟩
  simp [Library.freeState, lookup_eq_true_iff.mp h]

lemma readConvert_table (htrack : s.htable.lookup fd = some true)
    (h : readConvert a fuel false fd s = some (.returns result t)) :
    s.Spares t ∨ s.Releases fd t := by
  rcases readConvert_cases h with ⟨-, -, rfl⟩ | ⟨hdr, area, -, -, rfl⟩ | ⟨n, -, -, rfl⟩
  · exact Or.inl ⟨rfl, rfl, rfl⟩
  · exact Or.inr (freeState_releases (s := s.consume fd _) htrack)
  · exact Or.inr (freeState_releases (s := (s.consume fd n).record _) htrack)

lemma afterReply_table {original : Library → Outcome ℤ}
    (horiginal : ∀ s t result, original s = .returns result t → s.Spares t)
    (h : afterReply a fuel fd original s = some (.returns result t)) :
    s.Spares t ∨ s.Releases fd t := by
  cases hlookup : s.htable.lookup fd with
  | none =>
    simp only [afterReply, hlookup] at h
    cases h
  | some found =>
    simp only [afterReply, hlookup] at h
    cases found with
    | false => exact Or.inl (horiginal s t result (Option.some.inj h))
    | true =>
      dsimp only at h
      cases hread : readConvert a fuel false fd s with
      | none =>
        rw [hread] at h
        cases h
      | some o =>
        rw [hread] at h
        cases o with
        | undefined => cases h
        | returns code u =>
          have htable := readConvert_table hlookup hread
          dsimp only at h
          split_ifs at h
          · obtain ⟨hu, hfreed, hopen⟩ := horiginal u t result (Option.some.inj h)
            simpa only [Library.Spares, Library.Releases, hu, hfreed, hopen] using htable
          · cases h
            exact htable
          · cases h
            exact htable

lemma originalSend_spares (h : originalSend a fd s = .returns result t) : s.Spares t := by
  cases h
  exact ⟨rfl, rfl, rfl⟩

lemma originalRecv_spares {len : ℕ} {peek : Bool}
    (h : originalRecv a fd len peek s = .returns result t) : s.Spares t := by
  simp only [originalRecv] at h
  split at h
  · cases h
    exact ⟨rfl, rfl, rfl⟩
  · cases h
    cases peek <;> exact ⟨rfl, rfl, rfl⟩

lemma connect_table (h : connect cookie a fuel fd addr s = some (.returns result t)) :
    s.Spares t ∨ s.Releases fd t := by
  cases hlookup : s.htable.lookup fd with
  | none =>
    simp only [connect, hlookup] at h
    cases h
  | some found =>
    simp only [connect, hlookup] at h
    cases found with
    | false =>
      cases h
      exact Or.inl ⟨rfl, rfl, rfl⟩
    | true =>
      cases addr with
      | other family =>
        cases h
        exact Or.inr (freeState_releases (s := s) hlookup)
      | inet _ _ | inet6 _ =>
        dsimp only at h
        split at h
        · cases h
        · rename_i code sent hsent
          have hstate := redirect_state hsent
          have htrack : sent.htable.lookup fd = some true := by
            rcases hstate with rfl | ⟨message, rfl⟩ <;> exact hlookup
          have hback : ∀ t, sent.Spares t ∨ sent.Releases fd t → s.Spares t ∨ s.Releases fd t := by
            rcases hstate with rfl | ⟨message, rfl⟩ <;> exact fun t ht => ht
          apply hback
          split_ifs at h
          · exact readConvert_table htrack h
          · cases h
            exact Or.inl ⟨rfl, rfl, rfl⟩
          · cases h
            exact Or.inr (freeState_releases htrack)

lemma close_table (h : close a fd s = some (.returns result t)) :
    ∃ u, (s.htable.lookup fd = some false ∧ u = s ∨ s.Releases fd u) ∧
      t = (u.shut fd).record (.close fd) := by
  cases hlookup : s.htable.lookup fd with
  | none =>
    simp only [close, Library.free, hlookup] at h
    cases h
  | some found =>
    simp only [close, Library.free, hlookup] at h
    cases h
    cases found with
    | false => exact ⟨s, Or.inl ⟨rfl, rfl⟩, rfl⟩
    | true => exact ⟨s.freeState fd, Or.inr (freeState_releases hlookup), rfl⟩

end Calls

section Session

variable {cookie : Option Block} {past : List Action} {fd : ℤ} {l : Action} {s t : Library}
  {tracked next : Finset ℤ}

/-- What ties the library's state to the set; the kernel cannot hand out a tracked descriptor again. -/
structure Tracking (s : Library) (tracked : Finset ℤ) : Prop where
  table : Represents s.htable tracked
  isOpen : ∀ fd ∈ tracked, 0 ≤ fd ∧ s.isOpen fd = true
  freed : ∀ e ∈ s.freed, e.2 = true

lemma Tracking.of_spares (h : Tracking s tracked) (ht : s.Spares t) : Tracking t tracked := by
  obtain ⟨htable, hfreed, hopen⟩ := ht
  exact ⟨htable ▸ h.table, hopen ▸ h.isOpen, hfreed ▸ h.freed⟩

lemma Tracking.of_releases (h : Tracking s tracked) (ht : s.Releases fd t) :
    Tracking t (tracked.erase fd) := by
  obtain ⟨-, htable, hfreed, hopen⟩ := ht
  refine ⟨htable ▸ h.table.freeState, fun other hmem => ?_, fun e he => ?_⟩
  · rw [hopen]
    exact h.isOpen other (Finset.mem_of_mem_erase hmem)
  · rw [hfreed] at he
    rcases List.mem_append.mp he with he | he
    · exact h.freed e he
    · rw [List.mem_singleton.mp he]

lemma Tracking.shut (h : Tracking s tracked) (hfd : fd ∉ tracked) :
    Tracking ((s.shut fd).record (.close fd)) tracked where
  table := h.table
  isOpen other hmem := by
    have hne : other ≠ fd := fun heq => hfd (heq ▸ hmem)
    refine ⟨(h.isOpen other hmem).1, ?_⟩
    simp only [Library.record, Library.shut, Function.update_of_ne hne]
    exact (h.isOpen other hmem).2
  freed := h.freed

lemma Tracking.opened (h : Tracking s tracked) (stream : Bytes) :
    Tracking (s.opened fd stream) tracked where
  table := h.table
  isOpen other hmem := by
    refine ⟨(h.isOpen other hmem).1, ?_⟩
    simp only [Library.opened, Function.update_apply, (h.isOpen other hmem).2, ite_self]
  freed := h.freed

lemma Tracking.alloc (h : Tracking s tracked) (hfd : 0 ≤ fd) (hopen : s.isOpen fd = true)
    (hnew : fd ∉ tracked) : Tracking (s.alloc fd) (insert fd tracked) where
  table := by
    refine h.table.alloc ?_ hnew
    rw [hash_of_nonneg hfd]
    simp
  isOpen other hmem := by
    rcases Finset.mem_insert.mp hmem with rfl | hmem
    · exact ⟨hfd, hopen⟩
    · exact h.isOpen other hmem
  freed := h.freed

lemma Tracking.socket {domain type protocol : ℤ} {malloc : Bool} {stream : Bytes}
    (h : Tracking s tracked) (hnew : fd < 0 ∨ s.isOpen fd = false) :
    ∃ next, TrackStep (.socket domain type protocol fd malloc) tracked next ∧
      Tracking (socket domain type protocol fd malloc stream s).2 next := by
  simp only [Client.socket]
  by_cases hfd : 0 ≤ fd
  · have hfresh : fd ∉ tracked := by
      intro hmem
      have hopen := (h.isOpen fd hmem).2
      rw [hnew.resolve_left (not_lt.mpr hfd)] at hopen
      cases hopen
    rw [if_pos hfd]
    split_ifs with hmanaged
    · obtain ⟨hdomain, htype, hprotocol, -, rfl⟩ := hmanaged
      exact ⟨_, .tracks ⟨hdomain, htype, hprotocol⟩ hfd hfresh,
        (h.opened stream).alloc hfd (Function.update_self ..) hfresh⟩
    · refine ⟨_, .ignores ?_, h.opened stream⟩
      by_contra hall
      push Not at hall
      obtain ⟨⟨hdomain, htype, hprotocol⟩, -, hmalloc⟩ := hall
      exact hmanaged ⟨hdomain, htype, hprotocol, hfd, by simpa using hmalloc⟩
  · rw [if_neg hfd, if_neg fun hmanaged => hfd hmanaged.2.2.2.1]
    exact ⟨_, .ignores (Or.inr (Or.inl (not_le.mp hfd))), h⟩

lemma Library.Releases.freed_ne (h : s.Releases fd t) : t.freed ≠ s.freed := by
  obtain ⟨-, -, hfreed, -⟩ := h
  rw [hfreed]
  simp

lemma Tracking.releases {c : Call} {frees : Bool} (h : Tracking s tracked) (hfd : 0 ≤ fd)
    (hu : s.Releases fd t) (hfrees : frees = true ↔ t.freed ≠ s.freed) :
    TrackStep (.call fd c frees) tracked (tracked.erase fd) ∧ Tracking t (tracked.erase fd) := by
  have hmem : fd ∈ tracked := by
    have hlookup := hu.1
    rw [h.table.lookup hfd, Option.some.injEq, decide_eq_true_eq] at hlookup
    exact hlookup
  obtain rfl : frees = true := hfrees.mpr hu.freed_ne
  exact ⟨.releases hmem, h.of_releases hu⟩

lemma Tracking.spares {c : Call} {frees : Bool} (h : Tracking s tracked) (hc : c = .close → fd ∉ tracked)
    (hu : s.Spares t) (hfrees : frees = true ↔ t.freed ≠ s.freed) :
    TrackStep (.call fd c frees) tracked tracked ∧ Tracking t tracked := by
  obtain rfl : frees = false := Bool.eq_false_iff.mpr fun htrue => hfrees.mp htrue hu.2.1
  exact ⟨.keeps hc, h.of_spares hu⟩

lemma sessionStep_simulates : Simulates Tracking (SessionStep cookie) TrackStep := by
  intro l s t tracked h hstep
  cases hstep with
  | socket hnew => exact h.socket hnew
  | @call fd c frees a fuel result _ _ hfd hfrees hcall =>
    have hkeep : c ≠ .close → s.Spares t ∨ s.Releases fd t →
        ∃ next, TrackStep (.call fd c frees) tracked next ∧ Tracking t next := by
      rintro hc (ht | ht)
      · exact ⟨tracked, h.spares (fun heq => absurd heq hc) ht hfrees⟩
      · exact ⟨tracked.erase fd, h.releases hfd ht hfrees⟩
    cases c with
    | connect addr => exact hkeep (by simp) (connect_table hcall)
    | send => exact hkeep (by simp) (afterReply_table (fun _ _ _ => originalSend_spares) hcall)
    | recv len peek => exact hkeep (by simp) (afterReply_table (fun _ _ _ => originalRecv_spares) hcall)
    | close =>
      obtain ⟨u, hu, rfl⟩ := close_table hcall
      rcases hu with ⟨hnone, rfl⟩ | hu
      · rw [h.table.lookup hfd, Option.some.injEq, decide_eq_false_iff_not] at hnone
        obtain ⟨hstep, -⟩ := h.spares (t := u) (fun _ => hnone) ⟨rfl, rfl, rfl⟩ hfrees
        exact ⟨tracked, hstep, h.shut hnone⟩
      · obtain ⟨hstep, hleft⟩ := h.releases hfd hu hfrees
        exact ⟨tracked.erase fd, hstep, hleft.shut (Finset.notMem_erase fd tracked)⟩

lemma ManagedSince.snoc (h : ManagedSince past fd) (hl : ∀ frees, l ≠ .call fd .close frees) :
    ManagedSince (past ++ [l]) fd := by
  obtain ⟨before, after, domain, type, protocol, rfl, hmanaged, hopen⟩ := h
  refine ⟨before, after ++ [l], domain, type, protocol, by simp, hmanaged, fun frees hmem => ?_⟩
  rcases List.mem_append.mp hmem with hmem | hmem
  · exact hopen frees hmem
  · exact hl frees (List.mem_singleton.mp hmem).symm

lemma trackStep_managed (h : ∀ fd ∈ tracked, ManagedSince past fd) (hstep : TrackStep l tracked next) :
    ∀ fd ∈ next, ManagedSince (past ++ [l]) fd := by
  intro fd hmem
  cases hstep with
  | tracks hmanaged hfd hnew =>
    rcases Finset.mem_insert.mp hmem with rfl | hmem
    · exact ⟨past, [], _, _, _, rfl, hmanaged, fun _ => List.not_mem_nil⟩
    · exact (h fd hmem).snoc (by simp)
  | ignores _ => exact (h fd hmem).snoc (by simp)
  | keeps hclose =>
    refine (h fd hmem).snoc fun frees hl => ?_
    cases hl
    exact hclose rfl hmem
  | releases _ =>
    obtain ⟨hne, hmem⟩ := Finset.mem_erase.mp hmem
    refine (h fd hmem).snoc fun frees hl => hne ?_
    cases hl
    rfl

end Session

theorem session_tracks (cookie : Option Block) (past : List Action) (s t : Library)
    (htable : s.htable = fun _ => []) (hfreed : s.freed = [])
    (h : Trace (SessionStep cookie) s past t) :
    ∃ tracked, Trace TrackStep ∅ past tracked ∧ Tracks past t tracked := by
  have hinit : Tracking s ∅ :=
    ⟨htable ▸ .empty, fun _ hmem => absurd hmem (Finset.notMem_empty _), by simp [hfreed]⟩
  obtain ⟨tracked, hrun, ht⟩ := h.simulated sessionStep_simulates hinit
  refine ⟨tracked, hrun, ?_⟩
  have hnonneg : ∀ bucket fd, fd ∈ t.htable bucket → 0 ≤ fd := by
    intro bucket fd hmem
    have hcopies := ht.table.copies fd
    simp only [SocketHtable.copies, ht.table.placed bucket fd hmem] at hcopies
    split_ifs at hcopies with hfd
    · exact (ht.isOpen fd hfd).1
    · exact absurd hmem (List.count_eq_zero.mp hcopies)
  exact
    { unique := fun bucket fd => ht.table.unique bucket
      bucket := fun bucket fd hmem =>
        ⟨hnonneg bucket fd hmem, hash_eq_some (hnonneg bucket fd hmem) (ht.table.placed bucket fd hmem)⟩
      lookup := fun fd hfd => ht.table.lookup hfd
      managed := hrun.invariant (I := fun past tracked => ∀ fd ∈ tracked, ManagedSince past fd)
        (fun _ hmem => absurd hmem (Finset.notMem_empty _)) fun _ _ _ _ => trackStep_managed
      freed := ht.freed }

/-- The descriptor `3` is given back and handed out again. -/
theorem session_tracks_reuse :
    ∃ t tracked, Trace TrackStep ∅ [.socket afInet sockStream ipprotoMptcp 3 true, .call 3 .close true,
        .socket afInet sockStream ipprotoMptcp 3 true] tracked ∧
      Tracks [.socket afInet sockStream ipprotoMptcp 3 true, .call 3 .close true,
        .socket afInet sockStream ipprotoMptcp 3 true] t tracked ∧ 3 ∈ tracked := by
  let closed := (((managed []).freeState 3).shut 3).record (.close 3)
  have hclose : perform none willing 0 3 .close (managed []) = some (.returns 0 closed) := rfl
  have hfrees : true = true ↔ closed.freed ≠ (managed []).freed := by decide
  have hrun : Trace (SessionStep none) .start [.socket afInet sockStream ipprotoMptcp 3 true,
      .call 3 .close true, .socket afInet sockStream ipprotoMptcp 3 true]
      (socket afInet sockStream ipprotoMptcp 3 true [] closed).2 :=
    ((Trace.nil.snoc (.socket (Or.inr rfl))).snoc (.call (by decide) hfrees hclose)).snoc (.socket (Or.inr rfl))
  obtain ⟨tracked, htrack, ht⟩ := session_tracks none _ _ _ rfl rfl hrun
  refine ⟨_, tracked, htrack, ht, ?_⟩
  have hlookup := ht.lookup 3 (by decide)
  have hfound : (socket afInet sockStream ipprotoMptcp 3 true [] closed).2.htable.lookup 3 = some true := rfl
  rw [hfound] at hlookup
  exact of_decide_eq_true (Option.some.inj hlookup).symm

end TransportConverter.Client
