import TransportConverter.Foundations.IntrusiveList
import TransportConverter.Client.SocketTable

/-! `_socket_htable` in memory: the buckets, and the blocks their nodes are. -/

namespace TransportConverter.Client.SocketStates

open Foundations.IntrusiveList

structure SocketState where
  fd : ℤ
  established : ℤ

abbrev States := Memory ℕ ℕ SocketState

/-- What `malloc` hands out: a block, and what it happens to hold. -/
abbrev Block := ℕ × Node ℕ ℕ SocketState

def lookup (fuel : ℕ) (m : States) (fd : ℤ) : Option (Option ℕ) :=
  (hash fd).bind fun bucket => m.walk (fun state => state.fd == fd) fuel (m.first bucket)

def alloc (m : States) (given : Option Block) (fd : ℤ) : Option (Option ℕ × States) :=
  match given with
  | none => some (none, m)
  | some (state, block) => do
    let bucket ← hash fd
    let m ← (m.insert state { block with data := { block.data with fd } }).insertHead bucket state
    some (some state, m)

def freeState (m : States) (state : ℕ) : Option States := do
  let m ← m.remove state
  (m.node state).map fun _ => m.erase state

def free (fuel : ℕ) (m : States) (fd : ℤ) : Option (Option ℕ × States) := do
  match ← lookup fuel m fd with
  | none => some (none, m)
  | some state =>
    let m ← freeState m state
    some (some state, m)

inductive Call
  | lookup (fd : ℤ)
  | alloc (fd : ℤ) (given : Option Block)
  | free (fd : ℤ)

def Call.fd : Call → ℤ
  | .lookup fd | .alloc fd _ | .free fd => fd

def perform (fuel : ℕ) (m : States) : Call → Option (Option ℕ × States)
  | .lookup fd => (lookup fuel m fd).map fun found => (found, m)
  | .alloc fd given => alloc m given fd
  | .free fd => free fuel m fd

def run (fuel : ℕ) : List Call → States → Option (List (Option ℕ) × States)
  | [], m => some ([], m)
  | c :: calls, m => do
    let (answer, m) ← perform fuel m c
    let (answers, m) ← run fuel calls m
    some (answer :: answers, m)

/-- `malloc` hands out no block that is in use. -/
def Call.fresh (m : States) : Call → Bool
  | .alloc _ (some (state, _)) => (m.node state).isNone
  | .alloc _ none | .lookup _ | .free _ => true

def freshRun (fuel : ℕ) : List Call → States → Bool
  | [], _ => true
  | c :: calls, m => c.fresh m && (perform fuel m c).all fun (_, m) => freshRun fuel calls m

def zeroed : States := ⟨fun _ => none, fun _ => none⟩

/-- What the table is for: the states of each descriptor, the last one made first. What a call does to them
depends on the call and the answer of `malloc` alone. -/
abbrev Stacks := ℤ → List ℕ

namespace Stacks

def perform (s : Stacks) : Call → Option ℕ × Stacks
  | .lookup fd => ((s fd).head?, s)
  | .alloc _ none => (none, s)
  | .alloc fd (some (state, _)) => (some state, Function.update s fd (state :: s fd))
  | .free fd => ((s fd).head?, Function.update s fd (s fd).tail)

def run : List Call → Stacks → List (Option ℕ) × Stacks
  | [], s => ([], s)
  | c :: calls, s =>
    let (answer, s) := s.perform c
    let (answers, s) := run calls s
    (answer :: answers, s)

end Stacks

def after (htable : SocketHtable) : Call → SocketHtable
  | .lookup _ | .alloc _ none => htable
  | .alloc fd (some _) => htable.alloc fd
  | .free fd => htable.freeState fd

def hasFd (m : States) (fd : ℤ) (n : ℕ) : Bool := (m.data n).any fun state => state.fd == fd

def fdOf (m : States) (n : ℕ) : Option ℤ := (m.data n).map SocketState.fd

structure Represents (k : ℕ) (m : States) (lists : ℕ → List ℕ) (s : Stacks) (htable : SocketHtable) :
    Prop where
  holds : Holds m lists
  placed : ∀ bucket, ∀ n ∈ lists bucket, ∃ state, m.data n = some state ∧ hash state.fd = some bucket
  linked : ∀ n, m.data n ≠ none → ∃ bucket, n ∈ lists bucket
  stack : ∀ fd bucket, hash fd = some bucket → s fd = (lists bucket).filter (hasFd m fd)
  nowhere : ∀ fd, hash fd = none → s fd = []
  table : ∀ bucket, (lists bucket).map (fdOf m) = (htable bucket).map some
  short : ∀ bucket, (lists bucket).length ≤ k

section Lists

variable {α γ : Type*} [DecidableEq α] [BEq γ] [LawfulBEq γ] {xs : List α} {x : α} {p : α → Bool}
  {f : α → γ} {c : γ}

omit [BEq γ] [LawfulBEq γ] in
lemma filter_erase (hxs : xs.Nodup) : (xs.erase x).filter p = (xs.filter p).erase x := by
  rw [hxs.erase_eq_filter, (hxs.filter p).erase_eq_filter, List.filter_comm]

lemma map_erase_first (hx : (xs.filter fun y => f y == c).head? = some x) :
    (xs.erase x).map f = (xs.map f).erase c := by
  rw [List.head?_filter] at hx
  induction xs with
  | nil => cases hx
  | cons y xs ih =>
    cases hy : f y == c with
    | true =>
      obtain rfl : y = x := by simpa [hy] using hx
      rw [List.erase_cons_head, List.map_cons, eq_of_beq hy, List.erase_cons_head]
    | false =>
      have hx' : xs.find? (fun z => f z == c) = some x := by simpa [hy] using hx
      have hne : y ≠ x := by
        rintro rfl
        exact absurd (List.find?_some hx') (by simp [hy])
      rw [List.erase_cons_tail (by simpa using hne), List.map_cons, List.map_cons,
        List.erase_cons_tail (by simp [hy]), ih hx']

end Lists

section Steps

variable {fuel k : ℕ} {m : States} {lists : ℕ → List ℕ} {s : Stacks}
  {htable : SocketHtable} {fd : ℤ}

lemma hasFd_iff {n : ℕ} : hasFd m fd n = true ↔ fdOf m n = some fd := by
  cases h : m.data n <;> simp [hasFd, fdOf, h]

lemma represents_zeroed : Represents 0 zeroed (fun _ => []) (fun _ => []) (fun _ => []) where
  holds := holds_nil rfl
  placed _ _ hn := by cases hn
  linked _ hn := absurd rfl hn
  stack _ _ _ := rfl
  nowhere _ _ := rfl
  table _ := rfl
  short _ := le_rfl

lemma Represents.mono {j : ℕ} (h : Represents k m lists s htable) (hjk : k ≤ j) :
    Represents j m lists s htable :=
  { h with short := fun bucket => (h.short bucket).trans hjk }

lemma Represents.mem_stack {n : ℕ} (h : Represents k m lists s htable) (hn : n ∈ s fd) :
    ∃ bucket, hash fd = some bucket ∧ n ∈ lists bucket ∧ fdOf m n = some fd := by
  cases hb : hash fd with
  | none =>
    rw [h.nowhere fd hb] at hn
    cases hn
  | some bucket =>
    rw [h.stack fd bucket hb] at hn
    obtain ⟨hmem, hfd⟩ := List.mem_filter.mp hn
    exact ⟨bucket, rfl, hmem, hasFd_iff.mp hfd⟩

lemma Represents.live_iff {n : ℕ} (h : Represents k m lists s htable) :
    m.data n ≠ none ↔ ∃ fd, n ∈ s fd := by
  constructor
  · intro hn
    obtain ⟨bucket, hmem⟩ := h.linked n hn
    obtain ⟨state, hdata, hhash⟩ := h.placed bucket n hmem
    refine ⟨state.fd, ?_⟩
    rw [h.stack _ bucket hhash]
    exact List.mem_filter.mpr ⟨hmem, hasFd_iff.mpr (by simp [fdOf, hdata])⟩
  · rintro ⟨fd, hn⟩
    obtain ⟨bucket, _, hmem, _⟩ := h.mem_stack hn
    exact (h.holds.chain bucket).data hmem

lemma Represents.lookup (h : Represents k m lists s htable) (hfd : hash fd ≠ none) (hfuel : k ≤ fuel) :
    lookup fuel m fd = some (s fd).head? := by
  obtain ⟨bucket, hb⟩ := Option.ne_none_iff_exists'.mp hfd
  have hchain := h.holds.chain bucket
  have hfirst : m.first bucket = (lists bucket).head? := Option.some.inj hchain.load_head
  have hwalk : m.walk (fun state => state.fd == fd) fuel (lists bucket).head? =
      some ((lists bucket).find? (hasFd m fd)) := hchain.walk ((h.short bucket).trans hfuel)
  rw [SocketStates.lookup, hb, Option.bind_some, hfirst, hwalk, h.stack fd bucket hb, List.head?_filter]

section Change

variable {m' : States} {n : ℕ} {d : Option SocketState}

lemma fdOf_of_ne {j : ℕ} (hdata : m'.data = Function.update m.data n d) (hj : j ≠ n) :
    fdOf m' j = fdOf m j := by
  rw [fdOf, hdata, Function.update_of_ne hj, fdOf]

lemma filter_of_notMem {ns : List ℕ} (hdata : m'.data = Function.update m.data n d) (hn : n ∉ ns) :
    ns.filter (hasFd m' fd) = ns.filter (hasFd m fd) := by
  apply List.filter_congr
  intro j hj
  rw [hasFd, hasFd, hdata, Function.update_of_ne]
  rintro rfl
  exact hn hj

lemma map_of_notMem {ns : List ℕ} (hdata : m'.data = Function.update m.data n d) (hn : n ∉ ns) :
    ns.map (fdOf m') = ns.map (fdOf m) := by
  apply List.map_congr_left
  intro j hj
  apply fdOf_of_ne hdata
  rintro rfl
  exact hn hj

end Change

lemma Represents.nowhere_update {bucket : ℕ} {ns : List ℕ} (h : Represents k m lists s htable)
    (hbucket : hash fd = some bucket) (other : ℤ) (hother : hash other = none) :
    Function.update s fd ns other = [] := by
  rw [Function.update_of_ne]
  · exact h.nowhere other hother
  · rintro rfl
    exact Option.some_ne_none _ (hbucket.symm.trans hother)

lemma mem_pushed {n bucket b j : ℕ} :
    j ∈ Function.update lists bucket (n :: lists bucket) b ↔ (b = bucket ∧ j = n) ∨ j ∈ lists b := by
  rcases eq_or_ne b bucket with rfl | hb
  · rw [Function.update_self, List.mem_cons, and_iff_right rfl]
  · rw [Function.update_of_ne hb, or_iff_right fun hhead => hb hhead.1]

lemma mem_popped {n bucket b j : ℕ} (hm : Holds m lists) (hmem : n ∈ lists bucket) :
    j ∈ Function.update lists bucket ((lists bucket).erase n) b ↔ j ∈ lists b ∧ j ≠ n := by
  rcases eq_or_ne b bucket with rfl | hb
  · rw [Function.update_self, (hm.nodup b).mem_erase_iff, and_comm]
  · rw [Function.update_of_ne hb, iff_self_and]
    rintro hj rfl
    exact hm.apart b bucket hb hj hmem

lemma Represents.pushed {m' : States} {n bucket : ℕ} {state : SocketState}
    (h : Represents k m lists s htable) (hbucket : hash state.fd = some bucket) (hn : m.data n = none)
    (hdata : m'.data = Function.update m.data n (some state))
    (hholds : Holds m' (Function.update lists bucket (n :: lists bucket))) :
    Represents (k + 1) m' (Function.update lists bucket (n :: lists bucket))
      (Function.update s state.fd (n :: s state.fd)) (htable.alloc state.fd) := by
  have hnew : ∀ b, n ∉ lists b := fun b hmem => (h.holds.chain b).data hmem hn
  have hfd : fdOf m' n = some state.fd := by rw [fdOf, hdata, Function.update_self, Option.map_some]
  refine ⟨hholds, fun b j hj => ?_, fun j hj => ?_, fun fd b hb => ?_, fun fd hb => ?_, fun b => ?_, fun b => ?_⟩
  · rw [hdata]
    rcases mem_pushed.mp hj with ⟨rfl, rfl⟩ | hold
    · rw [Function.update_self]
      exact ⟨state, rfl, hbucket⟩
    · rw [Function.update_of_ne]
      · exact h.placed b j hold
      · rintro rfl
        exact hnew b hold
  · rcases eq_or_ne j n with rfl | hne
    · exact ⟨bucket, mem_pushed.mpr (Or.inl ⟨rfl, rfl⟩)⟩
    · rw [hdata, Function.update_of_ne hne] at hj
      obtain ⟨b, hmem⟩ := h.linked j hj
      exact ⟨b, mem_pushed.mpr (Or.inr hmem)⟩
  · rcases eq_or_ne b bucket with rfl | hne
    · rw [Function.update_self, List.filter_cons, filter_of_notMem hdata (hnew b), ← h.stack fd b hb]
      rcases eq_or_ne fd state.fd with rfl | hfd'
      · rw [Function.update_self, if_pos (hasFd_iff.mpr hfd)]
      · rw [Function.update_of_ne hfd', if_neg]
        rw [hasFd_iff, hfd]
        exact fun heq => hfd' (Option.some.inj heq).symm
    · rw [Function.update_of_ne hne, filter_of_notMem hdata (hnew b), ← h.stack fd b hb,
        Function.update_of_ne]
      rintro rfl
      exact hne (Option.some.inj (hb.symm.trans hbucket))
  · exact h.nowhere_update hbucket fd hb
  · have hafter : htable.alloc state.fd = Function.update htable bucket (state.fd :: htable bucket) := by
      simp only [SocketHtable.alloc, hbucket]
    rw [hafter]
    rcases eq_or_ne b bucket with rfl | hne
    · rw [Function.update_self, Function.update_self, List.map_cons, map_of_notMem hdata (hnew b), hfd,
        h.table b, List.map_cons]
    · rw [Function.update_of_ne hne, Function.update_of_ne hne, map_of_notMem hdata (hnew b), h.table b]
  · rcases eq_or_ne b bucket with rfl | hne
    · rw [Function.update_self]
      exact Nat.succ_le_succ (h.short b)
    · rw [Function.update_of_ne hne]
      exact Nat.le_succ_of_le (h.short b)

lemma Represents.popped {m' : States} {n bucket : ℕ} {ns : List ℕ}
    (h : Represents k m lists s htable) (hbucket : hash fd = some bucket) (hn : s fd = n :: ns)
    (hdata : m'.data = Function.update m.data n none)
    (hholds : Holds m' (Function.update lists bucket ((lists bucket).erase n))) :
    Represents k m' (Function.update lists bucket ((lists bucket).erase n)) (Function.update s fd ns)
      (htable.freeState fd) := by
  have hmember : n ∈ lists bucket ∧ fdOf m n = some fd := by
    obtain ⟨b, hb, hmem, hfd⟩ := h.mem_stack (hn ▸ List.mem_cons_self)
    obtain rfl : bucket = b := Option.some.inj (hbucket.symm.trans hb)
    exact ⟨hmem, hfd⟩
  obtain ⟨hmem, hfd⟩ := hmember
  have hgone : ∀ b, n ∉ Function.update lists bucket ((lists bucket).erase n) b :=
    fun b hleft => ((mem_popped h.holds hmem).mp hleft).2 rfl
  refine ⟨hholds, fun b j hj => ?_, fun j hj => ?_, fun other b hb => ?_, fun other hb => ?_, fun b => ?_,
    fun b => ?_⟩
  · obtain ⟨hold, hne⟩ := (mem_popped h.holds hmem).mp hj
    rw [hdata, Function.update_of_ne hne]
    exact h.placed b j hold
  · have hne : j ≠ n := by
      rintro rfl
      rw [hdata, Function.update_self] at hj
      exact hj rfl
    rw [hdata, Function.update_of_ne hne] at hj
    obtain ⟨b, hmemb⟩ := h.linked j hj
    exact ⟨b, (mem_popped h.holds hmem).mpr ⟨hmemb, hne⟩⟩
  · rw [filter_of_notMem hdata (hgone b)]
    rcases eq_or_ne b bucket with rfl | hne
    · rw [Function.update_self, filter_erase (h.holds.nodup b), ← h.stack other b hb]
      rcases eq_or_ne other fd with rfl | hother
      · rw [Function.update_self, hn, List.erase_cons_head]
      · rw [Function.update_of_ne hother, List.erase_of_not_mem]
        intro hmem'
        obtain ⟨_, _, _, hfd'⟩ := h.mem_stack hmem'
        exact hother (Option.some.inj (hfd'.symm.trans hfd))
    · rw [Function.update_of_ne hne, ← h.stack other b hb, Function.update_of_ne]
      rintro rfl
      exact hne (Option.some.inj (hb.symm.trans hbucket))
  · exact h.nowhere_update hbucket other hb
  · have hafter : htable.freeState fd = Function.update htable bucket ((htable bucket).erase fd) := by
      simp only [SocketHtable.freeState, hbucket]
    rw [hafter, map_of_notMem hdata (hgone b)]
    rcases eq_or_ne b bucket with rfl | hne
    · have hsame : (lists b).filter (fun j => fdOf m j == some fd) = (lists b).filter (hasFd m fd) := by
        apply List.filter_congr
        intro j _
        rw [Bool.eq_iff_iff, beq_iff_eq, hasFd_iff]
      have hfirst : ((lists b).filter fun j => fdOf m j == some fd).head? = some n := by
        rw [hsame, ← h.stack fd b hbucket, hn, List.head?_cons]
      rw [Function.update_self, Function.update_self, map_erase_first hfirst, h.table b]
      exact (List.map_erase (Option.some_injective ℤ) (htable b)).symm
    · rw [Function.update_of_ne hne, Function.update_of_ne hne, h.table b]
  · rcases eq_or_ne b bucket with rfl | hne
    · rw [Function.update_self]
      exact (List.length_erase_le ..).trans (h.short b)
    · rw [Function.update_of_ne hne]
      exact h.short b

lemma Represents.alloc (h : Represents k m lists s htable) (hfd : hash fd ≠ none) (given : Option Block)
    (hfresh : (Call.alloc fd given).fresh m = true) :
    ∃ m' lists', alloc m given fd = some ((s.perform (.alloc fd given)).1, m') ∧
      Represents (k + 1) m' lists' (s.perform (.alloc fd given)).2 (after htable (.alloc fd given)) := by
  cases given with
  | none => exact ⟨m, lists, rfl, h.mono (Nat.le_succ k)⟩
  | some made =>
    obtain ⟨n, block⟩ := made
    obtain ⟨bucket, hb⟩ := Option.ne_none_iff_exists'.mp hfd
    have hn : m.data n = none := by rw [Memory.data, Option.isNone_iff_eq_none.mp hfresh, Option.map_none]
    have hnew : ∀ b, n ∉ lists b := fun b hmem => (h.holds.chain b).data hmem hn
    let state : SocketState := { block.data with fd }
    have hdata₁ : (m.insert n { block with data := state }).data = Function.update m.data n (some state) :=
      data_insert
    have hmade : (m.insert n { block with data := state }).data n ≠ none := by
      rw [hdata₁, Function.update_self]
      exact Option.some_ne_none _
    obtain ⟨m', hm', hholds, hdata⟩ := (h.holds.insert hn).insertHead hmade hnew bucket
    have hstate : hash state.fd = some bucket := hb
    refine ⟨m', _, ?_, h.pushed hstate hn (hdata.trans hdata₁) hholds⟩
    simp only [SocketStates.alloc, hb, Option.bind_eq_bind, Option.bind_some]
    exact Option.bind_eq_some_iff.mpr ⟨m', hm', rfl⟩

lemma Represents.freeState {n bucket : ℕ} (h : Represents k m lists s htable) (hmem : n ∈ lists bucket) :
    ∃ m', freeState m n = some m' ∧ m'.data = Function.update m.data n none ∧
      Holds m' (Function.update lists bucket ((lists bucket).erase n)) := by
  obtain ⟨m', hm', hholds, hdata⟩ := h.holds.remove hmem
  have hgone : ∀ b, n ∉ Function.update lists bucket ((lists bucket).erase n) b := by
    intro b
    rcases eq_or_ne b bucket with rfl | hne
    · rw [Function.update_self]
      exact (h.holds.nodup b).not_mem_erase
    · rw [Function.update_of_ne hne]
      exact fun hother => h.holds.apart b bucket hne hother hmem
  obtain ⟨x, hx⟩ : ∃ x, m'.node n = some x := by
    apply Option.ne_none_iff_exists'.mp
    intro hnone
    apply (h.holds.chain bucket).data hmem
    rw [← hdata, Memory.data, hnone, Option.map_none]
  refine ⟨m'.erase n, by simp [SocketStates.freeState, hm', hx], ?_, hholds.erase hgone⟩
  rw [data_erase, hdata]

lemma Represents.freeState_none (h : Represents k m lists s htable) (hs : s fd = []) :
    htable.freeState fd = htable := by
  cases hb : hash fd with
  | none => simp only [SocketHtable.freeState, hb]
  | some bucket =>
    have hnot : fd ∉ htable bucket := by
      rw [← List.mem_map_of_injective (Option.some_injective ℤ), ← h.table bucket, List.mem_map]
      rintro ⟨n, hn, hfd⟩
      have hmem : n ∈ s fd := by
        rw [h.stack fd bucket hb]
        exact List.mem_filter.mpr ⟨hn, hasFd_iff.mpr hfd⟩
      rw [hs] at hmem
      cases hmem
    simp only [SocketHtable.freeState, hb]
    rw [List.erase_of_not_mem hnot, Function.update_eq_self]

lemma Represents.free (h : Represents k m lists s htable) (hfd : hash fd ≠ none) (hfuel : k ≤ fuel) :
    ∃ m' lists', free fuel m fd = some ((s.perform (.free fd)).1, m') ∧
      Represents (k + 1) m' lists' (s.perform (.free fd)).2 (after htable (.free fd)) := by
  rw [SocketStates.free, h.lookup hfd hfuel, Option.bind_eq_bind, Option.bind_some, Stacks.perform, after]
  cases hs : s fd with
  | nil =>
    have hsame : Function.update s fd [] = s := by
      rw [Function.update_eq_self_iff, hs]
    refine ⟨m, lists, rfl, ?_⟩
    rw [List.tail_nil, hsame, h.freeState_none hs]
    exact h.mono (Nat.le_succ k)
  | cons n ns =>
    obtain ⟨bucket, hb, hmem, _⟩ := h.mem_stack (hs ▸ List.mem_cons_self : n ∈ s fd)
    obtain ⟨m', hfree, hdata, hholds⟩ := h.freeState hmem
    refine ⟨m', _, ?_, (h.popped hb hs hdata hholds).mono (Nat.le_succ k)⟩
    simp [hfree]

lemma Represents.perform {c : Call} (h : Represents k m lists s htable) (hfd : hash c.fd ≠ none)
    (hfresh : c.fresh m = true) (hfuel : k ≤ fuel) :
    ∃ m' lists', perform fuel m c = some ((s.perform c).1, m') ∧
      Represents (k + 1) m' lists' (s.perform c).2 (after htable c) := by
  cases c with
  | lookup fd =>
    have hlookup : SocketStates.lookup fuel m fd = some (s fd).head? := h.lookup hfd hfuel
    refine ⟨m, lists, ?_, h.mono (Nat.le_succ k)⟩
    rw [SocketStates.perform, hlookup, Option.map_some, Stacks.perform]
  | alloc fd given => exact h.alloc hfd given hfresh
  | free fd => exact h.free hfd hfuel

lemma run_ok {calls : List Call} (h : Represents k m lists s htable)
    (hfd : ∀ c ∈ calls, hash c.fd ≠ none) (hfresh : freshRun fuel calls m = true)
    (hfuel : k + calls.length ≤ fuel) :
    ∃ m' lists', run fuel calls m = some ((Stacks.run calls s).1, m') ∧
      Represents (k + calls.length) m' lists' (Stacks.run calls s).2 (calls.foldl after htable) := by
  induction calls generalizing k m lists s htable with
  | nil => exact ⟨m, lists, rfl, h⟩
  | cons c calls ih =>
    rw [List.length_cons] at hfuel ⊢
    rw [freshRun, Bool.and_eq_true] at hfresh
    obtain ⟨hblock, hrest⟩ := hfresh
    obtain ⟨m₁, lists₁, hstep, h₁⟩ := h.perform (hfd c List.mem_cons_self) hblock
      (Nat.le_of_add_right_le hfuel)
    rw [hstep, Option.all_some] at hrest
    obtain ⟨m', lists', hrun, h'⟩ := ih h₁ (fun c hc => hfd c (List.mem_cons_of_mem _ hc)) hrest (by omega)
    refine ⟨m', lists', ?_, ?_⟩
    · simp [run, Stacks.run, hstep, hrun]
    · rw [Nat.add_assoc, Nat.add_comm 1] at h'
      exact h'

end Steps

/-- In every run on descriptors that have a bucket no step is undefined, the calls answer as the stacks do,
and the blocks in use at the end are those on the stacks. -/
theorem run_refines_stacks (calls : List Call) (fuel : ℕ) (hfd : ∀ c ∈ calls, hash c.fd ≠ none)
    (hfresh : freshRun fuel calls zeroed = true) (hfuel : calls.length ≤ fuel) :
    ∃ m, run fuel calls zeroed = some ((Stacks.run calls fun _ => []).1, m) ∧
      ∀ n, m.node n ≠ none ↔ ∃ fd, n ∈ (Stacks.run calls fun _ => []).2 fd := by
  obtain ⟨m, lists, hrun, h⟩ := run_ok represents_zeroed hfd hfresh ((Nat.zero_add _).trans_le hfuel)
  refine ⟨m, hrun, fun n => ?_⟩
  rw [← h.live_iff, Memory.data, ne_eq, ne_eq, Option.map_eq_none_iff]

/-- Two descriptors of one bucket, a second state for one of them, a `malloc` that fails, and a block that
is handed out again. -/
def collisionCalls : List Call :=
  [.alloc 7 (some (1, ⟨none, .first 0, ⟨3, 5⟩⟩)), .alloc 1031 (some (2, ⟨some 9, .next 9, ⟨7, 1⟩⟩)),
    .alloc 7 none, .alloc 7 (some (3, ⟨none, .first 0, ⟨0, 0⟩⟩)), .lookup 1031, .free 7,
    .alloc 8 (some (3, ⟨some 1, .next 2, ⟨7, 0⟩⟩)), .free 9, .lookup 7]

theorem run_refines_stacks_collision :
    ∃ m, run 9 collisionCalls zeroed =
        some ([some 1, some 2, none, some 3, some 2, some 3, some 3, none, some 1], m) ∧
      ∀ n, m.node n ≠ none ↔ ∃ fd, n ∈ (Stacks.run collisionCalls fun _ => []).2 fd :=
  run_refines_stacks collisionCalls 9 (by decide) (by decide) (by decide)

/-- What a walk through a bucket in memory meets is what `SocketHtable` has there, and both find the same
descriptors. -/
theorem run_refines_htable (calls : List Call) (fuel : ℕ) (hfd : ∀ c ∈ calls, hash c.fd ≠ none)
    (hfresh : freshRun fuel calls zeroed = true) (hfuel : calls.length ≤ fuel) :
    ∃ answers m, run fuel calls zeroed = some (answers, m) ∧
      (∀ bucket, ∃ ns, Chain m (.first bucket) ns ∧
        ns.map (fdOf m) = (calls.foldl after (fun _ => []) bucket).map some) ∧
      ∀ fd, hash fd ≠ none →
        (lookup fuel m fd).map Option.isSome = SocketHtable.lookup (calls.foldl after fun _ => []) fd := by
  obtain ⟨m, lists, hrun, h⟩ := run_ok represents_zeroed hfd hfresh ((Nat.zero_add _).trans_le hfuel)
  refine ⟨_, m, hrun, fun bucket => ⟨lists bucket, h.holds.chain bucket, h.table bucket⟩, ?_⟩
  intro fd hhash
  obtain ⟨bucket, hb⟩ := Option.ne_none_iff_exists'.mp hhash
  have hmem : (lists bucket).filter (hasFd m fd) ≠ [] ↔ fd ∈ calls.foldl after (fun _ => []) bucket := by
    rw [← List.mem_map_of_injective (Option.some_injective ℤ), ← h.table bucket]
    simp [List.filter_eq_nil_iff, hasFd_iff, List.mem_map]
  rw [h.lookup hhash (by omega), h.stack fd bucket hb, SocketHtable.lookup, hb]
  simp only [Option.map_some]
  congr 1
  rw [Bool.eq_iff_iff, decide_eq_true_iff, ← hmem, List.isSome_head?]

theorem run_refines_htable_collision :
    ∃ answers m, run 9 collisionCalls zeroed = some (answers, m) ∧
      (∀ bucket, ∃ ns, Chain m (.first bucket) ns ∧
        ns.map (fdOf m) = (collisionCalls.foldl after (fun _ => []) bucket).map some) ∧
      ∀ fd, hash fd ≠ none → (lookup 9 m fd).map Option.isSome =
        SocketHtable.lookup (collisionCalls.foldl after fun _ => []) fd :=
  run_refines_htable collisionCalls 9 (by decide) (by decide) (by decide)

end TransportConverter.Client.SocketStates
