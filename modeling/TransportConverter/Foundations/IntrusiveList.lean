import Mathlib

/-! Lists whose links are fields of their nodes. A node has the pointer to the next one, and the
address of the pointer that points to itself, so that it leaves its list without a walk. -/

namespace TransportConverter.Foundations.IntrusiveList

/-- Where a pointer to a node is kept: the head of a list, or a node. -/
inductive Slot (η ν : Type*)
  | first (h : η)
  | next (n : ν)
  deriving DecidableEq

structure Node (η ν β : Type*) where
  next : Option ν
  prev : Slot η ν
  data : β

/-- A node that is not there is not in memory: what reads or writes it is undefined. -/
structure Memory (η ν β : Type*) where
  first : η → Option ν
  node : ν → Option (Node η ν β)

variable {η ν β : Type*}

namespace Memory

def load (m : Memory η ν β) : Slot η ν → Option (Option ν)
  | .first h => some (m.first h)
  | .next n => (m.node n).map Node.next

def prev (m : Memory η ν β) (n : ν) : Option (Slot η ν) := (m.node n).map Node.prev

def data (m : Memory η ν β) (n : ν) : Option β := (m.node n).map Node.data

def walk (m : Memory η ν β) (wanted : β → Bool) : ℕ → Option ν → Option (Option ν)
  | _, none => some none
  | 0, some _ => none
  | fuel + 1, some n =>
    (m.node n).bind fun x => if wanted x.data then some (some n) else m.walk wanted fuel x.next

variable [DecidableEq η] [DecidableEq ν]

def store (m : Memory η ν β) (p : Option ν) : Slot η ν → Option (Memory η ν β)
  | .first h => some { m with first := Function.update m.first h p }
  | .next n =>
    (m.node n).map fun x => { m with node := Function.update m.node n (some { x with next := p }) }

def setPrev (m : Memory η ν β) (s : Slot η ν) (n : ν) : Option (Memory η ν β) :=
  (m.node n).map fun x => { m with node := Function.update m.node n (some { x with prev := s }) }

def setPrevOf (m : Memory η ν β) (s : Slot η ν) : Option ν → Option (Memory η ν β)
  | none => some m
  | some n => m.setPrev s n

def insertHead (m : Memory η ν β) (h : η) (elm : ν) : Option (Memory η ν β) := do
  let m ← m.store (m.first h) (.next elm)
  let m ← m.setPrevOf (.next elm) (m.first h)
  let m ← m.store (some elm) (.first h)
  m.setPrev (.first h) elm

def remove (m : Memory η ν β) (elm : ν) : Option (Memory η ν β) := do
  let x ← m.node elm
  let m ← m.setPrevOf x.prev x.next
  let x ← m.node elm
  m.store x.next x.prev

def insert (m : Memory η ν β) (n : ν) (x : Node η ν β) : Memory η ν β :=
  { m with node := Function.update m.node n (some x) }

def erase (m : Memory η ν β) (n : ν) : Memory η ν β :=
  { m with node := Function.update m.node n none }

end Memory

variable {m m' : Memory η ν β} {s t : Slot η ν} {n : ν} {ns rest : List ν} {h : η}

def Chain (m : Memory η ν β) : Slot η ν → List ν → Prop
  | s, [] => m.load s = some none
  | s, n :: ns => m.load s = some (some n) ∧ m.prev n = some s ∧ Chain m (.next n) ns

/-- What `lists` says is linked is what a walk from each head meets, and no node is linked twice. -/
structure Holds (m : Memory η ν β) (lists : η → List ν) : Prop where
  chain : ∀ h, Chain m (.first h) (lists h)
  nodup : ∀ h, (lists h).Nodup
  apart : ∀ h k, h ≠ k → (lists h).Disjoint (lists k)

lemma Chain.load_head (hc : Chain m s ns) : m.load s = some ns.head? := by
  cases ns with
  | nil => exact hc
  | cons n ns => exact hc.1

lemma Chain.load_next (hc : Chain m s ns) (hn : n ∈ ns) : m.load (.next n) ≠ none := by
  induction ns generalizing s with
  | nil => cases hn
  | cons k ns ih =>
    cases List.mem_cons.mp hn with
    | inl heq =>
      subst heq
      rw [hc.2.2.load_head]
      exact Option.some_ne_none _
    | inr hmem => exact ih hc.2.2 hmem

lemma head_of_tail (hns : ns.Nodup) (hn : n ∈ ns.tail) : n ∉ ns.head? := by
  cases ns with
  | nil => cases hn
  | cons k ns =>
    intro hk
    cases hk
    exact (List.nodup_cons.mp hns).1 hn

lemma Chain.move (hc : Chain m s ns) (hload : m'.load t = m.load s)
    (hhead : ∀ n ∈ ns.head?, m'.prev n = some t)
    (hnext : ∀ n ∈ ns, m'.load (.next n) = m.load (.next n))
    (hprev : ∀ n ∈ ns.tail, m'.prev n = m.prev n) : Chain m' t ns := by
  induction ns generalizing s t with
  | nil => exact hload.trans hc
  | cons n ns ih =>
    refine ⟨hload.trans hc.1, hhead n rfl, ih hc.2.2 (hnext n List.mem_cons_self) ?_ ?_ ?_⟩
    · intro k hk
      cases ns with
      | nil => cases hk
      | cons k' ns =>
        cases hk
        rw [hprev _ List.mem_cons_self]
        exact hc.2.2.2.1
    · intro k hk
      exact hnext k (List.mem_cons_of_mem n hk)
    · intro k hk
      exact hprev k (List.mem_of_mem_tail hk)

lemma Chain.congr (hc : Chain m s ns) (hload : m'.load s = m.load s)
    (hnext : ∀ n ∈ ns, m'.load (.next n) = m.load (.next n))
    (hprev : ∀ n ∈ ns, m'.prev n = m.prev n) : Chain m' s ns := by
  apply hc.move hload
  · intro n hn
    cases ns with
    | nil => cases hn
    | cons k ns =>
      cases hn
      rw [hprev _ List.mem_cons_self]
      exact hc.2.1
  · exact hnext
  · intro n hn
    exact hprev n (List.mem_of_mem_tail hn)

def slotAfter (s : Slot η ν) : List ν → Slot η ν
  | [] => s
  | n :: ns => slotAfter (.next n) ns

lemma slotAfter_cases (s : Slot η ν) (ns : List ν) : slotAfter s ns = s ∨ ∃ n ∈ ns, slotAfter s ns = .next n := by
  induction ns generalizing s with
  | nil => exact Or.inl rfl
  | cons n ns ih =>
    cases ih (.next n) with
    | inl heq => exact Or.inr ⟨n, List.mem_cons_self, heq⟩
    | inr hmem =>
      obtain ⟨k, hk, heq⟩ := hmem
      exact Or.inr ⟨k, List.mem_cons_of_mem n hk, heq⟩

lemma Chain.after (hc : Chain m s (ns ++ rest)) : Chain m (slotAfter s ns) rest := by
  induction ns generalizing s with
  | nil => exact hc
  | cons n ns ih => exact ih hc.2.2

lemma Chain.splice (hc : Chain m s (ns ++ n :: rest)) (hnodup : (ns ++ n :: rest).Nodup)
    (hslot : ∀ k ∈ ns, s ≠ .next k)
    (hload : ∀ t, t ≠ slotAfter s ns → m'.load t = m.load t)
    (hafter : m'.load (slotAfter s ns) = m.load (.next n))
    (hhead : ∀ k ∈ rest.head?, m'.prev k = some (slotAfter s ns))
    (hprev : ∀ k, k ∉ rest.head? → m'.prev k = m.prev k) (hfar : ∀ k ∈ rest, slotAfter s ns ≠ .next k) :
    Chain m' s (ns ++ rest) := by
  induction ns generalizing s with
  | nil =>
    have hrest : rest.Nodup := (List.nodup_cons.mp hnodup).2
    apply hc.2.2.move hafter hhead
    · intro k hk
      exact hload _ (hfar k hk).symm
    · intro k hk
      exact hprev k (head_of_tail hrest hk)
  | cons a ns ih =>
    obtain ⟨ha, hnodup⟩ := List.nodup_cons.mp hnodup
    have hne : s ≠ slotAfter s (a :: ns) := by
      intro heq
      cases slotAfter_cases (.next a) ns with
      | inl hfirst => exact hslot a List.mem_cons_self (heq.trans hfirst)
      | inr hmem =>
        obtain ⟨k, hk, hlast⟩ := hmem
        exact hslot k (List.mem_cons_of_mem a hk) (heq.trans hlast)
    refine ⟨(hload s hne).trans hc.1, ?_, ih hc.2.2 hnodup ?_ hload hafter hhead hfar⟩
    · rw [hprev]
      · exact hc.2.1
      · intro heq
        exact ha (List.mem_append_right _ (List.mem_cons_of_mem n (List.mem_of_mem_head? heq)))
    · rintro k hk heq
      cases heq
      exact ha (List.mem_append_left _ hk)

lemma Chain.walk {wanted : β → Bool} {fuel : ℕ} (hc : Chain m s ns) (hfuel : ns.length ≤ fuel) :
    m.walk wanted fuel ns.head? = some (ns.find? fun n => (m.data n).any wanted) := by
  induction ns generalizing s fuel with
  | nil => cases fuel <;> rfl
  | cons n ns ih =>
    obtain ⟨fuel, rfl⟩ : ∃ k, fuel = k + 1 := ⟨fuel - 1, by simp at hfuel; omega⟩
    have hnext : m.load (.next n) = some ns.head? := hc.2.2.load_head
    obtain ⟨x, hx, hns⟩ := Option.map_eq_some_iff.mp hnext
    have hdata : m.data n = some x.data := by simp [Memory.data, hx]
    have ihx : m.walk wanted fuel ns.head? = some (ns.find? fun n => (m.data n).any wanted) :=
      ih hc.2.2 (Nat.le_of_succ_le_succ hfuel)
    cases hw : wanted x.data with
    | true => simp [Memory.walk, hx, hw, hdata]
    | false => simp [Memory.walk, hx, hw, hdata, hns, ihx]

lemma load_next_ne_none : m.load (.next n) ≠ none ↔ m.data n ≠ none := by
  cases hn : m.node n <;> simp [Memory.load, Memory.data, hn]

lemma Chain.data (hc : Chain m s ns) (hn : n ∈ ns) : m.data n ≠ none :=
  load_next_ne_none.mp (hc.load_next hn)

lemma Holds.congr {lists : η → List ν} (hm : Holds m lists) (hfirst : m'.first = m.first)
    (hnode : ∀ h, ∀ n ∈ lists h, m'.node n = m.node n) : Holds m' lists := by
  refine ⟨fun h => ?_, hm.nodup, hm.apart⟩
  apply (hm.chain h).congr
  · exact congrArg (fun first => some (first h)) hfirst
  · intro n hn
    exact congrArg (Option.map Node.next) (hnode h n hn)
  · intro n hn
    exact congrArg (Option.map Node.prev) (hnode h n hn)

lemma holds_nil (hfirst : m.first = fun _ => none) : Holds m (fun _ => []) where
  chain h := congrArg some (congrFun hfirst h)
  nodup _ := List.nodup_nil
  apart _ _ _ := List.disjoint_nil_left _

variable [DecidableEq ν] {p : Option ν} {lists : η → List ν} {x : Node η ν β}

@[simp] lemma data_insert : (m.insert n x).data = Function.update m.data n (some x.data) := by
  funext k
  rcases eq_or_ne k n with rfl | hne
  · simp [Memory.data, Memory.insert]
  · simp [Memory.data, Memory.insert, hne]

@[simp] lemma data_erase : (m.erase n).data = Function.update m.data n none := by
  funext k
  rcases eq_or_ne k n with rfl | hne
  · simp [Memory.data, Memory.erase]
  · simp [Memory.data, Memory.erase, hne]

lemma Holds.insert (hm : Holds m lists) (hn : m.data n = none) : Holds (m.insert n x) lists := by
  have hsame : ∀ h, ∀ k ∈ lists h, (m.insert n x).node k = m.node k := by
    intro h k hk
    apply Function.update_of_ne
    rintro rfl
    exact (hm.chain h).data hk hn
  exact hm.congr rfl hsame

lemma Holds.erase (hm : Holds m lists) (hn : ∀ h, n ∉ lists h) : Holds (m.erase n) lists := by
  have hsame : ∀ h, ∀ k ∈ lists h, (m.erase n).node k = m.node k := by
    intro h k hk
    apply Function.update_of_ne
    rintro rfl
    exact hn h hk
  exact hm.congr rfl hsame

lemma setPrev_ok (hn : m.data n ≠ none) :
    ∃ m', m.setPrev s n = some m' ∧ m'.load = m.load ∧
      m'.prev = Function.update m.prev n (some s) ∧ m'.data = m.data := by
  obtain ⟨x, hx⟩ : ∃ x, m.node n = some x := by
    apply Option.ne_none_iff_exists'.mp
    intro hnone
    exact hn (by simp [Memory.data, hnone])
  refine ⟨_, by rw [Memory.setPrev, hx]; rfl, ?_, ?_, ?_⟩
  · funext t
    cases t with
    | first k => rfl
    | next k => rcases eq_or_ne k n with rfl | hne <;> simp [Memory.load, *]
  · funext k
    rcases eq_or_ne k n with rfl | hne <;> simp [Memory.prev, *]
  · funext k
    rcases eq_or_ne k n with rfl | hne <;> simp [Memory.data, *]

lemma setPrevOf_ok (hp : ∀ n ∈ p, m.data n ≠ none) :
    ∃ m', m.setPrevOf s p = some m' ∧ m'.load = m.load ∧
      (∀ n, m'.prev n = if n ∈ p then some s else m.prev n) ∧ m'.data = m.data := by
  cases p with
  | none => exact ⟨m, rfl, rfl, fun n => by simp, rfl⟩
  | some k =>
    obtain ⟨m', hm', hload, hprev, hdata⟩ := setPrev_ok (s := s) (hp k rfl)
    refine ⟨m', hm', hload, fun n => ?_, hdata⟩
    rw [hprev, Function.update_apply]
    simp [eq_comm]

variable [DecidableEq η]

omit [DecidableEq ν] in
lemma Holds.update (hm : Holds m lists) (hchain : Chain m' (.first h) ns) (hnodup : ns.Nodup)
    (hapart : ∀ k, k ≠ h → ns.Disjoint (lists k))
    (hothers : ∀ k, k ≠ h → Chain m' (.first k) (lists k)) :
    Holds m' (Function.update lists h ns) := by
  refine ⟨fun k => ?_, fun k => ?_, fun k j hkj => ?_⟩
  · rcases eq_or_ne k h with rfl | hne
    · rwa [Function.update_self]
    · rw [Function.update_of_ne hne]
      exact hothers k hne
  · rcases eq_or_ne k h with rfl | hne
    · rwa [Function.update_self]
    · rw [Function.update_of_ne hne]
      exact hm.nodup k
  · rcases eq_or_ne k h with rfl | hne
    · rw [Function.update_self, Function.update_of_ne hkj.symm]
      exact hapart j hkj.symm
    · rw [Function.update_of_ne hne]
      rcases eq_or_ne j h with rfl | hne'
      · rw [Function.update_self]
        exact (hapart k hne).symm
      · rw [Function.update_of_ne hne']
        exact hm.apart k j hkj

lemma store_ok (hs : m.load s ≠ none) :
    ∃ m', m.store p s = some m' ∧ m'.load = Function.update m.load s (some p) ∧ m'.prev = m.prev ∧
      m'.data = m.data := by
  cases s with
  | first h =>
    refine ⟨_, rfl, ?_, rfl, rfl⟩
    funext t
    cases t with
    | first k => rcases eq_or_ne k h with rfl | hne <;> simp [Memory.load, *]
    | next k => simp [Memory.load]
  | next n =>
    obtain ⟨x, hx⟩ : ∃ x, m.node n = some x := by
      apply Option.ne_none_iff_exists'.mp
      intro hnone
      exact hs (by simp [Memory.load, hnone])
    refine ⟨_, by rw [Memory.store, hx]; rfl, ?_, ?_, ?_⟩
    · funext t
      cases t with
      | first k => simp [Memory.load]
      | next k => rcases eq_or_ne k n with rfl | hne <;> simp [Memory.load, *]
    · funext k
      rcases eq_or_ne k n with rfl | hne <;> simp [Memory.prev, *]
    · funext k
      rcases eq_or_ne k n with rfl | hne <;> simp [Memory.data, *]

lemma insertHead_ok (hn : m.data n ≠ none) (hfirst : ∀ k ∈ m.first h, m.data k ≠ none) :
    ∃ m', m.insertHead h n = some m' ∧
      m'.load = Function.update (Function.update m.load (.next n) (some (m.first h))) (.first h) (some (some n)) ∧
      (∀ k, m'.prev k =
        if k = n then some (.first h) else if k ∈ m.first h then some (.next n) else m.prev k) ∧
      m'.data = m.data := by
  obtain ⟨m₁, h₁, hload₁, hprev₁, hdata₁⟩ := store_ok (p := m.first h) (load_next_ne_none.mpr hn)
  have hfirst₁ : m₁.first h = m.first h := by
    have hload : m₁.load (.first h) = m.load (.first h) := by
      rw [hload₁, Function.update_of_ne (by simp)]
    exact Option.some.inj hload
  obtain ⟨m₂, h₂, hload₂, hprev₂, hdata₂⟩ : ∃ m₂, m₁.setPrevOf (.next n) (m₁.first h) = some m₂ ∧ _ :=
    setPrevOf_ok (by rwa [hfirst₁, hdata₁])
  obtain ⟨m₃, h₃, hload₃, hprev₃, hdata₃⟩ : ∃ m₃, m₂.store (some n) (.first h) = some m₃ ∧ _ :=
    store_ok (by exact Option.some_ne_none _)
  obtain ⟨m₄, h₄, hload₄, hprev₄, hdata₄⟩ : ∃ m₄, m₃.setPrev (.first h) n = some m₄ ∧ _ :=
    setPrev_ok (by rwa [hdata₃, hdata₂, hdata₁])
  refine ⟨m₄, ?_, ?_, fun k => ?_, ?_⟩
  · simp [Memory.insertHead, h₁, h₂, h₃, h₄]
  · rw [hload₄, hload₃, hload₂, hload₁]
  · rw [hprev₄, Function.update_apply, hprev₃, hprev₂, hprev₁, hfirst₁]
  · rw [hdata₄, hdata₃, hdata₂, hdata₁]

lemma remove_ok (hprev : m.prev n = some s) (hnext : m.load (.next n) = some p) (hs : m.load s ≠ none)
    (hp : ∀ k ∈ p, m.data k ≠ none) :
    ∃ m', m.remove n = some m' ∧ m'.load = Function.update m.load s (some p) ∧
      (∀ k, m'.prev k = if k ∈ p then some s else m.prev k) ∧ m'.data = m.data := by
  obtain ⟨x, hx, rfl⟩ := Option.map_eq_some_iff.mp hprev
  obtain rfl : x.next = p := by simpa [Memory.load, hx] using hnext
  obtain ⟨m₁, h₁, hload₁, hprev₁, hdata₁⟩ := setPrevOf_ok (s := x.prev) hp
  obtain ⟨y, hy, hynext⟩ : ∃ y, m₁.node n = some y ∧ y.next = x.next := by
    apply Option.map_eq_some_iff.mp
    exact (congrFun hload₁ (.next n)).trans hnext
  have hyprev : y.prev = x.prev := by
    have hafter : m₁.prev n = some x.prev := by
      rw [hprev₁, hprev, ite_self]
    simpa [Memory.prev, hy] using hafter
  obtain ⟨m₂, h₂, hload₂, hprev₂, hdata₂⟩ : ∃ m₂, m₁.store y.next y.prev = some m₂ ∧ _ :=
    store_ok (by rwa [hload₁, hyprev])
  refine ⟨m₂, ?_, ?_, fun k => ?_, hdata₂.trans hdata₁⟩
  · simp [Memory.remove, hx, h₁, hy, h₂]
  · rw [hload₂, hload₁, hynext, hyprev]
  · rw [hprev₂, hprev₁]

lemma Holds.insertHead (hm : Holds m lists) (hn : m.data n ≠ none) (hnot : ∀ k, n ∉ lists k) (h : η) :
    ∃ m', m.insertHead h n = some m' ∧ Holds m' (Function.update lists h (n :: lists h)) ∧
      m'.data = m.data := by
  have hfirst : m.first h = (lists h).head? := Option.some.inj (hm.chain h).load_head
  obtain ⟨m', hm', hload, hprev, hdata⟩ := insertHead_ok (h := h) hn fun k hk =>
    (hm.chain h).data (List.mem_of_mem_head? (hfirst ▸ hk))
  have hnext : ∀ k j, j ∈ lists k → m'.load (.next j) = m.load (.next j) := by
    intro k j hj
    rw [hload, Function.update_of_ne (by simp), Function.update_of_ne]
    simp only [ne_eq, Slot.next.injEq]
    rintro rfl
    exact hnot k hj
  have hold : ∀ j, j ≠ n → j ∉ (lists h).head? → m'.prev j = m.prev j := by
    intro j hne hj
    rw [hprev, if_neg hne, hfirst, if_neg hj]
  refine ⟨m', hm', hm.update ?_ ?_ ?_ ?_, hdata⟩
  · refine ⟨by rw [hload, Function.update_self], by rw [hprev, if_pos rfl], ?_⟩
    apply (hm.chain h).move
    · rw [hload, Function.update_of_ne (by simp), Function.update_self]
      rfl
    · intro j hj
      rw [hprev, if_neg, hfirst, if_pos hj]
      rintro rfl
      exact hnot h (List.mem_of_mem_head? hj)
    · exact hnext h
    · intro j hj
      apply hold
      · rintro rfl
        exact hnot h (List.mem_of_mem_tail hj)
      · exact head_of_tail (hm.nodup h) hj
  · exact List.nodup_cons.mpr ⟨hnot h, hm.nodup h⟩
  · intro k hk
    exact List.disjoint_cons_left.mpr ⟨hnot k, hm.apart h k hk.symm⟩
  · intro k hk
    apply (hm.chain k).congr
    · rw [hload, Function.update_of_ne (by simpa using hk), Function.update_of_ne (by simp)]
    · exact hnext k
    · intro j hj
      apply hold
      · rintro rfl
        exact hnot k hj
      · intro hhead
        exact hm.apart k h hk hj (List.mem_of_mem_head? hhead)

lemma Holds.remove (hm : Holds m lists) (hn : n ∈ lists h) :
    ∃ m', m.remove n = some m' ∧ Holds m' (Function.update lists h ((lists h).erase n)) ∧
      m'.data = m.data := by
  obtain ⟨before, after, hlist⟩ := List.append_of_mem hn
  have hnodup : (before ++ n :: after).Nodup := hlist ▸ hm.nodup h
  have herase : (lists h).erase n = before ++ after := by
    rw [hlist, List.erase_append_right _ _, List.erase_cons_head]
    intro hmem
    exact List.disjoint_of_nodup_append hnodup hmem List.mem_cons_self
  have hchain : Chain m (.first h) (before ++ n :: after) := hlist ▸ hm.chain h
  have hplace : Chain m (slotAfter (.first h) before) (n :: after) := hchain.after
  have hmember : ∀ k ∈ after.head?, k ∈ lists h := by
    intro k hk
    rw [hlist]
    exact List.mem_append_right _ (List.mem_cons_of_mem n (List.mem_of_mem_head? hk))
  obtain ⟨m', hm', hload, hprev, hdata⟩ := remove_ok hplace.2.1 hplace.2.2.load_head
    (by rw [hplace.1]; exact Option.some_ne_none _) fun k hk => (hm.chain h).data (hmember k hk)
  have hslot : ∀ t, t ≠ slotAfter (.first h) before → m'.load t = m.load t := by
    intro t ht
    rw [hload, Function.update_of_ne ht]
  have hold : ∀ k, k ∉ after.head? → m'.prev k = m.prev k := by
    intro k hk
    rw [hprev, if_neg hk]
  have hwhere : ∀ k, slotAfter (.first h) before = .next k → k ∈ before := by
    intro k hk
    cases slotAfter_cases (.first h) before with
    | inl heq => rw [heq] at hk; cases hk
    | inr hmem =>
      obtain ⟨j, hj, heq⟩ := hmem
      rw [heq] at hk
      cases hk
      exact hj
  refine ⟨m', hm', hm.update ?_ ((hm.nodup h).erase n) ?_ ?_, hdata⟩
  · rw [herase]
    apply hchain.splice hnodup
    · simp
    · exact hslot
    · rw [hload, Function.update_self, hplace.2.2.load_head]
    · intro j hj
      rw [hprev, if_pos hj]
    · exact hold
    · intro j hj heq
      exact List.disjoint_of_nodup_append hnodup (hwhere j heq) (List.mem_cons_of_mem n hj)
  · intro k hk i hi
    exact hm.apart h k hk.symm (List.mem_of_mem_erase hi)
  · intro k hk
    have hapart : ∀ j ∈ lists k, j ∉ before := by
      intro j hj hmem
      apply hm.apart k h hk hj
      rw [hlist]
      exact List.mem_append_left _ hmem
    apply (hm.chain k).congr
    · apply hslot
      cases slotAfter_cases (.first h) before with
      | inl heq => rw [heq]; simpa using hk
      | inr hmem =>
        obtain ⟨j, _, heq⟩ := hmem
        rw [heq]
        simp
    · intro j hj
      apply hslot
      intro heq
      exact hapart j hj (hwhere j heq.symm)
    · intro j hj
      apply hold
      intro hhead
      exact hm.apart k h hk hj (hmember j hhead)

end TransportConverter.Foundations.IntrusiveList
