import TransportConverter.Foundations.Memory

/-! Computations that read an array: every index they ask for is kept, and the first one outside the
array ends them. -/

namespace TransportConverter.Foundations

structure Watched (α : Type) where
  reads : List ℕ
  value : Option α

namespace Watched

variable {α β : Type} {n i : ℕ}

def nothing (a : α) : Watched α := ⟨[], some a⟩

def andThen (x : Watched α) (f : α → Watched β) : Watched β :=
  match x.value with
  | none => ⟨x.reads, none⟩
  | some a => ⟨x.reads ++ (f a).reads, (f a).value⟩

instance : Monad Watched where
  pure := nothing
  bind := andThen

def element (xs : List α) (i : ℕ) : Watched α := ⟨[i], xs[i]?⟩

def octets (n : ℕ) (mem : Memory.Bytes) (i : ℕ) : Watched (Memory.Octets n) :=
  ⟨List.range' i n, Memory.loadOctets n mem i⟩

def copy (mem : Memory.Bytes) (i n : ℕ) : Watched Memory.Bytes := ⟨List.range' i n, Memory.load mem i n⟩

def Within (n : ℕ) (x : Watched α) : Prop := ∀ i ∈ x.reads, i < n

@[simp] lemma value_pure (a : α) : (pure a : Watched α).value = some a := rfl

@[simp] lemma value_bind (x : Watched α) (f : α → Watched β) :
    (x >>= f).value = x.value.bind fun a => (f a).value := by
  show (andThen x f).value = _
  cases hx : x.value <;> simp only [andThen, hx, Option.bind]

@[simp] lemma value_element (xs : List α) (i : ℕ) : (element xs i).value = xs[i]? := rfl

@[simp] lemma value_octets (n : ℕ) (mem : Memory.Bytes) (i : ℕ) :
    (octets n mem i).value = Memory.loadOctets n mem i := rfl

@[simp] lemma value_copy (mem : Memory.Bytes) (i n : ℕ) : (copy mem i n).value = Memory.load mem i n := rfl

lemma within_pure (a : α) : Within n (pure a : Watched α) := nofun

lemma within_element {xs : List α} : Within n (element xs i) ↔ i < n := by
  simp [Within, element]

lemma within_octets {m : ℕ} {mem : Memory.Bytes} (h : i + m ≤ n) : Within n (octets m mem i) := by
  intro j hj
  have := List.mem_range'_1.mp hj
  omega

lemma within_copy {m : ℕ} {mem : Memory.Bytes} (h : i + m ≤ n) : Within n (copy mem i m) := by
  intro j hj
  have := List.mem_range'_1.mp hj
  omega

lemma within_bind {x : Watched α} {f : α → Watched β} :
    Within n (x >>= f) ↔ Within n x ∧ ∀ a, x.value = some a → Within n (f a) := by
  show Within n (andThen x f) ↔ _
  cases hx : x.value with
  | none => simp only [Within, andThen, hx, reduceCtorEq, false_implies, implies_true, and_true]
  | some a =>
    simp only [Within, andThen, hx, List.mem_append, or_imp, forall_and, Option.some.injEq,
      forall_eq']

lemma within_bind_pure {x : Watched α} {f : α → β} : Within n (x >>= fun a => pure (f a)) ↔ Within n x :=
  within_bind.trans (and_iff_left fun _ _ => within_pure _)

section Loops

def forEach (xs : List α) (f : ℕ → α → β → β) : ℕ → ℕ → β → Watched β
  | 0, _, b => pure b
  | k + 1, i, b => do
    let x ← element xs i
    forEach xs f k (i + 1) (f i x b)

variable {xs : List α} {f : ℕ → α → β → β} {k : ℕ} {b : β}

lemma within_forEach (h : i + k ≤ xs.length) : Within xs.length (forEach xs f k i b) := by
  induction k generalizing i b with
  | zero => exact within_pure b
  | succ k ih => exact within_bind.mpr ⟨within_element.mpr (by omega), fun x _ => ih (by omega)⟩

lemma not_within_forEach (hi : i ≤ xs.length) (h : xs.length < i + k) :
    ¬ Within xs.length (forEach xs f k i b) := by
  induction k generalizing i b with
  | zero => omega
  | succ k ih =>
    intro hwithin
    obtain ⟨hread, hrest⟩ := within_bind.mp hwithin
    have hlt : i < xs.length := within_element.mp hread
    exact ih (by omega) (by omega) (hrest xs[i] (List.getElem?_eq_getElem hlt))

lemma value_forEach_outside (hi : i ≤ xs.length) (h : xs.length < i + k) :
    (forEach xs f k i b).value = none := by
  induction k generalizing i b with
  | zero => omega
  | succ k ih =>
    rw [forEach, value_bind, value_element]
    cases hread : xs[i]? with
    | none => rfl
    | some x =>
      have hlt : i < xs.length := (List.getElem?_eq_some_iff.mp hread).1
      exact ih (by omega) (by omega)

lemma within_forEach_iff (hn : xs.length = n) : Within n (forEach xs f k 0 b) ↔ k ≤ n := by
  obtain rfl := hn
  constructor
  · intro h
    by_contra hlt
    exact not_within_forEach (Nat.zero_le _) (by omega) h
  · intro h
    exact within_forEach (by omega)

lemma value_forEach {I : ℕ → β → Prop}
    (hstep : ∀ i x b, i < n → xs[i]? = some x → I i b → I (i + 1) (f i x b)) (hk : i + k = n)
    (hn : n ≤ xs.length) (hb : I i b) : ∃ b', (forEach xs f k i b).value = some b' ∧ I n b' := by
  induction k generalizing i b with
  | zero =>
    obtain rfl : i = n := hk
    exact ⟨b, rfl, hb⟩
  | succ k ih =>
    have hread : xs[i]? = some xs[i] := List.getElem?_eq_getElem (by omega)
    obtain ⟨b', hvalue, hI⟩ := ih (by omega) (hstep i _ b (by omega) hread hb)
    refine ⟨b', ?_, hI⟩
    rw [forEach, value_bind, value_element, hread, Option.bind_some, hvalue]

end Loops

end Watched

end TransportConverter.Foundations
