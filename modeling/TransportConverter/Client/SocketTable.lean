import TransportConverter.Client.Redirect

/-! The hash table of the sockets the library manages. A node is its file descriptor: `_free_state`
gets the node `_lookup` found, which is the first one of its bucket with that descriptor. -/

namespace TransportConverter.Client

def numBuckets : ℤ := 1024

abbrev SocketHtable := ℕ → List ℤ

/-- `%` keeps the sign of the descriptor, and no bucket has a negative index. -/
def hash (fd : ℤ) : Option ℕ :=
  if 0 ≤ fd.tmod numBuckets then some (fd.tmod numBuckets).toNat else none

namespace SocketHtable

def lookup (htable : SocketHtable) (fd : ℤ) : Option Bool :=
  (hash fd).map fun bucket => decide (fd ∈ htable bucket)

def alloc (htable : SocketHtable) (fd : ℤ) : SocketHtable :=
  match hash fd with
  | some bucket => Function.update htable bucket (fd :: htable bucket)
  | none => htable

def freeState (htable : SocketHtable) (fd : ℤ) : SocketHtable :=
  match hash fd with
  | some bucket => Function.update htable bucket ((htable bucket).erase fd)
  | none => htable

def copies (htable : SocketHtable) (fd : ℤ) : ℕ :=
  match hash fd with
  | some bucket => (htable bucket).count fd
  | none => 0

end SocketHtable

lemma hash_of_nonneg {fd : ℤ} (h : 0 ≤ fd) : hash fd = some (fd.tmod numBuckets).toNat :=
  if_pos (Int.tmod_nonneg _ h)

variable {htable : SocketHtable} {fd other : ℤ}

lemma lookup_eq_true_iff : htable.lookup fd = some true ↔ 0 < htable.copies fd := by
  cases h : hash fd with
  | none => simp [SocketHtable.lookup, SocketHtable.copies, h]
  | some bucket => simp [SocketHtable.lookup, SocketHtable.copies, h, List.count_pos_iff]

lemma lookup_eq_false_iff :
    htable.lookup fd = some false ↔ hash fd ≠ none ∧ htable.copies fd = 0 := by
  cases h : hash fd with
  | none => simp [SocketHtable.lookup, h]
  | some bucket => simp [SocketHtable.lookup, SocketHtable.copies, h, List.count_eq_zero]

@[simp] lemma copies_freeState : (htable.freeState fd).copies fd = htable.copies fd - 1 := by
  cases h : hash fd with
  | none => simp [SocketHtable.copies, h]
  | some bucket => simp [SocketHtable.freeState, SocketHtable.copies, h]

lemma copies_freeState_of_ne (hne : other ≠ fd) :
    (htable.freeState fd).copies other = htable.copies other := by
  cases h : hash fd with
  | none => simp [SocketHtable.freeState, h]
  | some bucket =>
    simp only [SocketHtable.freeState, SocketHtable.copies, h]
    cases ho : hash other with
    | none => rfl
    | some place =>
      rcases eq_or_ne place bucket with rfl | hplace
      · simp [List.count_erase_of_ne hne]
      · simp [Function.update_of_ne hplace]

lemma copies_alloc (h : hash fd ≠ none) : (htable.alloc fd).copies fd = htable.copies fd + 1 := by
  obtain ⟨bucket, hb⟩ := Option.ne_none_iff_exists'.mp h
  simp [SocketHtable.alloc, SocketHtable.copies, hb]

lemma copies_alloc_of_ne (hne : other ≠ fd) :
    (htable.alloc fd).copies other = htable.copies other := by
  cases h : hash fd with
  | none => simp [SocketHtable.alloc, h]
  | some bucket =>
    simp only [SocketHtable.alloc, SocketHtable.copies, h]
    cases ho : hash other with
    | none => rfl
    | some place =>
      rcases eq_or_ne place bucket with rfl | hplace
      · simp [List.count_cons_of_ne hne.symm]
      · simp [Function.update_of_ne hplace]

end TransportConverter.Client
