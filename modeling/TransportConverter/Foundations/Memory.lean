import Mathlib

/-! Bytes in memory. An access outside the object it is made through has no result, and no object
is larger than the largest pointer difference. -/

namespace TransportConverter.Foundations.Memory

abbrev Bytes := List UInt8

abbrev Octets (n : ℕ) := List.Vector UInt8 n

abbrev twoOctets (a b : UInt8) : Octets 2 := ⟨[a, b], rfl⟩

structure Block where
  bytes : Bytes
  fits : bytes.length < 2 ^ 63
  deriving DecidableEq

namespace Block

def size (b : Block) : ℕ := b.bytes.length

def empty : Block := ⟨[], by decide⟩

instance : Inhabited Block := ⟨empty⟩

def ofBytes (xs : Bytes) : Block :=
  ⟨xs.take (2 ^ 63 - 1), by rw [List.length_take]; omega⟩

lemma ofBytes_bytes {xs : Bytes} (h : xs.length < 2 ^ 63) : (ofBytes xs).bytes = xs := by
  simp only [ofBytes]
  exact List.take_of_length_le (by omega)

end Block

def zeros (n : ℕ) : Bytes := List.replicate n 0

@[simp] lemma zeros_length (n : ℕ) : (zeros n).length = n := List.length_replicate

lemma zeros_add (m n : ℕ) : zeros (m + n) = zeros m ++ zeros n := by
  simp [zeros]

def load (mem : Bytes) (i n : ℕ) : Option Bytes :=
  if i + n ≤ mem.length then some ((mem.drop i).take n) else none

def store (mem : Bytes) (i : ℕ) (xs : Bytes) : Option Bytes :=
  if i + xs.length ≤ mem.length then some (mem.take i ++ xs ++ mem.drop (i + xs.length)) else none

def loadOctets (n : ℕ) (mem : Bytes) (i : ℕ) : Option (Octets n) :=
  if h : i + n ≤ mem.length then
    some ⟨(mem.drop i).take n, by rw [List.length_take, List.length_drop]; omega⟩
  else none

lemma load_eq {mem : Bytes} {i n : ℕ} (h : i + n ≤ mem.length) :
    load mem i n = some ((mem.drop i).take n) := if_pos h

lemma loadOctets_eq_some {n : ℕ} {mem : Bytes} {i : ℕ} {v : Octets n} (h : i + n ≤ mem.length)
    (hv : v.toList = (mem.drop i).take n) : loadOctets n mem i = some v := by
  rw [loadOctets, dif_pos h]
  exact congrArg some (Subtype.ext hv.symm)

lemma load_append (front rest : Bytes) (i n : ℕ) :
    load (front ++ rest) (front.length + i) n = load rest i n := by
  simp only [load, List.length_append, List.drop_length_add_append]
  congr 1
  simp only [Nat.add_assoc, Nat.add_le_add_iff_left]

lemma loadOctets_append (n : ℕ) (front rest : Bytes) (i : ℕ) :
    loadOctets n (front ++ rest) (front.length + i) = loadOctets n rest i := by
  by_cases h : i + n ≤ rest.length
  · rw [loadOctets, loadOctets, dif_pos h, dif_pos (by rw [List.length_append]; omega)]
    exact congrArg some (Subtype.ext (by simp only [List.drop_length_add_append]))
  · rw [loadOctets, loadOctets, dif_neg h, dif_neg (by rw [List.length_append]; omega)]

lemma store_append (front rest : Bytes) (i : ℕ) (xs : Bytes) :
    store (front ++ rest) (front.length + i) xs = (store rest i xs).map (front ++ ·) := by
  simp only [store, List.length_append]
  by_cases h : i + xs.length ≤ rest.length
  · rw [if_pos (by omega), if_pos h, Option.map_some]
    rw [List.take_length_add_append, Nat.add_assoc front.length, List.drop_length_add_append]
    simp only [List.append_assoc]
  · rw [if_neg (by omega), if_neg h, Option.map_none]

lemma store_front (front old rest xs : Bytes) (h : old.length = xs.length) :
    store (front ++ old ++ rest) front.length xs = some (front ++ xs ++ rest) := by
  have hs := store_append front (old ++ rest) 0 xs
  rw [Nat.add_zero, ← List.append_assoc] at hs
  rw [hs, store, if_pos (by simp [h]), Option.map_some]
  simp only [Nat.zero_add, List.take_zero, List.nil_append, ← h, List.drop_left, List.append_assoc]

lemma store_zeros (front xs : Bytes) {k n : ℕ} (h : k + xs.length ≤ n) :
    store (front ++ zeros n) (front.length + k) xs =
      some (front ++ zeros k ++ xs ++ zeros (n - k - xs.length)) := by
  have hsplit : zeros n = zeros k ++ (zeros xs.length ++ zeros (n - k - xs.length)) := by
    rw [← zeros_add, ← zeros_add]
    congr 1
    omega
  have hlen : front.length + k = (front ++ zeros k).length := by simp
  rw [hsplit, ← List.append_assoc, ← List.append_assoc, hlen]
  exact store_front _ _ _ _ (by simp)

end TransportConverter.Foundations.Memory
