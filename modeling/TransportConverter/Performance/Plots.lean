import TransportConverter.Foundations.Fallible
import TransportConverter.Performance.Queries

/-! `plot.py`: the lines of a figure. -/

namespace TransportConverter.Performance

open Foundations.Fallible Foundations.Sql

inductive PageError
  | raised (e : PyError)
  | typeError
  | valueError
  deriving DecidableEq

abbrev Series := List (String × List Cell)

abbrev SubflowData := List (Cell × Series)

structure Figure where
  lines : List (List Cell)
  legend : List Cell
  deriving DecidableEq

section Items

variable {κ ν : Type} [DecidableEq κ]

def setItem (d : List (κ × ν)) (k : κ) (v : ν) : List (κ × ν) :=
  if k ∈ d.map Prod.fst then d.map fun item => if item.1 = k then (k, v) else item else d ++ [(k, v)]

lemma setItem_new {d : List (κ × ν)} {k : κ} {v : ν} (h : k ∉ d.map Prod.fst) :
    setItem d k v = d ++ [(k, v)] := if_neg h

def itemOf (series : Series) (feature : String) : Except PageError (List Cell) :=
  match series.lookup feature with
  | some values => .ok values
  | none => .error (.raised (.keyError feature))

def pyMax (ns : List ℕ) : Except PageError ℕ :=
  match ns.max? with
  | some n => .ok n
  | none => .error .valueError

lemma pyMax_eq {ns : List ℕ} {n : ℕ} (hmem : n ∈ ns) (hle : ∀ k ∈ ns, k ≤ n) : pyMax ns = .ok n := by
  rw [pyMax, List.max?_eq_some_iff.mpr ⟨hmem, hle⟩]

end Items

section Throughput

/-- `-`: neither `None` nor a text has one. A number that was read from a text stands in no column of
metrics. -/
def subtract : Cell → Cell → Except PageError Cell
  | .integer a, .integer b => .ok (.integer (a - b))
  | _, _ => .error .typeError

def calculateThroughput : List Cell → Except PageError (List Cell)
  | a :: b :: values => do
    let difference ← subtract b a
    let tp ← calculateThroughput (b :: values)
    return difference :: tp
  | _ => return []

def differences : List ℤ → List ℤ
  | a :: b :: xs => (b - a) :: differences (b :: xs)
  | _ => []

variable {xs : List ℤ} {values : List Cell}

lemma calculateThroughput_integers (xs : List ℤ) :
    calculateThroughput (xs.map .integer) = .ok ((differences xs).map .integer) := by
  induction xs with
  | nil => rfl
  | cons a xs ih =>
    cases xs with
    | nil => rfl
    | cons b xs =>
      rw [List.map_cons] at ih
      simp only [List.map_cons, calculateThroughput, ih]
      rfl

lemma differences_short (h : xs.length ≤ 1) : differences xs = [] := by
  rcases xs with _ | ⟨x, _ | ⟨y, xs⟩⟩
  · rfl
  · rfl
  · simp at h

lemma calculateThroughput_short (h : values.length ≤ 1) : calculateThroughput values = .ok [] := by
  rcases values with _ | ⟨a, _ | ⟨b, values⟩⟩
  · rfl
  · rfl
  · simp at h

def Cell.IsInteger (v : Cell) : Prop := ∃ n, v = .integer n

lemma subtract_ok_iff {a b : Cell} : (∃ d, subtract b a = .ok d) ↔ Cell.IsInteger a ∧ Cell.IsInteger b := by
  constructor
  · rintro ⟨d, hd⟩
    cases a <;> cases b <;> cases hd
    exact ⟨⟨_, rfl⟩, ⟨_, rfl⟩⟩
  · rintro ⟨⟨n, rfl⟩, ⟨k, rfl⟩⟩
    exact ⟨_, rfl⟩

lemma calculateThroughput_cons {a b : Cell} :
    (∃ tp, calculateThroughput (a :: b :: values) = .ok tp) ↔
      (∃ d, subtract b a = .ok d) ∧ ∃ tp, calculateThroughput (b :: values) = .ok tp := by
  rw [calculateThroughput]
  constructor
  · rintro ⟨tp, h⟩
    obtain ⟨d, hd, hrest⟩ := bind_ok_iff.mp h
    exact ⟨⟨d, hd⟩, return_ok_iff.mp ⟨tp, hrest⟩⟩
  · rintro ⟨⟨d, hd⟩, htp⟩
    obtain ⟨tp, hrest⟩ := return_ok_iff.mpr htp
    exact ⟨tp, bind_ok_iff.mpr ⟨d, hd, hrest⟩⟩

lemma calculateThroughput_ok_iff :
    (∃ tp, calculateThroughput values = .ok tp) ↔ values.length ≤ 1 ∨ ∀ v ∈ values, Cell.IsInteger v := by
  induction values with
  | nil => exact ⟨fun _ => Or.inl (Nat.zero_le 1), fun _ => ⟨[], rfl⟩⟩
  | cons a values ih =>
    cases values with
    | nil => exact ⟨fun _ => Or.inl le_rfl, fun _ => ⟨[], rfl⟩⟩
    | cons b values =>
      have hlong : ¬ (a :: b :: values).length ≤ 1 := by simp
      rw [calculateThroughput_cons, subtract_ok_iff, ih, or_iff_right hlong]
      constructor
      · rintro ⟨⟨ha, hb⟩, hshort | hall⟩
        · have hnil : values = [] := by simpa using hshort
          subst hnil
          exact List.forall_mem_cons.mpr ⟨ha, List.forall_mem_singleton.mpr hb⟩
        · exact List.forall_mem_cons.mpr ⟨ha, hall⟩
      · intro h
        obtain ⟨ha, hall⟩ := List.forall_mem_cons.mp h
        exact ⟨⟨ha, hall b List.mem_cons_self⟩, Or.inr hall⟩

end Throughput

section Lines

def pad {α : Type} (zero : α) (n : ℕ) (xs : List α) : List α := List.replicate (n - xs.length) zero ++ xs

section Padding

variable {α : Type} {zero a : α} {xs : List (Option α)}

lemma pad_short {n : ℕ} {ys : List α} (h : ys.length ≤ n) : pad zero (n + 1) ys = zero :: pad zero n ys := by
  rw [pad, pad, Nat.succ_sub h, List.replicate_succ, List.cons_append]

lemma pad_full {n : ℕ} {ys : List α} (h : ys.length = n) : pad zero n ys = ys := by
  rw [pad, h, Nat.sub_self, List.replicate_zero, List.nil_append]

lemma reduceOption_full (h : ∀ x ∈ xs, x.isSome = true) :
    xs.reduceOption.length = xs.length ∧ xs.reduceOption = xs.map (·.getD zero) := by
  induction xs with
  | nil => exact ⟨rfl, rfl⟩
  | cons x xs ih =>
    obtain ⟨hx, hxs⟩ := List.forall_mem_cons.mp h
    obtain ⟨a, rfl⟩ := Option.isSome_iff_exists.mp hx
    obtain ⟨hlength, hmap⟩ := ih hxs
    rw [List.reduceOption_cons_of_some, List.length_cons, List.length_cons, hlength, List.map_cons, ← hmap]
    exact ⟨rfl, rfl⟩

/-- The values that are there stand in their own places exactly when none is missing behind one that is
there. -/
lemma pad_reduceOption_iff (hne : some zero ∉ xs) :
    pad zero xs.length xs.reduceOption = xs.map (·.getD zero) ↔
      xs.Pairwise fun x y => x.isSome = true → y.isSome = true := by
  induction xs with
  | nil => exact ⟨fun _ => .nil, fun _ => rfl⟩
  | cons x xs ih =>
    have hrest := ih fun hmem => hne (List.mem_cons_of_mem _ hmem)
    rw [List.pairwise_cons, ← hrest]
    cases x with
    | none =>
      rw [List.reduceOption_cons_of_none, List.length_cons, pad_short (List.reduceOption_length_le xs)]
      simp
    | some a =>
      by_cases hall : ∀ y ∈ xs, y.isSome = true
      · have hfull : xs.reduceOption.length = xs.length ∧ xs.reduceOption = xs.map (·.getD zero) :=
          reduceOption_full hall
        obtain ⟨hlength, hmap⟩ := hfull
        rw [List.reduceOption_cons_of_some, List.length_cons, pad_full (by rw [List.length_cons, hlength]),
          pad_full hlength, hmap]
        simpa using hall
      · have hfewer : xs.reduceOption.length + 1 ≤ xs.length :=
          Nat.lt_of_le_of_ne (List.reduceOption_length_le xs) fun hlength =>
            hall (List.reduceOption_length_eq_iff.mp hlength)
        -- A zero is put in front of the first value.
        rw [List.reduceOption_cons_of_some, List.length_cons, pad_short (by rwa [List.length_cons])]
        constructor
        · intro h
          have hzero : zero = a := (List.cons.inj h).1
          exact absurd (List.mem_cons.mpr (Or.inl (congrArg some hzero))) hne
        · rintro ⟨hthere, -⟩
          exact absurd (fun y hy => hthere y hy rfl) hall

lemma pad_reduceOption_append {pre post : List (Option α)} :
    (pad zero (pre ++ some a :: post).length (pre ++ some a :: post).reduceOption)[
      pre.length + post.countP (·.isNone)]? = some a := by
  have hpost : post.length = post.reduceOption.length + post.countP (·.isNone) := by
    rw [List.countP_eq_length_filter]
    exact List.length_eq_reduceOption_length_add_filter_none
  have hpre : pre.reduceOption.length ≤ pre.length := List.reduceOption_length_le pre
  let zeros := List.replicate ((pre ++ some a :: post).length - (pre ++ some a :: post).reduceOption.length) zero
  have hindex : pre.length + post.countP (·.isNone) = (zeros ++ pre.reduceOption).length := by
    simp only [zeros, List.length_append, List.length_replicate, List.reduceOption_append,
      List.reduceOption_cons_of_some, List.length_cons]
    omega
  have hline : pad zero (pre ++ some a :: post).length (pre ++ some a :: post).reduceOption =
      (zeros ++ pre.reduceOption) ++ a :: post.reduceOption := by
    rw [List.append_assoc, ← List.reduceOption_cons_of_some, ← List.reduceOption_append]
    rfl
  rw [hline, hindex, List.getElem?_append_right le_rfl, Nat.sub_self]
  rfl

lemma pad_reduceOption_place {p : ℕ} (h : xs[p]? = some (some a)) :
    (pad zero xs.length xs.reduceOption)[p + (xs.drop (p + 1)).countP (·.isNone)]? = some a := by
  obtain ⟨hp, hx⟩ := List.getElem?_eq_some_iff.mp h
  have hsplit : xs = xs.take p ++ some a :: xs.drop (p + 1) := by
    rw [← hx, List.getElem_cons_drop, List.take_append_drop]
  have hplace := @pad_reduceOption_append α zero a (xs.take p) (xs.drop (p + 1))
  rwa [← hsplit, List.length_take_of_le hp.le] at hplace

end Padding

def legendOf (data : SubflowData) : List Cell → List Cell
  | [] => data.map Prod.fst
  | subflowKeys => subflowKeys

def firstFeatures : SubflowData → Except PageError (List String)
  | [] => .error (.raised .indexError)
  | (_, series) :: _ => .ok (series.map Prod.fst)

variable (data : SubflowData) (fxTime : Bool) (subflowKeys : List Cell)

def plotFeature (feature : String) : Except PageError Figure := do
  let subflowData ← data.mapM fun item => itemOf item.2 feature
  let numberIterations ← pyMax (subflowData.map List.length)
  -- The `len` of a whole number.
  if fxTime then throw .typeError
  else return ⟨subflowData.map (pad (.integer 0) numberIterations), legendOf data subflowKeys⟩

/-- No list of features stands for `"all"`. -/
def plotSubflowFeatures (features : Option (List String)) : Except PageError (List (String × Figure)) := do
  let features ← match features with
    | none => firstFeatures data
    | some features => .ok features
  features.foldlM (fun figs feature => do
    let fig ← plotFeature data fxTime subflowKeys feature
    return setItem figs feature fig) []

def plotTransfer : Except PageError Figure := do
  let acked ← data.mapM fun item => itemOf item.2 "tcpi_bytes_acked"
  let _ ← pyMax (acked.map List.length)
  let lines ← acked.mapM calculateThroughput
  return ⟨lines, legendOf data subflowKeys⟩

end Lines

end TransportConverter.Performance
