import TransportConverter.Foundations.Effects
import TransportConverter.Performance.Database

/-! `_run_logger`: a round asks for the metrics of every subflow and inserts a row for each. -/

namespace TransportConverter.Performance

open Foundations Foundations.Effects Foundations.Memory Foundations.Sql Foundations.Watched Wire

structure IterationId where
  text : String
  length : text.toList.length = 10
  letters : ∀ c ∈ text.toList, 'a' ≤ c ∧ c ≤ 'z'

inductive Features
  | text (s : String)
  | list (features : List String)
  deriving DecidableEq

structure Logger where
  db : Database
  insertedSubflowsCache : List PyValue
  deriving DecidableEq

/-- A Python exception, or an access through a null pointer or behind an array. -/
inductive Fault
  | raised (e : PyError)
  | undefined
  deriving DecidableEq

abbrev Py := EStateM Fault Logger

def ofExcept {α : Type} (x : Except Fault α) : Py α := fun s =>
  match x with
  | .ok a => .ok a s
  | .error e => .error e s

def ofQuery (x : Watched Queried) : Except Fault (List (Option PyDict)) :=
  match x.value with
  | none => .error .undefined
  | some (.raised e) => .error (.raised e)
  | some (.list slots) => .ok slots

def getItem (d : PyDict) (key : String) : Except Fault PyValue :=
  match d.lookup key with
  | some value => .ok value
  | none => .error (.raised (.keyError key))

def delItem (d : PyDict) (key : String) : PyDict := d.filter fun item => item.1 ≠ key

def deref : Option PyDict → Except Fault PyDict
  | none => .error .undefined
  | some d => .ok d

/-- `list(filter(lambda x: x["id"] == sid, subflow_info))` -/
def withId (sid : PyValue) : List (Option PyDict) → Except Fault (List PyDict)
  | [] => .ok []
  | slot :: slots => do
    let x ← deref slot
    let id ← getItem x "id"
    let found ← withId sid slots
    return if id = sid then x :: found else found

def firstOf : List PyDict → Except Fault PyDict
  | [] => .error (.raised .indexError)
  | d :: _ => .ok d

def pyStr : PyValue → String
  | .none => "None"
  | .int n => toString n
  | .str s => s

def errorOf : SqlError → PyError
  | .operational => .operationalError
  | .programming => .programmingError
  | .overflow => .overflowError

def commit (statement : Database → Except SqlError Database) : Py Unit := fun s =>
  match statement s.db with
  | .ok db => .ok () { s with db }
  | .error e => .error (.raised (errorOf e)) s

def filterColumns : List String := ["id", "tcpi_state", "tcpi_ca_state"]

/-- A text comes this far only as "all". -/
def dropped (features : Features) (feature : String) : Bool :=
  filterColumns.contains feature ||
    match features with
    | .text _ => false
    | .list features => !features.contains feature

def filterFeatures (features : Features) (subflow : PyDict) : PyDict :=
  (subflow.map Prod.fst).foldl (fun d feature => if dropped features feature then delItem d feature else d)
    subflow

section Rounds

variable (it : IterationId) (features : Features)

def recordSubflow (answer : Answer SubflowAddrs) (sid : PyValue) : Py Unit := do
  let s ← get
  if sid ∈ s.insertedSubflowsCache then pure ()
  else do
    let subflowInfo ← ofExcept (ofQuery (mptcpUtilGetSubflowInfo answer))
    let sinfos ← ofExcept (withId sid subflowInfo)
    let sinfo ← ofExcept (firstOf sinfos)
    if sinfo = [] then throw (.raised (.exception ("Subflow info not found for subflow id: " ++ pyStr sid)))
    else do
      let localAddr ← ofExcept (getItem sinfo "local_addr")
      let remoteAddr ← ofExcept (getItem sinfo "remote_addr")
      commit (·.insertSubflow (.str it.text) sid localAddr remoteAddr)
      modify fun s => { s with insertedSubflowsCache := s.insertedSubflowsCache ++ [sid] }

def logSubflow (answer : Answer SubflowAddrs) (slot : Option PyDict) : Py Unit := do
  let subflow ← ofExcept (deref slot)
  let sid ← ofExcept (getItem subflow "id")
  recordSubflow it answer sid
  commit (·.insertSubflowTcpConnInfo (.str it.text) sid (filterFeatures features subflow))

/-- The `i`-th subflow of a round may ask for the addresses, and gets the `i`-th answer. -/
def logSubflows (answers : ℕ → Answer SubflowAddrs) : ℕ → List (Option PyDict) → Py Unit
  | _, [] => pure ()
  | i, slot :: slots => do
    logSubflow it features (answers i) slot
    logSubflows answers (i + 1) slots

structure Round where
  tcpInfo : Answer TcpInfo
  subflowInfo : ℕ → Answer SubflowAddrs

def logRound (r : Round) : Py Unit := do
  let subflowTcpInfo ← ofExcept (ofQuery (mptcpUtilGetSubflowTcpInfo r.tcpInfo))
  logSubflows it features r.subflowInfo 0 subflowTcpInfo

def logRounds : List Round → Py Unit
  | [] => pure ()
  | r :: rs => do
    logRound it features r
    logRounds rs

def runLogger (rs : List Round) : Py Unit :=
  match features with
  | .text s => if s = "all" then logRounds it features rs
    else throw (.raised (.valueError "Features must be a list"))
  | .list _ => logRounds it features rs

end Rounds

section Filtering

variable {features : Features} {f : TcpiField}

lemma mem_all (f : TcpiField) : f ∈ TcpiField.all := by
  cases f <;> decide

lemma keys_nodup : (TcpiField.all.map TcpiField.key).Nodup := by
  decide +kernel

lemma keys_spelled :
    TcpiField.all.all (fun f => f.key.toList.all isWordChar && !f.key.toList.isEmpty) = true := by
  decide +kernel

lemma key_name (f : TcpiField) : IsName f.key := by
  have hf := List.all_eq_true.mp keys_spelled f (mem_all f)
  rw [Bool.and_eq_true, Bool.not_eq_true', List.isEmpty_eq_false_iff] at hf
  exact ⟨List.all_eq_true.mp hf.1, hf.2⟩

lemma keys_columns : (TcpiField.all.drop 2).map TcpiField.key = tcpConnInfoColumns.drop 2 := rfl

lemma key_column (h : filterColumns.contains f.key = false) : f.key ∈ tcpConnInfoColumns := by
  have hf : f ∈ TcpiField.state :: .caState :: TcpiField.all.drop 2 := mem_all f
  rcases List.mem_cons.mp hf with rfl | hf
  · cases h
  rcases List.mem_cons.mp hf with rfl | hf
  · cases h
  apply List.mem_of_mem_drop (i := 2)
  rw [← keys_columns]
  exact List.mem_map_of_mem hf

lemma key_injective {g : TcpiField} (h : f.key = g.key) : f = g :=
  List.inj_on_of_nodup_map keys_nodup (mem_all f) (mem_all g) h

def kept (features : Features) : List TcpiField := TcpiField.all.filter fun f => !dropped features f.key

lemma mem_kept : f ∈ kept features ↔ dropped features f.key = false := by
  simp only [kept, List.mem_filter, mem_all, true_and, Bool.not_eq_true']

lemma foldl_delItem (keys : List String) (d : PyDict) :
    keys.foldl (fun d feature => if dropped features feature then delItem d feature else d) d =
      d.filter fun item => !(keys.contains item.1 && dropped features item.1) := by
  induction keys generalizing d with
  | nil => exact (List.filter_eq_self.mpr fun _ _ => rfl).symm
  | cons feature keys ih =>
    rw [List.foldl_cons, ih]
    by_cases hdropped : dropped features feature = true
    · rw [if_pos hdropped, delItem, List.filter_filter]
      refine List.filter_congr fun item _ => ?_
      by_cases heq : item.1 = feature
      · simp [heq, hdropped]
      · simp [heq]
    · rw [if_neg hdropped]
      refine List.filter_congr fun item _ => ?_
      by_cases heq : item.1 = feature
      · simp [heq, hdropped]
      · simp [heq]

lemma filterFeatures_eq (d : PyDict) :
    filterFeatures features d = d.filter fun item => !dropped features item.1 := by
  rw [filterFeatures, foldl_delItem]
  refine List.filter_congr fun item hitem => ?_
  have hkey : (d.map Prod.fst).contains item.1 = true :=
    List.contains_iff_mem.mpr (List.mem_map_of_mem hitem)
  rw [hkey, Bool.true_and]

def keptItems (features : Features) (ti : TcpInfo) : PyDict :=
  (kept features).map fun f => (f.key, pyLongFromLong (ti.value f))

lemma filterFeatures_tcpInfoDict (i : ℕ) (ti : TcpInfo) :
    filterFeatures features (tcpInfoDict i ti) = keptItems features ti := by
  have hid : dropped features "id" = true := Bool.or_eq_true_iff.mpr (Or.inl (by decide +kernel))
  rw [filterFeatures_eq, tcpInfoDict, List.filter_cons, hid, if_neg (by decide), List.filter_map]
  rfl

lemma ssizeT_range {n : ℕ} (h : n < 2 ^ 64) : -2 ^ 63 ≤ ssizeT n ∧ ssizeT n < 2 ^ 63 := by
  unfold ssizeT
  split_ifs <;> omega

lemma value_lt (ti : TcpInfo) (f : TcpiField) : (ti.value f : ℕ) < 2 ^ 64 := by
  refine (ti.value f).isLt.trans_le (Nat.pow_le_pow_right (by decide) ?_)
  cases f <;> decide

lemma storable_keptItems (ti : TcpInfo) : ∀ item ∈ keptItems features ti, Storable item := by
  intro item hitem
  obtain ⟨f, hf, rfl⟩ := List.mem_map.mp hitem
  have hcolumn : filterColumns.contains f.key = false := (Bool.or_eq_false_iff.mp (mem_kept.mp hf)).1
  exact ⟨key_name f, key_column hcolumn, ssizeT_range (value_lt ti f)⟩

end Filtering

section Lists

variable {slots : List (Option PyDict)} {k i : ℕ}

lemma withId_numbered
    (h : ∀ (j : ℕ) slot, slots[j]? = some slot →
      ∃ d : PyDict, slot = some d ∧ d.lookup "id" = some (.int (k + j : ℕ))) :
    withId (.int i) slots = .ok (if k ≤ i then slots[i - k]?.join.toList else []) := by
  induction slots generalizing k with
  | nil => split_ifs <;> rfl
  | cons slot slots ih =>
    obtain ⟨d, rfl, hid⟩ := h 0 slot rfl
    have hget : getItem d "id" = .ok (.int k) := by rw [getItem, hid]; rfl
    have hrest : withId (.int i) slots = .ok (if k + 1 ≤ i then slots[i - (k + 1)]?.join.toList else []) := by
      apply ih
      intro j slot hslot
      obtain ⟨d, hd, hid⟩ := h (j + 1) slot hslot
      exact ⟨d, hd, by rw [hid, Nat.add_assoc, Nat.add_comm 1]⟩
    show (getItem d "id" >>= fun id => withId (.int i) slots >>= fun found =>
      pure (if id = .int i then d :: found else found)) = _
    rw [hget, hrest]
    show Except.ok (if PyValue.int k = .int i then _ else _) = _
    simp only [PyValue.int.injEq, Nat.cast_inj]
    rcases lt_trichotomy k i with hlt | rfl | hgt
    · obtain ⟨n, rfl⟩ : ∃ n, i = k + 1 + n := Nat.exists_eq_add_of_le hlt
      have hnext : k + 1 + n - k = n + 1 := by omega
      rw [if_neg hlt.ne, if_pos (by omega), if_pos hlt.le, hnext, Nat.add_sub_cancel_left,
        List.getElem?_cons_succ]
    · rw [if_pos rfl, if_neg (by omega), if_pos le_rfl, Nat.sub_self]
      rfl
    · rw [if_neg hgt.ne', if_neg (by omega), if_neg (by omega)]

lemma withId_null {sid : PyValue} (h : ∀ d : PyDict, some d ∈ slots → ∃ id, d.lookup "id" = some id)
    (hnull : none ∈ slots) : withId sid slots = .error .undefined := by
  induction slots with
  | nil => cases hnull
  | cons slot slots ih =>
    cases slot with
    | none => rfl
    | some d =>
      obtain ⟨id, hid⟩ := h d List.mem_cons_self
      have hget : getItem d "id" = .ok id := by rw [getItem, hid]
      have hnull' : none ∈ slots := by simpa using hnull
      have hrest := ih (fun d hd => h d (List.mem_cons_of_mem _ hd)) hnull'
      show (getItem d "id" >>= fun id => withId sid slots >>= fun found =>
        pure (if id = sid then d :: found else found)) = _
      rw [hget, hrest]
      rfl

end Lists

end TransportConverter.Performance
