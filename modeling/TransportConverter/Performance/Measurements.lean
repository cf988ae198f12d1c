import TransportConverter.Performance.Logger

/-! What a logger is to make of the subflows it finds, one after the other. -/

namespace TransportConverter.Performance

open Foundations Foundations.Memory Foundations.Sql Wire

structure Subflow where
  addrs : SubflowAddrs
  info : TcpInfo

structure Snapshot where
  subflows : List Subflow
  fits : subflows.length < 2 ^ 32

abbrev Measurement := Subflow × ℕ

namespace Snapshot

variable (snap : Snapshot)

def numSubflows : UInt32 := .ofNat snap.subflows.length

/-- The number of subflows as the `int` that bounds the loops. -/
def count : ℕ := (intOf snap.numSubflows).toNat

def measured : List Subflow := snap.subflows.take snap.count

def measurements : List Measurement := snap.measured.zipIdx

def Known : Prop := ∀ sub ∈ snap.measured, sub.addrs.Known

variable {snap}

lemma toNat_numSubflows : snap.numSubflows.toNat = snap.subflows.length :=
  UInt32.toNat_ofNat_of_lt' snap.fits

lemma count_eq : snap.count = if snap.subflows.length < 2 ^ 31 then snap.subflows.length else 0 := by
  rw [count, intOf_toNat, toNat_numSubflows]

lemma count_le : snap.count ≤ snap.subflows.length := by
  rw [count_eq]
  split_ifs <;> omega

lemma measured_length : snap.measured.length = snap.count := by
  rw [measured, List.length_take, min_eq_left count_le]

lemma mem_measurements {m : Measurement} : m ∈ snap.measurements ↔ snap.measured[m.2]? = some m.1 :=
  List.mem_zipIdx_iff_getElem?

lemma place_lt {m : Measurement} (h : m ∈ snap.measurements) : m.2 < snap.count := by
  rw [← measured_length]
  exact (List.getElem?_eq_some_iff.mp (mem_measurements.mp h)).1

lemma exists_place {i : ℕ} (h : i < snap.count) : ∃ m ∈ snap.measurements, m.2 = i := by
  rw [← measured_length] at h
  exact ⟨(snap.measured[i], i), mem_measurements.mpr (List.getElem?_eq_getElem h), rfl⟩

lemma count_pos (h : ¬ snap.Known) : 0 < snap.count := by
  rw [← measured_length]
  refine List.length_pos_iff.mpr fun hnil => h ?_
  rw [Known, hnil]
  exact List.forall_mem_nil _

lemma measurements_cons (h : 0 < snap.count) : ∃ m ms, snap.measurements = m :: ms := by
  apply List.exists_cons_of_length_pos
  rwa [measurements, List.length_zipIdx, measured_length]

lemma known_of_mem {m : Measurement} (hknown : snap.Known) (h : m ∈ snap.measurements) : m.1.addrs.Known :=
  hknown _ (List.mem_of_getElem? (mem_measurements.mp h))

end Snapshot

def measurements (snaps : List Snapshot) : List Measurement := snaps.flatMap Snapshot.measurements

section Tables

variable (it : IterationId) (features : Features)

def Subflow.localAddr (sub : Subflow) : String := (sub.addrs.texts.getD ("", "")).1
def Subflow.remoteAddr (sub : Subflow) : String := (sub.addrs.texts.getD ("", "")).2

def addrRow (m : Measurement) : Row subflowsColumns :=
  subflowRow it.text m.2 m.1.localAddr m.1.remoteAddr

def infoRow (m : Measurement) : Row tcpConnInfoColumns :=
  tcpConnInfoRow it.text m.2 (keptItems features m.1.info)

namespace Logger

variable (s : Logger)

def record (m : Measurement) : Logger :=
  if .int m.2 ∈ s.insertedSubflowsCache then s
  else ⟨{ s.db with subflows := s.db.subflows ++ [addrRow it m] }, s.insertedSubflowsCache ++ [.int m.2]⟩

def insert (m : Measurement) : Logger :=
  { s with db := { s.db with tcpConnInfo := s.db.tcpConnInfo ++ [infoRow it features m] } }

def after (ms : List Measurement) : Logger :=
  ms.foldl (fun s m => (s.record it m).insert it features m) s

end Logger

end Tables

section Texts

variable {m : Measurement} {text remote : String}

lemma IterationId.stored (it : IterationId) : (Cell.text it.text).stored = .text it.text := by
  have hdigits : ∀ c ∈ it.text.toList, c.isDigit = false := by
    intro c hc
    have hletter : 'a'.toNat ≤ c.toNat := (it.letters c hc).1
    have hdigit : ¬ c.toNat ≤ '9'.toNat := fun h => absurd (hletter.trans h) (by decide)
    simp only [Char.isDigit, Bool.and_eq_false_iff, decide_eq_false_iff_not]
    exact Or.inr hdigit
  rw [Cell.stored, not_isNumeral_of_letters hdigits]
  rfl

lemma inetNtop_stored (a : Octets 4) : (Cell.text (inetNtop a)).stored = .text (inetNtop a) := by
  have hpoints : 2 ≤ (inetNtop a).toList.count '.' := by
    simp only [inetNtop, String.toList_ofList, InetText.quadText, List.append_assoc, List.cons_append,
      List.count_append, List.count_cons_self]
    omega
  rw [Cell.stored, not_isNumeral_of_points hpoints]
  rfl

lemma inetNtop6_stored (a : Octets 16) : (Cell.text (inetNtop6 a)).stored = .text (inetNtop6 a) := by
  have hcolon : ':' ∈ (inetNtop6 a).toList := by
    obtain ⟨text, htext⟩ : ∃ text, InetText.inetNtop6 a = text ++ ':' :: InetText.lastPart a :=
      InetText.inetNtop6_ends
    rw [inetNtop6, String.toList_ofList, htext]
    exact List.mem_append_right _ List.mem_cons_self
  rw [Cell.stored, not_isNumeral_of_colon hcolon]
  rfl

lemma texts_stored {a : SubflowAddrs} (h : a.texts = some (text, remote)) :
    (Cell.text text).stored = .text text ∧ (Cell.text remote).stored = .text remote := by
  unfold SubflowAddrs.texts at h
  split_ifs at h
  · cases h
    exact ⟨inetNtop_stored _, inetNtop_stored _⟩
  · cases h
    exact ⟨inetNtop6_stored _, inetNtop6_stored _⟩

lemma addrRow_ids (it : IterationId) (m : Measurement) :
    (addrRow it m).at "iteration_id" = .text it.text ∧ (addrRow it m).at "subflow_id" = .integer m.2 := by
  unfold addrRow subflowRow
  rw [Row.at_of (by decide), Row.at_of (by decide)]
  exact ⟨it.stored, rfl⟩

lemma addrRow_addrs (it : IterationId) (h : m.1.addrs.texts = some (text, remote)) :
    (addrRow it m).at "local_addr" = .text text ∧ (addrRow it m).at "remote_addr" = .text remote := by
  unfold addrRow subflowRow Subflow.localAddr Subflow.remoteAddr
  rw [Row.at_of (by decide), Row.at_of (by decide), h]
  exact texts_stored h

lemma infoRow_ids (it : IterationId) (features : Features) (m : Measurement) :
    (infoRow it features m).at "iteration_id" = .text it.text ∧
      (infoRow it features m).at "subflow_id" = .integer m.2 := by
  unfold infoRow tcpConnInfoRow
  rw [Row.at_of (by decide), Row.at_of (by decide)]
  exact ⟨it.stored, rfl⟩

end Texts

section After

variable {it : IterationId} {features : Features} {s : Logger} {m : Measurement} {ms : List Measurement}
  {i : ℕ}

def Database.atPlace (it : IterationId) (i : ℕ) (db : Database) : List (Row subflowsColumns) :=
  db.subflows.filter fun r => r.at "iteration_id" = .text it.text ∧ r.at "subflow_id" = .integer i

lemma mem_cache_record :
    .int i ∈ (s.record it m).insertedSubflowsCache ↔ .int i ∈ s.insertedSubflowsCache ∨ m.2 = i := by
  unfold Logger.record
  split_ifs with hcached
  · constructor
    · exact Or.inl
    · rintro (h | rfl)
      · exact h
      · exact hcached
  · simp [eq_comm]

lemma atPlace_record :
    Database.atPlace it i (s.record it m).db = Database.atPlace it i s.db ++
      if .int i ∉ s.insertedSubflowsCache ∧ m.2 = i then [addrRow it m] else [] := by
  obtain ⟨hiteration, hsubflow⟩ := addrRow_ids it m
  unfold Logger.record
  by_cases hplace : m.2 = i
  · subst hplace
    by_cases hcached : .int m.2 ∈ s.insertedSubflowsCache
    · rw [if_pos hcached, if_neg fun h => h.1 hcached, List.append_nil]
    · rw [if_neg hcached, if_pos ⟨hcached, rfl⟩]
      simp only [Database.atPlace, List.filter_append, List.filter_cons, hiteration, hsubflow, and_self,
        decide_true, if_true, List.filter_nil]
  · have hother : ¬ (.int i ∉ s.insertedSubflowsCache ∧ m.2 = i) := fun h => hplace h.2
    rw [if_neg hother, List.append_nil]
    split_ifs with hcached
    · rfl
    · have hne : ¬ (m.2 : ℤ) = i := fun h => hplace (by exact_mod_cast h)
      simp [Database.atPlace, hsubflow, hne]

@[simp] lemma after_cons :
    s.after it features (m :: ms) = ((s.record it m).insert it features m).after it features ms := rfl

lemma after_append (ms' : List Measurement) :
    s.after it features (ms ++ ms') = (s.after it features ms).after it features ms' :=
  List.foldl_append

lemma tcpConnInfo_record : (s.record it m).db.tcpConnInfo = s.db.tcpConnInfo := by
  unfold Logger.record
  split_ifs <;> rfl

lemma tcpConnInfo_after :
    (s.after it features ms).db.tcpConnInfo = s.db.tcpConnInfo ++ ms.map (infoRow it features) := by
  induction ms generalizing s with
  | nil => exact (List.append_nil _).symm
  | cons m ms ih =>
    rw [after_cons, ih, List.map_cons, Logger.insert, tcpConnInfo_record, List.append_assoc]
    rfl

lemma mem_cache_after :
    .int i ∈ (s.after it features ms).insertedSubflowsCache ↔
      .int i ∈ s.insertedSubflowsCache ∨ ∃ m ∈ ms, m.2 = i := by
  induction ms generalizing s with
  | nil => simp [Logger.after]
  | cons m ms ih =>
    rw [after_cons, ih, List.exists_mem_cons_iff, ← or_assoc]
    exact or_congr_left mem_cache_record

lemma subflows_after (it : IterationId) (features : Features) (s : Logger) (ms : List Measurement) :
    ∃ added, (s.after it features ms).db.subflows = s.db.subflows ++ added ∧
      ∀ row ∈ added, ∃ m, row = addrRow it m := by
  induction ms generalizing s with
  | nil => exact ⟨[], (List.append_nil _).symm, List.forall_mem_nil _⟩
  | cons m ms ih =>
    obtain ⟨added, hadded, hrows⟩ := ih ((s.record it m).insert it features m)
    have hrecord : ∃ first, ((s.record it m).insert it features m).db.subflows = s.db.subflows ++ first ∧
        ∀ row ∈ first, ∃ m, row = addrRow it m := by
      by_cases hcached : .int m.2 ∈ s.insertedSubflowsCache
      · refine ⟨[], ?_, List.forall_mem_nil _⟩
        rw [Logger.record, if_pos hcached, List.append_nil]
        rfl
      · refine ⟨[addrRow it m], ?_, List.forall_mem_singleton.mpr ⟨m, rfl⟩⟩
        rw [Logger.record, if_neg hcached]
        rfl
    obtain ⟨first, hfirst, hrow⟩ := hrecord
    refine ⟨first ++ added, ?_, List.forall_mem_append.mpr ⟨hrow, hrows⟩⟩
    rw [after_cons, hadded, hfirst, List.append_assoc]

/-- A place keeps the addresses it was first measured with. -/
lemma atPlace_after :
    Database.atPlace it i (s.after it features ms).db = Database.atPlace it i s.db ++
      if .int i ∈ s.insertedSubflowsCache then []
      else ((ms.find? (·.2 = i)).map (addrRow it)).toList := by
  induction ms generalizing s with
  | nil => simp [Logger.after]
  | cons m ms ih =>
    have hcache : .int i ∈ ((s.record it m).insert it features m).insertedSubflowsCache ↔
        .int i ∈ s.insertedSubflowsCache ∨ m.2 = i := mem_cache_record
    have hplace : Database.atPlace it i ((s.record it m).insert it features m).db =
        Database.atPlace it i (s.record it m).db := rfl
    rw [after_cons, ih, hplace, atPlace_record, List.append_assoc, List.find?_cons]
    simp only [hcache]
    by_cases hcached : .int i ∈ s.insertedSubflowsCache
    · simp [hcached]
    · by_cases heq : m.2 = i
      · simp [hcached, heq]
      · simp [hcached, heq]

end After

end TransportConverter.Performance
