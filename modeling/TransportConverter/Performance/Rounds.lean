import TransportConverter.Performance.Measurements

/-! Rounds over snapshots: in each, the two queries are answered from one list of subflows. What they
leave is what the measurements make of the tables, as long as no round goes wrong. -/

namespace TransportConverter.Performance

open Foundations Foundations.Effects Foundations.Memory Foundations.Sql Foundations.Watched Wire

/-- The kernel fills as much of an array of two as it has subflows; the array was cleared before. -/
def firstTwo {α : Type} (zero : α) (xs : List α) : List.Vector α 2 :=
  ⟨[xs.getD 0 zero, xs.getD 1 zero], rfl⟩

def Sockaddr.zero : Sockaddr := ⟨0, .replicate 2 0, .replicate 4 0, .replicate 16 0⟩

def SubflowAddrs.zero : SubflowAddrs := ⟨.zero, .zero⟩

namespace Snapshot

variable (snap : Snapshot)

def tcpInfo : Answer TcpInfo := .filled snap.numSubflows (firstTwo .zero (snap.subflows.map Subflow.info))

def subflowInfo : Answer SubflowAddrs :=
  .filled snap.numSubflows (firstTwo .zero (snap.subflows.map Subflow.addrs))

def round : Round := ⟨snap.tcpInfo, fun _ => snap.subflowInfo⟩

end Snapshot

section Queries

variable {snap : Snapshot} {m : Measurement}

def slotOf (m : Measurement) : Option PyDict := some (tcpInfoDict m.2 m.1.info)

lemma firstTwo_take {α β : Type} {zero : β} {f : α → β} {xs : List α} {k : ℕ} (h : k ≤ 2)
    (hk : k ≤ xs.length) : (firstTwo zero (xs.map f)).toList.take k = (xs.take k).map f := by
  rcases xs with _ | ⟨x, _ | ⟨y, xs⟩⟩
  · obtain rfl : k = 0 := by simpa using hk
    rfl
  · have hk' : k ≤ 1 := hk
    interval_cases k <;> rfl
  · interval_cases k <;> rfl

lemma query_tcpInfo (h : snap.count ≤ 2) :
    ofQuery (mptcpUtilGetSubflowTcpInfo snap.tcpInfo) = .ok (snap.measurements.map slotOf) := by
  have htake : (firstTwo .zero (snap.subflows.map Subflow.info)).toList.take (intOf snap.numSubflows).toNat =
      snap.measured.map Subflow.info := firstTwo_take h Snapshot.count_le
  rw [ofQuery, Snapshot.tcpInfo, value_subflowTcpInfo h, htake, List.mapIdx_eq_zipIdx_map,
    List.zipIdx_map, List.map_map]
  rfl

lemma query_tcpInfo_outside (h : 2 < snap.count) :
    ofQuery (mptcpUtilGetSubflowTcpInfo snap.tcpInfo) = .error .undefined := by
  have hnone : (mptcpUtilGetSubflowTcpInfo snap.tcpInfo).value = none := by
    rw [Snapshot.tcpInfo, mptcpUtilGetSubflowTcpInfo, value_bind, value_forEach_outside (Nat.zero_le _)]
    · rfl
    · rw [List.Vector.toList_length, Nat.zero_add]
      exact h
  rw [ofQuery, hnone]

lemma query_subflowInfo (h : snap.count ≤ 2) (hm : m ∈ snap.measurements) :
    ofQuery (mptcpUtilGetSubflowInfo snap.subflowInfo) =
      .ok ((snap.measured.map Subflow.addrs).mapIdx subflowDict) := by
  have hnonneg : ¬ intOf snap.numSubflows < 0 := by
    intro hneg
    have hzero : snap.count = 0 := Int.toNat_of_nonpos hneg.le
    have hlt := Snapshot.place_lt hm
    omega
  have htake : (firstTwo .zero (snap.subflows.map Subflow.addrs)).toList.take (intOf snap.numSubflows).toNat =
      snap.measured.map Subflow.addrs := firstTwo_take h Snapshot.count_le
  rw [ofQuery, Snapshot.subflowInfo, value_subflowInfo h, if_neg hnonneg, htake]

lemma withId_known {xs : List SubflowAddrs} {a : SubflowAddrs} {d : PyDict} {i : ℕ} (h : xs.length ≤ 2)
    (hknown : ∀ a ∈ xs, a.Known) (ha : xs[i]? = some a) (hd : subflowDict i a = some d) :
    withId (.int i) (xs.mapIdx subflowDict) = .ok [d] := by
  have hslots := withId_numbered (k := 0) (i := i) fun j slot hslot => by
    simpa using (numbered_infos_iff h).mpr hknown j slot hslot
  rw [hslots, if_pos (Nat.zero_le _), Nat.sub_zero, List.getElem?_mapIdx, ha, Option.map_some, hd]
  rfl

lemma withId_unknown {xs : List SubflowAddrs} {sid : PyValue} (hunknown : ¬ ∀ a ∈ xs, a.Known) :
    withId sid (xs.mapIdx subflowDict) = .error .undefined := by
  apply withId_null
  · intro d hd
    obtain ⟨i, hi⟩ := List.getElem?_of_mem hd
    obtain ⟨a, -, ha⟩ := getElem?_mapIdx_some hi
    exact ⟨_, subflowDict_id ha.symm⟩
  · push Not at hunknown
    obtain ⟨a, ha, hunknown⟩ := hunknown
    obtain ⟨i, hi⟩ := List.getElem?_of_mem ha
    apply List.mem_of_getElem? (i := i)
    rw [List.getElem?_mapIdx, hi, Option.map_some, subflowDict, texts_eq_none_iff.mpr hunknown]
    rfl

lemma subflowDict_addrs {a : SubflowAddrs} {d : PyDict} {i : ℕ} {localIp remoteIp : String}
    (hd : subflowDict i a = some d) (htexts : a.texts = some (localIp, remoteIp)) :
    d ≠ [] ∧ getItem d "local_addr" = .ok (.str localIp) ∧
      getItem d "remote_addr" = .ok (.str remoteIp) := by
  rw [subflowDict, htexts] at hd
  cases hd
  exact ⟨List.cons_ne_nil _ _, rfl, rfl⟩

end Queries

section Steps

variable {it : IterationId} {features : Features} {snap : Snapshot} {m : Measurement} {s : Logger}

lemma ofExcept_ok {α : Type} {x : Except Fault α} {a : α} (h : x = .ok a) : ofExcept x s = .ok a s := by
  rw [h]
  rfl

lemma ofExcept_error {α : Type} {x : Except Fault α} {e : Fault} (h : x = .error e) :
    ofExcept x s = .error e s := by
  rw [h]
  rfl

lemma commit_ok {statement : Database → Except SqlError Database} {db : Database}
    (h : statement s.db = .ok db) : commit statement s = .ok () { s with db } := by
  rw [commit, h]

lemma commit_refused {statement : Database → Except SqlError Database}
    (h : statement s.db = .error .operational) :
    commit statement s = .error (.raised .operationalError) s := by
  rw [commit, h]
  rfl

lemma recordSubflow_cached {answer : Answer SubflowAddrs} (h : .int m.2 ∈ s.insertedSubflowsCache) :
    recordSubflow it answer (.int m.2) s = .ok () (s.record it m) := by
  rw [Logger.record, if_pos h]
  show (if PyValue.int m.2 ∈ s.insertedSubflowsCache then pure () else _ : Py Unit) s = _
  rw [if_pos h]
  rfl

lemma recordSubflow_new (hcount : snap.count ≤ 2) (hm : m ∈ snap.measurements)
    (h : .int m.2 ∉ s.insertedSubflowsCache) (hknown : snap.Known) :
    recordSubflow it snap.subflowInfo (.int m.2) s = .ok () (s.record it m) := by
  have hlt : m.2 < snap.count := Snapshot.place_lt hm
  obtain ⟨⟨localIp, remoteIp⟩, htexts⟩ := texts_of_known (Snapshot.known_of_mem hknown hm)
  obtain ⟨d, hd⟩ : ∃ d, subflowDict m.2 m.1.addrs = some d := ⟨_, by rw [subflowDict, htexts]; rfl⟩
  have hlength : (snap.measured.map Subflow.addrs).length ≤ 2 := by
    rwa [List.length_map, Snapshot.measured_length]
  have hplace : (snap.measured.map Subflow.addrs)[m.2]? = some m.1.addrs := by
    rw [List.getElem?_map, Snapshot.mem_measurements.mp hm]
    rfl
  have hfirst : firstOf [d] = .ok d := rfl
  have hfound := withId_known hlength (List.forall_mem_map.mpr hknown) hplace hd
  have hinsert : s.db.insertSubflow (.str it.text) (.int m.2) (.str localIp) (.str remoteIp) =
      .ok { s.db with subflows := s.db.subflows ++ [addrRow it m] } := by
    rw [insertSubflow_ok (by omega), addrRow, Subflow.localAddr, Subflow.remoteAddr, htexts]
    rfl
  have hcommit : commit (·.insertSubflow (.str it.text) (.int m.2) (.str localIp) (.str remoteIp)) s =
      .ok () { s with db := { s.db with subflows := s.db.subflows ++ [addrRow it m] } } :=
    commit_ok hinsert
  obtain ⟨hne, hlocal, hremote⟩ := subflowDict_addrs hd htexts
  show (if PyValue.int m.2 ∈ s.insertedSubflowsCache then pure () else _ : Py Unit) s = _
  rw [if_neg h, bind_of_ok (ofExcept_ok (query_subflowInfo hcount hm)), bind_of_ok (ofExcept_ok hfound),
    bind_of_ok (ofExcept_ok hfirst), if_neg hne, bind_of_ok (ofExcept_ok hlocal),
    bind_of_ok (ofExcept_ok hremote), bind_of_ok hcommit, Logger.record, if_neg h]
  rfl

lemma recordSubflow_null (hcount : snap.count ≤ 2) (hm : m ∈ snap.measurements)
    (h : .int m.2 ∉ s.insertedSubflowsCache) (hunknown : ¬ snap.Known) :
    recordSubflow it snap.subflowInfo (.int m.2) s = .error .undefined s := by
  have hslots : ¬ ∀ a ∈ snap.measured.map Subflow.addrs, a.Known := by
    rwa [List.forall_mem_map]
  show (if PyValue.int m.2 ∈ s.insertedSubflowsCache then pure () else _ : Py Unit) s = _
  rw [if_neg h, bind_of_ok (ofExcept_ok (query_subflowInfo hcount hm)),
    bind_of_error (ofExcept_error (withId_unknown hslots))]

lemma recordSubflow_ok (hcount : snap.count ≤ 2) (hm : m ∈ snap.measurements)
    (h : .int m.2 ∈ s.insertedSubflowsCache ∨ snap.Known) :
    recordSubflow it snap.subflowInfo (.int m.2) s = .ok () (s.record it m) := by
  by_cases hcached : .int m.2 ∈ s.insertedSubflowsCache
  · exact recordSubflow_cached hcached
  · exact recordSubflow_new hcount hm hcached (h.resolve_left hcached)

lemma logSubflow_eq (hm : m.2 < 2 ^ 63) {answer : Answer SubflowAddrs} :
    logSubflow it features answer (slotOf m) s =
      (recordSubflow it answer (.int m.2) >>= fun _ =>
        commit (·.insertSubflowTcpConnInfo (.str it.text) (.int m.2) (keptItems features m.1.info))) s := by
  have hderef : deref (slotOf m) = .ok (tcpInfoDict m.2 m.1.info) := rfl
  have hsid : getItem (tcpInfoDict m.2 m.1.info) "id" = .ok (.int m.2) := by
    rw [getItem, tcpInfoDict_id, pyLongFromLong_small hm]
  rw [logSubflow, bind_of_ok (ofExcept_ok hderef), bind_of_ok (ofExcept_ok hsid)]
  simp only [filterFeatures_tcpInfoDict]

lemma keptItems_eq_nil {ti : TcpInfo} : keptItems features ti = [] ↔ kept features = [] := List.map_eq_nil_iff

lemma logSubflow_ok (hcount : snap.count ≤ 2) (hkept : kept features ≠ []) (hm : m ∈ snap.measurements)
    (h : .int m.2 ∈ s.insertedSubflowsCache ∨ snap.Known) :
    logSubflow it features snap.subflowInfo (slotOf m) s =
      .ok () ((s.record it m).insert it features m) := by
  have hlt : m.2 < snap.count := Snapshot.place_lt hm
  have hinsert : (s.record it m).db.insertSubflowTcpConnInfo (.str it.text) (.int m.2)
      (keptItems features m.1.info) = .ok ((s.record it m).insert it features m).db :=
    insertSubflowTcpConnInfo_ok (by omega) (storable_keptItems _) (mt keptItems_eq_nil.mp hkept)
  rw [logSubflow_eq (by omega), bind_of_ok (recordSubflow_ok hcount hm h)]
  exact commit_ok hinsert

lemma logSubflow_empty (hcount : snap.count ≤ 2) (hkept : kept features = []) (hm : m ∈ snap.measurements)
    (h : .int m.2 ∈ s.insertedSubflowsCache ∨ snap.Known) :
    logSubflow it features snap.subflowInfo (slotOf m) s =
      .error (.raised .operationalError) (s.record it m) := by
  have hlt : m.2 < snap.count := Snapshot.place_lt hm
  have hrefused : (s.record it m).db.insertSubflowTcpConnInfo (.str it.text) (.int m.2)
      (keptItems features m.1.info) = .error .operational := by
    rw [keptItems_eq_nil.mpr hkept]
    exact insertSubflowTcpConnInfo_nil _ _
  rw [logSubflow_eq (by omega), bind_of_ok (recordSubflow_ok hcount hm h)]
  exact commit_refused hrefused

lemma logSubflow_null (hcount : snap.count ≤ 2) (hm : m ∈ snap.measurements)
    (h : .int m.2 ∉ s.insertedSubflowsCache) (hunknown : ¬ snap.Known) :
    logSubflow it features snap.subflowInfo (slotOf m) s = .error .undefined s := by
  have hlt : m.2 < snap.count := Snapshot.place_lt hm
  rw [logSubflow_eq (by omega), bind_of_error (recordSubflow_null hcount hm h hunknown)]

end Steps

section Loops

variable {it : IterationId} {features : Features} {snap : Snapshot} {ms : List Measurement} {s : Logger}
  {i : ℕ}

lemma logSubflows_ok (hcount : snap.count ≤ 2) (hkept : kept features ≠ [])
    (hms : ∀ m ∈ ms, m ∈ snap.measurements)
    (h : ∀ m ∈ ms, .int m.2 ∈ s.insertedSubflowsCache ∨ snap.Known) :
    logSubflows it features (fun _ => snap.subflowInfo) i (ms.map slotOf) s =
      .ok () (s.after it features ms) := by
  induction ms generalizing s i with
  | nil => rfl
  | cons m ms ih =>
    have hfirst : logSubflow it features snap.subflowInfo (slotOf m) s = .ok () _ :=
      logSubflow_ok hcount hkept (hms m List.mem_cons_self) (h m List.mem_cons_self)
    rw [List.map_cons, logSubflows, bind_of_ok hfirst, after_cons]
    apply ih
    · exact fun m' hm' => hms m' (List.mem_cons_of_mem _ hm')
    · intro m' hm'
      exact (h m' (List.mem_cons_of_mem _ hm')).imp_left fun hcached => mem_cache_record.mpr (Or.inl hcached)

lemma logSubflows_null (hcount : snap.count ≤ 2) (hkept : kept features ≠ [])
    (hms : ∀ m ∈ ms, m ∈ snap.measurements) (h : ∃ m ∈ ms, .int m.2 ∉ s.insertedSubflowsCache)
    (hunknown : ¬ snap.Known) :
    ∃ t, logSubflows it features (fun _ => snap.subflowInfo) i (ms.map slotOf) s = .error .undefined t := by
  induction ms generalizing s i with
  | nil => simp at h
  | cons m ms ih =>
    have hm := hms m List.mem_cons_self
    rw [List.map_cons, logSubflows]
    by_cases hcached : .int m.2 ∈ s.insertedSubflowsCache
    · obtain ⟨m', hm', hnew⟩ := h
      have hrest : m' ∈ ms := by
        rcases List.mem_cons.mp hm' with rfl | hrest
        · exact absurd hcached hnew
        · exact hrest
      have hfirst : logSubflow it features snap.subflowInfo (slotOf m) s = .ok () _ :=
        logSubflow_ok hcount hkept hm (Or.inl hcached)
      rw [bind_of_ok hfirst]
      apply ih
      · exact fun m' hm' => hms m' (List.mem_cons_of_mem _ hm')
      · refine ⟨m', hrest, fun hin => ?_⟩
        rw [Logger.record, if_pos hcached] at hin
        exact hnew hin
    · exact ⟨s, bind_of_error (logSubflow_null hcount hm hcached hunknown)⟩

end Loops

section Runs

variable {it : IterationId} {features : Features} {snap : Snapshot} {pre snaps : List Snapshot}
  {start s : Logger} {i : ℕ}

lemma logRounds_eq :
    logRounds it features (snaps.map Snapshot.round) =
      forM snaps fun snap => logRound it features snap.round := by
  induction snaps with
  | nil => rfl
  | cons snap snaps ih => rw [List.map_cons, logRounds, ih, List.forM_cons]

lemma logRound_outside (h : 2 < snap.count) :
    logRound it features snap.round s = .error .undefined s :=
  bind_of_error (ofExcept_error (query_tcpInfo_outside h))

lemma logRound_eq (h : snap.count ≤ 2) :
    logRound it features snap.round s =
      logSubflows it features (fun _ => snap.subflowInfo) 0 (snap.measurements.map slotOf) s :=
  bind_of_ok (ofExcept_ok (query_tcpInfo h))

/-- A round that stays inside the arrays, and gets addresses for all its subflows when it asks for them. -/
structure Regular (pre : List Snapshot) (snap : Snapshot) : Prop where
  few : snap.count ≤ 2
  known : (∀ p ∈ pre, p.count < snap.count) → snap.Known

lemma mem_cache_rounds (hstart : start.insertedSubflowsCache = []) :
    .int i ∈ (start.after it features (measurements pre)).insertedSubflowsCache ↔
      ∃ p ∈ pre, i < p.count := by
  rw [mem_cache_after, hstart, or_iff_right List.not_mem_nil]
  simp only [measurements, List.mem_flatMap]
  constructor
  · rintro ⟨m, ⟨p, hp, hm⟩, rfl⟩
    exact ⟨p, hp, Snapshot.place_lt hm⟩
  · rintro ⟨p, hp, hi⟩
    obtain ⟨m, hm, hplace⟩ := Snapshot.exists_place hi
    exact ⟨m, ⟨p, hp, hm⟩, hplace⟩

lemma measurements_snoc : measurements (pre ++ [snap]) = measurements pre ++ snap.measurements := by
  rw [measurements, List.flatMap_append, List.flatMap_singleton]
  rfl

lemma logRound_regular (hstart : start.insertedSubflowsCache = []) (hkept : kept features ≠ [])
    (h : Regular pre snap) :
    logRound it features snap.round (start.after it features (measurements pre)) =
      .ok () (start.after it features (measurements (pre ++ [snap]))) := by
  rw [logRound_eq h.few, measurements_snoc, after_append]
  apply logSubflows_ok h.few hkept fun _ => id
  intro m hm
  rw [mem_cache_rounds hstart]
  by_cases hnew : ∀ p ∈ pre, p.count < snap.count
  · exact Or.inr (h.known hnew)
  · push Not at hnew
    obtain ⟨p, hp, hle⟩ := hnew
    exact Or.inl ⟨p, hp, (Snapshot.place_lt hm).trans_le hle⟩

lemma logRound_irregular (hstart : start.insertedSubflowsCache = []) (hkept : kept features ≠ [])
    (h : ¬ Regular pre snap) :
    ∃ t, logRound it features snap.round (start.after it features (measurements pre)) =
      .error .undefined t := by
  by_cases hfew : snap.count ≤ 2
  · have hnot : ¬ ((∀ p ∈ pre, p.count < snap.count) → snap.Known) := fun hknown => h ⟨hfew, hknown⟩
    rw [Classical.not_imp] at hnot
    obtain ⟨hnew, hunknown⟩ := hnot
    obtain ⟨n, hn⟩ := Nat.exists_eq_add_one.mpr (Snapshot.count_pos hunknown)
    have hlast : n < snap.count := by omega
    obtain ⟨m, hm, rfl⟩ := Snapshot.exists_place hlast
    rw [logRound_eq hfew]
    apply logSubflows_null hfew hkept (fun _ => id) ⟨m, hm, ?_⟩ hunknown
    rw [mem_cache_rounds hstart]
    rintro ⟨p, hp, hlt⟩
    have hle := hnew p hp
    omega
  · exact ⟨_, logRound_outside (not_le.mp hfew)⟩

def Behind (it : IterationId) (features : Features) (start : Logger) (pre : List Snapshot) (s : Logger) :
    Prop := s = start.after it features (measurements pre)

lemma Behind.next (it : IterationId) (hstart : start.insertedSubflowsCache = []) (hkept : kept features ≠ [])
    (pre : List Snapshot) (snap : Snapshot) (s : Logger) (hs : Behind it features start pre s)
    (h : Regular pre snap) :
    ∃ t, logRound it features snap.round s = .ok () t ∧ Behind it features start (pre ++ [snap]) t := by
  obtain rfl := hs
  exact ⟨_, logRound_regular hstart hkept h, rfl⟩

lemma Behind.stops (hstart : start.insertedSubflowsCache = []) (hkept : kept features ≠ [])
    (pre : List Snapshot) (snap : Snapshot) (s : Logger) (hs : Behind it features start pre s)
    (h : ¬ Regular pre snap) : ∃ t, logRound it features snap.round s = .error .undefined t := by
  obtain rfl := hs
  exact logRound_irregular hstart hkept h

lemma logRounds_ok (hstart : start.insertedSubflowsCache = []) (hkept : kept features ≠ [])
    (h : Throughout Regular snaps) :
    logRounds it features (snaps.map Snapshot.round) start =
      .ok () (start.after it features (measurements snaps)) := by
  have hstep := Behind.next it hstart hkept
  obtain ⟨t, hrun, rfl⟩ := forM_ok [] hstep h rfl
  rw [logRounds_eq]
  exact hrun

lemma logRounds_undefined (hstart : start.insertedSubflowsCache = []) (hkept : kept features ≠ [])
    (h : ¬ Throughout Regular snaps) :
    ∃ t, logRounds it features (snaps.map Snapshot.round) start = .error .undefined t := by
  rw [logRounds_eq]
  exact forM_stops [] (Behind.next it hstart hkept) (Behind.stops hstart hkept) h rfl

end Runs

section Nothing

variable {it : IterationId} {features : Features} {snap : Snapshot} {pre post snaps : List Snapshot}
  {start s t : Logger} {e : Fault}

lemma logRound_idle (h : snap.count = 0) : logRound it features snap.round s = .ok () s := by
  have hnil : snap.measurements = [] := by
    rw [Snapshot.measurements, Snapshot.measured, h]
    rfl
  rw [logRound_eq (by omega), hnil]
  rfl

lemma logRounds_skip (h : ∀ p ∈ pre, p.count = 0) :
    logRounds it features ((pre ++ snaps).map Snapshot.round) s =
      logRounds it features (snaps.map Snapshot.round) s := by
  induction pre with
  | nil => rfl
  | cons p pre ih =>
    rw [List.cons_append, List.map_cons, logRounds, bind_of_ok (logRound_idle (h p List.mem_cons_self))]
    exact ih fun p' hp' => h p' (List.mem_cons_of_mem _ hp')

lemma logRounds_idle (h : ∀ snap ∈ snaps, snap.count = 0) :
    logRounds it features (snaps.map Snapshot.round) s = .ok () s := by
  have hskip : logRounds it features ((snaps ++ []).map Snapshot.round) s = logRounds it features [] s :=
    logRounds_skip h
  rw [List.append_nil] at hskip
  exact hskip

lemma logRounds_first (hpre : ∀ p ∈ pre, p.count = 0) (h : logRound it features snap.round s = .error e t) :
    logRounds it features ((pre ++ snap :: post).map Snapshot.round) s = .error e t := by
  rw [logRounds_skip hpre, List.map_cons, logRounds, bind_of_error h]

lemma first_subflow (snaps : List Snapshot) :
    (∀ snap ∈ snaps, snap.count = 0) ∨
      ∃ pre snap post, snaps = pre ++ snap :: post ∧ (∀ p ∈ pre, p.count = 0) ∧ 0 < snap.count := by
  cases hfind : snaps.find? (·.count ≠ 0) with
  | none => exact Or.inl (by simpa using hfind)
  | some snap =>
    obtain ⟨hsome, pre, post, rfl, hpre⟩ := List.find?_eq_some_iff_append.mp hfind
    refine Or.inr ⟨pre, snap, post, rfl, by simpa using hpre, ?_⟩
    simpa [Nat.pos_iff_ne_zero] using hsome

lemma logRound_empty (hkept : kept features = []) (hcount : snap.count ≤ 2) (hpos : 0 < snap.count)
    (hknown : snap.Known) :
    ∃ t, logRound it features snap.round s = .error (.raised .operationalError) t ∧
      t.db.tcpConnInfo = s.db.tcpConnInfo := by
  obtain ⟨m, ms, hms⟩ := Snapshot.measurements_cons hpos
  have hm : m ∈ snap.measurements := by rw [hms]; exact List.mem_cons_self
  refine ⟨s.record it m, ?_, tcpConnInfo_record⟩
  rw [logRound_eq hcount, hms, List.map_cons, logSubflows,
    bind_of_error (logSubflow_empty hcount hkept hm (Or.inr hknown))]

lemma logRound_empty_undefined (hstart : start.insertedSubflowsCache = []) (h : ¬ Regular [] snap) :
    logRound it features snap.round start = .error .undefined start := by
  by_cases hfew : snap.count ≤ 2
  · have hunknown : ¬ snap.Known := fun hknown => h ⟨hfew, fun _ => hknown⟩
    obtain ⟨m, ms, hms⟩ := Snapshot.measurements_cons (Snapshot.count_pos hunknown)
    have hm : m ∈ snap.measurements := by rw [hms]; exact List.mem_cons_self
    have hnew : .int m.2 ∉ start.insertedSubflowsCache := by rw [hstart]; exact List.not_mem_nil
    rw [logRound_eq hfew, hms, List.map_cons, logSubflows,
      bind_of_error (logSubflow_null hfew hm hnew hunknown)]
  · exact logRound_outside (not_le.mp hfew)

end Nothing

section Selections

inductive Selection
  | all
  | only (features : List String)

def Selection.argument : Selection → Features
  | .all => .text "all"
  | .only features => .list features

lemma runLogger_eq (it : IterationId) (sel : Selection) (rs : List Round) :
    runLogger it sel.argument rs = logRounds it sel.argument rs := by
  cases sel with
  | all => rfl
  | only features => rfl

variable (it : IterationId) (db : Database) (snaps : List Snapshot) {sel : Selection}

lemma runLogger_kept (hkept : kept sel.argument ≠ []) :
    Throughout Regular snaps ∧
        runLogger it sel.argument (snaps.map Snapshot.round) ⟨db, []⟩ =
          .ok () (Logger.after it sel.argument ⟨db, []⟩ (measurements snaps)) ∨
      ¬ Throughout Regular snaps ∧
        ∃ t, runLogger it sel.argument (snaps.map Snapshot.round) ⟨db, []⟩ = .error .undefined t := by
  rw [runLogger_eq]
  by_cases hregular : Throughout Regular snaps
  · exact Or.inl ⟨hregular, logRounds_ok rfl hkept hregular⟩
  · exact Or.inr ⟨hregular, logRounds_undefined rfl hkept hregular⟩

lemma forall₂_infoRow {features : Features} {ms : List Measurement}
    {R : Measurement → Row tcpConnInfoColumns → Prop} :
    List.Forall₂ R ms (ms.map (infoRow it features)) ↔ ∀ m ∈ ms, R m (infoRow it features m) := by
  rw [List.forall₂_map_right_iff, List.forall₂_same]

def someRun : IterationId := ⟨"qwertyuiop", rfl, by simp⟩

end Selections

end TransportConverter.Performance
