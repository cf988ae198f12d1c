import TransportConverter.Performance.Rounds

/-! What of the metrics comes to stand in `tcp_conn_info`. -/

namespace TransportConverter.Performance

open Foundations Foundations.Effects Foundations.Sql Wire

section Statements

def Selection.Selects : Selection → TcpiField → Prop
  | .all, f => f.key ∉ filterColumns
  | .only features, f => f.key ∉ filterColumns ∧ f.key ∈ features

structure Measures (it : IterationId) (sel : Selection) (m : Measurement) (row : Row tcpConnInfoColumns) :
    Prop where
  iterationId : row.at "iteration_id" = .text it.text
  subflowId : row.at "subflow_id" = .integer m.2
  values : ∀ f, sel.Selects f → row.at f.key = .integer (m.1.info.value f : ℕ)
  only : ∀ column ∈ tcpConnInfoColumns.drop 2, row.at column ≠ .null → ∃ f, sel.Selects f ∧ f.key = column

variable (it : IterationId) (sel : Selection) (db : Database) (snaps : List Snapshot)

def Stored : Prop :=
  ∃ t, runLogger it sel.argument (snaps.map Snapshot.round) ⟨db, []⟩ = .ok () t ∧
    ∃ rows, t.db.tcpConnInfo = db.tcpConnInfo ++ rows ∧
      List.Forall₂ (Measures it sel) (snaps.flatMap fun snap => snap.subflows.zipIdx) rows

/-- Something is left to store, addresses are found where they are asked for, and no value has its top bit
set. -/
structure Plain : Prop where
  selects : (∃ f, sel.Selects f) ∨ ∀ snap ∈ snaps, snap.subflows = []
  known : Throughout (fun pre snap => (∀ p ∈ pre, p.subflows.length < snap.subflows.length) →
    ∀ sub ∈ snap.subflows, sub.addrs.Known) snaps
  small : ∀ snap ∈ snaps, ∀ sub ∈ snap.subflows, ∀ f, sel.Selects f → (sub.info.value f : ℕ) < 2 ^ 63

end Statements

section Rows

variable {it : IterationId} {sel : Selection} {features : Features} {m : Measurement} {f : TcpiField}

lemma mem_kept_iff : f ∈ kept sel.argument ↔ sel.Selects f := by
  rw [mem_kept]
  cases sel with
  | all =>
    show (filterColumns.contains f.key || false) = false ↔ f.key ∉ filterColumns
    simp only [Bool.or_false, List.contains_eq_mem, decide_eq_false_iff_not]
  | only features =>
    show (filterColumns.contains f.key || !features.contains f.key) = false ↔
      f.key ∉ filterColumns ∧ f.key ∈ features
    simp only [Bool.or_eq_false_iff, List.contains_eq_mem, decide_eq_false_iff_not, Bool.not_eq_false',
      decide_eq_true_eq]

lemma kept_eq_nil_iff : kept sel.argument = [] ↔ ¬ ∃ f, sel.Selects f := by
  rw [List.eq_nil_iff_forall_not_mem, not_exists]
  exact forall_congr' fun f => not_congr mem_kept_iff

lemma lookup_keptItems (ti : TcpInfo) :
    (keptItems features ti).lookup f.key =
      if f ∈ kept features then some (pyLongFromLong (ti.value f)) else none := by
  have hkeys : (keptItems features ti).map Prod.fst = (kept features).map TcpiField.key := List.map_map
  split_ifs with hf
  · obtain ⟨value, hvalue, hmem⟩ := lookup_of_mem (hkeys ▸ List.mem_map_of_mem hf)
    obtain ⟨g, -, hg⟩ := List.mem_map.mp hmem
    obtain rfl : g = f := key_injective (congrArg Prod.fst hg)
    rw [hvalue]
    exact congrArg some (congrArg Prod.snd hg).symm
  · apply lookup_of_not_mem
    rw [hkeys]
    intro hmem
    obtain ⟨g, hg, hkey⟩ := List.mem_map.mp hmem
    exact hf (key_injective hkey ▸ hg)

lemma key_ne_ids (f : TcpiField) : f.key ≠ "iteration_id" ∧ f.key ≠ "subflow_id" := by
  cases f <;> decide

lemma infoRow_key (h : f.key ∈ tcpConnInfoColumns) :
    (infoRow it features m).at f.key =
      if f ∈ kept features then .integer (ssizeT (m.1.info.value f)) else .null := by
  obtain ⟨hiteration, hsubflow⟩ := key_ne_ids f
  have hlookup : (tcpConnInfoParams it.text m.2 (keptItems features m.1.info)).lookup f.key =
      (keptItems features m.1.info).lookup f.key := by
    rw [tcpConnInfoParams, List.cons_append, List.cons_append, List.nil_append, List.lookup_cons,
      beq_false_of_ne hiteration, List.lookup_cons, beq_false_of_ne hsubflow]
  rw [infoRow, tcpConnInfoRow, Row.at_of h, paramCell, hlookup, lookup_keptItems]
  split_ifs <;> rfl

lemma ssizeT_eq_iff {n : ℕ} (h : n < 2 ^ 64) : ssizeT n = n ↔ n < 2 ^ 63 := by
  unfold ssizeT
  split_ifs <;> omega

lemma selects_column (h : sel.Selects f) : f.key ∈ tcpConnInfoColumns := by
  have hfilter : dropped sel.argument f.key = false := mem_kept.mp (mem_kept_iff.mpr h)
  exact key_column (Bool.or_eq_false_iff.mp hfilter).1

lemma exists_field {column : String} (h : column ∈ tcpConnInfoColumns.drop 2) :
    ∃ f : TcpiField, f.key = column := by
  rw [← keys_columns] at h
  obtain ⟨f, -, hf⟩ := List.mem_map.mp h
  exact ⟨f, hf⟩

lemma measures_infoRow_iff :
    Measures it sel m (infoRow it sel.argument m) ↔
      ∀ f, sel.Selects f → (m.1.info.value f : ℕ) < 2 ^ 63 := by
  constructor
  · intro h f hf
    have hvalue := h.values f hf
    rw [infoRow_key (selects_column hf), if_pos (mem_kept_iff.mpr hf), Cell.integer.injEq] at hvalue
    exact (ssizeT_eq_iff (value_lt _ f)).mp hvalue
  · intro hsmall
    obtain ⟨hiteration, hsubflow⟩ := infoRow_ids it sel.argument m
    refine ⟨hiteration, hsubflow, fun f hf => ?_, fun column hcolumn hne => ?_⟩
    · rw [infoRow_key (selects_column hf), if_pos (mem_kept_iff.mpr hf),
        (ssizeT_eq_iff (value_lt _ f)).mpr (hsmall f hf)]
    · obtain ⟨f, rfl⟩ := exists_field hcolumn
      refine ⟨f, ?_, rfl⟩
      by_contra hf
      rw [infoRow_key (List.mem_of_mem_drop hcolumn), if_neg (mt mem_kept_iff.mp hf)] at hne
      exact hne rfl

end Rows

section Few

variable {snap : Snapshot} {pre snaps : List Snapshot}

lemma count_few (h : snap.subflows.length ≤ 2) : snap.count = snap.subflows.length := by
  rw [Snapshot.count_eq, if_pos (by omega)]

lemma measured_few (h : snap.subflows.length ≤ 2) : snap.measured = snap.subflows := by
  rw [Snapshot.measured, count_few h, List.take_length]

lemma measurements_few (h : ∀ snap ∈ snaps, snap.subflows.length ≤ 2) :
    measurements snaps = snaps.flatMap fun snap => snap.subflows.zipIdx := by
  refine List.flatMap_congr fun snap hsnap => ?_
  rw [Snapshot.measurements, measured_few (h snap hsnap)]

lemma regular_few (hpre : ∀ p ∈ pre, p.subflows.length ≤ 2) (h : snap.subflows.length ≤ 2) :
    Regular pre snap ↔
      ((∀ p ∈ pre, p.subflows.length < snap.subflows.length) → ∀ sub ∈ snap.subflows, sub.addrs.Known) := by
  have hknown : snap.Known ↔ ∀ sub ∈ snap.subflows, sub.addrs.Known := by rw [Snapshot.Known, measured_few h]
  have hnew : (∀ p ∈ pre, p.count < snap.count) ↔ ∀ p ∈ pre, p.subflows.length < snap.subflows.length := by
    rw [count_few h]
    exact forall₂_congr fun p hp => by rw [count_few (hpre p hp)]
  rw [← hknown, ← hnew]
  constructor
  · exact Regular.known
  · exact fun hround => ⟨by rwa [count_few h], hround⟩

lemma throughout_regular_few (h : ∀ snap ∈ snaps, snap.subflows.length ≤ 2) :
    Throughout Regular snaps ↔
      Throughout (fun pre snap => (∀ p ∈ pre, p.subflows.length < snap.subflows.length) →
        ∀ sub ∈ snap.subflows, sub.addrs.Known) snaps := by
  refine forall₃_congr fun pre snap post => forall_congr' fun heq => ?_
  rw [heq, List.forall_mem_append, List.forall_mem_cons] at h
  exact regular_few h.1 h.2.1

end Few

section Runs

variable {it : IterationId} {sel : Selection} {db : Database} {snaps : List Snapshot}

lemma stored_kept (h : ∀ snap ∈ snaps, snap.subflows.length ≤ 2) (hkept : kept sel.argument ≠ []) :
    Stored it sel db snaps ↔ Throughout Regular snaps ∧
      ∀ m ∈ measurements snaps, Measures it sel m (infoRow it sel.argument m) := by
  unfold Stored
  rw [← measurements_few h]
  rcases runLogger_kept it db snaps hkept with ⟨hregular, hends⟩ | ⟨hirregular, t, hundefined⟩
  · rw [hends]
    constructor
    · rintro ⟨t, hrun, rows, hrows, hmeasures⟩
      cases hrun
      rw [tcpConnInfo_after, List.append_cancel_left_eq] at hrows
      rw [← hrows, forall₂_infoRow] at hmeasures
      exact ⟨hregular, hmeasures⟩
    · rintro ⟨-, hmeasures⟩
      refine ⟨_, rfl, _, tcpConnInfo_after, ?_⟩
      rwa [forall₂_infoRow]
  · rw [hundefined]
    constructor
    · rintro ⟨t, hrun, -⟩
      cases hrun
    · exact fun h => absurd h.1 hirregular

lemma stored_empty (h : ∀ snap ∈ snaps, snap.subflows.length ≤ 2) (hkept : kept sel.argument = []) :
    Stored it sel db snaps ↔ ∀ snap ∈ snaps, snap.count = 0 := by
  unfold Stored
  rw [runLogger_eq, ← measurements_few h]
  constructor
  · rintro ⟨t, hrun, -⟩
    rcases first_subflow snaps with hidle | ⟨pre, snap, post, rfl, hpre, hpos⟩
    · exact hidle
    by_cases hregular : Regular [] snap
    · obtain ⟨t, hround, -⟩ : ∃ t, logRound it sel.argument snap.round ⟨db, []⟩ =
          .error (.raised .operationalError) t ∧ t.db.tcpConnInfo = db.tcpConnInfo :=
        logRound_empty hkept hregular.few hpos (hregular.known nofun)
      rw [logRounds_first hpre hround] at hrun
      cases hrun
    · rw [logRounds_first hpre (logRound_empty_undefined rfl hregular)] at hrun
      cases hrun
  · intro hidle
    have hnone : measurements snaps = [] := by
      rw [measurements, List.flatMap_eq_nil_iff]
      intro snap hsnap
      rw [Snapshot.measurements, Snapshot.measured, hidle snap hsnap]
      rfl
    exact ⟨⟨db, []⟩, logRounds_idle hidle, [], (List.append_nil _).symm, by rw [hnone]; exact .nil⟩

end Runs

section Results

lemma forall_measurements {snaps : List Snapshot} (h : ∀ snap ∈ snaps, snap.subflows.length ≤ 2)
    {P : Subflow → Prop} :
    (∀ m ∈ measurements snaps, P m.1) ↔ ∀ snap ∈ snaps, ∀ sub ∈ snap.subflows, P sub := by
  rw [measurements_few h]
  simp only [List.mem_flatMap, forall_exists_index, and_imp]
  constructor
  · intro hall snap hsnap sub hsub
    obtain ⟨i, hi⟩ := List.getElem?_of_mem hsub
    exact hall (sub, i) snap hsnap (List.mem_zipIdx_iff_getElem?.mpr hi)
  · intro hall m snap hsnap hm
    exact hall snap hsnap m.1 (List.mem_of_getElem? (List.mem_zipIdx_iff_getElem?.mp hm))

/-- The rows of a run hold what was measured exactly when it is plain. -/
theorem stored_iff (it : IterationId) (sel : Selection) (db : Database) (snaps : List Snapshot)
    (h : ∀ snap ∈ snaps, snap.subflows.length ≤ 2) : Stored it sel db snaps ↔ Plain sel snaps := by
  by_cases hkept : kept sel.argument = []
  · have hnothing := kept_eq_nil_iff.mp hkept
    have hempty : (∀ snap ∈ snaps, snap.count = 0) ↔ ∀ snap ∈ snaps, snap.subflows = [] := by
      refine forall₂_congr fun snap hsnap => ?_
      rw [count_few (h snap hsnap), List.length_eq_zero_iff]
    rw [stored_empty h hkept, hempty]
    constructor
    · intro hnone
      refine ⟨Or.inr hnone, fun pre snap post heq _ => ?_, ?_⟩
      · have hsnap : snap ∈ snaps := heq ▸ List.mem_append_right pre List.mem_cons_self
        rw [hnone snap hsnap]
        exact List.forall_mem_nil _
      · exact fun snap _ sub _ f hf => absurd ⟨f, hf⟩ hnothing
    · exact fun hplain => hplain.selects.resolve_left hnothing
  · have hselects : ∃ f, sel.Selects f := not_not.mp (mt kept_eq_nil_iff.mpr hkept)
    have hsmall : (∀ m ∈ measurements snaps, Measures it sel m (infoRow it sel.argument m)) ↔
        ∀ snap ∈ snaps, ∀ sub ∈ snap.subflows, ∀ f, sel.Selects f → (sub.info.value f : ℕ) < 2 ^ 63 := by
      rw [← forall_measurements h]
      exact forall₂_congr fun m _ => measures_infoRow_iff
    rw [stored_kept h hkept, throughout_regular_few h, hsmall]
    constructor
    · rintro ⟨hknown, hvalues⟩
      exact ⟨Or.inl hselects, hknown, hvalues⟩
    · exact fun hplain => ⟨hplain.known, hplain.small⟩

def cableOnly (info : TcpInfo) : Snapshot := ⟨[⟨cablePath, info⟩], Nat.one_lt_two_pow (by decide)⟩

lemma cableOnly_few (info : TcpInfo) : ∀ snap ∈ [cableOnly info], snap.subflows.length ≤ 2 := by
  rintro snap hsnap
  rw [List.mem_singleton.mp hsnap]
  exact Nat.le_succ 1

def TcpInfo.level (n : ℕ) : TcpInfo := ⟨fun f => ⟨n % 2 ^ f.bits, Nat.mod_lt n (Nat.two_pow_pos _)⟩⟩

def cableAndPhone (n m : ℕ) : Snapshot :=
  ⟨[⟨cablePath, .level n⟩, ⟨phonePath, .level m⟩], (by decide : 2 < 2 ^ 32)⟩

def threeRounds : List Snapshot := [cableAndPhone 10 5, cableAndPhone 20 7, cableOnly (.level 30)]

lemma threeRounds_few : ∀ snap ∈ threeRounds, snap.subflows.length ≤ 2 := by
  simp [threeRounds, cableAndPhone, cableOnly]

lemma threeRounds_known : ∀ snap ∈ threeRounds, ∀ sub ∈ snap.subflows, sub.addrs.Known := by
  simp only [threeRounds, cableAndPhone, cableOnly, List.forall_mem_cons]
  decide

lemma threeRounds_level : ∀ snap ∈ threeRounds, ∀ sub ∈ snap.subflows, ∃ n < 2 ^ 63, sub.info = .level n := by
  simp only [threeRounds, cableAndPhone, cableOnly, List.forall_mem_cons]
  exact ⟨⟨⟨10, by decide, rfl⟩, ⟨5, by decide, rfl⟩, List.forall_mem_nil _⟩,
    ⟨⟨20, by decide, rfl⟩, ⟨7, by decide, rfl⟩, List.forall_mem_nil _⟩,
    ⟨⟨30, by decide, rfl⟩, List.forall_mem_nil _⟩, List.forall_mem_nil _⟩

theorem stored_threeRounds : Stored someRun .all ⟨[], []⟩ threeRounds := by
  apply (stored_iff someRun .all ⟨[], []⟩ threeRounds threeRounds_few).mpr
  have hselects : Selection.all.Selects .rtt := by
    show TcpiField.key .rtt ∉ filterColumns
    decide
  refine ⟨Or.inl ⟨_, hselects⟩, fun pre snap post heq _ => ?_, fun snap hsnap sub hsub f _ => ?_⟩
  · exact threeRounds_known snap (heq ▸ List.mem_append_right pre List.mem_cons_self)
  · obtain ⟨n, hn, hinfo⟩ := threeRounds_level snap hsnap sub hsub
    rw [hinfo]
    exact (Nat.mod_le n _).trans_lt hn

def unlimited : TcpInfo where
  value f := if f = .maxPacingRate then ⟨2 ^ f.bits - 1, Nat.sub_one_lt (Nat.two_pow_pos _).ne'⟩
    else TcpInfo.zero.value f

/-- A rate without a limit is stored as `-1`, and a list with nothing but `"all"` ends the run. -/
theorem unlimited_not_stored :
    (infoRow someRun Selection.all.argument (⟨cablePath, unlimited⟩, 0)).at "tcpi_max_pacing_rate" =
        .integer (-1) ∧
      ¬ Stored someRun .all ⟨[], []⟩ [cableOnly unlimited] ∧
      ¬ Stored someRun (.only ["all"]) ⟨[], []⟩ [cableOnly .zero] := by
  have hselects : Selection.all.Selects .maxPacingRate := by
    show TcpiField.key .maxPacingRate ∉ filterColumns
    decide
  refine ⟨?_, ?_, ?_⟩
  · have hrow : (infoRow someRun Selection.all.argument (⟨cablePath, unlimited⟩, 0)).at
        (TcpiField.key .maxPacingRate) = _ := infoRow_key (selects_column hselects)
    rw [if_pos (mem_kept_iff.mpr hselects)] at hrow
    exact hrow
  · intro h
    have hkept : kept Selection.all.argument ≠ [] := fun hnil => kept_eq_nil_iff.mp hnil ⟨_, hselects⟩
    have hmeasures := ((stored_kept (cableOnly_few _) hkept).mp h).2
    have hm : (⟨⟨cablePath, unlimited⟩, 0⟩ : Measurement) ∈ measurements [cableOnly unlimited] := by
      rw [measurements_few (cableOnly_few _)]
      exact List.mem_singleton.mpr rfl
    have hpacing := measures_infoRow_iff.mp (hmeasures _ hm) .maxPacingRate hselects
    exact absurd hpacing (by decide)
  · intro h
    have hkept : kept (Selection.only ["all"]).argument = [] := by
      apply kept_eq_nil_iff.mpr
      rintro ⟨f, -, hf⟩
      have hne : f.key ≠ "all" := by cases f <;> decide
      exact hne (List.mem_singleton.mp hf)
    have hcount := (stored_empty (cableOnly_few _) hkept).mp h _ (List.mem_singleton.mpr rfl)
    exact absurd hcount (by decide)

end Results

end TransportConverter.Performance
