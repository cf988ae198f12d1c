import TransportConverter.Performance.Interleaving
import TransportConverter.Performance.Plots

/-! `webui.py`: what the page of an iteration is made of. -/

namespace TransportConverter.Performance

open Foundations Foundations.Effects Foundations.Fallible Foundations.Memory Foundations.Refinement
  Foundations.Sql Wire

section Page

def ofSql {α : Type} : Except SqlError α → Except PageError α
  | .ok a => .ok a
  | .error e => .error (.raised (errorOf e))

def atIndex (row : List Cell) (i : ℕ) : Except PageError Cell :=
  match row[i]? with
  | some cell => .ok cell
  | none => .error (.raised .indexError)

def features : List String := ["tcpi_rtt", "tcpi_bytes_sent"]

def pageFeatures : List String := features ++ ["tcpi_bytes_acked"]

def appendRow (series : Series) (row : List Cell) : Except PageError Series :=
  pageFeatures.zipIdx.foldlM (fun series (feature, i) => do
    let values ← itemOf series feature
    let cell ← atIndex row i
    return setItem series feature (values ++ [cell])) series

variable (engine : Engine) (db : Database) (iterationId : Cell)

def subflowSeries (sid : Cell) : Except PageError Series := do
  let tcpi ← ofSql (db.readSubflowTcpConnInfo engine iterationId sid pageFeatures)
  tcpi.foldlM appendRow (pageFeatures.map fun feature => (feature, []))

def pageData : Except PageError SubflowData := do
  let subflows ← ofSql (db.readAllSubflows engine iterationId)
  subflows.foldlM (fun data subflow => do
    let sid ← atIndex subflow 1
    let series ← subflowSeries engine db iterationId sid
    return setItem data sid series) []

def page : Except PageError (List (String × Figure)) := do
  let data ← pageData engine db iterationId
  let figs ← plotSubflowFeatures data false [] none
  let transfer ← plotTransfer data []
  return setItem figs "transfer" transfer

end Page

section Readings

def storedCell (sel : Selection) (info : TcpInfo) (f : TcpiField) : Cell :=
  if f ∈ kept sel.argument then .integer (ssizeT (info.value f)) else .null

def readings (sel : Selection) (snaps : List Snapshot) (i : ℕ) (f : TcpiField) : List Cell :=
  snaps.filterMap fun snap => snap.measured[i]?.map fun sub => storedCell sel sub.info f

variable {sel : Selection} {snaps : List Snapshot} {i : ℕ} {f : TcpiField} {it : IterationId}

lemma filter_zipIdx {α : Type} (xs : List α) (k : ℕ) :
    (xs.zipIdx k).filter (·.2 = k + i) = (xs[i]?.map fun x => (x, k + i)).toList := by
  induction xs generalizing i k with
  | nil => rfl
  | cons x xs ih =>
    cases i with
    | zero =>
      have hrest : (xs.zipIdx (k + 1)).filter (·.2 = k) = [] := by
        rw [List.filter_eq_nil_iff]
        intro y hy
        have hle := List.le_snd_of_mem_zipIdx hy
        simp only [decide_eq_true_eq]
        omega
      rw [List.zipIdx_cons, List.filter_cons, if_pos (by simp), Nat.add_zero, hrest]
      rfl
    | succ i =>
      have hih := ih (i := i) (k + 1)
      rw [List.zipIdx_cons, List.filter_cons, if_neg (by simp), List.getElem?_cons_succ]
      rwa [Nat.add_right_comm, Nat.add_assoc] at hih

lemma readings_eq :
    ((measurements snaps).filter (·.2 = i)).map (fun m => storedCell sel m.1.info f) =
      readings sel snaps i f := by
  induction snaps with
  | nil => rfl
  | cons snap snaps ih =>
    have hplace := filter_zipIdx (i := i) snap.measured 0
    rw [Nat.zero_add] at hplace
    rw [measurements, List.flatMap_cons, List.filter_append, List.map_append, ← measurements, ih,
      Snapshot.measurements, hplace]
    simp only [readings, List.filterMap_cons]
    cases snap.measured[i]? with
    | none => rfl
    | some sub => rfl

end Readings

lemma filter_and {α : Type} (p q : α → Prop) [DecidablePred p] [DecidablePred q] (xs : List α) :
    xs.filter (fun x => p x ∧ q x) = (xs.filter p).filter q := by
  rw [List.filter_filter]
  refine List.filter_congr fun x _ => ?_
  rw [Bool.decide_and, Bool.and_comm]

section Fetched

variable {engine : Engine} {db : Database} {it : IterationId} {sel : Selection} {snaps : List Snapshot}
  {i : ℕ} {f : TcpiField}

/-- The rows of a run are those that a run of its own leaves in empty tables. -/
def Own (it : IterationId) (sel : Selection) (snaps : List Snapshot) (db : Database) : Prop :=
  db.restrict it.text = (Logger.after it sel.argument ⟨.empty, []⟩ (measurements snaps)).db

lemma Own.tcpConnInfo (h : Own it sel snaps db) :
    db.tcpConnInfo.filter (fun row => row.at "iteration_id" = .text it.text) =
      (measurements snaps).map (infoRow it sel.argument) :=
  (congrArg Database.tcpConnInfo h).trans tcpConnInfo_after

lemma Own.at_place (h : Own it sel snaps db) :
    db.tcpConnInfo.filter
        (fun row => row.at "iteration_id" = .text it.text ∧ row.at "subflow_id" = .integer i) =
      ((measurements snaps).filter (·.2 = i)).map (infoRow it sel.argument) := by
  have hids : ∀ m : Measurement, (infoRow it sel.argument m).at "subflow_id" = .integer i ↔ m.2 = i := by
    intro m
    rw [(infoRow_ids it sel.argument m).2, Cell.integer.injEq, Nat.cast_inj]
  rw [filter_and, h.tcpConnInfo, List.filter_map]
  simp only [Function.comp_def, hids]

lemma infoRow_cell (hf : f.key ∈ tcpConnInfoColumns) {m : Measurement} :
    (infoRow it sel.argument m).at f.key = storedCell sel m.1.info f := infoRow_key hf

def plotted : List TcpiField := [.rtt, .bytesSent, .bytesAcked]

lemma pageFeatures_eq : pageFeatures = plotted.map TcpiField.key := rfl

lemma plotted_column (hf : f ∈ plotted) : f.key ∈ tcpConnInfoColumns := by
  apply key_column
  simp only [plotted, List.mem_cons, List.not_mem_nil, or_false] at hf
  rcases hf with rfl | rfl | rfl <;> decide

lemma appendRow_eq {a b c : List Cell} {x y z : Cell} :
    appendRow [("tcpi_rtt", a), ("tcpi_bytes_sent", b), ("tcpi_bytes_acked", c)] [x, y, z] =
      .ok [("tcpi_rtt", a ++ [x]), ("tcpi_bytes_sent", b ++ [y]), ("tcpi_bytes_acked", c ++ [z])] := by
  simp [appendRow, pageFeatures, features, itemOf, atIndex, setItem, List.zipIdx, List.lookup, bind,
    Except.bind, pure, Except.pure]

lemma foldlM_appendRow {rows : List (Row tcpConnInfoColumns)} {a b c : List Cell} :
    (rows.map fun row => pageFeatures.map row.at).foldlM appendRow
        [("tcpi_rtt", a), ("tcpi_bytes_sent", b), ("tcpi_bytes_acked", c)] =
      .ok [("tcpi_rtt", a ++ rows.map (·.at "tcpi_rtt")),
        ("tcpi_bytes_sent", b ++ rows.map (·.at "tcpi_bytes_sent")),
        ("tcpi_bytes_acked", c ++ rows.map (·.at "tcpi_bytes_acked"))] := by
  induction rows generalizing a b c with
  | nil => simp [pure, Except.pure]
  | cons row rows ih =>
    have hrow : pageFeatures.map row.at =
        [row.at "tcpi_rtt", row.at "tcpi_bytes_sent", row.at "tcpi_bytes_acked"] := rfl
    rw [List.map_cons, List.foldlM_cons, hrow, appendRow_eq]
    show List.foldlM _ _ _ = _
    rw [ih]
    simp

def seriesOf (sel : Selection) (snaps : List Snapshot) (i : ℕ) : Series :=
  plotted.map fun f => (f.key, readings sel snaps i f)

lemma Own.read {fields : List TcpiField} (engine : Engine) (h : Own it sel snaps db) (i : ℕ)
    (hcolumns : ∀ f ∈ fields, f.key ∈ tcpConnInfoColumns) (hne : fields ≠ []) :
    db.readSubflowTcpConnInfo engine (.text it.text) (.integer i) (fields.map TcpiField.key) =
      .ok ((((measurements snaps).filter (·.2 = i)).map (infoRow it sel.argument)).map fun row =>
        (fields.map TcpiField.key).map row.at) := by
  have hnames : ∀ name ∈ fields.map TcpiField.key, IsName name :=
    List.forall_mem_map.mpr fun f _ => key_name f
  have hknown : ∀ name ∈ fields.map TcpiField.key, name ∈ tcpConnInfoColumns :=
    List.forall_mem_map.mpr hcolumns
  have hrows : ∀ row ∈ db.tcpConnInfo, row.at "iteration_id" = .text it.text →
      ∃ k : ℕ, row.at "subflow_id" = .integer k := by
    intro row hrow howner
    have hmem : row ∈ db.tcpConnInfo.filter (fun row => row.at "iteration_id" = .text it.text) :=
      List.mem_filter.mpr ⟨hrow, decide_eq_true howner⟩
    rw [h.tcpConnInfo] at hmem
    obtain ⟨m, -, rfl⟩ := List.mem_map.mp hmem
    exact ⟨m.2, (infoRow_ids it sel.argument m).2⟩
  rw [readSubflowTcpConnInfo_eq it.stored hnames hknown (List.map_eq_nil_iff.not.mpr hne) hrows, h.at_place]

lemma readings_rows (hf : f.key ∈ tcpConnInfoColumns) :
    (((measurements snaps).filter (·.2 = i)).map (infoRow it sel.argument)).map (·.at f.key) =
      readings sel snaps i f := by
  rw [← readings_eq, List.map_map]
  exact List.map_congr_left fun m _ => infoRow_cell hf

lemma subflowSeries_eq (h : Own it sel snaps db) :
    subflowSeries engine db (.text it.text) (.integer i) = .ok (seriesOf sel snaps i) := by
  let rows := ((measurements snaps).filter (·.2 = i)).map (infoRow it sel.argument)
  have hread : db.readSubflowTcpConnInfo engine (.text it.text) (.integer i) (plotted.map TcpiField.key) =
      .ok (rows.map fun row => (plotted.map TcpiField.key).map row.at) :=
    h.read engine i (fun _ => plotted_column) (by decide)
  rw [← pageFeatures_eq] at hread
  have hseries : ∀ f ∈ plotted, rows.map (·.at f.key) = readings sel snaps i f :=
    fun f hf => readings_rows (plotted_column hf)
  have hrtt : rows.map (·.at "tcpi_rtt") = readings sel snaps i .rtt := hseries .rtt (by decide)
  have hsent : rows.map (·.at "tcpi_bytes_sent") = readings sel snaps i .bytesSent :=
    hseries .bytesSent (by decide)
  have hacked : rows.map (·.at "tcpi_bytes_acked") = readings sel snaps i .bytesAcked :=
    hseries .bytesAcked (by decide)
  have hfold := @foldlM_appendRow rows [] [] []
  rw [hrtt, hsent, hacked] at hfold
  rw [subflowSeries, hread]
  exact hfold

end Fetched

section Data

variable {engine : Engine} {db : Database} {it : IterationId} {sel : Selection} {snaps : List Snapshot}
  {i : ℕ}

structure Places (snaps : List Snapshot) (places : List ℕ) : Prop where
  nodup : places.Nodup
  mem : ∀ i, i ∈ places ↔ ∃ snap ∈ snaps, i < snap.count

lemma exists_measured : (∃ m ∈ measurements snaps, m.2 = i) ↔ ∃ snap ∈ snaps, i < snap.count := by
  simp only [measurements, List.mem_flatMap]
  constructor
  · rintro ⟨m, ⟨snap, hsnap, hm⟩, rfl⟩
    exact ⟨snap, hsnap, Snapshot.place_lt hm⟩
  · rintro ⟨snap, hsnap, hi⟩
    obtain ⟨m, hm, hplace⟩ := Snapshot.exists_place hi
    exact ⟨m, ⟨snap, hsnap, hm⟩, hplace⟩

def fetchedRows (engine : Engine) (db : Database) (it : IterationId) : List (Row subflowsColumns) :=
  (engine.subflows.visit db.subflows).filter fun row => row.at "iteration_id" = .text it.text

lemma Own.subflows (h : Own it sel snaps db) :
    db.subflows.filter (fun row => row.at "iteration_id" = .text it.text) =
      (Logger.after it sel.argument ⟨.empty, []⟩ (measurements snaps)).db.subflows :=
  congrArg Database.subflows h

lemma Own.fetched_place (h : Own it sel snaps db) :
    ∀ row ∈ fetchedRows engine db it, ∃ i : ℕ, row.at "subflow_id" = .integer i := by
  intro row hrow
  obtain ⟨hvisit, howner⟩ := List.mem_filter.mp hrow
  have hmem : row ∈ db.subflows.filter (fun row => row.at "iteration_id" = .text it.text) :=
    List.mem_filter.mpr ⟨Scan.mem_visit.mp hvisit, howner⟩
  obtain ⟨added, hadded, hrows⟩ := subflows_after it sel.argument ⟨.empty, []⟩ (measurements snaps)
  rw [h.subflows, hadded] at hmem
  obtain ⟨m, rfl⟩ := hrows row hmem
  exact ⟨m.2, (addrRow_ids it m).2⟩

lemma Own.subflows_at (h : Own it sel snaps db) (i : ℕ) :
    db.subflows.filter (fun row => row.at "iteration_id" = .text it.text ∧ row.at "subflow_id" = .integer i) =
      (((measurements snaps).find? (·.2 = i)).map (addrRow it)).toList := by
  let after := (Logger.after it sel.argument ⟨.empty, []⟩ (measurements snaps)).db
  have hafter : Database.atPlace it i after = (((measurements snaps).find? (·.2 = i)).map (addrRow it)).toList :=
    atPlace_after
  have hown : db.subflows.filter (fun row => row.at "iteration_id" = .text it.text) = after.subflows := h.subflows
  have hidem : after.subflows.filter (fun row => row.at "iteration_id" = .text it.text) = after.subflows := by
    rw [← hown, List.filter_filter]
    simp only [Bool.and_self]
  rw [← hafter, Database.atPlace, filter_and, filter_and, hown, hidem]

lemma Own.fetched_at (h : Own it sel snaps db) (i : ℕ) :
    (fetchedRows engine db it).filter (fun row => row.at "subflow_id" = .integer i) =
      (((measurements snaps).find? (·.2 = i)).map (addrRow it)).toList := by
  let key : String → Cell := fun c => if c = "iteration_id" then .text it.text else .integer i
  have hstable := engine.subflows.stable db.subflows key
  have hkey : ∀ row : Row subflowsColumns, (∀ c ∈ indexColumns, row.at c = key c) ↔
      row.at "iteration_id" = .text it.text ∧ row.at "subflow_id" = .integer i := by
    intro row
    simp [indexColumns, key]
  simp only [hkey] at hstable
  rw [fetchedRows, ← filter_and, hstable, h.subflows_at]

lemma map_integers {rows : List (Row subflowsColumns)} {name : String}
    (h : ∀ row ∈ rows, ∃ i : ℕ, row.at name = .integer i) :
    ∃ places : List ℕ, rows.map (·.at name) = places.map fun i => .integer i := by
  induction rows with
  | nil => exact ⟨[], rfl⟩
  | cons row rows ih =>
    obtain ⟨i, hi⟩ := h row List.mem_cons_self
    obtain ⟨places, hplaces⟩ := ih fun row' hrow' => h row' (List.mem_cons_of_mem _ hrow')
    exact ⟨i :: places, by rw [List.map_cons, hi, hplaces, List.map_cons]⟩

lemma Own.places (engine : Engine) (h : Own it sel snaps db) :
    ∃ places, Places snaps places ∧
      (fetchedRows engine db it).map (·.at "subflow_id") = places.map fun i => .integer i := by
  obtain ⟨places, hplaces⟩ := map_integers h.fetched_place
  have hcount : ∀ i, places.count i = ((measurements snaps).find? (·.2 = i)).toList.length := by
    intro i
    have hinjective : Function.Injective fun i : ℕ => Cell.integer i := fun a b hab => by simpa using hab
    have hat : (fetchedRows engine db it).countP (fun row => row.at "subflow_id" = .integer i) =
        ((measurements snaps).find? (·.2 = i)).toList.length := by
      rw [List.countP_eq_length_filter, h.fetched_at]
      cases (measurements snaps).find? (·.2 = i) <;> rfl
    rw [← hat, ← List.count_map_of_injective places _ hinjective, ← hplaces, List.count, List.countP_map]
    refine List.countP_congr fun row _ => ?_
    simp
  refine ⟨places, ⟨?_, fun i => ?_⟩, hplaces⟩
  · rw [List.nodup_iff_count_le_one]
    intro i
    rw [hcount]
    cases (measurements snaps).find? (·.2 = i) with
    | none => exact Nat.zero_le 1
    | some m => exact le_rfl
  · rw [← exists_measured, ← List.count_pos_iff, hcount]
    cases hfind : (measurements snaps).find? (·.2 = i) with
    | none =>
      constructor
      · exact fun h => absurd h (lt_irrefl 0)
      · rintro ⟨m, hm, hi⟩
        exact absurd hi (by simpa using List.find?_eq_none.mp hfind m hm)
    | some m =>
      have hi : m.2 = i := by simpa using List.find?_some hfind
      exact ⟨fun _ => ⟨m, List.mem_of_find?_eq_some hfind, hi⟩, fun _ => Nat.one_pos⟩

lemma atIndex_subflowId (row : Row subflowsColumns) : atIndex row.cells 1 = .ok (row.at "subflow_id") := by
  obtain ⟨cells, hwidth⟩ := row
  obtain ⟨a, b, c, d, rfl⟩ : ∃ a b c d, cells = [a, b, c, d] := List.length_eq_four.mp hwidth
  rfl

lemma foldlM_setItem {α κ ν : Type} [DecidableEq κ] {step : List (κ × ν) → α → Except PageError (List (κ × ν))}
    {xs : List α} {key : α → κ} {value : α → ν} {d : List (κ × ν)}
    (hstep : ∀ d, ∀ x ∈ xs, step d x = .ok (setItem d (key x) (value x))) (hnodup : (xs.map key).Nodup)
    (hnew : ∀ x ∈ xs, key x ∉ d.map Prod.fst) :
    xs.foldlM step d = .ok (d ++ xs.map fun x => (key x, value x)) := by
  induction xs generalizing d with
  | nil => rw [List.map_nil, List.append_nil]; rfl
  | cons x xs ih =>
    rw [List.map_cons, List.nodup_cons] at hnodup
    have hfirst : step d x = .ok (d ++ [(key x, value x)]) := by
      rw [hstep d x List.mem_cons_self, setItem_new (hnew x List.mem_cons_self)]
    rw [List.foldlM_cons, hfirst]
    show List.foldlM step _ xs = _
    rw [ih (fun d y hy => hstep d y (List.mem_cons_of_mem _ hy)) hnodup.2]
    · rw [List.map_cons, List.append_assoc]
      rfl
    · intro y hy hmem
      rw [List.map_append, List.mem_append] at hmem
      rcases hmem with hmem | hmem
      · exact hnew y (List.mem_cons_of_mem _ hy) hmem
      · apply hnodup.1
        have hsame : key y = key x := by simpa using hmem
        rw [← hsame]
        exact List.mem_map_of_mem hy

def placeOf : Cell → ℕ
  | .integer n => n.toNat
  | _ => 0

lemma Own.foldlM_places {read : Cell → Except PageError Series} {value : ℕ → Series} {places : List ℕ}
    (h : Own it sel snaps db) (hplaces : Places snaps places)
    (hids : (fetchedRows engine db it).map (·.at "subflow_id") = places.map fun i => .integer i)
    (hread : ∀ i : ℕ, read (.integer i) = .ok (value i)) :
    ((fetchedRows engine db it).map Row.cells).foldlM (fun data subflow => do
        let sid ← atIndex subflow 1
        let series ← read sid
        return setItem data sid series) [] =
      .ok (places.map fun i : ℕ => (.integer i, value i)) := by
  have hstep : ∀ (d : SubflowData), ∀ row ∈ fetchedRows engine db it,
      (do
        let sid ← atIndex row.cells 1
        let series ← read sid
        return setItem d sid series) =
      Except.ok (setItem d (row.at "subflow_id") (value (placeOf (row.at "subflow_id")))) := by
    intro d row hrow
    obtain ⟨i, hi⟩ := h.fetched_place row hrow
    rw [atIndex_subflowId, hi, ok_bind, hread, ok_bind]
    rfl
  have hnodup : ((fetchedRows engine db it).map (·.at "subflow_id")).Nodup := by
    rw [hids]
    exact hplaces.nodup.map fun a b hab => by simpa using hab
  have hnew : ∀ row ∈ fetchedRows engine db it,
      row.at "subflow_id" ∉ ([] : SubflowData).map Prod.fst := fun row _ => List.not_mem_nil
  have hfold := foldlM_setItem hstep hnodup hnew
  have hpairs : (fetchedRows engine db it).map (fun row =>
      (row.at "subflow_id", value (placeOf (row.at "subflow_id")))) =
      places.map fun i : ℕ => (.integer i, value i) := by
    have hmap := congrArg (List.map fun sid => (sid, value (placeOf sid))) hids
    rw [List.map_map, List.map_map] at hmap
    exact hmap
  rw [List.foldlM_map, hfold, List.nil_append, hpairs]

lemma fetched_eq (engine : Engine) (it : IterationId) (db : Database) :
    db.readAllSubflows engine (.text it.text) = .ok ((fetchedRows engine db it).map Row.cells) :=
  readAllSubflows_eq it.stored

lemma Own.pageData {places : List ℕ} (h : Own it sel snaps db) (hplaces : Places snaps places)
    (hids : (fetchedRows engine db it).map (·.at "subflow_id") = places.map fun i => .integer i) :
    Performance.pageData engine db (.text it.text) =
      .ok (places.map fun i : ℕ => (.integer i, seriesOf sel snaps i)) := by
  rw [Performance.pageData, fetched_eq, ofSql, ok_bind]
  exact h.foldlM_places hplaces hids fun _ => subflowSeries_eq h

end Data

section Figures

variable {engine : Engine} {db : Database} {it : IterationId} {sel : Selection} {snaps : List Snapshot}
  {places : List ℕ} {i : ℕ} {f : TcpiField}

def busy (snaps : List Snapshot) : List Snapshot := snaps.filter fun snap => 0 < snap.count

def counters (snaps : List Snapshot) (i : ℕ) (f : TcpiField) : List ℤ :=
  snaps.filterMap fun snap => snap.measured[i]?.map fun sub => ssizeT (sub.info.value f)

def dataOf (sel : Selection) (snaps : List Snapshot) (places : List ℕ) : SubflowData :=
  places.map fun i : ℕ => (.integer i, seriesOf sel snaps i)

def featureFigures (sel : Selection) (snaps : List Snapshot) (places : List ℕ) : List (String × Figure) :=
  plotted.map fun f =>
    (f.key, ⟨places.map fun i => pad (.integer 0) (busy snaps).length (readings sel snaps i f),
      places.map fun i : ℕ => .integer i⟩)

def transferFigure (snaps : List Snapshot) (places : List ℕ) : Figure where
  lines := places.map fun i => (differences (counters snaps i .bytesAcked)).map .integer
  legend := places.map fun i : ℕ => .integer i

def pageFigures (sel : Selection) (snaps : List Snapshot) (places : List ℕ) : List (String × Figure) :=
  featureFigures sel snaps places ++ [("transfer", transferFigure snaps places)]

lemma readings_length : (readings sel snaps i f).length = (snaps.filter fun snap => i < snap.count).length := by
  induction snaps with
  | nil => rfl
  | cons snap snaps ih =>
    rw [readings] at ih ⊢
    rw [List.filterMap_cons, List.filter_cons]
    by_cases hi : i < snap.count
    · rw [List.getElem?_eq_getElem (Snapshot.measured_length.symm ▸ hi), if_pos (decide_eq_true hi),
        List.length_cons, ← ih]
      rfl
    · rw [List.getElem?_eq_none (Snapshot.measured_length.symm ▸ not_lt.mp hi), if_neg (by simpa using hi), ← ih]
      rfl

lemma readings_length_le : (readings sel snaps i f).length ≤ (busy snaps).length := by
  rw [readings_length]
  refine (List.monotone_filter_right snaps fun snap hi => ?_).length_le
  simp only [decide_eq_true_eq] at hi ⊢
  omega

lemma zero_mem (hplaces : Places snaps places) (hne : places ≠ []) : 0 ∈ places := by
  obtain ⟨i, hi⟩ := List.exists_mem_of_ne_nil _ hne
  obtain ⟨snap, hsnap, hlt⟩ := (hplaces.mem i).mp hi
  exact (hplaces.mem 0).mpr ⟨snap, hsnap, by omega⟩

lemma longest (hplaces : Places snaps places) (hne : places ≠ []) :
    pyMax ((places.map fun i => readings sel snaps i f).map List.length) = .ok (busy snaps).length := by
  apply pyMax_eq
  · rw [List.map_map, List.mem_map]
    exact ⟨0, zero_mem hplaces hne, readings_length⟩
  · simp only [List.map_map, List.mem_map]
    rintro _ ⟨i, -, rfl⟩
    exact readings_length_le

lemma itemOf_seriesOf (hf : f ∈ plotted) : itemOf (seriesOf sel snaps i) f.key = .ok (readings sel snaps i f) := by
  simp only [plotted, List.mem_cons, List.not_mem_nil, or_false] at hf
  rcases hf with rfl | rfl | rfl <;> rfl

lemma items_dataOf (hf : f ∈ plotted) :
    (dataOf sel snaps places).mapM (fun item => itemOf item.2 f.key) =
      .ok (places.map fun i => readings sel snaps i f) := by
  rw [dataOf, List.mapM_map]
  exact mapM_ok fun i _ => itemOf_seriesOf hf

lemma legend_dataOf : legendOf (dataOf sel snaps places) [] = places.map fun i : ℕ => .integer i := by
  rw [legendOf, dataOf, List.map_map]
  rfl

lemma plotFeature_eq (hplaces : Places snaps places) (hne : places ≠ []) (hf : f ∈ plotted) :
    plotFeature (dataOf sel snaps places) false [] f.key =
      .ok ⟨places.map fun i => pad (.integer 0) (busy snaps).length (readings sel snaps i f),
        places.map fun i : ℕ => .integer i⟩ := by
  rw [plotFeature, items_dataOf hf, ok_bind, longest hplaces hne, ok_bind, if_neg (by decide), legend_dataOf,
    List.map_map]
  rfl

lemma plotSubflowFeatures_eq (hplaces : Places snaps places) (hne : places ≠ []) :
    plotSubflowFeatures (dataOf sel snaps places) false [] none = .ok (featureFigures sel snaps places) := by
  have hfirst : firstFeatures (dataOf sel snaps places) = .ok (plotted.map TcpiField.key) := by
    cases places with
    | nil => exact absurd rfl hne
    | cons i places => rfl
  have hkeys : (plotted.map TcpiField.key).Nodup := by decide
  have hstep : ∀ (figs : List (String × Figure)), ∀ f ∈ plotted,
      (do
        let fig ← plotFeature (dataOf sel snaps places) false [] f.key
        return setItem figs f.key fig) =
      Except.ok (setItem figs f.key ⟨places.map fun i =>
        pad (.integer 0) (busy snaps).length (readings sel snaps i f), places.map fun i : ℕ => .integer i⟩) := by
    intro figs f hf
    rw [plotFeature_eq hplaces hne hf, ok_bind]
    rfl
  have hnew : ∀ f ∈ plotted, f.key ∉ ([] : List (String × Figure)).map Prod.fst :=
    fun f _ => List.not_mem_nil
  have hfold := foldlM_setItem hstep hkeys hnew
  simp only [plotSubflowFeatures]
  rw [hfirst, ok_bind, List.foldlM_map, hfold, List.nil_append]
  rfl

lemma readings_selected (h : sel.Selects f) : readings sel snaps i f = (counters snaps i f).map .integer := by
  simp only [readings, counters, List.map_filterMap, Option.map_map]
  refine List.filterMap_congr fun snap _ => congrArg (fun g => Option.map g snap.measured[i]?) (funext fun sub => ?_)
  exact if_pos (mem_kept_iff.mpr h)

lemma counters_length : (counters snaps i f).length = (readings .all snaps i f).length := by
  simp only [counters, readings, List.length_filterMap_eq_countP, Option.isSome_map]

lemma readings_unselected (h : ¬ sel.Selects f) : ∀ v ∈ readings sel snaps i f, v = .null := by
  intro v hv
  obtain ⟨snap, -, hsnap⟩ := List.mem_filterMap.mp hv
  obtain ⟨sub, -, rfl⟩ := Option.map_eq_some_iff.mp hsnap
  exact if_neg (mt mem_kept_iff.mp h)

lemma plotTransfer_items {data : SubflowData} {keys : List Cell} (hplaces : Places snaps places)
    (hne : places ≠ [])
    (hitems : data.mapM (fun item => itemOf item.2 "tcpi_bytes_acked") =
      .ok (places.map fun i => readings sel snaps i .bytesAcked)) :
    plotTransfer data keys = (do
      let lines ← (places.map fun i => readings sel snaps i .bytesAcked).mapM calculateThroughput
      return ⟨lines, legendOf data keys⟩) := by
  rw [plotTransfer, hitems, ok_bind, longest hplaces hne, ok_bind]

lemma acked_dataOf :
    (dataOf sel snaps places).mapM (fun item => itemOf item.2 "tcpi_bytes_acked") =
      .ok (places.map fun i => readings sel snaps i .bytesAcked) := items_dataOf (f := .bytesAcked) (by decide)

lemma throughput_readings (h : sel.Selects .bytesAcked ∨ (busy snaps).length ≤ 1) (i : ℕ) :
    calculateThroughput (readings sel snaps i .bytesAcked) =
      .ok ((differences (counters snaps i .bytesAcked)).map .integer) := by
  rcases h with hselects | hfew
  · rw [readings_selected hselects]
    exact calculateThroughput_integers _
  · have hcounters : (counters snaps i .bytesAcked).length ≤ 1 :=
      counters_length.trans_le (readings_length_le.trans hfew)
    rw [calculateThroughput_short (readings_length_le.trans hfew), differences_short hcounters]
    rfl

lemma plotTransfer_eq (hplaces : Places snaps places) (hne : places ≠ [])
    (h : sel.Selects .bytesAcked ∨ (busy snaps).length ≤ 1) :
    plotTransfer (dataOf sel snaps places) [] = .ok (transferFigure snaps places) := by
  have hlines : (places.map fun i => readings sel snaps i .bytesAcked).mapM calculateThroughput =
      .ok (places.map fun i => (differences (counters snaps i .bytesAcked)).map .integer) := by
    rw [List.mapM_map]
    exact mapM_ok fun i _ => throughput_readings h i
  rw [plotTransfer_items hplaces hne acked_dataOf, hlines, ok_bind, legend_dataOf]
  rfl

lemma transferLines_ok_iff (hplaces : Places snaps places) (hne : places ≠ []) :
    (∃ lines, (places.map fun i => readings sel snaps i .bytesAcked).mapM calculateThroughput = .ok lines) ↔
      sel.Selects .bytesAcked ∨ (busy snaps).length ≤ 1 := by
  rw [mapM_ok_iff, List.forall_mem_map]
  constructor
  · intro hall
    by_cases hselects : sel.Selects .bytesAcked
    · exact Or.inl hselects
    · refine Or.inr ?_
      rcases calculateThroughput_ok_iff.mp (hall 0 (zero_mem hplaces hne)) with hshort | hintegers
      · rwa [readings_length] at hshort
      · have hnil : readings sel snaps 0 .bytesAcked = [] := by
          apply List.eq_nil_iff_forall_not_mem.mpr
          intro v hv
          obtain ⟨n, hn⟩ := hintegers v hv
          rw [readings_unselected hselects v hv] at hn
          cases hn
        have hlength : (readings sel snaps 0 .bytesAcked).length = (busy snaps).length := readings_length
        rw [← hlength, hnil]
        exact Nat.zero_le 1
  · rintro (hselects | hshort) i -
    · rw [readings_selected hselects]
      exact ⟨_, calculateThroughput_integers _⟩
    · exact calculateThroughput_ok_iff.mpr (Or.inl (readings_length_le.trans hshort))

lemma page_eq_transfer {it : Cell} (hdata : pageData engine db it = .ok (dataOf sel snaps places))
    (hplaces : Places snaps places) (hne : places ≠ []) :
    page engine db it = (do
      let transfer ← plotTransfer (dataOf sel snaps places) []
      return setItem (featureFigures sel snaps places) "transfer" transfer) := by
  rw [page, hdata, ok_bind, plotSubflowFeatures_eq hplaces hne, ok_bind]

lemma page_nil {it : Cell} (hdata : pageData engine db it = .ok (dataOf sel snaps [])) :
    page engine db it = .error (.raised .indexError) := by
  rw [page, hdata, ok_bind]
  rfl

lemma transfer_new : "transfer" ∉ (featureFigures sel snaps places).map Prod.fst := by
  have hkeys : (featureFigures sel snaps places).map Prod.fst = plotted.map TcpiField.key := List.map_map
  rw [hkeys]
  decide

lemma Own.page_eq (h : Own it sel snaps db) (hbusy : 0 < (busy snaps).length)
    (hlines : sel.Selects .bytesAcked ∨ (busy snaps).length ≤ 1) :
    ∃ places, Places snaps places ∧
      page engine db (.text it.text) = .ok (pageFigures sel snaps places) := by
  obtain ⟨places, hplaces, hids⟩ := h.places engine
  have hdata := h.pageData hplaces hids
  obtain ⟨snap, hsnap⟩ := List.exists_mem_of_length_pos hbusy
  obtain ⟨hmem, hpos⟩ := List.mem_filter.mp hsnap
  have hne : places ≠ [] := List.ne_nil_of_mem ((hplaces.mem 0).mpr ⟨snap, hmem, of_decide_eq_true hpos⟩)
  refine ⟨places, hplaces, ?_⟩
  rw [page_eq_transfer hdata hplaces hne, plotTransfer_eq hplaces hne hlines, ok_bind, setItem_new transfer_new]
  rfl

lemma Own.page_ok_iff (h : Own it sel snaps db) :
    (∃ figs, page engine db (.text it.text) = .ok figs) ↔
      0 < (busy snaps).length ∧ (sel.Selects .bytesAcked ∨ (busy snaps).length ≤ 1) := by
  obtain ⟨places, hplaces, hids⟩ := h.places engine
  have hdata := h.pageData hplaces hids
  by_cases hne : places = []
  · subst hne
    have hidle : (busy snaps).length = 0 := by
      rw [List.length_eq_zero_iff, busy, List.filter_eq_nil_iff]
      intro snap hsnap hpos
      exact List.not_mem_nil ((hplaces.mem 0).mpr ⟨snap, hsnap, of_decide_eq_true hpos⟩)
    rw [page_nil hdata, hidle]
    constructor
    · rintro ⟨figs, h⟩
      cases h
    · exact fun h => absurd h.1 (lt_irrefl 0)
  · obtain ⟨snap, hsnap, hpos⟩ := (hplaces.mem 0).mp (zero_mem hplaces hne)
    have hbusy : 0 < (busy snaps).length :=
      List.length_pos_of_mem (List.mem_filter.mpr ⟨hsnap, decide_eq_true hpos⟩)
    rw [page_eq_transfer hdata hplaces hne, and_iff_right hbusy, return_ok_iff,
      plotTransfer_items hplaces hne acked_dataOf, return_ok_iff, transferLines_ok_iff hplaces hne]

lemma Own.page_figures {figs : List (String × Figure)} (h : Own it sel snaps db)
    (hpage : page engine db (.text it.text) = .ok figs) :
    ∃ places, Places snaps places ∧ figs = pageFigures sel snaps places := by
  obtain ⟨hbusy, hlines⟩ := h.page_ok_iff.mp ⟨figs, hpage⟩
  obtain ⟨places, hplaces, hfigs⟩ := h.page_eq hbusy hlines
  exact ⟨places, hplaces, Except.ok.inj (hpage.symm.trans hfigs)⟩

end Figures

section Results

variable {ι : Type} [DecidableEq ι] {its : ι → IterationId} {fs : ι → Features} {w w' : Sharing.World ι}
  {past : List (ι × Sharing.Move)} {j : ι} {sel : Selection}

lemma own_of_run {it : IterationId} {snaps : List Snapshot} {db : Database} {cache : List PyValue}
    (h : runLogger it sel.argument (snaps.map Snapshot.round) ⟨.empty, []⟩ =
      .ok () ⟨db.restrict it.text, cache⟩) : Own it sel snaps db := by
  by_cases hkept : kept sel.argument = []
  · rw [runLogger_eq] at h
    rcases first_subflow snaps with hidle | ⟨pre, snap, post, rfl, hpre, hpos⟩
    · have hnone : measurements snaps = [] := by
        rw [measurements, List.flatMap_eq_nil_iff]
        intro snap hsnap
        rw [Snapshot.measurements, Snapshot.measured, hidle snap hsnap]
        rfl
      rw [logRounds_idle hidle] at h
      rw [Own, hnone]
      exact (congrArg Logger.db (EStateM.Result.ok.inj h).2).symm
    · obtain ⟨e, t, hround⟩ : ∃ e t, logRound it sel.argument snap.round ⟨.empty, []⟩ = .error e t := by
        by_cases hregular : Regular [] snap
        · have hempty : ∃ t, logRound it sel.argument snap.round ⟨.empty, []⟩ =
              .error (.raised .operationalError) t ∧ t.db.tcpConnInfo = [] :=
            logRound_empty hkept hregular.few hpos (hregular.known fun p hp => absurd hp List.not_mem_nil)
          obtain ⟨t, hround, -⟩ := hempty
          exact ⟨_, t, hround⟩
        · exact ⟨_, _, logRound_empty_undefined rfl hregular⟩
      rw [logRounds_first hpre hround] at h
      cases h
  · rcases runLogger_kept it .empty snaps hkept with ⟨-, hrun⟩ | ⟨-, t, hundefined⟩
    · rw [hrun] at h
      exact (congrArg Logger.db (EStateM.Result.ok.inj h).2).symm
    · rw [hundefined] at h
      cases h

lemma rounds_own {snaps : List Snapshot} (hid : ∀ i j, (its i).text = (its j).text → i = j)
    (hstart : ∀ j, w.threads j = .new) (h : Trace (Sharing.Step its fs) w past w')
    (hfresh : w.db.restrict (its j).text = .empty) (hsel : fs j = sel.argument)
    (hrounds : (w'.threads j).rounds = snaps.map Snapshot.round)
    (hbetween : (w'.threads j).between = true) : Own (its j) sel snaps w'.db := by
  have hrun := (Sharing.trace_reached hid hstart h j).run hbetween
  rw [hrounds, hfresh, hsel] at hrun
  exact own_of_run hrun

/-- Between two rounds the page of an iteration shows what its own logger measured, however many others
write to the same tables. -/
theorem page_shows_run (hid : ∀ i j, (its i).text = (its j).text → i = j)
    (hstart : ∀ j, w.threads j = .new) (h : Trace (Sharing.Step its fs) w past w')
    (hfresh : w.db.restrict (its j).text = .empty) (hsel : fs j = sel.argument) (snaps : List Snapshot)
    (hrounds : (w'.threads j).rounds = snaps.map Snapshot.round)
    (hbetween : (w'.threads j).between = true) (engine : Engine) :
    ((∃ figs, page engine w'.db (.text (its j).text) = .ok figs) ↔
        0 < (busy snaps).length ∧ (sel.Selects .bytesAcked ∨ (busy snaps).length ≤ 1)) ∧
      ∀ figs, page engine w'.db (.text (its j).text) = .ok figs →
        ∃ places, Places snaps places ∧ figs = pageFigures sel snaps places := by
  have hown : Own (its j) sel snaps w'.db := rounds_own hid hstart h hfresh hsel hrounds hbetween
  exact ⟨hown.page_ok_iff, fun figs => hown.page_figures⟩

lemma ended_own : ∃ w, Trace (Sharing.Step Sharing.ids fun j => (Sharing.metrics j).argument) Sharing.fresh
      (Sharing.movesOf (Sharing.crossing ++ Sharing.finishing)) w ∧
    (w.threads true).rounds = threeRounds.map Snapshot.round ∧ (w.threads true).between = true ∧
    Own (Sharing.ids true) .all threeRounds w.db := by
  obtain ⟨w, htrace, hrounds, hbetween⟩ := Sharing.ended_run
  exact ⟨w, htrace, hrounds, hbetween, rounds_own Sharing.ids_injective Sharing.fresh_new htrace
    (Sharing.fresh_restrict _) Sharing.metrics_all hrounds hbetween⟩

lemma acked_selected : Selection.all.Selects .bytesAcked :=
  show TcpiField.key .bytesAcked ∉ filterColumns by decide

theorem page_shows_run_crossing : ∃ w, Trace (Sharing.Step Sharing.ids fun j => (Sharing.metrics j).argument)
      Sharing.fresh (Sharing.movesOf (Sharing.crossing ++ Sharing.finishing)) w ∧
    ∃ places, Places threeRounds places ∧
      page .plain w.db (.text (Sharing.ids true).text) = .ok (pageFigures .all threeRounds places) := by
  obtain ⟨w, htrace, hrounds, hbetween⟩ := Sharing.ended_run
  obtain ⟨hbuilds, hshows⟩ := page_shows_run Sharing.ids_injective Sharing.fresh_new htrace
    (Sharing.fresh_restrict _) Sharing.metrics_all threeRounds hrounds hbetween .plain
  obtain ⟨figs, hfigs⟩ := hbuilds.mpr ⟨by decide, Or.inl acked_selected⟩
  obtain ⟨places, hplaces, rfl⟩ := hshows figs hfigs
  exact ⟨w, htrace, places, hplaces, hfigs⟩

/-- The second subflow, which is there in the first two of three rounds, is drawn in the last two. -/
example : featureFigures .all threeRounds [0, 1] = plotted.map fun f =>
    (f.key, ⟨[[.integer 10, .integer 20, .integer 30], [.integer 0, .integer 5, .integer 7]],
      [.integer 0, .integer 1]⟩) := by
  decide

example : transferFigure threeRounds [0, 1] = ⟨[[.integer 10, .integer 10], [.integer 2]],
    [.integer 0, .integer 1]⟩ := by
  decide

end Results

end TransportConverter.Performance
