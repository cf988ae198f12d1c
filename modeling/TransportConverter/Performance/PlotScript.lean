import TransportConverter.Performance.WebUi

/-! `plot.py` of the program: one figure of an iteration, made by hand. -/

namespace TransportConverter.Performance

open Foundations.Fallible Foundations.Refinement Foundations.Sql

section Script

variable (engine : Engine) (db : Database) (iterationId : Cell)

def fieldSeries (key : String) (sid : Cell) : Except PageError Series := do
  let rows ← ofSql (db.readSubflowTcpConnInfo engine iterationId sid [key])
  let values ← rows.mapM fun row => atIndex row 0
  return [(key, values)]

def scriptKeys : List Cell := [.text "WiFi", .text "LTE"]

def plotSubflowInfoFromDb (field : String) : Except PageError Figure := do
  let isTransferRate := field = "transfer_rate"
  let key := if isTransferRate then "tcpi_bytes_acked" else field
  let subflows ← ofSql (db.readAllSubflows engine iterationId)
  let data ← subflows.foldlM (fun data subflow => do
    let sid ← atIndex subflow 1
    let series ← fieldSeries engine db iterationId key sid
    return setItem data sid series) []
  if isTransferRate then plotTransfer data scriptKeys
  else do
    let figs ← plotSubflowFeatures data true scriptKeys (some [field])
    match figs.lookup field with
    | some fig => return fig
    | none => throw (.raised (.keyError field))

end Script

section Fields

variable {engine : Engine} {db : Database} {it : IterationId} {sel : Selection} {snaps : List Snapshot}
  {places : List ℕ} {i : ℕ} {f : TcpiField} {field : String}

lemma plotFeature_fxTime {data : SubflowData} {keys : List Cell} {feature : String} {fig : Figure} :
    plotFeature data true keys feature ≠ .ok fig := by
  intro h
  obtain ⟨subflowData, -, hrest⟩ := bind_ok_iff.mp h
  obtain ⟨n, -, hthrow⟩ := bind_ok_iff.mp hrest
  cases hthrow

lemma plotSubflowFeatures_fxTime {data : SubflowData} {keys : List Cell} {feature : String}
    {figs : List (String × Figure)} :
    plotSubflowFeatures data true keys (some [feature]) ≠ .ok figs := by
  intro h
  obtain ⟨features, hfeatures, hfold⟩ := bind_ok_iff.mp h
  cases hfeatures
  obtain ⟨figs', hfirst, -⟩ := bind_ok_iff.mp hfold
  obtain ⟨fig, hfig, -⟩ := bind_ok_iff.mp hfirst
  exact plotFeature_fxTime hfig

lemma plotSubflowInfoFromDb_other {fig : Figure} {iterationId : Cell} (hfield : field ≠ "transfer_rate") :
    plotSubflowInfoFromDb engine db iterationId field ≠ .ok fig := by
  intro h
  obtain ⟨subflows, -, hdata⟩ := bind_ok_iff.mp h
  obtain ⟨data, -, hplot⟩ := bind_ok_iff.mp hdata
  rw [if_neg hfield] at hplot
  obtain ⟨figs, hfigs, -⟩ := bind_ok_iff.mp hplot
  exact plotSubflowFeatures_fxTime hfigs

lemma fieldSeries_eq (h : Own it sel snaps db) (hf : f.key ∈ tcpConnInfoColumns) :
    fieldSeries engine db (.text it.text) f.key (.integer i) = .ok [(f.key, readings sel snaps i f)] := by
  have hcolumns : ∀ f' ∈ [f], f'.key ∈ tcpConnInfoColumns := List.forall_mem_singleton.mpr hf
  have hread := h.read engine i hcolumns (List.cons_ne_nil f [])
  rw [List.map_singleton] at hread
  have hvalues : ∀ rows : List (Row tcpConnInfoColumns),
      (rows.map fun row => [f.key].map row.at).mapM (fun row => atIndex row 0) =
        .ok (rows.map (·.at f.key)) := by
    intro rows
    rw [List.mapM_map]
    exact mapM_ok fun row _ => rfl
  rw [fieldSeries, hread, ofSql, ok_bind, hvalues, ok_bind, readings_rows hf]
  rfl

def ackedOf (sel : Selection) (snaps : List Snapshot) (places : List ℕ) : SubflowData :=
  places.map fun i : ℕ => (.integer i, [("tcpi_bytes_acked", readings sel snaps i .bytesAcked)])

lemma Own.script (h : Own it sel snaps db) (hplaces : Places snaps places)
    (hids : (fetchedRows engine db it).map (·.at "subflow_id") = places.map fun i => .integer i) :
    plotSubflowInfoFromDb engine db (.text it.text) "transfer_rate" =
      plotTransfer (ackedOf sel snaps places) scriptKeys := by
  have hcolumn : TcpiField.key .bytesAcked ∈ tcpConnInfoColumns := plotted_column (by decide)
  have hkey : TcpiField.key .bytesAcked = "tcpi_bytes_acked" := rfl
  have hread : ∀ i : ℕ, fieldSeries engine db (.text it.text) (TcpiField.key .bytesAcked) (.integer i) =
      .ok [(TcpiField.key .bytesAcked, readings sel snaps i .bytesAcked)] := fun i => fieldSeries_eq h hcolumn
  rw [hkey] at hread
  have hfold := h.foldlM_places hplaces hids hread
  simp only [plotSubflowInfoFromDb, if_true]
  rw [fetched_eq, ofSql, ok_bind, hfold, ok_bind]
  rfl

lemma items_ackedOf :
    (ackedOf sel snaps places).mapM (fun item => itemOf item.2 "tcpi_bytes_acked") =
      .ok (places.map fun i => readings sel snaps i .bytesAcked) := by
  rw [ackedOf, List.mapM_map]
  exact mapM_ok fun i _ => rfl

lemma lookup_transfer {fig : Figure} :
    (featureFigures sel snaps places ++ [("transfer", fig)]).lookup "transfer" = some fig := rfl

lemma Own.script_lines (h : Own it sel snaps db) (engine : Engine) :
    ((∃ fig, plotSubflowInfoFromDb engine db (.text it.text) "transfer_rate" = .ok fig) ↔
        ∃ figs, page engine db (.text it.text) = .ok figs) ∧
      ∀ fig figs, plotSubflowInfoFromDb engine db (.text it.text) "transfer_rate" = .ok fig →
        page engine db (.text it.text) = .ok figs →
        ∃ transfer, figs.lookup "transfer" = some transfer ∧ fig = ⟨transfer.lines, scriptKeys⟩ := by
  obtain ⟨places, hplaces, hids⟩ := h.places engine
  have hdata := h.pageData hplaces hids
  rw [h.script hplaces hids]
  rcases eq_or_ne places [] with rfl | hne
  · rw [page_nil hdata]
    constructor
    · constructor
      · rintro ⟨fig, hfig⟩
        cases hfig
      · rintro ⟨figs, hfigs⟩
        cases hfigs
    · intro fig figs _ hfigs
      cases hfigs
  · rw [page_eq_transfer hdata hplaces hne, plotTransfer_items hplaces hne items_ackedOf,
      plotTransfer_items hplaces hne acked_dataOf]
    refine ⟨?_, fun fig figs hfig hfigs => ?_⟩
    · rw [return_ok_iff, return_ok_iff, return_ok_iff]
    · obtain ⟨lines, hlines, hfig'⟩ := bind_ok_iff.mp hfig
      obtain ⟨transfer, htransfer, hfigs'⟩ := bind_ok_iff.mp hfigs
      rw [hlines] at htransfer
      cases htransfer
      cases hfig'
      rw [setItem_new transfer_new] at hfigs'
      cases hfigs'
      exact ⟨_, lookup_transfer, rfl⟩

end Fields

section Results

variable {ι : Type} [DecidableEq ι] {its : ι → IterationId} {fs : ι → Features} {w w' : Sharing.World ι}
  {past : List (ι × Sharing.Move)} {j : ι} {sel : Selection}

/-- Between two rounds the script can draw nothing but the transfer rate, that one exactly when the page of
the iteration can be built, and with the same lines. -/
theorem script_agrees (hid : ∀ i j, (its i).text = (its j).text → i = j)
    (hstart : ∀ j, w.threads j = .new) (h : Trace (Sharing.Step its fs) w past w')
    (hfresh : w.db.restrict (its j).text = .empty) (hsel : fs j = sel.argument) (snaps : List Snapshot)
    (hrounds : (w'.threads j).rounds = snaps.map Snapshot.round)
    (hbetween : (w'.threads j).between = true) (engine : Engine) (field : String) :
    ((∃ fig, plotSubflowInfoFromDb engine w'.db (.text (its j).text) field = .ok fig) ↔
        field = "transfer_rate" ∧ ∃ figs, page engine w'.db (.text (its j).text) = .ok figs) ∧
      ∀ fig figs, plotSubflowInfoFromDb engine w'.db (.text (its j).text) field = .ok fig →
        page engine w'.db (.text (its j).text) = .ok figs →
        ∃ transfer, figs.lookup "transfer" = some transfer ∧ fig = ⟨transfer.lines, scriptKeys⟩ := by
  have hown : Own (its j) sel snaps w'.db := rounds_own hid hstart h hfresh hsel hrounds hbetween
  by_cases hfield : field = "transfer_rate"
  · subst hfield
    obtain ⟨hdraws, hlines⟩ := hown.script_lines engine
    exact ⟨hdraws.trans (and_iff_right rfl).symm, hlines⟩
  · refine ⟨⟨?_, fun hdraws => absurd hdraws.1 hfield⟩, fun fig figs hfig => ?_⟩
    · rintro ⟨fig, hfig⟩
      exact absurd hfig (plotSubflowInfoFromDb_other hfield)
    · exact absurd hfig (plotSubflowInfoFromDb_other hfield)

theorem script_agrees_crossing : ∃ w,
    Trace (Sharing.Step Sharing.ids fun j => (Sharing.metrics j).argument) Sharing.fresh
      (Sharing.movesOf (Sharing.crossing ++ Sharing.finishing)) w ∧
    ∃ fig figs transfer,
      plotSubflowInfoFromDb .plain w.db (.text (Sharing.ids true).text) "transfer_rate" = .ok fig ∧
      page .plain w.db (.text (Sharing.ids true).text) = .ok figs ∧
      figs.lookup "transfer" = some transfer ∧ fig = ⟨transfer.lines, scriptKeys⟩ ∧
      [.integer 10, .integer 10] ∈ fig.lines := by
  obtain ⟨w, htrace, hrounds, hbetween, hown⟩ := ended_own
  obtain ⟨places, hplaces, hpage⟩ := hown.page_eq (by decide) (Or.inl acked_selected)
  obtain ⟨hdraws, hlines⟩ := script_agrees Sharing.ids_injective Sharing.fresh_new htrace
    (Sharing.fresh_restrict _) Sharing.metrics_all threeRounds hrounds hbetween .plain "transfer_rate"
  obtain ⟨fig, hfig⟩ := hdraws.mpr ⟨rfl, _, hpage⟩
  obtain ⟨transfer, htransfer, rfl⟩ := hlines fig _ hfig hpage
  refine ⟨w, htrace, _, _, transfer, hfig, hpage, htransfer, rfl, ?_⟩
  have hfirst : 0 ∈ places := (hplaces.mem 0).mpr ⟨_, List.mem_cons_self, by decide⟩
  obtain rfl : transferFigure threeRounds places = transfer := Option.some.inj htransfer
  exact List.mem_map.mpr ⟨0, hfirst, by decide⟩

end Results

end TransportConverter.Performance
