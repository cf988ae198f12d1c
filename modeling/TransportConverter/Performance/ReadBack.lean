import TransportConverter.Performance.WebUi

/-! The addresses of a run, read back. -/

namespace TransportConverter.Performance

open Foundations.Refinement Foundations.Sql

section Addresses

variable {engine : Engine} {db : Database} {it : IterationId} {sel : Selection} {snaps : List Snapshot}
  {i : ℕ}

def addressesAt (it : IterationId) (snaps : List Snapshot) (i : ℕ) : Option (List Cell) :=
  ((measurements snaps).find? (·.2 = i)).map fun m => (addrRow it m).cells

lemma Own.readSubflow (engine : Engine) (h : Own it sel snaps db) (i : ℕ) :
    db.readSubflow engine (.text it.text) (.integer i) = .ok (addressesAt it snaps i) := by
  have hrows : ∀ row ∈ db.subflows, row.at "iteration_id" = .text it.text →
      ∃ k : ℕ, row.at "subflow_id" = .integer k := by
    intro row hrow howner
    have hfetched : row ∈ fetchedRows engine db it :=
      List.mem_filter.mpr ⟨Scan.mem_visit.mpr hrow, decide_eq_true howner⟩
    exact h.fetched_place row hfetched
  rw [readSubflow_eq it.stored hrows, h.subflows_at, addressesAt]
  cases (measurements snaps).find? (·.2 = i) with
  | none => rfl
  | some m => rfl

lemma Own.readAllSubflows (engine : Engine) (h : Own it sel snaps db) :
    ∃ places rows, Places snaps places ∧
      db.readAllSubflows engine (.text it.text) = .ok rows ∧
      rows.map some = places.map (addressesAt it snaps) := by
  obtain ⟨places, hplaces, hids⟩ := h.places engine
  refine ⟨places, _, hplaces, fetched_eq engine it db, ?_⟩
  have hrow : ∀ row ∈ fetchedRows engine db it,
      some row.cells = addressesAt it snaps (placeOf (row.at "subflow_id")) := by
    intro row hrow
    obtain ⟨i, hi⟩ := h.fetched_place row hrow
    have hmem : row ∈ (fetchedRows engine db it).filter (fun row => row.at "subflow_id" = .integer i) :=
      List.mem_filter.mpr ⟨hrow, decide_eq_true hi⟩
    rw [h.fetched_at, Option.mem_toList, Option.map_eq_some_iff] at hmem
    obtain ⟨m, hm, rfl⟩ := hmem
    rw [hi]
    exact (congrArg (Option.map fun m => (addrRow it m).cells) hm).symm
  have hplaced := congrArg (List.map fun sid => addressesAt it snaps (placeOf sid)) hids
  rw [List.map_map, List.map_map] at hplaced
  rw [List.map_map]
  exact (List.map_congr_left hrow).trans hplaced

end Addresses

section Results

variable {ι : Type} [DecidableEq ι] {its : ι → IterationId} {fs : ι → Features} {w w' : Sharing.World ι}
  {past : List (ι × Sharing.Move)} {j : ι} {sel : Selection}

/-- Between two rounds the addresses of an iteration are those its own logger recorded in the first round
with the subflow, and all of them come once, in whatever order. -/
theorem addresses_read_back (hid : ∀ i j, (its i).text = (its j).text → i = j)
    (hstart : ∀ j, w.threads j = .new) (h : Trace (Sharing.Step its fs) w past w')
    (hfresh : w.db.restrict (its j).text = .empty) (hsel : fs j = sel.argument) (snaps : List Snapshot)
    (hrounds : (w'.threads j).rounds = snaps.map Snapshot.round)
    (hbetween : (w'.threads j).between = true) (engine : Engine) :
    (∀ i : ℕ, w'.db.readSubflow engine (.text (its j).text) (.integer i) =
      .ok (addressesAt (its j) snaps i)) ∧
    ∃ places rows, Places snaps places ∧
      w'.db.readAllSubflows engine (.text (its j).text) = .ok rows ∧
      rows.map some = places.map (addressesAt (its j) snaps) := by
  have hown : Own (its j) sel snaps w'.db := rounds_own hid hstart h hfresh hsel hrounds hbetween
  exact ⟨hown.readSubflow engine, hown.readAllSubflows engine⟩

theorem addresses_read_back_crossing : ∃ w,
    Trace (Sharing.Step Sharing.ids fun j => (Sharing.metrics j).argument) Sharing.fresh
      (Sharing.movesOf (Sharing.crossing ++ Sharing.finishing)) w ∧
    w.db.readSubflow .plain (.text (Sharing.ids true).text) (.integer 1) =
      .ok (some [.text "asdfghjklz", .integer 1, .text "172.20.10.4", .text "10.0.0.7"]) ∧
    w.db.readSubflow .plain (.text (Sharing.ids true).text) (.integer 2) = .ok none ∧
    ∃ places rows, Places threeRounds places ∧
      w.db.readAllSubflows .plain (.text (Sharing.ids true).text) = .ok rows ∧
      rows.map some = places.map (addressesAt (Sharing.ids true) threeRounds) := by
  obtain ⟨w, htrace, hrounds, hbetween, -⟩ := ended_own
  obtain ⟨hone, hall⟩ := addresses_read_back Sharing.ids_injective Sharing.fresh_new htrace
    (Sharing.fresh_restrict _) Sharing.metrics_all threeRounds hrounds hbetween .plain
  have hphone : addressesAt (Sharing.ids true) threeRounds 1 =
      some [.text "asdfghjklz", .integer 1, .text "172.20.10.4", .text "10.0.0.7"] := by
    decide +kernel
  exact ⟨w, htrace, (hone 1).trans (congrArg Except.ok hphone), hone 2, hall⟩

end Results

end TransportConverter.Performance
