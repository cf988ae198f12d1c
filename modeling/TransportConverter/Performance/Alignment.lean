import TransportConverter.Performance.WebUi

/-! Which rounds the points of a page's lines stand at. -/

namespace TransportConverter.Performance

open Foundations.Refinement Foundations.Sql

section Points

variable {sel : Selection} {snaps : List Snapshot} {i : ℕ} {f : TcpiField}

def pointOf (sel : Selection) (i : ℕ) (f : TcpiField) (snap : Snapshot) : Option Cell :=
  snap.measured[i]?.map fun sub => storedCell sel sub.info f

def inPlace (sel : Selection) (snaps : List Snapshot) (i : ℕ) (f : TcpiField) : List Cell :=
  (busy snaps).map fun snap => (pointOf sel i f snap).getD (.integer 0)

/-- Once there, a subflow is missing in no later round that found one. -/
def Stays (snaps : List Snapshot) (i : ℕ) : Prop :=
  (busy snaps).Pairwise fun p q => i < p.count → i < q.count

/-- The later rounds that found a subflow, but not this one. -/
def missing (snaps : List Snapshot) (i p : ℕ) : ℕ :=
  ((busy snaps).drop (p + 1)).countP fun snap => snap.count ≤ i

lemma pointOf_isSome {snap : Snapshot} : (pointOf sel i f snap).isSome = true ↔ i < snap.count := by
  rw [pointOf, Option.isSome_map, ← Option.ne_none_iff_isSome, ne_eq, List.getElem?_eq_none_iff,
    Snapshot.measured_length, not_le]

lemma pointOf_idle {snap : Snapshot} (h : ¬ 0 < snap.count) : pointOf sel i f snap = none := by
  rw [← Option.not_isSome_iff_eq_none, pointOf_isSome]
  omega

lemma readings_points : readings sel snaps i f = snaps.filterMap (pointOf sel i f) := rfl

lemma readings_busy : readings sel snaps i f = ((busy snaps).map (pointOf sel i f)).reduceOption := by
  rw [List.reduceOption, List.filterMap_map, Function.id_comp, readings_points]
  induction snaps with
  | nil => rfl
  | cons snap snaps ih =>
    rw [busy, List.filter_cons]
    by_cases hbusy : 0 < snap.count
    · rw [if_pos (decide_eq_true hbusy), List.filterMap_cons, List.filterMap_cons, ih]
      rfl
    · rw [if_neg (by simpa using hbusy), List.filterMap_cons_none (pointOf_idle hbusy), ih]
      rfl

def lineOf (sel : Selection) (snaps : List Snapshot) (i : ℕ) (f : TcpiField) : List Cell :=
  pad (.integer 0) (busy snaps).length (readings sel snaps i f)

lemma lineOf_length : (lineOf sel snaps i f).length = (busy snaps).length := by
  rw [lineOf, pad, List.length_append, List.length_replicate, Nat.sub_add_cancel readings_length_le]

lemma reading_place {p : ℕ} {snap : Snapshot} {v : Cell} (hbusy : (busy snaps)[p]? = some snap)
    (hv : pointOf sel i f snap = some v) : (lineOf sel snaps i f)[p + missing snaps i p]? = some v := by
  have hpoint : ((busy snaps).map (pointOf sel i f))[p]? = some (some v) := by
    rw [List.getElem?_map, hbusy, Option.map_some, hv]
  have hmissing : (((busy snaps).map (pointOf sel i f)).drop (p + 1)).countP (·.isNone) = missing snaps i p := by
    rw [← List.map_drop, List.countP_map]
    refine List.countP_congr fun snap _ => ?_
    rw [Function.comp_apply, ← Option.not_isSome, Bool.not_eq_true', ← Bool.not_eq_true, pointOf_isSome]
    simp
  have hplace := @pad_reduceOption_place Cell (.integer 0) v _ p hpoint
  rwa [hmissing, List.length_map, ← readings_busy] at hplace

lemma exists_missing (h : ¬ Stays snaps i) :
    ∃ p snap, (busy snaps)[p]? = some snap ∧ i < snap.count ∧ 0 < missing snaps i p := by
  rw [Stays, List.pairwise_iff_getElem] at h
  push Not at h
  obtain ⟨p, q, hp, hq, hpq, hthere, hgone⟩ := h
  refine ⟨p, _, List.getElem?_eq_getElem hp, hthere, List.countP_pos_iff.mpr ⟨(busy snaps)[q], ?_, ?_⟩⟩
  · rw [List.mem_drop_iff_getElem]
    exact ⟨q - (p + 1), by omega, by congr 1; omega⟩
  · exact decide_eq_true hgone

lemma line_inPlace_iff (hzero : .integer 0 ∉ readings sel snaps i f) :
    lineOf sel snaps i f = inPlace sel snaps i f ↔ Stays snaps i := by
  have hne : some (.integer 0) ∉ (busy snaps).map (pointOf sel i f) := by
    rw [readings_busy] at hzero
    exact mt List.reduceOption_mem_iff.mpr hzero
  have hpad := pad_reduceOption_iff hne
  rw [List.length_map, ← readings_busy, List.map_map, List.pairwise_map] at hpad
  simp only [pointOf_isSome] at hpad
  exact hpad

lemma lookup_featureFigures {places : List ℕ} {figs : List (String × Figure)} (hf : f ∈ plotted) :
    (featureFigures sel snaps places ++ figs).lookup f.key =
      some ⟨places.map fun i => lineOf sel snaps i f, places.map fun i : ℕ => .integer i⟩ := by
  simp only [plotted, List.mem_cons, List.not_mem_nil, or_false] at hf
  rcases hf with rfl | rfl | rfl <;> rfl

end Points

section Results

variable {ι : Type} [DecidableEq ι] {its : ι → IterationId} {fs : ι → Features} {w w' : Sharing.World ι}
  {past : List (ι × Sharing.Move)} {j : ι} {sel : Selection}

/-- A reading stands behind its own round by as many rounds as there are later ones without its subflow, so
that a line has all of them at their rounds exactly when the subflow stays. -/
theorem page_lines_aligned (hid : ∀ i j, (its i).text = (its j).text → i = j)
    (hstart : ∀ j, w.threads j = .new) (h : Trace (Sharing.Step its fs) w past w')
    (hfresh : w.db.restrict (its j).text = .empty) (hsel : fs j = sel.argument) (snaps : List Snapshot)
    (hrounds : (w'.threads j).rounds = snaps.map Snapshot.round)
    (hbetween : (w'.threads j).between = true) (engine : Engine) (figs : List (String × Figure))
    (hpage : page engine w'.db (.text (its j).text) = .ok figs) :
    ∃ places, Places snaps places ∧ ∀ f ∈ plotted, ∃ fig, figs.lookup f.key = some fig ∧
      fig.legend = places.map (fun i : ℕ => .integer i) ∧
      ∀ k i : ℕ, places[k]? = some i → ∃ points, fig.lines[k]? = some points ∧
        points.length = (busy snaps).length ∧
        (∀ p snap v, (busy snaps)[p]? = some snap → pointOf sel i f snap = some v →
          points[p + missing snaps i p]? = some v) ∧
        (¬ Stays snaps i →
          ∃ p snap, (busy snaps)[p]? = some snap ∧ i < snap.count ∧ 0 < missing snaps i p) ∧
        (.integer 0 ∉ readings sel snaps i f → (points = inPlace sel snaps i f ↔ Stays snaps i)) := by
  have hown : Own (its j) sel snaps w'.db := rounds_own hid hstart h hfresh hsel hrounds hbetween
  obtain ⟨places, hplaces, rfl⟩ := hown.page_figures hpage
  refine ⟨places, hplaces, fun f hf => ⟨_, lookup_featureFigures hf, rfl, fun k i hk => ?_⟩⟩
  refine ⟨lineOf sel snaps i f, ?_, lineOf_length, fun p snap v => reading_place, exists_missing,
    line_inPlace_iff⟩
  rw [List.getElem?_map, hk, Option.map_some]

lemma phone_moves : ¬ Stays threeRounds 1 := by
  unfold Stays
  decide

lemma phone_nonzero : .integer 0 ∉ readings .all threeRounds 1 .rtt := by
  decide

theorem page_lines_aligned_crossing : ∃ w,
    Trace (Sharing.Step Sharing.ids fun j => (Sharing.metrics j).argument) Sharing.fresh
      (Sharing.movesOf (Sharing.crossing ++ Sharing.finishing)) w ∧
    ∃ (figs : List (String × Figure)) (fig : Figure) (points : List Cell) (k : ℕ),
      page .plain w.db (.text (Sharing.ids true).text) = .ok figs ∧
      figs.lookup "tcpi_rtt" = some fig ∧ fig.legend[k]? = some (.integer 1) ∧
      fig.lines[k]? = some points ∧ points[1]? = some (.integer 5) ∧ points[2]? = some (.integer 7) ∧
      points ≠ inPlace .all threeRounds 1 .rtt := by
  obtain ⟨w, htrace, hrounds, hbetween, hown⟩ := ended_own
  obtain ⟨_, -, hpage⟩ := hown.page_eq (by decide) (Or.inl acked_selected)
  obtain ⟨places, hplaces, hall⟩ := page_lines_aligned Sharing.ids_injective Sharing.fresh_new htrace
    (Sharing.fresh_restrict _) Sharing.metrics_all threeRounds hrounds hbetween .plain _ hpage
  obtain ⟨fig, hfig, hlegend, hlines⟩ := hall .rtt (by decide)
  obtain ⟨k, hk⟩ := List.getElem?_of_mem ((hplaces.mem 1).mpr ⟨_, List.mem_cons_self, by decide⟩)
  obtain ⟨points, hpoints, -, hplace, -, hstays⟩ := hlines k 1 hk
  refine ⟨w, htrace, _, fig, points, k, hpage, hfig, ?_, hpoints, ?_, ?_, ?_⟩
  · rw [hlegend, List.getElem?_map, hk]
    rfl
  · exact hplace 0 _ _ rfl rfl
  · exact hplace 1 _ _ rfl rfl
  · exact mt (hstays phone_nonzero).mp phone_moves

end Results

end TransportConverter.Performance
