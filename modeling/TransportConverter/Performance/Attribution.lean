import TransportConverter.Performance.Queries
import TransportConverter.Performance.Rounds

/-! Whose addresses a row of `tcp_conn_info` is joined with: those its place in the list of the kernel was
first seen with. -/

namespace TransportConverter.Performance

open Foundations Foundations.Effects Foundations.Sql Wire

section Statements

variable (engine : Engine)

def Database.withIds (db : Database) (iterationId subflowId : Cell) : List (Row subflowsColumns) :=
  db.subflows.filter fun r => (r.at "iteration_id").equals engine.sameNumber iterationId ∧
    (r.at "subflow_id").equals engine.sameNumber subflowId

def Database.joined (db : Database) (row : Row tcpConnInfoColumns) : List (Row subflowsColumns) :=
  db.withIds engine (row.at "iteration_id") (row.at "subflow_id")

/-- The row is joined with one other, which holds the addresses of the subflow measured. -/
def Joins (db : Database) (m : Measurement) (row : Row tcpConnInfoColumns) : Prop :=
  ∃ r localIp remoteIp, db.joined engine row = [r] ∧ m.1.addrs.texts = some (localIp, remoteIp) ∧
    r.at "local_addr" = .text localIp ∧ r.at "remote_addr" = .text remoteIp

variable (it : IterationId) (sel : Selection) (db : Database) (snaps : List Snapshot)

/-- Whether a run ends or raises, the rows it has inserted join their subflows. -/
def Attributed : Prop :=
  ∃ t, (runLogger it sel.argument (snaps.map Snapshot.round) ⟨db, []⟩ = .ok () t ∨
      ∃ e, runLogger it sel.argument (snaps.map Snapshot.round) ⟨db, []⟩ = .error (.raised e) t) ∧
    ∃ rows, t.db.tcpConnInfo = db.tcpConnInfo ++ rows ∧
      List.Forall₂ (Joins engine t.db) ((measurements snaps).take rows.length) rows

def Reached (pre : List Snapshot) : Prop := kept sel.argument = [] → ∀ p ∈ pre, p.count = 0

/-- A place is never taken by a subflow with other addresses, in these rounds or in an earlier run of the
same id. -/
structure Steady : Prop where
  regular : Throughout (fun pre snap => Reached sel pre → Regular pre snap) snaps
  unused : kept sel.argument ≠ [] → ∀ m ∈ measurements snaps,
    db.withIds engine (.text it.text) (.integer m.2) = []
  addresses : kept sel.argument ≠ [] → ∀ m ∈ measurements snaps, ∀ m' ∈ measurements snaps,
    m'.2 = m.2 → m'.1.addrs.texts = m.1.addrs.texts

end Statements

section Kept

variable {engine : Engine} {it : IterationId} {sel : Selection} {features : Features} {db : Database}
  {snaps : List Snapshot} {m m₀ : Measurement} {i : ℕ}

lemma joined_infoRow :
    db.joined engine (infoRow it features m) = db.withIds engine (.text it.text) (.integer m.2) := by
  obtain ⟨hiteration, hsubflow⟩ := infoRow_ids it features m
  rw [Database.joined, hiteration, hsubflow]

lemma withIds_after :
    (Logger.after it features ⟨db, []⟩ (measurements snaps)).db.withIds engine (.text it.text) (.integer i) =
      db.withIds engine (.text it.text) (.integer i) ++
        (((measurements snaps).find? (·.2 = i)).map (addrRow it)).toList := by
  obtain ⟨added, hsubflows, hrows⟩ := subflows_after it features ⟨db, []⟩ (measurements snaps)
  have hplace : Database.atPlace it i (Logger.after it features ⟨db, []⟩ (measurements snaps)).db = _ :=
    atPlace_after
  rw [if_neg List.not_mem_nil, Database.atPlace, hsubflows, List.filter_append] at hplace
  rw [Database.withIds, hsubflows, List.filter_append, ← List.append_cancel_left hplace]
  refine congrArg _ (List.filter_congr fun r hr => ?_)
  obtain ⟨m, rfl⟩ := hrows r hr
  obtain ⟨hiteration, hsubflow⟩ := addrRow_ids it m
  simp only [hiteration, hsubflow, equals_text, equals_integer, Cell.integer.injEq]

lemma find_known (hregular : Throughout Regular snaps)
    (h : (measurements snaps).find? (·.2 = i) = some m₀) : m₀.1.addrs.Known := by
  rw [measurements, List.find?_flatMap, List.findSome?_eq_some_iff] at h
  obtain ⟨pre, snap, post, rfl, hfind, hnone⟩ := h
  have hm₀ : m₀ ∈ snap.measurements := List.mem_of_find?_eq_some hfind
  have hplace : m₀.2 = i := by simpa using List.find?_some hfind
  refine Snapshot.known_of_mem ((hregular pre snap post rfl).known fun p hp => ?_) hm₀
  by_contra hle
  have hlt : m₀.2 < snap.count := Snapshot.place_lt hm₀
  have hi : i < p.count := by omega
  obtain ⟨m, hm, hmi⟩ := Snapshot.exists_place hi
  have hno := List.find?_eq_none.mp (hnone p hp) m hm
  simp [hmi] at hno

lemma joins_iff (hregular : Throughout Regular snaps)
    (h : (measurements snaps).find? (·.2 = m.2) = some m₀) :
    Joins engine (Logger.after it features ⟨db, []⟩ (measurements snaps)).db m (infoRow it features m) ↔
      db.withIds engine (.text it.text) (.integer m.2) = [] ∧ m₀.1.addrs.texts = m.1.addrs.texts := by
  obtain ⟨⟨localIp, remoteIp⟩, htexts⟩ := texts_of_known (find_known hregular h)
  obtain ⟨hlocal, hremote⟩ := addrRow_addrs it htexts
  have hjoined :
      (Logger.after it features ⟨db, []⟩ (measurements snaps)).db.joined engine (infoRow it features m) =
        db.withIds engine (.text it.text) (.integer m.2) ++ [addrRow it m₀] := by
    rw [joined_infoRow, withIds_after, h]
    rfl
  constructor
  · rintro ⟨r, localAddr, remoteAddr, hr, hm, hl, hrem⟩
    rw [hjoined] at hr
    rcases List.append_eq_singleton_iff.mp hr with ⟨hunused, hrow⟩ | ⟨-, hnone⟩
    · cases hrow
      rw [hlocal] at hl
      rw [hremote] at hrem
      cases hl
      cases hrem
      exact ⟨hunused, htexts.trans hm.symm⟩
    · cases hnone
  · rintro ⟨hunused, hsame⟩
    exact ⟨addrRow it m₀, localIp, remoteIp, by rw [hjoined, hunused]; rfl, hsame ▸ htexts, hlocal, hremote⟩

lemma attributed_kept (hkept : kept sel.argument ≠ []) :
    Attributed engine it sel db snaps ↔ Throughout Regular snaps ∧
      ∀ m ∈ measurements snaps,
        Joins engine (Logger.after it sel.argument ⟨db, []⟩ (measurements snaps)).db m (infoRow it sel.argument m) := by
  unfold Attributed
  rcases runLogger_kept it db snaps hkept with ⟨hregular, hends⟩ | ⟨hirregular, t, hundefined⟩
  · rw [hends]
    constructor
    · rintro ⟨t, hrun, rows, hrows, hjoins⟩
      refine ⟨hregular, ?_⟩
      obtain rfl : _ = t := by
        rcases hrun with hrun | ⟨e, hrun⟩
        · cases hrun
          rfl
        · cases hrun
      rw [tcpConnInfo_after, List.append_cancel_left_eq] at hrows
      rw [← hrows, List.length_map, List.take_length, forall₂_infoRow] at hjoins
      exact hjoins
    · rintro ⟨-, hjoins⟩
      refine ⟨_, Or.inl rfl, _, tcpConnInfo_after, ?_⟩
      rwa [List.length_map, List.take_length, forall₂_infoRow]
  · rw [hundefined]
    constructor
    · rintro ⟨t, hrun | ⟨e, hrun⟩, -⟩ <;> cases hrun
    · exact fun h => absurd h.1 hirregular

lemma steady_kept (hkept : kept sel.argument ≠ []) :
    Steady engine it sel db snaps ↔ Throughout Regular snaps ∧
      ∀ m ∈ measurements snaps,
        Joins engine (Logger.after it sel.argument ⟨db, []⟩ (measurements snaps)).db m (infoRow it sel.argument m) := by
  have hfirst : ∀ m ∈ measurements snaps, ∃ m₀, (measurements snaps).find? (·.2 = m.2) = some m₀ := by
    intro m hm
    apply Option.isSome_iff_exists.mp
    rw [List.find?_isSome]
    exact ⟨m, hm, by simp⟩
  constructor
  · intro h
    have hregular : Throughout Regular snaps := fun pre snap post heq =>
      h.regular pre snap post heq fun hnil => absurd hnil hkept
    refine ⟨hregular, fun m hm => ?_⟩
    obtain ⟨m₀, hm₀⟩ := hfirst m hm
    have hplace : m₀.2 = m.2 := by simpa using List.find?_some hm₀
    exact (joins_iff hregular hm₀).mpr
      ⟨h.unused hkept m hm, h.addresses hkept m hm m₀ (List.mem_of_find?_eq_some hm₀) hplace⟩
  · rintro ⟨hregular, hjoins⟩
    refine ⟨fun pre snap post heq _ => hregular pre snap post heq, ?_, ?_⟩
    · intro _ m hm
      obtain ⟨m₀, hm₀⟩ := hfirst m hm
      exact ((joins_iff hregular hm₀).mp (hjoins m hm)).1
    · intro _ m hm m' hm' hsame
      obtain ⟨m₀, hm₀⟩ := hfirst m hm
      have hm₀' : (measurements snaps).find? (·.2 = m'.2) = some m₀ := by rw [hsame, hm₀]
      have h₀ := ((joins_iff hregular hm₀).mp (hjoins m hm)).2
      have h₀' := ((joins_iff hregular hm₀').mp (hjoins m' hm')).2
      exact h₀'.symm.trans h₀

end Kept

section Empty

variable {engine : Engine} {it : IterationId} {sel : Selection} {db : Database} {snaps : List Snapshot}

lemma attributed_empty (hkept : kept sel.argument = []) :
    Attributed engine it sel db snaps ↔
      Throughout (fun pre snap => Reached sel pre → Regular pre snap) snaps := by
  unfold Attributed
  rw [runLogger_eq]
  constructor
  · rintro ⟨t, hrun, -⟩ pre snap post rfl hreached
    by_contra hirregular
    have hfirst : ¬ Regular [] snap := fun h => hirregular ⟨h.few, fun _ => h.known nofun⟩
    rw [logRounds_first (hreached hkept) (logRound_empty_undefined rfl hfirst)] at hrun
    rcases hrun with hrun | ⟨e, hrun⟩ <;> cases hrun
  · intro h
    rcases first_subflow snaps with hidle | ⟨pre, snap, post, rfl, hpre, hpos⟩
    · exact ⟨_, Or.inl (logRounds_idle hidle), [], (List.append_nil _).symm, .nil⟩
    · have hregular := h pre snap post rfl fun _ => hpre
      have hknown : snap.Known := hregular.known fun p hp => by rwa [hpre p hp]
      obtain ⟨t, hround, htable⟩ : ∃ t, logRound it sel.argument snap.round ⟨db, []⟩ =
          .error (.raised .operationalError) t ∧ t.db.tcpConnInfo = db.tcpConnInfo :=
        logRound_empty hkept hregular.few hpos hknown
      refine ⟨t, Or.inr ⟨_, logRounds_first hpre hround⟩, [], ?_, .nil⟩
      rw [htable, List.append_nil]

end Empty

section Results

/-- The rows of a run join their subflows exactly when each place keeps its addresses. -/
theorem attributed_iff (engine : Engine) (it : IterationId) (sel : Selection) (db : Database) (snaps : List Snapshot) :
    Attributed engine it sel db snaps ↔ Steady engine it sel db snaps := by
  by_cases hkept : kept sel.argument = []
  · rw [attributed_empty hkept]
    constructor
    · exact fun h => ⟨h, fun hne => absurd hkept hne, fun hne => absurd hkept hne⟩
    · exact Steady.regular
  · rw [attributed_kept hkept, steady_kept hkept]

def bothPaths : Snapshot := ⟨[⟨cablePath, .zero⟩, ⟨phonePath, .zero⟩], by decide⟩
def phoneOnly : Snapshot := ⟨[⟨phonePath, .zero⟩], by decide⟩

/-- The cable goes away, and its place is taken by the phone. -/
theorem handover_not_attributed : ¬ Attributed .plain someRun .all ⟨[], []⟩ [bothPaths, phoneOnly] := by
  have hkept : kept Selection.all.argument ≠ [] := by
    have hrtt : TcpiField.rtt ∈ kept Selection.all.argument := mem_kept.mpr (by decide)
    exact List.ne_nil_of_mem hrtt
  intro h
  have hsteady := (steady_kept hkept).mpr ((attributed_kept hkept).mp h)
  have hsame : cablePath.texts = phonePath.texts := by
    apply hsteady.addresses hkept (⟨phonePath, .zero⟩, 0) ?_ (⟨cablePath, .zero⟩, 0) ?_ rfl
    · exact List.mem_flatMap.mpr ⟨phoneOnly, by simp, List.mem_singleton.mpr rfl⟩
    · exact List.mem_flatMap.mpr ⟨bothPaths, by simp, List.mem_cons_self⟩
  exact absurd hsame (by decide +kernel)

end Results

end TransportConverter.Performance
