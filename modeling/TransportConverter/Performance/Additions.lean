import TransportConverter.Performance.Queries
import TransportConverter.Performance.Rounds

/-! A logger never reads the tables: what it does is decided by its cache and the answers it gets, and it
only adds rows with its own iteration id. -/

namespace TransportConverter.Performance

open Foundations Foundations.Effects Foundations.Sql Foundations.Watched Wire

namespace Database

variable (db added : Database) (it other : String)

def append : Database := ⟨db.subflows ++ added.subflows, db.tcpConnInfo ++ added.tcpConnInfo⟩

def empty : Database := ⟨[], []⟩

@[simp] lemma append_empty : db.append empty = db := by
  simp [append, empty]

lemma append_assoc (more : Database) : (db.append added).append more = db.append (added.append more) := by
  simp [append]

@[simp] lemma restrict_append : (db.append added).restrict it = (db.restrict it).append (added.restrict it) := by
  simp [append, restrict]

@[simp] lemma restrict_restrict : (db.restrict it).restrict it = db.restrict it := by
  simp [restrict]

variable {other}

lemma restrict_other (h : other ≠ it) : (db.restrict it).restrict other = empty := by
  simp only [restrict, empty, List.filter_filter, mk.injEq, List.filter_eq_nil_iff, Bool.and_eq_true,
    decide_eq_true_eq, not_and]
  constructor
  · intro row _ hother hit
    exact h (Cell.text.inj (hother.symm.trans hit))
  · intro row _ hother hit
    exact h (Cell.text.inj (hother.symm.trans hit))

end Database

section Adding

/-- A program whose outcome does not depend on the tables, and whose rows are those of one run. -/
def Adds {α : Type} (it : IterationId) (x : Py α) : Prop :=
  ∀ cache, ∃ (result : Except Fault α) (added : Database) (cache' : List PyValue),
    added.restrict it.text = added ∧ ∀ db, x ⟨db, cache⟩ = ofExcept result ⟨db.append added, cache'⟩

variable {it : IterationId} {α β : Type} {x : Py α} {f : α → Py β}

lemma adds_ofExcept (result : Except Fault α) : Adds it (ofExcept result) := by
  intro cache
  exact ⟨result, .empty, cache, rfl, fun db => by rw [Database.append_empty]⟩

lemma adds_pure (a : α) : Adds it (pure a : Py α) := adds_ofExcept (.ok a)

lemma adds_throw (e : Fault) : Adds it (throw e : Py α) := adds_ofExcept (.error e)

lemma Adds.bind (hx : Adds it x) (hf : ∀ a, Adds it (f a)) : Adds it (x >>= f) := by
  intro cache
  obtain ⟨result, added, cache', hown, hrun⟩ := hx cache
  cases result with
  | error e => exact ⟨.error e, added, cache', hown, fun db => bind_of_error (hrun db)⟩
  | ok a =>
    obtain ⟨result, more, cache'', hmore, hrun'⟩ := hf a cache'
    refine ⟨result, added.append more, cache'', ?_, fun db => ?_⟩
    · rw [Database.restrict_append, hown, hmore]
    · rw [bind_of_ok (hrun db), hrun', Database.append_assoc]

def AddsRow (it : IterationId) (statement : Database → Except SqlError Database) : Prop :=
  (∃ e, ∀ db, statement db = .error e) ∨
    ∃ added : Database, added.restrict it.text = added ∧ ∀ db, statement db = .ok (db.append added)

lemma AddsRow.commit {statement : Database → Except SqlError Database} (h : AddsRow it statement) :
    Adds it (commit statement) := by
  intro cache
  rcases h with ⟨e, he⟩ | ⟨added, hown, hadded⟩
  · refine ⟨.error (.raised (errorOf e)), .empty, cache, rfl, fun db => ?_⟩
    rw [Performance.commit, he, Database.append_empty]
    rfl
  · exact ⟨.ok (), added, cache, hown, fun db => commit_ok (hadded db)⟩

end Adding

section Statements

variable {it : IterationId} {tcpi : PyDict} {sid localAddr remoteAddr : PyValue}

lemma Insert.at_first {table c p : String} {names columns params : List String}
    {binding : String → Except SqlError Cell} {row : Row names}
    (h : Insert.row ⟨table, c :: columns, p :: params⟩ names binding = .ok row) :
    ∃ v, binding p = .ok v ∧ row.at c = v.stored := by
  unfold Insert.row at h
  split_ifs at h with hunknown hlength
  have hc : c ∈ names := by
    rw [Bool.not_eq_false, List.all_cons, Bool.and_eq_true, List.contains_iff_mem] at hunknown
    exact hunknown.1
  rw [List.mapM_cons] at h
  cases hv : binding p with
  | error e =>
    rw [hv] at h
    cases h
  | ok v =>
    cases hvs : params.mapM binding with
    | error e =>
      rw [hv] at h
      dsimp only [] at h
      rw [hvs] at h
      cases h
    | ok vs =>
      rw [hv] at h
      dsimp only [] at h
      rw [hvs] at h
      cases h
      refine ⟨v, rfl, ?_⟩
      rw [Row.at_of hc]
      simp

lemma bindParam_text {params : PyDict} {name s : String} :
    bindParam ((name, .str s) :: params) name = .ok (.text s) := by
  rw [bindParam, List.lookup_cons, BEq.rfl]

lemma filter_ownRow {columns : List String} {row : Row columns}
    (h : row.at "iteration_id" = (Cell.text it.text).stored) :
    [row].filter (fun row => row.at "iteration_id" = .text it.text) = [row] := by
  rw [it.stored] at h
  simp [h]

lemma addsRow_execute {text table : String} {params : PyDict} {columns values : List String}
    (hparse : parseInsert (lex text.toList) =
      some ⟨table, "iteration_id" :: columns, "iteration_id" :: values⟩)
    (hparams : bindParam params "iteration_id" = .ok (.text it.text)) :
    AddsRow it (·.execute text params) := by
  let stmt : Insert := ⟨table, "iteration_id" :: columns, "iteration_id" :: values⟩
  have hown : ∀ {names} {row : Row names}, stmt.row names (bindParam params) = .ok row →
      [row].filter (fun row => row.at "iteration_id" = .text it.text) = [row] := by
    intro names row hrow
    obtain ⟨v, hv, hat⟩ := Insert.at_first hrow
    rw [hparams] at hv
    cases hv
    exact filter_ownRow hat
  simp only [AddsRow, Database.execute, hparse]
  split_ifs
  · cases hrow : stmt.row subflowsColumns (bindParam params) with
    | error e => exact Or.inl ⟨e, fun db => rfl⟩
    | ok row =>
      refine Or.inr ⟨⟨[row], []⟩, ?_, fun db => ?_⟩
      · rw [Database.restrict, hown hrow]
        rfl
      · rw [Database.append, List.append_nil]
        rfl
  · cases hrow : stmt.row tcpConnInfoColumns (bindParam params) with
    | error e => exact Or.inl ⟨e, fun db => rfl⟩
    | ok row =>
      refine Or.inr ⟨⟨[], [row]⟩, ?_, fun db => ?_⟩
      · rw [Database.restrict, hown hrow]
        rfl
      · rw [Database.append, List.append_nil]
        rfl
  · exact Or.inl ⟨.operational, fun db => rfl⟩

lemma addsRow_insertSubflow :
    AddsRow it (·.insertSubflow (.str it.text) sid localAddr remoteAddr) :=
  addsRow_execute parse_insertSubflow bindParam_text

def Keyed (d : PyDict) : Prop := ∀ item ∈ d, IsName item.1

lemma keyed_presentFields (h : Keyed tcpi) : ∀ name ∈ Database.presentFields tcpi, IsName name := by
  intro name hname
  obtain ⟨item, hitem, rfl⟩ := List.mem_map.mp hname
  exact h item (List.mem_filter.mp hitem).1

lemma parse_noField :
    parseInsert (lex (Database.insertPrefix ++ ", ".intercalate [] ++ Database.insertMiddle ++
      ", ".intercalate ([].map (":" ++ ·)) ++ Database.insertSuffix).toList) = none := by
  rw [lex_insertSubflowTcpConnInfo (List.forall_mem_nil _), lex_insertPrefix, lex_insertMiddle,
    lex_insertSuffix]
  rfl

lemma addsRow_insertSubflowTcpConnInfo (h : Keyed tcpi) :
    AddsRow it (·.insertSubflowTcpConnInfo (.str it.text) sid tcpi) := by
  by_cases hne : Database.presentFields tcpi = []
  · refine Or.inl ⟨.operational, fun db => ?_⟩
    dsimp only
    rw [Database.insertSubflowTcpConnInfo, hne, Database.execute, parse_noField]
  · exact addsRow_execute (parse_insertSubflowTcpConnInfo (keyed_presentFields h) hne) bindParam_text

end Statements

section Turns

variable {it : IterationId} {features : Features} {answer : Answer SubflowAddrs} {sid : PyValue}
  {subflow : PyDict}

lemma adds_ite {α : Type} {c : Prop} [Decidable c] {x y : Py α} (hx : Adds it x) (hy : Adds it y) :
    Adds it (if c then x else y) := by
  split_ifs
  · exact hx
  · exact hy

lemma adds_read {α : Type} {f : Logger → Py α} (h : ∀ s, Adds it (f s))
    (hcache : ∀ s t, s.insertedSubflowsCache = t.insertedSubflowsCache → f s = f t) :
    Adds it (get >>= f) := by
  intro cache
  obtain ⟨result, added, cache', hown, hrun⟩ := h ⟨.empty, cache⟩ cache
  refine ⟨result, added, cache', hown, fun db => ?_⟩
  show f ⟨db, cache⟩ ⟨db, cache⟩ = _
  rw [hcache ⟨db, cache⟩ ⟨.empty, cache⟩ rfl, hrun]

lemma adds_cache (f : List PyValue → List PyValue) :
    Adds it (modify fun s => { s with insertedSubflowsCache := f s.insertedSubflowsCache }) := by
  intro cache
  exact ⟨.ok (), .empty, f cache, rfl, fun db => by rw [Database.append_empty]; rfl⟩

lemma adds_recordSubflow : Adds it (recordSubflow it answer sid) := by
  apply adds_read
  · intro s
    apply adds_ite (adds_pure _)
    refine (adds_ofExcept _).bind fun infos => (adds_ofExcept _).bind fun sinfos =>
      (adds_ofExcept _).bind fun sinfo => adds_ite (adds_throw _) ?_
    refine (adds_ofExcept _).bind fun localAddr => (adds_ofExcept _).bind fun remoteAddr => ?_
    exact addsRow_insertSubflow.commit.bind fun _ => adds_cache (· ++ [sid])
  · intro s t hcache
    rw [hcache]

lemma adds_insert (h : Keyed subflow) :
    Adds it (commit (·.insertSubflowTcpConnInfo (.str it.text) sid (filterFeatures features subflow))) := by
  apply (addsRow_insertSubflowTcpConnInfo ?_).commit
  intro item hitem
  rw [filterFeatures_eq] at hitem
  exact h item (List.mem_filter.mp hitem).1

lemma id_name : IsName "id" := by
  have hspelled : "id".toList.all isWordChar = true := by decide +kernel
  exact ⟨List.all_eq_true.mp hspelled, by decide⟩

lemma keyed_tcpInfoDict (i : ℕ) (ti : TcpInfo) : Keyed (tcpInfoDict i ti) := by
  intro item hitem
  rcases List.mem_cons.mp hitem with rfl | hitem
  · exact id_name
  · obtain ⟨f, -, rfl⟩ := List.mem_map.mp hitem
    exact key_name f

lemma keyed_query {answer : Answer TcpInfo} {slots : List (Option PyDict)}
    (h : ofQuery (mptcpUtilGetSubflowTcpInfo answer) = .ok slots) : ∀ d, some d ∈ slots → Keyed d := by
  cases answer with
  | failed errno text => cases h
  | filled n ti =>
    by_cases hn : (intOf n).toNat ≤ 2
    · rw [ofQuery, value_subflowTcpInfo hn] at h
      cases h
      intro d hd
      obtain ⟨i, hi⟩ := List.getElem?_of_mem hd
      obtain ⟨info, -, hinfo⟩ := getElem?_mapIdx_some hi
      cases hinfo
      exact keyed_tcpInfoDict i info
    · have hnone : (mptcpUtilGetSubflowTcpInfo (.filled n ti)).value = none := by
        rw [mptcpUtilGetSubflowTcpInfo, value_bind, value_forEach_outside (Nat.zero_le _)]
        · rfl
        · rw [List.Vector.toList_length]
          omega
      rw [ofQuery, hnone] at h
      cases h

end Turns

end TransportConverter.Performance
