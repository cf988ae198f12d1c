import TransportConverter.Foundations.SqlSelect
import TransportConverter.Performance.Measurements

/-! The statements of `db.py` that read, and the rows of one run. -/

namespace TransportConverter.Performance

open Foundations.Sql Wire

def indexColumns : List String := ["iteration_id", "subflow_id"]

/-- What the statements leave to SQLite. -/
structure Engine where
  subflows : Scan subflowsColumns indexColumns
  tcpConnInfo : Scan tcpConnInfoColumns indexColumns
  sameNumber : Cell → Cell → Bool

def Engine.plain : Engine := ⟨.table _ _, .table _ _, fun x y => x = y⟩

def bindCell (params : List (String × Cell)) (name : String) : Except SqlError Cell :=
  match params.lookup name with
  | none => .error .programming
  | some cell => .ok cell

namespace Database

variable (engine : Engine) (db : Database)

/-- `cursor.execute` of a statement that selects, and `cursor.fetchall`. The values bound are what cells
give to Python. -/
def fetchall (text : String) (params : List (String × Cell)) : Except SqlError (List (List Cell)) :=
  match parseSelect (lex text.toList) with
  | none => .error .operational
  | some stmt =>
    if stmt.table = "subflows" then
      stmt.fetch engine.subflows engine.sameNumber db.subflows (bindCell params)
    else if stmt.table = "tcp_conn_info" then
      stmt.fetch engine.tcpConnInfo engine.sameNumber db.tcpConnInfo (bindCell params)
    else .error .operational

def readSubflow (iterationId subflowId : Cell) : Except SqlError (Option (List Cell)) :=
  (db.fetchall engine
    ("\n            SELECT *\n            FROM subflows" ++
      "\n            WHERE iteration_id = :iteration_id AND subflow_id = :subflow_id\n        ")
    [("iteration_id", iterationId), ("subflow_id", subflowId)]).map List.head?

def readAllSubflows (iterationId : Cell) : Except SqlError (List (List Cell)) :=
  db.fetchall engine
    ("\n            SELECT *\n            FROM subflows" ++
      "\n            WHERE iteration_id = :iteration_id\n        ")
    [("iteration_id", iterationId)]

def selectPrefix : String := "\n            SELECT "
def selectSuffix : String :=
  "\n            FROM tcp_conn_info" ++
    "\n            WHERE iteration_id = :iteration_id AND subflow_id = :subflow_id\n        "

def readSubflowTcpConnInfo (iterationId subflowId : Cell) (fields : List String) :
    Except SqlError (List (List Cell)) :=
  db.fetchall engine (selectPrefix ++ ", ".intercalate fields ++ selectSuffix)
    [("iteration_id", iterationId), ("subflow_id", subflowId)]

def restrict (it : String) : Database where
  subflows := db.subflows.filter fun row => row.at "iteration_id" = .text it
  tcpConnInfo := db.tcpConnInfo.filter fun row => row.at "iteration_id" = .text it

end Database

section Parsed

variable {fields : List String}

lemma parse_readSubflow :
    parseSelect (lex ("\n            SELECT *\n            FROM subflows" ++
      "\n            WHERE iteration_id = :iteration_id AND subflow_id = :subflow_id\n        ").toList) =
      some ⟨none, "subflows", [("iteration_id", "iteration_id"), ("subflow_id", "subflow_id")]⟩ := by
  decide +kernel

lemma parse_readAllSubflows :
    parseSelect (lex ("\n            SELECT *\n            FROM subflows" ++
      "\n            WHERE iteration_id = :iteration_id\n        ").toList) =
      some ⟨none, "subflows", [("iteration_id", "iteration_id")]⟩ := by
  decide +kernel

lemma lex_selectPrefix : lex Database.selectPrefix.toList = [.word "SELECT"] := by
  decide +kernel

lemma lex_selectSuffix : lex Database.selectSuffix.toList =
    [.word "FROM", .word "tcp_conn_info", .word "WHERE", .word "iteration_id", .mark '=',
      .param "iteration_id", .word "AND", .word "subflow_id", .mark '=', .param "subflow_id"] := by
  decide +kernel

lemma parseSelect_words {ts : List Token} (hne : fields ≠ []) :
    parseSelect (.word "SELECT" :: (commas (fields.map .word) ++ .word "FROM" :: ts)) =
      parseFrom (some fields) ts := by
  have hcolumns := resultColumns_commas hne ts
  obtain ⟨name, fields, rfl⟩ := List.exists_cons_of_ne_nil hne
  cases fields with
  | nil => rfl
  | cons name' fields =>
    rw [List.map_cons, commas_cons (by simp), List.cons_append] at hcolumns ⊢
    simp only [parseSelect, hcolumns]

lemma parse_readSubflowTcpConnInfo (hnames : ∀ name ∈ fields, IsName name) (hne : fields ≠ []) :
    parseSelect (lex (Database.selectPrefix ++ ", ".intercalate fields ++ Database.selectSuffix).toList) =
      some ⟨some fields, "tcp_conn_info",
        [("iteration_id", "iteration_id"), ("subflow_id", "subflow_id")]⟩ := by
  rw [lex_listed hnames (by decide +kernel) (by decide +kernel), lex_selectPrefix, lex_selectSuffix]
  exact parseSelect_words hne

end Parsed

section Fetched

variable {engine : Engine} {db : Database} {it : String} {fields : List String} {i : ℕ}

lemma fetchall_subflows {text : String} {params : List (String × Cell)} {stmt : Select}
    (h : parseSelect (lex text.toList) = some stmt) (htable : stmt.table = "subflows") :
    db.fetchall engine text params =
      stmt.fetch engine.subflows engine.sameNumber db.subflows (bindCell params) := by
  rw [Database.fetchall, h]
  exact if_pos htable

lemma fetchall_tcpConnInfo {text : String} {params : List (String × Cell)} {stmt : Select}
    (h : parseSelect (lex text.toList) = some stmt) (htable : stmt.table = "tcp_conn_info") :
    db.fetchall engine text params =
      stmt.fetch engine.tcpConnInfo engine.sameNumber db.tcpConnInfo (bindCell params) := by
  have hother : stmt.table ≠ "subflows" := by
    rw [htable]
    decide
  rw [Database.fetchall, h]
  dsimp only
  rw [if_neg hother, if_pos htable]

lemma readAllSubflows_eq (hit : (Cell.text it).stored = .text it) :
    db.readAllSubflows engine (.text it) =
      .ok (((engine.subflows.visit db.subflows).filter
        fun row => row.at "iteration_id" = .text it).map Row.cells) := by
  have hvalues : [("iteration_id", "iteration_id")].mapM (fun condition : String × String =>
      bindCell [("iteration_id", Cell.text it)] condition.2) = .ok [.text it] := rfl
  rw [Database.readAllSubflows, fetchall_subflows parse_readAllSubflows rfl,
    Select.fetch_ok "subflows" (List.forall_mem_nil _) (by decide) hvalues]
  refine congrArg Except.ok (congrArg (List.map Row.cells) (List.filter_congr fun row _ => ?_))
  apply Bool.eq_iff_iff.mpr
  simp only [List.zip_cons_cons, List.zip_nil_left, List.all_cons, List.all_nil, Bool.and_true, hit,
    equals_text, decide_eq_true_eq]

lemma chosen_indexed {names : List String} {scan : Scan names indexColumns} {rows : List (Row names)}
    {columns : Option (List String)} {table : String} (hit : (Cell.text it).stored = .text it)
    (hrows : ∀ row ∈ rows, row.at "iteration_id" = .text it → ∃ k : ℕ, row.at "subflow_id" = .integer k) :
    Select.chosen ⟨columns, table, [("iteration_id", "iteration_id"), ("subflow_id", "subflow_id")]⟩ scan
        engine.sameNumber rows [.text it, .integer i] =
      rows.filter fun row => row.at "iteration_id" = .text it ∧ row.at "subflow_id" = .integer i := by
  let key : String → Cell := fun c => if c = "iteration_id" then .text it else .integer i
  have hstable := scan.stable rows key
  have hkey : ∀ row : Row names, (∀ c ∈ indexColumns, row.at c = key c) ↔
      row.at "iteration_id" = .text it ∧ row.at "subflow_id" = .integer i := by
    intro row
    simp [indexColumns, key]
  simp only [hkey] at hstable
  rw [← hstable, Select.chosen]
  refine List.filter_congr fun row hrow => ?_
  have hinteger : row.at "iteration_id" = .text it →
      ((row.at "subflow_id").equals engine.sameNumber (.integer i) = true ↔ row.at "subflow_id" = .integer i) := by
    intro howner
    obtain ⟨k, hk⟩ := hrows row (Scan.mem_visit.mp hrow) howner
    rw [hk, equals_integer, Cell.integer.injEq]
  have hstored : (Cell.integer i).stored = .integer i := rfl
  apply Bool.eq_iff_iff.mpr
  simp only [List.zip_cons_cons, List.zip_nil_left, List.all_cons, List.all_nil, Bool.and_true, hit, hstored,
    Bool.and_eq_true, equals_text, decide_eq_true_eq]
  exact and_congr_right hinteger

lemma indexed_values :
    [("iteration_id", "iteration_id"), ("subflow_id", "subflow_id")].mapM
      (fun condition : String × String =>
        bindCell [("iteration_id", .text it), ("subflow_id", .integer i)] condition.2) =
      .ok [.text it, .integer i] := rfl

lemma readSubflow_eq (hit : (Cell.text it).stored = .text it)
    (hrows : ∀ row ∈ db.subflows, row.at "iteration_id" = .text it →
      ∃ k : ℕ, row.at "subflow_id" = .integer k) :
    db.readSubflow engine (.text it) (.integer i) =
      .ok (((db.subflows.filter fun row =>
        row.at "iteration_id" = .text it ∧ row.at "subflow_id" = .integer i).map Row.cells).head?) := by
  rw [Database.readSubflow, fetchall_subflows parse_readSubflow rfl,
    Select.fetch_ok "subflows" (List.forall_mem_nil _) (by decide) indexed_values, chosen_indexed hit hrows]
  rfl

lemma readSubflowTcpConnInfo_eq (hit : (Cell.text it).stored = .text it)
    (hnames : ∀ name ∈ fields, IsName name) (hcolumns : ∀ name ∈ fields, name ∈ tcpConnInfoColumns)
    (hne : fields ≠ [])
    (hrows : ∀ row ∈ db.tcpConnInfo, row.at "iteration_id" = .text it →
      ∃ k : ℕ, row.at "subflow_id" = .integer k) :
    db.readSubflowTcpConnInfo engine (.text it) (.integer i) fields =
      .ok ((db.tcpConnInfo.filter fun row =>
        row.at "iteration_id" = .text it ∧ row.at "subflow_id" = .integer i).map
          fun row => fields.map row.at) := by
  have hselected : ∀ name ∈ (some fields).getD [], name ∈ tcpConnInfoColumns := hcolumns
  rw [Database.readSubflowTcpConnInfo, fetchall_tcpConnInfo (parse_readSubflowTcpConnInfo hnames hne) rfl,
    Select.fetch_ok "tcp_conn_info" hselected (by decide) indexed_values, chosen_indexed hit hrows]
  rfl

end Fetched

end TransportConverter.Performance
