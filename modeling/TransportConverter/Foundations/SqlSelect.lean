import TransportConverter.Foundations.Sql

/-! The text of a statement that selects rows by the values of some columns, and what it fetches. -/

namespace TransportConverter.Foundations.Sql

section Statements

/-- No list of columns stands for all of them. -/
structure Select where
  columns : Option (List String)
  table : String
  conditions : List (String × String)
  deriving DecidableEq

def resultColumns : List Token → Option (List String × List Token)
  | .word c :: .mark ',' :: ts => (resultColumns ts).map fun (cs, rest) => (c :: cs, rest)
  | .word c :: .word "FROM" :: ts => some ([c], ts)
  | _ => none

def conditions : List Token → Option (List (String × String))
  | [.word c, .mark '=', .param p] => some [(c, p)]
  | .word c :: .mark '=' :: .param p :: .word "AND" :: ts => (conditions ts).map ((c, p) :: ·)
  | _ => none

def parseFrom (columns : Option (List String)) : List Token → Option Select
  | .word table :: .word "WHERE" :: ts => (conditions ts).map fun cs => ⟨columns, table, cs⟩
  | _ => none

def parseSelect : List Token → Option Select
  | .word "SELECT" :: .mark '*' :: .word "FROM" :: ts => parseFrom none ts
  | .word "SELECT" :: ts =>
    match resultColumns ts with
    | some (cs, ts) => parseFrom (some cs) ts
    | none => none
  | _ => none

variable {names : List String} {pre post : String}

lemma resultColumns_commas (hne : names ≠ []) (rest : List Token) :
    resultColumns (commas (names.map .word) ++ .word "FROM" :: rest) = some (names, rest) := by
  induction names with
  | nil => exact absurd rfl hne
  | cons name names ih =>
    cases names with
    | nil => rfl
    | cons name' names =>
      have hih := ih (List.cons_ne_nil _ _)
      rw [List.map_cons, commas_cons (by simp), List.cons_append, List.cons_append, resultColumns, hih]
      rfl

lemma lex_listed (hnames : ∀ name ∈ names, IsName name) (hpre : Closed pre.toList)
    (hpost : Ended post.toList) :
    lex (pre ++ ", ".intercalate names ++ post).toList =
      lex pre.toList ++ commas (names.map .word) ++ lex post.toList := by
  have hwords : List.Forall₂ (fun text t => Spells text.toList t) names (names.map .word) := by
    rw [List.forall₂_map_right_iff]
    exact List.forall₂_same.mpr fun name hname => (hnames name hname).spells_word
  simp only [String.toList_append, List.append_assoc]
  rw [lex_closed hpre, lex_join hwords hpost]

end Statements

section Fetched

/-- `=` is true of no `NULL`, and a text is no number. Two numbers are left to `sameNumber` when one of them
was read from a text. -/
def Cell.equals (sameNumber : Cell → Cell → Bool) : Cell → Cell → Bool
  | .null, _ | _, .null => false
  | .integer n, .integer k => n = k
  | .text s, .text t => s = t
  | .text _, _ | _, .text _ => false
  | x, y => sameNumber x y

/-- The order in which a table is visited. It is left open, but for rows that agree in both columns of the
index: these come as they were inserted. -/
structure Scan (names index : List String) where
  visit : List (Row names) → List (Row names)
  stable : ∀ rows (key : String → Cell),
    (visit rows).filter (fun row => ∀ c ∈ index, row.at c = key c) =
      rows.filter fun row => ∀ c ∈ index, row.at c = key c

def Scan.table (names index : List String) : Scan names index := ⟨id, fun _ _ => rfl⟩

namespace Select

variable {names index : List String} (stmt : Select) (scan : Scan names index)
  (sameNumber : Cell → Cell → Bool) (rows : List (Row names)) (binding : String → Except SqlError Cell)

def tuple (row : Row names) : List Cell :=
  match stmt.columns with
  | none => row.cells
  | some columns => columns.map row.at

def chosen (values : List Cell) : List (Row names) :=
  scan.visit rows |>.filter fun row =>
    (stmt.conditions.zip values).all fun (condition, value) =>
      (row.at condition.1).equals sameNumber value.stored

def fetch : Except SqlError (List (List Cell)) :=
  if (stmt.columns.getD []).all (names.contains ·) = false then .error .operational
  else if stmt.conditions.all (names.contains ·.1) = false then .error .operational
  else
    (stmt.conditions.mapM fun condition => binding condition.2).map fun values =>
      (stmt.chosen scan sameNumber rows values).map stmt.tuple

end Select

variable {sameNumber : Cell → Cell → Bool} {names index : List String} {rows : List (Row names)}
  {row : Row names} {scan : Scan names index}

lemma Scan.mem_visit : row ∈ scan.visit rows ↔ row ∈ rows := by
  have hfilter := congrArg (row ∈ ·) (scan.stable rows row.at)
  simpa only [List.mem_filter, implies_true, decide_true, and_true, eq_iff_iff] using hfilter

lemma Select.fetch_ok {columns : Option (List String)} {conditions : List (String × String)}
    {binding : String → Except SqlError Cell} {values : List Cell} (table : String)
    (hcolumns : ∀ c ∈ columns.getD [], c ∈ names) (hconditions : ∀ c ∈ conditions, c.1 ∈ names)
    (hvalues : conditions.mapM (fun condition => binding condition.2) = .ok values) :
    Select.fetch ⟨columns, table, conditions⟩ scan sameNumber rows binding =
      .ok ((Select.chosen ⟨columns, table, conditions⟩ scan sameNumber rows values).map
        (Select.tuple ⟨columns, table, conditions⟩)) := by
  have hcolumns' : (columns.getD []).all (names.contains ·) = true := by
    simpa only [List.all_eq_true, List.contains_iff_mem] using hcolumns
  have hconditions' : conditions.all (names.contains ·.1) = true := by
    simpa only [List.all_eq_true, List.contains_iff_mem] using hconditions
  rw [Select.fetch, hcolumns', hconditions', hvalues]
  rfl

@[simp] lemma equals_text {x : Cell} {s : String} :
    x.equals sameNumber (.text s) = true ↔ x = .text s := by
  cases x <;> simp [Cell.equals]

lemma equals_integer {n k : ℤ} :
    (Cell.integer n).equals sameNumber (.integer k) = true ↔ n = k := by
  simp [Cell.equals]

end Fetched

end TransportConverter.Foundations.Sql
