import TransportConverter.Foundations.Sql
import TransportConverter.Performance.Subflows

/-! The tables of `db.py` and the two statements that insert into them. -/

namespace TransportConverter.Performance

open Foundations.Sql Wire

def subflowsColumns : List String := ["iteration_id", "subflow_id", "local_addr", "remote_addr"]

def tcpConnInfoColumns : List String :=
  ["iteration_id", "subflow_id", "tcpi_retransmits", "tcpi_probes", "tcpi_backoff", "tcpi_options",
    "tcpi_snd_wscale", "tcpi_rcv_wscale", "tcpi_delivery_rate_app_limited",
    "tcpi_fastopen_client_fail", "tcpi_rto", "tcpi_ato", "tcpi_snd_mss", "tcpi_rcv_mss",
    "tcpi_unacked", "tcpi_sacked", "tcpi_lost", "tcpi_retrans", "tcpi_fackets",
    "tcpi_last_data_sent", "tcpi_last_ack_sent", "tcpi_last_data_recv", "tcpi_last_ack_recv",
    "tcpi_pmtu", "tcpi_rcv_ssthresh", "tcpi_rtt", "tcpi_rttvar", "tcpi_snd_ssthresh",
    "tcpi_snd_cwnd", "tcpi_advmss", "tcpi_reordering", "tcpi_rcv_rtt", "tcpi_rcv_space",
    "tcpi_total_retrans", "tcpi_pacing_rate", "tcpi_max_pacing_rate", "tcpi_bytes_acked",
    "tcpi_bytes_received", "tcpi_segs_out", "tcpi_segs_in", "tcpi_notsent_bytes",
    "tcpi_min_rtt", "tcpi_data_segs_in", "tcpi_data_segs_out", "tcpi_delivery_rate",
    "tcpi_busy_time", "tcpi_rwnd_limited", "tcpi_sndbuf_limited", "tcpi_delivered",
    "tcpi_delivered_ce", "tcpi_bytes_sent", "tcpi_bytes_retrans", "tcpi_dsack_dups",
    "tcpi_reord_seen", "tcpi_rcv_ooopack"]

structure Database where
  subflows : List (Row subflowsColumns)
  tcpConnInfo : List (Row tcpConnInfoColumns)
  deriving DecidableEq

def bindParam (params : PyDict) (name : String) : Except SqlError Cell :=
  match params.lookup name with
  | none => .error .programming
  | some .none => .ok .null
  | some (.int n) => if -2 ^ 63 ≤ n ∧ n < 2 ^ 63 then .ok (.integer n) else .error .overflow
  | some (.str s) => .ok (.text s)

namespace Database

variable (db : Database)

def execute (text : String) (params : PyDict) : Except SqlError Database :=
  match parseInsert (lex text.toList) with
  | none => .error .operational
  | some stmt =>
    if stmt.table = "subflows" then
      (stmt.row subflowsColumns (bindParam params)).map fun row => { db with subflows := db.subflows ++ [row] }
    else if stmt.table = "tcp_conn_info" then
      (stmt.row tcpConnInfoColumns (bindParam params)).map fun row =>
        { db with tcpConnInfo := db.tcpConnInfo ++ [row] }
    else .error .operational

def insertSubflow (iterationId subflowId localAddr remoteAddr : PyValue) : Except SqlError Database :=
  db.execute
    ("\n            INSERT INTO subflows (iteration_id, subflow_id, local_addr, remote_addr)" ++
      "\n            VALUES (:iteration_id, :subflow_id, :local_addr, :remote_addr)\n        ")
    [("iteration_id", iterationId), ("subflow_id", subflowId), ("local_addr", localAddr),
      ("remote_addr", remoteAddr)]

def presentFields (tcpi : PyDict) : List String := (tcpi.filter fun item => item.2 ≠ .none).map Prod.fst

def insertPrefix : String := "\n            INSERT INTO tcp_conn_info (iteration_id, subflow_id, "
def insertMiddle : String := ")\n            VALUES (:iteration_id, :subflow_id, "
def insertSuffix : String := ")\n        "

def insertSubflowTcpConnInfo (iterationId subflowId : PyValue) (tcpi : PyDict) : Except SqlError Database :=
  let fields := ", ".intercalate (presentFields tcpi)
  let values := ", ".intercalate ((presentFields tcpi).map (":" ++ ·))
  db.execute
    (insertPrefix ++ fields ++ insertMiddle ++ values ++ insertSuffix)
    -- The two ids win over fields of the same name.
    ([("iteration_id", iterationId), ("subflow_id", subflowId)] ++ tcpi)

end Database

section Inserted

variable {db : Database} {params tcpi : PyDict} {name : String} {it localAddr remoteAddr : String} {sid : ℤ}

def paramCell (params : PyDict) (name : String) : Cell :=
  match params.lookup name with
  | some (.int n) => .integer n
  | some (.str s) => .text s
  | _ => .null

def subflowParams (it : String) (sid : ℤ) (localAddr remoteAddr : String) : PyDict :=
  [("iteration_id", .str it), ("subflow_id", .int sid), ("local_addr", .str localAddr),
    ("remote_addr", .str remoteAddr)]

def tcpConnInfoParams (it : String) (sid : ℤ) (tcpi : PyDict) : PyDict :=
  [("iteration_id", .str it), ("subflow_id", .int sid)] ++ tcpi

def subflowRow (it : String) (sid : ℤ) (localAddr remoteAddr : String) : Row subflowsColumns :=
  .of _ fun name => (paramCell (subflowParams it sid localAddr remoteAddr) name).stored

def tcpConnInfoRow (it : String) (sid : ℤ) (tcpi : PyDict) : Row tcpConnInfoColumns :=
  .of _ fun name => (paramCell (tcpConnInfoParams it sid tcpi) name).stored

def Bindable : PyValue → Prop
  | .none => False
  | .int n => -2 ^ 63 ≤ n ∧ n < 2 ^ 63
  | .str _ => True

lemma lookup_of_mem (h : name ∈ params.map Prod.fst) :
    ∃ value, params.lookup name = some value ∧ (name, value) ∈ params := by
  induction params with
  | nil => cases h
  | cons item params ih =>
    obtain ⟨first, value⟩ := item
    by_cases heq : name = first
    · subst heq
      exact ⟨value, by rw [List.lookup_cons, BEq.rfl], List.mem_cons_self⟩
    · obtain ⟨v, hv, hmem⟩ := ih ((List.mem_cons.mp h).resolve_left heq)
      exact ⟨v, by rw [List.lookup_cons, beq_false_of_ne heq, hv], List.mem_cons_of_mem _ hmem⟩

lemma lookup_of_not_mem (h : name ∉ params.map Prod.fst) : params.lookup name = none := by
  induction params with
  | nil => rfl
  | cons item params ih =>
    rw [List.map_cons, List.mem_cons, not_or] at h
    rw [List.lookup_cons, beq_false_of_ne h.1, ih h.2]

lemma bindParam_eq (hparams : ∀ item ∈ params, Bindable item.2) (h : name ∈ params.map Prod.fst) :
    bindParam params name = .ok (paramCell params name) := by
  obtain ⟨value, hlookup, hmem⟩ := lookup_of_mem h
  have hvalue : Bindable value := hparams _ hmem
  unfold bindParam paramCell
  rw [hlookup]
  cases value with
  | none => exact hvalue.elim
  | int n => exact if_pos hvalue
  | str s => rfl

lemma row_of_params {names : List String} (table : String) (hparams : ∀ item ∈ params, Bindable item.2)
    (hnames : ∀ item ∈ params, item.1 ∈ names) :
    Insert.row ⟨table, params.map Prod.fst, params.map Prod.fst⟩ names (bindParam params) =
      .ok (.of names fun name => (paramCell params name).stored) := by
  have hcolumns : ∀ name ∈ params.map Prod.fst, name ∈ names := by
    intro name hname
    obtain ⟨item, hitem, rfl⟩ := List.mem_map.mp hname
    exact hnames item hitem
  rw [Insert.row_eq table hcolumns fun name hname => bindParam_eq hparams hname]
  refine congrArg (fun value => Except.ok (Row.of names value)) (funext fun name => ?_)
  by_cases hname : name ∈ params.map Prod.fst
  · exact if_pos hname
  · rw [if_neg hname, paramCell, lookup_of_not_mem hname]
    rfl

lemma parse_insertSubflow :
    parseInsert (lex ("\n            INSERT INTO subflows (iteration_id, subflow_id, local_addr, remote_addr)" ++
      "\n            VALUES (:iteration_id, :subflow_id, :local_addr, :remote_addr)\n        ").toList) =
      some ⟨"subflows", subflowsColumns, subflowsColumns⟩ := by
  decide +kernel

lemma insertSubflow_ok (hsid : -2 ^ 63 ≤ sid ∧ sid < 2 ^ 63) :
    db.insertSubflow (.str it) (.int sid) (.str localAddr) (.str remoteAddr) =
      .ok { db with subflows := db.subflows ++ [subflowRow it sid localAddr remoteAddr] } := by
  have hparams : ∀ item ∈ subflowParams it sid localAddr remoteAddr, Bindable item.2 := by
    simpa [subflowParams, Bindable] using hsid
  have hnames : ∀ item ∈ subflowParams it sid localAddr remoteAddr, item.1 ∈ subflowsColumns := by
    simp [subflowParams, subflowsColumns]
  have hrow := row_of_params "subflows" hparams hnames
  rw [Database.insertSubflow, Database.execute, parse_insertSubflow]
  exact congrArg (Except.map fun row => { db with subflows := db.subflows ++ [row] }) hrow

structure Storable (item : String × PyValue) : Prop where
  name : IsName item.1
  column : item.1 ∈ tcpConnInfoColumns
  value : Bindable item.2

lemma presentFields_eq (h : ∀ item ∈ tcpi, Storable item) :
    Database.presentFields tcpi = tcpi.map Prod.fst := by
  rw [Database.presentFields, List.filter_eq_self.mpr]
  intro item hitem
  have hvalue := (h item hitem).value
  cases hv : item.2 with
  | none =>
    rw [hv] at hvalue
    exact hvalue.elim
  | int n => rfl
  | str s => rfl

lemma lex_insertPrefix : lex Database.insertPrefix.toList =
    [.word "INSERT", .word "INTO", .word "tcp_conn_info", .mark '(', .word "iteration_id", .mark ',',
      .word "subflow_id", .mark ','] := by
  decide +kernel

lemma lex_insertMiddle : lex Database.insertMiddle.toList =
    [.mark ')', .word "VALUES", .mark '(', .param "iteration_id", .mark ',', .param "subflow_id",
      .mark ','] := by
  decide +kernel

lemma lex_insertSuffix : lex Database.insertSuffix.toList = [.mark ')'] := by
  decide +kernel

lemma lex_insertSubflowTcpConnInfo {fields : List String} (hnames : ∀ name ∈ fields, IsName name) :
    lex (Database.insertPrefix ++ ", ".intercalate fields ++ Database.insertMiddle ++
      ", ".intercalate (fields.map (":" ++ ·)) ++ Database.insertSuffix).toList =
      lex Database.insertPrefix.toList ++ commas (fields.map .word) ++ lex Database.insertMiddle.toList ++
        commas (fields.map .param) ++ lex Database.insertSuffix.toList :=
  lex_assembled hnames (by decide +kernel) (by decide +kernel) (by decide +kernel) (by decide +kernel)

lemma parse_insertSubflowTcpConnInfo {fields : List String} (hnames : ∀ name ∈ fields, IsName name)
    (hne : fields ≠ []) :
    parseInsert (lex (Database.insertPrefix ++ ", ".intercalate fields ++ Database.insertMiddle ++
      ", ".intercalate (fields.map (":" ++ ·)) ++ Database.insertSuffix).toList) =
      some ⟨"tcp_conn_info", "iteration_id" :: "subflow_id" :: fields,
        "iteration_id" :: "subflow_id" :: fields⟩ := by
  have hmapped : ∀ token : String → Token, fields.map token ≠ [] := fun token => by simpa using hne
  have hwords : commas (.word "iteration_id" :: .word "subflow_id" :: fields.map .word) =
      .word "iteration_id" :: .mark ',' :: .word "subflow_id" :: .mark ',' :: commas (fields.map .word) := by
    rw [commas_cons (List.cons_ne_nil _ _), commas_cons (hmapped _)]
  have hparams : commas (.param "iteration_id" :: .param "subflow_id" :: fields.map .param) =
      .param "iteration_id" :: .mark ',' :: .param "subflow_id" :: .mark ',' ::
        commas (fields.map .param) := by
    rw [commas_cons (List.cons_ne_nil _ _), commas_cons (hmapped _)]
  have hcolumns : ∀ rest, items Token.asWord
      (commas (.word "iteration_id" :: .word "subflow_id" :: fields.map .word) ++ .mark ')' :: rest) =
        some ("iteration_id" :: "subflow_id" :: fields, rest) := by
    refine items_commas (.cons rfl (.cons rfl ?_)) (List.cons_ne_nil _ _)
    exact List.forall₂_map_left_iff.mpr (List.forall₂_same.mpr fun _ _ => rfl)
  have hvalues : ∀ rest, items Token.asParam
      (commas (.param "iteration_id" :: .param "subflow_id" :: fields.map .param) ++ .mark ')' :: rest) =
        some ("iteration_id" :: "subflow_id" :: fields, rest) := by
    refine items_commas (.cons rfl (.cons rfl ?_)) (List.cons_ne_nil _ _)
    exact List.forall₂_map_left_iff.mpr (List.forall₂_same.mpr fun _ _ => rfl)
  rw [lex_insertSubflowTcpConnInfo hnames, lex_insertPrefix, lex_insertMiddle, lex_insertSuffix]
  rw [hwords] at hcolumns
  rw [hparams] at hvalues
  simp only [List.cons_append, List.nil_append, List.append_assoc] at hcolumns hvalues ⊢
  simp only [parseInsert, hcolumns, hvalues]

lemma insertSubflowTcpConnInfo_ok (hsid : -2 ^ 63 ≤ sid ∧ sid < 2 ^ 63) (h : ∀ item ∈ tcpi, Storable item)
    (hne : tcpi ≠ []) :
    db.insertSubflowTcpConnInfo (.str it) (.int sid) tcpi =
      .ok { db with tcpConnInfo := db.tcpConnInfo ++ [tcpConnInfoRow it sid tcpi] } := by
  have hnames : ∀ name ∈ tcpi.map Prod.fst, IsName name := by
    intro name hname
    obtain ⟨item, hitem, rfl⟩ := List.mem_map.mp hname
    exact (h item hitem).name
  have hparams : ∀ item ∈ tcpConnInfoParams it sid tcpi, Bindable item.2 := by
    simp only [tcpConnInfoParams, List.forall_mem_append, List.forall_mem_cons]
    exact ⟨⟨trivial, hsid, nofun⟩, fun item hitem => (h item hitem).value⟩
  have hcolumns : ∀ item ∈ tcpConnInfoParams it sid tcpi, item.1 ∈ tcpConnInfoColumns := by
    simp only [tcpConnInfoParams, List.forall_mem_append, List.forall_mem_cons]
    exact ⟨⟨List.mem_cons_self, List.mem_cons_of_mem _ List.mem_cons_self, nofun⟩,
      fun item hitem => (h item hitem).column⟩
  have hparse := parse_insertSubflowTcpConnInfo hnames (by simpa using hne)
  have hrow := row_of_params "tcp_conn_info" hparams hcolumns
  rw [← presentFields_eq h] at hparse
  rw [Database.insertSubflowTcpConnInfo, Database.execute, hparse]
  dsimp only
  rw [if_neg (by decide), if_pos rfl, presentFields_eq h]
  exact congrArg (Except.map fun row => { db with tcpConnInfo := db.tcpConnInfo ++ [row] }) hrow

lemma insertSubflowTcpConnInfo_nil (iterationId subflowId : PyValue) :
    db.insertSubflowTcpConnInfo iterationId subflowId [] = .error .operational := by
  have hparse : parseInsert (lex (Database.insertPrefix ++ ", ".intercalate [] ++ Database.insertMiddle ++
      ", ".intercalate ([].map (":" ++ ·)) ++ Database.insertSuffix).toList) = none := by
    rw [lex_insertSubflowTcpConnInfo (List.forall_mem_nil _), lex_insertPrefix, lex_insertMiddle,
      lex_insertSuffix]
    rfl
  have hfields : Database.presentFields [] = [] := rfl
  rw [Database.insertSubflowTcpConnInfo, Database.execute, hfields, hparse]

end Inserted

end TransportConverter.Performance
