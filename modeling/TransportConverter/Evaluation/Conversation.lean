import TransportConverter.Evaluation.MptcpServer

/-! The two programs of a measurement at the ends of one connection. -/

namespace TransportConverter.Evaluation

open Foundations.Memory Foundations.Parties Foundations.Refinement

abbrev World := Session UInt8 Client ServerPc

abbrev Run (s : Settings) (past : List (ClientMove ⊕ ServerMove)) (w : World) : Prop :=
  Trace (Step (clientParty s) serverParty) (.new (.start s) .magicNumber) past w

def Whole (past : List (ClientMove ⊕ ServerMove)) : Prop :=
  ∀ octets, .inr (.bufferSize octets) ∈ past → octets.length = 4

section Header

variable {s : Settings} {past : List (ClientMove ⊕ ServerMove)} {w : World} {more : List ServerMove}
  {kind octets : Bytes} {conn : ClientConnection}

lemma fromBytes_intOctets {n : ℕ} (h : octets <+: intOctets n) : fromBytes octets = n % 256 ^ octets.length := by
  rw [List.prefix_iff_eq_take.mp h]
  have hlength : octets.length ≤ 4 := h.length_le
  generalize octets.length = k at hlength
  interval_cases k
  all_goals simp [fromBytes, intOctets, Nat.ofDigits_cons]
  all_goals omega

lemma clientTypeOf_octet (type : ClientType) : clientTypeOf [type.octet] = some type := by
  cases type <;> decide

lemma mem_rights {move : ServerMove} : move ∈ rights past ↔ .inr move ∈ past := by
  simp [rights]

lemma read_comparable (h : Run s past w) : w.up.read <+: s.header ∨ s.header <+: w.up.read := by
  have hparts := run_parts h
  have hsent := run_comparable hparts.left
  have horder := w.up.in_order
  rw [hparts.up_sent] at horder
  rcases hsent with hsent | hsent
  · exact Or.inl (horder.trans hsent)
  · exact List.prefix_or_prefix_of_prefix horder hsent

lemma up_read_accepted (h : Run s past w) (haccepts : Accepts (rights past) more kind octets conn) :
    w.up.read = magicNumber :: (kind ++ (octets ++ more.flatMap ServerMove.took)) := by
  rw [(run_parts h).up_read, haccepts.moves]
  rfl

lemma accepted (h : Run s past w) (haccepts : Accepts (rights past) more kind octets conn) :
    octets <+: intOctets s.bufferSize ∧ (kind = [s.clientType.octet] ∨ (kind = [] ∧ octets = [])) := by
  match kind, haccepts.kind_length, haccepts with
  | [], _, haccepts =>
    have hnone : (.bufferSize octets :: more).flatMap ServerMove.took = [] :=
      took_after_end (client_final s) h [.magicNumber [magicNumber]] haccepts.moves rfl
    have hoctets : octets = [] := (List.append_eq_nil_iff.mp hnone).1
    rw [hoctets]
    exact ⟨List.nil_prefix, Or.inr ⟨rfl, rfl⟩⟩
  | [octet], _, haccepts =>
    have hcompare := read_comparable h
    rw [up_read_accepted h haccepts, Settings.header, List.singleton_append] at hcompare
    simp only [List.cons_prefix_cons, true_and] at hcompare
    rcases hcompare with ⟨htype, hrest⟩ | ⟨htype, hrest⟩
    · exact ⟨(List.prefix_append _ _).trans hrest, Or.inl (by rw [htype])⟩
    · refine ⟨?_, Or.inl (by rw [htype])⟩
      exact List.prefix_of_prefix_length_le (List.prefix_append octets _) hrest haccepts.octets_length

lemma whole_accepted (h : Run s past w) (hwhole : Whole past)
    (haccepts : Accepts (rights past) more kind octets conn) :
    conn.type = s.clientType ∧ conn.bufferSize = s.bufferSize ∧
      w.up.read = s.header ++ more.flatMap ServerMove.took := by
  have hlength : octets.length = 4 := hwhole octets (mem_rights.mp (by rw [haccepts.moves]; simp))
  obtain ⟨hoctets, hkind⟩ := accepted h haccepts
  have heq : octets = intOctets s.bufferSize := hoctets.eq_of_length hlength
  rcases hkind with hkind | ⟨-, hnone⟩
  · refine ⟨?_, ?_, ?_⟩
    · have htype := haccepts.type
      rw [hkind, clientTypeOf_octet] at htype
      exact (Option.some.inj htype).symm
    · rw [haccepts.bufferSize, fromBytes_intOctets hoctets, hlength]
      exact Nat.mod_eq_of_lt (s.bufferSize_lt.trans (by decide))
    · rw [up_read_accepted h haccepts, hkind, heq]
      rfl
  · rw [hnone] at hlength
    cases hlength

def sample (type : ClientType) : Settings := ⟨type, 2, -1, -1, by decide, by decide⟩

def echoMoves : List (ClientMove ⊕ ServerMove) :=
  [.inl (.write [0x7F]), .inl (.write [2]), .inl (.write [2, 0, 0, 0]), .inr (.magicNumber [0x7F]),
    .inr (.clientType [2]), .inr (.bufferSize [2, 0, 0, 0]), .inr (.random [5, 0x7F]), .inr (.send [5]),
    .inr .sent, .inl (.read [5]), .inl (.write [5, 0]), .inl .written]

lemma Run.client {c : Client} (h : Run s past w) (move : ClientMove) (hstep : Client.Step s move w.left c)
    (htook : move.took <+: w.down.inFlight) (hend : move.sawEnd = false) :
    Run s (past ++ [.inl move]) ⟨c, w.right, w.up.send move.gave, w.down.receive move.took htook⟩ :=
  h.snoc (.left hstep htook fun hsaw => absurd (hend.symm.trans hsaw) Bool.false_ne_true)

lemma Run.server {pc : ServerPc} (h : Run s past w) (move : ServerMove) (hstep : Server.Step move w.right pc)
    (htook : move.took <+: w.up.inFlight) (hend : move.sawEnd = false) :
    Run s (past ++ [.inr move]) ⟨w.left, pc, w.up.receive move.took htook, w.down.send move.gave⟩ :=
  h.snoc (.right hstep htook fun hsaw => absurd (hend.symm.trans hsaw) Bool.false_ne_true)

lemma echo_run : ∃ w, Run (sample .echo) echoMoves w ∧ w.left.pc = .top ∧ w.left.loop = true ∧
    w.right.running = some ⟨.echo, 2⟩ := by
  have h : Run (sample .echo) [] _ := .nil
  have h := h.client (.write [0x7F]) (.greet rfl) List.nil_prefix rfl
  have h := h.client (.write [2]) (.greet rfl) List.nil_prefix rfl
  have h := h.client (.write [2, 0, 0, 0]) (.greet rfl) List.nil_prefix rfl
  have h := h.server (.magicNumber [0x7F]) (.magicNumber (by decide)) (by decide) rfl
  have h := h.server (.clientType [2]) (.clientType (by decide)) (by decide) rfl
  have h := h.server (.bufferSize [2, 0, 0, 0]) (.bufferSize (by decide)) (by decide) rfl
  have h := h.server (.random [5, 0x7F]) (.random rfl) List.nil_prefix rfl
  have h := h.server (.send [5]) (.send) List.nil_prefix rfl
  have h := h.server .sent .sent List.nil_prefix rfl
  have h := h.client (.read [5]) (.read rfl rfl (by decide) (by decide)) (by decide) rfl
  have h := h.client (.write [5, 0]) (.write rfl) List.nil_prefix rfl
  have h := h.client .written (.written rfl (Or.inl rfl)) List.nil_prefix rfl
  exact ⟨_, h, rfl, rfl, rfl⟩

end Header

section Echo

variable {s : Settings} {past : List (ClientMove ⊕ ServerMove)} {w : World} {more : List ServerMove}
  {moves : List ServerMove} {pc : ServerPc} {kind octets : Bytes} {conn : ClientConnection} {answers : List Bytes}

lemma down_sent_owed (h : Run s past w) : w.down.sent = [] ∨
    ∃ conn kind octets more out, Accepts (rights past) more kind octets conn ∧ Owed conn more out ∧
      w.down.sent <+: out := by
  have hparts := run_parts h
  have hdid := run_did hparts.right
  rw [hparts.down_sent]
  cases hconn : w.right.conn with
  | none => exact Or.inl (hdid.silent hconn)
  | some conn =>
    obtain ⟨kind, octets, more, haccepts, hsends⟩ := hdid.serving hconn
    obtain ⟨out, hout, howed⟩ := hsends.sent_begins
    exact Or.inr ⟨conn, kind, octets, more, out, haccepts, howed, haccepts.gave ▸ hout⟩

lemma not_mem_padding (h : magicNumber ∉ answers.flatten) : magicNumber ∉ padding s answers := by
  rw [padding, List.mem_flatMap]
  rintro ⟨octets, hoctets, hmem⟩
  rcases List.mem_append.mp hmem with hmem | hmem
  · exact h (List.mem_flatten.mpr ⟨octets, (List.mem_filter.mp hoctets).1, hmem⟩)
  · exact absurd (List.eq_of_mem_replicate hmem) (by decide)

lemma not_mem_took (htype : s.clientType = .echo) (h : Run s past w) (hdown : magicNumber ∉ w.down.read)
    (hread : w.up.read = s.header ++ more.flatMap ServerMove.took) :
    magicNumber ∉ more.flatMap ServerMove.took := by
  have hparts := run_parts h
  have hsent := (run_echoed htype hparts.left).sent_begins
  have horder := w.up.in_order
  rw [hread, hparts.up_sent] at horder
  have htook := (List.prefix_append_right_inj s.header).mp (horder.trans hsent)
  rw [hparts.down_read] at hdown
  have hpadding : magicNumber ∉ padding s (reads (lefts past)) := not_mem_padding (reads_flatten ▸ hdown)
  exact fun hmem => hpadding (htook.subset hmem)

lemma echo_silent (htype : s.clientType = .echo) (h : Run s past w) (hwhole : Whole past)
    (hdown : magicNumber ∉ w.down.read) : magicNumber ∉ w.down.sent := by
  rcases down_sent_owed h with hnone | ⟨conn, kind, octets, more, out, haccepts, howed, hout⟩
  · rw [hnone]
    exact List.not_mem_nil
  · obtain ⟨hconnType, -, hread⟩ := whole_accepted h hwhole haccepts
    rw [Owed, hconnType, htype] at howed
    obtain ⟨hinitial, -, rfl⟩ := howed
    have htook := not_mem_took htype h hdown hread
    intro hmem
    rcases List.mem_append.mp (hout.subset hmem) with hmem | hmem
    · exact hinitial hmem
    · exact htook hmem

lemma echo_no_magic (htype : s.clientType = .echo) (h : Run s past w) (hwhole : Whole past) :
    magicNumber ∉ w.down.sent := by
  induction h with
  | nil => exact List.not_mem_nil
  | @snoc past l v w hrun hstep ih =>
    have hbefore := ih fun octets hmem => hwhole octets (List.mem_append_left _ hmem)
    have hread : magicNumber ∉ w.down.read := fun hmem => hbefore ((read_was_sent hstep).subset hmem)
    exact echo_silent htype (hrun.snoc hstep) hwhole hread

lemma all_counted {answers : List Bytes} (h : magicNumber ∉ answers.flatten) :
    answers.filter counted = answers ∧ answers.filter (! counted ·) = [] := by
  have hall : ∀ octets ∈ answers, counted octets = true := by
    intro octets hoctets
    rw [counted, decide_eq_true_eq]
    exact fun hhead => h (List.mem_flatten.mpr ⟨octets, hoctets, List.mem_of_head? hhead⟩)
  refine ⟨List.filter_eq_self.mpr hall, List.filter_eq_nil_iff.mpr fun octets hoctets => ?_⟩
  rw [hall octets hoctets]
  decide

lemma down_read_flatten (h : Run s past w) : w.down.read = (reads (lefts past)).flatten :=
  (run_parts h).down_read.trans reads_flatten.symm

lemma echo_reads (htype : s.clientType = .echo) (h : Run s past w) (hwhole : Whole past) :
    magicNumber ∉ (reads (lefts past)).flatten := by
  rw [← down_read_flatten h]
  exact fun hmem => echo_no_magic htype h hwhole (w.down.in_order.subset hmem)

lemma echo_bytesRead (htype : s.clientType = .echo) (h : Run s past w) (hwhole : Whole past)
    (hpc : w.left.pc ≠ .overflowed) : w.left.bytesRead = w.down.read.length := by
  rw [(run_counted (run_parts h).left).bytesRead hpc, (all_counted (echo_reads htype h hwhole)).1,
    down_read_flatten h, List.length_flatten]

/-- In an echo session the magic number that the client times never comes: the server sends none, and the
client counts every octet it reads. -/
theorem echo_never_magic (s : Settings) (past : List (ClientMove ⊕ ServerMove)) (w : World) (h : Run s past w)
    (htype : s.clientType = .echo) (hwhole : Whole past) :
    magicNumber ∉ w.down.sent ∧ w.left.magics = 0 ∧
      (w.left.pc ≠ .overflowed → w.left.bytesRead = w.down.read.length) := by
  refine ⟨echo_no_magic htype h hwhole, ?_, echo_bytesRead htype h hwhole⟩
  rw [(run_counted (run_parts h).left).magics, (all_counted (echo_reads htype h hwhole)).2]
  rfl

lemma echoMoves_whole : Whole echoMoves := by
  intro octets hmem
  simp only [echoMoves, List.mem_cons, reduceCtorEq, Sum.inr.injEq, ServerMove.bufferSize.injEq, List.not_mem_nil,
    or_false, false_or] at hmem
  rw [hmem]
  rfl

theorem echo_never_magic_round : ∃ w, Run (sample .echo) echoMoves w ∧ magicNumber ∉ w.down.sent ∧
    w.left.magics = 0 ∧ (w.left.pc ≠ .overflowed → w.left.bytesRead = w.down.read.length) := by
  obtain ⟨w, h, -⟩ := echo_run
  exact ⟨w, h, echo_never_magic (sample .echo) echoMoves w h rfl echoMoves_whole⟩

def volume (w : World) : ℕ := w.up.inFlight.length + w.right.pending.length + w.down.inFlight.length

lemma filled_length (h : octets.length ≤ s.bufferSize) : (s.filled octets).length = s.bufferSize := by
  rw [Settings.filled, List.length_append, zeros_length]
  omega

lemma padding_length (hcounted : answers.filter counted = answers)
    (hlength : ∀ octets ∈ answers, octets.length ≤ s.bufferSize) :
    (padding s answers).length = s.bufferSize * answers.length := by
  have hall : answers.map (fun octets => (s.filled octets).length) = .replicate answers.length s.bufferSize :=
    List.map_eq_replicate_iff.mpr fun octets hoctets => filled_length (hlength octets hoctets)
  rw [padding, hcounted, List.length_flatMap, hall, List.sum_replicate, smul_eq_mul, mul_comm]

lemma length_inFlight {α : Type*} (p : Pipe α) : p.read.length + p.inFlight.length = p.sent.length := by
  rw [← List.length_append, p.read_append_inFlight]

lemma echo_client (htype : s.clientType = .echo) (h : Run s past w) (hwhole : Whole past)
    (htop : w.left.pc = .top) (hloop : w.left.loop = true) :
    w.up.sent.length = 6 + w.left.bytesWritten ∧
      w.left.bytesWritten = s.bufferSize * (reads (lefts past)).length := by
  have hparts := run_parts h
  have hwrote := run_wrote hparts.left
  have hechoed := run_echoed htype hparts.left
  rw [Wrote, htop] at hwrote
  rw [Echoed, htop] at hechoed
  have hpadding := padding_length (all_counted (echo_reads htype h hwhole)).1 (run_reads_length hparts.left)
  have hsent := congrArg List.length (hechoed.1 hloop)
  have hheader : s.header.length = 6 := rfl
  rw [List.length_append, hpadding, hheader] at hsent
  refine ⟨hparts.up_sent ▸ hwrote, ?_⟩
  dsimp only at hwrote
  omega

lemma accepts_firstBuffer (haccepts : Accepts moves more kind octets conn) :
    firstBuffer moves = firstBuffer more := by
  rw [haccepts.moves]
  rfl

lemma echo_server (htype : s.clientType = .echo) (h : Run s past w) (hwhole : Whole past)
    (hserver : w.right.running = some conn) :
    w.down.sent.length + w.right.pending.length + 6 =
      (firstBuffer (rights past)).length + w.up.read.length := by
  have hparts := run_parts h
  obtain ⟨kind, octets, more, haccepts, hsends⟩ := (run_did hparts.right).serving (running_conn hserver)
  obtain ⟨hconnType, -, hread⟩ := whole_accepted h hwhole haccepts
  have howed := hsends.running hserver
  rw [Owed, hconnType, htype] at howed
  obtain ⟨-, -, howed⟩ := howed
  have hsent : w.down.sent = more.flatMap ServerMove.gave := hparts.down_sent.trans haccepts.gave
  have hlength := congrArg List.length howed
  have hheader : s.header.length = 6 := rfl
  rw [← hsent, List.length_append, List.length_append] at hlength
  rw [accepts_firstBuffer haccepts, hread, List.length_append, hheader]
  omega

def shortfall (s : Settings) (answers : List Bytes) : ℕ :=
  (answers.map fun octets => s.bufferSize - octets.length).sum

lemma flatten_add_shortfall (h : ∀ octets ∈ answers, octets.length ≤ s.bufferSize) :
    answers.flatten.length + shortfall s answers = s.bufferSize * answers.length := by
  induction answers with
  | nil => rfl
  | cons octets answers ih =>
    have hfirst := h octets List.mem_cons_self
    have hrest := ih fun octets hmem => h octets (List.mem_cons_of_mem _ hmem)
    rw [shortfall] at hrest ⊢
    rw [List.flatten_cons, List.length_append, List.map_cons, List.sum_cons, List.length_cons, Nat.mul_succ]
    omega

/-- At each turn of its loop an echo client has written a whole buffer for each read, however little that
read returned: what is on the way is what the server began with and all that the reads fell short. -/
theorem echo_volume (s : Settings) (past : List (ClientMove ⊕ ServerMove)) (w : World) (conn : ClientConnection)
    (h : Run s past w) (htype : s.clientType = .echo) (hwhole : Whole past) (htop : w.left.pc = .top)
    (hloop : w.left.loop = true) (hserver : w.right.running = some conn) :
    w.left.bytesWritten = s.bufferSize * (reads (lefts past)).length ∧ w.left.bytesRead ≤ w.left.bytesWritten ∧
      volume w + w.left.bytesRead = (firstBuffer (rights past)).length + w.left.bytesWritten ∧
      volume w = (firstBuffer (rights past)).length + shortfall s (reads (lefts past)) := by
  obtain ⟨hsent, hwritten⟩ := echo_client htype h hwhole htop hloop
  have hserved := echo_server htype h hwhole hserver
  have hread := echo_bytesRead htype h hwhole (by rw [htop]; exact ClientPc.noConfusion)
  have hshort := flatten_add_shortfall (run_reads_length (run_parts h).left)
  rw [← down_read_flatten h, ← hread, ← hwritten] at hshort
  have hup := length_inFlight w.up
  have hdown := length_inFlight w.down
  have hvolume : volume w + w.left.bytesRead = (firstBuffer (rights past)).length + w.left.bytesWritten := by
    rw [volume]
    omega
  refine ⟨hwritten, ?_, hvolume, ?_⟩
  · omega
  · omega

theorem echo_volume_round : ∃ w, Run (sample .echo) echoMoves w ∧
    w.left.bytesWritten = (sample .echo).bufferSize * (reads (lefts echoMoves)).length ∧
    w.left.bytesRead ≤ w.left.bytesWritten ∧
    volume w + w.left.bytesRead = (firstBuffer (rights echoMoves)).length + w.left.bytesWritten ∧
    volume w = (firstBuffer (rights echoMoves)).length + shortfall (sample .echo) (reads (lefts echoMoves)) := by
  obtain ⟨w, h, htop, hloop, hserver⟩ := echo_run
  exact ⟨w, h, echo_volume (sample .echo) echoMoves w _ h rfl echoMoves_whole htop hloop hserver⟩

end Echo

section Links

variable {s : Settings} {past : List (ClientMove ⊕ ServerMove)} {w : World} {more : List ServerMove}
  {data : Bytes} {answers : List Bytes}

def firstRead (answers : List Bytes) : Bytes := (answers.find? (· ≠ [])).getD []

lemma counts_behind_magic (hdata : magicNumber ∉ data) (h : answers.flatten <+: magicNumber :: data) :
    (answers.filter (! counted ·)).length = (if answers.flatten = [] then 0 else 1) ∧
      ((answers.filter counted).map List.length).sum + (firstRead answers).length = answers.flatten.length := by
  induction answers with
  | nil => exact ⟨rfl, rfl⟩
  | cons octets answers ih =>
    cases octets with
    | nil =>
      have hcounted : counted [] = true := by decide
      have hfirst : firstRead ([] :: answers) = firstRead answers := rfl
      rw [List.flatten_cons, List.nil_append] at h ⊢
      obtain ⟨hmagics, hsum⟩ := ih h
      rw [hfirst, List.filter_cons_of_pos hcounted, List.filter_cons_of_neg (by rw [hcounted]; decide)]
      refine ⟨hmagics, ?_⟩
      rw [List.map_cons, List.sum_cons, List.length_nil, Nat.zero_add]
      exact hsum
    | cons octet octets =>
      rw [List.flatten_cons, List.cons_append, List.cons_prefix_cons] at h
      obtain ⟨rfl, hrest⟩ := h
      have hskipped : counted (magicNumber :: octets) = false := by
        rw [counted, List.head?_cons]
        decide
      have hnone : magicNumber ∉ answers.flatten :=
        fun hmem => hdata (hrest.subset (List.mem_append_right _ hmem))
      obtain ⟨hcounted, hothers⟩ := all_counted hnone
      have hfirst : firstRead ((magicNumber :: octets) :: answers) = magicNumber :: octets := rfl
      have hkept : ¬ counted (magicNumber :: octets) = true := by
        rw [hskipped]
        exact Bool.false_ne_true
      rw [List.filter_cons_of_neg hkept, List.filter_cons_of_pos (by rw [hskipped]; rfl), hcounted, hothers]
      refine ⟨rfl, ?_⟩
      rw [hfirst, List.flatten_cons, List.length_append, List.length_flatten, Nat.add_comm]

/-- A downlink client meets the magic number once, at the start of what it reads, and leaves all of that
read out of its count. -/
theorem downlink_counts (s : Settings) (past : List (ClientMove ⊕ ServerMove)) (w : World) (h : Run s past w)
    (htype : s.clientType = .downlink) (hwhole : Whole past) :
    w.left.magics = (if w.down.read = [] then 0 else 1) ∧
      (w.left.pc ≠ .overflowed →
        w.left.bytesRead + (firstRead (reads (lefts past))).length = w.down.read.length) := by
  have hparts := run_parts h
  have hread := down_read_flatten h
  obtain ⟨data, hdata, hsent⟩ : ∃ data, magicNumber ∉ data ∧ w.down.sent <+: magicNumber :: data := by
    rcases down_sent_owed h with hnone | ⟨conn, kind, octets, more, out, haccepts, howed, hout⟩
    · exact ⟨[], List.not_mem_nil, hnone ▸ List.nil_prefix⟩
    · rw [Owed, (whole_accepted h hwhole haccepts).1, htype] at howed
      obtain ⟨data, hdata, rfl⟩ := howed
      exact ⟨data, hdata, hout⟩
  have hcounts := run_counted hparts.left
  obtain ⟨hmagics, hsum⟩ := counts_behind_magic hdata (hread ▸ w.down.in_order.trans hsent)
  refine ⟨?_, fun hpc => ?_⟩
  · rw [hcounts.magics, hmagics, hread]
  · rw [hcounts.bytesRead hpc, hsum, hread]

def downlinkMoves : List (ClientMove ⊕ ServerMove) :=
  [.inl (.write [0x7F]), .inl (.write [1]), .inl (.write [2, 0, 0, 0]), .inr (.magicNumber [0x7F]),
    .inr (.clientType [1]), .inr (.bufferSize [2, 0, 0, 0]), .inr (.send [0x7F]), .inr .sent,
    .inr (.random [5, 6]), .inr (.send [5, 6]), .inl (.read [0x7F, 5]), .inl (.read [6])]

lemma downlink_run : ∃ w, Run (sample .downlink) downlinkMoves w := by
  have h : Run (sample .downlink) [] _ := .nil
  have h := h.client (.write [0x7F]) (.greet rfl) List.nil_prefix rfl
  have h := h.client (.write [1]) (.greet rfl) List.nil_prefix rfl
  have h := h.client (.write [2, 0, 0, 0]) (.greet rfl) List.nil_prefix rfl
  have h := h.server (.magicNumber [0x7F]) (.magicNumber (by decide)) (by decide) rfl
  have h := h.server (.clientType [1]) (.clientType (by decide)) (by decide) rfl
  have h := h.server (.bufferSize [2, 0, 0, 0]) (.bufferSize (by decide)) (by decide) rfl
  have h := h.server (.send [0x7F]) .send List.nil_prefix rfl
  have h := h.server .sent .sent List.nil_prefix rfl
  have h := h.server (.random [5, 6]) (.random rfl) List.nil_prefix rfl
  have h := h.server (.send [5, 6]) .send List.nil_prefix rfl
  have h := h.client (.read [0x7F, 5]) (.read rfl rfl (by decide) (by decide)) (by decide) rfl
  have h := h.client (.read [6]) (.read rfl rfl (by decide) (by decide)) (by decide) rfl
  exact ⟨_, h⟩

lemma downlinkMoves_whole : Whole downlinkMoves := by
  intro octets hmem
  simp only [downlinkMoves, List.mem_cons, reduceCtorEq, Sum.inr.injEq, ServerMove.bufferSize.injEq,
    List.not_mem_nil, or_false, false_or] at hmem
  rw [hmem]
  rfl

theorem downlink_counts_round : ∃ w, Run (sample .downlink) downlinkMoves w ∧
    w.left.magics = (if w.down.read = [] then 0 else 1) ∧
    (w.left.pc ≠ .overflowed →
      w.left.bytesRead + (firstRead (reads (lefts downlinkMoves))).length = w.down.read.length) := by
  obtain ⟨w, h⟩ := downlink_run
  exact ⟨w, h, downlink_counts (sample .downlink) downlinkMoves w h rfl downlinkMoves_whole⟩

/-- An uplink client reads nothing, not even the magic number that it is sent; what it counts is what the
server has taken and what is on the way. -/
theorem uplink_counts (s : Settings) (past : List (ClientMove ⊕ ServerMove)) (w : World) (h : Run s past w)
    (htype : s.clientType = .uplink) :
    w.down.read = [] ∧ w.down.sent <+: [magicNumber] ∧
      (w.left.pc = .top → 6 + w.left.bytesWritten = w.up.read.length + w.up.inFlight.length) := by
  have hparts := run_parts h
  refine ⟨hparts.down_read.trans (run_uplink htype hparts.left), ?_, fun htop => ?_⟩
  · rcases down_sent_owed h with hnone | ⟨conn, kind, octets, more, out, haccepts, howed, hout⟩
    · exact hnone ▸ List.nil_prefix
    · have huplink : conn.type = .uplink := by
        have hkind := haccepts.type
        rcases (accepted h haccepts).2 with rfl | ⟨rfl, -⟩
        · rw [clientTypeOf_octet, htype] at hkind
          exact (Option.some.inj hkind).symm
        · exact (Option.some.inj hkind).symm
      rw [Owed, huplink] at howed
      exact howed ▸ hout
  · have hwrote := run_wrote hparts.left
    rw [Wrote, htop] at hwrote
    rw [length_inFlight, hparts.up_sent]
    exact hwrote.symm

theorem uplink_counts_round : ∃ past w, Run (sample .uplink) past w ∧ w.left.pc = .top ∧ w.down.read = [] ∧
    w.down.sent <+: [magicNumber] ∧
    (w.left.pc = .top → 6 + w.left.bytesWritten = w.up.read.length + w.up.inFlight.length) := by
  have h : Run (sample .uplink) [] _ := .nil
  have h := h.client (.write [0x7F]) (.greet rfl) List.nil_prefix rfl
  have h := h.client (.write [0]) (.greet rfl) List.nil_prefix rfl
  have h := h.client (.write [2, 0, 0, 0]) (.greet rfl) List.nil_prefix rfl
  have h := h.client (.fill [5, 6]) (.fill rfl rfl rfl rfl) List.nil_prefix rfl
  have h := h.client (.write [5, 6]) (.write rfl) List.nil_prefix rfl
  have h := h.client .written (.written rfl (Or.inl rfl)) List.nil_prefix rfl
  exact ⟨_, _, h, rfl, uplink_counts (sample .uplink) _ _ h rfl⟩

end Links

end TransportConverter.Evaluation
