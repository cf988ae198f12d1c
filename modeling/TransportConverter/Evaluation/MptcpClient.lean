import TransportConverter.Foundations.Memory
import TransportConverter.Foundations.Parties

/-! The client that the measurements are made with: `main` of `mptcp_client.c` from its connection on. -/

namespace TransportConverter.Evaluation

open Foundations.Memory Foundations.Parties Foundations.Refinement

def magicNumber : UInt8 := 0x7F

inductive ClientType
  | uplink
  | downlink
  | echo
  deriving DecidableEq

def ClientType.octet : ClientType → UInt8
  | .uplink => 0
  | .downlink => 1
  | .echo => 2

structure Settings where
  clientType : ClientType
  bufferSize : ℕ
  downloadSize : ℤ
  uploadSize : ℤ
  bufferSize_pos : 0 < bufferSize
  bufferSize_lt : bufferSize < 2 ^ 31

def intOctets (n : ℕ) : Bytes := [.ofNat n, .ofNat (n / 256), .ofNat (n / 256 ^ 2), .ofNat (n / 256 ^ 3)]

/-- Where the program is: `greeting` has a write of the header to make, with those behind it; `writing` has
part of the buffer still to hand over. -/
inductive ClientPc
  | greeting (chunk : Bytes) (more : List Bytes)
  | top
  | writing (left : Bytes) (taken : ℕ)
  | closed
  | overflowed

structure Client where
  pc : ClientPc
  loop : Bool
  bytesRead : ℕ
  bytesWritten : ℕ
  magics : ℕ

inductive ClientMove
  | write (octets : Bytes)
  | written
  | read (octets : Bytes)
  | fill (octets : Bytes)
  | leave
  | fail
  | interrupt

section Program

variable (s : Settings)

def Settings.header : Bytes := magicNumber :: s.clientType.octet :: intOctets s.bufferSize

def Client.start : Client where
  pc := .greeting [magicNumber] [[s.clientType.octet], intOctets s.bufferSize]
  loop := true
  bytesRead := 0
  bytesWritten := 0
  magics := 0

def afterGreeting : List Bytes → ClientPc
  | [] => .top
  | chunk :: more => .greeting chunk more

def Settings.filled (octets : Bytes) : Bytes := octets ++ zeros (s.bufferSize - octets.length)

def intAdd (a b : ℕ) : Option ℕ := if a + b < 2 ^ 31 then some (a + b) else none

def reached (size : ℤ) (n : ℕ) : Bool := size ≠ -1 && (n : ℤ) ≥ size

def Client.afterRead (c : Client) (octets : Bytes) : Client :=
  if (s.filled octets).head? = some magicNumber then { c with pc := .top, magics := c.magics + 1 }
  else
    match intAdd c.bytesRead octets.length with
    | none => { c with pc := .overflowed }
    | some bytesRead =>
      if reached s.downloadSize bytesRead then { c with pc := .closed, bytesRead }
      else if s.clientType = .downlink then { c with pc := .top, bytesRead }
      else { c with pc := .writing (s.filled octets) 0, bytesRead }

def Client.afterWrite (c : Client) (taken : ℕ) : Client :=
  match intAdd c.bytesWritten taken with
  | none => { c with pc := .overflowed }
  | some bytesWritten =>
    if reached s.uploadSize bytesWritten then { c with pc := .closed, bytesWritten }
    else { c with pc := .top, bytesWritten }

def Client.calls (c : Client) : Bool :=
  match c.pc with
  | .greeting _ _ | .writing _ _ => true
  | .top => c.loop && s.clientType ≠ .uplink
  | .closed | .overflowed => false

inductive Client.Step : ClientMove → Client → Client → Prop
  | greet {c : Client} {chunk : Bytes} {more : List Bytes} (hpc : c.pc = .greeting chunk more) :
      Step (.write chunk) c { c with pc := afterGreeting more }
  | read {c : Client} {octets : Bytes} (hpc : c.pc = .top) (hloop : c.loop = true)
      (htype : s.clientType ≠ .uplink) (hlength : octets.length ≤ s.bufferSize) :
      Step (.read octets) c (c.afterRead s octets)
  | fill {c : Client} {octets : Bytes} (hpc : c.pc = .top) (hloop : c.loop = true)
      (htype : s.clientType = .uplink) (hlength : octets.length = s.bufferSize) :
      Step (.fill octets) c { c with pc := .writing octets 0 }
  | write {c : Client} {octets left : Bytes} {taken : ℕ} (hpc : c.pc = .writing (octets ++ left) taken) :
      Step (.write octets) c { c with pc := .writing left (taken + octets.length) }
  -- a write that a signal cuts short returns what it has handed over
  | written {c : Client} {left : Bytes} {taken : ℕ} (hpc : c.pc = .writing left taken)
      (hwhole : left = [] ∨ (c.loop = false ∧ 0 < taken)) :
      Step .written c (c.afterWrite s taken)
  | leave {c : Client} (hpc : c.pc = .top) (hloop : c.loop = false) : Step .leave c { c with pc := .closed }
  | fail {c : Client} (hcalls : c.calls s = true) : Step .fail c { c with pc := .closed }
  -- `sigint_handler`
  | interrupt {c : Client} : Step .interrupt c { c with loop := false }

def ClientMove.took : ClientMove → Bytes
  | .read octets => octets
  | _ => []

def ClientMove.gave : ClientMove → Bytes
  | .write octets => octets
  | _ => []

def ClientMove.sawEnd : ClientMove → Bool
  | .read octets => octets.isEmpty
  | _ => false

def clientParty : Party UInt8 Client ClientMove where
  step := Client.Step s
  took := ClientMove.took
  gave := ClientMove.gave
  sawEnd move := move.sawEnd = true
  closed c := c.pc = .closed

def ClientMove.answer : ClientMove → Option Bytes
  | .read octets => some octets
  | _ => none

def reads (moves : List ClientMove) : List Bytes := moves.filterMap ClientMove.answer

def counted (octets : Bytes) : Bool := octets.head? ≠ some magicNumber

end Program

section Runs

variable {s : Settings} {moves : List ClientMove} {move : ClientMove} {c d : Client} {octets out padded : Bytes}

lemma reads_read : reads (moves ++ [.read octets]) = reads moves ++ [octets] := by
  rw [reads, List.filterMap_append]
  rfl

lemma reads_other (h : move.answer = none) : reads (moves ++ [move]) = reads moves := by
  rw [reads, List.filterMap_append, List.filterMap_cons_none h, List.filterMap_nil, List.append_nil]
  rfl

lemma reads_flatten : (reads moves).flatten = moves.flatMap ClientMove.took := by
  induction moves with
  | nil => rfl
  | cons move moves ih =>
    rw [List.flatMap_cons, ← ih]
    cases move <;> rfl

lemma filled_head : (s.filled octets).head? = some magicNumber ↔ counted octets = false := by
  rw [counted, decide_eq_false_iff_not, not_not]
  cases octets with
  | nil =>
    obtain ⟨n, hn⟩ := Nat.exists_eq_succ_of_ne_zero s.bufferSize_pos.ne'
    rw [Settings.filled, List.nil_append, List.length_nil, hn, zeros, Nat.sub_zero, List.replicate_succ,
      List.head?_cons, List.head?_nil]
    decide
  | cons octet octets => rfl

lemma afterRead_cases (s : Settings) (c : Client) (octets : Bytes) :
    (counted octets = false ∧ c.afterRead s octets = { c with pc := .top, magics := c.magics + 1 }) ∨
      (counted octets = true ∧ c.afterRead s octets = { c with pc := .overflowed }) ∨
      (counted octets = true ∧ ∃ pc, c.afterRead s octets = { c with pc, bytesRead := c.bytesRead + octets.length } ∧
        (pc = .closed ∨ (s.clientType = .downlink ∧ pc = .top) ∨
          (s.clientType ≠ .downlink ∧ pc = .writing (s.filled octets) 0))) := by
  rw [Client.afterRead]
  by_cases hhead : (s.filled octets).head? = some magicNumber
  · exact Or.inl ⟨filled_head.mp hhead, if_pos hhead⟩
  have hcounted : counted octets = true := by
    rw [← Bool.not_eq_false, ← filled_head (s := s)]
    exact hhead
  rw [if_neg hhead, intAdd]
  by_cases hfits : c.bytesRead + octets.length < 2 ^ 31
  · rw [if_pos hfits]
    refine Or.inr (Or.inr ⟨hcounted, ?_⟩)
    dsimp only
    split_ifs with hdone htype
    · exact ⟨_, rfl, Or.inl rfl⟩
    · exact ⟨_, rfl, Or.inr (Or.inl ⟨htype, rfl⟩)⟩
    · exact ⟨_, rfl, Or.inr (Or.inr ⟨htype, rfl⟩)⟩
  · rw [if_neg hfits]
    exact Or.inr (Or.inl ⟨hcounted, rfl⟩)

lemma afterWrite_cases (s : Settings) (c : Client) (taken : ℕ) :
    c.afterWrite s taken = { c with pc := .overflowed } ∨
      ∃ pc, c.afterWrite s taken = { c with pc, bytesWritten := c.bytesWritten + taken } ∧
        (pc = .closed ∨ pc = .top) := by
  rw [Client.afterWrite, intAdd]
  by_cases hfits : c.bytesWritten + taken < 2 ^ 31
  · rw [if_pos hfits]
    refine Or.inr ?_
    dsimp only
    split_ifs
    · exact ⟨_, rfl, Or.inl rfl⟩
    · exact ⟨_, rfl, Or.inr rfl⟩
  · rw [if_neg hfits]
    exact Or.inl rfl

structure Counted (answers : List Bytes) (c : Client) : Prop where
  magics : c.magics = (answers.filter (! counted ·)).length
  bytesRead : c.pc ≠ .overflowed → c.bytesRead = ((answers.filter counted).map List.length).sum

lemma Counted.same {answers : List Bytes} (h : Counted answers c) (hmagics : d.magics = c.magics)
    (hread : d.bytesRead = c.bytesRead) (hpc : d.pc ≠ .overflowed → c.pc ≠ .overflowed) : Counted answers d :=
  ⟨hmagics.trans h.magics, fun hd => hread.trans (h.bytesRead (hpc hd))⟩

lemma Counted.afterRead {answers : List Bytes} (h : Counted answers c) (hpc : c.pc = .top) :
    Counted (answers ++ [octets]) (c.afterRead s octets) := by
  have hread := h.bytesRead (by rw [hpc]; exact ClientPc.noConfusion)
  rcases afterRead_cases s c octets with ⟨hcounted, hd⟩ | ⟨hcounted, hd⟩ | ⟨hcounted, pc, hd, -⟩
  · rw [hd]
    refine ⟨?_, fun _ => ?_⟩
    · simp [hcounted, h.magics]
    · simp [hcounted, hread]
  · rw [hd]
    refine ⟨?_, fun hne => absurd rfl hne⟩
    simp [hcounted, h.magics]
  · rw [hd]
    refine ⟨?_, fun _ => ?_⟩
    · simp [hcounted, h.magics]
    · simp [hcounted, hread]

lemma counted_step (h : Counted (reads moves) c) (hstep : Client.Step s move c d) :
    Counted (reads (moves ++ [move])) d := by
  cases hstep with
  | greet hpc | write hpc | fill hpc | leave hpc =>
    rw [reads_other rfl]
    exact h.same rfl rfl fun _ => by rw [hpc]; exact ClientPc.noConfusion
  | fail hcalls =>
    rw [reads_other rfl]
    refine h.same rfl rfl fun _ hover => ?_
    rw [Client.calls, hover] at hcalls
    cases hcalls
  | interrupt =>
    rw [reads_other rfl]
    exact h.same rfl rfl id
  | written hpc =>
    rw [reads_other rfl]
    have hne : c.pc ≠ .overflowed := by
      rw [hpc]
      exact ClientPc.noConfusion
    rcases afterWrite_cases s c _ with hd | ⟨pc, hd, -⟩
    · rw [hd]
      exact h.same rfl rfl fun _ => hne
    · rw [hd]
      exact h.same rfl rfl fun _ => hne
  | read hpc =>
    rw [reads_read]
    exact h.afterRead hpc

lemma run_counted (h : Trace (Client.Step s) (.start s) moves c) : Counted (reads moves) c :=
  h.invariant (I := fun past c => Counted (reads past) c) ⟨rfl, fun _ => rfl⟩
    fun _ _ _ _ hcounted hstep => counted_step hcounted hstep

lemma run_reads_length (h : Trace (Client.Step s) (.start s) moves c) :
    ∀ octets ∈ reads moves, octets.length ≤ s.bufferSize := by
  refine h.invariant (I := fun past _ => ∀ octets ∈ reads past, octets.length ≤ s.bufferSize) ?_ ?_
  · exact fun octets hoctets => absurd hoctets List.not_mem_nil
  intro past move c d hlength hstep
  cases hstep with
  | read _ _ _ hread =>
    rw [reads_read]
    intro octets hoctets
    rcases List.mem_append.mp hoctets with hoctets | hoctets
    · exact hlength octets hoctets
    · rwa [List.mem_singleton.mp hoctets]
  | greet | fill | write | written | leave | fail | interrupt =>
    rw [reads_other rfl]
    exact hlength

def Greeted (s : Settings) (out : Bytes) : ClientPc → Prop
  | .greeting chunk more => out ++ (chunk ++ more.flatten) = s.header
  | .closed => out <+: s.header ∨ s.header <+: out
  | .top | .writing _ _ | .overflowed => s.header <+: out

lemma greeted_behind {pc : ClientPc} (h : s.header <+: out) (hpc : ∀ chunk more, pc ≠ .greeting chunk more) :
    Greeted s out pc := by
  cases pc with
  | greeting chunk more => exact absurd rfl (hpc chunk more)
  | closed => exact Or.inr h
  | top | writing left taken | overflowed => exact h

lemma afterRead_behind (s : Settings) (c : Client) (octets chunk : Bytes) (more : List Bytes) :
    (c.afterRead s octets).pc ≠ .greeting chunk more := by
  rcases afterRead_cases s c octets with ⟨-, hd⟩ | ⟨-, hd⟩ | ⟨-, pc, hd, rfl | ⟨-, rfl⟩ | ⟨-, rfl⟩⟩
  all_goals
    rw [hd]
    exact ClientPc.noConfusion

lemma afterWrite_behind (s : Settings) (c : Client) (taken : ℕ) (chunk : Bytes) (more : List Bytes) :
    (c.afterWrite s taken).pc ≠ .greeting chunk more := by
  rcases afterWrite_cases s c taken with hd | ⟨pc, hd, rfl | rfl⟩
  all_goals
    rw [hd]
    exact ClientPc.noConfusion

lemma greeted_step (h : Greeted s out c.pc) (hstep : Client.Step s move c d) :
    Greeted s (out ++ move.gave) d.pc := by
  cases hstep with
  | @greet _ chunk more hpc =>
    rw [hpc, Greeted, ← List.append_assoc] at h
    cases more with
    | nil =>
      rw [List.flatten_nil, List.append_nil] at h
      exact h.symm ▸ List.prefix_rfl
    | cons next more => exact h
  | read hpc =>
    rw [hpc] at h
    simp only [ClientMove.gave, List.append_nil]
    exact greeted_behind h (afterRead_behind s c _)
  | fill hpc =>
    rw [hpc] at h
    simp only [ClientMove.gave, List.append_nil]
    exact h
  | write hpc =>
    rw [hpc] at h
    exact h.trans (List.prefix_append _ _)
  | written hpc =>
    rw [hpc] at h
    simp only [ClientMove.gave, List.append_nil]
    exact greeted_behind h (afterWrite_behind s c _)
  | leave hpc =>
    rw [hpc] at h
    simp only [ClientMove.gave, List.append_nil]
    exact Or.inr h
  | fail hcalls =>
    simp only [ClientMove.gave, List.append_nil]
    cases hpc : c.pc with
    | greeting chunk more =>
      rw [hpc] at h
      exact Or.inl ⟨_, h⟩
    | top | writing left taken =>
      rw [hpc] at h
      exact Or.inr h
    | closed | overflowed =>
      rw [Client.calls, hpc] at hcalls
      cases hcalls
  | interrupt =>
    simp only [ClientMove.gave, List.append_nil]
    exact h

lemma run_greeted (h : Trace (Client.Step s) (.start s) moves c) :
    Greeted s (moves.flatMap ClientMove.gave) c.pc := by
  refine h.invariant (I := fun past c => Greeted s (past.flatMap ClientMove.gave) c.pc) ?_ ?_
  · rfl
  intro past move c d hgreeted hstep
  rw [List.flatMap_append, List.flatMap_singleton]
  exact greeted_step hgreeted hstep

lemma run_comparable (h : Trace (Client.Step s) (.start s) moves c) :
    moves.flatMap ClientMove.gave <+: s.header ∨ s.header <+: moves.flatMap ClientMove.gave := by
  have hgreeted := run_greeted h
  cases hpc : c.pc with
  | greeting chunk more =>
    rw [hpc] at hgreeted
    exact Or.inl ⟨_, hgreeted⟩
  | closed =>
    rw [hpc] at hgreeted
    exact hgreeted
  | top | writing left taken | overflowed =>
    rw [hpc] at hgreeted
    exact Or.inr hgreeted

/-- What a client that echoes sends behind its header: what it has read, each time the whole buffer. -/
def padding (s : Settings) (answers : List Bytes) : Bytes := (answers.filter counted).flatMap s.filled

def Echoed (s : Settings) (out padded : Bytes) (c : Client) : Prop :=
  match c.pc with
  | .greeting chunk more => out ++ (chunk ++ more.flatten) = s.header ∧ padded = []
  | .top => (c.loop = true → out = s.header ++ padded) ∧ out <+: s.header ++ padded
  | .writing left _ => out ++ left = s.header ++ padded
  | .closed | .overflowed => out <+: s.header ++ padded

lemma Echoed.sent_begins (h : Echoed s out padded c) : out <+: s.header ++ padded := by
  rw [Echoed] at h
  split at h
  · exact (List.IsPrefix.trans ⟨_, h.1⟩ (List.prefix_append s.header padded))
  · exact h.2
  · exact ⟨_, h⟩
  · exact h
  · exact h

lemma Echoed.same (h : Echoed s out padded c) (hpc : d.pc = .closed ∨ d.pc = .overflowed) :
    Echoed s out padded d := by
  have hprefix := h.sent_begins
  rcases hpc with hpc | hpc
  all_goals
    rw [Echoed, hpc]
    exact hprefix

lemma Echoed.afterRead {answers : List Bytes} (htype : s.clientType = .echo)
    (h : out = s.header ++ padding s answers) :
    Echoed s out (padding s (answers ++ [octets])) (c.afterRead s octets) := by
  have hskipped (hcounted : counted octets = false) : padding s (answers ++ [octets]) = padding s answers := by
    simp [padding, hcounted]
  have hpadded (hcounted : counted octets = true) :
      padding s (answers ++ [octets]) = padding s answers ++ s.filled octets := by
    simp [padding, hcounted]
  rcases afterRead_cases s c octets with ⟨hcounted, hd⟩ | ⟨hcounted, hd⟩ | ⟨hcounted, pc, hd, hpc⟩
  · rw [hd, hskipped hcounted]
    exact ⟨fun _ => h, h ▸ List.prefix_rfl⟩
  · rw [hd, hpadded hcounted, Echoed, ← List.append_assoc, ← h]
    exact List.prefix_append _ _
  · rw [hd, hpadded hcounted]
    rcases hpc with rfl | ⟨hdownlink, -⟩ | ⟨-, rfl⟩
    · rw [Echoed, ← List.append_assoc, ← h]
      exact List.prefix_append _ _
    · rw [htype] at hdownlink
      cases hdownlink
    · rw [Echoed, ← List.append_assoc, ← h]

lemma Echoed.afterWrite {left : Bytes} {taken : ℕ} (h : out ++ left = s.header ++ padded)
    (hwhole : left = [] ∨ (c.loop = false ∧ 0 < taken)) : Echoed s out padded (c.afterWrite s taken) := by
  have hprefix : out <+: s.header ++ padded := ⟨left, h⟩
  rcases afterWrite_cases s c taken with hd | ⟨pc, hd, rfl | rfl⟩
  · rw [hd]
    exact hprefix
  · rw [hd]
    exact hprefix
  · rw [hd]
    refine ⟨fun hloop => ?_, hprefix⟩
    rcases hwhole with rfl | ⟨hstopped, -⟩
    · rwa [List.append_nil] at h
    · exact absurd (hstopped.symm.trans hloop) Bool.false_ne_true

lemma echoed_step (htype : s.clientType = .echo) (h : Echoed s out (padding s (reads moves)) c)
    (hstep : Client.Step s move c d) :
    Echoed s (out ++ move.gave) (padding s (reads (moves ++ [move]))) d := by
  cases hstep with
  | @greet _ chunk more hpc =>
    rw [reads_other rfl]
    rw [Echoed, hpc] at h
    obtain ⟨hout, hpadded⟩ := h
    rw [hpadded]
    rw [← List.append_assoc] at hout
    cases more with
    | nil =>
      rw [List.flatten_nil, List.append_nil] at hout
      have hsent : out ++ chunk = s.header ++ [] := by rw [hout, List.append_nil]
      exact ⟨fun _ => hsent, hsent ▸ List.prefix_rfl⟩
    | cons next more => exact ⟨hout, rfl⟩
  | read hpc hloop =>
    rw [reads_read]
    rw [Echoed, hpc] at h
    simp only [ClientMove.gave, List.append_nil]
    exact Echoed.afterRead htype (h.1 hloop)
  | fill hpc hloop huplink =>
    rw [htype] at huplink
    cases huplink
  | @write _ octets left taken hpc =>
    rw [reads_other rfl]
    rw [Echoed, hpc] at h
    exact (List.append_assoc out octets left).trans h
  | written hpc hwhole =>
    rw [reads_other rfl]
    rw [Echoed, hpc] at h
    simp only [ClientMove.gave, List.append_nil]
    exact Echoed.afterWrite h hwhole
  | leave | fail =>
    rw [reads_other rfl]
    simp only [ClientMove.gave, List.append_nil]
    exact h.same (Or.inl rfl)
  | interrupt =>
    rw [reads_other rfl]
    simp only [ClientMove.gave, List.append_nil]
    rw [Echoed] at h ⊢
    cases hpc : c.pc with
    | top =>
      rw [hpc] at h
      exact ⟨fun hloop => absurd hloop Bool.false_ne_true, h.2⟩
    | greeting chunk more | writing left taken | closed | overflowed =>
      rw [hpc] at h
      exact h

lemma run_echoed (htype : s.clientType = .echo) (h : Trace (Client.Step s) (.start s) moves c) :
    Echoed s (moves.flatMap ClientMove.gave) (padding s (reads moves)) c := by
  refine h.invariant (I := fun past c => Echoed s (past.flatMap ClientMove.gave) (padding s (reads past)) c) ?_ ?_
  · exact ⟨rfl, rfl⟩
  intro past move c d hechoed hstep
  rw [List.flatMap_append, List.flatMap_singleton]
  exact echoed_step htype hechoed hstep

def Wrote (out : Bytes) (c : Client) : Prop :=
  match c.pc with
  | .greeting chunk more => (out ++ (chunk ++ more.flatten)).length = 6 ∧ c.bytesWritten = 0
  | .top => out.length = 6 + c.bytesWritten
  | .writing _ taken => out.length = 6 + c.bytesWritten + taken
  | .closed | .overflowed => True

lemma wrote_step (h : Wrote out c) (hstep : Client.Step s move c d) : Wrote (out ++ move.gave) d := by
  cases hstep with
  | @greet _ chunk more hpc =>
    rw [Wrote, hpc] at h
    obtain ⟨hout, hwritten⟩ := h
    cases more with
    | nil =>
      rw [List.flatten_nil, List.append_nil] at hout
      show (out ++ chunk).length = 6 + c.bytesWritten
      rw [hout, hwritten]
    | cons next more =>
      rw [← List.append_assoc] at hout
      exact ⟨hout, hwritten⟩
  | @read _ octets hpc =>
    rw [Wrote, hpc] at h
    simp only [ClientMove.gave, List.append_nil]
    rcases afterRead_cases s c octets with ⟨-, hd⟩ | ⟨-, hd⟩ | ⟨-, pc, hd, rfl | ⟨-, rfl⟩ | ⟨-, rfl⟩⟩
    · rw [hd]
      exact h
    · rw [hd]
      trivial
    · rw [hd]
      trivial
    · rw [hd]
      exact h
    · rw [hd]
      exact h
  | fill hpc =>
    rw [Wrote, hpc] at h
    simp only [ClientMove.gave, List.append_nil]
    exact h
  | @write _ octets left taken hpc =>
    rw [Wrote, hpc] at h
    show (out ++ octets).length = 6 + c.bytesWritten + (taken + octets.length)
    rw [List.length_append, h, add_assoc]
  | @written _ left taken hpc =>
    rw [Wrote, hpc] at h
    simp only [ClientMove.gave, List.append_nil]
    rcases afterWrite_cases s c taken with hd | ⟨pc, hd, rfl | rfl⟩
    · rw [hd]
      trivial
    · rw [hd]
      trivial
    · rw [hd]
      exact h.trans (add_assoc _ _ _)
  | leave | fail => trivial
  | interrupt =>
    simp only [ClientMove.gave, List.append_nil]
    exact h

lemma run_wrote (h : Trace (Client.Step s) (.start s) moves c) : Wrote (moves.flatMap ClientMove.gave) c := by
  refine h.invariant (I := fun past c => Wrote (past.flatMap ClientMove.gave) c) ?_ ?_
  · exact ⟨rfl, rfl⟩
  intro past move c d hwrote hstep
  rw [List.flatMap_append, List.flatMap_singleton]
  exact wrote_step hwrote hstep

lemma run_uplink (htype : s.clientType = .uplink) (h : Trace (Client.Step s) (.start s) moves c) :
    moves.flatMap ClientMove.took = [] := by
  refine h.invariant (I := fun past _ => past.flatMap ClientMove.took = []) rfl ?_
  intro past move c d hnone hstep
  rw [List.flatMap_append, List.flatMap_singleton, hnone]
  cases hstep with
  | read _ _ hreads => exact absurd htype hreads
  | greet | fill | write | written | leave | fail | interrupt => rfl

lemma client_final (s : Settings) : (clientParty s).Final := by
  intro move c d hclosed hstep
  have hpc : c.pc = .closed := hclosed
  cases hstep with
  | greet h | read h | fill h | write h | written h | leave h =>
    rw [hpc] at h
    cases h
  | fail hcalls =>
    rw [Client.calls, hpc] at hcalls
    cases hcalls
  | interrupt => exact ⟨hpc, rfl⟩

end Runs

end TransportConverter.Evaluation
