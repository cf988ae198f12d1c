import TransportConverter.Server.Handle

/-! `read_and_forward` and `cleanup_socket_pair`. -/

namespace TransportConverter.Server

open Foundations.Memory Foundations.Effects

def removeInput (sock : ℕ) : Py Unit := fun s =>
  if sock ∈ s.inputs then .ok () { s with inputs := s.inputs.erase sock } else .error .valueError s

def deleteForward (fd : ℤ) : Py Unit := fun s =>
  match s.forwardMap fd with
  | none => .error .keyError s
  | some _ => .ok () { s with forwardMap := Function.update s.forwardMap fd none }

/-- `stop` joins the thread, and there is none before `run`. -/
def stopLogger (logger : ℕ) : Py Unit := fun s =>
  match s.loggers logger with
  | .created => .error .attributeError s
  | .running | .stopped =>
    .ok () { s with loggers := Function.update s.loggers logger .stopped }

def TcServer.loggerOf (s : TcServer) (cfd sfd : ℕ) : Option ℕ :=
  (s.perfLoggers (s.fileno cfd)).orElse fun _ => s.perfLoggers (s.fileno sfd)

def stopLoggerOf (cfd sfd : ℕ) : Py Unit := do
  match (← get).loggerOf cfd sfd with
  | none => pure ()
  | some logger => stopLogger logger

def fileno (sock : ℕ) : Py ℤ := fun s => .ok (s.fileno sock) s

def cleanupSocketPair (cfd sfd : ℕ) : Py Unit := do
  removeInput cfd
  deleteForward (← fileno cfd)
  deleteForward (← fileno sfd)
  removeInput sfd
  stopLoggerOf cfd sfd
  closeSocket cfd
  closeSocket sfd

/-- The octets `recv` returns, none of them at the end of the stream. -/
inductive RecvAnswer
  | raises
  | octets (data : Bytes)
  deriving DecidableEq

def getForward (sock : ℕ) : Py ℕ := fun s =>
  match s.forwardMap (s.fileno sock) with
  | none => .error .keyError s
  | some partner => .ok partner s

def recvSocket (sock : ℕ) (answer : RecvAnswer) : Py (Option Bytes) := fun s =>
  if s.fileno sock = -1 then .ok none s
  else
    match answer with
    | .raises => .ok none s
    | .octets [] => .ok (some []) s
    | .octets data => .ok (some data) (s.record (.received sock data))

def readAndForward (sock : ℕ) (recv : RecvAnswer) (send : SendAnswer) : Py Unit := do
  let sfd ← getForward sock
  if (← fileno sfd) = -1 ∨ (← fileno sock) = -1 then
    cleanupSocketPair sock sfd
  match ← recvSocket sock recv with
  | none => cleanupSocketPair sock sfd
  | some data =>
    if data ≠ [] then
      let destination ← getForward sock
      sendSocket destination data send (.forwarded sock destination)
    else
      cleanupSocketPair sock sfd

inductive Ready
  | accept (conn : Conn)
  | serve (sock : ℕ) (recv : RecvAnswer) (send : SendAnswer)

def serveReady : Ready → Py Unit
  | .accept conn => acceptConnection conn
  | .serve sock recv send => readAndForward sock recv send

def serveBatch : List Ready → Py Unit
  | [] => pure ()
  | ready :: batch => do
    serveReady ready
    serveBatch batch

def TcServer.cleaned (s : TcServer) (cfd sfd : ℕ) : TcServer :=
  { s with
    inputs := (s.inputs.erase cfd).erase sfd
    forwardMap := Function.update (Function.update s.forwardMap (s.fileno cfd) none) (s.fileno sfd) none
    loggers :=
      match s.loggerOf cfd sfd with
      | none => s.loggers
      | some logger => Function.update s.loggers logger .stopped
    fileno := Function.update (Function.update s.fileno cfd (-1)) sfd (-1) }

def LoggerStops (s : TcServer) (cfd sfd : ℕ) : Prop :=
  ∀ logger, s.loggerOf cfd sfd = some logger → s.loggers logger ≠ .created

structure Cleanable (s : TcServer) (cfd sfd : ℕ) : Prop where
  cfd_input : cfd ∈ s.inputs
  cfd_mapped : s.forwardMap (s.fileno cfd) ≠ none
  sfd_mapped : s.forwardMap (s.fileno sfd) ≠ none
  distinct : s.fileno sfd ≠ s.fileno cfd
  sfd_input : sfd ∈ s.inputs.erase cfd
  logger : LoggerStops s cfd sfd

section Cleaned

variable {s : TcServer} {x y z : ℕ}

@[simp] lemma cleaned_inputs : (s.cleaned x y).inputs = (s.inputs.erase x).erase y := rfl

lemma cleaned_fileno_of_ne (hx : z ≠ x) (hy : z ≠ y) : (s.cleaned x y).fileno z = s.fileno z := by
  simp [TcServer.cleaned, Function.update_of_ne hx, Function.update_of_ne hy]

lemma cleaned_fileno_left : (s.cleaned x y).fileno x = -1 := by
  rcases eq_or_ne x y with rfl | hne
  · simp [TcServer.cleaned]
  · simp [TcServer.cleaned, Function.update_of_ne hne]

lemma cleaned_fileno_right : (s.cleaned x y).fileno y = -1 := by
  simp [TcServer.cleaned]

lemma cleaned_forwardMap_of_ne {fd : ℤ} (hx : fd ≠ s.fileno x) (hy : fd ≠ s.fileno y) :
    (s.cleaned x y).forwardMap fd = s.forwardMap fd := by
  simp [TcServer.cleaned, Function.update_of_ne hx, Function.update_of_ne hy]

lemma cleaned_open (h : (s.cleaned x y).fileno z ≠ -1) :
    z ≠ x ∧ z ≠ y ∧ (s.cleaned x y).fileno z = s.fileno z := by
  have hx : z ≠ x := by
    rintro rfl
    exact h cleaned_fileno_left
  have hy : z ≠ y := by
    rintro rfl
    exact h cleaned_fileno_right
  exact ⟨hx, hy, cleaned_fileno_of_ne hx hy⟩

end Cleaned

section Spec

variable {s t u : TcServer} {sock cfd sfd : ℕ} {fd : ℤ} {a : Unit} {recv : RecvAnswer} {send : SendAnswer}

lemma removeInput_eq_ok :
    removeInput sock s = .ok a t ↔ sock ∈ s.inputs ∧ t = { s with inputs := s.inputs.erase sock } := by
  unfold removeInput
  split_ifs with h
  · simp [h, eq_comm]
  · simp [h]

lemma deleteForward_eq_ok :
    deleteForward fd s = .ok a t ↔
      s.forwardMap fd ≠ none ∧ t = { s with forwardMap := Function.update s.forwardMap fd none } := by
  unfold deleteForward
  cases h : s.forwardMap fd <;> simp [eq_comm]

lemma stopLoggerOf_eq_ok :
    stopLoggerOf cfd sfd s = .ok a t ↔ LoggerStops s cfd sfd ∧
      t = { s with loggers := match s.loggerOf cfd sfd with
        | none => s.loggers
        | some logger => Function.update s.loggers logger .stopped } := by
  have hget : (get : Py TcServer) s = .ok s s := rfl
  rw [stopLoggerOf, bind_of_ok hget]
  cases h : s.loggerOf cfd sfd with
  | none =>
    have hpure : (pure () : Py Unit) s = .ok () s := rfl
    simp only [LoggerStops, h, hpure, reduceCtorEq, false_implies, implies_true, true_and]
    exact ⟨fun heq => by cases heq; rfl, fun heq => by rw [heq]⟩
  | some logger =>
    simp only [LoggerStops, h, Option.some.injEq, forall_eq', stopLogger]
    cases s.loggers logger <;> simp [eq_comm]

lemma closeSocket_eq_ok : closeSocket sock s = .ok a t ↔ t = s.closed sock := by
  have h : closeSocket sock s = .ok () (s.closed sock) := rfl
  simp [h, eq_comm]

lemma fileno_eq_ok : fileno sock s = .ok fd t ↔ fd = s.fileno sock ∧ t = s := by
  simp [fileno, eq_comm]

lemma cleanupSocketPair_eq_ok :
    cleanupSocketPair cfd sfd s = .ok () t ↔ Cleanable s cfd sfd ∧ t = s.cleaned cfd sfd := by
  simp only [cleanupSocketPair, bind_eq_ok, removeInput_eq_ok, deleteForward_eq_ok, fileno_eq_ok,
    stopLoggerOf_eq_ok, closeSocket_eq_ok]
  constructor
  · rintro ⟨-, -, ⟨hcfd, rfl⟩, -, -, ⟨rfl, rfl⟩, -, -, ⟨hcmap, rfl⟩, -, -, ⟨rfl, rfl⟩, -, -,
      ⟨hsmap, rfl⟩, -, -, ⟨hsfd, rfl⟩, -, -, ⟨hlogger, rfl⟩, -, -, rfl, rfl⟩
    have hne : s.fileno sfd ≠ s.fileno cfd := by
      intro heq
      rw [heq] at hsmap
      exact hsmap (Function.update_self ..)
    refine ⟨⟨hcfd, hcmap, ?_, hne, hsfd, hlogger⟩, rfl⟩
    exact fun hnone => hsmap ((Function.update_of_ne hne none s.forwardMap).trans hnone)
  · rintro ⟨⟨hcfd, hcmap, hsmap, hne, hsfd, hlogger⟩, rfl⟩
    refine ⟨(), _, ⟨hcfd, rfl⟩, _, _, ⟨rfl, rfl⟩, (), _, ⟨hcmap, rfl⟩, _, _, ⟨rfl, rfl⟩, (), _,
      ⟨?_, rfl⟩, (), _, ⟨hsfd, rfl⟩, (), _, ⟨hlogger, rfl⟩, (), _, rfl, rfl⟩
    dsimp only
    rwa [Function.update_of_ne hne]

lemma getForward_eq_ok {partner : ℕ} :
    getForward sock s = .ok partner t ↔ s.forwardMap (s.fileno sock) = some partner ∧ t = s := by
  unfold getForward
  cases h : s.forwardMap (s.fileno sock) <;> simp [eq_comm]

lemma sendSocket_eq_ok {data : Bytes} {event : Bytes → Event} :
    sendSocket sock data send event s = .ok a t ↔
      s.fileno sock ≠ -1 ∧ ∃ n, send = .accepts n ∧ t = s.record (event (data.take n)) := by
  unfold sendSocket
  split_ifs with h
  · simp [h]
  · cases send <;> simp [h, eq_comm]

inductive Relayed (s : TcServer) (sock partner : ℕ) (recv : RecvAnswer) (send : SendAnswer) :
    TcServer → Prop
  | forwarded (data : Bytes) (n : ℕ) (hdata : data ≠ []) (hrecv : recv = .octets data)
      (hsend : send = .accepts n) : Relayed s sock partner recv send
        ((s.record (.received sock data)).record (.forwarded sock partner (data.take n)))
  | cleaned (hrecv : recv = .raises ∨ recv = .octets []) (h : Cleanable s sock partner) :
      Relayed s sock partner recv send (s.cleaned sock partner)

lemma cleaned_not_cleanable {x y : ℕ} : ¬ Cleanable (s.cleaned x y) x y := by
  intro h
  exact h.distinct (cleaned_fileno_right.trans cleaned_fileno_left.symm)

lemma recvSocket_cleaned {x y : ℕ} : recvSocket x recv (s.cleaned x y) = .ok none (s.cleaned x y) := by
  unfold recvSocket
  exact if_pos cleaned_fileno_left

lemma recvSocket_open (h : s.fileno sock ≠ -1) :
    recvSocket sock recv s =
      match recv with
      | .raises => .ok none s
      | .octets [] => .ok (some []) s
      | .octets data => .ok (some data) (s.record (.received sock data)) := by
  unfold recvSocket
  exact if_neg h

lemma relayed_of_cleanup (hrecv : recv = .raises ∨ recv = .octets [])
    (h : cleanupSocketPair cfd sfd s = .ok a t) : Relayed s cfd sfd recv send t := by
  obtain ⟨hclean, rfl⟩ := cleanupSocketPair_eq_ok.mp h
  exact .cleaned hrecv hclean

lemma cleanup_of_relayed (hrecv : recv = .raises ∨ recv = .octets [])
    (h : Relayed s cfd sfd recv send t) : cleanupSocketPair cfd sfd s = .ok a t := by
  cases h with
  | forwarded data n hdata hoctets hsend =>
    subst hoctets
    rcases hrecv with hrecv | hrecv
    · cases hrecv
    · exact (hdata (RecvAnswer.octets.inj hrecv)).elim
  | cleaned _ h => exact cleanupSocketPair_eq_ok.mpr ⟨h, rfl⟩

lemma readAndForward_eq_ok :
    readAndForward sock recv send s = .ok a t ↔ ∃ partner,
      s.forwardMap (s.fileno sock) = some partner ∧ s.fileno sock ≠ -1 ∧ s.fileno partner ≠ -1 ∧
        Relayed s sock partner recv send t := by
  rw [readAndForward, bind_eq_ok]
  cases hmap : s.forwardMap (s.fileno sock) with
  | none => simp [getForward_eq_ok, hmap]
  | some partner =>
    have hpartner : fileno partner s = .ok (s.fileno partner) s := rfl
    have hsock : fileno sock s = .ok (s.fileno sock) s := rfl
    simp only [getForward_eq_ok, hmap, Option.some.injEq, and_assoc, exists_and_left, exists_eq_left,
      exists_eq_left', bind_of_ok hpartner, bind_of_ok hsock]
    by_cases hclosed : s.fileno partner = -1 ∨ s.fileno sock = -1
    · -- the first cleanup closes both, and the second one finds nothing to delete
      rw [if_pos hclosed]
      constructor
      · intro h
        obtain ⟨_, u, hclean, h⟩ := bind_eq_ok.mp h
        obtain ⟨-, rfl⟩ := cleanupSocketPair_eq_ok.mp hclean
        rw [bind_of_ok recvSocket_cleaned] at h
        exact (cleaned_not_cleanable (cleanupSocketPair_eq_ok.mp h).1).elim
      · rintro ⟨hopen, hopen', -⟩
        exact (hclosed.elim hopen' hopen).elim
    · obtain ⟨hopen', hopen⟩ := not_or.mp hclosed
      rw [if_neg hclosed]
      simp only [ne_eq, hopen, hopen', not_false_eq_true, true_and]
      cases recv with
      | raises =>
        rw [bind_of_ok (recvSocket_open hopen)]
        exact ⟨fun h => relayed_of_cleanup (Or.inl rfl) h, cleanup_of_relayed (Or.inl rfl)⟩
      | octets data =>
        cases data with
        | nil =>
          rw [bind_of_ok (recvSocket_open hopen)]
          exact ⟨fun h => relayed_of_cleanup (Or.inr rfl) h, cleanup_of_relayed (Or.inr rfl)⟩
        | cons x xs =>
          have hget : getForward sock (s.record (.received sock (x :: xs))) =
              .ok partner (s.record (.received sock (x :: xs))) := getForward_eq_ok.mpr ⟨hmap, rfl⟩
          rw [bind_of_ok (recvSocket_open hopen)]
          dsimp only
          rw [if_pos (List.cons_ne_nil x xs), bind_of_ok hget, sendSocket_eq_ok]
          constructor
          · rintro ⟨-, n, rfl, rfl⟩
            exact .forwarded (x :: xs) n (List.cons_ne_nil x xs) rfl rfl
          · intro h
            cases h with
            | forwarded data n hdata hrecv hsend =>
              obtain rfl := RecvAnswer.octets.inj hrecv
              exact ⟨hopen', n, hsend, rfl⟩
            | cleaned hrecv h => rcases hrecv with hrecv | hrecv <;> cases hrecv

end Spec

end TransportConverter.Server
