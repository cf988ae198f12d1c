import TransportConverter.Client.ConnectTruth

/-! Runs of intercepted calls on one socket, against the stream the converter and then the server
send: a reply `r` and the application's data `d`. -/

namespace TransportConverter.Client

open Foundations.Memory Wire Codec

def received (fd : ℤ) (log : List Event) : Bytes :=
  log.flatMap fun
    | .recv socket _ delivered false => if socket = fd then delivered else []
    | _ => []

/-- The application got the octets of `d` in order, and the original calls were made behind the reply. -/
structure Faithful (fd : ℤ) (d : Bytes) (log : List Event) : Prop where
  received : received fd log <+: d
  recv : ∀ unread delivered peek, .recv fd unread delivered peek ∈ log →
    unread <:+ d ∧ delivered <+: unread
  send : ∀ unread, .send fd unread ∈ log → unread <:+ d

def ValidReply (r : Bytes) : Prop :=
  ∃ hdr area, r = hdr ++ area ∧ convertParseHeader hdr = some area.length ∧ area.length ≤ 1016 ∧
    (area = [] ∨ ∃ malloc opts, ParseReturns malloc (.ofBytes area) (.opts opts) ∧
      opts.flags &&& convertFError = 0)

def Answers.Waits (a : Answers) : Prop :=
  (a.header = .fails ∨ a.header = .all) ∧ (a.area = .fails ∨ a.area = .all)

def CallStep (cookie : Option Block) (fd : ℤ) (c : Call) (a : Answers) (s t : Library) : Prop :=
  s.isOpen fd = true ∧ a.Waits ∧ ∃ fuel result, perform cookie a fuel fd c s = some (.returns result t)

def AreaReadFails (a : Answers) (stream : Bytes) : Prop :=
  a.header = .all ∧ a.area = .fails ∧
    ∃ length, length ≠ 0 ∧ convertParseHeader (stream.take sizeofConvertHeader) = some length

def RedirectFails (cookie : Option Block) (a : Answers) (addr : Sockaddr) : Prop :=
  (∀ remoteAddr, addr.remoteAddr = some remoteAddr → 1024 < (redirectOpts cookie remoteAddr).need) ∨
    a.converterConnect < 0 ∨ a.converterSend < 0

/-- The call does not give a socket up whose reply is still in the stream. -/
def KeepsReply (cookie : Option Block) (fd : ℤ) (c : Call) (a : Answers) (s : Library) : Prop :=
  s.htable.lookup fd = some true →
    match c with
    | .connect addr =>
      ¬ RedirectFails cookie a addr ∧ (0 < a.converterSend → ¬ AreaReadFails a (s.inbox fd))
    | .send | .recv _ _ => ¬ AreaReadFails a (s.inbox fd)
    | .close => True

def Run (cookie : Option Block) (fd : ℤ) : Library → Library → Prop :=
  Relation.ReflTransGen fun s t => ∃ c a, CallStep cookie fd c a s t

def CarefulRun (cookie : Option Block) (fd : ℤ) : Library → Library → Prop :=
  Relation.ReflTransGen fun s t => ∃ c a, KeepsReply cookie fd c a s ∧ CallStep cookie fd c a s t

structure Untouched (fd : ℤ) (stream : Bytes) (s : Library) : Prop where
  copies : s.htable.copies fd = 1
  inbox : s.inbox fd = stream
  recv : ∀ unread delivered peek, .recv fd unread delivered peek ∉ s.log
  send : ∀ unread, .send fd unread ∉ s.log

section Invariant

variable {cookie : Option Block} {a : Answers} {fuel : ℕ} {fd : ℤ} {addr : Sockaddr} {c : Call}
  {s t : Library} {result : ℤ} {r d : Bytes}

structure Waiting (fd : ℤ) (r d : Bytes) (s : Library) : Prop where
  copies : s.htable.copies fd = 1
  inbox : s.inbox fd = r ++ d
  received : received fd s.log = []

structure Passed (fd : ℤ) (d : Bytes) (s : Library) : Prop where
  copies : s.htable.copies fd = 0
  inbox : received fd s.log ++ s.inbox fd = d

def Event.own : Event → Prop
  | .recv _ _ _ _ | .send _ _ => False
  | _ => True

lemma received_record {e : Event} (he : e.own) : received fd (s.record e).log = received fd s.log := by
  cases e with
  | recv _ _ _ _ | send _ _ => exact he.elim
  | redirected _ _ | connect _ | noLinger _ | close _ => simp [received, Library.record]

lemma Faithful.record {e : Event} (h : Faithful fd d s.log) (he : e.own) :
    Faithful fd d (s.record e).log where
  received := by
    rw [received_record he]
    exact h.received
  recv unread delivered peek hmem := by
    rcases List.mem_append.mp hmem with hmem | hmem
    · exact h.recv unread delivered peek hmem
    · obtain rfl := List.mem_singleton.mp hmem
      exact he.elim
  send unread hmem := by
    rcases List.mem_append.mp hmem with hmem | hmem
    · exact h.send unread hmem
    · obtain rfl := List.mem_singleton.mp hmem
      exact he.elim

lemma Waiting.record {e : Event} (h : Waiting fd r d s) (he : e.own) :
    Waiting fd r d (s.record e) :=
  ⟨h.copies, h.inbox, (received_record he).trans h.received⟩

lemma Passed.record {e : Event} (h : Passed fd d s) (he : e.own) : Passed fd d (s.record e) :=
  ⟨h.copies, by rw [received_record he]; exact h.inbox⟩

lemma ValidReply.header {hdr : Bytes} {length : ℕ} (hr : ValidReply r) (hwaits : a.Waits)
    (hhdr : a.header.octets (r ++ d) sizeofConvertHeader = some hdr)
    (hparse : convertParseHeader hdr = some length) :
    a.header = .all ∧ hdr = (r ++ d).take sizeofConvertHeader ∧ hdr.length + length = r.length := by
  obtain ⟨hdr', area, rfl, hvalid, -⟩ := hr
  have hlen := parseHeader_length hvalid
  rcases hwaits.1 with hfail | hall
  · rw [hfail] at hhdr
    cases hhdr
  · rw [hall, Recv.octets, List.append_assoc, List.take_left' hlen] at hhdr
    obtain rfl := Option.some.inj hhdr
    obtain rfl := Option.some.inj (hvalid.symm.trans hparse)
    refine ⟨hall, ?_, List.length_append.symm⟩
    rw [List.append_assoc, List.take_left' hlen]

lemma ReplyRead.whole {hdr area : Bytes} (h : ReplyRead a (r ++ d) hdr area) (hr : ValidReply r)
    (hwaits : a.Waits) : hdr.length + area.length = r.length :=
  (hr.header hwaits h.header h.valid).2.2

lemma Refused.whole {n : ℕ} (h : Refused a (r ++ d) n) (hr : ValidReply r) (hwaits : a.Waits)
    (hkeep : ¬ AreaReadFails a (r ++ d)) : n = r.length := by
  cases h with
  | badHeader hdr hhdr hparse =>
    obtain ⟨hdr', area, rfl, hvalid, -⟩ := hr
    rcases hwaits.1 with hfail | hall
    · rw [hfail] at hhdr
      cases hhdr
    · rw [hall, Recv.octets, List.append_assoc, List.take_left' (parseHeader_length hvalid)] at hhdr
      obtain rfl := Option.some.inj hhdr
      rw [hparse] at hvalid
      cases hvalid
  | noArea hdr length hhdr hparse hpos hnone =>
    obtain ⟨hall, rfl, -⟩ := hr.header hwaits hhdr hparse
    exact (hkeep ⟨hall, octets_eq_none_iff.mp hnone, length, hpos, hparse⟩).elim
  | badArea hdr length buffer hhdr hparse hpos harea hbad =>
    obtain ⟨-, -, hlen⟩ := hr.header hwaits hhdr hparse
    rcases hwaits.2 with hfail | hall
    · rw [hfail] at harea
      cases harea
    · rw [hall] at harea
      obtain rfl := Option.some.inj harea
      rw [← hlen, List.length_take, List.length_drop, List.length_append]
      omega

lemma Waiting.consumed (h : Waiting fd r d s) :
    Passed fd d ((s.consume fd r.length).freeState fd) where
  copies := by
    rw [show ((s.consume fd r.length).freeState fd).htable = s.htable.freeState fd from rfl,
      copies_freeState, h.copies]
  inbox := by
    rw [show ((s.consume fd r.length).freeState fd).inbox fd = (s.consume fd r.length).inbox fd from rfl,
      show ((s.consume fd r.length).freeState fd).log = s.log from rfl, consume_inbox, h.inbox,
      h.received, List.drop_left, List.nil_append]

lemma Waiting.readConvert (hw : Waiting fd r d s) (hf : Faithful fd d s.log) (hr : ValidReply r)
    (hwaits : a.Waits) (hkeep : ¬ AreaReadFails a (s.inbox fd))
    (h : readConvert a fuel false fd s = some (.returns result t)) :
    Faithful fd d t.log ∧ ((result = syscallSkip ∧ Waiting fd r d t) ∨ Passed fd d t) := by
  rw [hw.inbox] at hkeep
  have hcases := readConvert_cases h
  rw [hw.inbox] at hcases
  rcases hcases with ⟨-, hres, rfl⟩ | ⟨hdr, area, hreply, -, rfl⟩ | ⟨n, hrefused, hres, rfl⟩
  · exact ⟨hf, Or.inl ⟨hres, hw⟩⟩
  · rw [hreply.whole hr hwaits]
    exact ⟨hf, Or.inr hw.consumed⟩
  · rw [hrefused.whole hr hwaits hkeep]
    have hf' : Faithful fd d (s.consume fd r.length).log := hf
    exact ⟨hf'.record (e := .noLinger fd) trivial, Or.inr (hw.consumed.record trivial)⟩

lemma Waiting.tracked (h : Waiting fd r d s) : s.htable.lookup fd = some true :=
  lookup_eq_true_iff.mpr (by rw [h.copies]; exact Nat.one_pos)

lemma Passed.untracked (h : Passed fd d s) : s.htable.lookup fd ≠ some true := by
  intro htrack
  have := lookup_eq_true_iff.mp htrack
  rw [h.copies] at this
  exact Nat.lt_irrefl 0 this

lemma received_recv (fd : ℤ) (s : Library) (unread delivered : Bytes) (peek : Bool) :
    received fd (s.record (.recv fd unread delivered peek)).log =
      received fd s.log ++ if peek then [] else delivered := by
  cases peek <;> simp [received, Library.record]

lemma Faithful.recorded_recv {delivered : Bytes} {peek : Bool} (hf : Faithful fd d s.log)
    (hp : Passed fd d s) (hbegins : delivered <+: s.inbox fd) :
    Faithful fd d (s.record (.recv fd (s.inbox fd) delivered peek)).log where
  received := by
    rw [received_recv]
    obtain ⟨rest, hrest⟩ := hbegins
    cases peek with
    | true => simpa using hf.received
    | false => exact ⟨rest, by rw [if_neg (by decide), List.append_assoc, hrest, hp.inbox]⟩
  recv unread delivered' peek' hmem := by
    rcases List.mem_append.mp hmem with hmem | hmem
    · exact hf.recv unread delivered' peek' hmem
    · obtain ⟨-, rfl, rfl, -⟩ := Event.recv.inj (List.mem_singleton.mp hmem)
      exact ⟨⟨Client.received fd s.log, hp.inbox⟩, hbegins⟩
  send unread hmem := by
    rcases List.mem_append.mp hmem with hmem | hmem
    · exact hf.send unread hmem
    · cases List.mem_singleton.mp hmem

lemma Passed.originalRecv {len : ℕ} {peek : Bool} (hp : Passed fd d s) (hf : Faithful fd d s.log)
    (h : originalRecv a fd len peek s = .returns result t) :
    Faithful fd d t.log ∧ Passed fd d t := by
  unfold Client.originalRecv at h
  cases hoctets : a.recv.octets (s.inbox fd) len with
  | none =>
    rw [hoctets] at h
    cases h
    refine ⟨hf.recorded_recv hp List.nil_prefix, hp.copies, ?_⟩
    rw [received_recv, ite_self, List.append_nil]
    exact hp.inbox
  | some delivered =>
    rw [hoctets] at h
    have hbegins : delivered <+: s.inbox fd := by
      cases hrecv : a.recv with
      | fails =>
        rw [hrecv] at hoctets
        cases hoctets
      | upTo k | all =>
        rw [hrecv] at hoctets
        obtain rfl := Option.some.inj hoctets
        exact List.take_prefix _ _
    have hf' : Faithful fd d (s.record (.recv fd (s.inbox fd) delivered peek)).log :=
      hf.recorded_recv hp hbegins
    obtain ⟨rest, hrest⟩ := hbegins
    cases peek with
    | true =>
      cases h
      refine ⟨hf', hp.copies, ?_⟩
      rw [if_pos rfl, received_recv, if_pos rfl, List.append_nil]
      exact hp.inbox
    | false =>
      cases h
      refine ⟨hf', hp.copies, ?_⟩
      rw [if_neg (by decide), consume_inbox]
      show received fd (s.record _).log ++ (s.inbox fd).drop delivered.length = d
      rw [received_recv, if_neg (by decide), ← hrest, List.drop_left, List.append_assoc, hrest]
      exact hp.inbox

lemma Passed.originalSend (hp : Passed fd d s) (hf : Faithful fd d s.log)
    (h : originalSend a fd s = .returns result t) : Faithful fd d t.log ∧ Passed fd d t := by
  cases h
  have hreceived : Client.received fd (s.record (.send fd (s.inbox fd))).log =
      Client.received fd s.log := by
    simp [Client.received, Library.record]
  refine ⟨⟨by rw [hreceived]; exact hf.received, ?_, ?_⟩, hp.copies, ?_⟩
  · intro unread delivered peek hmem
    rcases List.mem_append.mp hmem with hmem | hmem
    · exact hf.recv unread delivered peek hmem
    · cases List.mem_singleton.mp hmem
  · intro unread hmem
    rcases List.mem_append.mp hmem with hmem | hmem
    · exact hf.send unread hmem
    · obtain ⟨-, rfl⟩ := Event.send.inj (List.mem_singleton.mp hmem)
      exact ⟨Client.received fd s.log, hp.inbox⟩
  · rw [hreceived]
    exact hp.inbox

def Placed (fd : ℤ) (r d : Bytes) (s : Library) : Prop :=
  Faithful fd d s.log ∧ (Waiting fd r d s ∨ Passed fd d s)

lemma afterReply_placed {original : Library → Outcome ℤ} (hr : ValidReply r) (hwaits : a.Waits)
    (horiginal : ∀ s t result, Passed fd d s → Faithful fd d s.log →
      original s = .returns result t → Faithful fd d t.log ∧ Passed fd d t)
    (hp : Placed fd r d s)
    (hkeep : s.htable.lookup fd = some true → ¬ AreaReadFails a (s.inbox fd))
    (h : afterReply a fuel fd original s = some (.returns result t)) : Placed fd r d t := by
  obtain ⟨hf, hw | hpassed⟩ := hp
  · simp only [afterReply, hw.tracked] at h
    cases hread : Client.readConvert a fuel false fd s with
    | none =>
      rw [hread] at h
      cases h
    | some o =>
      rw [hread] at h
      cases o with
      | undefined => cases h
      | returns code u =>
        obtain ⟨hf', hu⟩ := hw.readConvert hf hr hwaits (hkeep hw.tracked) hread
        dsimp only at h
        by_cases hrun : code = syscallRun
        · rw [if_pos hrun] at h
          rcases hu with ⟨hskip, -⟩ | hu
          · rw [hrun] at hskip
            cases hskip
          · obtain ⟨hf'', hu'⟩ := horiginal u t result hu hf' (Option.some.inj h)
            exact ⟨hf'', Or.inr hu'⟩
        · have hu' : Placed fd r d u := ⟨hf', hu.imp And.right id⟩
          rw [if_neg hrun] at h
          split_ifs at h <;> cases h <;> exact hu'
  · cases hlookup : s.htable.lookup fd with
    | none =>
      simp only [afterReply, hlookup] at h
      cases h
    | some found =>
      cases found with
      | true => exact (hpassed.untracked hlookup).elim
      | false =>
        simp only [afterReply, hlookup] at h
        obtain ⟨hf', hp'⟩ := horiginal s t result hpassed hf (Option.some.inj h)
        exact ⟨hf', Or.inr hp'⟩

lemma redirect_of_not_fails (h : ¬ RedirectFails cookie a addr) :
    ∃ message, redirect cookie a fd addr s =
      some (a.converterSend, s.record (.redirected fd message)) ∧ 0 ≤ a.converterSend := by
  simp only [RedirectFails, not_or, not_forall, not_lt] at h
  obtain ⟨⟨remoteAddr, haddr, hneed⟩, hconnect, hsend⟩ := h
  exact ⟨_, redirect_sends haddr hneed hconnect, hsend⟩

lemma connect_placed (hr : ValidReply r) (hwaits : a.Waits) (hp : Placed fd r d s)
    (hkeep : KeepsReply cookie fd (.connect addr) a s)
    (h : connect cookie a fuel fd addr s = some (.returns result t)) : Placed fd r d t := by
  obtain ⟨hf, hw | hpassed⟩ := hp
  · obtain ⟨hredirect, harea⟩ := hkeep hw.tracked
    obtain ⟨message, hsent, hnonneg⟩ : ∃ message, redirect cookie a fd addr s =
      some (a.converterSend, s.record (.redirected fd message)) ∧ 0 ≤ a.converterSend :=
      redirect_of_not_fails hredirect
    have hf' : Faithful fd d (s.record (.redirected fd message)).log := hf.record trivial
    have hw' : Waiting fd r d (s.record (.redirected fd message)) := hw.record trivial
    by_cases hpos : 0 < a.converterSend
    · rw [connect_redirected hw.tracked ⟨_, hsent, hpos⟩] at h
      obtain ⟨hft, ht⟩ := hw'.readConvert hf' hr hwaits (harea hpos) h
      exact ⟨hft, ht.imp And.right id⟩
    · cases addr with
      | inet _ _ | inet6 _ =>
        simp only [connect, hw.tracked, hsent, if_pos hnonneg, if_neg hpos] at h
        cases h
        exact ⟨hf', Or.inl hw'⟩
      | other family => exact (hredirect (Or.inl fun _ haddr => by cases haddr)).elim
  · cases hlookup : s.htable.lookup fd with
    | none =>
      simp only [connect, hlookup] at h
      cases h
    | some found =>
      cases found with
      | true => exact (hpassed.untracked hlookup).elim
      | false =>
        simp only [connect, hlookup] at h
        cases h
        exact ⟨hf.record trivial, Or.inr (hpassed.record trivial)⟩

def Sound (fd : ℤ) (r d : Bytes) (s : Library) : Prop :=
  Faithful fd d s.log ∧ (s.isOpen fd = true → Placed fd r d s)

lemma callStep_sound (hr : ValidReply r) (hs : Sound fd r d s) (hkeep : KeepsReply cookie fd c a s)
    (h : CallStep cookie fd c a s t) : Sound fd r d t := by
  obtain ⟨hopen, hwaits, fuel, result, h⟩ := h
  have hp := hs.2 hopen
  cases c with
  | connect addr =>
    have ht := connect_placed hr hwaits hp hkeep h
    exact ⟨ht.1, fun _ => ht⟩
  | send =>
    have ht := afterReply_placed hr hwaits (fun _ _ _ hp hf => hp.originalSend hf) hp hkeep h
    exact ⟨ht.1, fun _ => ht⟩
  | recv len peek =>
    have ht := afterReply_placed hr hwaits (fun _ _ _ hp hf => hp.originalRecv hf) hp hkeep h
    exact ⟨ht.1, fun _ => ht⟩
  | close =>
    simp only [perform, close] at h
    cases hfree : s.free fd with
    | none =>
      rw [hfree] at h
      cases h
    | some u =>
      rw [hfree] at h
      cases h
      have hf : Faithful fd d (u.shut fd).log := by
        have hlog : (u.shut fd).log = s.log := (free_log hfree : u.log = s.log)
        rw [hlog]
        exact hp.1
      refine ⟨hf.record trivial, fun hstill => ?_⟩
      simp [Library.record, Library.shut] at hstill

lemma Untouched.sound (h : Untouched fd (r ++ d) s) : Sound fd r d s := by
  have hnone : received fd s.log = [] := by
    refine List.flatMap_eq_nil_iff.mpr fun e he => ?_
    cases e with
    | recv socket unread delivered peek =>
      cases peek with
      | true => rfl
      | false =>
        dsimp only
        split_ifs with hfd
        · exact (h.recv unread delivered false (hfd ▸ he)).elim
        · rfl
    | redirected _ _ | connect _ | noLinger _ | close _ | send _ _ => rfl
  have hf : Faithful fd d s.log :=
    ⟨by rw [hnone]; exact List.nil_prefix, fun _ _ _ hmem => (h.recv _ _ _ hmem).elim,
      fun _ hmem => (h.send _ hmem).elim⟩
  exact ⟨hf, fun _ => ⟨hf, Or.inl ⟨h.copies, h.inbox, hnone⟩⟩⟩

end Invariant

theorem careful_faithful (cookie : Option Block) (fd : ℤ) (r d : Bytes) (hr : ValidReply r)
    (s t : Library) (hs : Untouched fd (r ++ d) s) (hrun : CarefulRun cookie fd s t) :
    Faithful fd d t.log := by
  have hsound : Sound fd r d t := by
    induction hrun with
    | refl => exact hs.sound
    | tail _ hstep ih =>
      obtain ⟨c, a, hkeep, hcall⟩ := hstep
      exact callStep_sound hr ih hkeep hcall
  exact hsound.1

def emptyCookieReply : Bytes := [1, 2, 0x22, 0x63, 0x16, 1, 0, 0]

lemma emptyCookieReply_header : convertParseHeader [1, 2, 0x22, 0x63] = some 4 :=
  parseHeader_message (n := 8) rfl (by decide) (by decide) []

lemma emptyCookieReply_area : ∃ opts,
    ParseReturns grantingMalloc (.ofBytes [0x16, 1, 0, 0]) (.opts opts) ∧
      opts.flags &&& convertFError = 0 := by
  have harea : (Block.ofBytes [0x16, 1, 0, 0]).bytes = [Tlv.cookie []].flatMap encodeTlv :=
    Block.ofBytes_bytes (by decide)
  refine ⟨([Tlv.cookie []].map Tlv.readBack).foldl ConvertOpts.assign .zero, ?_, ?_⟩
  · apply parseReturns_of_area grantingMalloc_grants (by rw [harea]; decide)
    rw [harea]
    exact tlvArea_encode (by decide)
  · simp only [List.map_cons, List.map_nil, List.foldl_cons, List.foldl_nil, assign_flags]
    decide

lemma emptyCookieReply_valid : ValidReply emptyCookieReply :=
  ⟨[1, 2, 0x22, 0x63], [0x16, 1, 0, 0], rfl, emptyCookieReply_header, by decide,
    Or.inr ⟨grantingMalloc, emptyCookieReply_area⟩⟩

lemma managed_untouched (stream : Bytes) : Untouched 3 stream (managed stream) :=
  ⟨rfl, rfl, by simp [managed, socket, Library.start, Library.alloc, Library.opened],
    by simp [managed, socket, Library.start, Library.alloc, Library.opened]⟩

lemma managed_redirect (a : Answers) (stream : Bytes) (hconnect : 0 ≤ a.converterConnect) :
    ∃ message, redirect none a 3 someServer (managed stream) =
      some (a.converterSend, (managed stream).record (.redirected 3 message)) := by
  obtain ⟨remoteAddr, haddr⟩ : ∃ r, someServer.remoteAddr = some r := ⟨_, rfl⟩
  have hneed : (redirectOpts none remoteAddr).need ≤ 1024 := by
    rw [redirectOpts_need]
    exact (by decide : 24 + areaSize (cookieTlv none) ≤ 1024)
  exact ⟨_, redirect_sends haddr hneed hconnect⟩

theorem careful_faithful_emptyCookie :
    ∃ t, CarefulRun none 3 (managed (emptyCookieReply ++ [9])) t ∧ received 3 t.log = [9] ∧
      Faithful 3 [9] t.log := by
  obtain ⟨message, hsent⟩ := managed_redirect willing (emptyCookieReply ++ [9]) (le_refl 0)
  let sent := (managed (emptyCookieReply ++ [9])).record (.redirected 3 message)
  let accepted := (sent.consume 3 8).freeState 3
  let got := (accepted.record (.recv 3 [9] [9] false)).consume 3 1
  have hwaits : willing.Waits := ⟨Or.inr rfl, Or.inr rfl⟩
  have hkeep : KeepsReply none 3 (.connect someServer) willing (managed (emptyCookieReply ++ [9])) := by
    intro _
    refine ⟨?_, fun _ hfails => by cases hfails.2.1⟩
    rintro (hneed | hconnect | hsend)
    · have := hneed _ rfl
      rw [redirectOpts_need] at this
      exact absurd this (by decide)
    · exact absurd hconnect (by decide)
    · exact absurd hsend (by decide)
  have hreply : ReplyRead willing (sent.inbox 3) [1, 2, 0x22, 0x63] [0x16, 1, 0, 0] :=
    ⟨rfl, emptyCookieReply_header, by decide, Or.inr ⟨rfl, emptyCookieReply_area⟩⟩
  obtain ⟨fuel, hread⟩ := readConvert_reply hreply
  have hconnect : perform none willing fuel 3 (.connect someServer)
      (managed (emptyCookieReply ++ [9])) = some (.returns 1 accepted) := by
    rw [perform, connect_redirected (managed_tracked _) ⟨_, hsent, (by decide : (0 : ℤ) < 24)⟩]
    exact hread
  have hrecv : perform none willing 0 3 (.recv 1 false) accepted = some (.returns 1 got) := rfl
  have hlog : got.log = [.redirected 3 message, .recv 3 [9] [9] false] := rfl
  have hrun : CarefulRun none 3 (managed (emptyCookieReply ++ [9])) got := by
    refine (Relation.ReflTransGen.single ⟨_, _, hkeep, rfl, hwaits, fuel, 1, hconnect⟩).tail
      ⟨_, _, ?_, rfl, hwaits, 0, 1, hrecv⟩
    intro htrack
    cases htrack
  refine ⟨got, hrun, by rw [hlog]; rfl, ?_⟩
  exact careful_faithful none 3 emptyCookieReply [9] emptyCookieReply_valid _ got
    (managed_untouched _) hrun

def areaFails : Answers := { willing with area := .fails }

/-- The header of the reply is gone, and its area goes to the application. -/
theorem areaFails_not_faithful :
    ValidReply emptyCookieReply ∧
    Untouched 3 (emptyCookieReply ++ [9]) (managed (emptyCookieReply ++ [9])) ∧
    ∃ t, Run none 3 (managed (emptyCookieReply ++ [9])) t ∧
      (∃ message, .redirected 3 message ∈ t.log) ∧ ¬ Faithful 3 [9] t.log ∧
      received 3 t.log = [0x16, 1, 0, 0, 9] := by
  obtain ⟨message, hsent⟩ := managed_redirect areaFails (emptyCookieReply ++ [9]) (le_refl 0)
  let sent := (managed (emptyCookieReply ++ [9])).record (.redirected 3 message)
  let refused := ((sent.consume 3 4).record (.noLinger 3)).freeState 3
  let octets : Bytes := [0x16, 1, 0, 0, 9]
  let got := (refused.record (.recv 3 octets octets false)).consume 3 5
  have hwaits : areaFails.Waits := ⟨Or.inr rfl, Or.inl rfl⟩
  have hconnect : perform none areaFails 0 3 (.connect someServer)
      (managed (emptyCookieReply ++ [9])) = some (.returns 0 refused) := by
    have hhdr : areaFails.header.octets (sent.inbox 3) sizeofConvertHeader =
      some [1, 2, 0x22, 0x63] := rfl
    rw [perform, connect_redirected (managed_tracked _) ⟨_, hsent, (by decide : (0 : ℤ) < 24)⟩,
      readConvert, hhdr]
    simp only [emptyCookieReply_header]
    simp [readArea, sizeT, readError, readSkip, areaFails, Recv.octets, syscallSkip, refused, sent]
  have hrecv : perform none areaFails 0 3 (.recv 5 false) refused = some (.returns 5 got) := rfl
  have hlog : got.log = [.redirected 3 message, .noLinger 3, .recv 3 octets octets false] := rfl
  refine ⟨emptyCookieReply_valid, managed_untouched _, got, ?_, ⟨message, ?_⟩, ?_, ?_⟩
  · exact (Relation.ReflTransGen.single ⟨_, _, rfl, hwaits, 0, 0, hconnect⟩).tail
      ⟨_, _, rfl, hwaits, 0, 5, hrecv⟩
  · rw [hlog]
    simp
  · intro hfaithful
    have := (hfaithful.recv octets octets false (by rw [hlog]; simp)).1.length_le
    simp [octets] at this
  · rw [hlog]
    rfl

end TransportConverter.Client
