import TransportConverter.Client.Intercept

/-! What an application can learn from the result of the intercepted `connect`. -/

namespace TransportConverter.Client

open Foundations.Memory Wire Codec

variable {cookie : Option Block} {a : Answers} {fuel : ℕ} {fd : ℤ} {addr : Sockaddr}
  {s sent t : Library} {result : ℤ} {stream : Bytes}

def GoodReply (a : Answers) (stream : Bytes) : Prop := ∃ hdr area, ReplyRead a stream hdr area

lemma readConvert_result (h : readConvert a fuel false fd s = some (.returns result t)) :
    (GoodReply a (s.inbox fd) ∧ result = syscallRun) ∨
      (¬ GoodReply a (s.inbox fd) ∧ result = syscallSkip) := by
  rcases readConvert_cases h with ⟨hfail, hres, -⟩ | ⟨hdr, area, hreply, hres, -⟩ | ⟨n, hbad, hres, -⟩
  · refine Or.inr ⟨?_, hres⟩
    rintro ⟨hdr, area, hreply⟩
    have := hreply.header
    rw [octets_eq_none_iff.mpr hfail] at this
    cases this
  · exact Or.inl ⟨⟨hdr, area, hreply⟩, hres⟩
  · exact Or.inr ⟨fun ⟨hdr, area, hreply⟩ => hbad.not_replyRead hdr area hreply, hres⟩

/-- The call returns, and `0` from it means a redirection that was accepted. -/
def TellsTruth (call : ℕ → Option (Outcome ℤ)) (accepted : Prop) : Prop :=
  ∃ fuel result t, call fuel = some (.returns result t) ∧ (result = 0 ↔ accepted) ∧
    (¬ accepted → result < 0)

lemma readConvert_not_tellsTruth :
    ¬ TellsTruth (fun fuel => readConvert a fuel false fd s) (GoodReply a (s.inbox fd)) := by
  rintro ⟨fuel, result, t, hcall, hzero, hneg⟩
  rcases readConvert_result hcall with ⟨hgood, rfl⟩ | ⟨hbad, rfl⟩
  · cases hzero.mpr hgood
  · exact hbad (hzero.mp rfl)

lemma Redirects.inbox (h : Redirects cookie a fd addr s sent) : sent.inbox = s.inbox := by
  obtain ⟨result, h, -⟩ := h
  rcases redirect_state h with rfl | ⟨message, rfl⟩ <;> rfl

theorem connect_not_tellsTruth (cookie : Option Block) (a : Answers) (fd : ℤ) (addr : Sockaddr)
    (s sent : Library) (htrack : s.htable.lookup fd = some true)
    (hsent : Redirects cookie a fd addr s sent) :
    ¬ TellsTruth (fun fuel => connect cookie a fuel fd addr s) (GoodReply a (s.inbox fd)) := by
  have hcall : ∀ fuel, connect cookie a fuel fd addr s = readConvert a fuel false fd sent :=
    fun fuel => connect_redirected htrack hsent
  simp only [hcall, ← hsent.inbox]
  exact readConvert_not_tellsTruth

def Library.start : Library := ⟨fun _ => [], fun _ => [], fun _ => false, [], []⟩

def managed (stream : Bytes) : Library :=
  (socket afInet sockStream ipprotoMptcp 3 true stream .start).2

def willing : Answers :=
  { malloc := grantingMalloc
    converterConnect := 0, converterSend := 24, header := .all, area := .all
    connect := 0, send := 1, recv := .all, close := 0 }

lemma managed_tracked (stream : Bytes) : (managed stream).htable.lookup 3 = some true := rfl

lemma managed_redirects (stream : Bytes) :
    ∃ sent, Redirects none willing 3 someServer (managed stream) sent := by
  obtain ⟨remoteAddr, haddr⟩ : ∃ r, someServer.remoteAddr = some r := ⟨_, rfl⟩
  have hneed : (redirectOpts none remoteAddr).need ≤ 1024 := by
    rw [redirectOpts_need]
    exact (by decide : 24 + areaSize (cookieTlv none) ≤ 1024)
  exact ⟨_, _, redirect_sends haddr hneed (le_refl 0), (by decide : (0 : ℤ) < 24)⟩

theorem connect_not_tellsTruth_someServer :
    ∃ sent, Redirects none willing 3 someServer (managed []) sent ∧
      ¬ TellsTruth (fun fuel => connect none willing fuel 3 someServer (managed []))
        (GoodReply willing ((managed []).inbox 3)) := by
  obtain ⟨sent, hsent⟩ := managed_redirects []
  exact ⟨sent, hsent,
    connect_not_tellsTruth none willing 3 someServer _ sent (managed_tracked []) hsent⟩

/-- The converter closes the connection without a reply, and `connect` reports success. -/
theorem connect_zero_at_eof :
    (∃ sent t, Redirects none willing 3 someServer (managed []) sent ∧
      ∀ fuel, connect none willing fuel 3 someServer (managed []) = some (.returns 0 t)) ∧
    ¬ GoodReply willing ((managed []).inbox 3) := by
  refine ⟨?_, ?_⟩
  · obtain ⟨sent, hsent⟩ := managed_redirects []
    have hempty : sent.inbox 3 = [] := by rw [hsent.inbox]; rfl
    refine ⟨sent, ((sent.consume 3 0).record (.noLinger 3)).freeState 3, hsent, fun fuel => ?_⟩
    rw [connect_redirected (managed_tracked []) hsent, readConvert, hempty]
    rfl
  · rintro ⟨hdr, area, hreply⟩
    obtain rfl : [] = hdr := Option.some.inj hreply.header
    cases hreply.valid

end TransportConverter.Client
