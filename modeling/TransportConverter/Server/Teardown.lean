import TransportConverter.Server.Batch

/-! `read_and_forward` on one end of a registered pair, whatever the two sockets answer. -/

namespace TransportConverter.Server

open Foundations.Memory Foundations.Effects

/-- `x` is open and mapped to `y`; the tables know both, but `y` may be closed by now. -/
structure RegisteredPair (s : TcServer) (x y : ℕ) : Prop where
  ne : y ≠ x
  listed : s.inputs.count x = 1
  partner_listed : s.inputs.count y = 1
  isOpen : s.fileno x ≠ -1
  mapped : s.forwardMap (s.fileno x) = some y
  back : s.fileno y ≠ -1 → s.forwardMap (s.fileno y) = some x ∧ s.fileno y ≠ s.fileno x
  unmapped : s.forwardMap (-1) = none

structure BothLive (t : TcServer) (x y : ℕ) : Prop where
  listed : x ∈ t.inputs ∧ y ∈ t.inputs
  isOpen : t.fileno x ≠ -1 ∧ t.fileno y ≠ -1
  partners : Partners t x y

structure BothGone (s t : TcServer) (x y : ℕ) : Prop where
  unlisted : x ∉ t.inputs ∧ y ∉ t.inputs
  unmapped : t.forwardMap (s.fileno x) = none ∧ t.forwardMap (s.fileno y) = none
  isClosed : t.fileno x = -1 ∧ t.fileno y = -1

def AllOrNothing (s : TcServer) (x y : ℕ) (recv : RecvAnswer) (send : SendAnswer) : Prop :=
  ∃ t, readAndForward x recv send s = .ok () t ∧ (BothLive t x y ∨ BothGone s t x y)

variable {s t : TcServer} {x y : ℕ} {recv : RecvAnswer} {send : SendAnswer}

lemma RegisteredPair.cleanable (h : RegisteredPair s x y) (hy : s.fileno y ≠ -1)
    (hlogger : LoggerStops s x y) : Cleanable s x y where
  cfd_input := List.count_pos_iff.mp (by rw [h.listed]; exact Nat.one_pos)
  cfd_mapped := by simp [h.mapped]
  sfd_mapped := by simp [(h.back hy).1]
  distinct := (h.back hy).2
  sfd_input := (List.mem_erase_of_ne h.ne).mpr
    (List.count_pos_iff.mp (by rw [h.partner_listed]; exact Nat.one_pos))
  logger := hlogger

lemma RegisteredPair.live (h : RegisteredPair s x y) (hy : s.fileno y ≠ -1) : BothLive s x y where
  listed := ⟨List.count_pos_iff.mp (by rw [h.listed]; exact Nat.one_pos),
    List.count_pos_iff.mp (by rw [h.partner_listed]; exact Nat.one_pos)⟩
  isOpen := ⟨h.isOpen, hy⟩
  partners := ⟨h.mapped, (h.back hy).1⟩

lemma RegisteredPair.gone (h : RegisteredPair s x y) : BothGone s (s.cleaned x y) x y where
  unlisted := by
    have hcount : (s.inputs.erase x).count y = 1 := by
      rw [List.count_erase_of_ne h.ne, h.partner_listed]
    rw [cleaned_inputs]
    refine ⟨fun hx => ?_, fun hy => ?_⟩
    · exact ne_of_mem_erase_once h.listed (List.mem_of_mem_erase hx) rfl
    · exact ne_of_mem_erase_once hcount hy rfl
  unmapped := by
    refine ⟨?_, Function.update_self ..⟩
    rcases eq_or_ne (s.fileno x) (s.fileno y) with heq | hne
    · simp [TcServer.cleaned, heq]
    · simp [TcServer.cleaned, Function.update_of_ne hne]
  isClosed := ⟨cleaned_fileno_left, cleaned_fileno_right⟩

lemma Relayed.allOrNothing (h : RegisteredPair s x y) (hy : s.fileno y ≠ -1)
    (hrelayed : Relayed s x y recv send t) : BothLive t x y ∨ BothGone s t x y := by
  cases hrelayed with
  | forwarded data n _ _ _ =>
    obtain ⟨hlisted, hopen, hpartners⟩ := h.live hy
    exact Or.inl ⟨hlisted, hopen, hpartners⟩
  | cleaned _ _ => exact Or.inr h.gone

lemma relayed_iff (h : RegisteredPair s x y) (hy : s.fileno y ≠ -1) :
    (∃ t, Relayed s x y recv send t) ↔
      (∀ data, data ≠ [] → recv = .octets data → send ≠ .raises) ∧
        (recv = .raises ∨ recv = .octets [] → LoggerStops s x y) := by
  constructor
  · rintro ⟨t, hrelayed⟩
    cases hrelayed with
    | forwarded data n hdata hrecv hsend =>
      refine ⟨fun _ _ _ => by simp [hsend], ?_⟩
      rintro (hend | hend) <;> rw [hrecv] at hend
      · cases hend
      · exact (hdata (RecvAnswer.octets.inj hend)).elim
    | cleaned hend hclean =>
      refine ⟨fun data hdata hrecv => ?_, fun _ => hclean.logger⟩
      rcases hend with hend | hend <;> rw [hrecv] at hend
      · cases hend
      · exact (hdata (RecvAnswer.octets.inj hend)).elim
  · rintro ⟨hsend, hlogger⟩
    have hend : recv = .raises ∨ recv = .octets [] →
        ∃ t, Relayed s x y recv send t :=
      fun hend => ⟨_, .cleaned hend (h.cleanable hy (hlogger hend))⟩
    cases hrecv : recv with
    | raises => exact hrecv ▸ hend (Or.inl hrecv)
    | octets data =>
      by_cases hdata : data = []
      · subst hdata
        exact hrecv ▸ hend (Or.inr hrecv)
      · cases hanswer : send with
        | raises => exact (hsend data hdata hrecv hanswer).elim
        | accepts n => exact ⟨_, .forwarded data n hdata rfl rfl⟩

theorem readAndForward_allOrNothing_iff (s : TcServer) (x y : ℕ) (recv : RecvAnswer) (send : SendAnswer)
    (h : RegisteredPair s x y) :
    AllOrNothing s x y recv send ↔ s.fileno y ≠ -1 ∧
      (∀ data, data ≠ [] → recv = .octets data → send ≠ .raises) ∧
        (recv = .raises ∨ recv = .octets [] → LoggerStops s x y) := by
  constructor
  · rintro ⟨t, hok, -⟩
    obtain ⟨partner, hmap, -, hopen, hrelayed⟩ := readAndForward_eq_ok.mp hok
    obtain rfl : partner = y := Option.some.inj (hmap.symm.trans h.mapped)
    exact ⟨hopen, (relayed_iff h hopen).mp ⟨t, hrelayed⟩⟩
  · rintro ⟨hopen, hcond⟩
    obtain ⟨t, hrelayed⟩ := (relayed_iff h hopen).mpr hcond
    exact ⟨t, readAndForward_eq_ok.mpr ⟨y, h.mapped, h.isOpen, hopen, hrelayed⟩,
      hrelayed.allOrNothing h hopen⟩

lemma onePair_registered : RegisteredPair onePair 1 2 :=
  ⟨by decide, by decide, by decide, by decide, rfl, fun _ => ⟨rfl, by decide⟩, rfl⟩

theorem readAndForward_allOrNothing_end : AllOrNothing onePair 1 2 (.octets []) .raises := by
  refine (readAndForward_allOrNothing_iff onePair 1 2 (.octets []) .raises onePair_registered).mpr
    ⟨by decide, fun data hdata hrecv => ?_, fun _ logger _ => by simp [onePair]⟩
  exact (hdata (RecvAnswer.octets.inj hrecv).symm).elim

/-- The partner is closed already: `del self.forward_map[-1]` raises with two deletions done. -/
theorem closedPartner_half_removed :
    RegisteredPair (onePair.closed 2) 1 2 ∧
    (∃ t, readAndForward 1 (.octets [7]) (.accepts 1) (onePair.closed 2) = .error .keyError t ∧
      t.inputs = [listener, 2] ∧ t.forwardMap 4 = none ∧ t.forwardMap 5 = some 1 ∧ t.fileno 1 = 4) ∧
    ¬ AllOrNothing (onePair.closed 2) 1 2 (.octets [7]) (.accepts 1) := by
  have hraises : ∃ t, readAndForward 1 (.octets [7]) (.accepts 1) (onePair.closed 2) =
      .error .keyError t ∧ t.inputs = [listener, 2] ∧ t.forwardMap 4 = none ∧
        t.forwardMap 5 = some 1 ∧ t.fileno 1 = 4 := ⟨_, rfl, rfl, rfl, rfl, rfl⟩
  refine ⟨⟨by decide, by decide, by decide, by decide, rfl, fun h => (h rfl).elim, rfl⟩, hraises, ?_⟩
  rintro ⟨t, hok, -⟩
  obtain ⟨u, herror, -⟩ := hraises
  rw [herror] at hok
  cases hok

end TransportConverter.Server
