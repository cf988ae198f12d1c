import TransportConverter.Server.Validation

/-! `read_convert_header` on the client's stream: whether it comes to an end, what it makes of the
pieces TCP delivers, and where it stops reading. -/

namespace TransportConverter.Server

open Foundations.Memory Foundations.Loops

section Ends

variable {scapy : Scapy} {data s : Bytes} {loop : TlvLoop} {r : Option (List TlvPacket)}

/-- Cutting `s` by the length of each TLV comes to one that scapy dissects and whose length is 0. -/
inductive Stuck (scapy : Scapy) : Bytes → Prop
  | here {s : Bytes} {tlv : TlvPacket} (hne : s ≠ []) (h : scapy.tlvAt s = some tlv)
      (hzero : tlv.hdr.length = 0) : Stuck scapy s
  | behind {s : Bytes} {tlv : TlvPacket} (hne : s ≠ []) (h : scapy.tlvAt s = some tlv)
      (hrest : Stuck scapy (s.drop (tlv.hdr.length.toNat * 4))) : Stuck scapy s

lemma tlvBody_stuck (h : Stuck scapy (data.drop loop.offset)) :
    ∃ next, tlvBody scapy data loop = .again next ∧ Stuck scapy (data.drop next.offset) := by
  cases h with
  | here hne htlv hzero =>
    have hoffset : loop.offset + 0 * 4 = loop.offset := Nat.add_zero _
    refine ⟨_, tlvBody_next (by simpa using hne) htlv, ?_⟩
    rw [hzero]
    exact .here hne htlv hzero
  | behind hne htlv hrest =>
    refine ⟨_, tlvBody_next (by simpa using hne) htlv, ?_⟩
    rwa [List.drop_drop] at hrest

lemma Stuck.diverges (h : Stuck scapy data) : Diverges (tlvBody scapy data) ⟨0, []⟩ :=
  diverges_of_stays (fun loop => Stuck scapy (data.drop loop.offset)) (fun _ => tlvBody_stuck) h

lemma walk_of_not_stuck (h : ¬ Stuck scapy s) : ∃ r, Walk scapy s r := by
  induction hn : s.length using Nat.strong_induction_on generalizing s with
  | _ n ih =>
    by_cases hne : s = []
    · subst hne
      exact ⟨_, .done⟩
    cases htlv : scapy.tlvAt s with
    | none => exact ⟨none, .raises hne htlv⟩
    | some tlv =>
      have hpos : tlv.hdr.length.toNat ≠ 0 := fun h0 => h (.here hne htlv (UInt8.toNat_inj.mp h0))
      have hlen : 0 < s.length := List.length_pos_iff.mpr hne
      have hrest : ¬ Stuck scapy (s.drop (tlv.hdr.length.toNat * 4)) := fun hs => h (.behind hne htlv hs)
      obtain ⟨r, hw⟩ := ih _ (by rw [List.length_drop]; omega) hrest rfl
      exact ⟨_, .next hne htlv hw⟩

theorem tlvLoop_ends_iff (scapy : Scapy) (data : Bytes) :
    (∃ r, Returns (tlvBody scapy data) ⟨0, []⟩ r) ↔ ¬ Stuck scapy data := by
  constructor
  · rintro ⟨r, hr⟩ hstuck
    exact diverges_iff.mp hstuck.diverges r hr
  · intro h
    obtain ⟨r, hw⟩ := walk_of_not_stuck h
    exact ⟨r, returns_iff_walk.mpr hw⟩

def stuckMessage : Bytes := [1, 2, 0x22, 0x63, 0x16, 0, 0, 0]

theorem stuckMessage_never_read :
    secondRecv stuckMessage = [0x16, 0, 0, 0] ∧
    (¬ ∃ r, Returns (tlvBody strictScapy (secondRecv stuckMessage)) ⟨0, []⟩ r) ∧
    ¬ ∃ r, ReadReturns strictScapy (.whole stuckMessage) r := by
  have hsecond : secondRecv stuckMessage = [0x16, 0, 0, 0] := by decide
  have hstuck : Stuck strictScapy (secondRecv stuckMessage) := by
    rw [hsecond]
    exact .here (by simp) rfl rfl
  refine ⟨hsecond, fun ⟨r, hr⟩ => diverges_iff.mp hstuck.diverges r hr, ?_⟩
  rintro ⟨r, hr⟩
  have hlength : convertHeaderLength ≤ stuckMessage.length := by decide
  obtain ⟨header, -, hreturns⟩ := readReturns_whole strictScapy hlength
  obtain ⟨w, hw, -⟩ := (hreturns r).mp hr
  exact diverges_iff.mp hstuck.diverges w (returns_iff_walk.mpr hw)

end Ends

section Pieces

variable {scapy : Scapy} {message head : Bytes} {tail : ℕ → Bytes}
  {sock : Incoming} {r : ReadResult}

structure Complete (message : Bytes) : Prop where
  positive : 1 ≤ (message.getD 1 0).toNat
  length : message.length = 4 * (message.getD 1 0).toNat

/-- `recv` returns at most what it is asked for, and nothing only behind the last octet. -/
def Piece (unread : Bytes) (n : ℕ) (piece : Bytes) : Prop :=
  piece <+: unread ∧ piece.length ≤ n ∧ (piece = [] → n = 0 ∨ unread = [])

structure Incoming.Delivers (sock : Incoming) (message head : Bytes) (tail : ℕ → Bytes) : Prop where
  header : sock.header = some head
  rest : ∀ n, sock.rest n = some (tail n)
  headPiece : Piece message convertHeaderLength head
  tailPiece : ∀ n, Piece (message.drop head.length) n (tail n)

def SplitIndependent (scapy : Scapy) (message : Bytes) : Prop :=
  ∀ sock sock' head head' tail tail', sock.Delivers message head tail →
    sock'.Delivers message head' tail' → ∃ r, ReadReturns scapy sock r ∧ ReadReturns scapy sock' r

lemma piece_take (unread : Bytes) (n : ℕ) : Piece unread n (unread.take n) := by
  refine ⟨List.take_prefix n unread, List.length_take_le n unread, fun h => ?_⟩
  have hlen := congrArg List.length h
  simp only [List.length_take, List.length_nil] at hlen
  rcases Nat.eq_zero_or_pos n with h0 | hpos
  · exact Or.inl h0
  · exact Or.inr (List.eq_nil_of_length_eq_zero (by omega))

lemma whole_delivers (message : Bytes) (h : convertHeaderLength ≤ message.length) :
    (Incoming.whole message).Delivers message (message.take convertHeaderLength)
      fun n => (message.drop convertHeaderLength).take n where
  header := rfl
  rest _ := rfl
  headPiece := piece_take _ _
  tailPiece n := by
    rw [List.length_take, min_eq_left h]
    exact piece_take _ n

def Incoming.torn (message : Bytes) : Incoming :=
  ⟨some (message.take 1), fun n => some ((message.drop 1).take n)⟩

lemma torn_delivers (message : Bytes) (h : 1 ≤ message.length) :
    (Incoming.torn message).Delivers message (message.take 1) fun n => (message.drop 1).take n where
  header := rfl
  rest _ := rfl
  headPiece := by
    obtain ⟨hpre, hlen, hempty⟩ := piece_take message 1
    exact ⟨hpre, hlen.trans (by decide), fun hnil => Or.inr ((hempty hnil).resolve_left (by decide))⟩
  tailPiece n := by
    rw [List.length_take, min_eq_left h]
    exact piece_take _ n

lemma Incoming.Delivers.short (h : sock.Delivers message head tail)
    (hlen : head.length ≠ convertHeaderLength) : ReadReturns scapy sock r ↔ r = .nothing := by
  have hnothing : ReadReturns scapy sock .nothing :=
    readReturns_nothing h.header (convertHeader_eq_none hlen)
  exact ⟨fun hr => hr.unique hnothing, fun hr => hr ▸ hnothing⟩

lemma read_ne_nothing (header : Convert) (w : Option (List TlvPacket)) : header.read w ≠ .nothing := by
  cases w <;> simp [Convert.read]

lemma Complete.header (h : Complete message) : convertHeaderLength ≤ message.length := by
  have hpos := h.positive
  have hlen := h.length
  simp only [convertHeaderLength]
  omega

lemma torn_reads (hlen : 1 ≤ message.length) :
    ReadReturns scapy (.torn message) r ↔ r = .nothing := by
  have hcut : (message.take 1).length ≠ convertHeaderLength := by
    rw [List.length_take, min_eq_left hlen]
    decide
  exact (torn_delivers message hlen).short hcut

lemma whole_reads (hlen : convertHeaderLength ≤ message.length)
    (h : ReadReturns scapy (.whole message) r) : r ≠ .nothing := by
  obtain ⟨header, -, hreturns⟩ := readReturns_whole scapy hlen
  obtain ⟨w, -, rfl⟩ := (hreturns r).mp h
  exact read_ne_nothing header w

/-- In one piece the header is there, and torn behind its first octet it is not. -/
theorem splits_never_alike (scapy : Scapy) (message : Bytes) (hm : Complete message) :
    ¬ SplitIndependent scapy message := by
  intro h
  have hlen := hm.header
  have hpos : 1 ≤ message.length := le_trans (by decide) hlen
  obtain ⟨r, hwhole, htorn⟩ :=
    h _ _ _ _ _ _ (whole_delivers message hlen) (torn_delivers message hpos)
  exact whole_reads hlen hwhole ((torn_reads hpos).mp htorn)

lemma connectMessage_complete : Complete connectMessage := ⟨by decide, rfl⟩

theorem splits_never_alike_connectMessage : ¬ SplitIndependent strictScapy connectMessage :=
  splits_never_alike strictScapy connectMessage connectMessage_complete

/-- The same message is read and taken for no message, depending on how it arrives. -/
theorem torn_connectMessage_not_read :
    ReadReturns strictScapy (.whole connectMessage) connectConn.read ∧
    ReadReturns strictScapy (.torn connectMessage) .nothing ∧
    ¬ SplitIndependent strictScapy connectMessage := by
  have htorn : ReadReturns strictScapy (.torn connectMessage) .nothing :=
    (torn_reads (by decide)).mpr rfl
  refine ⟨connectConn_read, htorn, fun h => ?_⟩
  obtain ⟨r, hr, hr'⟩ := h _ _ _ _ _ _ (whole_delivers connectMessage (by decide))
    (torn_delivers connectMessage (by decide))
  exact whole_reads (by decide) hr ((torn_reads (by decide)).mp hr')

end Pieces

section Queue

variable (scapy : Scapy)

def readQueue (fuel : ℕ) (queue : Bytes) : Option (ReadResult × Bytes) :=
  let data := queue.take convertHeaderLength
  let queue := queue.drop convertHeaderLength
  match convertHeader data with
  | none => some (.nothing, queue)
  | some header =>
    let data := queue.take (header.totalLength.toNat * 4)
    let queue := queue.drop (header.totalLength.toNat * 4)
    match run (tlvBody scapy data) fuel ⟨0, []⟩ with
    | none => none
    | some none => some (.raised, queue)
    | some (some tlvs) => some (.header { header with tlvs }, queue)

/-- Behind `m` the queue holds `d`; the read takes `m` away and leaves `d` to whoever reads next. -/
def TakesMessage (m d : Bytes) : Prop :=
  ∃ fuel r, readQueue scapy fuel (m ++ d) = some (r, d) ∧ ReadReturns scapy (.whole m) r

variable {scapy} {m d queue rest : Bytes} {fuel : ℕ} {r : ReadResult}

lemma readQueue_result (scapy : Scapy) (fuel : ℕ) (queue : Bytes) :
    (readQueue scapy fuel queue).map Prod.fst = readConvertHeader scapy fuel (.whole queue) := by
  simp only [readQueue, readConvertHeader, Incoming.whole]
  cases convertHeader (queue.take convertHeaderLength) with
  | none => rfl
  | some header =>
    dsimp only
    cases run (tlvBody scapy _) fuel ⟨0, []⟩ with
    | none => rfl
    | some w => cases w <;> rfl

lemma readQueue_rest (hlen : convertHeaderLength ≤ queue.length)
    (h : readQueue scapy fuel queue = some (r, rest)) :
    rest = queue.drop (convertHeaderLength + (queue.getD 1 0).toNat * 4) := by
  obtain ⟨header, hheader, htotal⟩ := convertHeader_take hlen
  simp only [readQueue, hheader, htotal, List.drop_drop] at h
  cases hrun : run (tlvBody scapy _) fuel ⟨0, []⟩ with
  | none =>
    rw [hrun] at h
    cases h
  | some w =>
    rw [hrun] at h
    cases w <;> exact (congrArg Prod.snd (Option.some.inj h)).symm

lemma Complete.leaves (hm : Complete m) (h : readQueue scapy fuel (m ++ d) = some (r, rest)) :
    rest = d.drop 4 := by
  have hlen := hm.header
  have hoctet : (m ++ d).getD 1 0 = m.getD 1 0 := by
    simp only [convertHeaderLength] at hlen
    rw [List.getD_append _ _ _ _ (by omega)]
  rw [readQueue_rest (by rw [List.length_append]; omega) h, hoctet, convertHeaderLength]
  have hdrop : 4 + (m.getD 1 0).toNat * 4 = m.length + 4 := by
    rw [hm.length]
    omega
  rw [hdrop, List.drop_length_add_append]

lemma tlvAt_tiled (scapy : Scapy) {type length : UInt8} {value : Bytes}
    (hvalue : 2 + value.length = 4 * length.toNat) (hconnect : type = 0xa → length = 5) (rest : Bytes) :
    ∃ tlv, scapy.tlvAt (type :: length :: value ++ rest) = some tlv ∧ tlv.hdr.length = length := by
  obtain ⟨b₂, b₃, value, rfl⟩ : ∃ b₂ b₃ tail, value = b₂ :: b₃ :: tail := by
    rcases value with _ | ⟨b₂, _ | ⟨b₃, tail⟩⟩
    · simp only [List.length_nil] at hvalue
      omega
    · simp only [List.length_cons, List.length_nil] at hvalue
      omega
    · exact ⟨b₂, b₃, tail, rfl⟩
  have hlong : type = 0xa → 16 ≤ (value ++ rest).length := by
    intro hcon
    have h5 : length.toNat = 5 := congrArg UInt8.toNat (hconnect hcon)
    simp only [List.length_cons, h5] at hvalue
    rw [List.length_append]
    omega
  obtain ⟨tlv, htlv, hhdr⟩ := tlvAt_hdr scapy length b₂ b₃ hlong
  exact ⟨tlv, htlv, congrArg TlvHdr.length hhdr⟩

lemma walk_of_tiled (scapy : Scapy) {words : Bytes} (h : Tiled words) :
    ∃ tlvs, Walk scapy words (some tlvs) := by
  induction h with
  | nil => exact ⟨[], .done⟩
  | @cons type length value rest _ hvalue _ hconnect _ ih =>
    obtain ⟨tlvs, hw⟩ := ih
    have hcon : type = 0xa → length = 5 := by
      rintro rfl
      exact hconnect rfl
    obtain ⟨tlv, htlv, hlength⟩ := tlvAt_tiled scapy hvalue hcon rest
    have hdrop : (type :: length :: value ++ rest).drop (tlv.hdr.length.toNat * 4) = rest := by
      rw [hlength, List.drop_left']
      simp only [List.length_cons]
      omega
    rw [← hdrop] at hw
    exact ⟨_, .next (by simp) htlv hw⟩

lemma WellFormed.reads (hm : WellFormed m) (scapy : Scapy) (hcomplete : Complete m) :
    ∃ r, ReadReturns scapy (.whole m) r := by
  cases hm with
  | @intro totalLength words rest hpositive hpresent htiled =>
    obtain ⟨tlvs, hw⟩ := walk_of_tiled scapy htiled
    have hlen := hcomplete.length
    have hpos := hcomplete.positive
    simp only [List.cons_append, List.length_cons, List.length_append, List.getD_cons_succ,
      List.getD_cons_zero] at hlen hpos
    have hnil : rest = [] := List.eq_nil_of_length_eq_zero (by omega)
    subst hnil
    have hwords : secondRecv (1 :: totalLength :: 0x22 :: 0x63 :: words ++ []) = words := by
      simp only [secondRecv, convertHeaderLength, List.append_nil, List.drop_succ_cons, List.drop_zero,
        List.getD_cons_succ, List.getD_cons_zero]
      exact List.take_of_length_le (by omega)
    obtain ⟨header, -, hreturns⟩ := readReturns_whole scapy hcomplete.header
    exact ⟨_, (hreturns _).mpr ⟨_, hwords ▸ hw, rfl⟩⟩

theorem takesMessage_iff (scapy : Scapy) (m d : Bytes) (hm : WellFormed m) (hcomplete : Complete m) :
    TakesMessage scapy m d ↔ d = [] := by
  constructor
  · rintro ⟨fuel, r, hqueue, -⟩
    have hrest := congrArg List.length (hcomplete.leaves hqueue)
    rw [List.length_drop] at hrest
    exact List.eq_nil_of_length_eq_zero (by omega)
  · rintro rfl
    obtain ⟨r, fuel, hread⟩ := hm.reads scapy hcomplete
    have hresult := readQueue_result scapy fuel m
    rw [hread, Option.map_eq_some_iff] at hresult
    obtain ⟨⟨r', rest⟩, hqueue, rfl⟩ := hresult
    rw [← List.append_nil m] at hqueue
    obtain rfl := hcomplete.leaves hqueue
    exact ⟨fuel, r', hqueue, fuel, hread⟩

lemma connectMessage_wellFormed : WellFormed connectMessage :=
  @WellFormed.intro 6 (connectMessage.drop 4) [] (by decide) rfl
    (@Tiled.cons 0xa 5 (connectMessage.drop 6) [] (by decide) rfl (by decide) (fun _ => rfl) .nil)

theorem takesMessage_connectMessage : TakesMessage strictScapy connectMessage [] :=
  (takesMessage_iff strictScapy connectMessage [] connectMessage_wellFormed connectMessage_complete).mpr rfl

theorem earlyData_taken :
    (∃ fuel r, readQueue strictScapy fuel (connectMessage ++ [0x47, 0x45, 0x54, 0x20, 0x2f]) =
      some (r, [0x2f])) ∧
    ¬ TakesMessage strictScapy connectMessage [0x47, 0x45, 0x54, 0x20, 0x2f] := by
  refine ⟨⟨3, _, rfl⟩, ?_⟩
  rintro ⟨fuel, r, hqueue, -⟩
  have hrest := connectMessage_complete.leaves hqueue
  cases hrest

end Queue

end TransportConverter.Server
