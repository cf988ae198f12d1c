import TransportConverter.Foundations.InetText
import TransportConverter.Foundations.Watched
import TransportConverter.Wire.Layout

/-! The two subflow queries of `mptcp_util.c`, over what `getsockopt` leaves in their arrays. -/

namespace TransportConverter.Performance

open Foundations Foundations.Memory Foundations.Watched Wire

inductive TcpiField
  | state | caState | retransmits | probes | backoff | options | sndWscale | rcvWscale
  | deliveryRateAppLimited | fastopenClientFail | rto | ato | sndMss | rcvMss | unacked | sacked
  | lost | retrans | fackets | lastDataSent | lastAckSent | lastDataRecv | lastAckRecv | pmtu
  | rcvSsthresh | rtt | rttvar | sndSsthresh | sndCwnd | advmss | reordering | rcvRtt | rcvSpace
  | totalRetrans | pacingRate | maxPacingRate | bytesAcked | bytesReceived | segsOut | segsIn
  | notsentBytes | minRtt | dataSegsIn | dataSegsOut | deliveryRate | busyTime | rwndLimited
  | sndbufLimited | delivered | deliveredCe | bytesSent | bytesRetrans | dsackDups | reordSeen
  | rcvOoopack
  deriving DecidableEq

namespace TcpiField

def all : List TcpiField :=
  [.state, .caState, .retransmits, .probes, .backoff, .options, .sndWscale, .rcvWscale,
    .deliveryRateAppLimited, .fastopenClientFail, .rto, .ato, .sndMss, .rcvMss, .unacked, .sacked,
    .lost, .retrans, .fackets, .lastDataSent, .lastAckSent, .lastDataRecv, .lastAckRecv, .pmtu,
    .rcvSsthresh, .rtt, .rttvar, .sndSsthresh, .sndCwnd, .advmss, .reordering, .rcvRtt, .rcvSpace,
    .totalRetrans, .pacingRate, .maxPacingRate, .bytesAcked, .bytesReceived, .segsOut, .segsIn,
    .notsentBytes, .minRtt, .dataSegsIn, .dataSegsOut, .deliveryRate, .busyTime, .rwndLimited,
    .sndbufLimited, .delivered, .deliveredCe, .bytesSent, .bytesRetrans, .dsackDups, .reordSeen,
    .rcvOoopack]

def key : TcpiField → String
  | .state => "tcpi_state"
  | .caState => "tcpi_ca_state"
  | .retransmits => "tcpi_retransmits"
  | .probes => "tcpi_probes"
  | .backoff => "tcpi_backoff"
  | .options => "tcpi_options"
  | .sndWscale => "tcpi_snd_wscale"
  | .rcvWscale => "tcpi_rcv_wscale"
  | .deliveryRateAppLimited => "tcpi_delivery_rate_app_limited"
  | .fastopenClientFail => "tcpi_fastopen_client_fail"
  | .rto => "tcpi_rto"
  | .ato => "tcpi_ato"
  | .sndMss => "tcpi_snd_mss"
  | .rcvMss => "tcpi_rcv_mss"
  | .unacked => "tcpi_unacked"
  | .sacked => "tcpi_sacked"
  | .lost => "tcpi_lost"
  | .retrans => "tcpi_retrans"
  | .fackets => "tcpi_fackets"
  | .lastDataSent => "tcpi_last_data_sent"
  | .lastAckSent => "tcpi_last_ack_sent"
  | .lastDataRecv => "tcpi_last_data_recv"
  | .lastAckRecv => "tcpi_last_ack_recv"
  | .pmtu => "tcpi_pmtu"
  | .rcvSsthresh => "tcpi_rcv_ssthresh"
  | .rtt => "tcpi_rtt"
  | .rttvar => "tcpi_rttvar"
  | .sndSsthresh => "tcpi_snd_ssthresh"
  | .sndCwnd => "tcpi_snd_cwnd"
  | .advmss => "tcpi_advmss"
  | .reordering => "tcpi_reordering"
  | .rcvRtt => "tcpi_rcv_rtt"
  | .rcvSpace => "tcpi_rcv_space"
  | .totalRetrans => "tcpi_total_retrans"
  | .pacingRate => "tcpi_pacing_rate"
  | .maxPacingRate => "tcpi_max_pacing_rate"
  | .bytesAcked => "tcpi_bytes_acked"
  | .bytesReceived => "tcpi_bytes_received"
  | .segsOut => "tcpi_segs_out"
  | .segsIn => "tcpi_segs_in"
  | .notsentBytes => "tcpi_notsent_bytes"
  | .minRtt => "tcpi_min_rtt"
  | .dataSegsIn => "tcpi_data_segs_in"
  | .dataSegsOut => "tcpi_data_segs_out"
  | .deliveryRate => "tcpi_delivery_rate"
  | .busyTime => "tcpi_busy_time"
  | .rwndLimited => "tcpi_rwnd_limited"
  | .sndbufLimited => "tcpi_sndbuf_limited"
  | .delivered => "tcpi_delivered"
  | .deliveredCe => "tcpi_delivered_ce"
  | .bytesSent => "tcpi_bytes_sent"
  | .bytesRetrans => "tcpi_bytes_retrans"
  | .dsackDups => "tcpi_dsack_dups"
  | .reordSeen => "tcpi_reord_seen"
  | .rcvOoopack => "tcpi_rcv_ooopack"

def bits : TcpiField → ℕ
  | .state | .caState | .retransmits | .probes | .backoff | .options => 8
  | .sndWscale | .rcvWscale => 4
  | .deliveryRateAppLimited => 1
  | .fastopenClientFail => 2
  | .pacingRate | .maxPacingRate | .bytesAcked | .bytesReceived | .deliveryRate | .busyTime
  | .rwndLimited | .sndbufLimited | .bytesSent | .bytesRetrans => 64
  | _ => 32

end TcpiField

structure TcpInfo where
  value : (f : TcpiField) → Fin (2 ^ f.bits)

/-- A `sockaddr`; the port stands at one place in both families. -/
structure Sockaddr where
  saFamily : ℕ
  port : Octets 2
  sinAddr : Octets 4
  sin6Addr : Octets 16
  deriving DecidableEq

structure SubflowAddrs where
  saLocal : Sockaddr
  saRemote : Sockaddr
  deriving DecidableEq

def afInet : ℕ := 2
def afInet6 : ℕ := 10

inductive PyValue
  | none
  | int (n : ℤ)
  | str (s : String)
  deriving DecidableEq

abbrev PyDict := List (String × PyValue)

inductive PyError
  | runtimeError (message : String)
  | systemError
  | keyError (key : String)
  | indexError
  | valueError (message : String)
  | exception (message : String)
  | operationalError
  | programmingError
  | overflowError
  deriving DecidableEq

/-- What a query hands to Python. A slot of the list that was never set is a null pointer. -/
inductive Queried
  | raised (e : PyError)
  | list (slots : List (Option PyDict))
  deriving DecidableEq

/-- What `getsockopt` does: it fails, or reports how many subflows there are and fills the array. -/
inductive Answer (α : Type)
  | failed (errno : ℕ) (text : String)
  | filled (numSubflows : UInt32) (slots : List.Vector α 2)

def intOf (n : UInt32) : ℤ := if n.toNat < 2 ^ 31 then n.toNat else n.toNat - 2 ^ 32

def pyLongFromLong (n : ℕ) : PyValue := .int (ssizeT n)

def errorText (what : String) (errno : ℕ) (text : String) : String :=
  "Error getting " ++ what ++ ": [" ++ Nat.repr errno ++ "] " ++ text

section SubflowInfo

def inetNtop (a : Octets 4) : String :=
  .ofList (InetText.quadText (a.toList.getD 0 0) (a.toList.getD 1 0) (a.toList.getD 2 0) (a.toList.getD 3 0))

def inetNtop6 (a : Octets 16) : String := .ofList (InetText.inetNtop6 a)

/-- The two addresses as texts. The family of the local one decides for both. -/
def SubflowAddrs.texts (a : SubflowAddrs) : Option (String × String) :=
  if a.saLocal.saFamily = afInet then some (inetNtop a.saLocal.sinAddr, inetNtop a.saRemote.sinAddr)
  else if a.saLocal.saFamily = afInet6 then
    some (inetNtop6 a.saLocal.sin6Addr, inetNtop6 a.saRemote.sin6Addr)
  else none

def subflowDict (i : ℕ) (a : SubflowAddrs) : Option PyDict :=
  a.texts.map fun (localIp, remoteIp) =>
    [("id", pyLongFromLong i), ("local_addr", .str localIp), ("local_port", pyLongFromLong (ntohs a.saLocal.port)),
      ("remote_addr", .str remoteIp), ("remote_port", pyLongFromLong (ntohs a.saRemote.port))]

/-- An unknown family is skipped, and its slot stays as `PyList_New` made it. -/
def setSubflow (i : ℕ) (a : SubflowAddrs) (slots : List (Option PyDict)) : List (Option PyDict) :=
  match subflowDict i a with
  | some d => slots.set i (some d)
  | none => slots

def mptcpUtilGetSubflowInfo : Answer SubflowAddrs → Watched Queried
  | .failed errno text => pure (.raised (.runtimeError (errorText "subflow info" errno text)))
  | .filled n addr => do
    let numSubflows := (intOf n).toNat
    let slots ← forEach addr.toList setSubflow numSubflows 0 (List.replicate numSubflows none)
    -- `PyList_New` refuses a negative size.
    pure (if intOf n < 0 then .raised .systemError else .list slots)

end SubflowInfo

section SubflowTcpInfo

def tcpInfoDict (i : ℕ) (ti : TcpInfo) : PyDict :=
  ("id", pyLongFromLong i) :: TcpiField.all.map fun f => (f.key, pyLongFromLong (ti.value f))

def appendTcpInfo (i : ℕ) (ti : TcpInfo) (slots : List (Option PyDict)) : List (Option PyDict) :=
  slots ++ [some (tcpInfoDict i ti)]

def mptcpUtilGetSubflowTcpInfo : Answer TcpInfo → Watched Queried
  | .failed errno text => pure (.raised (.runtimeError (errorText "subflow tcp info" errno text)))
  | .filled n ti => do
    let slots ← forEach ti.toList appendTcpInfo (intOf n).toNat 0 []
    pure (.list slots)

end SubflowTcpInfo

section Queries

variable {n : UInt32} {k : ℕ} {addr : List.Vector SubflowAddrs 2} {ti : List.Vector TcpInfo 2}

lemma mapIdx_take_succ {α β : Type} {xs : List α} {x : α} {i : ℕ} (f : ℕ → α → β) (h : xs[i]? = some x) :
    (xs.take (i + 1)).mapIdx f = (xs.take i).mapIdx f ++ [f i x] := by
  have hlt : i < xs.length := (List.getElem?_eq_some_iff.mp h).1
  rw [List.take_add_one, h, Option.toList_some, List.mapIdx_append, List.length_take, min_eq_left hlt.le]
  simp

lemma setSubflow_next {xs : List SubflowAddrs} {x : SubflowAddrs} {i : ℕ} (hi : i < k)
    (hx : xs[i]? = some x) :
    setSubflow i x ((xs.take i).mapIdx subflowDict ++ List.replicate (k - i) none) =
      (xs.take (i + 1)).mapIdx subflowDict ++ List.replicate (k - (i + 1)) none := by
  obtain ⟨m, hm⟩ : ∃ m, k - i = m + 1 := ⟨k - i - 1, by omega⟩
  have hlt : i < xs.length := (List.getElem?_eq_some_iff.mp hx).1
  have hlength : ((xs.take i).mapIdx subflowDict).length = i := by
    rw [List.length_mapIdx, List.length_take]
    omega
  rw [hm, mapIdx_take_succ subflowDict hx, List.append_assoc, show k - (i + 1) = m by omega]
  unfold setSubflow
  cases hd : subflowDict i x with
  | none => rfl
  | some d =>
    dsimp only
    rw [List.set_append_right _ _ hlength.le, hlength, Nat.sub_self]
    rfl

lemma value_setSubflow {xs : List SubflowAddrs} (hk : k ≤ xs.length) :
    (forEach xs setSubflow k 0 (List.replicate k none)).value = some ((xs.take k).mapIdx subflowDict) := by
  let I := fun i slots => slots = (xs.take i).mapIdx subflowDict ++ List.replicate (k - i) none
  have hstep : ∀ i x slots, i < k → xs[i]? = some x → I i slots → I (i + 1) (setSubflow i x slots) := by
    rintro i x slots hi hx rfl
    exact setSubflow_next hi hx
  have hstart : I 0 (List.replicate k none) := rfl
  obtain ⟨slots, hvalue, hslots⟩ := value_forEach hstep (Nat.zero_add k) hk hstart
  rw [hvalue, hslots, Nat.sub_self, List.replicate_zero, List.append_nil]

lemma value_appendTcpInfo {xs : List TcpInfo} (hk : k ≤ xs.length) :
    (forEach xs appendTcpInfo k 0 []).value =
      some ((xs.take k).mapIdx fun i ti => some (tcpInfoDict i ti)) := by
  let I := fun i slots => slots = (xs.take i).mapIdx fun i ti => some (tcpInfoDict i ti)
  have hstep : ∀ i x slots, i < k → xs[i]? = some x → I i slots → I (i + 1) (appendTcpInfo i x slots) := by
    rintro i x slots - hx rfl
    exact (mapIdx_take_succ _ hx).symm
  have hstart : I 0 [] := rfl
  obtain ⟨slots, hvalue, hslots⟩ := value_forEach hstep (Nat.zero_add k) hk hstart
  rw [hvalue, hslots]

lemma intOf_toNat (n : UInt32) : (intOf n).toNat = if n.toNat < 2 ^ 31 then n.toNat else 0 := by
  have := n.toNat_lt
  unfold intOf
  split_ifs <;> omega

lemma intOf_neg (n : UInt32) : intOf n < 0 ↔ 2 ^ 31 ≤ n.toNat := by
  have := n.toNat_lt
  unfold intOf
  split_ifs <;> omega

lemma within_subflowInfo :
    Within 2 (mptcpUtilGetSubflowInfo (.filled n addr)) ↔ (intOf n).toNat ≤ 2 :=
  within_bind_pure.trans (within_forEach_iff addr.toList_length)

lemma within_subflowTcpInfo :
    Within 2 (mptcpUtilGetSubflowTcpInfo (.filled n ti)) ↔ (intOf n).toNat ≤ 2 :=
  within_bind_pure.trans (within_forEach_iff ti.toList_length)

lemma value_subflowInfo (h : (intOf n).toNat ≤ 2) :
    (mptcpUtilGetSubflowInfo (.filled n addr)).value =
      some (if intOf n < 0 then .raised .systemError
        else .list ((addr.toList.take (intOf n).toNat).mapIdx subflowDict)) := by
  have hslots := value_setSubflow (h.trans_eq addr.toList_length.symm)
  simp only [mptcpUtilGetSubflowInfo, value_bind, hslots, Option.bind_some, value_pure]

lemma value_subflowTcpInfo (h : (intOf n).toNat ≤ 2) :
    (mptcpUtilGetSubflowTcpInfo (.filled n ti)).value =
      some (.list ((ti.toList.take (intOf n).toNat).mapIdx fun i ti => some (tcpInfoDict i ti))) := by
  have hslots := value_appendTcpInfo (h.trans_eq ti.toList_length.symm)
  simp only [mptcpUtilGetSubflowTcpInfo, value_bind, hslots, Option.bind_some, value_pure]

end Queries

section Safety

def Numbered (slots : List (Option PyDict)) : Prop :=
  ∀ (i : ℕ) slot, slots[i]? = some slot → ∃ d : PyDict, slot = some d ∧ d.lookup "id" = some (.int i)

def ids (slots : List (Option PyDict)) : List PyValue := slots.filterMap (·.bind (·.lookup "id"))

structure QueriesSafe (n : UInt32) (addr : List.Vector SubflowAddrs 2) (ti : List.Vector TcpInfo 2) :
    Prop where
  subflowInfo : Within 2 (mptcpUtilGetSubflowInfo (.filled n addr))
  subflowTcpInfo : Within 2 (mptcpUtilGetSubflowTcpInfo (.filled n ti))
  lists : ∃ infos tcpInfos,
    (mptcpUtilGetSubflowInfo (.filled n addr)).value = some (.list infos) ∧
    (mptcpUtilGetSubflowTcpInfo (.filled n ti)).value = some (.list tcpInfos) ∧
    Numbered infos ∧ Numbered tcpInfos ∧ ∀ id, id ∈ ids infos ↔ id ∈ ids tcpInfos

def SubflowAddrs.Known (a : SubflowAddrs) : Prop :=
  a.saLocal.saFamily = afInet ∨ a.saLocal.saFamily = afInet6

instance (a : SubflowAddrs) : Decidable a.Known := inferInstanceAs (Decidable (_ ∨ _))

variable {n : UInt32} {addr : List.Vector SubflowAddrs 2} {ti : List.Vector TcpInfo 2}

lemma texts_of_known {a : SubflowAddrs} (h : a.Known) : ∃ texts, a.texts = some texts := by
  unfold SubflowAddrs.texts
  split_ifs with h4 h6
  · exact ⟨_, rfl⟩
  · exact ⟨_, rfl⟩
  · exact (h.elim h4 h6).elim

lemma texts_eq_none_iff {a : SubflowAddrs} : a.texts = none ↔ ¬ a.Known := by
  constructor
  · intro hnone hknown
    obtain ⟨texts, htexts⟩ := texts_of_known hknown
    rw [hnone] at htexts
    cases htexts
  · intro h
    rw [SubflowAddrs.texts, if_neg fun h4 => h (Or.inl h4), if_neg fun h6 => h (Or.inr h6)]

lemma pyLongFromLong_small {n : ℕ} (h : n < 2 ^ 63) : pyLongFromLong n = .int n := by
  rw [pyLongFromLong, ssizeT, if_pos h]

lemma subflowDict_id {a : SubflowAddrs} {d : PyDict} {i : ℕ} (h : subflowDict i a = some d) :
    d.lookup "id" = some (pyLongFromLong i) := by
  rw [subflowDict, Option.map_eq_some_iff] at h
  obtain ⟨⟨localIp, remoteIp⟩, -, rfl⟩ := h
  rfl

lemma tcpInfoDict_id (i : ℕ) (ti : TcpInfo) : (tcpInfoDict i ti).lookup "id" = some (pyLongFromLong i) :=
  rfl

lemma getElem?_mapIdx_some {α β : Type} {xs : List α} {f : ℕ → α → β} {i : ℕ} {y : β}
    (h : (xs.mapIdx f)[i]? = some y) : ∃ x, xs[i]? = some x ∧ y = f i x := by
  rw [List.getElem?_mapIdx, Option.map_eq_some_iff] at h
  obtain ⟨x, hx, rfl⟩ := h
  exact ⟨x, hx, rfl⟩

lemma numbered_tcpInfos {xs : List TcpInfo} (h : xs.length ≤ 2) :
    Numbered (xs.mapIdx fun i ti => some (tcpInfoDict i ti)) := by
  intro i slot hslot
  obtain ⟨ti, hti, rfl⟩ := getElem?_mapIdx_some hslot
  have hi : i < xs.length := (List.getElem?_eq_some_iff.mp hti).1
  exact ⟨_, rfl, by rw [tcpInfoDict_id, pyLongFromLong_small (by omega)]⟩

lemma numbered_infos_iff {xs : List SubflowAddrs} (h : xs.length ≤ 2) :
    Numbered (xs.mapIdx subflowDict) ↔ ∀ a ∈ xs, a.Known := by
  constructor
  · intro hnumbered a ha
    obtain ⟨i, hi⟩ := List.getElem?_of_mem ha
    obtain ⟨d, hd, -⟩ := hnumbered i (subflowDict i a) (by rw [List.getElem?_mapIdx, hi]; rfl)
    by_contra hunknown
    rw [subflowDict, texts_eq_none_iff.mpr hunknown] at hd
    cases hd
  · intro hknown i slot hslot
    obtain ⟨a, ha, rfl⟩ := getElem?_mapIdx_some hslot
    have hi : i < xs.length := (List.getElem?_eq_some_iff.mp ha).1
    obtain ⟨texts, htexts⟩ := texts_of_known (hknown a (List.mem_of_getElem? ha))
    obtain ⟨d, hd⟩ : ∃ d, subflowDict i a = some d := ⟨_, by rw [subflowDict, htexts]; rfl⟩
    exact ⟨d, hd, by rw [subflowDict_id hd, pyLongFromLong_small (by omega)]⟩

lemma mem_ids_iff {slots : List (Option PyDict)} (h : Numbered slots) (id : PyValue) :
    id ∈ ids slots ↔ ∃ i < slots.length, id = .int i := by
  simp only [ids, List.mem_filterMap]
  constructor
  · rintro ⟨slot, hslot, hid⟩
    obtain ⟨i, hi⟩ := List.getElem?_of_mem hslot
    obtain ⟨d, rfl, hd⟩ := h i slot hi
    rw [Option.bind_some, hd] at hid
    exact ⟨i, (List.getElem?_eq_some_iff.mp hi).1, (Option.some.inj hid).symm⟩
  · rintro ⟨i, hi, rfl⟩
    obtain ⟨d, hslot, hd⟩ := h i slots[i] (List.getElem?_eq_getElem hi)
    exact ⟨slots[i], List.getElem_mem hi, by rw [hslot, Option.bind_some, hd]⟩

lemma QueriesSafe.small (h : QueriesSafe n addr ti) : n.toNat ≤ 2 ∧ (intOf n).toNat = n.toNat := by
  obtain ⟨infos, -, hinfos, -⟩ := h.lists
  have hle := within_subflowInfo.mp h.subflowInfo
  have hnonneg : ¬ intOf n < 0 := by
    intro hneg
    rw [value_subflowInfo hle, if_pos hneg] at hinfos
    cases hinfos
  rw [intOf_neg] at hnonneg
  rw [intOf_toNat, if_pos (by omega)] at hle ⊢
  exact ⟨hle, rfl⟩

lemma intOf_small (h : n.toNat ≤ 2) : (intOf n).toNat = n.toNat ∧ ¬ intOf n < 0 := by
  rw [intOf_toNat, if_pos (by omega), intOf_neg]
  exact ⟨rfl, by omega⟩

/-- The two queries are safe together exactly for at most two subflows of the two families. -/
theorem queriesSafe_iff (n : UInt32) (addr : List.Vector SubflowAddrs 2) (ti : List.Vector TcpInfo 2) :
    QueriesSafe n addr ti ↔ n.toNat ≤ 2 ∧ ∀ a ∈ addr.toList.take n.toNat, a.Known := by
  have hlength : (addr.toList.take n.toNat).length ≤ 2 :=
    (List.length_take_le' _ _).trans addr.toList_length.le
  constructor
  · intro h
    obtain ⟨hle, hint⟩ := h.small
    obtain ⟨infos, tcpInfos, hinfos, -, hnumbered, -⟩ := h.lists
    rw [value_subflowInfo (by omega), if_neg (intOf_small hle).2, hint] at hinfos
    cases hinfos
    exact ⟨hle, (numbered_infos_iff hlength).mp hnumbered⟩
  · rintro ⟨hle, hknown⟩
    obtain ⟨hint, hnonneg⟩ := intOf_small hle
    have hinfos := (numbered_infos_iff hlength).mpr hknown
    have htcpInfos : Numbered ((ti.toList.take n.toNat).mapIdx fun i ti => some (tcpInfoDict i ti)) :=
      numbered_tcpInfos ((List.length_take_le' _ _).trans ti.toList_length.le)
    refine ⟨within_subflowInfo.mpr (by omega), within_subflowTcpInfo.mpr (by omega), _, _, ?_, ?_, hinfos,
      htcpInfos, fun id => ?_⟩
    · rw [value_subflowInfo (by omega), if_neg hnonneg, hint]
    · rw [value_subflowTcpInfo (by omega), hint]
    · rw [mem_ids_iff hinfos, mem_ids_iff htcpInfos]
      simp only [List.length_mapIdx, List.length_take, addr.toList_length, ti.toList_length]

def TcpInfo.zero : TcpInfo := ⟨fun f => ⟨0, Nat.two_pow_pos f.bits⟩⟩

def Sockaddr.inet (sinAddr : Octets 4) : Sockaddr := ⟨afInet, twoOctets 0x1f 0x90, sinAddr, .replicate 16 0⟩

def cablePath : SubflowAddrs := ⟨.inet ⟨[192, 168, 2, 221], rfl⟩, .inet ⟨[10, 0, 0, 7], rfl⟩⟩
def phonePath : SubflowAddrs := ⟨.inet ⟨[172, 20, 10, 4], rfl⟩, cablePath.saRemote⟩

/-- The third subflow of a connection is read behind both arrays. -/
theorem thirdSubflow_outside :
    ¬ QueriesSafe 3 (.replicate 2 cablePath) (.replicate 2 .zero) ∧
      2 ∈ (mptcpUtilGetSubflowInfo (.filled 3 (.replicate 2 cablePath))).reads ∧
      2 ∈ (mptcpUtilGetSubflowTcpInfo (.filled 3 (.replicate 2 .zero))).reads := by
  refine ⟨fun h => ?_, by decide, by decide⟩
  exact absurd (within_subflowInfo.mp h.subflowInfo) (by decide)

end Safety

end TransportConverter.Performance
