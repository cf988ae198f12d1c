import TransportConverter.EndToEnd.Redirect
import TransportConverter.Foundations.InetText
import TransportConverter.Server.Messages

/-! The hosts `handle_tlv_connect` dials, where scapy prints addresses with the C library's
`inet_ntop`. -/

namespace TransportConverter.EndToEnd

open Foundations.Memory Foundations.Effects Foundations.InetText Wire Codec Server
open Client (redirectConnectTlv redirectBuf toV4mapped)

section Host

variable {resolver : Text → Option (Octets 4)} {host : Text} {ip : Octets 4}

def setipaddr (resolver : Text → Option (Octets 4)) (host : Text) : Option (Octets 4) :=
  if host = [] then some ⟨[0, 0, 0, 0], rfl⟩
  else if host = ['<', 'b', 'r', 'o', 'a', 'd', 'c', 'a', 's', 't', '>'] then
    some ⟨[255, 255, 255, 255], rfl⟩
  else (inetAton host).or (resolver host)

lemma setipaddr_of_aton (h : inetAton host = some ip) : setipaddr resolver host = some ip := by
  have hnil : host ≠ [] := by
    rintro rfl
    cases h
  have hbroadcast : host ≠ ['<', 'b', 'r', 'o', 'a', 'd', 'c', 'a', 's', 't', '>'] := by
    rintro rfl
    cases h
  rw [setipaddr, if_neg hnil, if_neg hbroadcast, h, Option.some_or]

variable {n : ℕ}

lemma setipaddr_hexText (hn : n < 65536) : setipaddr resolver (hexText n) = none ↔
    (∃ c ∈ hexText n, c.isDigit = false) ∧ resolver (hexText n) = none := by
  have hnil : hexText n ≠ [] := Nat.toDigits_ne_nil
  have hbroadcast : hexText n ≠ ['<', 'b', 'r', 'o', 'a', 'd', 'c', 'a', 's', 't', '>'] := by
    intro h
    have hbracket : '<' ∈ hexText n := by
      rw [h]
      exact List.mem_cons_self
    exact not_mem_hexText (by decide) hbracket
  have hletter : inetAton (hexText n) = none ↔ ∃ c ∈ hexText n, c.isDigit = false := by
    rw [← Option.not_isSome_iff_eq_none, Option.isSome_iff_exists, inetAton_hexText hn]
    simp only [not_forall, Bool.not_eq_true, exists_prop]
  rw [setipaddr, if_neg hnil, if_neg hbroadcast, Option.or_eq_none_iff, hletter]

end Host

section Address

variable {addr : Octets 16} {ip : Octets 4}

lemma word_eq_zero_iff {i : ℕ} :
    word addr i = 0 ↔ addr.toList.getD (2 * i) 0 = 0 ∧ addr.toList.getD (2 * i + 1) 0 = 0 := by
  rw [word, ← UInt8.toNat_inj, ← UInt8.toNat_inj, UInt8.toNat_zero]
  omega

lemma word_eq_ones_iff {i : ℕ} :
    word addr i = 0xffff ↔
      addr.toList.getD (2 * i) 0 = 0xff ∧ addr.toList.getD (2 * i + 1) 0 = 0xff := by
  have hhigh := (addr.toList.getD (2 * i) 0).toNat_lt
  have hlow := (addr.toList.getD (2 * i + 1) 0).toNat_lt
  have hones : (0xff : UInt8).toNat = 255 := rfl
  rw [word, ← UInt8.toNat_inj, ← UInt8.toNat_inj, hones]
  omega

def lastOctets (addr : Octets 16) : Octets 4 :=
  ⟨[addr.toList.getD 12 0, addr.toList.getD 13 0, addr.toList.getD 14 0, addr.toList.getD 15 0], rfl⟩

lemma toList_eq (addr : Octets 16) : addr.toList = (List.range 16).map (addr.toList.getD · 0) := by
  obtain ⟨xs, hxs⟩ := addr
  apply List.ext_getElem
  · simp [hxs]
  · intro i h₁ h₂
    rw [List.getElem_map, List.getElem_range, List.getD_eq_getElem _ _ h₁]

lemma mapped_iff :
    (∃ ip, toV4mapped ip = addr) ↔ (∀ i < 5, word addr i = 0) ∧ word addr 5 = 0xffff := by
  constructor
  · rintro ⟨⟨xs, hxs⟩, rfl⟩
    refine ⟨fun i hi => ?_, rfl⟩
    interval_cases i <;> rfl
  · rintro ⟨hzeros, hones⟩
    have hoctets : ∀ i < 10, addr.toList.getD i 0 = 0 := by
      intro i hi
      obtain ⟨heven, hodd⟩ := word_eq_zero_iff.mp (hzeros (i / 2) (by omega))
      obtain hparity | hparity := Nat.mod_two_eq_zero_or_one i
      · rwa [show 2 * (i / 2) = i by omega] at heven
      · rwa [show 2 * (i / 2) + 1 = i by omega] at hodd
    have hfront : (List.range 10).map (addr.toList.getD · 0) = zeros 10 :=
      List.map_eq_replicate_iff.mpr fun i hi => hoctets i (List.mem_range.mp hi)
    obtain ⟨hten, heleven⟩ : addr.toList.getD 10 0 = 0xff ∧ addr.toList.getD 11 0 = 0xff :=
      word_eq_ones_iff.mp hones
    refine ⟨lastOctets addr, Subtype.ext ?_⟩
    show zeros 10 ++ [0xff, 0xff] ++ (lastOctets addr).toList = addr.toList
    rw [toList_eq addr]
    show _ = (List.range 10).map (addr.toList.getD · 0) ++
      [addr.toList.getD 10 0, addr.toList.getD 11 0] ++ (lastOctets addr).toList
    rw [hfront, hten, heleven]

/-- The addresses `inet_ntop` prints with the dots of a version 4 address, beside the mapped ones. -/
def V4Compatible (addr : Octets 16) : Prop := (∀ i < 6, word addr i = 0) ∧ word addr 6 ≠ 0

lemma quadOf_mapped (ip : Octets 4) :
    ∃ a b c d, ip = ⟨[a, b, c, d], rfl⟩ ∧ quadOf (toV4mapped ip) = some (quadText a b c d) := by
  obtain ⟨xs, hxs⟩ := ip
  obtain ⟨a, b, c, d, rfl⟩ := List.length_eq_four.mp hxs
  refine ⟨a, b, c, d, rfl, ?_⟩
  have hwords := mapped_iff.mp ⟨⟨[a, b, c, d], hxs⟩, rfl⟩
  have hrun := runOf_five_iff.mpr ⟨hwords.1, by rw [hwords.2]; decide⟩
  exact if_pos (Or.inr ⟨hrun, hwords.2⟩)

lemma quadOf_unmapped (hmapped : ∀ ip, toV4mapped ip ≠ addr) :
    (quadOf addr).isSome ↔ V4Compatible addr := by
  have hunmapped : ¬ (runOf addr = some ⟨0, 5⟩ ∧ word addr 5 = 0xffff) := by
    rintro ⟨hrun, hones⟩
    obtain ⟨ip, hip⟩ := mapped_iff.mpr ⟨(runOf_five_iff.mp hrun).1, hones⟩
    exact hmapped ip hip
  by_cases hcompat : V4Compatible addr
  · have hquad : quadOf addr = some _ := if_pos (Or.inl (runOf_six_iff.mpr hcompat))
    rw [hquad]
    exact iff_of_true rfl hcompat
  · have hquad : quadOf addr = none := by
      apply if_neg
      rintro (hsix | hfive)
      · exact hcompat (runOf_six_iff.mp hsix)
      · exact hunmapped hfive
    rw [hquad]
    exact iff_of_false Bool.false_ne_true hcompat

lemma quadOf_eq_quadText {text : List Char} (h : quadOf addr = some text) :
    ∃ a b c d, text = quadText a b c d := by
  unfold quadOf at h
  split_ifs at h
  exact ⟨_, _, _, _, (Option.some.inj h).symm⟩

end Address

section Dialled

variable {addr : Octets 16} {resolver : Text → Option (Octets 4)}

lemma colon_not_mem_lastPart : ':' ∉ lastPart addr := by
  unfold lastPart
  split_ifs with htrails
  · exact List.not_mem_nil
  · cases hquad : quadOf addr with
    | none => exact not_mem_hexText (by decide)
    | some text =>
      obtain ⟨a, b, c, d, rfl⟩ := quadOf_eq_quadText hquad
      exact colon_not_mem_dottedQuad a b c d

lemma ipv6ToIpv4_inetNtop6 : ipv6ToIpv4 (some (inetNtop6 addr)) = lastPart addr := by
  obtain ⟨text, htext⟩ : ∃ text, inetNtop6 addr = text ++ ':' :: lastPart addr := inetNtop6_ends
  rw [htext]
  exact ipv6ToIpv4_of_behind colon_not_mem_lastPart

lemma setipaddr_mapped (ip : Octets 4) :
    setipaddr resolver (lastPart (toV4mapped ip)) = some ip := by
  obtain ⟨a, b, c, d, rfl, hquad⟩ := quadOf_mapped ip
  have hlast : lastPart (toV4mapped ⟨[a, b, c, d], rfl⟩) = quadText a b c d := by
    rw [lastPart, (covers_of_quad hquad).2, hquad]
    rfl
  rw [hlast]
  exact setipaddr_of_aton inetAton_quadText

/-- No host is read for another address exactly when its last word is a name no one answers to. -/
lemma setipaddr_unmapped (hmapped : ∀ ip, toV4mapped ip ≠ addr) :
    setipaddr resolver (lastPart addr) = none ↔
      ¬ V4Compatible addr ∧ (∃ c ∈ hexText (word addr 7), c.isDigit = false) ∧
        resolver (hexText (word addr 7)) = none := by
  cases htrails : trails (runOf addr) with
  | true =>
    have hlast : lastPart addr = [] := if_pos htrails
    have hdigits : ¬ ∃ c ∈ hexText (word addr 7), c.isDigit = false := by
      rw [word_of_trails htrails]
      simp [hexText]
    rw [hlast]
    exact iff_of_false nofun fun h => hdigits h.2.1
  | false =>
    have hlast : lastPart addr = (quadOf addr).getD (hexText (word addr 7)) :=
      if_neg (Bool.eq_false_iff.mp htrails)
    have hcompat := quadOf_unmapped hmapped
    cases hquad : quadOf addr with
    | none =>
      rw [hquad] at hlast hcompat
      have hnot : ¬ V4Compatible addr := fun h => Bool.false_ne_true (hcompat.mpr h)
      rw [hlast]
      exact (setipaddr_hexText (word_lt 7)).trans ⟨fun h => ⟨hnot, h⟩, fun h => h.2⟩
    | some text =>
      obtain ⟨a, b, c, d, rfl⟩ := quadOf_eq_quadText hquad
      rw [hquad] at hlast hcompat
      rw [hlast, Option.getD_some, setipaddr_of_aton inetAton_quadText]
      exact iff_of_false nofun fun h => h.1 (hcompat.mp rfl)

end Dialled

section Dials

variable {client port : ℕ} {a : Dial} {s t : TcServer} {tlv : ConvertTlvConnect}

lemma handleTlvConnect_dials (hport : tlv.remotePort = some port)
    (h : Leaves (handleTlvConnect (.connect tlv) client a) s t) :
    ∃ events, t.log = s.log ++ events ∧
      ∀ d ∈ dialed events, d = (ipv6ToIpv4 tlv.remoteAddr, port) := by
  have hone : ∀ events, dialed events = [(ipv6ToIpv4 tlv.remoteAddr, port)] →
      ∀ d ∈ dialed events, d = (ipv6ToIpv4 tlv.remoteAddr, port) := by
    intro events hevents d hd
    rw [hevents] at hd
    exact List.mem_singleton.mp hd
  cases hsocket : a.socket with
  | none =>
    obtain rfl := (leaves_of_error (handleTlvConnect_noSocket hsocket)).mp h
    exact ⟨[], (List.append_nil _).symm, fun d hd => absurd hd List.not_mem_nil⟩
  | some fd =>
    cases hconnects : a.connects with
    | false =>
      obtain rfl := (leaves_of_ok (handleTlvConnect_refused hsocket hport hconnects)).mp h
      exact ⟨[.dialed (ipv6ToIpv4 tlv.remoteAddr) port], rfl, hone _ rfl⟩
    | true =>
      by_cases hreply : (s.opened fd).fileno client = -1 ∨ a.reply = .raises
      · obtain rfl := (leaves_of_error (handleTlvConnect_noReply hsocket hport hconnects hreply)).mp h
        exact ⟨[.dialed (ipv6ToIpv4 tlv.remoteAddr) port], rfl, hone _ rfl⟩
      · obtain ⟨hopen, hsends⟩ := not_or.mp hreply
        obtain ⟨n, hn⟩ : ∃ n, a.reply = .accepts n := by
          cases hanswer : a.reply with
          | raises => exact absurd hanswer hsends
          | accepts n => exact ⟨n, rfl⟩
        have hlogger : Leaves (startLogger client a.logger) (s.paired fd tlv port client n) t := by
          rw [Leaves, ← handleTlvConnect_paired hsocket hport hconnects hopen hn]
          exact h
        rw [leaves_startLogger hlogger]
        refine ⟨[.dialed (ipv6ToIpv4 tlv.remoteAddr) port, .replied client (emptyConvert.take n),
          .registered client s.nextSock], ?_, hone _ rfl⟩
        simp [TcServer.paired, TcServer.register, TcServer.record, TcServer.dialling, TcServer.opened]

/-- The classes of `convert.py` where the addresses are the texts `inet_ntop` prints. -/
def onGlibc (scapy : Scapy) : Scapy := { scapy with inetNtop := inetNtop6 }

variable (resolver : Text → Option (Octets 4)) (addr : Octets 16) (remotePort : Octets 2)

def ToDestination (events : List Event) : Prop :=
  ∀ host port ip, (host, port) ∈ dialed events → setipaddr resolver host = some ip →
    toV4mapped ip = addr ∧ port = ntohs remotePort

def DialsOnlyAsked (scapy : Scapy) : Prop :=
  ∀ length rest tlv,
    (onGlibc scapy).tlvAt (0xa :: length :: (remotePort.toList ++ addr.toList ++ rest)) = some tlv →
    ∀ client a s t, Leaves (handleTlvConnect tlv client a) s t →
      ∃ events, t.log = s.log ++ events ∧ ToDestination resolver addr remotePort events

lemma tlvAt_destination (scapy : Scapy) (length : UInt8) (rest : Bytes) :
    (onGlibc scapy).tlvAt (0xa :: length :: (remotePort.toList ++ addr.toList ++ rest)) =
      some (.connect ⟨⟨0xa, length⟩, some (ntohs remotePort), some (inetNtop6 addr)⟩) := by
  obtain ⟨xs, hxs⟩ := remotePort
  obtain ⟨p₀, p₁, rfl⟩ := List.length_eq_two.mp hxs
  exact tlvAt_connect (onGlibc scapy) length p₀ p₁ addr rest

variable {resolver addr remotePort}

lemma dialsOnlyAsked_iff_reads {scapy : Scapy} : DialsOnlyAsked resolver addr remotePort scapy ↔
    ∀ ip, setipaddr resolver (lastPart addr) = some ip → toV4mapped ip = addr := by
  constructor
  · intro h ip hip
    have hrefused : handleTlvConnect (.connect ⟨⟨0xa, 5⟩, some (ntohs remotePort),
        some (inetNtop6 addr)⟩) 0 refusal (.start 3) = _ := handleTlvConnect_refused rfl rfl rfl
    obtain ⟨events, hlog, hevents⟩ := h 5 [] _ (tlvAt_destination addr remotePort scapy 5 []) 0 refusal
      (.start 3) _ ((leaves_of_ok hrefused).mpr rfl)
    have hdialed : events = [.dialed (lastPart addr) (ntohs remotePort)] := by
      rw [← ipv6ToIpv4_inetNtop6]
      exact (List.append_cancel_left hlog).symm
    rw [hdialed] at hevents
    exact (hevents _ _ ip List.mem_cons_self hip).1
  · intro h length rest tlv htlv client a s t hleaves
    rw [tlvAt_destination, Option.some_inj] at htlv
    subst htlv
    obtain ⟨events, hlog, hevents⟩ := handleTlvConnect_dials rfl hleaves
    refine ⟨events, hlog, fun host port ip hdialed hip => ?_⟩
    obtain ⟨rfl, rfl⟩ := Prod.mk.inj (hevents _ hdialed)
    rw [ipv6ToIpv4_inetNtop6] at hip
    exact ⟨h ip hip, rfl⟩

end Dials

theorem dialsOnlyAsked_iff (scapy : Scapy) (resolver : Text → Option (Octets 4)) (addr : Octets 16)
    (remotePort : Octets 2) :
    DialsOnlyAsked resolver addr remotePort scapy ↔
      (∃ ip, toV4mapped ip = addr) ∨
        (¬ V4Compatible addr ∧ (∃ c ∈ hexText (word addr 7), c.isDigit = false) ∧
          resolver (hexText (word addr 7)) = none) := by
  rw [dialsOnlyAsked_iff_reads]
  by_cases hmapped : ∃ ip, toV4mapped ip = addr
  · refine iff_of_true (fun ip hip => ?_) (Or.inl hmapped)
    obtain ⟨ip', rfl⟩ := hmapped
    rw [setipaddr_mapped] at hip
    rw [Option.some.inj hip]
  · have hunmapped : ∀ ip, toV4mapped ip ≠ addr := not_exists.mp hmapped
    rw [or_iff_right hmapped, ← setipaddr_unmapped hunmapped, Option.eq_none_iff_forall_ne_some]
    exact ⟨fun h ip hip => hunmapped ip (h ip hip), fun h ip hip => absurd hip (h ip)⟩

def documentationHost : Octets 16 := ⟨[0x20, 0x01, 0x0d, 0xb8, 0, 0, 0, 0, 0, 0, 0, 0, 0, 0, 0, 1], rfl⟩

/-- The client library asks for 2001:db8::1 on port 8080, and the server dials 0.0.0.1. -/
theorem documentationHost_misdialled :
    (redirectConnectTlv none redirectBuf (.inet6 ⟨twoOctets 0x1f 0x90, documentationHost⟩)).map
        (fun w => w.buff.take w.ret.toNat) =
      some ([1, 6, 0x22, 0x63] ++ 0xa :: 5 :: ([0x1f, 0x90] ++ documentationHost.toList)) ∧
    setipaddr (fun _ => none) (ipv6ToIpv4 (some (inetNtop6 documentationHost))) =
      some ⟨[0, 0, 0, 1], rfl⟩ ∧
    ¬ DialsOnlyAsked (fun _ => none) documentationHost (twoOctets 0x1f 0x90) strictScapy := by
  have hread : setipaddr (fun _ => none) (lastPart documentationHost) = some ⟨[0, 0, 0, 1], rfl⟩ := by
    decide +kernel
  refine ⟨by decide +kernel, ?_, fun h => ?_⟩
  · rw [ipv6ToIpv4_inetNtop6]
    exact hread
  · have hmapped := dialsOnlyAsked_iff_reads.mp h _ hread
    exact absurd hmapped (by decide)

end TransportConverter.EndToEnd
