import TransportConverter.Client.Intercept
import TransportConverter.Server.Flow
import TransportConverter.Server.Validation

/-! A redirected connection, from `_redirect_connect_tlv` over `handle_connection` and back to
`_read_convert`. -/

namespace TransportConverter.EndToEnd

open Foundations.Memory Foundations.Effects Wire Codec Server
open Client (Library Answers Sockaddr redirectConnectTlv redirectOpts redirectMessage redirectBuf
  cookieTlv toV4mapped readConvert syscallRun syscallSkip)

section Message

variable (scapy : Scapy)

def packet : Tlv → TlvPacket
  | .connect port addr =>
    .connect ⟨⟨0xa, bytesToConvert 20⟩, some (ntohs port), some (scapy.inetNtop addr)⟩
  | .extendedTcpHdr tcpOptions =>
    .convertTlv ⟨⟨0x14, bytesToConvert (Tlv.size (.extendedTcpHdr tcpOptions))⟩, 0⟩
  | .cookie opaqueBytes => .convertTlv ⟨⟨0x16, bytesToConvert (Tlv.size (.cookie opaqueBytes))⟩, 0⟩
  | .error errorCode => .error ⟨⟨0x1e, bytesToConvert 4⟩, errorCode, 0⟩

lemma packet_length (t : Tlv) : (packet scapy t).hdr.length = bytesToConvert t.size := by
  cases t with
  | connect port addr => simp [packet, TlvPacket.hdr, Tlv.size, Tlv.body]
  | extendedTcpHdr _ | cookie _ | error _ => rfl

lemma tlvAt_encodeTlv (t : Tlv) (rest : Bytes) :
    scapy.tlvAt (encodeTlv t ++ rest) = some (packet scapy t) := by
  cases t with
  | connect port addr =>
    obtain ⟨xs, hxs⟩ := port
    obtain ⟨p₀, p₁, rfl⟩ := List.length_eq_two.mp hxs
    have hsize : Tlv.size (.connect ⟨[p₀, p₁], hxs⟩ addr) = 20 := by simp [Tlv.size, Tlv.body]
    have hencode : encodeTlv (.connect ⟨[p₀, p₁], hxs⟩ addr) ++ rest =
        0xa :: bytesToConvert 20 :: p₀ :: p₁ :: (addr.toList ++ rest) := by
      rw [← hsize]
      rfl
    rw [hencode]
    exact tlvAt_connect scapy (bytesToConvert 20) p₀ p₁ addr rest
  | extendedTcpHdr _ | cookie _ | error _ => rfl

lemma walk_encode {ts : List Tlv} (h : areaSize ts ≤ 1020) :
    Walk scapy (ts.flatMap encodeTlv) (some (ts.map (packet scapy))) := by
  induction ts with
  | nil => exact .done
  | cons t ts ih =>
    rw [areaSize_cons] at h
    have hlength : (packet scapy t).hdr.length.toNat * 4 = (encodeTlv t).length := by
      rw [packet_length, encodeTlv_length]
      exact convertToBytes_bytesToConvert (size_mod t) (by omega)
    have hdrop : (encodeTlv t ++ ts.flatMap encodeTlv).drop
        ((packet scapy t).hdr.length.toNat * 4) = ts.flatMap encodeTlv := by
      rw [hlength, List.drop_left]
    have hrest := ih (by omega)
    rw [← hdrop] at hrest
    exact .next (by simp [encodeTlv]) (tlvAt_encodeTlv scapy t _) hrest

variable {cookie : Option Block} {remoteAddr : SockaddrIn6}

lemma secondRecv_redirectMessage (h : (redirectOpts cookie remoteAddr).need ≤ 1020) :
    secondRecv (redirectMessage cookie remoteAddr) =
      (redirectOpts cookie remoteAddr).tlvs.flatMap encodeTlv := by
  have hwords : (bytesToConvert (redirectOpts cookie remoteAddr).need).toNat * 4 =
      (redirectOpts cookie remoteAddr).need := convertToBytes_bytesToConvert (need_mod _) h
  have hsecond : secondRecv (redirectMessage cookie remoteAddr) =
      ((redirectOpts cookie remoteAddr).tlvs.flatMap encodeTlv).take
        ((bytesToConvert (redirectOpts cookie remoteAddr).need).toNat * 4) := rfl
  rw [hsecond, hwords]
  apply List.take_of_length_le
  rw [area_length]
  exact Nat.le_add_left _ _

lemma redirectMessage_reads (h : (redirectOpts cookie remoteAddr).need ≤ 1020) :
    ∃ convert : Convert,
      ReadReturns scapy (.whole (redirectMessage cookie remoteAddr)) (.header convert) ∧
      convert.tlvs = packet scapy (.connect remoteAddr.sin6Port remoteAddr.sin6Addr) ::
        (cookieTlv cookie).map (packet scapy) := by
  have hlength : convertHeaderLength ≤ (redirectMessage cookie remoteAddr).length := by
    rw [Client.redirectMessage_length]
    exact Nat.le_add_right _ _
  obtain ⟨header, -, hreturns⟩ := readReturns_whole scapy hlength
  have hwalk : Walk scapy (secondRecv (redirectMessage cookie remoteAddr))
      (some ((redirectOpts cookie remoteAddr).tlvs.map (packet scapy))) := by
    rw [secondRecv_redirectMessage h]
    exact walk_encode scapy ((Nat.le_add_left _ _).trans h)
  refine ⟨_, (hreturns _).mpr ⟨_, hwalk, rfl⟩, ?_⟩
  rw [Client.redirectOpts_tlvs]
  rfl

end Message

section Handle

variable {client : ℕ} {s : TcServer} {dials : ℕ → Dial} {convert : Convert}
  {tlv : ConvertTlvConnect} {rest : List TlvPacket} {port : ℕ}

/-- A socket is made, the reply is taken whole and the logger starts. Whether the destination answers is
left open. -/
structure Undisturbed (a : Dial) : Prop where
  socket : a.socket.isSome
  reply : ∃ n, a.reply = .accepts n ∧ emptyConvert.length ≤ n
  logger : a.logger = .starts

lemma handleConnection_connect {t : TcServer} (htlvs : convert.tlvs = .connect tlv :: rest)
    (htype : convertTlvs tlv.hdr.type = some .connect) (hidle : ∀ u ∈ rest, ¬ Acts u)
    (h : handleTlvConnect (.connect tlv) client (dials 0) s = .ok () t) :
    handleConnection client (.header convert) dials s = .ok true t := by
  have htype' : convertTlvs (TlvPacket.connect tlv).hdr.type = some .connect := htype
  have hhandled : handleTlvs client convert.tlvs dials s = .ok () t := by
    rw [htlvs, handleTlvs_connect htype', bind_of_ok h]
    exact idle_of_not_acts hidle _
  simp only [handleConnection, hhandled]

lemma cookie_idle (scapy : Scapy) (cookie : Option Block) :
    ∀ u ∈ (cookieTlv cookie).map (packet scapy), ¬ Acts u := by
  have hcookie : convertTlvs 0x16 = some .cookie := rfl
  cases cookie with
  | none => simp [cookieTlv]
  | some cookie => simp [cookieTlv, packet, Acts, TlvPacket.hdr, hcookie]

end Handle

section Reply

variable {a : Answers} {fd : ℤ} {lib : Library}

def Proceeds (reply : Bytes) : Prop :=
  ∀ a lib fd rest, a.header = .all → lib.inbox fd = reply ++ rest →
    ∃ fuel t, readConvert a fuel false fd lib = some (.returns syscallRun t) ∧ t.inbox fd = rest

def GivesUp (reply : Bytes) : Prop :=
  ∀ a lib fd, lib.inbox fd = reply →
    ∃ fuel t, readConvert a fuel false fd lib = some (.returns syscallSkip t)

lemma emptyConvert_proceeds : Proceeds emptyConvert := by
  intro a lib fd rest hall hinbox
  have hlength : emptyConvert.length = 4 := rfl
  have hhdr : a.header.octets (lib.inbox fd) sizeofConvertHeader = some emptyConvert := by
    rw [hall, hinbox]
    rfl
  have hvalid : convertParseHeader emptyConvert = some 0 :=
    parseHeader_message (n := 4) rfl (by decide) le_rfl []
  obtain ⟨fuel, hread⟩ := Client.readConvert_reply (s := lib)
    (⟨hhdr, hvalid, by decide, Or.inl rfl⟩ : Client.ReplyRead a (lib.inbox fd) emptyConvert [])
  refine ⟨fuel, _, hread, ?_⟩
  show (lib.consume fd (4 + 0)).inbox fd = rest
  rw [Client.consume_inbox, hinbox]
  exact List.drop_left' hlength

lemma nothing_givesUp : GivesUp [] := by
  intro a lib fd hinbox
  have hparse : convertParseHeader [] = none := rfl
  refine ⟨0, ?_⟩
  rw [readConvert, hinbox]
  cases a.header with
  | fails => exact ⟨_, rfl⟩
  | upTo k =>
    simp only [Client.Recv.octets, List.take_nil, hparse]
    exact ⟨_, rfl⟩
  | all =>
    simp only [Client.Recv.octets, List.take_nil, hparse]
    exact ⟨_, rfl⟩

end Reply

section Dials

variable {client port : ℕ} {s : TcServer} {convert : Convert} {tlv : ConvertTlvConnect}
  {rest : List TlvPacket}

structure Dialled (s t : TcServer) (client : ℕ) (host : Text) (port : ℕ) (events : List Event)
    (connects : Bool) : Prop where
  log : t.log = s.log ++ events
  dialed : dialed events = [(host, port)]
  replied : connects = true → sentOn client events = emptyConvert
  refused : connects = false → t.fileno client = -1 ∧ sentOn client events = []

lemma handleConnection_dials (dials : ℕ → Dial) (htype : convertTlvs tlv.hdr.type = some .connect)
    (hport : tlv.remotePort = some port) (htlvs : convert.tlvs = .connect tlv :: rest)
    (hidle : ∀ u ∈ rest, ¬ Acts u) (hlt : client < s.nextSock) (hopen : s.fileno client ≠ -1)
    (ha : Undisturbed (dials 0)) :
    ∃ t events, handleConnection client (.header convert) dials s = .ok true t ∧
      Dialled s t client (ipv6ToIpv4 tlv.remoteAddr) port events (dials 0).connects := by
  obtain ⟨fd, hsocket⟩ := Option.isSome_iff_exists.mp ha.socket
  have hne : client ≠ s.nextSock := Nat.ne_of_lt hlt
  cases hconnects : (dials 0).connects with
  | false =>
    have hhandled : handleConnection client (.header convert) dials s = _ :=
      handleConnection_connect htlvs htype hidle (handleTlvConnect_refused hsocket hport hconnects)
    refine ⟨_, [.dialed (ipv6ToIpv4 tlv.remoteAddr) port], hhandled,
      ⟨rfl, rfl, (fun h => by cases h), fun _ => ⟨?_, rfl⟩⟩⟩
    rw [closed_fileno_of_ne hne]
    exact closed_fileno_self
  | true =>
    obtain ⟨n, hreply, hn⟩ := ha.reply
    have hopen' : (s.opened fd).fileno client ≠ -1 := by rwa [opened_fileno_of_lt hlt]
    have hhandled : handleTlvConnect (.connect tlv) client (dials 0) s =
        .ok () ((s.paired fd tlv port client n).withLogger client .starts) := by
      rw [handleTlvConnect_paired hsocket hport hconnects hopen' hreply, ha.logger]
      rfl
    refine ⟨_, [.dialed (ipv6ToIpv4 tlv.remoteAddr) port, .replied client (emptyConvert.take n),
      .registered client s.nextSock], handleConnection_connect htlvs htype hidle hhandled,
      ⟨?_, rfl, fun _ => ?_, (fun h => by cases h)⟩⟩
    · simp [TcServer.paired, TcServer.register, TcServer.record, TcServer.dialling, TcServer.opened]
    · simp [sentOn, List.take_of_length_le hn]

end Dials

def Reaches (scapy : Scapy) (message : Bytes) (host : Text) (port : ℕ) : Prop :=
  ∃ read, ReadReturns scapy (.whole message) read ∧
    ∀ s client dials, client < s.nextSock → s.fileno client ≠ -1 → Undisturbed (dials 0) →
      ∃ t events, handleConnection client read dials s = .ok true t ∧
        t.log = s.log ++ events ∧ dialed events = [(host, port)] ∧
        ((dials 0).connects = true → Proceeds (sentOn client events)) ∧
        ((dials 0).connects = false → t.fileno client = -1 ∧ GivesUp (sentOn client events))

theorem redirect_reaches (scapy : Scapy) (hmapped : scapy.PrintsMapped) (cookie : Option Block)
    (buf : Block) (sinPort : Octets 2) (a b c d : UInt8) (w : WriteResult)
    (hw : redirectConnectTlv cookie buf (.inet sinPort ⟨[a, b, c, d], rfl⟩) = some w)
    (h0 : 0 ≤ w.ret) (hn : w.ret ≤ 1020) :
    Reaches scapy (w.buff.take w.ret.toNat) (dottedQuad a b c d) (ntohs sinPort) := by
  obtain ⟨remoteAddr, haddr, hret, hmessage⟩ := Client.redirectConnectTlv_message hw h0
  obtain rfl : remoteAddr = ⟨sinPort, v4mapped a b c d⟩ := (Option.some.inj haddr).symm
  have hneed : (redirectOpts cookie ⟨sinPort, v4mapped a b c d⟩).need ≤ 1020 := by omega
  obtain ⟨convert, hread, htlvs⟩ := redirectMessage_reads scapy hneed
  have hhost : ipv6ToIpv4 (some (scapy.inetNtop (v4mapped a b c d))) = dottedQuad a b c d := by
    rw [hmapped]
    exact ipv6ToIpv4_of_behind (colon_not_mem_dottedQuad a b c d)
  rw [hmessage]
  refine ⟨_, hread, fun s client dials hlt hopen ha => ?_⟩
  obtain ⟨t, events, hhandled, hdialled⟩ :=
    handleConnection_dials dials rfl rfl htlvs (cookie_idle scapy cookie) hlt hopen ha
  refine ⟨t, events, hhandled, hdialled.log, ?_, fun hconnects => ?_, fun hconnects => ?_⟩
  · rw [hdialled.dialed, hhost]
  · rw [hdialled.replied hconnects]
    exact emptyConvert_proceeds
  · obtain ⟨hclosed, hnothing⟩ := hdialled.refused hconnects
    rw [hnothing]
    exact ⟨hclosed, nothing_givesUp⟩

theorem redirect_reaches_cookie : ∃ w,
    redirectConnectTlv (some ⟨[0x61, 0x62], by decide⟩) redirectBuf
      (.inet ⟨[0x1f, 0x90], rfl⟩ ⟨[192, 0, 2, 1], rfl⟩) = some w ∧ w.ret = 32 ∧
      Reaches strictScapy (w.buff.take w.ret.toNat) (dottedQuad 192 0 2 1) 8080 := by
  obtain ⟨cookie, hcookie⟩ : ∃ cookie : Block, cookie = ⟨[0x61, 0x62], by decide⟩ := ⟨_, rfl⟩
  have hsize : cookie.size = 2 := by rw [hcookie]; rfl
  have hbuf : redirectBuf.size = 1024 := zeros_length 1024
  rw [← hcookie]
  obtain ⟨addr, haddr⟩ : ∃ addr : Sockaddr,
      addr = .inet ⟨[0x1f, 0x90], rfl⟩ ⟨[192, 0, 2, 1], rfl⟩ := ⟨_, rfl⟩
  obtain ⟨remoteAddr, hremote⟩ : ∃ r, addr.remoteAddr = some r := by
    rw [haddr]
    exact ⟨_, rfl⟩
  have hneed : (redirectOpts (some cookie) remoteAddr).need = 32 := by
    rw [Client.redirectOpts_need, Client.cookie_size, hsize]
    rfl
  have hwrite := convertWrite_spec redirectBuf (redirectOpts (some cookie) remoteAddr)
  rw [hneed, if_pos ⟨Client.redirectOpts_supported _ _, by omega⟩] at hwrite
  have hw : redirectConnectTlv (some cookie) redirectBuf addr = _ :=
    Client.redirectConnectTlv_eq hremote
  rw [hwrite, Option.map_some, if_neg (by simp)] at hw
  rw [haddr] at hw
  exact ⟨_, hw, rfl, redirect_reaches strictScapy strictScapy_printsMapped _ _ _ _ _ _ _ _ hw
    (by simp) (by simp)⟩

end TransportConverter.EndToEnd
