import TransportConverter.Codec.Acceptance
import TransportConverter.Server.ReadHeader

/-! The parser of the client library and the loop of `read_convert_header`, on the same octets. -/

namespace TransportConverter.EndToEnd

open Foundations.Memory Foundations.Loops Foundations.Records Wire Codec Server

structure Reading where
  octets : Bytes
  tlv : Tlv
  packet : TlvPacket

def consumed (rs : List Reading) : Bytes := (rs.map Reading.octets).flatten

variable (scapy : Scapy)

def SameFields : Tlv → TlvPacket → Prop
  | .connect port addr, .connect c =>
    c.remotePort = some (ntohs port) ∧ c.remoteAddr = some (scapy.inetNtop addr)
  | .error errorCode, .error e => e.errorCode = errorCode
  | .extendedTcpHdr _, .convertTlv _ | .cookie _, .convertTlv _ => True
  | _, _ => False

structure Reading.Agrees (r : Reading) : Prop where
  isTlv : IsTlv r.octets
  read : readTlv r.octets = some r.tlv
  type : r.packet.hdr.type = typeOctet r.octets
  length : r.packet.hdr.length = lengthOctet r.octets
  fields : SameFields scapy r.tlv r.packet

/-- The two loops take their turns together, from the first octet to the last. -/
structure InStep (malloc : Allocator) (buff : Block) (opts : ConvertOpts) (rs : List Reading) : Prop where
  whole : consumed rs = buff.bytes
  agrees : ∀ r ∈ rs, r.Agrees scapy
  parser : ∀ before after, rs = before ++ after →
    ∃ c, turns (parseBody malloc buff.bytes) before.length (.start buff) = some c ∧
      c.pos = (consumed before).length ∧
      c.opts = (before.map Reading.tlv).foldl ConvertOpts.assign .zero
  server : ∀ before after, rs = before ++ after →
    turns (tlvBody scapy buff.bytes) before.length ⟨0, []⟩ =
      some ⟨(consumed before).length, before.map Reading.packet⟩
  parsed : opts = (rs.map Reading.tlv).foldl ConvertOpts.assign .zero
  returns : Returns (tlvBody scapy buff.bytes) ⟨0, []⟩ (some (rs.map Reading.packet))

section Turn

variable {malloc : Allocator} {front rest area f : Bytes} {t : Tlv} {ts : List Tlv} {c : Cursor}

lemma consumed_cons (r : Reading) (rs : List Reading) : consumed (r :: rs) = r.octets ++ consumed rs := rfl

/-- Scapy sees more octets than the parser, and reads the same fields in them. -/
lemma tlvAt_agrees (scapy : Scapy) (hf : tlvFormat.IsRecord f) (ht : readTlv f = some t) (rest : Bytes) :
    ∃ packet, scapy.tlvAt (f ++ rest) = some packet ∧ Reading.Agrees scapy ⟨f, t, packet⟩ := by
  have htlv : IsTlv f := (isTlv_iff f).mpr ⟨hf, t, ht⟩
  obtain ⟨type, length, b₂, b₃, body, rfl⟩ := four_octets hf.1
  have hread := ht
  simp only [readTlv] at ht
  split at ht
  · rename_i he
    obtain rfl := Option.some.inj ht
    subst he
    exact ⟨_, rfl, htlv, hread, rfl, rfl, rfl⟩
  split at ht
  · rename_i hcon
    split at ht
    · rename_i h16
      obtain rfl := Option.some.inj ht
      subst hcon
      exact ⟨_, tlvAt_connect scapy length b₂ b₃ ⟨body, h16⟩ rest, htlv, hread, rfl, rfl, rfl, rfl⟩
    · cases ht
  split at ht
  · rename_i hx
    obtain rfl := Option.some.inj ht
    subst hx
    exact ⟨_, rfl, htlv, hread, rfl, rfl, trivial⟩
  split at ht
  · rename_i hk
    obtain rfl := Option.some.inj ht
    subst hk
    exact ⟨_, rfl, htlv, hread, rfl, rfl, trivial⟩
  · cases ht

lemma tlvBody_record (scapy : Scapy) (hf : tlvFormat.IsRecord f) (ht : readTlv f = some t)
    (front rest : Bytes) (tlvs : List TlvPacket) :
    ∃ packet, Reading.Agrees scapy ⟨f, t, packet⟩ ∧
      tlvBody scapy (front ++ (f ++ rest)) ⟨front.length, tlvs⟩ =
        .again ⟨(front ++ f).length, tlvs ++ [packet]⟩ := by
  obtain ⟨packet, hpacket, hagrees⟩ := tlvAt_agrees scapy hf ht rest
  have hsize : packet.hdr.length.toNat * 4 = f.length := by
    have hlength : packet.hdr.length = lengthOctet f := hagrees.length
    rw [hlength]
    exact hf.2
  have h4 : 4 ≤ f.length := hf.1
  refine ⟨packet, hagrees, ?_⟩
  rw [List.length_append, ← hsize]
  apply tlvBody_next
  · simp only [List.length_append]
    omega
  · rw [List.drop_left]
    exact hpacket

lemma inStep_of_area (scapy : Scapy) (h : TlvArea area ts) (hc : c.At front area)
    (hgrants : malloc.GrantsTlvs c.mallocs ts) (tlvs : List TlvPacket) :
    ∃ rs : List Reading, consumed rs = area ∧ rs.map Reading.tlv = ts ∧ (∀ r ∈ rs, r.Agrees scapy) ∧
      ∀ before after, rs = before ++ after →
        (∃ c', turns (parseBody malloc (front ++ area)) before.length c = some c' ∧
          c'.pos = (front ++ consumed before).length ∧
          c'.opts = (before.map Reading.tlv).foldl ConvertOpts.assign c.opts) ∧
        turns (tlvBody scapy (front ++ area)) before.length ⟨front.length, tlvs⟩ =
          some ⟨(front ++ consumed before).length, tlvs ++ before.map Reading.packet⟩ := by
  induction h generalizing front c tlvs with
  | nil =>
    refine ⟨[], rfl, rfl, by simp, fun before after hsplit => ?_⟩
    obtain ⟨rfl, rfl⟩ := List.append_eq_nil_iff.mp hsplit.symm
    exact ⟨⟨c, rfl, by simp [hc.pos, consumed], rfl⟩, by simp [turns, consumed]⟩
  | @cons f rest t ts hf ht hrest ih =>
    obtain ⟨c', hb, hopts, hmallocs, hc'⟩ := parseBody_isRecord hc hf ht hgrants.1
    obtain ⟨packet, hagrees, hserver⟩ := tlvBody_record scapy hf ht front rest tlvs
    obtain ⟨rs, hwhole, hts, hrs, hsteps⟩ := ih hc' (hmallocs ▸ hgrants.2) (tlvs ++ [packet])
    refine ⟨⟨f, t, packet⟩ :: rs, by rw [consumed_cons, hwhole], by rw [List.map_cons, hts], ?_, ?_⟩
    · simpa using ⟨hagrees, hrs⟩
    · intro before after hsplit
      cases before with
      | nil => exact ⟨⟨c, rfl, by simp [hc.pos, consumed], rfl⟩, by simp [turns, consumed]⟩
      | cons r before =>
        obtain ⟨rfl, hsplit'⟩ := List.cons.inj hsplit
        obtain ⟨⟨c'', hturns, hpos, hfold⟩, hloop⟩ := hsteps before after hsplit'
        rw [List.append_assoc] at hturns hloop
        refine ⟨⟨c'', ?_, ?_, ?_⟩, ?_⟩
        · rw [List.length_cons, turns_again hb, hturns]
        · rw [hpos, consumed_cons, List.append_assoc]
        · rw [hfold, hopts]
          rfl
        · rw [List.length_cons, turns_again hserver, hloop, consumed_cons]
          simp

end Turn

theorem readLoop_inStep (scapy : Scapy) (malloc : Allocator) (buff : Block) (opts : ConvertOpts)
    (h : ParseReturns malloc buff (.opts opts)) : ∃ rs, InStep scapy malloc buff opts rs := by
  obtain ⟨-, -, ts, hts, hgrants, rfl⟩ := area_of_opts h
  obtain ⟨rs, hwhole, rfl, hrs, hsteps⟩ :=
    inStep_of_area scapy hts (cursor_start buff) hgrants []
  simp only [List.nil_append, List.length_nil] at hsteps
  have hserver := fun before after hsplit => (hsteps before after hsplit).2
  have hend : Returns (tlvBody scapy buff.bytes) ⟨(consumed rs).length, rs.map Reading.packet⟩
      (some (rs.map Reading.packet)) := .done (tlvBody_end (by rw [hwhole]))
  exact ⟨rs, hwhole, hrs, fun before after hsplit => (hsteps before after hsplit).1, hserver, rfl,
    hend.of_turns (hserver rs [] (List.append_nil rs).symm)⟩

def connectAndError : Block :=
  ⟨[0xa, 5, 0x1f, 0x90] ++ (v4mapped 10 0 0 1).toList ++ [0x1e, 1, 7, 0], by decide⟩

theorem readLoop_inStep_connectAndError : ∃ rs, InStep strictScapy grantingMalloc connectAndError
    ((ConvertOpts.zero.setConnect ⟨[0x1f, 0x90], rfl⟩ (v4mapped 10 0 0 1)).setError 7) rs :=
  readLoop_inStep strictScapy grantingMalloc connectAndError _ ⟨3, by decide⟩

end TransportConverter.EndToEnd
