import SpacecraftFsw.Tmtc.Pus
import SpacecraftFsw.Foundation.HkTelemetry

/-!
# The housekeeping report

The payload codec of `labs/03-tmtc/pus.c` and the packet `labs/03-tmtc/main.c`
builds around it.  Floats are their 32-bit patterns.

* `deserialize_serialize`, `serialize_deserialize` — the payload codec loses
  nothing in either direction.
* `buildHkTmPacket_eq` — the packet is an instance of the common envelope.
* `codecs_inverse` — both codecs of the lab, the primary header's with it.
-/

namespace SpacecraftFsw
namespace Tmtc

/-! ## Floats -/

/-- `pack_f32_be`: the four octets written to `buf`. -/
def packF32Be (v : Ieee.Binary32) : Bytes :=
  [(v >>> 24).setWidth 8, (v >>> 16).setWidth 8, (v >>> 8).setWidth 8,
    (v &&& 0xFF#32).setWidth 8]

/-- `unpack_f32_be`. -/
def unpackF32Be (buf : Bytes) : Ieee.Binary32 :=
  ((octet buf 0).setWidth 32 <<< 24) ||| ((octet buf 1).setWidth 32 <<< 16) |||
    ((octet buf 2).setWidth 32 <<< 8) ||| (octet buf 3).setWidth 32

/-- Unpacking reads back the pattern that was packed, whatever follows it. -/
theorem unpack_packF32Be (v : Ieee.Binary32) (rest : Bytes) :
    unpackF32Be (packF32Be v ++ rest) = v := by
  simp only [unpackF32Be, packF32Be, List.cons_append, octet_cons_zero, octet_cons_succ]
  ext i hi
  simp only [BitVec.getElem_or, BitVec.getElem_shiftLeft, BitVec.getElem_setWidth]
  interval_cases i <;> simp

/-- Every four octets are a pattern. -/
theorem pack_unpackF32Be (a b c d : U8) (rest : Bytes) :
    packF32Be (unpackF32Be (a :: b :: c :: d :: rest)) = [a, b, c, d] := by
  simp only [unpackF32Be, packF32Be, octet_cons_zero, octet_cons_succ, List.cons.injEq, and_true]
  refine ⟨?_, ?_, ?_, ?_⟩ <;> ext i hi <;>
    simp only [BitVec.getElem_setWidth, BitVec.getLsbD_ushiftRight, BitVec.getLsbD_and,
      BitVec.getLsbD_or, BitVec.getLsbD_shiftLeft, BitVec.getLsbD_setWidth] <;>
    interval_cases i <;> simp

/-! ## The payload -/

/-- `PUS_HK_PAYLOAD_LEN`. -/
def pusHkPayloadLen : ℕ := 14

/-- The values the serializer takes and the deserializer gives back. -/
structure HkPayload where
  busVoltage : Ieee.Binary32
  batteryPct : U8
  tempObc : Ieee.Binary32
  tempBatt : Ieee.Binary32
  mode : U8
  deriving DecidableEq, Repr

/-- `pus_serialize_hk_payload`: the octets written to `buf`. -/
def pusSerializeHkPayload (v : HkPayload) : Bytes :=
  packF32Be v.busVoltage ++ [v.batteryPct] ++ packF32Be v.tempObc ++ packF32Be v.tempBatt ++
    [v.mode]

/-- `pus_deserialize_hk_payload`. -/
def pusDeserializeHkPayload (buf : Bytes) : HkPayload where
  busVoltage := unpackF32Be buf
  batteryPct := octet buf 4
  tempObc := unpackF32Be (buf.drop 5)
  tempBatt := unpackF32Be (buf.drop 9)
  mode := octet buf 13

@[simp] theorem length_pusSerializeHkPayload (v : HkPayload) :
    (pusSerializeHkPayload v).length = pusHkPayloadLen := rfl

/-- **The deserializer inverts the serializer.** -/
theorem deserialize_serialize (v : HkPayload) :
    pusDeserializeHkPayload (pusSerializeHkPayload v) = v := by
  have hbus := unpack_packF32Be v.busVoltage
    ([v.batteryPct] ++ packF32Be v.tempObc ++ packF32Be v.tempBatt ++ [v.mode])
  have hobc := unpack_packF32Be v.tempObc (packF32Be v.tempBatt ++ [v.mode])
  have hbatt := unpack_packF32Be v.tempBatt [v.mode]
  cases v with
  | mk busVoltage batteryPct tempObc tempBatt mode =>
      rw [pusDeserializeHkPayload, HkPayload.mk.injEq]
      exact ⟨hbus, rfl, hobc, hbatt, rfl⟩

/-- **The serializer inverts the deserializer** on every payload of the right length. -/
theorem serialize_deserialize {buf : Bytes} (h : buf.length = pusHkPayloadLen) :
    pusSerializeHkPayload (pusDeserializeHkPayload buf) = buf := by
  obtain ⟨a, b, c, d, e, f, g, h, i, j, k, l, m, n, rfl⟩ :
      ∃ a b c d e f g h i j k l m n, buf = [a, b, c, d, e, f, g, h, i, j, k, l, m, n] := by
    match buf, h with
    | [a, b, c, d, e, f, g, h, i, j, k, l, m, n], _ =>
        exact ⟨a, b, c, d, e, f, g, h, i, j, k, l, m, n, rfl⟩
  simp only [pusSerializeHkPayload, pusDeserializeHkPayload, List.drop_succ_cons, List.drop_zero,
    pack_unpackF32Be]
  rfl

/-- **Both codecs are inverse to each other's half.**  Packing any six octets'
fields gives the octets back; parsing a packed header gives every field modulo its
width, whatever the others hold; and the payload codec is a bijection between the
values and the 14-octet payloads. -/
theorem codecs_inverse :
    (∀ buf : Bytes, buf.length = ccsdsPriHdrLen →
      ccsdsPackPrimary (ccsdsParsePrimary buf) = buf) ∧
    (∀ h : CcsdsPriHdr, ccsdsParsePrimary (ccsdsPackPrimary h) =
      { version := h.version % 8, type := h.type % 2, secHdrFlag := h.secHdrFlag % 2
        apid := h.apid % 2048, seqFlags := h.seqFlags % 4, seqCount := h.seqCount % 16384
        dataLength := h.dataLength }) ∧
    (∀ v : HkPayload, pusDeserializeHkPayload (pusSerializeHkPayload v) = v) ∧
    ∀ buf : Bytes, buf.length = pusHkPayloadLen →
      pusSerializeHkPayload (pusDeserializeHkPayload buf) = buf := by
  refine ⟨?_, ?_, deserialize_serialize, fun buf => serialize_deserialize⟩
  · intro buf hlen
    rw [pack_parse hlen.ge, ← hlen, List.take_length]
  · intro h
    have hround := parse_pack h []
    rw [List.append_nil] at hround
    rw [hround, CcsdsPriHdr.masked_eq]

/-! ## The packet -/

/-- The values of a state that are reported: the mode as one octet. -/
def hkPayloadOf (s : Foundation.SpacecraftState) : HkPayload where
  busVoltage := s.busVoltage
  batteryPct := s.batteryPct
  tempObc := s.tempObc
  tempBatt := s.tempBatt
  mode := s.mode.setWidth 8

/-- `build_hk_tm_packet`: the octets written to `buf`. -/
def buildHkTmPacket (seqCount : U16) (s : Foundation.SpacecraftState) : Bytes :=
  let pusHdr : PusTmHdr :=
    { pusVersion := pusTmVersion, service := pusServiceHousekeeping, subtype := pusHkSubtype
      counter := seqCount }
  let payload := pusSerializeHkPayload (hkPayloadOf s)
  let dataLen : U16 := BitVec.ofNat 16 (pusTmSecHdrLen + pusHkPayloadLen - 1)
  let priHdr : CcsdsPriHdr :=
    { version := 0, type := 0, secHdrFlag := 1, apid := ccsdsApidHk, seqFlags := 3
      seqCount := seqCount, dataLength := dataLen }
  ccsdsPackPrimary priHdr ++ pusPackSecondary pusHdr ++ payload

theorem buildHkTmPacket_eq (seqCount : U16) (s : Foundation.SpacecraftState) :
    buildHkTmPacket seqCount s =
      tmPacket ccsdsApidHk seqCount pusServiceHousekeeping pusHkSubtype
        (pusSerializeHkPayload (hkPayloadOf s)) := rfl

end Tmtc
end SpacecraftFsw
