import SpacecraftFsw.Tmtc.Ccsds

/-!
# The PUS telemetry envelope

`labs/03-tmtc/pus.c` packs the five-octet PUS secondary header; every telemetry
builder of the repository puts it behind a CCSDS primary header and the report's
own data behind both.  `tmPacket` names that common shape, so that each builder
is related to it once and the facts the router and the ground rely on
(`tmPacket_header`, `length_tmPacket`, `tmPacket_service`, `tmPacket_data`) are
proved once.
-/

namespace SpacecraftFsw
namespace Tmtc

/-- `PUS_SERVICE_HOUSEKEEPING`. -/
def pusServiceHousekeeping : U8 := 3

/-- `PUS_HK_SUBTYPE`. -/
def pusHkSubtype : U8 := 25

/-- `PUS_TM_VERSION`. -/
def pusTmVersion : U8 := 0x20

/-- `PUS_TM_SEC_HDR_LEN`. -/
def pusTmSecHdrLen : ℕ := 5

/-- `pus_tm_hdr`. -/
structure PusTmHdr where
  pusVersion : U8
  service : U8
  subtype : U8
  counter : U16
  deriving DecidableEq, Repr

/-- `pus_pack_secondary`: the five octets written to `buf`. -/
def pusPackSecondary (h : PusTmHdr) : Bytes :=
  [h.pusVersion, h.service, h.subtype, hi8 h.counter, lo8 h.counter]

/-! ## Telemetry packets -/

/-- The primary header of a telemetry packet carrying `n` octets after its
secondary header. -/
def tmPrimary (apid seq : U16) (n : ℕ) : CcsdsPriHdr where
  version := 0
  type := 0
  secHdrFlag := 1
  apid := apid
  seqFlags := 3
  seqCount := seq
  dataLength := BitVec.ofNat 16 (pusTmSecHdrLen + n - 1)

/-- The secondary header of a telemetry packet: the message counter repeats the
sequence count. -/
def tmSecondary (seq : U16) (service subtype : U8) : PusTmHdr where
  pusVersion := pusTmVersion
  service := service
  subtype := subtype
  counter := seq

/-- A telemetry packet: primary header, secondary header, data. -/
def tmPacket (apid seq : U16) (service subtype : U8) (data : Bytes) : Bytes :=
  ccsdsPackPrimary (tmPrimary apid seq data.length) ++
    pusPackSecondary (tmSecondary seq service subtype) ++ data

/-- The sequence count after `seq`: counts are 14 bits wide. -/
def seqNext (seq : U16) : U16 := (seq + 1) % 16384

@[simp] theorem length_tmPacket (apid seq : U16) (service subtype : U8) (data : Bytes) :
    (tmPacket apid seq service subtype data).length = 11 + data.length := by
  simp only [tmPacket, List.length_append, length_ccsdsPackPrimary, pusPackSecondary,
    List.length_cons, List.length_nil, ccsdsPriHdrLen]

theorem tmPacket_header (apid seq : U16) (service subtype : U8) (data : Bytes) :
    ccsdsParsePrimary (tmPacket apid seq service subtype data)
      = (tmPrimary apid seq data.length).masked := by
  rw [tmPacket, List.append_assoc, parse_pack]

/-- The type bit of a telemetry packet is clear. -/
@[simp] theorem tmPacket_type (apid seq : U16) (service subtype : U8) (data : Bytes) :
    (ccsdsParsePrimary (tmPacket apid seq service subtype data)).type = 0 := by
  rw [tmPacket_header]
  simp [CcsdsPriHdr.masked, tmPrimary]

@[simp] theorem tmPacket_apid (apid seq : U16) (service subtype : U8) (data : Bytes) :
    (ccsdsParsePrimary (tmPacket apid seq service subtype data)).apid = apid &&& 0x7FF#16 := by
  rw [tmPacket_header]; rfl

@[simp] theorem tmPacket_seqCount (apid seq : U16) (service subtype : U8) (data : Bytes) :
    (ccsdsParsePrimary (tmPacket apid seq service subtype data)).seqCount = seq &&& 0x3FFF#16 := by
  rw [tmPacket_header]; rfl

/-- **Telemetry is length-consistent**: the length field of a packet that fits
the 16-bit field is the one the router computes from the bytes. -/
theorem tmPacket_dataLength (apid seq : U16) (service subtype : U8) {data : Bytes}
    (h : data.length ≤ 65531) :
    (ccsdsParsePrimary (tmPacket apid seq service subtype data)).dataLength.toNat + 1
      + ccsdsPriHdrLen = (tmPacket apid seq service subtype data).length := by
  rw [tmPacket_header, length_tmPacket]
  simp only [CcsdsPriHdr.masked, tmPrimary, pusTmSecHdrLen, ccsdsPriHdrLen, BitVec.toNat_ofNat]
  omega

@[simp] theorem tmPacket_service (apid seq : U16) (service subtype : U8) (data : Bytes) :
    octet (tmPacket apid seq service subtype data) 7 = service := rfl

@[simp] theorem tmPacket_subtype (apid seq : U16) (service subtype : U8) (data : Bytes) :
    octet (tmPacket apid seq service subtype data) 8 = subtype := rfl

@[simp] theorem tmPacket_data (apid seq : U16) (service subtype : U8) (data : Bytes) :
    (tmPacket apid seq service subtype data).drop 11 = data := rfl

/-- The message counter of a telemetry packet, in full. -/
@[simp] theorem tmPacket_counter (apid seq : U16) (service subtype : U8) (data : Bytes) :
    be16 (octet (tmPacket apid seq service subtype data) 9)
      (octet (tmPacket apid seq service subtype data) 10) = seq :=
  be16_hi8_lo8 seq

/-! ## The 14-bit counter -/

theorem seqMask (seq : U16) : seq &&& 0x3FFF#16 = seq % 16384 :=
  and_lowMask seq (by decide : 14 < 16)

theorem seqMask_toNat (seq : U16) : (seq &&& 0x3FFF#16).toNat = seq.toNat % 16384 := by
  rw [seqMask, BitVec.toNat_umod]
  rfl

theorem seqMask_of_lt {seq : U16} (h : seq.toNat < 16384) : seq &&& 0x3FFF#16 = seq := by
  apply BitVec.eq_of_toNat_eq
  rw [seqMask_toNat, Nat.mod_eq_of_lt h]

theorem seqMask_idem (seq : U16) : seq &&& 0x3FFF#16 &&& 0x3FFF#16 = seq &&& 0x3FFF#16 := by
  rw [BitVec.and_assoc, BitVec.and_self]

theorem seqNext_toNat (seq : U16) : (seqNext seq).toNat = (seq.toNat + 1) % 16384 := by
  rw [seqNext, BitVec.toNat_umod, BitVec.toNat_add]
  change (seq.toNat + 1) % 65536 % 16384 = _
  omega

end Tmtc
end SpacecraftFsw
