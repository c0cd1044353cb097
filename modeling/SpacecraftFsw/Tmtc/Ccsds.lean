import SpacecraftFsw.Octets

/-!
# The CCSDS primary header

`labs/03-tmtc/ccsds.c`: six octets holding seven bit fields, packed and parsed
with explicit shifts and masks.

* `parse_pack` — parsing what was packed returns every field cut down to its own
  width: an out-of-range field never leaks into its neighbour.
* `pack_parse` — every six-octet string is the header of the fields parsed from
  it, so the parser loses nothing.
-/

namespace SpacecraftFsw
namespace Tmtc

/-- `CCSDS_PRI_HDR_LEN`. -/
def ccsdsPriHdrLen : ℕ := 6

/-- `CCSDS_APID_HK`. -/
def ccsdsApidHk : U16 := 0x064

/-- `CCSDS_APID_CMD`. -/
def ccsdsApidCmd : U16 := 0x065

/-- `ccsds_pri_hdr`. -/
structure CcsdsPriHdr where
  /-- 3 bits, always 0 for version-1 space packets. -/
  version : U8
  /-- 1 bit, 0 = TM, 1 = TC. -/
  type : U8
  /-- 1 bit, 1 if a secondary header is present. -/
  secHdrFlag : U8
  /-- 11 bits. -/
  apid : U16
  /-- 2 bits, 3 = standalone unsegmented packet. -/
  seqFlags : U8
  /-- 14 bits, wraps at 16384. -/
  seqCount : U16
  /-- Octets in the data field, minus one. -/
  dataLength : U16
  deriving DecidableEq, Repr

/-- The first header word: version, type, secondary-header flag and APID. -/
def packetId (version type secHdrFlag : U8) (apid : U16) : U16 :=
  ((version &&& 0x7#8).setWidth 16 <<< 13) ||| ((type &&& 0x1#8).setWidth 16 <<< 12) |||
    ((secHdrFlag &&& 0x1#8).setWidth 16 <<< 11) ||| (apid &&& 0x7FF#16)

/-- The second header word: sequence flags and sequence count. -/
def seqControl (seqFlags : U8) (seqCount : U16) : U16 :=
  ((seqFlags &&& 0x3#8).setWidth 16 <<< 14) ||| (seqCount &&& 0x3FFF#16)

/-- `ccsds_pack_primary`: the six octets written to `buf`. -/
def ccsdsPackPrimary (h : CcsdsPriHdr) : Bytes :=
  let w0 := packetId h.version h.type h.secHdrFlag h.apid
  let w1 := seqControl h.seqFlags h.seqCount
  [hi8 w0, lo8 w0, hi8 w1, lo8 w1, hi8 h.dataLength, lo8 h.dataLength]

/-- The fields of a header, read off its three words. -/
def headerOfWords (w0 w1 w2 : U16) : CcsdsPriHdr where
  version := ((w0 >>> 13) &&& 0x7#16).setWidth 8
  type := ((w0 >>> 12) &&& 0x1#16).setWidth 8
  secHdrFlag := ((w0 >>> 11) &&& 0x1#16).setWidth 8
  apid := w0 &&& 0x7FF#16
  seqFlags := ((w1 >>> 14) &&& 0x3#16).setWidth 8
  seqCount := w1 &&& 0x3FFF#16
  dataLength := w2

/-- `ccsds_parse_primary`. -/
def ccsdsParsePrimary (buf : Bytes) : CcsdsPriHdr :=
  headerOfWords (be16 (octet buf 0) (octet buf 1)) (be16 (octet buf 2) (octet buf 3))
    (be16 (octet buf 4) (octet buf 5))

@[simp] theorem length_ccsdsPackPrimary (h : CcsdsPriHdr) :
    (ccsdsPackPrimary h).length = ccsdsPriHdrLen := rfl

/-! ## Bit fields of the header words -/

/-- The four fields come back out of the first word, cut down to their widths. -/
theorem packetId_parts (v t s : U8) (a : U16) :
    ((packetId v t s a >>> 13) &&& 0x7#16).setWidth 8 = v &&& 0x7#8 ∧
      ((packetId v t s a >>> 12) &&& 0x1#16).setWidth 8 = t &&& 0x1#8 ∧
      ((packetId v t s a >>> 11) &&& 0x1#16).setWidth 8 = s &&& 0x1#8 ∧
      packetId v t s a &&& 0x7FF#16 = a &&& 0x7FF#16 := by
  unfold packetId
  refine ⟨?_, ?_, ?_, ?_⟩ <;> ext i hi <;>
    simp only [BitVec.getElem_setWidth, BitVec.getElem_and, BitVec.getElem_or,
      BitVec.getElem_shiftLeft, BitVec.getLsbD_and, BitVec.getLsbD_or, BitVec.getLsbD_shiftLeft,
      BitVec.getLsbD_ushiftRight, BitVec.getLsbD_setWidth] <;>
    interval_cases i <;> simp

theorem seqControl_parts (f : U8) (n : U16) :
    ((seqControl f n >>> 14) &&& 0x3#16).setWidth 8 = f &&& 0x3#8 ∧
      seqControl f n &&& 0x3FFF#16 = n &&& 0x3FFF#16 := by
  unfold seqControl
  refine ⟨?_, ?_⟩ <;> ext i hi <;>
    simp only [BitVec.getElem_setWidth, BitVec.getElem_and, BitVec.getElem_or,
      BitVec.getElem_shiftLeft, BitVec.getLsbD_and, BitVec.getLsbD_or, BitVec.getLsbD_shiftLeft,
      BitVec.getLsbD_ushiftRight, BitVec.getLsbD_setWidth] <;>
    interval_cases i <;> simp

/-- A header word is made of its four fields. -/
theorem packetId_fields (w : U16) :
    packetId (((w >>> 13) &&& 0x7#16).setWidth 8) (((w >>> 12) &&& 0x1#16).setWidth 8)
      (((w >>> 11) &&& 0x1#16).setWidth 8) (w &&& 0x7FF#16) = w := by
  unfold packetId
  ext i hi
  simp only [BitVec.getElem_and, BitVec.getElem_or, BitVec.getElem_shiftLeft,
    BitVec.getElem_setWidth, BitVec.getLsbD_and, BitVec.getLsbD_ushiftRight,
    BitVec.getLsbD_setWidth]
  interval_cases i <;> simp

theorem seqControl_fields (w : U16) :
    seqControl (((w >>> 14) &&& 0x3#16).setWidth 8) (w &&& 0x3FFF#16) = w := by
  unfold seqControl
  ext i hi
  simp only [BitVec.getElem_and, BitVec.getElem_or, BitVec.getElem_shiftLeft,
    BitVec.getElem_setWidth, BitVec.getLsbD_and, BitVec.getLsbD_ushiftRight,
    BitVec.getLsbD_setWidth]
  interval_cases i <;> simp

/-! ## The two round trips -/

/-- The header with every field cut down to the width the packet has for it. -/
def CcsdsPriHdr.masked (h : CcsdsPriHdr) : CcsdsPriHdr where
  version := h.version &&& 0x7#8
  type := h.type &&& 0x1#8
  secHdrFlag := h.secHdrFlag &&& 0x1#8
  apid := h.apid &&& 0x7FF#16
  seqFlags := h.seqFlags &&& 0x3#8
  seqCount := h.seqCount &&& 0x3FFF#16
  dataLength := h.dataLength

/-- Cutting a field down is taking it modulo the values its width has room for. -/
theorem CcsdsPriHdr.masked_eq (h : CcsdsPriHdr) : h.masked =
    { version := h.version % 8, type := h.type % 2, secHdrFlag := h.secHdrFlag % 2
      apid := h.apid % 2048, seqFlags := h.seqFlags % 4, seqCount := h.seqCount % 16384
      dataLength := h.dataLength } := by
  rw [CcsdsPriHdr.masked, CcsdsPriHdr.mk.injEq]
  refine ⟨?_, ?_, ?_, ?_, ?_, ?_, rfl⟩
  · exact and_lowMask h.version (by decide : 3 < 8)
  · exact and_lowMask h.type (by decide : 1 < 8)
  · exact and_lowMask h.secHdrFlag (by decide : 1 < 8)
  · exact and_lowMask h.apid (by decide : 11 < 16)
  · exact and_lowMask h.seqFlags (by decide : 2 < 8)
  · exact and_lowMask h.seqCount (by decide : 14 < 16)

/-- Only the first six octets matter to the parser. -/
theorem ccsdsParsePrimary_append (h : CcsdsPriHdr) (rest : Bytes) :
    ccsdsParsePrimary (ccsdsPackPrimary h ++ rest) = ccsdsParsePrimary (ccsdsPackPrimary h) := rfl

/-- **Parsing inverts packing**, field by field and modulo the field widths. -/
theorem parse_pack (h : CcsdsPriHdr) (rest : Bytes) :
    ccsdsParsePrimary (ccsdsPackPrimary h ++ rest) = h.masked := by
  obtain ⟨hversion, htype, hsec, hapid⟩ := packetId_parts h.version h.type h.secHdrFlag h.apid
  obtain ⟨hflags, hcount⟩ := seqControl_parts h.seqFlags h.seqCount
  rw [ccsdsParsePrimary_append, ccsdsParsePrimary]
  simp only [ccsdsPackPrimary, octet_cons_zero, octet_cons_succ, be16_hi8_lo8, headerOfWords,
    hversion, htype, hsec, hapid, hflags, hcount]
  rfl

/-- **Packing inverts parsing**: no bit of a header is lost. -/
theorem pack_parse {buf : Bytes} (h : ccsdsPriHdrLen ≤ buf.length) :
    ccsdsPackPrimary (ccsdsParsePrimary buf) = buf.take ccsdsPriHdrLen := by
  simp only [ccsdsPriHdrLen] at h
  obtain ⟨a, b, c, d, e, f, rest, rfl⟩ :
      ∃ a b c d e f rest, buf = a :: b :: c :: d :: e :: f :: rest := by
    match buf, h with
    | a :: b :: c :: d :: e :: f :: rest, _ => exact ⟨a, b, c, d, e, f, rest, rfl⟩
  simp only [ccsdsPackPrimary, ccsdsParsePrimary, headerOfWords, packetId_fields,
    seqControl_fields, octet_cons_zero, octet_cons_succ, hi8_be16, lo8_be16]
  rfl

/-- The type field is one bit wide. -/
theorem type_eq_zero_or_one (buf : Bytes) :
    (ccsdsParsePrimary buf).type = 0 ∨ (ccsdsParsePrimary buf).type = 1 := by
  have key : ∀ w : U16, ((w >>> 12) &&& 0x1#16).setWidth 8 = 0#8 ∨
      ((w >>> 12) &&& 0x1#16).setWidth 8 = 1#8 := by
    intro w
    rw [BitVec.and_one_eq_setWidth_ofBool_getLsbD]
    cases (w >>> 12).getLsbD 0
    · exact Or.inl rfl
    · exact Or.inr rfl
  exact key _

end Tmtc
end SpacecraftFsw
