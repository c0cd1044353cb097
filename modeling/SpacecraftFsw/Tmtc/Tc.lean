import SpacecraftFsw.Lib.Crc
import SpacecraftFsw.Tmtc.Ccsds

/-!
# Telecommand packets: checksum, parser and builder

`labs/03-tmtc/tc.c`.  A telecommand is a primary header, a five-octet PUS
secondary header, application data and a two-octet CRC over everything before
it.

* `tcCrc16_eq_run` — the octet-wise loop of `tc_crc16` is the shift register of
  `Crc` fed with the bits in transmission order.
* `tcParse_ok_iff` — the parser accepts exactly the packets of `WellFormedTc`,
  and returns their fields; every later proof about accepted packets starts
  here.
* `tcParse_tcBuild` and `tcBuild_tcParse` — building then parsing, and parsing
  then building, change nothing; `tcCodec_exact` puts the two together.
-/

namespace SpacecraftFsw
namespace Tmtc

/-! ## Constants and results -/

/-- `PUS_TC_VERSION`. -/
def pusTcVersion : U8 := 2

/-- `PUS_TC_SEC_HDR_LEN`. -/
def pusTcSecHdrLen : ℕ := 5

/-- `TC_PEC_LEN`. -/
def tcPecLen : ℕ := 2

/-- `TC_MIN_PACKET_LEN`. -/
def tcMinPacketLen : ℕ := ccsdsPriHdrLen + pusTcSecHdrLen + tcPecLen

/-- `TC_MAX_PACKET_LEN`. -/
def tcMaxPacketLen : ℕ := 256

/-- `pus_tc_hdr`. -/
structure PusTcHdr where
  /-- 4 bits: accept | start | progress | complete. -/
  ackFlags : U8
  service : U8
  subtype : U8
  sourceId : U16
  deriving DecidableEq, Repr

/-- The `TC_ERR_*` codes of `tc_parse`. -/
inductive TcError
  | arg
  | tooShort
  | tooLong
  | length
  | crc
  | type
  | apid
  | pusVersion
  deriving DecidableEq, Repr

/-- What `tc_parse` fills in on `TC_OK`. -/
structure TcParsed where
  pri : CcsdsPriHdr
  tc : PusTcHdr
  appData : Bytes
  deriving DecidableEq, Repr

/-! ## The checksum -/

/-- One round of the inner loop of `tc_crc16`. -/
def crcRound (crc : U16) : U16 :=
  if crc &&& 0x8000#16 ≠ 0 then (crc <<< 1) ^^^ 0x1021#16 else crc <<< 1

/-- The body of the outer loop: one octet in, eight rounds. -/
def crcOctet (crc : U16) (b : U8) : U16 := crcRound^[8] (crc ^^^ (b.setWidth 16 <<< 8))

/-- `tc_crc16`, over a whole buffer. -/
def tcCrc16 (buf : Bytes) : U16 := buf.foldl crcOctet 0xFFFF#16

/-- The generator `x ^ 16 + x ^ 12 + x ^ 5 + 1`, without its leading term. -/
def ccitt : U16 := 0x1021#16

theorem crcRound_eq_shift (crc : U16) : crcRound crc = Crc.shift ccitt crc := by
  have hmask : crc &&& 0x8000#16 = if crc.getLsbD 15 then 0x8000#16 else 0#16 :=
    BitVec.and_twoPow crc 15
  rw [crcRound, Crc.shift, hmask, BitVec.msb_eq_getLsbD_last]
  cases crc.getLsbD 15 <;> rfl

/-- An octet enters the register at the top. -/
theorem pack_bits : ∀ b : U8, Crc.pack 16 (bits b) = b.setWidth 16 <<< 8 := by
  decide +kernel

theorem crcOctet_eq_run (crc : U16) (b : U8) : crcOctet crc b = Crc.run ccitt crc (bits b) := by
  rw [Crc.run_eq_iterate ccitt crc (by simp), pack_bits, length_bits, crcOctet,
    funext crcRound_eq_shift]

/-- **The checksum is the shift register** over the bits in transmission order. -/
theorem foldl_crcOctet (crc : U16) (buf : Bytes) :
    buf.foldl crcOctet crc = Crc.run ccitt crc (octetBits buf) := by
  induction buf generalizing crc with
  | nil => rfl
  | cons b buf ih => rw [List.foldl_cons, ih, octetBits_cons, Crc.run_append, crcOctet_eq_run]

theorem tcCrc16_eq_run (buf : Bytes) : tcCrc16 buf = Crc.run ccitt 0xFFFF#16 (octetBits buf) :=
  foldl_crcOctet _ _

/-- Two octets fill the register. -/
theorem pack_bits_two (hi lo : U8) : Crc.pack 16 (bits hi ++ bits lo) = be16 hi lo := by
  rw [Crc.pack_append, pack_bits, pack_bits, length_bits]
  unfold be16
  ext i hi
  simp only [BitVec.getElem_xor, BitVec.getElem_or, BitVec.getElem_shiftLeft,
    BitVec.getElem_ushiftRight, BitVec.getElem_setWidth, BitVec.getLsbD_shiftLeft,
    BitVec.getLsbD_setWidth]
  interval_cases i <;> simp

/-- **A packet that carries its own checksum leaves the register empty.** -/
theorem tcCrc16_append (buf : Bytes) (hi lo : U8) :
    tcCrc16 (buf ++ [hi, lo]) = 0#16 ↔ tcCrc16 buf = be16 hi lo := by
  have hbits : octetBits [hi, lo] = bits hi ++ bits lo := by simp
  rw [tcCrc16, List.foldl_append, ← tcCrc16, foldl_crcOctet, hbits,
    Crc.run_eq_iterate ccitt _ (by simp), pack_bits_two]
  constructor
  · intro h
    by_contra hne
    refine Crc.iterate_shift_ne_zero ccitt (by decide) _ ?_ h
    rwa [ne_eq, BitVec.xor_eq_zero_iff]
  · intro h
    rw [h, BitVec.xor_self, Crc.iterate_shift_zero]

/-! ## The parser -/

/-- The fields `tc_parse` reads out of a packet it accepts. -/
def tcFields (buf : Bytes) : TcParsed where
  pri := ccsdsParsePrimary buf
  tc :=
    { ackFlags := octet buf 6 &&& 0x0F#8
      service := octet buf 7
      subtype := octet buf 8
      sourceId := be16 (octet buf 9) (octet buf 10) }
  appData := (buf.drop (ccsdsPriHdrLen + pusTcSecHdrLen)).take (buf.length - tcMinPacketLen)

/-- `tc_parse`; `none` is a null `buf`. -/
def tcParse : Option Bytes → Except TcError TcParsed
  | none => .error .arg
  | some buf =>
    let len := buf.length
    -- 1. size sanity, before a single field is read
    if len < tcMinPacketLen then .error .tooShort
    else if len > tcMaxPacketLen then .error .tooLong
    else
      -- 2. length consistency
      let h := ccsdsParsePrimary buf
      if h.dataLength.toNat + 1 + ccsdsPriHdrLen ≠ len then .error .length
      else
        -- 3. integrity, before anything else in the packet is trusted
        let rxCrc := be16 (octet buf (len - 2)) (octet buf (len - 1))
        if tcCrc16 (buf.take (len - tcPecLen)) ≠ rxCrc then .error .crc
        -- 4. primary-header fields
        else if h.version ≠ 0 ∨ h.type ≠ 1 ∨ h.secHdrFlag ≠ 1 ∨ h.seqFlags ≠ 3 then .error .type
        else if h.apid ≠ ccsdsApidCmd then .error .apid
        -- 5. PUS secondary header
        else if octet buf ccsdsPriHdrLen >>> 4 ≠ pusTcVersion then .error .pusVersion
        else .ok (tcFields buf)

/-- What `tc_parse` demands of a packet, check by check. -/
structure WellFormedTc (buf : Bytes) : Prop where
  min_len : tcMinPacketLen ≤ buf.length
  max_len : buf.length ≤ tcMaxPacketLen
  data_length : (ccsdsParsePrimary buf).dataLength.toNat + 1 + ccsdsPriHdrLen = buf.length
  crc : tcCrc16 (buf.take (buf.length - tcPecLen))
    = be16 (octet buf (buf.length - 2)) (octet buf (buf.length - 1))
  version : (ccsdsParsePrimary buf).version = 0
  type : (ccsdsParsePrimary buf).type = 1
  sec_hdr_flag : (ccsdsParsePrimary buf).secHdrFlag = 1
  seq_flags : (ccsdsParsePrimary buf).seqFlags = 3
  apid : (ccsdsParsePrimary buf).apid = ccsdsApidCmd
  pus_version : octet buf ccsdsPriHdrLen >>> 4 = pusTcVersion

/-- **What the parser accepts**: exactly the well-formed packets, with their
fields. -/
theorem tcParse_ok_iff {buf : Bytes} {p : TcParsed} :
    tcParse (some buf) = .ok p ↔ WellFormedTc buf ∧ p = tcFields buf := by
  constructor
  · intro h
    simp only [tcParse] at h
    split at h; · simp at h
    split at h; · simp at h
    split at h; · simp at h
    split at h; · simp at h
    split at h; · simp at h
    split at h; · simp at h
    split at h; · simp at h
    rename_i hmin hmax hlen hcrc htype hapid hver
    simp only [not_or, ne_eq, not_not] at hlen hcrc htype hapid hver
    exact ⟨⟨by omega, by omega, hlen, hcrc, htype.1, htype.2.1, htype.2.2.1, htype.2.2.2, hapid,
      hver⟩, (Except.ok.inj h).symm⟩
  · rintro ⟨h, rfl⟩
    have hmin := h.min_len
    have hmax := h.max_len
    simp only [tcParse, h.data_length, h.crc, h.version, h.type, h.sec_hdr_flag, h.seq_flags,
      h.apid, h.pus_version, ne_eq, not_true_eq_false, or_self, if_false]
    rw [if_neg (by omega), if_neg (by omega)]

@[simp] theorem tcParse_none : tcParse none = .error .arg := rfl

theorem wellFormedTc_of_ok {buf : Bytes} {p : TcParsed} (h : tcParse (some buf) = .ok p) :
    WellFormedTc buf := (tcParse_ok_iff.1 h).1

/-- The register ends at zero exactly if the last two octets are the checksum of the
others. -/
theorem tcCrc16_eq_zero_iff {buf : Bytes} (h : 2 ≤ buf.length) :
    tcCrc16 buf = 0#16 ↔ tcCrc16 (buf.take (buf.length - tcPecLen)) =
      be16 (octet buf (buf.length - 2)) (octet buf (buf.length - 1)) := by
  have hsplit : buf = buf.take (buf.length - tcPecLen)
      ++ [octet buf (buf.length - 2), octet buf (buf.length - 1)] := by
    conv_lhs => rw [← List.take_append_drop (buf.length - tcPecLen) buf]
    congr 1
    rw [tcPecLen, ← cons_octet_drop (by omega), show buf.length - 2 + 1 = buf.length - 1 by omega,
      ← cons_octet_drop (by omega), show buf.length - 1 + 1 = buf.length by omega,
      List.drop_length]
  conv_lhs => rw [hsplit]
  exact tcCrc16_append _ _ _

/-- An accepted packet leaves the checksum register empty. -/
theorem WellFormedTc.tcCrc16_eq_zero {buf : Bytes} (h : WellFormedTc buf) : tcCrc16 buf = 0#16 := by
  have hmin := h.min_len
  simp only [tcMinPacketLen, ccsdsPriHdrLen, pusTcSecHdrLen, tcPecLen] at hmin
  exact (tcCrc16_eq_zero_iff (by omega)).2 h.crc

/-! ## The builder -/

/-- The primary header `tc_build` packs for a packet of `total` octets. -/
def tcPrimary (seqCount : U16) (total : Size) : CcsdsPriHdr where
  version := 0
  type := 1
  secHdrFlag := 1
  apid := ccsdsApidCmd
  seqFlags := 3
  seqCount := seqCount &&& 0x3FFF#16
  dataLength := (total - 6#64 - 1#64).setWidth 16

/-- `tc_build`; `none` is the return value 0.  Lengths are `size_t`. -/
def tcBuild (seqCount : U16) (tc : PusTcHdr) (appData : Bytes) : Option Bytes :=
  let total : Size := BitVec.ofNat 64 tcMinPacketLen + BitVec.ofNat 64 appData.length
  if total > BitVec.ofNat 64 tcMaxPacketLen then none
  else
    let head := ccsdsPackPrimary (tcPrimary seqCount total) ++
      [(pusTcVersion <<< 4) ||| (tc.ackFlags &&& 0x0F#8), tc.service, tc.subtype,
        hi8 tc.sourceId, lo8 tc.sourceId] ++ appData
    let crc := tcCrc16 head
    some (head ++ [hi8 crc, lo8 crc])

/-- Application data the builder takes: up to 243 octets. -/
def tcMaxAppLen : ℕ := tcMaxPacketLen - tcMinPacketLen

/-- The octets before the checksum of a packet built from `appData`. -/
def tcHead (seqCount : U16) (tc : PusTcHdr) (appData : Bytes) : Bytes :=
  ccsdsPackPrimary
      (tcPrimary seqCount (BitVec.ofNat 64 tcMinPacketLen + BitVec.ofNat 64 appData.length)) ++
    [(pusTcVersion <<< 4) ||| (tc.ackFlags &&& 0x0F#8), tc.service, tc.subtype,
      hi8 tc.sourceId, lo8 tc.sourceId] ++ appData

theorem tcBuild_eq_some (seqCount : U16) (tc : PusTcHdr) {appData : Bytes}
    (h : appData.length ≤ tcMaxAppLen) :
    tcBuild seqCount tc appData = some (tcHead seqCount tc appData ++
      [hi8 (tcCrc16 (tcHead seqCount tc appData)), lo8 (tcCrc16 (tcHead seqCount tc appData))]) := by
  have hfit : ¬ BitVec.ofNat 64 tcMinPacketLen + BitVec.ofNat 64 appData.length
      > BitVec.ofNat 64 tcMaxPacketLen := by
    simp only [tcMaxAppLen, tcMinPacketLen, tcMaxPacketLen, ccsdsPriHdrLen, pusTcSecHdrLen,
      tcPecLen, gt_iff_lt, BitVec.lt_def, BitVec.toNat_add, BitVec.toNat_ofNat] at h ⊢
    omega
  rw [tcBuild]
  simp only [hfit, if_false]
  rfl

@[simp] theorem length_tcHead (seqCount : U16) (tc : PusTcHdr) (appData : Bytes) :
    (tcHead seqCount tc appData).length = 11 + appData.length := by
  simp only [tcHead, List.length_append, length_ccsdsPackPrimary, List.length_cons,
    List.length_nil, ccsdsPriHdrLen]

/-! ## The codec is exact -/

/-- The header fields a built packet carries. -/
def tcExpected (seqCount : U16) (tc : PusTcHdr) (appData : Bytes) : TcParsed where
  pri :=
    { version := 0
      type := 1
      secHdrFlag := 1
      apid := ccsdsApidCmd
      seqFlags := 3
      seqCount := seqCount &&& 0x3FFF#16
      dataLength := BitVec.ofNat 16 (6 + appData.length) }
  tc := { tc with ackFlags := tc.ackFlags &&& 0x0F#8 }
  appData := appData

theorem version_nibble : ∀ a : U8,
    ((pusTcVersion <<< 4) ||| (a &&& 0x0F#8)) >>> 4 = pusTcVersion ∧
      ((pusTcVersion <<< 4) ||| (a &&& 0x0F#8)) &&& 0x0F#8 = a &&& 0x0F#8 := by
  decide +kernel

/-- The version nibble and the flag nibble make up the octet. -/
theorem nibbles_join : ∀ a : U8, a >>> 4 = pusTcVersion →
    (pusTcVersion <<< 4) ||| ((a &&& 0x0F#8) &&& 0x0F#8) = a := by
  decide +kernel

theorem tcPrimary_masked (seqCount : U16) (appData : Bytes) :
    (tcPrimary seqCount (BitVec.ofNat 64 tcMinPacketLen
      + BitVec.ofNat 64 appData.length)).masked = (tcExpected seqCount ⟨0, 0, 0, 0⟩ appData).pri := by
  have hlen : (BitVec.ofNat 64 tcMinPacketLen + BitVec.ofNat 64 appData.length - 6#64 - 1#64).setWidth 16
      = BitVec.ofNat 16 (6 + appData.length) := by
    apply BitVec.eq_of_toNat_eq
    simp only [tcMinPacketLen, ccsdsPriHdrLen, pusTcSecHdrLen, tcPecLen, BitVec.toNat_setWidth,
      BitVec.toNat_sub, BitVec.toNat_add, BitVec.toNat_ofNat]
    omega
  simp only [CcsdsPriHdr.masked, tcPrimary, tcExpected, hlen, BitVec.and_self, BitVec.and_assoc]
  rfl

/-- **Build, then parse.** -/
theorem tcParse_tcBuild (seqCount : U16) (tc : PusTcHdr) {appData : Bytes}
    (h : appData.length ≤ tcMaxAppLen) :
    ∃ pkt, tcBuild seqCount tc appData = some pkt ∧
      tcParse (some pkt) = .ok (tcExpected seqCount tc appData) := by
  refine ⟨_, tcBuild_eq_some seqCount tc h, tcParse_ok_iff.2 ?_⟩
  set head := tcHead seqCount tc appData with hhead
  set crc := tcCrc16 head with hcrc
  have hlen : head.length = 11 + appData.length := length_tcHead seqCount tc appData
  have hpri : ccsdsParsePrimary (head ++ [hi8 crc, lo8 crc])
      = (tcExpected seqCount ⟨0, 0, 0, 0⟩ appData).pri := by
    rw [hhead, tcHead, List.append_assoc, List.append_assoc, parse_pack, tcPrimary_masked]
  have hsum : (head ++ [hi8 crc, lo8 crc]).length = 13 + appData.length := by
    simp [hlen]; omega
  simp only [tcMaxAppLen, tcMinPacketLen, tcMaxPacketLen, ccsdsPriHdrLen, pusTcSecHdrLen,
    tcPecLen] at h
  constructor
  · constructor
    · rw [hsum]; simp only [tcMinPacketLen, ccsdsPriHdrLen, pusTcSecHdrLen, tcPecLen]; omega
    · rw [hsum, tcMaxPacketLen]; omega
    · rw [hpri, hsum]
      simp only [tcExpected, BitVec.toNat_ofNat, ccsdsPriHdrLen]
      omega
    · rw [hsum, tcPecLen, show 13 + appData.length - 2 = head.length + 0 by omega,
        show 13 + appData.length - 1 = head.length + 1 by omega, octet_append_right,
        octet_append_right, Nat.add_zero, List.take_left]
      exact (be16_hi8_lo8 crc).symm
    · rw [hpri]; rfl
    · rw [hpri]; rfl
    · rw [hpri]; rfl
    · rw [hpri]; rfl
    · rw [hpri]; rfl
    · exact (version_nibble tc.ackFlags).1
  · have happ : ((head ++ [hi8 crc, lo8 crc]).drop 11).take (13 + appData.length - 13)
        = appData := by
      rw [hhead, tcHead, List.append_assoc, List.drop_append_of_le_length (by simp [ccsdsPriHdrLen])]
      simp [ccsdsPackPrimary]
    have hack := (version_nibble tc.ackFlags).2
    simp only [tcFields, hpri, hsum, tcMinPacketLen, ccsdsPriHdrLen, pusTcSecHdrLen, tcPecLen,
      happ, tcExpected]
    congr 1
    congr 1
    · exact hack.symm
    · exact (be16_hi8_lo8 tc.sourceId).symm

/-- A well-formed packet is its header, its secondary header, its application
data and its checksum. -/
theorem WellFormedTc.split {buf : Bytes} (h : WellFormedTc buf) :
    buf = buf.take 6 ++ ([octet buf 6, octet buf 7, octet buf 8, octet buf 9, octet buf 10] ++
      ((tcFields buf).appData ++ [octet buf (buf.length - 2), octet buf (buf.length - 1)])) := by
  have hmin := h.min_len
  simp only [tcMinPacketLen, ccsdsPriHdrLen, pusTcSecHdrLen, tcPecLen] at hmin
  have htail : buf.drop (buf.length - 2)
      = [octet buf (buf.length - 2), octet buf (buf.length - 1)] := by
    rw [← cons_octet_drop (by omega), show buf.length - 2 + 1 = buf.length - 1 by omega,
      ← cons_octet_drop (by omega), show buf.length - 1 + 1 = buf.length by omega, List.drop_length]
  have happ : buf.drop 11 = (tcFields buf).appData ++ buf.drop (buf.length - 2) := by
    simp only [tcFields, tcMinPacketLen, ccsdsPriHdrLen, pusTcSecHdrLen, tcPecLen]
    conv_lhs => rw [← List.take_append_drop (buf.length - 13) (buf.drop 11)]
    rw [List.drop_drop]
    congr 2
    omega
  have hsec : buf.drop 6 = [octet buf 6, octet buf 7, octet buf 8, octet buf 9, octet buf 10]
      ++ buf.drop 11 := by
    simp only [List.cons_append, List.nil_append]
    rw [cons_octet_drop (by omega), cons_octet_drop (by omega), cons_octet_drop (by omega),
      cons_octet_drop (by omega), cons_octet_drop (by omega)]
  conv_lhs => rw [← List.take_append_drop 6 buf, hsec, happ, htail]

/-- The header the builder packs from the fields of an accepted packet is that
packet's own header. -/
theorem WellFormedTc.tcPrimary_eq {buf : Bytes} (h : WellFormedTc buf) :
    tcPrimary (ccsdsParsePrimary buf).seqCount (BitVec.ofNat 64 tcMinPacketLen
      + BitVec.ofNat 64 (tcFields buf).appData.length) = ccsdsParsePrimary buf := by
  have hmin := h.min_len
  have hmax := h.max_len
  have hdata := h.data_length
  simp only [tcMinPacketLen, tcMaxPacketLen, ccsdsPriHdrLen, pusTcSecHdrLen, tcPecLen]
    at hmin hmax hdata
  have hlen : (tcFields buf).appData.length = buf.length - 13 := by
    simp only [tcFields, List.length_take, List.length_drop, tcMinPacketLen, ccsdsPriHdrLen,
      pusTcSecHdrLen, tcPecLen]
    omega
  have hfield : (BitVec.ofNat 64 tcMinPacketLen + BitVec.ofNat 64 (buf.length - 13)
      - 6#64 - 1#64).setWidth 16 = (ccsdsParsePrimary buf).dataLength := by
    apply BitVec.eq_of_toNat_eq
    simp only [tcMinPacketLen, ccsdsPriHdrLen, pusTcSecHdrLen, tcPecLen, BitVec.toNat_setWidth,
      BitVec.toNat_sub, BitVec.toNat_add, BitVec.toNat_ofNat]
    omega
  have hcount : (ccsdsParsePrimary buf).seqCount &&& 0x3FFF#16 = (ccsdsParsePrimary buf).seqCount := by
    simp only [ccsdsParsePrimary, headerOfWords, BitVec.and_assoc, BitVec.and_self]
  have hfixed := And.intro h.version (And.intro h.type (And.intro h.sec_hdr_flag
    (And.intro h.seq_flags h.apid)))
  rw [tcPrimary, hlen, hfield, hcount]
  generalize ccsdsParsePrimary buf = hdr at hfixed ⊢
  obtain ⟨v, t, s, a, f, n, l⟩ := hdr
  obtain ⟨rfl, rfl, rfl, rfl, rfl⟩ := hfixed
  rfl

/-- **Parse, then build.** -/
theorem tcBuild_tcParse {buf : Bytes} {p : TcParsed} (h : tcParse (some buf) = .ok p) :
    tcBuild p.pri.seqCount p.tc p.appData = some buf := by
  obtain ⟨hwf, rfl⟩ := tcParse_ok_iff.1 h
  have hmin := hwf.min_len
  have hmax := hwf.max_len
  simp only [tcMinPacketLen, tcMaxPacketLen, ccsdsPriHdrLen, pusTcSecHdrLen, tcPecLen]
    at hmin hmax
  have happ : (tcFields buf).appData.length ≤ tcMaxAppLen := by
    simp only [tcFields, List.length_take, List.length_drop, tcMaxAppLen, tcMaxPacketLen,
      tcMinPacketLen, ccsdsPriHdrLen, pusTcSecHdrLen, tcPecLen]
    omega
  set head := tcHead (tcFields buf).pri.seqCount (tcFields buf).tc (tcFields buf).appData
    with hhead
  have hjoin : head ++ [octet buf (buf.length - 2), octet buf (buf.length - 1)] = buf := by
    have hpack : ccsdsPackPrimary (ccsdsParsePrimary buf) = buf.take 6 :=
      pack_parse (by simp only [ccsdsPriHdrLen]; omega)
    have hsec : [(pusTcVersion <<< 4) ||| ((tcFields buf).tc.ackFlags &&& 0x0F#8),
        (tcFields buf).tc.service, (tcFields buf).tc.subtype, hi8 (tcFields buf).tc.sourceId,
        lo8 (tcFields buf).tc.sourceId]
        = [octet buf 6, octet buf 7, octet buf 8, octet buf 9, octet buf 10] := by
      have hver := nibbles_join (octet buf 6) hwf.pus_version
      simp only [tcFields, hi8_be16, lo8_be16, hver]
    conv_rhs => rw [hwf.split]
    rw [hhead, tcHead, hsec, show (tcFields buf).pri = ccsdsParsePrimary buf from rfl,
      hwf.tcPrimary_eq, hpack]
    simp only [List.append_assoc]
  have hcrc : tcCrc16 head = be16 (octet buf (buf.length - 2)) (octet buf (buf.length - 1)) := by
    rw [← tcCrc16_append, hjoin]
    exact hwf.tcCrc16_eq_zero
  rw [tcBuild_eq_some _ _ happ, ← hhead, hcrc, hi8_be16, lo8_be16, hjoin]

/-- **The telecommand codec is exact.**  Every buildable command parses back to
what was built, with each field cut down to its width; every accepted packet is
rebuilt, octet for octet, from the fields parsed out of it; so the parser accepts
the image of the builder and nothing else. -/
theorem tcCodec_exact :
    (∀ (seqCount : U16) (tc : PusTcHdr) (appData : Bytes), appData.length ≤ 243 →
      ∃ pkt p, tcBuild seqCount tc appData = some pkt ∧ tcParse (some pkt) = .ok p ∧
        p.pri.version = 0 ∧ p.pri.type = 1 ∧ p.pri.apid = 0x065 ∧ p.pri.seqFlags = 3 ∧
        p.pri.seqCount.toNat = seqCount.toNat % 2 ^ 14 ∧
        p.tc.ackFlags.toNat = tc.ackFlags.toNat % 16 ∧ p.tc.service = tc.service ∧
        p.tc.subtype = tc.subtype ∧ p.tc.sourceId = tc.sourceId ∧ p.appData = appData) ∧
    (∀ (buf : Bytes) (p : TcParsed), tcParse (some buf) = .ok p →
      tcBuild p.pri.seqCount p.tc p.appData = some buf) ∧
    (∀ buf : Bytes, (∃ p, tcParse (some buf) = .ok p) ↔
      ∃ seqCount tc appData, appData.length ≤ 243 ∧ tcBuild seqCount tc appData = some buf) := by
  refine ⟨?_, fun buf p h => tcBuild_tcParse h, fun buf => ⟨?_, ?_⟩⟩
  · intro seqCount tc appData hlen
    obtain ⟨pkt, hbuild, hparse⟩ := tcParse_tcBuild seqCount tc hlen
    refine ⟨pkt, _, hbuild, hparse, rfl, rfl, rfl, rfl, ?_, ?_, rfl, rfl, rfl, rfl⟩
    · exact Nat.and_two_pow_sub_one_eq_mod seqCount.toNat 14
    · exact Nat.and_two_pow_sub_one_eq_mod tc.ackFlags.toNat 4
  · rintro ⟨p, hp⟩
    refine ⟨_, _, _, ?_, tcBuild_tcParse hp⟩
    obtain ⟨hwf, rfl⟩ := tcParse_ok_iff.1 hp
    have hmax := hwf.max_len
    simp only [tcFields, List.length_take, tcMinPacketLen, tcMaxPacketLen, ccsdsPriHdrLen,
      pusTcSecHdrLen, tcPecLen] at hmax ⊢
    omega
  · rintro ⟨seqCount, tc, appData, hlen, hbuild⟩
    obtain ⟨pkt, hbuild', hparse⟩ := tcParse_tcBuild seqCount tc hlen
    rw [hbuild] at hbuild'
    exact ⟨_, Option.some.inj hbuild' ▸ hparse⟩

end Tmtc
end SpacecraftFsw
