import SpacecraftFsw.Obdh.Housekeeping
import SpacecraftFsw.Tmtc.HkPayload

/-!
# What the packet builders promise

`obdh_pack_tm` against the router that reads its packets, against the size checks
of its contract, and against the other builders of telemetry.

* `obdhPackTm_isSome_iff`, `tcBuild_isSome_iff` — when the size checks pass, with
  the wrap-around of `size_t`.
* `packed_roundtrip` — what is packed is what is parsed, and the router believes it and
  does with it what its APID asks for.
* `size_checks_iff` — the lengths for which the checks keep to the room.
* `builders_agree` — the three header assemblies build the same packets.
-/

namespace SpacecraftFsw
namespace Obdh

open Tmtc

/-! ## The size checks -/

/-- **When `obdh_pack_tm` packs.**  The length of the packet is at most the room and
the field's limit, or the sum has wrapped around to a small number. -/
theorem obdhPackTm_isSome_iff {payload : Bytes} (hlen : payload.length < 2 ^ 64) (cap : Size)
    (apid seq : U16) (service subtype : U8) :
    (obdhPackTm (some cap) apid seq service subtype payload).isSome ↔
      (11 + payload.length ≤ cap.toNat ∧ payload.length ≤ 65531) ∨
        (2 ^ 64 - 4 ≤ payload.length ∧ 11 + payload.length - 2 ^ 64 ≤ cap.toNat) := by
  generalize hn : payload.length = n at hlen
  have hcap := cap.isLt
  unfold obdhPackTm
  simp only [hn, ccsdsPriHdrLen, pusTmSecHdrLen]
  split
  · next h =>
      simp only [Option.isSome_none, Bool.false_eq_true, false_iff]
      simp only [gt_iff_lt, BitVec.lt_def, BitVec.toNat_add, BitVec.toNat_sub,
        BitVec.toNat_ofNat] at h
      omega
  · next h =>
      simp only [Option.isSome_some, true_iff]
      simp only [gt_iff_lt, BitVec.lt_def, BitVec.toNat_add, BitVec.toNat_sub,
        BitVec.toNat_ofNat] at h
      omega

/-- **When `tc_build` builds.** -/
theorem tcBuild_isSome_iff {appData : Bytes} (hlen : appData.length < 2 ^ 64) (seqCount : U16)
    (tc : PusTcHdr) :
    (tcBuild seqCount tc appData).isSome ↔
      13 + appData.length ≤ tcMaxPacketLen ∨ 2 ^ 64 - 13 ≤ appData.length := by
  generalize hn : appData.length = n at hlen
  unfold tcBuild
  simp only [hn, tcMinPacketLen, tcMaxPacketLen, ccsdsPriHdrLen, pusTcSecHdrLen, tcPecLen]
  split
  · next h =>
      simp only [Option.isSome_none, Bool.false_eq_true, false_iff]
      simp only [gt_iff_lt, BitVec.lt_def, BitVec.toNat_add, BitVec.toNat_ofNat] at h
      omega
  · next h =>
      simp only [Option.isSome_some, true_iff]
      simp only [gt_iff_lt, BitVec.lt_def, BitVec.toNat_add, BitVec.toNat_ofNat] at h
      omega

/-- The octets written are those of the headers and of the payload. -/
theorem length_of_packed {cap : Option Size} {apid seq : U16} {service subtype : U8}
    {payload pkt : Bytes} (h : obdhPackTm cap apid seq service subtype payload = some pkt) :
    pkt.length = 11 + payload.length := by
  unfold obdhPackTm at h
  cases cap with
  | none => cases h
  | some cap =>
      dsimp only at h
      split at h
      · cases h
      · rw [← Option.some.inj h]
        simp only [List.length_append, length_ccsdsPackPrimary, pusPackSecondary,
          List.length_cons, List.length_nil, ccsdsPriHdrLen]

/-! ## The round trip -/

/-- What the ground reads out of the packet `pkt`. -/
structure PackedAs (apid seq : U16) (service subtype : U8) (payload pkt : Bytes) : Prop where
  length : pkt.length = 11 + payload.length
  version : (ccsdsParsePrimary pkt).version = 0
  type : (ccsdsParsePrimary pkt).type = 0
  secHdrFlag : (ccsdsParsePrimary pkt).secHdrFlag = 1
  apid : (ccsdsParsePrimary pkt).apid = apid % 2048
  seqFlags : (ccsdsParsePrimary pkt).seqFlags = 3
  seqCount : (ccsdsParsePrimary pkt).seqCount = seq % 16384
  dataLength : (ccsdsParsePrimary pkt).dataLength.toNat + 7 = pkt.length
  service : octet pkt 7 = service
  subtype : octet pkt 8 = subtype
  counter : be16 (octet pkt 9) (octet pkt 10) = (ccsdsParsePrimary pkt).seqCount
  payload : pkt.drop 11 = payload

theorem packedAs_tmPacket (apid seq : U16) (service subtype : U8) {payload : Bytes}
    (hmax : payload.length ≤ 65531) :
    PackedAs apid seq service subtype payload
      (tmPacket apid (seq &&& 0x3FFF#16) service subtype payload) := by
  have hheader := tmPacket_header apid (seq &&& 0x3FFF#16) service subtype payload
  have hfield := tmPacket_dataLength apid (seq &&& 0x3FFF#16) service subtype hmax
  constructor
  case length => exact length_tmPacket _ _ _ _ _
  case apid =>
    rw [hheader, CcsdsPriHdr.masked_eq]
    rfl
  case seqCount => rw [tmPacket_seqCount, seqMask_idem, seqMask]
  case dataLength => exact hfield
  case counter => rw [tmPacket_counter, tmPacket_seqCount, seqMask_idem]
  case service | subtype | payload => simp
  case version | type | secHdrFlag | seqFlags =>
    rw [hheader]
    simp only [CcsdsPriHdr.masked, tmPrimary]
    decide

/-- The router believes consistent telemetry, and routes it by its APID. -/
theorem obdhIngest_of_consistent {υ : Type} (H : ExitSafeHook υ) (b : Bus υ) {p : Bytes}
    (hc : Consistent p) :
    (obdhIngest H b (some p)).1 = obdhRoute (ccsdsParsePrimary p).apid 0 b.obdh.inContact ∧
      (obdhIngest H b (some p)).2.obdh.nDropMalformed = b.obdh.nDropMalformed := by
  rw [obdhIngest_of_tm H b (isTm_of_consistent hc), obdhIngestTm_consistent hc, obdhRoute_eq hc]
  cases tmClass p with
  | none =>
      dsimp only
      split
      · exact ⟨rfl, rfl⟩
      · exact ⟨rfl, rfl⟩
  | some i =>
      cases b.obdh.inContact with
      | true => exact ⟨rfl, rfl⟩
      | false => exact ⟨rfl, by cases i <;> rfl⟩

/-- What becomes of the packet `p` of application `apid`, by its route: it is handed down,
stored with the events or with the housekeeping, or counted as unknown. -/
structure Handled {υ : Type} (apid : U16) (p : Bytes) (b b' : Bus υ) : Prop where
  downlink : obdhRoute apid 0 b.obdh.inContact = .downlink → b' = deliver (b.record (some p)) p
  store : obdhRoute apid 0 b.obdh.inContact = .store →
    b' = (b.record (some p)).storeTm (if apid = apidEvent then .ev else .hk) p
  drop : obdhRoute apid 0 b.obdh.inContact = .drop → b' = (b.record (some p)).dropUnknown

theorem handled_of_consistent {υ : Type} (H : ExitSafeHook υ) (b : Bus υ) {p : Bytes}
    (hc : Consistent p) :
    Handled (ccsdsParsePrimary p).apid p b (obdhIngest H b (some p)).2 := by
  have htm := isTm_of_consistent hc
  obtain ⟨hlen, htype, hfield⟩ := hc
  rw [obdhIngest_of_tm H b htm]
  unfold obdhIngestTm obdhIngestBody
  simp only [not_lt.2 hlen, if_false, htype, true_and, hfield, ne_eq, not_true_eq_false]
  constructor
  all_goals
    intro h
    rw [h]
    rfl

theorem PackedAs.consistent {apid seq : U16} {service subtype : U8} {payload pkt : Bytes}
    (h : PackedAs apid seq service subtype payload pkt) : Consistent pkt := by
  have hlen := h.length
  refine ⟨?_, h.type, ?_⟩
  · rw [ccsdsPriHdrLen]
    omega
  · rw [← h.dataLength, ccsdsPriHdrLen]

/-- **Packing and routing agree.**  A payload that fits is packed into a packet that
parses to what was asked for; the router never counts it as malformed, routes it by its
APID, and hands it down, stores it or counts it as unknown accordingly.  A payload of
fewer than 2³² octets that does not fit is refused. -/
theorem packed_roundtrip (apid seq : U16) (service subtype : U8) (payload : Bytes) (cap : Size) :
    (payload.length ≤ 65531 → 11 + payload.length ≤ cap.toNat →
      ∃ pkt, obdhPackTm (some cap) apid seq service subtype payload = some pkt ∧
        PackedAs apid seq service subtype payload pkt ∧
        ∀ {υ : Type} (H : ExitSafeHook υ) (b : Bus υ),
          (obdhIngest H b (some pkt)).1 = obdhRoute (apid % 2048) 0 b.obdh.inContact ∧
            (obdhIngest H b (some pkt)).2.obdh.nDropMalformed = b.obdh.nDropMalformed ∧
            Handled (apid % 2048) pkt b (obdhIngest H b (some pkt)).2) ∧
    (payload.length < 2 ^ 32 → cap.toNat < 11 + payload.length ∨ 65531 < payload.length →
      obdhPackTm (some cap) apid seq service subtype payload = none) := by
  constructor
  · intro hmax hcap
    have hpacked := packedAs_tmPacket apid seq service subtype hmax
    refine ⟨_, obdhPackTm_eq_some hcap hmax apid seq service subtype, hpacked, ?_⟩
    intro υ H b
    rw [← hpacked.apid]
    obtain ⟨hroute, htrusted⟩ := obdhIngest_of_consistent H b hpacked.consistent
    exact ⟨hroute, htrusted, handled_of_consistent H b hpacked.consistent⟩
  · intro hlen hbad
    rw [← Option.not_isSome_iff_eq_none, obdhPackTm_isSome_iff (by omega)]
    omega

/-- A payload that fits, and one that does not. -/
theorem packed_roundtrip_three :
    (∃ pkt, obdhPackTm (some 14) 0x066 16385 5 1 [1, 2, 3] = some pkt ∧
      PackedAs 0x066 16385 5 1 [1, 2, 3] pkt) ∧
      obdhPackTm (some 13) 0x066 16385 5 1 [1, 2, 3] = none := by
  obtain ⟨pkt, hpkt, hpacked, _⟩ :=
    (packed_roundtrip 0x066 16385 5 1 [1, 2, 3] 14).1 (by decide) (by decide)
  exact ⟨⟨pkt, hpkt, hpacked⟩,
    (packed_roundtrip 0x066 16385 5 1 [1, 2, 3] 13).2 (by decide) (.inl (by decide))⟩

/-! ## The size checks at the top of the range -/

/-- **Which lengths the checks are right about.**  `obdh_pack_tm` keeps to the room it
is given, and to what its length field can count, unless the payload is within four
octets of 2⁶⁴ and the wrapped sum fits; `tc_build` refuses everything too long unless
the application data is within thirteen. -/
theorem size_checks_iff (cap : Size) (apid seq : U16) (service subtype : U8) {payload : Bytes}
    (hpayload : payload.length < 2 ^ 64) (seqCount : U16) (tc : PusTcHdr) {appData : Bytes}
    (happ : appData.length < 2 ^ 64) :
    ((∀ pkt, obdhPackTm (some cap) apid seq service subtype payload = some pkt →
        pkt.length = 11 + payload.length ∧ pkt.length ≤ cap.toNat ∧ pkt.length ≤ 65542) ↔
      ¬(2 ^ 64 - 4 ≤ payload.length ∧ 11 + payload.length - 2 ^ 64 ≤ cap.toNat)) ∧
    ((tcMaxPacketLen < 13 + appData.length → tcBuild seqCount tc appData = none) ↔
      appData.length < 2 ^ 64 - 13) := by
  have hcap := cap.isLt
  constructor
  · have hpass := obdhPackTm_isSome_iff hpayload cap apid seq service subtype
    constructor
    · intro h hwrap
      obtain ⟨pkt, hpkt⟩ := Option.isSome_iff_exists.1 (hpass.2 (.inr hwrap))
      obtain ⟨hlen, hroom, _⟩ := h pkt hpkt
      omega
    · intro hwrap pkt hpkt
      have hlen := length_of_packed hpkt
      obtain ⟨hfit, hmax⟩ := (hpass.1 (by rw [hpkt]; rfl)).resolve_right hwrap
      exact ⟨hlen, by omega, by omega⟩
  · have hpass := tcBuild_isSome_iff happ seqCount tc
    rw [← Option.not_isSome_iff_eq_none, hpass, tcMaxPacketLen]
    omega

/-- A payload that fits, and application data that does not. -/
theorem size_checks_iff_small :
    (∀ pkt, obdhPackTm (some 14) 0x066 0 5 1 [1, 2, 3] = some pkt → pkt.length ≤ 14) ∧
      tcBuild 0 ⟨0, 17, 1, 0⟩ (List.replicate 244 0) = none := by
  have hpayload : ([1, 2, 3] : Bytes).length < 2 ^ 64 := by decide
  have happ : (List.replicate 244 0 : Bytes).length < 2 ^ 64 := by
    rw [List.length_replicate]
    decide
  obtain ⟨hpack, hbuild⟩ := size_checks_iff 14 0x066 0 5 1 hpayload 0 ⟨0, 17, 1, 0⟩ happ
  constructor
  · intro pkt hpkt
    exact (hpack.2 (by decide) pkt hpkt).2.1
  · rw [List.length_replicate] at hbuild
    exact hbuild.2 (by decide) (by decide)

/-- With a payload four octets short of 2⁶⁴ the packer's sum is 7, and it packs into
room for seven octets; with application data twelve short of it the sum of `tc_build`
is 1. -/
theorem length_wraps :
    (∃ pkt, obdhPackTm (some 7) 0x066 0 5 1 (List.replicate (2 ^ 64 - 4) 0) = some pkt ∧
      7 < pkt.length) ∧
    tcMaxPacketLen < 13 + (List.replicate (2 ^ 64 - 12) 0 : Bytes).length ∧
      tcBuild 0 ⟨0, 17, 1, 0⟩ (List.replicate (2 ^ 64 - 12) 0) ≠ none := by
  have hpayload : (List.replicate (2 ^ 64 - 4) 0 : Bytes).length = 2 ^ 64 - 4 :=
    List.length_replicate
  have happ : (List.replicate (2 ^ 64 - 12) 0 : Bytes).length = 2 ^ 64 - 12 :=
    List.length_replicate
  refine ⟨?_, ?_, ?_⟩
  · have hpass := (obdhPackTm_isSome_iff (hpayload.trans_lt (by decide)) 7 0x066 0 5 1).2
      (.inr ⟨hpayload.ge, by rw [hpayload]; decide⟩)
    obtain ⟨pkt, hpkt⟩ := Option.isSome_iff_exists.1 hpass
    refine ⟨pkt, hpkt, ?_⟩
    rw [length_of_packed hpkt, hpayload]
    decide
  · rw [happ]
    decide
  · rw [Option.ne_none_iff_isSome, tcBuild_isSome_iff (happ.trans_lt (by decide))]
    rw [happ]
    exact .inr (by decide)

/-! ## The three builders -/

/-- A count of the 14-bit counter needs no mask: the packer builds the plain envelope. -/
theorem obdhPackTm_of_lt {seq : U16} (hseq : seq.toNat < 16384) (apid : U16)
    (service subtype : U8) {data : Bytes} {cap : Size} (hmax : data.length ≤ 65531)
    (hcap : 11 + data.length ≤ cap.toNat) :
    obdhPackTm (some cap) apid seq service subtype data =
      some (tmPacket apid seq service subtype data) := by
  rw [obdhPackTm_eq_some hcap hmax, seqMask_of_lt hseq]

theorem buildHkTmPacket_agrees {seq : U16} (hseq : seq.toNat < 16384)
    (s : Foundation.SpacecraftState) {cap : Size} (hcap : 25 ≤ cap.toNat) :
    obdhPackTm (some cap) ccsdsApidHk seq 3 25 (pusSerializeHkPayload (hkPayloadOf s)) =
      some (buildHkTmPacket seq s) := by
  rw [buildHkTmPacket_eq]
  apply obdhPackTm_of_lt hseq
  · rw [length_pusSerializeHkPayload, pusHkPayloadLen]
    omega
  · rw [length_pusSerializeHkPayload, pusHkPayloadLen]
    exact hcap

theorem buildVerification_agrees {seq : U16} (hseq : seq.toNat < 16384) (apid : U16) {v : U8}
    (hv : 1#8 ≤ v ∧ v ≤ 8#8) (pktId seqCtrl : U16) (failureCode : U8) :
    (∀ cap : Size, 11 + (verificationData v pktId seqCtrl failureCode).length ≤ cap.toNat →
      obdhPackTm (some cap) apid seq 1 v (verificationData v pktId seqCtrl failureCode) =
        some (buildVerification apid seq v pktId seqCtrl failureCode).1) ∧
      (buildVerification apid seq v pktId seqCtrl failureCode).2.toNat =
        (seq.toNat + 1) % 16384 := by
  rw [buildVerification_eq apid seq hv]
  refine ⟨?_, seqNext_toNat seq⟩
  intro cap hcap
  have hle := length_verificationData_le v pktId seqCtrl failureCode
  exact obdhPackTm_of_lt hseq apid _ v (hle.trans (by decide)) hcap

/-- **The builders agree.**  For a sequence count of the 14-bit counter, the standalone
housekeeping packet and the command path's reports are, octet for octet, what
`obdh_pack_tm` builds from their data; the reports advance the counter modulo 16384,
and a subtype out of range builds nothing and leaves it alone. -/
theorem builders_agree (seq : U16) (hseq : seq.toNat < 16384) :
    (∀ (s : Foundation.SpacecraftState) (cap : Size), 25 ≤ cap.toNat →
      obdhPackTm (some cap) ccsdsApidHk seq 3 25 (pusSerializeHkPayload (hkPayloadOf s)) =
          some (buildHkTmPacket seq s) ∧
        (buildHkTmPacket seq s).length = 25) ∧
    (∀ (apid : U16) (v : U8) (pktId seqCtrl : U16) (failureCode : U8),
      1 ≤ v.toNat ∧ v.toNat ≤ 8 →
      let data := [hi8 pktId, lo8 pktId, hi8 seqCtrl, lo8 seqCtrl] ++
        if v.toNat % 2 = 0 then [failureCode] else []
      let built := buildVerification apid seq v pktId seqCtrl failureCode
      (∀ cap : Size, 11 + data.length ≤ cap.toNat →
        obdhPackTm (some cap) apid seq 1 v data = some built.1) ∧
        built.2.toNat = (seq.toNat + 1) % 16384) ∧
    (∀ (apid : U16) (cap : Size), 11 ≤ cap.toNat →
      obdhPackTm (some cap) apid seq 17 2 [] = some (buildConnTestReport apid seq).1 ∧
        (buildConnTestReport apid seq).2.toNat = (seq.toNat + 1) % 16384) ∧
    ∀ (apid : U16) (v : U8) (pktId seqCtrl : U16) (failureCode : U8),
      ¬(1 ≤ v.toNat ∧ v.toNat ≤ 8) →
      buildVerification apid seq v pktId seqCtrl failureCode = ([], seq) := by
  refine ⟨?_, ?_, ?_, ?_⟩
  · intro s cap hcap
    exact ⟨buildHkTmPacket_agrees hseq s hcap, rfl⟩
  · intro apid v pktId seqCtrl failureCode hv data built
    have heven : v.toNat % 2 = 0 ↔ v % 2 = 0 := by
      rw [← BitVec.toNat_inj, BitVec.toNat_umod]
      rfl
    have hdata : data = verificationData v pktId seqCtrl failureCode := by
      simp only [data, verificationData, heven]
    rw [hdata]
    exact buildVerification_agrees hseq apid hv pktId seqCtrl failureCode
  · intro apid cap hcap
    rw [buildConnTestReport_eq]
    refine ⟨?_, seqNext_toNat seq⟩
    exact obdhPackTm_of_lt hseq apid _ _ (Nat.zero_le _) hcap
  · intro apid v pktId seqCtrl failureCode hv
    exact buildVerification_out_of_range apid seq hv pktId seqCtrl failureCode

/-- The counter just before it wraps around. -/
theorem builders_agree_last :
    obdhPackTm (some 25) ccsdsApidHk 16383 3 25
        (pusSerializeHkPayload (hkPayloadOf ⟨0x41000000, 80, 0x41C80000, 0x41A00000, 1⟩)) =
      some (buildHkTmPacket 16383 ⟨0x41000000, 80, 0x41C80000, 0x41A00000, 1⟩) ∧
      (buildConnTestReport 0x065 16383).2.toNat = 0 := by
  obtain ⟨hhk, _, htest, _⟩ := builders_agree 16383 (by decide)
  exact ⟨(hhk _ 25 (by decide)).1, (htest 0x065 11 (by decide)).2⟩

end Obdh
end SpacecraftFsw
