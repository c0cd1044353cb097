import SpacecraftFsw.Tmtc.HkPayload

/-!
# The packet stream

The loop of `main` in `labs/03-tmtc/main.c`: the frames of the standalone housekeeping
program, one packet each, under asserts that take every packet apart again.  An assert
that fails ends the program.

* `tmLoop`, `tmMain` — the program, for any profile of readings.
* `tmLoop_some`, `tmLoop_none` — one direction each of when it runs through.
* `tm_stream` — it does exactly if no reading is a NaN, and then its packets carry the
  frames of the standalone program, numbered modulo 16384.
-/

namespace SpacecraftFsw
namespace Tmtc

open Foundation

/-! ## The program -/

/-- `TM_PACKET_LEN`. -/
def tmPacketLen : ℕ := ccsdsPriHdrLen + pusTmSecHdrLen + pusHkPayloadLen

/-- The asserts of `self_check_primary_header`. -/
def selfCheckPrimaryHeader (packet : Bytes) (expectedSeq expectedDataLen : U16) : Bool :=
  let parsed := ccsdsParsePrimary packet
  decide (parsed.version = 0) && decide (parsed.type = 0) && decide (parsed.secHdrFlag = 1) &&
    decide (parsed.apid = ccsdsApidHk) && decide (parsed.seqFlags = 3) &&
    decide (parsed.seqCount = expectedSeq) && decide (parsed.dataLength = expectedDataLen)

/-- The asserts of `self_check_sequence_wrap`, from `seq` on. -/
def sequenceWraps : U16 → List U16 → Bool
  | _, [] => true
  | seq, expect :: rest => decide (seq = expect) && sequenceWraps ((seq + 1) % 16384) rest

/-- `self_check_sequence_wrap`. -/
def selfCheckSequenceWrap : Bool := sequenceWraps 16382 [16382, 16383, 0, 1]

/-- The asserts of the payload's round trip in `main`. -/
def payloadRoundTrips (packet : Bytes) (s : SpacecraftState) : Bool :=
  let rt := pusDeserializeHkPayload (packet.drop (ccsdsPriHdrLen + pusTmSecHdrLen))
  Ieee.eq rt.busVoltage s.busVoltage && decide (rt.batteryPct = s.batteryPct) &&
    Ieee.eq rt.tempObc s.tempObc && Ieee.eq rt.tempBatt s.tempBatt &&
    decide (rt.mode = s.mode.setWidth 8)

/-- Every assert of one iteration. -/
def assertsHold (packet : Bytes) (seqCount : U16) (s : SpacecraftState) : Bool :=
  decide (packet.length = tmPacketLen) &&
    selfCheckPrimaryHeader packet seqCount
      (BitVec.ofNat 16 (pusTmSecHdrLen + pusHkPayloadLen - 1)) &&
    payloadRoundTrips packet s

/-- The loop of `main`, for `left` more frames; `none` once an assert has failed. -/
def tmLoop (profile : ℕ → Reading) : ℕ → ℕ → U16 → SpacecraftState → Option (List Bytes)
  | 0, _, _, _ => some []
  | left + 1, frame, seqCount, s =>
    let s := applyLimits (sampleState (profile frame) s)
    let packet := buildHkTmPacket seqCount s
    if assertsHold packet seqCount s then
      (tmLoop profile left (frame + 1) ((seqCount + 1) % 16384) s).map (packet :: ·)
    else none

/-- The packets of `main`, for a profile of `n` readings. -/
def tmMain (profile : ℕ → Reading) (n : ℕ) : Option (List Bytes) :=
  if selfCheckSequenceWrap then tmLoop profile n 0 0 hkStart else none

/-! ## One iteration -/

/-- One of the three floats is a NaN. -/
def hasNaN (r : Reading) : Bool :=
  Ieee.isNaN r.busVoltage || Ieee.isNaN r.tempObc || Ieee.isNaN r.tempBatt

/-- The packet carries the frame: a telemetry packet of the frame's number, its payload
the frame's values. -/
structure Carries (f : HkFrame) (packet : Bytes) : Prop where
  length : packet.length = tmPacketLen
  apid : (ccsdsParsePrimary packet).apid = ccsdsApidHk
  seqCount : (ccsdsParsePrimary packet).seqCount.toNat = f.frame % 16384
  counter : be16 (octet packet 9) (octet packet 10) = (ccsdsParsePrimary packet).seqCount
  payload : pusDeserializeHkPayload (packet.drop 11) = hkPayloadOf f.state

theorem header_buildHkTmPacket {seqCount : U16} (hseq : seqCount.toNat < 16384)
    (s : SpacecraftState) :
    ccsdsParsePrimary (buildHkTmPacket seqCount s) =
      tmPrimary ccsdsApidHk seqCount pusHkPayloadLen := by
  rw [buildHkTmPacket_eq, tmPacket_header, length_pusSerializeHkPayload]
  simp only [CcsdsPriHdr.masked, tmPrimary, seqMask_of_lt hseq]
  rfl

theorem payload_buildHkTmPacket (seqCount : U16) (s : SpacecraftState) :
    pusDeserializeHkPayload ((buildHkTmPacket seqCount s).drop 11) = hkPayloadOf s := by
  rw [buildHkTmPacket_eq, tmPacket_data, deserialize_serialize]

/-- **The asserts of one iteration** fail on a NaN and on nothing else. -/
theorem assertsHold_iff {seqCount : U16} (hseq : seqCount.toNat < 16384) (r : Reading)
    (s : SpacecraftState) :
    assertsHold (buildHkTmPacket seqCount (applyLimits (sampleState r s))) seqCount
      (applyLimits (sampleState r s)) = !hasNaN r := by
  set s' := applyLimits (sampleState r s) with hs'
  have hlen : (buildHkTmPacket seqCount s').length = tmPacketLen := rfl
  have hheader : selfCheckPrimaryHeader (buildHkTmPacket seqCount s') seqCount
      (BitVec.ofNat 16 (pusTmSecHdrLen + pusHkPayloadLen - 1)) = true := by
    simp [selfCheckPrimaryHeader, header_buildHkTmPacket hseq, tmPrimary]
  have hfloats : s'.busVoltage = r.busVoltage ∧ s'.tempObc = r.tempObc ∧
      s'.tempBatt = r.tempBatt := by
    rw [hs', applyLimits]
    split_ifs <;> exact ⟨rfl, rfl, rfl⟩
  have hself : ∀ x, Ieee.eq x x = !Ieee.isNaN x := by
    intro x
    rw [Bool.eq_iff_iff, Ieee.eq_self_iff, Bool.not_eq_true']
  have hpayload : payloadRoundTrips (buildHkTmPacket seqCount s') s' = !hasNaN r := by
    have hdrop : ccsdsPriHdrLen + pusTmSecHdrLen = 11 := rfl
    obtain ⟨hbus, hobc, hbatt⟩ := hfloats
    simp [payloadRoundTrips, hdrop, payload_buildHkTmPacket, hkPayloadOf, hself, hbus, hobc,
      hbatt, hasNaN]
  simp [assertsHold, hlen, hheader, hpayload]

/-! ## The loop -/

theorem seqNext_of_frame {seqCount : U16} {frame : ℕ} (h : seqCount.toNat = frame % 16384) :
    ((seqCount + 1) % 16384).toNat = (frame + 1) % 16384 := by
  have hnext := seqNext_toNat seqCount
  rw [seqNext] at hnext
  omega

/-- **As long as no reading is a NaN** the loop runs through, frame by frame with that of
the standalone program. -/
theorem tmLoop_some (profile : ℕ → Reading) (left : ℕ) {frame : ℕ} {seqCount : U16}
    (hseq : seqCount.toNat = frame % 16384) (tick : BitVec 64) (s : SpacecraftState)
    (hgood : ∀ k, frame ≤ k → k < frame + left → hasNaN (profile k) = false) :
    ∃ packets, tmLoop profile left frame seqCount s = some packets ∧
      List.Forall₂ Carries (hkLoop profile left frame tick s) packets := by
  induction left generalizing frame seqCount tick s with
  | zero => exact ⟨[], rfl, .nil⟩
  | succ left ih =>
      have hlt : seqCount.toNat < 16384 := hseq ▸ Nat.mod_lt _ (by decide)
      have hnow := hgood frame (Nat.le_refl _) (by omega)
      have hheld := assertsHold_iff hlt (profile frame) s
      rw [hnow] at hheld
      set s' := applyLimits (sampleState (profile frame) s) with hs'
      obtain ⟨packets, hpackets, hcarry⟩ := ih (seqNext_of_frame hseq) (tick + hkCycleMs) s'
        fun k hle hk => hgood k (by omega) (by omega)
      refine ⟨buildHkTmPacket seqCount s' :: packets, ?_, .cons ?_ hcarry⟩
      · rw [tmLoop, ← hs', hheld, hpackets]
        rfl
      · have hheader := header_buildHkTmPacket hlt s'
        refine ⟨rfl, ?_, ?_, ?_, payload_buildHkTmPacket _ _⟩
        · rw [hheader, tmPrimary]
        · rw [hheader, tmPrimary, hseq]
        · rw [hheader, buildHkTmPacket_eq, tmPacket_counter, tmPrimary]

/-- **A NaN stops it.** -/
theorem tmLoop_none (profile : ℕ → Reading) (left : ℕ) {frame : ℕ} {seqCount : U16}
    (hseq : seqCount.toNat = frame % 16384) (s : SpacecraftState)
    (hbad : ∃ k, frame ≤ k ∧ k < frame + left ∧ hasNaN (profile k) = true) :
    tmLoop profile left frame seqCount s = none := by
  induction left generalizing frame seqCount s with
  | zero =>
      obtain ⟨k, hle, hlt, -⟩ := hbad
      omega
  | succ left ih =>
      have hlt : seqCount.toNat < 16384 := hseq ▸ Nat.mod_lt _ (by decide)
      rw [tmLoop, assertsHold_iff hlt]
      cases hnow : hasNaN (profile frame) with
      | true => rfl
      | false =>
          obtain ⟨k, hle, hk, hnan⟩ := hbad
          have hne : k ≠ frame := by
            rintro rfl
            rw [hnow] at hnan
            cases hnan
          rw [ih (seqNext_of_frame hseq) _ ⟨k, by omega, by omega, hnan⟩]
          rfl

/-- **The packet stream is the frame stream, in envelopes.**  For every profile of any
length the program ends at an assert exactly if one of its readings is a NaN; otherwise
it emits one packet for each frame of the standalone program, whose header and message
counter carry the frame's number modulo 16384 and whose payload gives the frame's
values back. -/
theorem tm_stream (profile : ℕ → Reading) (n : ℕ) :
    (tmMain profile n = none ↔ ∃ k < n, hasNaN (profile k) = true) ∧
      ∀ packets, tmMain profile n = some packets →
        List.Forall₂ Carries (hkMain profile n) packets := by
  have hwraps : selfCheckSequenceWrap = true := by decide
  have hmain : tmMain profile n = tmLoop profile n 0 0 hkStart := if_pos hwraps
  have hseq : (0 : U16).toNat = 0 % 16384 := rfl
  rw [hmain]
  by_cases hbad : ∃ k < n, hasNaN (profile k) = true
  · obtain ⟨k, hk, hnan⟩ := hbad
    have hnone := tmLoop_none profile n hseq hkStart ⟨k, Nat.zero_le k, by omega, hnan⟩
    refine ⟨iff_of_true hnone ⟨k, hk, hnan⟩, ?_⟩
    rw [hnone]
    rintro packets ⟨⟩
  · obtain ⟨packets, hpackets, hcarry⟩ := tmLoop_some profile n hseq 0 hkStart fun k _ hk => by
      by_contra hnan
      exact hbad ⟨k, by omega, by simpa using hnan⟩
    rw [hpackets]
    refine ⟨iff_of_false (Option.some_ne_none _) hbad, ?_⟩
    rintro _ ⟨⟩
    exact hcarry

end Tmtc
end SpacecraftFsw
