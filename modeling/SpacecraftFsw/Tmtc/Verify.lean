import SpacecraftFsw.Tmtc.Pus

/-!
# Verification and test reports

`labs/03-tmtc/verify.c`: the Service 1 and Service 17 report builders.  Both are
instances of the common telemetry envelope (`buildVerification_eq`,
`buildConnTestReport_eq`), which is all the command path needs to know of them.
-/

namespace SpacecraftFsw
namespace Tmtc

/-! ## Service, subtype and failure-code numbers -/

/-- `PUS_SERVICE_VERIFICATION`. -/
def pusServiceVerification : U8 := 1

/-- `PUS_SERVICE_TEST`. -/
def pusServiceTest : U8 := 17

def pusVerAcceptOk : U8 := 1#8
def pusVerAcceptFail : U8 := 2#8
def pusVerStartOk : U8 := 3#8
def pusVerCompleteOk : U8 := 7#8
def pusVerCompleteFail : U8 := 8#8

/-- `PUS_TEST_CONNECTION_TEST`. -/
def pusTestConnectionTest : U8 := 1

/-- `PUS_TEST_CONNECTION_TEST_REPORT`. -/
def pusTestConnectionTestReport : U8 := 2

def vfailNone : U8 := 0#8
def vfailIllegalLen : U8 := 1#8
def vfailBadCrc : U8 := 2#8
def vfailBadHeader : U8 := 3#8
def vfailBadApid : U8 := 4#8
def vfailUnknownCmd : U8 := 5#8
def vfailBadAppData : U8 := 6#8
def vfailExecError : U8 := 7#8

/-- `VERIFY_REPORT_MAX_LEN`. -/
def verifyReportMaxLen : ℕ := 16

/-! ## The builders -/

/-- `pack_tm_headers`: the header octets written, and `*tm_seq` afterwards. -/
def packTmHeaders (apid tmSeq : U16) (service subtype : U8) (dataLen : ℕ) : Bytes × U16 :=
  let pri : CcsdsPriHdr :=
    { version := 0, type := 0, secHdrFlag := 1, apid := apid, seqFlags := 3, seqCount := tmSeq
      dataLength := BitVec.ofNat 16 (pusTmSecHdrLen + dataLen - 1) }
  let sec : PusTmHdr :=
    { pusVersion := pusTmVersion, service := service, subtype := subtype, counter := tmSeq }
  (ccsdsPackPrimary pri ++ pusPackSecondary sec, (tmSeq + 1) % 16384)

/-- `build_verification`: the octets written to `out`, and `*tm_seq` afterwards. -/
def buildVerification (tmApid tmSeq : U16) (vSubtype : U8) (cmdPktId cmdSeqCtrl : U16)
    (failureCode : U8) : Bytes × U16 :=
  if vSubtype < pusVerAcceptOk ∨ vSubtype > pusVerCompleteFail then ([], tmSeq)
  else
    let isFailure := vSubtype % 2 = 0
    let dataLen := 4 + if isFailure then 1 else 0
    let (hdr, tmSeq) := packTmHeaders tmApid tmSeq pusServiceVerification vSubtype dataLen
    (hdr ++ [hi8 cmdPktId, lo8 cmdPktId, hi8 cmdSeqCtrl, lo8 cmdSeqCtrl] ++
      (if isFailure then [failureCode] else []), tmSeq)

/-- `build_conn_test_report`. -/
def buildConnTestReport (tmApid tmSeq : U16) : Bytes × U16 :=
  packTmHeaders tmApid tmSeq pusServiceTest pusTestConnectionTestReport 0

/-- The data field of a verification report: the identity of the command and,
for the even (failure) subtypes, the failure code. -/
def verificationData (vSubtype : U8) (pktId seqCtrl : U16) (failureCode : U8) : Bytes :=
  [hi8 pktId, lo8 pktId, hi8 seqCtrl, lo8 seqCtrl] ++
    if vSubtype % 2 = 0 then [failureCode] else []

theorem length_verificationData_le (v : U8) (i c : U16) (f : U8) :
    (verificationData v i c f).length ≤ 5 := by
  unfold verificationData
  split <;> simp

theorem buildVerification_eq (tmApid tmSeq : U16) {v : U8} (hv : 1#8 ≤ v ∧ v ≤ 8#8)
    (i c : U16) (f : U8) :
    buildVerification tmApid tmSeq v i c f =
      (tmPacket tmApid tmSeq pusServiceVerification v (verificationData v i c f),
        seqNext tmSeq) := by
  have hrange : ¬(v < pusVerAcceptOk ∨ v > pusVerCompleteFail) := by
    rw [pusVerAcceptOk, pusVerCompleteFail, gt_iff_lt, not_or, BitVec.not_lt, BitVec.not_lt]
    exact hv
  rw [buildVerification, if_neg hrange, verificationData]
  by_cases heven : v % 2 = 0
  · simp only [heven, if_true]; rfl
  · simp only [heven, if_false]; rfl

/-- A subtype out of range builds nothing. -/
theorem buildVerification_out_of_range (tmApid tmSeq : U16) {v : U8}
    (hv : ¬(1 ≤ v.toNat ∧ v.toNat ≤ 8)) (i c : U16) (f : U8) :
    buildVerification tmApid tmSeq v i c f = ([], tmSeq) := by
  apply if_pos
  rw [pusVerAcceptOk, pusVerCompleteFail, gt_iff_lt, BitVec.lt_def, BitVec.lt_def]
  show v.toNat < 1 ∨ 8 < v.toNat
  omega

theorem buildConnTestReport_eq (tmApid tmSeq : U16) :
    buildConnTestReport tmApid tmSeq =
      (tmPacket tmApid tmSeq pusServiceTest pusTestConnectionTestReport [], seqNext tmSeq) := rfl

end Tmtc
end SpacecraftFsw
