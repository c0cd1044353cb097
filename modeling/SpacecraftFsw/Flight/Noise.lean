import SpacecraftFsw.Tmtc.Corruption
import SpacecraftFsw.Flight.Authority
import SpacecraftFsw.Flight.Server

/-!
# Commands hit on their way

What becomes of a telecommand, good when it was sent, whose bits have been flipped on the
way in a pattern that the checksum is there for.

* `verdict_flip` — the command path refuses it, and the failure code tells whether the
  length field was hit.
* `type_flip` — the bit that decides whether the router takes it for a command at all.
* `noise_harmless` — either way nothing is executed, in every reachable state.
-/

namespace SpacecraftFsw

open Tmtc Obdh Fdir

/-! ## The flipped packet -/

namespace Tmtc

variable {buf err : Bytes}

theorem octet_flip (hlen : err.length = buf.length) (i : ℕ) :
    octet (flip buf err) i = octet buf i ^^^ octet err i := by
  rw [octet, octet, octet, List.getD_eq_getElem?_getD, List.getD_eq_getElem?_getD,
    List.getD_eq_getElem?_getD, flip, List.getElem?_zipWith]
  by_cases hi : i < buf.length
  · rw [List.getElem?_eq_getElem hi, List.getElem?_eq_getElem (hlen ▸ hi)]
    rfl
  · rw [List.getElem?_eq_none (not_lt.1 hi), List.getElem?_eq_none (hlen ▸ not_lt.1 hi)]
    rfl

/-- The length field survives exactly if its octets do. -/
theorem dataLength_flip (hlen : err.length = buf.length) :
    (ccsdsParsePrimary (flip buf err)).dataLength = (ccsdsParsePrimary buf).dataLength ↔
      octet err 4 = 0 ∧ octet err 5 = 0 := by
  have hxor (a e : U8) : a ^^^ e = a ↔ e = 0 := by
    have h := BitVec.xor_right_inj (x := e) (y := 0#8) a
    rwa [BitVec.xor_zero] at h
  change be16 (octet (flip buf err) 4) (octet (flip buf err) 5) =
    be16 (octet buf 4) (octet buf 5) ↔ _
  rw [octet_flip hlen, octet_flip hlen, ← hxor (octet buf 4), ← hxor (octet buf 5)]
  constructor
  · intro h
    have hhi := congrArg hi8 h
    have hlo := congrArg lo8 h
    rw [hi8_be16, hi8_be16] at hhi
    rw [lo8_be16, lo8_be16] at hlo
    exact ⟨hhi, hlo⟩
  · rintro ⟨hhi, hlo⟩
    rw [hhi, hlo]

/-- The type of a packet is the fifth bit of its first octet. -/
theorem type_eq_one_iff (b : Bytes) :
    (ccsdsParsePrimary b).type = 1 ↔ (octet b 0).getLsbD 4 = true := by
  have hbit : (ccsdsParsePrimary b).type = ((octet b 0 >>> 4) &&& 1#8) := by
    change ((be16 (octet b 0) (octet b 1) >>> 12) &&& 0x1#16).setWidth 8 = _
    unfold be16
    ext i hi
    simp only [BitVec.getElem_setWidth, BitVec.getLsbD_and, BitVec.getLsbD_ushiftRight,
      BitVec.getLsbD_or, BitVec.getLsbD_shiftLeft, BitVec.getLsbD_setWidth, BitVec.getElem_and]
    interval_cases i <;> simp
  rw [hbit]
  generalize octet b 0 = a
  revert a
  decide +kernel

/-- A command stays one exactly if that bit is not hit. -/
theorem type_flip (hlen : err.length = buf.length) (hbuf : (ccsdsParsePrimary buf).type = 1) :
    (ccsdsParsePrimary (flip buf err)).type = 1 ↔ (octet err 0).getLsbD 4 = false := by
  rw [type_eq_one_iff] at hbuf
  rw [type_eq_one_iff, octet_flip hlen, BitVec.getLsbD_xor, hbuf]
  cases (octet err 0).getLsbD 4 <;> decide

/-- The failure code of a packet hit by `err`: the length, if its field was hit, or else the
checksum. -/
def noiseCode (err : Bytes) : U8 := if octet err 4 = 0 ∧ octet err 5 = 0 then 2 else 1

/-- **The refusal, and its code.** -/
theorem verdict_flip (hbuf : WellFormedTc buf) (hlen : err.length = buf.length)
    (herr : Detectable (octetBits err)) :
    ∃ res, verdict (some (flip buf err)) = .refused res (noiseCode err) := by
  have hmin := hbuf.min_len
  have hmax := hbuf.max_len
  have hfield := hbuf.data_length
  simp only [tcMinPacketLen, tcMaxPacketLen, ccsdsPriHdrLen, pusTcSecHdrLen, tcPecLen]
    at hmin hmax hfield
  set b := flip buf err with hb
  have hsame : b.length = buf.length := length_flip hlen
  -- the checksum of the flipped packet is wrong
  have hcrc : ¬tcCrc16 (b.take (b.length - 2)) =
      be16 (octet b (b.length - 2)) (octet b (b.length - 1)) := by
    intro hgood
    have hzero : tcCrc16 b = 0#16 := (tcCrc16_eq_zero_iff (by omega)).2 hgood
    refine run_ne_zero_of_detectable ?_ herr
      (run_eq_zero_of_flip hlen hbuf.tcCrc16_eq_zero hzero)
    rw [length_octetBits, hlen]
    exact Nat.mul_le_mul_left 8 hbuf.max_len
  have hlow : 13 ≤ b.length := by omega
  have hhigh : b.length ≤ 256 := by omega
  have hfirst : ∃ c, firstFailure b = some c ∧ c.code = noiseCode err := by
    by_cases hhit : octet err 4 = 0 ∧ octet err 5 = 0
    · have hlength : (ccsdsParsePrimary b).dataLength.toNat + 7 = b.length := by
        rw [(dataLength_flip hlen).2 hhit, hsame, ← hfield]
      have hcode : noiseCode err = 2 := if_pos hhit
      simp [firstFailure, tcChecks, parseChecks, hlow, hhigh, hlength, hcrc, hcode]
    · have hlength : ¬(ccsdsParsePrimary b).dataLength.toNat + 7 = b.length := by
        intro hgood
        refine hhit ((dataLength_flip hlen).1 (BitVec.eq_of_toNat_eq ?_))
        rw [← hb]
        omega
      have hcode : noiseCode err = 1 := if_neg hhit
      simp [firstFailure, tcChecks, parseChecks, hlow, hhigh, hlength, hcode]
  obtain ⟨c, hc, hcode⟩ := hfirst
  rw [verdict_eq, hc, ← hcode]
  exact ⟨c.result, if_pos (by omega)⟩

end Tmtc

/-! ## The system -/

namespace Flight

/-- **A refused packet** costs one report and one count. -/
theorem refused_ingest (b : Bus FdirMem) (hwired : b.obdh.uplink.exitSafeHook = true) {p : Bytes}
    (h : IsTc p) {res : UplinkResult} {code : U8} (hv : verdict (some p) = .refused res code) :
    Untouched b (fdirIngest b (some p)).2 ∧
      (fdirIngest b (some p)).2.obdh.uplink =
        { b.obdh.uplink with
          rejected := b.obdh.uplink.rejected + 1
          tmSeq := seqNext b.obdh.uplink.tmSeq } ∧
      commandPackets (fdirIngest b (some p)).2 = commandPackets b ++
        if b.obdh.downlink then
          [tmPacket ccsdsApidCmd b.obdh.uplink.tmSeq 1 2 (p.take 4 ++ [code])]
        else [] := by
  have hexit : ¬IsExitCommand (some p) := by
    rintro ⟨parsed, hp, hpair, happ⟩
    rw [verdict_exitSafe hp happ hpair] at hv
    cases hv
  obtain ⟨m, hend⟩ := served_ingest hwired h
  rw [answer_refused _ hv, serve_refused _ _ hv] at hend
  exact ⟨(untouched_ingest hwired h).2 hexit, hend.uplink, hend.sent⟩

/-- **Noise is harmless.**  Take any packet that the parser accepts and any error pattern
of its length that flips one, two or an odd number of bits, or only bits within sixteen
consecutive ones, and ingest the result in any reachable state.  FDIR, the watchdog and the
spacecraft stay as they are.  If the type bit is not hit, nothing else is touched beyond the
command path, which counts one rejection and answers with one acceptance failure; its code
is 1 if the length field is hit, and 2 otherwise.  If it is hit, the command path is not
even called. -/
theorem noise_harmless (downlink inContact : Bool) (hooks : Option FdirHooks) (confirmCycles : U8)
    (w : Watchdog) (s : SpacecraftState) (ops : List VehicleOp) {buf err : Bytes} {p : TcParsed}
    (hbuf : tcParse (some buf) = .ok p) (hlen : err.length = buf.length)
    (herr : Detectable (octetBits err)) :
    let v := vehicleRun (vehicleInit downlink inContact hooks confirmCycles w s) ops
    let v' := vehicleOp v (.ingest (some (flip buf err)))
    let u := v.bus.obdh.uplink
    (v'.fdir = v.fdir ∧ v'.watchdog = v.watchdog ∧ v'.spacecraft = v.spacecraft) ∧
    ((octet err 0).getLsbD 4 = false →
      Untouched v.bus v'.bus ∧
      v'.bus.obdh.uplink = { u with rejected := u.rejected + 1, tmSeq := seqNext u.tmSeq } ∧
      commandPackets v'.bus = commandPackets v.bus ++
        if v.bus.obdh.downlink then
          [tmPacket ccsdsApidCmd u.tmSeq 1 2 ((flip buf err).take 4 ++ [noiseCode err])]
        else []) ∧
    ((octet err 0).getLsbD 4 = true →
      v'.bus.obdh.uplink = u ∧ v'.bus.obdh.nDispatched = v.bus.obdh.nDispatched) := by
  intro v v' u
  have hwf := wellFormedTc_of_ok hbuf
  have hwired : v.bus.obdh.uplink.exitSafeHook = true := wired_run rfl ops
  have hmin := hwf.min_len
  simp only [tcMinPacketLen, ccsdsPriHdrLen, pusTcSecHdrLen, tcPecLen] at hmin
  have hlong : ccsdsPriHdrLen ≤ (flip buf err).length := by
    rw [length_flip hlen, ccsdsPriHdrLen]
    omega
  have htype := type_flip hlen hwf.type
  cases hhit : (octet err 0).getLsbD 4 with
  | false =>
      have htc : IsTc (flip buf err) := ⟨hlong, htype.2 hhit⟩
      obtain ⟨res, hv⟩ := verdict_flip hwf hlen herr
      obtain ⟨huntouched, huplink, hsent⟩ := refused_ingest v.bus hwired htc hv
      exact ⟨⟨huntouched.user, rfl, rfl⟩, fun _ => ⟨huntouched, huplink, hsent⟩,
        fun h => absurd h (by decide)⟩
  | true =>
      have htm : IsTm (some (flip buf err)) := by
        rcases isTm_or_isTc (some (flip buf err)) with htm | ⟨b, hb, htc⟩
        · exact htm
        · rw [← Option.some.inj hb] at htc
          rw [htype.1 htc.2] at hhit
          cases hhit
      have hbus : v'.bus = (obdhIngestTm v.bus (some (flip buf err))).2 :=
        congrArg Prod.snd (tmIngest_fdirIngest v.bus _ htm)
      have hframe := tmFrame_obdhIngestTm v.bus htm
      refine ⟨⟨?_, rfl, rfl⟩, fun h => absurd h (by decide), fun _ => ?_⟩
      · exact (congrArg Bus.user hbus).trans hframe.user
      · rw [hbus]
        exact ⟨hframe.uplink, (sameCounts_obdhIngestTm v.bus htm).dispatched⟩

/-- The exit command, in SAFE, with one bit of its service flipped. -/
theorem noise_harmless_exit_command :
    let leave : Bytes := [0x18, 0x65, 0xC0, 0x01, 0x00, 0x06, 0x20, 0x82, 0x01, 0x00, 0x00, 0x8F,
      0x56]
    let err : Bytes := [0, 0, 0, 0, 0, 0, 0, 1, 0, 0, 0, 0, 0]
    let low : VehicleOp := .cycle ⟨0x41A00000, 80, 0x41C80000, 0x41A00000, .nominal⟩
    let w : Watchdog := ⟨Vector.replicate nTasks 0, Vector.replicate nTasks 0⟩
    let v := vehicleRun (vehicleInit true false none 1 w ⟨0, 0, 0, 0, .boot⟩)
      [low, low, low, low, low]
    v.fdir.ctx.state = .safe ∧ (vehicleOp v (.ingest (some (flip leave err)))).fdir = v.fdir := by
  intro leave err low w
  have hleave : tcParse (some leave) = .ok (tcFields leave) := by decide +kernel
  have hlen : err.length = leave.length := rfl
  have hodd : Detectable (octetBits err) := .inl (by decide)
  have hall := noise_harmless true false none 1 w ⟨0, 0, 0, 0, .boot⟩ [low, low, low, low, low]
    hleave hlen hodd
  exact ⟨by decide +kernel, hall.1.1⟩

end Flight
end SpacecraftFsw
