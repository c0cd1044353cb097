import SpacecraftFsw.Obdh.Router

/-!
# Packing telemetry, and the router's own housekeeping

`obdh_pack_tm` and `obdh_build_hk` of `labs/04-obdh/obdh.c`.  `obdhPackTm_eq_some`
relates the packer to the common telemetry envelope.
-/

namespace SpacecraftFsw
namespace Obdh

open Tmtc

variable {υ : Type}

/-- `obdh_pack_tm`.  `cap` is the room in `out`, `none` a null `out`; the result is
`none` where the code returns 0.  Lengths are `size_t`. -/
def obdhPackTm (cap : Option Size) (apid seq : U16) (service subtype : U8) (payload : Bytes) :
    Option Bytes :=
  let total : Size := BitVec.ofNat 64 ccsdsPriHdrLen + BitVec.ofNat 64 pusTmSecHdrLen
    + BitVec.ofNat 64 payload.length
  match cap with
  | none => none
  | some cap =>
    if total > cap ∨ total - BitVec.ofNat 64 ccsdsPriHdrLen - 1#64 > 0xFFFF#64 then none
    else
      let seq := seq &&& 0x3FFF#16
      let pri : CcsdsPriHdr :=
        { version := 0, type := 0, secHdrFlag := 1, apid := apid, seqFlags := 3, seqCount := seq
          dataLength := (total - BitVec.ofNat 64 ccsdsPriHdrLen - 1#64).setWidth 16 }
      let sec : PusTmHdr :=
        { pusVersion := pusTmVersion, service := service, subtype := subtype, counter := seq }
      some (ccsdsPackPrimary pri ++ pusPackSecondary sec ++ payload)

/-- The length field of a payload that the field can count. -/
theorem packedLength {n : ℕ} (hmax : n ≤ 65531) :
    (BitVec.ofNat 64 ccsdsPriHdrLen + BitVec.ofNat 64 pusTmSecHdrLen + BitVec.ofNat 64 n
      - BitVec.ofNat 64 ccsdsPriHdrLen - 1#64).setWidth 16 =
      BitVec.ofNat 16 (pusTmSecHdrLen + n - 1) := by
  apply BitVec.eq_of_toNat_eq
  simp only [ccsdsPriHdrLen, pusTmSecHdrLen, BitVec.toNat_setWidth, BitVec.toNat_sub,
    BitVec.toNat_add, BitVec.toNat_ofNat]
  omega

/-- A payload that fits is packed behind the common envelope. -/
theorem obdhPackTm_eq_some {cap : Size} {payload : Bytes} (hcap : 11 + payload.length ≤ cap.toNat)
    (hmax : payload.length ≤ 65531) (apid seq : U16) (service subtype : U8) :
    obdhPackTm (some cap) apid seq service subtype payload =
      some (tmPacket apid (seq &&& 0x3FFF#16) service subtype payload) := by
  have hfit : ¬(BitVec.ofNat 64 ccsdsPriHdrLen + BitVec.ofNat 64 pusTmSecHdrLen
        + BitVec.ofNat 64 payload.length > cap ∨
      BitVec.ofNat 64 ccsdsPriHdrLen + BitVec.ofNat 64 pusTmSecHdrLen
        + BitVec.ofNat 64 payload.length - BitVec.ofNat 64 ccsdsPriHdrLen - 1#64 > 0xFFFF#64) := by
    simp only [ccsdsPriHdrLen, pusTmSecHdrLen, gt_iff_lt, BitVec.lt_def, BitVec.toNat_add,
      BitVec.toNat_sub, BitVec.toNat_ofNat]
    omega
  simp only [obdhPackTm, hfit, if_false, packedLength hmax]
  rfl

/-- Whatever is packed is packed so. -/
theorem obdhPackTm_some {cap : Option Size} {payload pkt : Bytes} {apid seq : U16}
    {service subtype : U8} (hmax : payload.length ≤ 65531)
    (h : obdhPackTm cap apid seq service subtype payload = some pkt) :
    pkt = tmPacket apid (seq &&& 0x3FFF#16) service subtype payload := by
  unfold obdhPackTm at h
  cases cap with
  | none => cases h
  | some cap =>
      simp only [packedLength hmax] at h
      split at h
      · cases h
      · exact (Option.some.inj h).symm

/-- `put_be32`: the four octets written to `p`. -/
def putBe32 (v : U32) : Bytes :=
  [(v >>> 24).setWidth 8, (v >>> 16).setWidth 8, (v >>> 8).setWidth 8, v.setWidth 8]

/-- The payload of `obdh_build_hk`. -/
def obdhHkPayload (c : ObdhCtx) : Bytes :=
  [BitVec.ofNat 8 c.hkStore.1.count, BitVec.ofNat 8 c.evStore.1.count]
    ++ putBe32 c.hkStore.1.dropped ++ putBe32 c.evStore.1.dropped ++ putBe32 c.nDropUnknown

/-- `obdh_build_hk`: the packet, and the router with its sequence count moved on
if there is one. -/
def obdhBuildHk (b : Bus υ) (cap : Option Size) : Option Bytes × Bus υ :=
  match obdhPackTm cap apidObdhHk b.obdh.hkSeq pusServiceHousekeeping pusHkSubtype
      (obdhHkPayload b.obdh) with
  | none => (none, b)
  | some pkt => (some pkt, { b with obdh := { b.obdh with hkSeq := (b.obdh.hkSeq + 1) % 16384 } })

/-- Building the packet moves the sequence count and nothing else. -/
theorem obdhBuildHk_hkSeq (b : Bus υ) (cap : Option Size) :
    ∃ n, (obdhBuildHk b cap).2 = { b with obdh := { b.obdh with hkSeq := n } } := by
  unfold obdhBuildHk
  split
  · exact ⟨b.obdh.hkSeq, rfl⟩
  · exact ⟨(b.obdh.hkSeq + 1) % 16384, rfl⟩

theorem obdhBuildHk_quiet (b : Bus υ) (cap : Option Size) :
    Relation.ReflTransGen QuietStep b (obdhBuildHk b cap).2 := by
  obtain ⟨n, hn⟩ := obdhBuildHk_hkSeq b cap
  rw [hn]
  exact .single (.hkSeq b n)

theorem obdhBuildHk_frame (b : Bus υ) (cap : Option Size) :
    (obdhBuildHk b cap).2.obdh.uplink = b.obdh.uplink ∧ (obdhBuildHk b cap).2.user = b.user := by
  obtain ⟨n, hn⟩ := obdhBuildHk_hkSeq b cap
  rw [hn]
  exact ⟨rfl, rfl⟩

end Obdh
end SpacecraftFsw
