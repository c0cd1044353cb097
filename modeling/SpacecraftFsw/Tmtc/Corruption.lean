import SpacecraftFsw.Tmtc.Contract

/-!
# Corruption on the uplink

The bits of an accepted packet, read through the checksum register, end at zero.
The register is linear, so a second accepted packet of the same length can only
differ by an error pattern that the register cannot see, and the short, odd and
double patterns are not among those.

* `ccitt_order` — the order of `x` modulo the generator exceeds the number of
  bits of the longest telecommand.
* `corruption_detected` — no such pattern turns an accepted packet into another,
  and the command path answers it with one acceptance failure.
-/

namespace SpacecraftFsw
namespace Tmtc

/-! ## Error patterns -/

/-- `buf` with the bits of `err` flipped. -/
def flip (buf err : Bytes) : Bytes := List.zipWith (· ^^^ ·) buf err

/-- The error patterns the checksum is there for, over the transmitted bits: one,
two or an odd number of flips, or a burst within sixteen consecutive bits. -/
def Detectable (e : List Bool) : Prop :=
  e.count true = 1 ∨ e.count true = 2 ∨ Odd (e.count true) ∨
    (true ∈ e ∧ ∃ s, ∀ i, e[i]? = some true → s ≤ i ∧ i < s + 16)

@[simp] theorem length_flip {buf err : Bytes} (h : err.length = buf.length) :
    (flip buf err).length = buf.length := by
  rw [flip, List.length_zipWith, h, min_self]

/-! ## The generator -/

/-- Whether the first `n` steps from `x` stay away from `a`. -/
def avoids (f : U16 → U16) (a : U16) : ℕ → U16 → Bool
  | 0, _ => true
  | n + 1, x => x != a && avoids f a n (f x)

theorem avoids_iterate {f : U16 → U16} {a : U16} {n : ℕ} {x : U16} (h : avoids f a n x = true) :
    ∀ d < n, f^[d] x ≠ a := by
  induction n generalizing x with
  | zero => exact fun d hd => absurd hd (Nat.not_lt_zero d)
  | succ n ih =>
      rw [avoids, Bool.and_eq_true, bne_iff_ne] at h
      intro d hd
      cases d with
      | zero => exact h.1
      | succ d => exact ih h.2 d (by omega)

/-- Two flipped bits of one telecommand are never a multiple of the order apart. -/
theorem ccitt_order : ∀ d, 0 < d → d < 8 * tcMaxPacketLen →
    (Crc.shift ccitt)^[d] (BitVec.intMin 16) ≠ BitVec.intMin 16 := by
  have h : avoids (Crc.shift ccitt) (BitVec.intMin 16) 2047
      (Crc.shift ccitt (BitVec.intMin 16)) = true := by decide +kernel
  intro d hpos hd
  obtain ⟨d, rfl⟩ : ∃ d', d = d' + 1 := ⟨d - 1, by omega⟩
  rw [Function.iterate_succ_apply]
  exact avoids_iterate h d (by rw [tcMaxPacketLen] at hd; omega)

theorem ccitt_parity : Crc.parity ccitt = 1 := by decide

/-- **The register sees every detectable pattern.** -/
theorem run_ne_zero_of_detectable {e : List Bool} (hlen : e.length ≤ 8 * tcMaxPacketLen)
    (he : Detectable e) : Crc.run ccitt 0#16 e ≠ 0#16 := by
  rcases he with hone | htwo | hodd | ⟨hmem, s, hs⟩
  · exact Crc.run_ne_zero_of_odd ccitt ccitt_parity (by decide) (by rw [hone]; exact odd_one)
  · exact Crc.run_ne_zero_of_two ccitt (by decide) ccitt_order hlen htwo
  · exact Crc.run_ne_zero_of_odd ccitt ccitt_parity (by decide) hodd
  · exact Crc.run_ne_zero_of_burst ccitt (by decide) hmem hs

/-! ## Detection -/

/-- Two packets of one length that leave the register empty differ by a pattern that it
misses. -/
theorem run_eq_zero_of_flip {buf err : Bytes} (hlen : err.length = buf.length)
    (hzero : tcCrc16 buf = 0#16) (hzero' : tcCrc16 (flip buf err) = 0#16) :
    Crc.run ccitt 0#16 (octetBits err) = 0#16 := by
  rw [tcCrc16_eq_run] at hzero hzero'
  have hlin := Crc.run_xor ccitt 0xFFFF#16 0#16 (x := octetBits buf) (y := octetBits err)
    (by simp [hlen])
  rw [← octetBits_xor hlen.symm, BitVec.xor_zero, hzero, BitVec.zero_xor] at hlin
  exact hlin.symm.trans hzero'

/-- Two accepted packets of one length differ by such a pattern. -/
theorem run_eq_zero_of_accepted {buf err : Bytes} (hlen : err.length = buf.length)
    (hbuf : WellFormedTc buf) (hflip : WellFormedTc (flip buf err)) :
    Crc.run ccitt 0#16 (octetBits err) = 0#16 :=
  run_eq_zero_of_flip hlen hbuf.tcCrc16_eq_zero hflip.tcCrc16_eq_zero

/-- **Corruption is detected.**  Take any accepted packet and any error pattern of
its length that flips one, two or an odd number of bits, or only bits within
sixteen consecutive ones.  The parser does not accept the result; the command path
executes nothing on it and answers with exactly one acceptance failure. -/
theorem corruption_detected {buf err : Bytes} {p : TcParsed} (hbuf : tcParse (some buf) = .ok p)
    (hlen : err.length = buf.length) (herr : Detectable (octetBits err)) :
    (∀ q, tcParse (some (flip buf err)) ≠ .ok q) ∧
      ∀ (ω : Type) (hook : Hook ω) (s : UplinkState ω),
        let r := uplinkHandleTc hook s (some (flip buf err))
        r.1 ≠ .ok ∧ r.2.ctx.executed = s.ctx.executed ∧ r.2.ctx.connTests = s.ctx.connTests ∧
          r.2.world = s.world ∧
          ∃ code, r.2.out.reports =
            [tmPacket ccsdsApidCmd s.ctx.tmSeq 1 2 ((flip buf err).take 4 ++ [code])] := by
  have hwf := wellFormedTc_of_ok hbuf
  have hreject : ∀ q, tcParse (some (flip buf err)) ≠ .ok q := by
    intro q hq
    refine run_ne_zero_of_detectable ?_ herr
      (run_eq_zero_of_accepted hlen hwf (wellFormedTc_of_ok hq))
    rw [length_octetBits, hlen]
    exact Nat.mul_le_mul_left 8 hwf.max_len
  refine ⟨hreject, ?_⟩
  intro ω hook s
  have hmin := hwf.min_len
  simp only [tcMinPacketLen, ccsdsPriHdrLen, pusTcSecHdrLen, tcPecLen] at hmin
  have hfour : 4 ≤ (flip buf err).length := by
    rw [length_flip hlen]
    omega
  cases hv : verdict (some (flip buf err)) with
  | accepted q handler => exact absurd (verdict_accepted hv).1 (hreject q)
  | unidentified e =>
      rcases verdict_unidentified hv with h | ⟨b, h, hshort⟩
      · cases h
      · rw [← Option.some.inj h] at hshort
        omega
  | refused res code =>
      obtain ⟨b, c, hb, -, hc, rfl, -⟩ := verdict_refused hv
      obtain ⟨hres, hworld, hctx, hem⟩ := uplinkHandleTc_refused hook s hv
      rw [verificationReport_failure hfour (by decide)] at hem
      refine ⟨?_, by rw [hctx], by rw [hctx], hworld, code, hem.reports⟩
      rw [hres]
      exact result_ne_ok c (List.mem_of_find?_eq_some hc)

/-- A connection test with one bit of its subtype flipped. -/
theorem corruption_detected_single_flip :
    let buf : Bytes := [0x18, 0x65, 0xC0, 0, 0, 6, 0x29, 17, 1, 0, 0, 0x3d, 0xba]
    let err : Bytes := [0, 0, 0, 0, 0, 0, 0, 0, 2, 0, 0, 0, 0]
    (∀ q, tcParse (some (flip buf err)) ≠ .ok q) ∧
      ∀ (ω : Type) (hook : Hook ω) (s : UplinkState ω),
        let r := uplinkHandleTc hook s (some (flip buf err))
        r.1 ≠ .ok ∧ r.2.ctx.executed = s.ctx.executed ∧ r.2.ctx.connTests = s.ctx.connTests ∧
          r.2.world = s.world ∧
          ∃ code, r.2.out.reports =
            [tmPacket ccsdsApidCmd s.ctx.tmSeq 1 2 ((flip buf err).take 4 ++ [code])] :=
  corruption_detected (p := tcFields [0x18, 0x65, 0xC0, 0, 0, 6, 0x29, 17, 1, 0, 0, 0x3d, 0xba])
    (by decide +kernel) rfl (.inl (by decide))

end Tmtc
end SpacecraftFsw
