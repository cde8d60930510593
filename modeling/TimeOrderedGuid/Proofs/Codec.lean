import TimeOrderedGuid.Proofs.Reading

namespace TimeOrderedGuid

namespace Ticks

theorem bits_eq_emod (ticks : Ticks) : (ticks.bits : Int) = ticks.toInt % 2 ^ 64 := by
  have small := ticks.bits_lt
  have signed : ticks.toInt = (ticks.bits : Int).bmod (2 ^ 64) :=
    BitVec.toInt_eq_toNat_bmod ticks.count.toBitVec
  have remainder : ticks.toInt % 2 ^ 64 = ticks.bits % 2 ^ 64 := by
    rw [signed]
    exact Int.bmod_emod
  omega

/-- Encoding loses nothing of ticks and decoding nothing of eight bytes. An identifier that leads
with encoded ticks starts, in text order, with their two's complement, the most significant byte
first, and goes on with the bytes behind them as they are. -/
theorem codec_spells_big_endian :
    (∀ ticks : Ticks, decode ticks.encode = ticks) ∧
    (∀ memory : Bytes 8, (decode memory).encode = memory) ∧
    ∀ (ticks : Ticks) (origin : Bytes 8),
      let guid := Guid.ofMemory (Bytes.join ticks.encode origin)
      Bytes.slice guid.bytes 0 8 = Bytes.ofNat 8 (ticks.toInt % 2 ^ 64).toNat ∧
        Bytes.slice guid.bytes 8 8 = origin := by
  refine ⟨decode_encode, encode_decode, ?_⟩
  intro ticks origin guid
  have bytes : guid.bytes = Bytes.join (Bytes.ofNat 8 ticks.bits) origin :=
    ticks.bytes_ofMemory_encode origin
  rw [bytes, ← bits_eq_emod, Int.toNat_natCast]
  exact ⟨Bytes.slice_join_head _ _ _ _, Bytes.slice_join_tail _ _ _ _⟩

/-- The tick before the first one has a one in every bit. -/
example : Bytes.slice (Guid.ofMemory (Bytes.join (encode ⟨-1⟩) (Vector.replicate 8 0))).bytes 0 8 =
    Vector.replicate 8 255 := by decide +kernel

end Ticks

end TimeOrderedGuid
