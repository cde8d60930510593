import Mathlib.Data.Set.Card
import Mathlib.Order.Interval.Finset.Nat
import TimeOrderedGuid.Proofs.Misreading

/-! How often an identifier in SQL Server order is misread as it stands. In front of it stand its
serial number and its discriminator, from the last byte to the first, and not its ticks. The serial
number leads, so that each serial number that misleads has a place of its own among the leading 24
bits of the window. -/

namespace TimeOrderedGuid

namespace Serial

/-- The number that the bytes of a serial number spell from the last to the first. -/
def reversed (serial : Serial) : Nat := Bytes.toNatReversed (Bytes.ofNat 3 serial.toNat)

theorem reversed_injective {first second : Serial} (same : first.reversed = second.reversed) :
    first = second := by
  have numbers := congrArg Bytes.toNat (Bytes.toNatReversed_injective same)
  rw [Bytes.toNat_ofNat, Bytes.toNat_ofNat] at numbers
  have firstSmall := first.isLt
  have secondSmall := second.isLt
  exact BitVec.eq_of_toNat_eq (by omega)

end Serial

namespace Bytes

def turned (first : Bytes 5) (second : Bytes 3) : Bytes 8 :=
  #v[second[2], second[1], second[0], first[4], first[3], first[2], first[1], first[0]]

private theorem turned_eq_join (first : Bytes 5) (second : Bytes 3) :
    turned first second = join second.reverse first.reverse := by
  apply Vector.ext
  intro place inside
  simp only [getElem_join, Vector.getElem_reverse]
  interval_cases place <;> rfl

private theorem gather_eq_turned (first : Bytes 5) (second : Bytes 3) :
    gather (first ++ second : Bytes 8) #v[7, 6, 5, 4, 3, 2, 1, 0] = turned first second := by
  apply Vector.ext
  intro place inside
  simp only [getElem_gather, Fin.getElem_fin, Vector.getElem_append]
  interval_cases place <;> rfl

theorem toNat_turned (first : Bytes 5) (second : Bytes 3) :
    toNat (turned first second) = toNatReversed second * 2 ^ 40 + toNatReversed first := by
  rw [turned_eq_join, toNat_join]
  rfl

end Bytes

namespace Discriminator

variable (discriminator : Discriminator)

/-- What an identifier in SQL Server order is read for as it stands: the bytes of its serial number,
and then those of its discriminator, from the last to the first. -/
def misreading (serial : Serial) : Ticks :=
  Ticks.spelledBy (Bytes.turned discriminator.bytes (Bytes.ofNat 3 serial.toNat))

theorem bits_misreading (serial : Serial) :
    (discriminator.misreading serial).bits / 2 ^ 40 = serial.reversed := by
  have following : Bytes.toNatReversed discriminator.bytes < 256 ^ 5 := Bytes.toNatReversed_lt _
  have number : (discriminator.misreading serial).bits =
      serial.reversed * 2 ^ 40 + Bytes.toNatReversed discriminator.bytes := by
    rw [misreading, Ticks.bits_spelledBy, Bytes.toNat_turned]
    rfl
  omega

theorem reversed_mem_of_inWindow {serial : Serial} {now : Ticks}
    (strays : (discriminator.misreading serial).InWindow now) :
    Ticks.unixEpoch.toInt >>> (40 : Nat) ≤ serial.reversed ∧
      serial.reversed ≤ now.toInt >>> (40 : Nat) := by
  obtain ⟨notBefore, notAfter⟩ := strays
  rw [Ticks.le_iff_toInt_le] at notBefore notAfter
  have epoch := Ticks.toInt_unixEpoch
  have nonnegative : 0 ≤ (discriminator.misreading serial).toInt := by omega
  have bits := Ticks.bits_of_nonnegative nonnegative
  have leading := discriminator.bits_misreading serial
  rw [Int.shiftRight_eq_div_pow, Int.shiftRight_eq_div_pow]
  omega

end Discriminator

theorem SortOrder.strayTicks_sqlServer (generator : Generator) (count : UInt32) :
    SortOrder.sqlServer.strayTicks (generator.origin count) =
      generator.discriminator.misreading (Serial.ofCount count) := by
  rw [strayTicks, Discriminator.misreading, Serial.bytes_ofCount, Generator.origin,
    Bytes.gather_eq_turned]

namespace Generator

def misreadSerials (discriminator : Discriminator) (ticks now : Ticks) : Set Serial :=
  {serial | ∃ seed : UInt32, Serial.ofCount (seed + 1) = serial ∧
    (issue { order := .sqlServer, discriminator, count := seed } ticks).1.ticksAt now ≠
      some ticks}

theorem ticksAt_issue_sqlServer {discriminator : Discriminator} {ticks now : Ticks}
    (inWindow : ticks.InWindow now) (seed : UInt32) :
    let misread := discriminator.misreading (Serial.ofCount (seed + 1))
    (issue { order := .sqlServer, discriminator, count := seed } ticks).1.ticksAt now =
      if misread.InWindow now then some misread else some ticks := by
  intro misread
  let generator : Generator := { order := .sqlServer, discriminator, count := seed }
  obtain ⟨native, sqlServer⟩ := generator.readings_of_sqlServer rfl ticks (seed + 1)
  have stray : (generator.identifier ticks (seed + 1)).nativeReading = misread :=
    native.trans (SortOrder.strayTicks_sqlServer generator (seed + 1))
  change (generator.identifier ticks (seed + 1)).ticksAt now = _
  rw [Guid.ticksAt, stray, sqlServer, if_pos inWindow]

/-- There are no more serial numbers that mislead than leading bits of ticks in the window. -/
theorem ncard_misreadSerials_le {discriminator : Discriminator} {ticks now : Ticks}
    (inWindow : ticks.InWindow now) :
    ((misreadSerials discriminator ticks now).ncard : Int) ≤
      (now.toInt >>> (40 : Nat)) - (Ticks.unixEpoch.toInt >>> (40 : Nat)) + 1 := by
  let leading :=
    Finset.Icc (Ticks.unixEpoch.toInt >>> (40 : Nat)).toNat (now.toInt >>> (40 : Nat)).toNat
  have placed : ∀ serial ∈ misreadSerials discriminator ticks now,
      serial.reversed ∈ (leading : Set Nat) := by
    rintro serial ⟨seed, rfl, misread⟩
    rw [ticksAt_issue_sqlServer inWindow seed] at misread
    have strays : (discriminator.misreading (Serial.ofCount (seed + 1))).InWindow now := by
      by_contra outside
      exact misread (if_neg outside)
    obtain ⟨notBefore, notAfter⟩ := discriminator.reversed_mem_of_inWindow strays
    rw [Finset.mem_coe, Finset.mem_Icc]
    omega
  have apart : Set.InjOn Serial.reversed (misreadSerials discriminator ticks now) :=
    fun _ _ _ _ same => Serial.reversed_injective same
  have counted := Set.ncard_le_ncard_of_injOn Serial.reversed placed apart leading.finite_toSet
  rw [Set.ncard_coe_finset, Nat.card_Icc] at counted
  obtain ⟨notBefore, notAfter⟩ := inWindow
  rw [Ticks.le_iff_toInt_le] at notBefore notAfter
  have epoch := Ticks.toInt_unixEpoch
  rw [Int.shiftRight_eq_div_pow, Int.shiftRight_eq_div_pow] at counted ⊢
  omega

/-- An identifier in SQL Server order for ticks in the window carries, as it stands, what its serial
number and its discriminator spell from the last byte to the first, if that lies in the window, and
otherwise its own ticks. For one discriminator and the same ticks and present, there are no more
serial numbers that mislead than leading 24 bits of ticks in the window. -/
theorem misreadings_exact_and_bounded (discriminator : Discriminator) {ticks now : Ticks}
    (inWindow : ticks.InWindow now) :
    (∀ seed : UInt32,
      let misread := discriminator.misreading (Serial.ofCount (seed + 1))
      (issue { order := .sqlServer, discriminator, count := seed } ticks).1.ticksAt now =
        if misread.InWindow now then some misread else some ticks) ∧
    ((misreadSerials discriminator ticks now).ncard : Int) ≤
      (now.toInt >>> (40 : Nat)) - (Ticks.unixEpoch.toInt >>> (40 : Nat)) + 1 :=
  ⟨ticksAt_issue_sqlServer inWindow, ncard_misreadSerials_le inWindow⟩

/-- At the start of 2025, fewer than a thousandth of the serial numbers mislead. One of them leads
back to 1998, and its successor does not mislead. -/
theorem misreadings_in_2025 :
    let discriminator : Discriminator := ⟨#v[0xaa, 0xaa, 0xaa, 0xaa, 0xaa]⟩
    let now : Ticks := ⟨638712864000000000⟩
    let generator : Generator := { order := .sqlServer, discriminator, count := 0xc007 }
    now.InWindow now ∧
      (generator.issue now).1.ticksAt now = some ⟨630504680839621290⟩ ∧
      ((generator.issue now).2.issue now).1.ticksAt now = some now ∧
      ((misreadSerials discriminator now now).ncard : Int) ≤ 15787 := by
  intro discriminator now generator
  have inWindow : now.InWindow now := by decide
  obtain ⟨carried, bounded⟩ := misreadings_exact_and_bounded discriminator inWindow
  have inside : (discriminator.misreading (Serial.ofCount 0xc008)).InWindow now := by
    decide +kernel
  have outside : ¬ (discriminator.misreading (Serial.ofCount 0xc009)).InWindow now := by
    decide +kernel
  have misread : discriminator.misreading (Serial.ofCount 0xc008) = ⟨630504680839621290⟩ := by
    decide +kernel
  have leading : (now.toInt >>> (40 : Nat)) - (Ticks.unixEpoch.toInt >>> (40 : Nat)) + 1 = 15787 :=
    by decide
  rw [leading] at bounded
  refine ⟨inWindow, ?_, ?_, bounded⟩
  · rw [carried 0xc007]
    exact (if_pos inside).trans (congrArg some misread)
  · exact (carried 0xc008).trans (if_neg outside)

end Generator

end TimeOrderedGuid
