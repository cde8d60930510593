import Mathlib.Algebra.Ring.Nat
import TimeOrderedGuid.Bytes.Basic

namespace TimeOrderedGuid.Bytes

variable {length : Nat}

/-- The number that a list spells after digits that spell `start`. -/
def spelled (start : Nat) (bytes : List UInt8) : Nat :=
  bytes.foldl (fun number byte => number * 256 + byte.toNat) start

theorem toNat_eq_spelled (bytes : Bytes length) :
    toNat bytes = spelled 0 bytes.toList := rfl

theorem spelled_cons (start : Nat) (byte : UInt8) (bytes : List UInt8) :
    spelled start (byte :: bytes) = spelled (start * 256 + byte.toNat) bytes := rfl

private theorem spelled_concat (start : Nat) (bytes : List UInt8) (byte : UInt8) :
    spelled start (bytes ++ [byte]) = spelled start bytes * 256 + byte.toNat := by
  simp [spelled]

/-- Digits in front count as many times as the rest has values. -/
private theorem spelled_start (start : Nat) (bytes : List UInt8) :
    spelled start bytes = start * 256 ^ bytes.length + spelled 0 bytes := by
  induction bytes generalizing start with
  | nil => simp [spelled]
  | cons byte bytes ih =>
    rw [spelled_cons, spelled_cons, ih, ih (0 * 256 + byte.toNat), List.length_cons,
      Nat.pow_succ', Nat.add_mul, Nat.mul_assoc, Nat.zero_mul, Nat.zero_add, Nat.add_assoc]

private theorem spelled_lt (bytes : List UInt8) : spelled 0 bytes < 256 ^ bytes.length := by
  induction bytes with
  | nil => simp [spelled]
  | cons byte bytes ih =>
    have small := byte.toNat_lt
    rw [spelled_cons, spelled_start, List.length_cons, Nat.pow_succ', Nat.zero_mul, Nat.zero_add]
    calc byte.toNat * 256 ^ bytes.length + spelled 0 bytes
        < byte.toNat * 256 ^ bytes.length + 256 ^ bytes.length := Nat.add_lt_add_left ih _
      _ = (byte.toNat + 1) * 256 ^ bytes.length := (Nat.succ_mul _ _).symm
      _ ≤ 256 * 256 ^ bytes.length := Nat.mul_le_mul_right _ (by omega)

theorem spelled_lt_of_start_lt {first second : List UInt8} {low high : Nat}
    (sameLength : first.length = second.length) (less : low < high) :
    spelled low first < spelled high second := by
  have small := spelled_lt first
  have further : (low + 1) * 256 ^ second.length ≤ high * 256 ^ second.length :=
    Nat.mul_le_mul_right _ less
  rw [spelled_start, spelled_start high]
  rw [sameLength] at small ⊢
  calc low * 256 ^ second.length + spelled 0 first
      < low * 256 ^ second.length + 256 ^ second.length := Nat.add_lt_add_left small _
    _ = (low + 1) * 256 ^ second.length := (Nat.succ_mul _ _).symm
    _ ≤ high * 256 ^ second.length := further
    _ ≤ high * 256 ^ second.length + spelled 0 second := Nat.le_add_right _ _

private theorem spelled_injective {first second : List UInt8} (start : Nat)
    (sameLength : first.length = second.length)
    (same : spelled start first = spelled start second) : first = second := by
  induction first generalizing second start with
  | nil => exact (List.length_eq_zero_iff.mp sameLength.symm).symm
  | cons byte first ih =>
    cases second with
    | nil => cases sameLength
    | cons other second =>
      have tails : first.length = second.length := Nat.succ.inj sameLength
      rw [spelled_cons, spelled_cons] at same
      rcases Nat.lt_trichotomy byte.toNat other.toNat with less | heads | more
      · exact absurd same (Nat.ne_of_lt (spelled_lt_of_start_lt tails (by omega)))
      · have bytes := UInt8.toNat_inj.mp heads
        subst bytes
        rw [ih (start * 256 + byte.toNat) tails same]
      · exact absurd same.symm (Nat.ne_of_lt (spelled_lt_of_start_lt tails.symm (by omega)))

private theorem spelled_eq_zero_iff {start : Nat} {bytes : List UInt8} :
    spelled start bytes = 0 ↔ start = 0 ∧ ∀ byte ∈ bytes, byte = 0 := by
  induction bytes generalizing start with
  | nil => simp [spelled]
  | cons byte bytes ih =>
    have digits : start * 256 + byte.toNat = 0 ↔ start = 0 ∧ byte = 0 := by
      rw [← UInt8.toNat_inj, UInt8.toNat_zero]
      omega
    rw [spelled_cons, ih, digits, List.forall_mem_cons, and_assoc]

theorem toNat_eq_zero_iff {bytes : Bytes length} :
    toNat bytes = 0 ↔ ∀ byte ∈ bytes, byte = 0 := by
  rw [toNat_eq_spelled, spelled_eq_zero_iff]
  simp only [true_and, Vector.mem_toList_iff]

theorem toNat_lt (bytes : Bytes length) : toNat bytes < 256 ^ length := by
  have bound := spelled_lt bytes.toList
  rwa [Vector.length_toList] at bound

theorem toNat_injective {first second : Bytes length} (same : toNat first = toNat second) :
    first = second :=
  Vector.toList_inj.mp (spelled_injective 0 (by simp) same)

/-- A string in front counts as many times as the string behind it has values. -/
theorem toNat_join {head tail : Nat} (first : Bytes head) (second : Bytes tail)
    (whole : head + tail = length) :
    toNat (join first second whole) = toNat first * 256 ^ tail + toNat second := by
  have split : spelled 0 (first.toList ++ second.toList) =
      spelled (spelled 0 first.toList) second.toList := by simp [spelled]
  rw [toNat_eq_spelled, toList_join, split, spelled_start, Vector.length_toList,
    ← toNat_eq_spelled, ← toNat_eq_spelled]

/-- The start of a string spells the number without the digits of the rest. -/
theorem toNat_slice_head {head tail : Nat} (bytes : Bytes length) (whole : head + tail = length)
    (front : 0 + head ≤ length) :
    toNat (slice bytes 0 head front) = toNat bytes / 256 ^ tail := by
  have back : head + tail ≤ length := Nat.le_of_eq whole
  have split := toNat_join (slice bytes 0 head front) (slice bytes head tail back) whole
  rw [join_slice bytes whole front back] at split
  rw [split, Nat.mul_comm, Nat.mul_add_div (Nat.pow_pos (by decide)),
    Nat.div_eq_of_lt (toNat_lt _), Nat.add_zero]

private theorem toList_ofNat_succ (length number : Nat) :
    (ofNat (length + 1) number).toList =
      (ofNat length (number / 256)).toList ++ [UInt8.ofNat number] := by
  apply List.ext_getElem
  · simp
  · intro place _ inside
    have placed : place < length + 1 := by simpa using inside
    rw [List.getElem_append]
    split
    · rename_i early
      have before : place < length := by simpa using early
      have further : 8 * (length + 1 - 1 - place) = 8 + 8 * (length - 1 - place) := by omega
      have byte : number >>> 8 = number / 256 := Nat.shiftRight_eq_div_pow number 8
      rw [Vector.getElem_toList, Vector.getElem_toList, getElem_ofNat, getElem_ofNat, further,
        Nat.shiftRight_add, byte]
    · rename_i late
      have last : place = length := by
        have notBefore : ¬ place < length := by simpa using late
        omega
      subst last
      simp [Vector.getElem_toList]

/-- What is written spells the number again, less what the length cannot hold. -/
@[simp]
theorem toNat_ofNat (length number : Nat) :
    toNat (ofNat length number) = number % 256 ^ length := by
  induction length generalizing number with
  | zero => exact (Nat.mod_one number).symm
  | succ length ih =>
    rw [toNat_eq_spelled, toList_ofNat_succ, spelled_concat, ← toNat_eq_spelled, ih]
    rw [Nat.pow_succ', Nat.mod_mul, Nat.mul_comm 256]
    simp only [UInt8.toNat_ofNat']
    omega

@[simp]
theorem toNatReversed_ofNatReversed (length number : Nat) :
    toNatReversed (ofNatReversed length number) = number % 256 ^ length := by
  rw [toNatReversed, ofNatReversed, Vector.reverse_reverse, toNat_ofNat]

@[simp]
theorem ofNat_toNat (bytes : Bytes length) : ofNat length (toNat bytes) = bytes := by
  apply toNat_injective
  rw [toNat_ofNat, Nat.mod_eq_of_lt (toNat_lt bytes)]

theorem toNatReversed_injective {first second : Bytes length}
    (same : toNatReversed first = toNatReversed second) : first = second := by
  have reversed := congrArg Vector.reverse (toNat_injective same)
  rwa [Vector.reverse_reverse, Vector.reverse_reverse] at reversed

theorem toNatReversed_lt (bytes : Bytes length) : toNatReversed bytes < 256 ^ length :=
  toNat_lt bytes.reverse

/-- A string is written from any number that ends in what it spells. -/
theorem ofNatReversed_eq {number : Nat} {bytes : Bytes length}
    (ends : number % 256 ^ length = toNatReversed bytes) : ofNatReversed length number = bytes := by
  have written : ofNat length number = bytes.reverse := by
    apply toNat_injective
    rw [toNat_ofNat, ends, toNatReversed]
  rw [ofNatReversed, written, Vector.reverse_reverse]

end TimeOrderedGuid.Bytes
