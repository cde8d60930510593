namespace TimeOrderedGuid

abbrev Bytes (length : Nat) := Vector UInt8 length

namespace Bytes

variable {length : Nat}

def ofList? (length : Nat) (bytes : List UInt8) : Option (Bytes length) :=
  if exact : bytes.length = length then some ⟨bytes.toArray, by simpa using exact⟩ else none

/-- The number spelled with the most significant byte first. -/
def toNat (bytes : Bytes length) : Nat :=
  bytes.toList.foldl (fun number byte => number * 256 + byte.toNat) 0

/-- The low-order bytes of a number, the most significant first; higher bytes are dropped. -/
def ofNat (length number : Nat) : Bytes length :=
  Vector.ofFn fun place => UInt8.ofNat (number >>> (8 * (length - 1 - place.val)))

def toNatReversed (bytes : Bytes length) : Nat := Bytes.toNat bytes.reverse

/-- The low-order bytes of a number, the least significant first; higher bytes are dropped. -/
def ofNatReversed (length number : Nat) : Bytes length := (ofNat length number).reverse

def slice (bytes : Bytes length) (start width : Nat) (fits : start + width ≤ length := by decide) :
    Bytes width :=
  Vector.ofFn fun place => bytes[start + place.val]

def join {head tail : Nat} (first : Bytes head) (second : Bytes tail)
    (whole : head + tail = length := by decide) : Bytes length :=
  (first ++ second).cast whole

/-- The string whose byte at each place is taken from the position that the table names there. -/
def gather {width : Nat} (bytes : Bytes length) (table : Vector (Fin length) width) : Bytes width :=
  table.map fun position => bytes[position]

/-- The bytes in decimal, for diagnostics. -/
def inspect (bytes : Bytes length) : String :=
  "[" ++ ", ".intercalate (bytes.toList.map fun byte => toString byte.toNat) ++ "]"

theorem ofList?_eq_some_iff {bytes : List UInt8} {exact : Bytes length} :
    ofList? length bytes = some exact ↔ exact.toList = bytes := by
  unfold ofList?
  split
  · constructor
    · intro same
      cases same
      rfl
    · intro same
      subst same
      rfl
  · rename_i wrong
    simp only [reduceCtorEq, false_iff]
    intro same
    exact wrong (by simp [← same])

@[simp]
theorem getElem_ofNat (number place : Nat) (inside : place < length) :
    (ofNat length number)[place] = UInt8.ofNat (number >>> (8 * (length - 1 - place))) := by
  simp [ofNat]

@[simp]
theorem getElem_slice (bytes : Bytes length) (start width place : Nat)
    (fits : start + width ≤ length) (inside : place < width) :
    (slice bytes start width fits)[place] = bytes[start + place] := by
  simp [slice]

theorem getElem_join {head tail : Nat} (first : Bytes head) (second : Bytes tail)
    (whole : head + tail = length) (place : Nat) (inside : place < length) :
    (join first second whole)[place] =
      if early : place < head then first[place] else second[place - head] := by
  simp [join, Vector.getElem_append]

@[simp]
theorem toList_join {head tail : Nat} (first : Bytes head) (second : Bytes tail)
    (whole : head + tail = length) :
    (join first second whole).toList = first.toList ++ second.toList := by
  subst whole
  simp [join, Vector.toList_append]

@[simp]
theorem slice_join_head {head tail : Nat} (first : Bytes head) (second : Bytes tail)
    (whole : head + tail = length) (fits : 0 + head ≤ length) :
    slice (join first second whole) 0 head fits = first := by
  apply Vector.ext
  intro place inside
  simp [getElem_join, inside]

@[simp]
theorem slice_join_tail {head tail : Nat} (first : Bytes head) (second : Bytes tail)
    (whole : head + tail = length) (fits : head + tail ≤ length) :
    slice (join first second whole) head tail fits = second := by
  apply Vector.ext
  intro place inside
  have notBefore : ¬ head + place < head := by omega
  simp [getElem_join, notBefore]

theorem slice_join_later {head tail : Nat} (first : Bytes head) (second : Bytes tail)
    (whole : head + tail = length) (start width : Nat) (fits : head + start + width ≤ length)
    (within : start + width ≤ tail) :
    slice (join first second whole) (head + start) width fits =
      slice second start width within := by
  apply Vector.ext
  intro place inside
  have notBefore : ¬ head + start + place < head := by omega
  have further : head + start + place - head = start + place := by omega
  simp [getElem_join, notBefore, further]

theorem join_slice_slice {head tail width : Nat} (bytes : Bytes length) (start : Nat)
    (whole : head + tail = width) (front : start + head ≤ length)
    (back : start + head + tail ≤ length) (both : start + width ≤ length) :
    join (slice bytes start head front) (slice bytes (start + head) tail back) whole =
      slice bytes start width both := by
  apply Vector.ext
  intro place inside
  rw [getElem_join]
  split
  · simp
  · rename_i late
    have further : start + head + (place - head) = start + place := by omega
    simp [further]

theorem join_slice {head tail : Nat} (bytes : Bytes length) (whole : head + tail = length)
    (front : 0 + head ≤ length) (back : head + tail ≤ length) :
    join (slice bytes 0 head front) (slice bytes head tail back) whole = bytes := by
  have both : 0 + length ≤ length := by omega
  have joined := join_slice_slice bytes 0 whole front (by omega) both
  have everything : slice bytes 0 length both = bytes := by
    apply Vector.ext
    intro place inside
    simp
  rw [everything] at joined
  simpa only [Nat.zero_add] using joined

@[simp]
theorem getElem_gather {width : Nat} (bytes : Bytes length) (table : Vector (Fin length) width)
    (place : Nat) (inside : place < width) :
    (gather bytes table)[place] = bytes[table[place]] := by
  simp [gather]

theorem gather_gather {middle width : Nat} (bytes : Bytes length)
    (first : Vector (Fin length) middle) (second : Vector (Fin middle) width) :
    gather (gather bytes first) second =
      gather bytes (second.map fun position => first[position]) := by
  apply Vector.ext
  intro place inside
  simp

/-- A table undoes another when following both from any place leads back to it. -/
theorem gather_gather_cancel {first second : Vector (Fin length) length}
    (inverse : ∀ place : Fin length, first.get (second.get place) = place) (bytes : Bytes length) :
    (bytes.gather first).gather second = bytes := by
  apply Vector.ext
  intro place inside
  have back : first[second[place]] = ⟨place, inside⟩ := inverse ⟨place, inside⟩
  rw [getElem_gather, Fin.getElem_fin, getElem_gather]
  exact congrArg (fun position : Fin length => bytes[position]) back

/-- Bytes that a table takes from behind the part that was joined first are bytes of the second. -/
theorem gather_join_behind {head tail width : Nat} (first : Bytes head) (second : Bytes tail)
    (whole : head + tail = length) {places : Vector (Fin length) width}
    {behind : Vector (Fin tail) width}
    (same : ∀ place : Fin width, (places.get place).val = head + (behind.get place).val) :
    (join first second whole).gather places = second.gather behind := by
  apply Vector.ext
  intro place inside
  have position : places[place].val = head + behind[place].val := same ⟨place, inside⟩
  have notBefore : ¬ head + behind[place].val < head := by omega
  rw [getElem_gather, getElem_gather, Fin.getElem_fin, getElem_join]
  simp only [position, notBefore, dite_false, Nat.add_sub_cancel_left, Fin.getElem_fin]

end Bytes

end TimeOrderedGuid
