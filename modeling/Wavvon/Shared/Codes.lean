import Mathlib.Algebra.Group.Nat.Defs
import Mathlib.Data.List.Basic

set_option autoImplicit false

namespace Codes

variable {α β B : Type}

-- What an encoder wrote can be split off the front of any longer string.
def Cancels (enc : α → List B) (dom : α → Prop) : Prop :=
  ∀ a b rest tail, dom a → dom b → enc a ++ rest = enc b ++ tail → a = b ∧ rest = tail

def Distinct (enc : α → List B) (dom : α → Prop) : Prop :=
  ∀ a b, dom a → dom b → enc a = enc b → a = b

theorem Cancels.distinct {enc : α → List B} {dom : α → Prop} (cancels : Cancels enc dom) :
    Distinct enc dom := by
  intro a b inA inB same
  exact (cancels a b [] [] inA inB (by simpa using same)).1

theorem Cancels.mono {enc : α → List B} {dom small : α → Prop} (cancels : Cancels enc dom)
    (within : ∀ a, small a → dom a) : Cancels enc small :=
  fun a b rest tail inA inB same => cancels a b rest tail (within a inA) (within b inB) same

theorem cancels_of_width {enc : α → List B} {dom : α → Prop} (width : Nat)
    (sized : ∀ a, (enc a).length = width) (distinct : Distinct enc dom) : Cancels enc dom := by
  intro a b rest tail inA inB same
  obtain ⟨heads, rests⟩ := List.append_inj same (by rw [sized, sized])
  exact ⟨distinct a b inA inB heads, rests⟩

theorem Cancels.seq {first : α → List B} {second : β → List B} {p : α → Prop} {q : β → Prop}
    (head : Cancels first p) (next : Cancels second q) :
    Cancels (fun x : α × β => first x.1 ++ second x.2) (fun x => p x.1 ∧ q x.2) := by
  rintro ⟨a, c⟩ ⟨b, d⟩ rest tail ⟨inA, inC⟩ ⟨inB, inD⟩ same
  simp only [List.append_assoc] at same
  obtain ⟨rfl, later⟩ := head a b _ _ inA inB same
  obtain ⟨rfl, rests⟩ := next c d _ _ inC inD later
  exact ⟨rfl, rests⟩

theorem Cancels.last {first : α → List B} {second : β → List B} {p : α → Prop} {q : β → Prop}
    (head : Cancels first p) (final : Distinct second q) :
    Distinct (fun x : α × β => first x.1 ++ second x.2) (fun x => p x.1 ∧ q x.2) := by
  rintro ⟨a, c⟩ ⟨b, d⟩ ⟨inA, inC⟩ ⟨inB, inD⟩ same
  obtain ⟨rfl, later⟩ := head a b _ _ inA inB same
  exact Prod.ext rfl (final c d inC inD later)

theorem raw_distinct : Distinct (fun bytes : List B => bytes) (fun _ => True) :=
  fun _ _ _ _ same => same

-- Equal counts are known before the elements are read, so the two lists end together.
theorem Cancels.flatMap {enc : α → List B} {dom : α → Prop} (cancels : Cancels enc dom)
    (xs ys : List α) (rest tail : List B) (sameLength : xs.length = ys.length)
    (inXs : ∀ x ∈ xs, dom x) (inYs : ∀ y ∈ ys, dom y)
    (same : xs.flatMap enc ++ rest = ys.flatMap enc ++ tail) : xs = ys ∧ rest = tail := by
  induction xs generalizing ys with
  | nil =>
    cases ys with
    | nil => simpa using same
    | cons y ys => simp at sameLength
  | cons x xs ih =>
    cases ys with
    | nil => simp at sameLength
    | cons y ys =>
      simp only [List.flatMap_cons, List.append_assoc] at same
      obtain ⟨rfl, later⟩ := cancels x y _ _ (inXs x (by simp)) (inYs y (by simp)) same
      obtain ⟨rfl, rests⟩ := ih ys (by simpa using sameLength)
        (fun z member => inXs z (by simp [member])) (fun z member => inYs z (by simp [member])) later
      exact ⟨rfl, rests⟩

theorem Cancels.counted {enc : α → List B} {count : Nat → List B} {dom : α → Prop} {small : Nat → Prop}
    (cancels : Cancels enc dom) (counts : Cancels count small) :
    Cancels (fun xs : List α => count xs.length ++ xs.flatMap enc)
      (fun xs => small xs.length ∧ ∀ x ∈ xs, dom x) := by
  intro xs ys rest tail inXs inYs same
  simp only [List.append_assoc] at same
  obtain ⟨lengths, later⟩ := counts _ _ _ _ inXs.1 inYs.1 same
  exact cancels.flatMap xs ys rest tail lengths inXs.2 inYs.2 later

-- With no count, the end of the string ends the list: elements must not be empty.
theorem Cancels.uncounted {enc : α → List B} {dom : α → Prop} (cancels : Cancels enc dom)
    (inhabited : ∀ a, enc a ≠ []) :
    Distinct (fun xs : List α => xs.flatMap enc) (fun xs => ∀ x ∈ xs, dom x) := by
  intro xs
  induction xs with
  | nil =>
    intro ys _ _ same
    cases ys with
    | nil => rfl
    | cons y ys => simp [inhabited y] at same
  | cons x xs ih =>
    intro ys inXs inYs same
    cases ys with
    | nil => simp [inhabited x] at same
    | cons y ys =>
      simp only [List.flatMap_cons] at same
      obtain ⟨rfl, later⟩ := cancels x y _ _ (inXs x (by simp)) (inYs y (by simp)) same
      rw [ih ys (fun z member => inXs z (by simp [member]))
        (fun z member => inYs z (by simp [member])) later]

theorem cancels_terminated (stop : B) :
    Cancels (fun bytes : List B => bytes ++ [stop]) (fun bytes => stop ∉ bytes) := by
  intro xs
  induction xs with
  | nil =>
    intro ys rest tail _ clean same
    cases ys with
    | nil => simpa using same
    | cons y ys => simp_all
  | cons x xs ih =>
    intro ys rest tail cleanX cleanY same
    cases ys with
    | nil => simp_all
    | cons y ys =>
      simp only [List.cons_append, List.cons.injEq] at same
      obtain ⟨rfl, later⟩ := same
      obtain ⟨rfl, rests⟩ := ih ys rest tail (by simp_all) (by simp_all) later
      exact ⟨rfl, rests⟩

def littleEndian : Nat → Nat → List UInt8
  | 0, _ => []
  | count + 1, value => UInt8.ofNat value :: littleEndian count (value / 256)

theorem littleEndian_length (count value : Nat) : (littleEndian count value).length = count := by
  induction count generalizing value with
  | zero => rfl
  | succ count ih => simp [littleEndian, ih]

theorem littleEndian_distinct (count : Nat) :
    Distinct (littleEndian count) (fun value => value < 256 ^ count) := by
  intro a
  induction count generalizing a with
  | zero =>
    intro b inA inB _
    simp only [Nat.pow_zero, Nat.lt_one_iff] at inA inB
    rw [inA, inB]
  | succ count ih =>
    intro b inA inB same
    simp only [littleEndian, List.cons.injEq] at same
    have low : a % 256 = b % 256 := by simpa using congrArg UInt8.toNat same.1
    have high : a / 256 = b / 256 := by
      apply ih _ _ _ _ same.2 <;> (rw [Nat.pow_succ] at *; omega)
    omega

theorem littleEndian_cancels (count : Nat) :
    Cancels (littleEndian count) (fun value => value < 256 ^ count) :=
  cancels_of_width count (littleEndian_length count) (littleEndian_distinct count)

def bigEndian (count value : Nat) : List UInt8 := (littleEndian count value).reverse

def bigValue (bytes : List UInt8) : Nat := bytes.foldl (fun value byte => value * 256 + byte.toNat) 0

theorem bigEndian_length (count value : Nat) : (bigEndian count value).length = count := by
  rw [bigEndian, List.length_reverse, littleEndian_length]

theorem bigValue_bigEndian (count value : Nat) : bigValue (bigEndian count value) = value % 256 ^ count := by
  rw [bigValue, bigEndian, List.foldl_reverse]
  induction count generalizing value with
  | zero => simp [littleEndian, Nat.mod_one]
  | succ count ih =>
    rw [littleEndian, List.foldr_cons, ih, Nat.pow_succ, Nat.mul_comm (256 ^ count) 256, Nat.mod_mul,
      UInt8.toNat_ofNat']
    omega

theorem bigEndian_bigValue {bytes : List UInt8} {count : Nat} (sized : bytes.length = count) :
    bigEndian count (bigValue bytes) = bytes := by
  suffices reversed : ∀ l : List UInt8,
      littleEndian l.length (l.foldr (fun byte value => value * 256 + byte.toNat) 0) = l by
    have back := reversed bytes.reverse
    rw [List.foldr_reverse, List.length_reverse, sized] at back
    rw [bigEndian, bigValue, back, List.reverse_reverse]
  intro l
  induction l with
  | nil => rfl
  | cons b rest ih =>
    have short := b.toNat_lt
    have low : UInt8.ofNat ((rest.foldr (fun byte value => value * 256 + byte.toNat) 0) * 256 + b.toNat) = b := by
      apply UInt8.toNat_inj.mp
      rw [UInt8.toNat_ofNat']
      omega
    have high : ((rest.foldr (fun byte value => value * 256 + byte.toNat) 0) * 256 + b.toNat) / 256 =
        rest.foldr (fun byte value => value * 256 + byte.toNat) 0 := by omega
    rw [List.foldr_cons, List.length_cons, littleEndian, low, high, ih]

theorem bigValue_lt {bytes : List UInt8} {count : Nat} (sized : bytes.length = count) : bigValue bytes < 256 ^ count := by
  have read := bigValue_bigEndian count (bigValue bytes)
  rw [bigEndian_bigValue sized] at read
  rw [read]
  exact Nat.mod_lt _ (Nat.pow_pos (by decide))

end Codes
