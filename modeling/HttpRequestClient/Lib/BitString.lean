import Mathlib.Data.Nat.Bitwise
import Mathlib.Tactic.Ring

/-!
# Bit strings, most significant bit first

A bit string is a `List Bool`.  `ofNat width n` is the big-endian view of
the low `width` bits of `n`, and `ofBytes` is the same view of a byte
string, eight bits a byte.

The lemmas split and join the view at a bit boundary (`ofNat_append`,
`ofNat_split`), so a proof about an encoder that shifts a word and emits
its top byte never has to open the definition.
-/

namespace BitString

/-- The low `width` bits of a natural number, most significant first. -/
def ofNat : Nat → Nat → List Bool
  | 0, _ => []
  | width + 1, n => n.testBit width :: ofNat width n

/-- The bits of a byte string, each byte most significant bit first. -/
def ofBytes (bytes : List UInt8) : List Bool :=
  bytes.flatMap (fun byte => ofNat 8 byte.toNat)

@[simp] theorem ofNat_length (width n : Nat) : (ofNat width n).length = width := by
  induction width with
  | zero => rfl
  | succ width ih => simp [ofNat, ih]

@[simp] theorem ofBytes_nil : ofBytes [] = [] := rfl

@[simp] theorem ofBytes_cons (byte : UInt8) (bytes : List UInt8) :
    ofBytes (byte :: bytes) = ofNat 8 byte.toNat ++ ofBytes bytes := by
  simp [ofBytes]

@[simp] theorem ofBytes_append (left right : List UInt8) :
    ofBytes (left ++ right) = ofBytes left ++ ofBytes right := by
  simp [ofBytes]

@[simp] theorem ofBytes_length (bytes : List UInt8) :
    (ofBytes bytes).length = 8 * bytes.length := by
  induction bytes with
  | nil => rfl
  | cons byte bytes ih => simp [ih]; omega

/-- Two numbers with the same low bits have the same view. -/
theorem ofNat_congr {width a b : Nat}
    (h : ∀ i, i < width → a.testBit i = b.testBit i) :
    ofNat width a = ofNat width b := by
  induction width with
  | zero => rfl
  | succ width ih =>
    rw [ofNat, ofNat, h width (by omega), ih (fun i hi => h i (by omega))]

/-- Bits above the view do not count. -/
theorem ofNat_mod (width n : Nat) : ofNat width (n % 2 ^ width) = ofNat width n := by
  apply ofNat_congr
  intro i hi
  simp [Nat.testBit_mod_two_pow, hi]

/-- A number shifted left by `low` bits over a number of `low` bits shows
the two views side by side. -/
theorem ofNat_append (high low a b : Nat) (hb : b < 2 ^ low) :
    ofNat (high + low) (a * 2 ^ low + b) = ofNat high a ++ ofNat low b := by
  induction high with
  | zero =>
    simp only [Nat.zero_add, ofNat, List.nil_append]
    rw [← ofNat_mod, Nat.mul_comm, Nat.mul_add_mod, Nat.mod_eq_of_lt hb]
  | succ high ih =>
    have hwidth : high + 1 + low = high + low + 1 := by omega
    rw [hwidth, ofNat, ofNat, ih, List.cons_append]
    congr 1
    rw [Nat.mul_comm, Nat.testBit_two_pow_mul_add a hb]
    simp

/-- The view splits into the view of the quotient and that of the rest. -/
theorem ofNat_split (high low n : Nat) :
    ofNat (high + low) n = ofNat high (n / 2 ^ low) ++ ofNat low (n % 2 ^ low) := by
  have h := ofNat_append high low (n / 2 ^ low) (n % 2 ^ low)
    (Nat.mod_lt _ (Nat.two_pow_pos low))
  rwa [Nat.div_add_mod'] at h

theorem mem_ofNat {width n : Nat} {bit : Bool} :
    bit ∈ ofNat width n ↔ ∃ i, i < width ∧ n.testBit i = bit := by
  induction width with
  | zero => simp [ofNat]
  | succ width ih =>
    rw [ofNat, List.mem_cons, ih]
    constructor
    · rintro (rfl | ⟨i, hi, hbit⟩)
      · exact ⟨width, by omega, rfl⟩
      · exact ⟨i, by omega, hbit⟩
    · rintro ⟨i, hi, hbit⟩
      rcases Nat.lt_succ_iff_lt_or_eq.mp hi with hlt | rfl
      · exact .inr ⟨i, hlt, hbit⟩
      · exact .inl hbit.symm

/-- A view that is wide enough shows the number. -/
theorem ofNat_inj {width a b : Nat} (ha : a < 2 ^ width) (hb : b < 2 ^ width)
    (h : ofNat width a = ofNat width b) : a = b := by
  induction width generalizing a b with
  | zero => omega
  | succ width ih =>
    have hlow : ∀ n, ofNat width (n % 2 ^ width) = ofNat width n := ofNat_mod width
    rw [ofNat, ofNat, List.cons.injEq] at h
    have hrest : a % 2 ^ width = b % 2 ^ width :=
      ih (Nat.mod_lt _ (Nat.two_pow_pos _)) (Nat.mod_lt _ (Nat.two_pow_pos _))
        (by rw [hlow, hlow]; exact h.2)
    apply Nat.eq_of_testBit_eq
    intro i
    rcases Nat.lt_trichotomy i width with hi | rfl | hi
    · have hbit := congrArg (fun n => n.testBit i) hrest
      simpa [Nat.testBit_mod_two_pow, hi] using hbit
    · exact h.1
    · have hpow : 2 ^ (width + 1) ≤ 2 ^ i := Nat.pow_le_pow_right (by decide) hi
      rw [Nat.testBit_lt_two_pow (by omega), Nat.testBit_lt_two_pow (by omega)]

/-- The leading bits are zero exactly when the number fits the others. -/
theorem ofNat_take_false_iff (high low : Nat) {n : Nat} (h : n < 2 ^ (high + low)) :
    (∀ bit ∈ (ofNat (high + low) n).take high, bit = false) ↔ n < 2 ^ low := by
  have htake : (ofNat (high + low) n).take high = ofNat high (n / 2 ^ low) := by
    rw [ofNat_split]
    exact List.take_left' (ofNat_length high _)
  rw [htake]
  constructor
  · intro hzero
    have hquot : n / 2 ^ low = 0 := by
      apply Nat.eq_of_testBit_eq
      intro i
      rw [Nat.zero_testBit]
      by_cases hi : i < high
      · exact hzero _ (mem_ofNat.mpr ⟨i, hi, rfl⟩)
      · apply Nat.testBit_lt_two_pow
        have hlt : n / 2 ^ low < 2 ^ high := by
          rw [Nat.div_lt_iff_lt_mul (Nat.two_pow_pos _), ← Nat.pow_add]
          exact h
        exact Nat.lt_of_lt_of_le hlt (Nat.pow_le_pow_right (by decide) (by omega))
    exact (Nat.div_eq_zero_iff_lt (Nat.two_pow_pos _)).mp hquot
  · intro hlt bit hbit
    obtain ⟨i, _, rfl⟩ := mem_ofNat.mp hbit
    rw [Nat.div_eq_of_lt hlt, Nat.zero_testBit]

/-- The all-ones number is the string of ones. -/
theorem ofNat_ones (width : Nat) :
    ofNat width (2 ^ width - 1) = List.replicate width true := by
  have hones : ∀ k, k ≤ width → ofNat k (2 ^ width - 1) = List.replicate k true := by
    intro k
    induction k with
    | zero => intro _; rfl
    | succ k ih =>
      intro hk
      rw [ofNat, ih (by omega), List.replicate_succ, Nat.testBit_two_pow_sub_one]
      simp; omega
  exact hones width (Nat.le_refl _)

end BitString
