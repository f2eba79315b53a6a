import HttpRequestClient.CString
import Mathlib.Algebra.Ring.Nat
import Mathlib.Data.List.Induction

/-!
# Decimal numbers

What `snprintf` writes for an integer, and what `strtol` makes of such a text.

* `decimal_digitsValue`: digits without a zero in front are those of their value.
* `toString_eq_decimal_iff`: only the number itself is written like a natural
  number.
-/

namespace HttpRequestClient

/-- The digits of a number. -/
def decimal (n : Nat) : Bytes := ascii (toString n)

/-- The digit of a number below ten. -/
def digit (d : Nat) : UInt8 := UInt8.ofNat (48 + d)

theorem ascii_digitChar {d : Nat} (h : d < 10) : UInt8.ofNat (Nat.digitChar d).toNat = digit d := by
  rw [Nat.toNat_digitChar_of_lt_ten h, digit]

/-- The last digit comes behind those of the tenth. -/
theorem decimal_eq (n : Nat) :
    decimal n = (if n < 10 then [] else decimal (n / 10)) ++ [digit (n % 10)] := by
  simp only [decimal, ascii, Nat.toString_eq_repr, Nat.toList_repr]
  rw [Nat.toDigits_eq_if (by omega)]
  split
  · rename_i h
    rw [List.map_singleton, ascii_digitChar h, Nat.mod_eq_of_lt h, List.nil_append]
  · rw [List.map_append, List.map_singleton, ascii_digitChar (Nat.mod_lt n (by omega))]

theorem digit_spec {d : Nat} (h : d < 10) :
    isdigit (digit d) = true ∧ isDigitOf 10 (digit d) = true ∧ digitValue (digit d) = some d ∧
      (digit d = 48 → d = 0) := by
  have hall : ∀ d < 10, isdigit (digit d) = true ∧ isDigitOf 10 (digit d) = true ∧
      digitValue (digit d) = some d ∧ (digit d = 48 → d = 0) := by
    decide
  exact hall d h

/-- A digit is that of its value. -/
theorem digit_digitValue {c : UInt8} (h : isdigit c = true) :
    ∃ d < 10, c = digit d := by
  simp only [isdigit, decide_eq_true_eq, UInt8.le_iff_toNat_le] at h
  have h0 : 48 ≤ c.toNat := h.1
  have h9 : c.toNat ≤ 57 := h.2
  refine ⟨c.toNat - 48, by omega, ?_⟩
  rw [digit, Nat.add_sub_cancel' h0, UInt8.ofNat_toNat]

theorem decimal_ne_nil (n : Nat) : decimal n ≠ [] := by
  rw [decimal_eq]
  simp

theorem isdigit_decimal (n : Nat) : ∀ c ∈ decimal n, isdigit c = true := by
  induction n using Nat.strongRecOn with
  | ind n ih =>
    intro c hc
    rw [decimal_eq, List.mem_append, List.mem_singleton] at hc
    rcases hc with hc | rfl
    · split at hc
      · cases hc
      · exact ih (n / 10) (by omega) c hc
    · exact (digit_spec (Nat.mod_lt n (by omega))).1

/-- One more digit. -/
theorem digitsValue_concat {base acc : Nat} {digits : Bytes} {c : UInt8}
    (h : ∀ x ∈ digits, isDigitOf base x = true) (hc : isDigitOf base c = true) :
    digitsValue base acc (digits ++ [c]) =
      digitsValue base acc digits * base + (digitValue c).getD 0 := by
  induction digits generalizing acc with
  | nil => simp [digitsValue, hc]
  | cons x digits ih =>
    have hx : isDigitOf base x = true := h x List.mem_cons_self
    rw [List.cons_append, digitsValue, if_pos hx, digitsValue, if_pos hx]
    exact ih fun y hy => h y (List.mem_cons_of_mem _ hy)

theorem digitsValue_decimal (n : Nat) : digitsValue 10 0 (decimal n) = n := by
  induction n using Nat.strongRecOn with
  | ind n ih =>
    obtain ⟨-, hdigit, hvalue, -⟩ := digit_spec (Nat.mod_lt n (y := 10) (by omega))
    rw [decimal_eq]
    split
    · rename_i h
      rw [digitsValue_concat (by simp) hdigit, hvalue, digitsValue, Option.getD_some]
      omega
    · have hdigits : ∀ c ∈ decimal (n / 10), isDigitOf 10 c = true :=
        fun c hc => isDigitOf_of_isdigit (isdigit_decimal _ c hc)
      rw [digitsValue_concat hdigits hdigit, hvalue, ih (n / 10) (by omega), Option.getD_some]
      omega

theorem decimal_injective {m n : Nat} (h : decimal m = decimal n) : m = n := by
  rw [← digitsValue_decimal m, h, digitsValue_decimal]

theorem head?_concat {front : Bytes} (h : front ≠ []) (c : UInt8) :
    (front ++ [c]).head? = front.head? := by
  cases front with
  | nil => exact absurd rfl h
  | cons => rfl

/-- A number does not begin with a zero, but for zero itself. -/
theorem head_decimal {n : Nat} (h : (decimal n).head? = some 48) : n = 0 := by
  induction n using Nat.strongRecOn with
  | ind n ih =>
    rw [decimal_eq] at h
    split at h
    · rename_i hlt
      simp only [List.nil_append, List.head?_cons, Option.some.injEq] at h
      have hzero := (digit_spec (Nat.mod_lt n (y := 10) (by omega))).2.2.2 h
      omega
    · rename_i hge
      rw [head?_concat (decimal_ne_nil _)] at h
      have hzero := ih (n / 10) (by omega) h
      omega

/-- Digits without a zero in front are those of their value. -/
theorem decimal_digitsValue {text : Bytes} (hne : text ≠ []) (hdigits : ∀ c ∈ text, isdigit c = true)
    (hzero : text.head? = some 48 → text = [48]) : decimal (digitsValue 10 0 text) = text := by
  induction text using List.reverseRecOn with
  | nil => exact absurd rfl hne
  | append_singleton front c ih =>
    obtain ⟨d, hd, rfl⟩ := digit_digitValue (hdigits c (by simp))
    obtain ⟨-, hdigit, hvalue, -⟩ := digit_spec hd
    have hfront : ∀ x ∈ front, isdigit x = true := fun x hx => hdigits x (by simp [hx])
    rw [digitsValue_concat (fun x hx => isDigitOf_of_isdigit (hfront x hx)) hdigit, hvalue,
      Option.getD_some, decimal_eq]
    rcases eq_or_ne front [] with rfl | hne'
    · simp only [digitsValue, Nat.zero_mul, Nat.zero_add, if_pos hd, Nat.mod_eq_of_lt hd]
    · have hhead : front.head? ≠ some 48 := by
        intro h48
        have hone := hzero (by rw [head?_concat hne', h48])
        rw [List.append_eq_singleton_iff] at hone
        simp [hne'] at hone
      have hvalueFront := ih hne' hfront fun h48 => absurd h48 hhead
      have hpos : digitsValue 10 0 front ≠ 0 := by
        intro h0
        rw [h0] at hvalueFront
        exact hhead (hvalueFront ▸ rfl)
      have hge : ¬digitsValue 10 0 front * 10 + d < 10 := by omega
      have hdiv : (digitsValue 10 0 front * 10 + d) / 10 = digitsValue 10 0 front := by omega
      have hmod : (digitsValue 10 0 front * 10 + d) % 10 = d := by omega
      rw [if_neg hge, hdiv, hmod, hvalueFront]

theorem length_decimal_le {n k : Nat} (hk : 0 < k) (h : n < 10 ^ k) : (decimal n).length ≤ k := by
  simp only [decimal, ascii, List.length_map, Nat.toString_eq_repr, Nat.toList_repr]
  exact (Nat.length_toDigits_le_iff (by omega) hk).mpr h

/-! ## Integers -/

theorem ascii_toString (n : Int) :
    ascii (toString n) = if 0 ≤ n then decimal n.toNat else 45 :: decimal (-n).toNat := by
  rw [Int.toString_eq_repr, Int.repr_eq_if]
  split
  · rfl
  · simp [ascii, decimal]

/-- An integer is written like a natural number when it is this number. -/
theorem toString_eq_decimal_iff {n : Int} {m : Nat} : ascii (toString n) = decimal m ↔ n = m := by
  rw [ascii_toString]
  split
  · rename_i h
    constructor
    · intro heq
      have hsame := decimal_injective heq
      omega
    · rintro rfl
      rw [Int.toNat_natCast]
  · rename_i h
    constructor
    · intro heq
      have hminus : isdigit 45 = true := isdigit_decimal m 45 (heq ▸ List.mem_cons_self)
      cases hminus
    · rintro rfl
      omega

/-- The number of characters of a 64-bit integer. -/
theorem length_toString_le (n : Int64) : (ascii (toString n.toInt)).length ≤ 20 := by
  have hlo := Int64.le_toInt n
  have hhi := Int64.toInt_lt n
  rw [ascii_toString]
  split
  · exact (length_decimal_le (k := 19) (by omega) (by omega)).trans (by omega)
  · rw [List.length_cons]
    have hlength := length_decimal_le (n := (-n.toInt).toNat) (k := 19) (by omega) (by omega)
    omega

end HttpRequestClient
