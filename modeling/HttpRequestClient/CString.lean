import Mathlib.Data.Bool.AllAny
import Mathlib.Data.List.TakeWhile

/-!
# Byte strings and the C library functions the client uses

A `char *` of the source is modelled by the bytes before its terminator,
and a buffer by all its bytes.  `cstr` is the step from a buffer to the
string that `strlen`, `strdup` and `strcasecmp` see.

The functions below keep the names they have in the C library and follow
its behaviour in the "C" locale.  `long` and `long long` have 64 bits.
-/

namespace HttpRequestClient

/-- Bytes of a buffer, or of a string without its terminator. -/
abbrev Bytes := List UInt8

/-- The bytes of an ASCII literal of the source. -/
def ascii (s : String) : Bytes := s.toList.map (fun c => UInt8.ofNat c.toNat)

/-- The string that starts at the beginning of a terminated buffer. -/
def cstr (buf : Bytes) : Bytes := buf.takeWhile (· ≠ 0)

def tolower (c : UInt8) : UInt8 := if 65 ≤ c ∧ c ≤ 90 then c + 32 else c

def isspace (c : UInt8) : Bool := c = 32 ∨ (9 ≤ c ∧ c ≤ 13)

def isdigit (c : UInt8) : Bool := 48 ≤ c ∧ c ≤ 57

/-- The sign of the first difference, letters compared in lower case. -/
def strcasecmp : Bytes → Bytes → Int
  | [], [] => 0
  | [], b :: _ => -((tolower b).toNat : Int)
  | a :: _, [] => (tolower a).toNat
  | a :: as, b :: bs =>
    if tolower a = tolower b then strcasecmp as bs
    else ((tolower a).toNat : Int) - (tolower b).toNat

/-- `strcasecmp` over the first `n` bytes. -/
def strncasecmp (a b : Bytes) (n : Nat) : Int := strcasecmp (a.take n) (b.take n)

/-! ## Numbers -/

/-- The value of a digit in any base up to 36. -/
def digitValue (c : UInt8) : Option Nat :=
  if 48 ≤ c ∧ c ≤ 57 then some (c.toNat - 48)
  else if 97 ≤ c ∧ c ≤ 122 then some (c.toNat - 97 + 10)
  else if 65 ≤ c ∧ c ≤ 90 then some (c.toNat - 65 + 10)
  else none

/-- Whether a byte is a digit of the base. -/
def isDigitOf (base : Nat) (c : UInt8) : Bool :=
  match digitValue c with
  | some d => d < base
  | none => false

/-- The number the leading digits of a string write in a base. -/
def digitsValue (base : Nat) (acc : Nat) : Bytes → Nat
  | [] => acc
  | c :: cs =>
    if isDigitOf base c then digitsValue base (acc * base + (digitValue c).getD 0) cs
    else acc

/-- The optional `0x` of a base-16 number: it is skipped only when a digit
follows it. -/
def skipHexPrefix (base : Nat) (s : Bytes) : Bytes :=
  match s with
  | 48 :: x :: c :: rest =>
    if base = 16 ∧ (x = 120 ∨ x = 88) ∧ isDigitOf 16 c then c :: rest else s
  | _ => s

def LLONG_MAX : Nat := 0x7FFFFFFFFFFFFFFF

/-- `strtol` and `strtoll`: white space, a sign, the digits that fit; an
overflow saturates and a string without a number is zero. -/
def strtoll (base : Nat) (s : Bytes) : Int :=
  match s.dropWhile isspace with
  | 45 :: rest => -(min (digitsValue base 0 (skipHexPrefix base rest)) (LLONG_MAX + 1) : Nat)
  | 43 :: rest => (min (digitsValue base 0 (skipHexPrefix base rest)) LLONG_MAX : Nat)
  | rest => (min (digitsValue base 0 (skipHexPrefix base rest)) LLONG_MAX : Nat)

/-- `long` has 64 bits, so the two functions agree. -/
def strtol (s : Bytes) (base : Nat) : Int := strtoll base s

/-- What `snprintf` leaves of a text in a buffer; it returns the length of the
whole text. -/
def snprintf (size : Nat) (text : Bytes) : Bytes := text.take (size - 1)

/-! ## Helpers of the source -/

def isSpaceChar (c : UInt8) : Bool := c ≠ 0 ∧ isspace c

/-- White space removed at both ends. -/
def trim (s : Bytes) : Bytes :=
  ((s.dropWhile isSpaceChar).reverse.dropWhile isSpaceChar).reverse

/-- Whether `needle` occurs in `haystack`, letters compared in lower case. -/
def containsCI (haystack needle : Bytes) : Bool :=
  if needle.length = 0 then true
  else if haystack.length < needle.length then false
  else (List.range (haystack.length + 1 - needle.length)).any
    (fun i => strncasecmp (haystack.drop i) needle needle.length = 0)

/-! ## Lemmas -/

theorem cstr_eq_self {s : Bytes} (h : 0 ∉ s) : cstr s = s := by
  rw [cstr, List.takeWhile_eq_self_iff]
  intro c hc
  simp only [decide_eq_true_eq]
  exact fun h0 => h (h0 ▸ hc)

theorem zero_notMem_cstr (s : Bytes) : 0 ∉ cstr s := by
  intro hzero
  have hne := List.mem_takeWhile_imp hzero
  simp at hne

theorem cstr_eq_self_iff {s : Bytes} : cstr s = s ↔ 0 ∉ s := by
  constructor
  · intro h hzero
    rw [← h] at hzero
    exact zero_notMem_cstr s hzero
  · exact cstr_eq_self

theorem cstr_length_le (s : Bytes) : (cstr s).length ≤ s.length :=
  (List.takeWhile_prefix _).length_le

theorem tolower_toNat_pos {c : UInt8} (h : c ≠ 0) : 0 < (tolower c).toNat := by
  have hc : 0 < c.toNat := by
    rcases Nat.eq_zero_or_pos c.toNat with h0 | h0
    · exact absurd (UInt8.toNat_inj.mp h0) h
    · exact h0
  unfold tolower
  split
  · rename_i hrange
    have h1 : c.toNat ≤ 90 := hrange.2
    rw [UInt8.toNat_add]
    simp only [UInt8.toNat_ofNat]
    omega
  · exact hc

/-- `strcasecmp` is zero exactly on strings that agree in lower case. -/
theorem strcasecmp_eq_zero_iff {a b : Bytes} (ha : 0 ∉ a) (hb : 0 ∉ b) :
    strcasecmp a b = 0 ↔ a.map tolower = b.map tolower := by
  induction a generalizing b with
  | nil =>
    cases b with
    | nil => simp [strcasecmp]
    | cons c cs =>
      have hc := tolower_toNat_pos (c := c) (fun h => hb (by simp [h]))
      simp only [strcasecmp, List.map_nil, List.map_cons]
      constructor
      · intro h; omega
      · intro h; cases h
  | cons x xs ih =>
    have hx := tolower_toNat_pos (c := x) (fun h => ha (by simp [h]))
    cases b with
    | nil =>
      simp only [strcasecmp, List.map_nil, List.map_cons]
      constructor
      · intro h; omega
      · intro h; cases h
    | cons c cs =>
      have hxs : 0 ∉ xs := fun h => ha (List.mem_cons_of_mem _ h)
      have hcs : 0 ∉ cs := fun h => hb (List.mem_cons_of_mem _ h)
      rw [strcasecmp]
      split
      · rename_i heq
        rw [ih hxs hcs]
        simp [heq]
      · rename_i hne
        have hnat : (tolower x).toNat ≠ (tolower c).toNat :=
          fun h => hne (UInt8.toNat_inj.mp h)
        simp only [List.map_cons, List.cons.injEq]
        constructor
        · intro h; omega
        · intro h; exact absurd h.1 hne

theorem strcasecmp_comm {a b : Bytes} : strcasecmp a b = 0 ↔ strcasecmp b a = 0 := by
  induction a generalizing b with
  | nil => cases b <;> simp [strcasecmp]
  | cons x a ih =>
    cases b with
    | nil => simp [strcasecmp]
    | cons y b =>
      rw [strcasecmp, strcasecmp]
      by_cases heq : tolower x = tolower y
      · rw [if_pos heq, if_pos heq.symm, ih]
      · rw [if_neg heq, if_neg (Ne.symm heq)]
        omega

/-- Only the string in the second buffer counts. -/
theorem strcasecmp_cstr {a : Bytes} (ha : 0 ∉ a) {buf : Bytes} (h : strcasecmp a buf = 0) :
    a.map tolower = (cstr buf).map tolower := by
  induction a generalizing buf with
  | nil =>
    cases buf with
    | nil => rfl
    | cons c buf =>
      have hc : c = 0 := by
        by_contra hne
        have hpos := tolower_toNat_pos hne
        rw [strcasecmp] at h
        omega
      rw [hc]
      rfl
  | cons x a ih =>
    have hx := tolower_toNat_pos fun heq : x = 0 => ha (heq ▸ List.mem_cons_self)
    cases buf with
    | nil =>
      rw [strcasecmp] at h
      omega
    | cons c buf =>
      rw [strcasecmp] at h
      split at h
      · rename_i heq
        have hc : c ≠ 0 := by
          rintro rfl
          rw [heq] at hx
          exact absurd hx (by decide)
        have hcons : cstr (c :: buf) = c :: cstr buf := by simp [cstr, hc]
        rw [hcons, List.map_cons, List.map_cons, heq,
          ih (fun hmem => ha (List.mem_cons_of_mem _ hmem)) h]
      · rename_i hne
        exact absurd (UInt8.toNat_inj.mp (by omega)) hne

/-- No buffer has two different names. -/
theorem strcasecmp_ne {a b buf : Bytes} (ha : 0 ∉ a) (hb : 0 ∉ b)
    (hne : a.map tolower ≠ b.map tolower) (h : strcasecmp a buf = 0) : strcasecmp b buf ≠ 0 :=
  fun h' => hne ((strcasecmp_cstr ha h).trans (strcasecmp_cstr hb h').symm)

/-! ## Digits -/

theorem isDigitOf_of_le {base base' : Nat} (hle : base ≤ base') {c : UInt8}
    (h : isDigitOf base c = true) : isDigitOf base' c = true := by
  unfold isDigitOf at h ⊢
  cases hd : digitValue c with
  | none => rw [hd] at h; exact h
  | some d =>
    simp only [hd, decide_eq_true_eq] at h ⊢
    omega

theorem isDigitOf_of_isdigit {c : UInt8} (h : isdigit c = true) : isDigitOf 10 c = true := by
  rw [isdigit, decide_eq_true_eq] at h
  have hle : c.toNat ≤ 57 := h.2
  rw [isDigitOf, digitValue, if_pos h]
  simp only [decide_eq_true_eq]
  omega

/-- A digit is no white space, no sign, no part of a delimiter and not the
`x` of a prefix. -/
theorem isDigitOf_spec {c : UInt8} (h : isDigitOf 16 c = true) :
    isspace c = false ∧ c ≠ 45 ∧ c ≠ 43 ∧ c ≠ 120 ∧ c ≠ 88 ∧ c ≠ 59 ∧ c ≠ 10 ∧ c ≠ 0 := by
  have hall : ((List.range 256).all (fun i => !isDigitOf 16 (UInt8.ofNat i) ||
      (!isspace (UInt8.ofNat i) && (UInt8.ofNat i ≠ 45 && (UInt8.ofNat i ≠ 43 &&
      (UInt8.ofNat i ≠ 120 && (UInt8.ofNat i ≠ 88 && (UInt8.ofNat i ≠ 59 &&
      (UInt8.ofNat i ≠ 10 && UInt8.ofNat i ≠ 0))))))))) = true := by
    decide +kernel
  have hc := List.all_eq_true.mp hall c.toNat (List.mem_range.mpr (UInt8.toNat_lt c))
  rw [UInt8.ofNat_toNat, h] at hc
  simpa using hc

theorem skipHexPrefix_digits {base : Nat} {s : Bytes} (h : ∀ c ∈ s, isDigitOf 16 c = true) :
    skipHexPrefix base s = s := by
  unfold skipHexPrefix
  split
  · rename_i x c rest
    obtain ⟨-, -, -, hx, hX, -⟩ := isDigitOf_spec (h x (by simp))
    rw [if_neg]
    rintro ⟨-, hor, -⟩
    rcases hor with rfl | rfl
    · exact hx rfl
    · exact hX rfl
  · rfl

/-- A string of digits is read as the number it writes, up to the largest
`long long`. -/
theorem strtoll_digits {base : Nat} (hbase : base ≤ 16) {s : Bytes} (hs : s ≠ [])
    (h : ∀ c ∈ s, isDigitOf base c = true) :
    strtoll base s = (min (digitsValue base 0 s) LLONG_MAX : Nat) := by
  have h16 : ∀ c ∈ s, isDigitOf 16 c = true := fun c hc => isDigitOf_of_le hbase (h c hc)
  have hskip : skipHexPrefix base s = s := skipHexPrefix_digits h16
  cases s with
  | nil => exact absurd rfl hs
  | cons c cs =>
    obtain ⟨hspace, hminus, hplus, -⟩ := isDigitOf_spec (h16 c List.mem_cons_self)
    unfold strtoll
    rw [List.dropWhile_cons_of_neg (by rw [hspace]; exact Bool.false_ne_true)]
    split
    · rename_i heq; cases heq; exact absurd rfl hminus
    · rename_i heq; cases heq; exact absurd rfl hplus
    · rw [hskip]

end HttpRequestClient
