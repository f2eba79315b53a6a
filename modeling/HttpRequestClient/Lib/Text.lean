import Mathlib.Data.List.Basic

/-!
# Base64 and UTF-8

Base64 with padding, three octets to four letters, and its decoder
(`decode_encode`); and a check that octets are well-formed UTF-8, which holds
of every string of octets below 128 (`utf8Valid_of_ascii`).

`decode_length` bounds what a text can stand for: a text is never the base64
of itself with something added.
-/

namespace Base64

/-- The letter of a number below 64. -/
def letter (n : Nat) : UInt8 :=
  if n < 26 then UInt8.ofNat (65 + n)
  else if n < 52 then UInt8.ofNat (97 + (n - 26))
  else if n < 62 then UInt8.ofNat (48 + (n - 52))
  else if n = 62 then 43
  else 47

/-- The number of a letter. -/
def sextet (c : UInt8) : Option Nat :=
  if 65 ≤ c ∧ c ≤ 90 then some (c.toNat - 65)
  else if 97 ≤ c ∧ c ≤ 122 then some (c.toNat - 97 + 26)
  else if 48 ≤ c ∧ c ≤ 57 then some (c.toNat - 48 + 52)
  else if c = 43 then some 62
  else if c = 47 then some 63
  else none

/-- Three octets as one number. -/
def group (a b c : UInt8) : Nat := a.toNat * 65536 + b.toNat * 256 + c.toNat

def encode : List UInt8 → List UInt8
  | a :: b :: c :: rest =>
    letter (group a b c / 262144) :: letter (group a b c / 4096 % 64) ::
      letter (group a b c / 64 % 64) :: letter (group a b c % 64) :: encode rest
  | [a, b] =>
    [letter (group a b 0 / 262144), letter (group a b 0 / 4096 % 64),
      letter (group a b 0 / 64 % 64), 61]
  | [a] => [letter (group a 0 0 / 262144), letter (group a 0 0 / 4096 % 64), 61, 61]
  | [] => []

/-- The octets of a number, and as many of them as are wanted. -/
def octets (count n : Nat) : List UInt8 :=
  [UInt8.ofNat (n / 65536), UInt8.ofNat (n / 256), UInt8.ofNat n].take count

/-- One group of letters. -/
def decodeGroup (w x y z : UInt8) (last : Bool) : Option (List UInt8) := do
  let w ← sextet w
  let x ← sextet x
  if last ∧ y = 61 ∧ z = 61 then return octets 1 (w * 262144 + x * 4096)
  let y ← sextet y
  if last ∧ z = 61 then return octets 2 (w * 262144 + x * 4096 + y * 64)
  let z ← sextet z
  return octets 3 (w * 262144 + x * 4096 + y * 64 + z)

def decode : List UInt8 → Option (List UInt8)
  | w :: x :: y :: z :: rest => do
    let first ← decodeGroup w x y z rest.isEmpty
    let later ← decode rest
    return first ++ later
  | [] => some []
  | _ => none

theorem sextet_letter {n : Nat} (h : n < 64) : sextet (letter n) = some n := by
  have hall : ∀ n, n < 64 → sextet (letter n) = some n := by decide
  exact hall n h

theorem sextet_padding : sextet 61 = none := by decide

theorem letter_ne_padding {n : Nat} (h : n < 64) : letter n ≠ 61 := by
  intro heq
  have hsextet := sextet_letter h
  rw [heq, sextet_padding] at hsextet
  cases hsextet

theorem letter_ascii {n : Nat} (h : n < 64) : letter n ≠ 0 ∧ letter n < 128 := by
  have hall : ∀ n, n < 64 → letter n ≠ 0 ∧ letter n < 128 := by decide
  exact hall n h

theorem group_lt (a b c : UInt8) : group a b c < 16777216 := by
  have ha := a.toNat_lt
  have hb := b.toNat_lt
  have hc := c.toNat_lt
  rw [group]
  omega

/-- The four numbers of a group give it back. -/
theorem group_sextets (n : Nat) :
    n / 262144 * 262144 + n / 4096 % 64 * 4096 + n / 64 % 64 * 64 + n % 64 = n := by
  omega

theorem octets_group (a b c : UInt8) : octets 3 (group a b c) = [a, b, c] := by
  have ha := a.toNat_lt
  have hb := b.toNat_lt
  have hc := c.toNat_lt
  have hfirst : UInt8.ofNat (group a b c / 65536) = a := by
    rw [group, ← UInt8.toNat_inj, UInt8.toNat_ofNat']
    omega
  have hsecond : UInt8.ofNat (group a b c / 256) = b := by
    rw [group, ← UInt8.toNat_inj, UInt8.toNat_ofNat']
    omega
  have hthird : UInt8.ofNat (group a b c) = c := by
    rw [group, ← UInt8.toNat_inj, UInt8.toNat_ofNat']
    omega
  rw [octets, hfirst, hsecond, hthird]
  rfl

/-- Fewer octets are the first of three. -/
theorem octets_take (count n : Nat) (h : count ≤ 3) : octets count n = (octets 3 n).take count := by
  rw [octets, octets, List.take_take, Nat.min_eq_left h]

theorem decode_encode (data : List UInt8) : decode (encode data) = some data := by
  induction data using encode.induct with
  | case1 a b c rest ih =>
    have hlt := group_lt a b c
    rw [encode, decode, ih, decodeGroup]
    simp only [sextet_letter (show group a b c / 262144 < 64 by omega),
      sextet_letter (show group a b c / 4096 % 64 < 64 by omega),
      sextet_letter (show group a b c / 64 % 64 < 64 by omega),
      sextet_letter (show group a b c % 64 < 64 by omega),
      letter_ne_padding (show group a b c / 64 % 64 < 64 by omega),
      letter_ne_padding (show group a b c % 64 < 64 by omega)]
    simp [group_sextets, octets_group]
  | case2 a b =>
    have hlt := group_lt a b 0
    have hzero : group a b 0 % 64 = 0 := by
      rw [group]
      show (a.toNat * 65536 + b.toNat * 256 + 0) % 64 = 0
      omega
    have hgroup := group_sextets (group a b 0)
    rw [hzero, Nat.add_zero] at hgroup
    rw [encode, decode, decodeGroup]
    simp only [sextet_letter (show group a b 0 / 262144 < 64 by omega),
      sextet_letter (show group a b 0 / 4096 % 64 < 64 by omega),
      sextet_letter (show group a b 0 / 64 % 64 < 64 by omega),
      letter_ne_padding (show group a b 0 / 64 % 64 < 64 by omega)]
    simp [hgroup, octets_take 2, octets_group, decode]
  | case3 a =>
    have hlt := group_lt a 0 0
    have hzero : group a 0 0 % 64 = 0 ∧ group a 0 0 / 64 % 64 = 0 := by
      rw [group]
      show (a.toNat * 65536 + 0 * 256 + 0) % 64 = 0 ∧ (a.toNat * 65536 + 0 * 256 + 0) / 64 % 64 = 0
      omega
    have hgroup := group_sextets (group a 0 0)
    simp only [hzero.1, hzero.2, Nat.add_zero, Nat.zero_mul] at hgroup
    rw [encode, decode, decodeGroup]
    simp only [sextet_letter (show group a 0 0 / 262144 < 64 by omega),
      sextet_letter (show group a 0 0 / 4096 % 64 < 64 by omega)]
    simp [hgroup, octets_take 1, octets_group, decode]
  | case4 => rfl

/-- Base64 is text without a terminator. -/
theorem encode_ascii (data : List UInt8) : ∀ c ∈ encode data, c ≠ 0 ∧ c < 128 := by
  induction data using encode.induct with
  | case1 a b c rest ih =>
    have hlt := group_lt a b c
    intro x hx
    simp only [encode, List.mem_cons] at hx
    rcases hx with rfl | rfl | rfl | rfl | hx
    · exact letter_ascii (by omega)
    · exact letter_ascii (by omega)
    · exact letter_ascii (by omega)
    · exact letter_ascii (by omega)
    · exact ih x hx
  | case2 a b =>
    have hlt := group_lt a b 0
    intro x hx
    simp only [encode, List.mem_cons, List.not_mem_nil, or_false] at hx
    rcases hx with rfl | rfl | rfl | rfl
    · exact letter_ascii (by omega)
    · exact letter_ascii (by omega)
    · exact letter_ascii (by omega)
    · decide
  | case3 a =>
    have hlt := group_lt a 0 0
    intro x hx
    simp only [encode, List.mem_cons, List.not_mem_nil, or_false] at hx
    rcases hx with rfl | rfl | rfl | rfl
    · exact letter_ascii (by omega)
    · exact letter_ascii (by omega)
    · decide
    · decide
  | case4 =>
    intro x hx
    cases hx

theorem decodeGroup_length {w x y z : UInt8} {last : Bool} {data : List UInt8}
    (h : decodeGroup w x y z last = some data) : data.length ≤ 3 := by
  have hoctets : ∀ count n, (octets count n).length ≤ 3 := by
    intro count n
    rw [octets, List.length_take]
    exact Nat.min_le_right _ _
  unfold decodeGroup at h
  cases hw : sextet w with
  | none => simp [hw] at h
  | some w' =>
    cases hx : sextet x with
    | none => simp [hw, hx] at h
    | some x' =>
      simp only [hw, hx, Option.bind_eq_bind, Option.bind_some, Option.pure_def] at h
      split at h
      · cases h
        exact hoctets _ _
      · cases hy : sextet y with
        | none => simp [hy] at h
        | some y' =>
          simp only [hy, Option.bind_some] at h
          split at h
          · cases h
            exact hoctets _ _
          · cases hz : sextet z with
            | none => simp [hz] at h
            | some z' =>
              simp only [hz, Option.bind_some] at h
              cases h
              exact hoctets _ _

/-- A text stands for less than itself. -/
theorem decode_length {text data : List UInt8} (h : decode text = some data) :
    data.length * 4 ≤ text.length * 3 := by
  induction text using decode.induct generalizing data with
  | case1 w x y z rest ih =>
    rw [decode] at h
    cases hfirst : decodeGroup w x y z rest.isEmpty with
    | none => simp [hfirst] at h
    | some first =>
      cases hlater : decode rest with
      | none => simp [hfirst, hlater] at h
      | some later =>
        simp only [hfirst, hlater, Option.bind_eq_bind, Option.bind_some, Option.pure_def,
          Option.some.injEq] at h
        have hgroup := decodeGroup_length hfirst
        have hrest := ih hlater
        rw [← h, List.length_append]
        simp only [List.length_cons]
        omega
  | case2 =>
    cases h
    simp
  | case3 text hfour hnil =>
    have hnone : decode text = none := by
      unfold decode
      split
      · exact absurd rfl (hfour _ _ _ _ _)
      · exact absurd rfl hnil
      · rfl
    rw [hnone] at h
    cases h

end Base64

namespace Utf8

/-- The octets that may follow, and how many follow those. -/
structure Pending where
  count : Nat
  least : UInt8
  greatest : UInt8

def Pending.none : Pending := ⟨0, 0x80, 0xBF⟩

/-- The first octet of a character. -/
def first (c : UInt8) : Option Pending :=
  if c < 0x80 then some .none
  else if 0xC2 ≤ c ∧ c ≤ 0xDF then some ⟨1, 0x80, 0xBF⟩
  else if c = 0xE0 then some ⟨2, 0xA0, 0xBF⟩
  else if c = 0xED then some ⟨2, 0x80, 0x9F⟩
  else if 0xE1 ≤ c ∧ c ≤ 0xEF then some ⟨2, 0x80, 0xBF⟩
  else if c = 0xF0 then some ⟨3, 0x90, 0xBF⟩
  else if 0xF1 ≤ c ∧ c ≤ 0xF3 then some ⟨3, 0x80, 0xBF⟩
  else if c = 0xF4 then some ⟨3, 0x80, 0x8F⟩
  else none

def next (pending : Pending) (c : UInt8) : Option Pending :=
  match pending.count with
  | 0 => first c
  | count + 1 =>
    if pending.least ≤ c ∧ c ≤ pending.greatest then some ⟨count, 0x80, 0xBF⟩ else none

def validFrom : Pending → List UInt8 → Bool
  | pending, [] => pending.count = 0
  | pending, c :: text =>
    match next pending c with
    | some pending => validFrom pending text
    | none => false

/-- No octet is out of place, and the last character is whole. -/
def utf8Valid (text : List UInt8) : Bool := validFrom .none text

theorem utf8Valid_of_ascii {text : List UInt8} (h : ∀ c ∈ text, c < 128) :
    utf8Valid text = true := by
  induction text with
  | nil => rfl
  | cons c text ih =>
    have hc : c < 0x80 := h c List.mem_cons_self
    have hnext : next .none c = some .none := if_pos hc
    rw [utf8Valid, validFrom, hnext]
    exact ih fun d hd => h d (List.mem_cons_of_mem _ hd)

end Utf8
