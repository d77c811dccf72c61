import Mathlib.Algebra.Order.Ring.Int
import Mathlib.Data.List.TakeWhile

/-!
# Signed decimal numbers

A number is read as the C library reads it: any spaces, a sign if there is one, and the digits up to the
first other character.

* **`signed_toDigits`** — a number that was printed is read back, after any spaces and with anything but a
  digit behind it.
-/

namespace Numerals

def isSpace (c : Char) : Bool := c = ' ' || (9 ≤ c.toNat && c.toNat ≤ 13)

/-- The number that the digits in front spell. -/
def decimal (cs : List Char) : ℕ := Nat.ofDigitChars 10 (cs.takeWhile Char.isDigit) 0

/-- The sign of a number after any spaces, and what stands behind it. -/
def signOf (cs : List Char) : ℤ × List Char :=
  match cs.dropWhile isSpace with
  | '-' :: cs => (-1, cs)
  | '+' :: cs => (1, cs)
  | cs => (1, cs)

/-- Without a digit this is 0. -/
def signed (cs : List Char) : ℤ := (signOf cs).1 * decimal (signOf cs).2

variable {c : Char}

theorem isSpace_of_isDigit (h : c.isDigit = true) : isSpace c = false := by
  have hrange := Char.isDigit_iff_toNat.mp h
  have hlo : 48 ≤ c.toNat := hrange.1
  have hblank : c ≠ ' ' := by
    rintro rfl
    exact absurd hlo (by decide)
  have htab : ¬ c.toNat ≤ 13 := by omega
  simp [isSpace, hblank, htab]

theorem ne_of_isDigit (h : c.isDigit = true) {x : Char} (hx : x.isDigit = false) : c ≠ x := by
  rintro rfl
  rw [h] at hx
  exact Bool.false_ne_true hx.symm

theorem signOf_of_unsigned (hspace : isSpace c = false) (hminus : c ≠ '-') (hplus : c ≠ '+')
    (cs : List Char) : signOf (c :: cs) = (1, c :: cs) := by
  unfold signOf
  rw [List.dropWhile_cons_of_neg (by rw [hspace]; exact Bool.false_ne_true)]
  split
  · next heq => exact absurd (List.cons.inj heq).1 hminus
  · next heq => exact absurd (List.cons.inj heq).1 hplus
  · rfl

theorem signOf_of_isDigit (h : c.isDigit = true) (cs : List Char) : signOf (c :: cs) = (1, c :: cs) :=
  signOf_of_unsigned (isSpace_of_isDigit h) (ne_of_isDigit h (by decide)) (ne_of_isDigit h (by decide)) cs

theorem signOf_spaces {spaces : List Char} (h : ∀ c ∈ spaces, isSpace c = true) (cs : List Char) :
    signOf (spaces ++ cs) = signOf cs := by
  unfold signOf
  rw [List.dropWhile_append_of_pos h]

/-- A word that does not start like a number is 0. -/
theorem signed_of_not_number (hspace : isSpace c = false) (hminus : c ≠ '-') (hplus : c ≠ '+')
    (hdigit : c.isDigit = false) (cs : List Char) : signed (c :: cs) = 0 := by
  rw [signed, signOf_of_unsigned hspace hminus hplus, decimal,
    List.takeWhile_cons_of_neg (by rw [hdigit]; exact Bool.false_ne_true), Nat.ofDigitChars_nil,
    Nat.cast_zero, mul_zero]

/-! ### Print, then read -/

theorem isDigit_of_mem_toDigits (n : ℕ) : ∀ c ∈ Nat.toDigits 10 n, c.isDigit = true :=
  fun _ hc => Nat.isDigit_of_mem_toDigits (by decide) (by decide) hc

section Print

variable (n : ℕ) {rest : List Char} (hrest : ∀ c ∈ rest.head?, c.isDigit = false)
include hrest

theorem takeWhile_toDigits :
    (Nat.toDigits 10 n ++ rest).takeWhile Char.isDigit = Nat.toDigits 10 n := by
  have hnone : rest.takeWhile Char.isDigit = [] := by
    cases rest with
    | nil => rfl
    | cons c cs => simp [hrest c (by simp)]
  rw [List.takeWhile_append_of_pos (isDigit_of_mem_toDigits n), hnone, List.append_nil]

theorem decimal_toDigits_append : decimal (Nat.toDigits 10 n ++ rest) = n := by
  rw [decimal, takeWhile_toDigits n hrest, Nat.ofDigitChars_ten_toDigits]

/-- **Decimal digits** are read as they are printed. -/
theorem signed_toDigits {spaces : List Char} (hspaces : ∀ c ∈ spaces, isSpace c = true) :
    signed (spaces ++ (Nat.toDigits 10 n ++ rest)) = n := by
  have hunsigned : signOf (Nat.toDigits 10 n ++ rest) = (1, Nat.toDigits 10 n ++ rest) := by
    have hdigits := isDigit_of_mem_toDigits n
    obtain ⟨c, cs, hcs⟩ := List.exists_cons_of_ne_nil (Nat.toDigits_ne_nil (n := n) (b := 10))
    rw [hcs] at hdigits ⊢
    exact signOf_of_isDigit (hdigits c List.mem_cons_self) _
  rw [signed, signOf_spaces hspaces, hunsigned, decimal_toDigits_append n hrest, one_mul]

end Print

theorem decimal_toDigits (n : ℕ) : decimal (Nat.toDigits 10 n) = n := by
  have hread : decimal (Nat.toDigits 10 n ++ []) = n :=
    decimal_toDigits_append n nofun
  rwa [List.append_nil] at hread

theorem signed_number (n : ℕ) : signed (Nat.toDigits 10 n) = n := by
  have hnone : ∀ c ∈ ([] : List Char).head?, c.isDigit = false := by simp
  have hread : signed ([] ++ (Nat.toDigits 10 n ++ [])) = n :=
    signed_toDigits n hnone (List.forall_mem_nil _)
  rwa [List.nil_append, List.append_nil] at hread

end Numerals
