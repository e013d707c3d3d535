import Mathlib.Tactic.Positivity

/-!
# Go signed integers

A Go `int64` or `int32` is an integer in `[-2^n, 2^n)` for `n = 63` or `31`: `SInt n` carries
the bounds as fields, so that no out-of-range value can be built.  `SInt.wrap` is the
two's-complement wrap of an integer to that range, which is what Go's arithmetic does on
overflow.
-/

set_option autoImplicit false

namespace Boulder

/-- A Go signed integer of `n + 1` bits. -/
@[ext]
structure SInt (n : Nat) where
  val : Int
  ge : -2^n ≤ val
  lt : val < 2^n

/-- `int64`. -/
abbrev Int64 := SInt 63

/-- `int32`. -/
abbrev Int32 := SInt 31

namespace SInt

variable {n : Nat}

theorem two_pow_succ_eq : (2 : Int)^(n + 1) = 2 * 2^n := by
  rw [pow_succ, mul_comm]

/-- The two's-complement wrap of an integer to `n + 1` bits. -/
def wrap (x : Int) : SInt n :=
  have h : (0 : Int) < 2^n := by positivity
  have h2 := two_pow_succ_eq (n := n)
  ⟨(x + 2^n) % 2^(n + 1) - 2^n,
    by have := Int.emod_nonneg (x + 2^n) (by omega : (2 : Int)^(n + 1) ≠ 0); omega,
    by have := Int.emod_lt_of_pos (x + 2^n) (by omega : (0 : Int) < 2^(n + 1)); omega⟩

instance {m : Nat} : OfNat (SInt n) m := ⟨wrap m⟩

/-- `a * b`: the product, wrapped. -/
def mul (a b : SInt n) : SInt n := wrap (a.val * b.val)

theorem wrap_val {x : Int} (h1 : -2^n ≤ x) (h2 : x < 2^n) : (wrap x : SInt n).val = x := by
  have h2' := two_pow_succ_eq (n := n)
  simp only [wrap]
  rw [Int.emod_eq_of_lt (by omega) (by omega)]
  omega

/-- An integer is its own wrap. -/
@[simp]
theorem wrap_self (a : SInt n) : (wrap a.val : SInt n) = a :=
  SInt.ext (wrap_val a.ge a.lt)

/-- A non-negative integer is kept by the wrap iff it is in range. -/
theorem wrap_val_eq_iff {x : Int} (h : 0 ≤ x) : (wrap x : SInt n).val = x ↔ x < 2^n := by
  have : (0 : Int) < 2^n := by positivity
  exact ⟨fun e => e ▸ (wrap x).lt, fun hx => wrap_val (by omega) hx⟩

end SInt

end Boulder
