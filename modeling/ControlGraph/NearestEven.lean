import Mathlib.Algebra.Order.Field.Basic
import Mathlib.Algebra.Order.Ring.Abs
import Mathlib.Algebra.Field.Rat
import Mathlib.Tactic.Linarith
import Mathlib.Tactic.FieldSimp
import Mathlib.Tactic.Ring
import Mathlib.Tactic.NormNum

/-!
# Rounding to the nearest integer, ties to even

A value has one nearest integer, except halfway between two of them, where the
even one is meant. Rounding so is monotone, and it determines the integer. The
quotient of two natural numbers is rounded so by comparing twice its remainder
with the denominator.
-/

namespace ControlGraph.NearestEven

/-- An integer is nearest to a value, and even where another one is as near. -/
structure IsNearestEven {K : Type} [Field K] [LinearOrder K] (value : K) (integer : Int) : Prop where
  below : (integer : K)-1/2 ≤ value
  above : value ≤ (integer : K)+1/2
  even_below : value=(integer : K)-1/2 → integer%2=0
  even_above : value=(integer : K)+1/2 → integer%2=0

section

variable {K : Type} [Field K] [LinearOrder K] [IsStrictOrderedRing K] {value other : K}
  {integer second : Int}

/-- Rounding keeps the order. -/
theorem IsNearestEven.mono (hvalue : IsNearestEven value integer)
    (hother : IsNearestEven other second) (h : value ≤ other) : integer ≤ second := by
  by_contra hless
  have hstep : second+1 ≤ integer := by omega
  have hcast : (second : K)+1 ≤ integer := by exact_mod_cast hstep
  have hbelow := hvalue.below
  have habove := hother.above
  -- Both values are halfway between the two integers, which are neighbours.
  have hvalueEq : value=(integer : K)-1/2 := by linarith
  have hotherEq : other=(second : K)+1/2 := by linarith
  have hnext : (integer : K)=second+1 := by linarith
  have hneighbour : integer=second+1 := by exact_mod_cast hnext
  have heven := hvalue.even_below hvalueEq
  have heven' := hother.even_above hotherEq
  omega

/-- Rounding gives one integer. -/
theorem IsNearestEven.unique (hfirst : IsNearestEven value integer)
    (hsecond : IsNearestEven value second) : integer=second :=
  le_antisymm (hfirst.mono hsecond le_rfl) (hsecond.mono hfirst le_rfl)

end

/-- Quotient of natural numbers, rounded by its remainder. -/
def roundedQuotient (numerator denominator : Nat) : Nat :=
  let quotient := numerator/denominator
  let doubledRemainder := 2*(numerator%denominator)
  if denominator < doubledRemainder ∨ (doubledRemainder=denominator ∧ quotient%2=1) then quotient+1
  else quotient

example : [5,7,8,9,12].map (fun numerator => roundedQuotient numerator 2)=[2,4,4,4,6] := by decide

theorem isNearestEven_roundedQuotient {K : Type} [Field K] [LinearOrder K] [IsStrictOrderedRing K]
    {numerator denominator : Nat} (h : 0 < denominator) :
    IsNearestEven ((numerator : K)/denominator) (roundedQuotient numerator denominator) := by
  have hpositive : (0 : K) < denominator := by exact_mod_cast h
  have hdivision := Nat.div_add_mod numerator denominator
  have hremainder := Nat.mod_lt numerator h
  unfold roundedQuotient
  dsimp only
  generalize numerator/denominator=quotient at hdivision ⊢
  generalize numerator%denominator=remainder at hdivision hremainder ⊢
  have hnumerator : (numerator : K)=denominator*quotient+remainder := by
    exact_mod_cast hdivision.symm
  have hvalue : (numerator : K)/denominator=quotient+remainder/denominator := by
    rw [hnumerator,add_div,mul_div_cancel_left₀ _ hpositive.ne']
  have hle : ∀ {bound : Nat},2*remainder ≤ bound*denominator →
      (remainder : K)/denominator ≤ bound/2 := by
    intro bound hbound
    have hcast : (2 : K)*remainder ≤ bound*denominator := by exact_mod_cast hbound
    rw [div_le_iff₀ hpositive]
    linarith
  have hge : denominator ≤ 2*remainder → (1 : K)/2 ≤ (remainder : K)/denominator := by
    intro hbound
    have hcast : (denominator : K) ≤ 2*remainder := by exact_mod_cast hbound
    rw [le_div_iff₀ hpositive]
    linarith
  have hhalf : (remainder : K)/denominator=1/2 → 2*remainder=denominator := by
    intro hequal
    rw [div_eq_iff hpositive.ne'] at hequal
    have hcast : (2 : K)*remainder=denominator := by linarith
    exact_mod_cast hcast
  have hzero : (0 : K) ≤ (remainder : K)/denominator := div_nonneg (Nat.cast_nonneg _) hpositive.le
  have hone : (remainder : K)/denominator < 1 := by
    rw [div_lt_one hpositive]
    exact_mod_cast hremainder
  rw [hvalue]
  split_ifs with hup
  · have hbound : (1 : K)/2 ≤ (remainder : K)/denominator := hge (by omega)
    refine ⟨?_,?_,fun hequal => ?_,fun hequal => ?_⟩
    · push_cast
      linarith
    · push_cast
      linarith
    · push_cast at hequal
      have htie := hhalf (by linarith)
      push_cast
      omega
    · push_cast at hequal
      linarith
  · have hbound : (remainder : K)/denominator ≤ (1 : Nat)/2 := hle (by omega)
    rw [Nat.cast_one] at hbound
    refine ⟨?_,?_,fun hequal => ?_,fun hequal => ?_⟩
    · push_cast
      linarith
    · push_cast
      linarith
    · push_cast at hequal
      linarith
    · push_cast at hequal
      have htie := hhalf (by linarith)
      omega

end ControlGraph.NearestEven
