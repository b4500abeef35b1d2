import ControlGraph.MonitoringContracts
import ControlGraph.NearestEven

/-!
# Latencies of binary64 milliseconds

A provider reports a latency as the sixty-four bits of a number of milliseconds.
The conversion shifts the significand by the exponent and rounds the quotient by
its remainder. Read as a rational number, the bits give a value, and the result
is the nearest integer to a thousand times this value, ties to even. Subnormal
numbers have the least exponent and no hidden bit, and differ in nothing else.
-/

namespace ControlGraph.LatencyConversion

open ContractText MonitoringContracts NearestEven

/-- The sixty-four bits. -/
def rawBits (bits : Binary64) : Nat :=
  bits.1.toList.foldl (fun value character => 16*value+hexValue character) 0

def signBit (bits : Binary64) : Nat := rawBits bits/2^63

def exponentBits (bits : Binary64) : Nat := rawBits bits/2^52%2048

/-- The significand, with the hidden bit of a normal number. -/
def significand (bits : Binary64) : Nat :=
  if exponentBits bits=0 then rawBits bits%2^52 else 2^52+rawBits bits%2^52

/-- The power of two that scales the significand. -/
def exponentTwo (bits : Binary64) : Int :=
  if exponentBits bits=0 then -1074 else (exponentBits bits : Int)-1023-52

/-- Whether the bits are those of a finite number without a sign. -/
def IsLatency (bits : Binary64) : Prop := signBit bits=0 ∧ exponentBits bits≠2047

/-- The number of milliseconds that finite bits without a sign stand for. -/
def milliseconds (bits : Binary64) : ℚ := (significand bits : ℚ)*2^exponentTwo bits

def roundedMicroseconds (bits : Binary64) : Nat :=
  roundedQuotient (significand bits*1000*2^(exponentTwo bits).toNat) (2^(-exponentTwo bits).toNat)

/-- The conversion refuses signs, infinities and large results, and rounds. -/
theorem binary64_eq (bits : Binary64) : binary64MillisecondsToMicroseconds bits=
    if signBit bits≠0 ∨ exponentBits bits=2047 then
      .error (.valueError "provider latency must be a finite non-negative binary64 value")
    else if h : roundedMicroseconds bits ≤ 9007199254740991 then .ok ⟨roundedMicroseconds bits,h⟩
    else .error (.valueError "canonical latency exceeds the safe integer range") := rfl

theorem zpow_two_eq (exponent : Int) :
    (2 : ℚ)^exponent=(2^exponent.toNat : Nat)/(2^(-exponent).toNat : Nat) := by
  have hsplit : exponent=(exponent.toNat : Int)-((-exponent).toNat : Int) := by omega
  have htwo : (2 : ℚ)≠0 := two_ne_zero
  calc (2 : ℚ)^exponent=2^((exponent.toNat : Int)-((-exponent).toNat : Int)) :=
        congrArg (fun power => (2 : ℚ)^power) hsplit
    _ = (2^exponent.toNat : Nat)/(2^(-exponent).toNat : Nat) := by
        rw [zpow_sub₀ htwo,zpow_natCast,zpow_natCast]
        push_cast
        rfl

theorem isNearestEven_microseconds (bits : Binary64) :
    IsNearestEven (1000*milliseconds bits) (roundedMicroseconds bits) := by
  have hquotient : (1000 : ℚ)*milliseconds bits=
      ((significand bits*1000*2^(exponentTwo bits).toNat : Nat) : ℚ)/
        (2^(-exponentTwo bits).toNat : Nat) := by
    rw [milliseconds,zpow_two_eq]
    push_cast
    ring
  rw [hquotient]
  exact isNearestEven_roundedQuotient (Nat.two_pow_pos _)

/-- The conversion gives the exact value in microseconds, rounded to the nearest
integer with ties to even. It raises exactly for signs, for infinities and for
results beyond the safe integers, and it is monotone in the value. -/
theorem latency_conversion_exact (bits : Binary64) :
    (∀ microseconds,binary64MillisecondsToMicroseconds bits=.ok microseconds ↔
      IsLatency bits ∧ IsNearestEven (1000*milliseconds bits) microseconds.1) ∧
    ((∃ raised,binary64MillisecondsToMicroseconds bits=.error raised) ↔
      signBit bits≠0 ∨ exponentBits bits=2047 ∨
        ∃ result : Nat,IsNearestEven (1000*milliseconds bits) result ∧ 9007199254740991 < result) ∧
    ∀ other microseconds microseconds',binary64MillisecondsToMicroseconds bits=.ok microseconds →
      binary64MillisecondsToMicroseconds other=.ok microseconds' →
      milliseconds bits ≤ milliseconds other → microseconds.1 ≤ microseconds'.1 := by
  have hexact : ∀ (bits : Binary64) microseconds,
      binary64MillisecondsToMicroseconds bits=.ok microseconds ↔
        IsLatency bits ∧ IsNearestEven (1000*milliseconds bits) microseconds.1 := by
    intro bits microseconds
    have hnearest := isNearestEven_microseconds bits
    rw [binary64_eq]
    split_ifs with hbits hbound
    · refine ⟨fun h => (nomatch h),fun h => ?_⟩
      rcases hbits with hsign | hexponent
      · exact absurd h.1.1 hsign
      · exact absurd hexponent h.1.2
    · rw [not_or,not_not] at hbits
      constructor
      · intro h
        cases h
        exact ⟨hbits,hnearest⟩
      · rintro ⟨-,h⟩
        have hsame : roundedMicroseconds bits=microseconds.1 := by
          exact_mod_cast hnearest.unique h
        exact congrArg Except.ok (Subtype.ext hsame)
    · refine ⟨fun h => (nomatch h),fun h => ?_⟩
      have hsame : roundedMicroseconds bits=microseconds.1 := by
        exact_mod_cast hnearest.unique h.2
      exact absurd (hsame ▸ microseconds.2) hbound
  refine ⟨hexact bits,?_,?_⟩
  · have hnearest := isNearestEven_microseconds bits
    rw [binary64_eq]
    split_ifs with hbits hbound
    · refine ⟨fun _ => ?_,fun _ => ⟨_,rfl⟩⟩
      exact hbits.elim .inl fun hexponent => .inr (.inl hexponent)
    · refine ⟨fun h => (nomatch h),fun h => ?_⟩
      rw [not_or,not_not] at hbits
      rcases h with hsign | hexponent | ⟨result,hresult,hlarge⟩
      · exact absurd hbits.1 hsign
      · exact absurd hexponent hbits.2
      · have hsame : roundedMicroseconds bits=result := by
          exact_mod_cast hnearest.unique hresult
        omega
    · exact ⟨fun _ => .inr (.inr ⟨_,hnearest,Nat.lt_of_not_le hbound⟩),fun _ => ⟨_,rfl⟩⟩
  · intro other microseconds microseconds' hfirst hsecond hle
    have hnear := ((hexact bits microseconds).mp hfirst).2
    have hnear' := ((hexact other microseconds').mp hsecond).2
    have hscaled : (1000 : ℚ)*milliseconds bits ≤ 1000*milliseconds other := by linarith
    exact_mod_cast hnear.mono hnear' hscaled

end ControlGraph.LatencyConversion
