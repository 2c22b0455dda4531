/-!
# Binary floating-point layouts

A floating-point number is kept in a word with a sign bit, an exponent field
and a fraction field.  This module reads such a word as a sign and a natural
significand times a power of two, which is all that the decimal writers need.
-/

namespace WorkloadPolicy
namespace Decimal

/-- The widths of the two fields of a binary floating-point word. -/
structure Layout where
  fractionBits : Nat
  exponentBits : Nat
  deriving DecidableEq, Repr

namespace Layout

/-- The layout of `Float`. -/
def binary64 : Layout := ⟨52, 11⟩

/-- The layout of `Float32`. -/
def binary32 : Layout := ⟨23, 8⟩

end Layout

/-- What a floating-point word stands for. -/
inductive Reading where
  /-- The number `significand * 2 ^ exponent`, with a sign. -/
  | finite (negative : Bool) (significand : Nat) (exponent : Int)
  | infinite (negative : Bool)
  | notANumber
  deriving DecidableEq, Repr

namespace Layout

/-- The exponent of the least significant bit of a number whose exponent field
is `field`.  Subnormal numbers share the exponent of the field `1`. -/
def unitExponent (layout : Layout) (field : Nat) : Int :=
  ((max field 1 : Nat) : Int) -
    ((1 <<< (layout.exponentBits - 1) - 1 + layout.fractionBits : Nat) : Int)

/-- Read a word in this layout. -/
def read (layout : Layout) (word : Nat) : Reading :=
  let fraction := word % (1 <<< layout.fractionBits)
  let field := word / (1 <<< layout.fractionBits) % (1 <<< layout.exponentBits)
  let negative := word / (1 <<< (layout.fractionBits + layout.exponentBits)) % 2 == 1
  if field = (1 <<< layout.exponentBits) - 1 then
    if fraction = 0 then .infinite negative else .notANumber
  else if field = 0 then
    .finite negative fraction (layout.unitExponent field)
  else
    .finite negative (1 <<< layout.fractionBits + fraction) (layout.unitExponent field)

/-- The least exponent of a unit in this layout. -/
def leastExponent (layout : Layout) : Int :=
  layout.unitExponent 0

end Layout

/-- Read a `Float`. -/
def readFloat (number : Float) : Reading :=
  Layout.binary64.read number.toBits.toNat

/-- Read a `Float32`. -/
def readFloat32 (number : Float32) : Reading :=
  Layout.binary32.read number.toBits.toNat

example : readFloat 1.0 = .finite false (1 <<< 52) (-52) := by decide

example : readFloat (-0.0) = .finite true 0 (-1074) := by decide

example : readFloat (1.0 / 0.0) = .infinite false := by decide

end Decimal
end WorkloadPolicy
