/-!
# Powers

A power of a whole number is meant in one way throughout: as the core library defines it, by repeated
multiplication.  This holds also where a library is at hand that defines powers for numbers of every
kind, so that a definition means the same wherever it is read.
-/

set_option autoImplicit false

namespace BulkSweep

universe u

/-- Powers by repeated multiplication. -/
@[default_instance 20000]
scoped instance (priority := 2000) power {α : Type u} [NatPow α] : Pow α Nat :=
  instPowNat

end BulkSweep
