/-!
This file holds powers and inverses modulo a number.
-/

namespace MeshAccess.Crypto.Modular

/-- The power of a number modulo another, by repeated squaring. -/
def power (modulus base exponent : Nat) : Nat :=
  if exponent = 0 then 1 % modulus
  else
    let half := power modulus (base * base % modulus) (exponent / 2)
    if exponent % 2 = 0 then half else base * half % modulus
  termination_by exponent
  decreasing_by omega

/-- The inverse of a number modulo a prime. The inverse of zero is zero. -/
def inverse (prime value : Nat) : Nat := power prime value (prime - 2)

/-- The difference of two residues. -/
def sub (modulus first second : Nat) : Nat := (first + (modulus - second % modulus)) % modulus

end MeshAccess.Crypto.Modular
