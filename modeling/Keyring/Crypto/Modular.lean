import Keyring.Bytes

/-!
# Modular arithmetic

The operations modulo a number on natural numbers below it.
-/

namespace Keyring.Crypto.Modular

variable (m : Nat)

/-- The sum. -/
def add (a b : Nat) : Nat := (a + b) % m

/-- The difference. -/
def sub (a b : Nat) : Nat := (a + (m - b % m)) % m

/-- The product. -/
def mul (a b : Nat) : Nat := a * b % m

/-- The power, by repeated squaring. -/
def pow (a e : Nat) : Nat :=
  if e = 0 then 1 % m
  else
    let rest := pow (mul m a a) (e / 2)
    if e % 2 = 1 then mul m a rest else rest
termination_by e
decreasing_by omega

/-- The inverse modulo a prime of a number that is no multiple of it. -/
def inv (a : Nat) : Nat := pow m a (m - 2)

end Keyring.Crypto.Modular
