/-!
# Arithmetic modulo a prime

Powers by repeated squaring, and inverses as powers. Numbers stand for their residues.
-/

namespace GuardianRelay.Modular

/-- `base ^ exponent` modulo `m`. -/
def pow (m base exponent : Nat) : Nat :=
  if _h : exponent = 0 then 1 % m
  else
    let rest := pow m (base * base % m) (exponent / 2)
    if exponent % 2 = 1 then base * rest % m else rest
termination_by exponent
decreasing_by omega

/-- The inverse of `a` modulo a prime `p`; zero has the inverse zero. -/
def inverse (p a : Nat) : Nat := pow p (a % p) (p - 2)

/-- `a - b` modulo `m`. -/
def sub (m a b : Nat) : Nat := (a + (m - b % m)) % m

end GuardianRelay.Modular
