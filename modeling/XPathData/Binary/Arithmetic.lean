import XPathData.Binary.Basic

/-! # Floating-point arithmetic

  Each operation treats NaN and the infinities first and otherwise rounds the
  exact result. A sum that cancels is positive zero, unless both operands carry a
  minus sign.
-/

namespace XPathData.Binary

variable {f : BinaryFormat}

/-! ### Sum and difference -/

/-- The sum. -/
def add : Binary f → Binary f → Binary f
  | nan, _ | _, nan => nan
  | infinity s, infinity t => if s = t then infinity s else nan
  | infinity s, finite .. | finite .., infinity s => infinity s
  | finite s m e, finite t n k =>
    let unit := min e k
    let sum := alignedTo unit s m e + alignedTo unit t n k
    let negative := if sum = 0 then s && t else sum < 0
    roundScaled f negative sum.natAbs unit

/-- The difference. -/
def sub (a b : Binary f) : Binary f := a.add b.neg

/-! ### Product and quotient -/

/-- The product. -/
def mul : Binary f → Binary f → Binary f
  | nan, _ | _, nan => nan
  | infinity s, infinity t => infinity (s != t)
  | infinity s, finite t n _ => if n = 0 then nan else infinity (s != t)
  | finite s m _, infinity t => if m = 0 then nan else infinity (s != t)
  | finite s m e, finite t n k => roundScaled f (s != t) (m * n) (e + k)

/-- The quotient. -/
def div : Binary f → Binary f → Binary f
  | nan, _ | _, nan => nan
  | infinity _, infinity _ => nan
  | infinity s, finite t _ _ => infinity (s != t)
  | finite s _ _, infinity t => finite (s != t) 0 f.minExponent
  | finite s m e, finite t n k =>
    if n = 0 then if m = 0 then nan else infinity (s != t)
    else roundRatio f (s != t) (scaleUp m (e - k)) (n * scaleDown (e - k))

/-- The remainder of the division toward zero, exact and with the sign of the dividend. -/
def rem : Binary f → Binary f → Binary f
  | nan, _ | _, nan => nan
  | infinity _, _ => nan
  | finite s m e, infinity _ => finite s m e
  | finite s m e, finite _ n k =>
    if n = 0 then nan
    else
      let unit := min e k
      roundScaled f s (scaleUp m (e - unit) % scaleUp n (k - unit)) unit

/-! ### Integers -/

/-- The integer part of a finite number, toward zero. -/
def wholeOf (negative : Bool) (m : Nat) (e : Int) : Int :=
  let n : Int := scaleUp m e / scaleDown e
  if negative then -n else n

/-- The integer toward zero; none for NaN and the infinities. -/
def whole? : Binary f → Option Int
  | finite s m e => some (wholeOf s m e)
  | _ => none

/-- The greatest integer that is not greater. -/
def floor : Binary f → Binary f
  | finite s m e =>
    let up := if s && scaleUp m e % scaleDown e != 0 then 1 else 0
    roundRatio f s (scaleUp m e / scaleDown e + up) 1
  | x => x

/-- The nearest integer; a half goes away from zero. -/
def roundHalfAway : Binary f → Binary f
  | finite s m e => roundRatio f s (Rounding.halfUp (scaleUp m e) (scaleDown e)) 1
  | x => x

/-- The nearest integer by adding a half and rounding down. -/
def roundHalfUp (x : Binary f) : Binary f := (x.add (roundRatio f false 1 2)).floor

/-- The power `r * a ^ n`, by squaring `a` and multiplying at the bits of `n`. -/
def powerFrom (r a : Binary f) (n : Nat) : Binary f :=
  if h : n = 0 then r
  else powerFrom (if n % 2 = 1 then r.mul a else r) (a.mul a) (n / 2)
termination_by n
decreasing_by omega

end XPathData.Binary
