/-!
# Remainder of a division

The remainder of the quotient truncated toward zero, which has the sign of the dividend. It is
always representable, so no rounding takes place: both numbers are integers at the lower of their
two exponents, and so is what is left over.
-/

namespace DiceChat.Number

open Float.Model

/-- The remainder, undefined for an infinite dividend and for the divisor zero. -/
def unpackedRemainder : UnpackedFloat → UnpackedFloat → UnpackedFloat
  | .notANumber, _ | _, .notANumber | .infinity _, _ | _, .zero _ => .notANumber
  | .zero sign, _ => .zero sign
  | x, .infinity _ => x
  | .finite sign m e _, .finite _ n f _ =>
    let low := min e f
    let left := m * Nat.pow 2 (e - low).toNat
    let right := n * Nat.pow 2 (f - low).toNat
    .normalize .binary64 (sign.apply (left % right : Nat)) low sign

def remainder (x y : Float) : Float :=
  .ofModel (.pack (unpackedRemainder x.toModel.unpack y.toModel.unpack))

end DiceChat.Number
