import Mathlib
import DiceChat.Number.Shortest

/-!
# Numbers and their parts

The bits of a number hold a sign, an exponent and a mantissa. Taking them apart and putting them
together again are inverse to each other, where the significand stands in lowest position.

## Main results

* `pack_unpack`: the parts of a number make up that number.
* `unpack_pack`: parts in lowest position are the parts of the number that they make up.
* `unpack_neg`: the opposite of a number differs from it in the sign alone.

## Proof strategy

`Holds` says which parts the three fields of the bits stand for. Both directions meet in it: what
is unpacked is held, what is packed is held, and the fields hold one thing only.
-/

namespace DiceChat.Number

open Float.Model UnpackedFloat

/-- A significand in lowest position whose exponent fits. -/
structure Binary.Canonical (x : Binary) : Prop where
  positive : 0 < x.significand
  bits : x.significand < 2 ^ 53
  least : -1074 ≤ x.exponent
  greatest : x.exponent ≤ 971
  lowest : 2 ^ 52 ≤ x.significand ∨ x.exponent = -1074

/-- Parts that some number has. -/
def Packable : UnpackedFloat → Prop
  | .finite _ significand exponent _ => Binary.Canonical ⟨significand, exponent⟩
  | _ => True

/-! ### Fields -/

theorem ofBitVec_toBitVec (sign : UnpackedFloat.Sign) : .ofBitVec sign.toBitVec = sign := by
  cases sign <;> rfl

theorem toBitVec_ofBitVec (bit : BitVec 1) :
    (UnpackedFloat.Sign.ofBitVec bit).toBitVec = bit := by
  decide +revert

theorem toNat_append {n m : Nat} (high : BitVec n) (low : BitVec m) :
    (high ++ low).toNat = high.toNat * 2 ^ m + low.toNat := by
  rw [BitVec.toNat_append, ← Nat.shiftLeft_add_eq_or_of_lt low.isLt, Nat.shiftLeft_eq]

theorem toNat_packComponents (sign : UnpackedFloat.Sign) (exponent : BitVec 11)
    (mantissa : BitVec 52) :
    (packComponents .binary64 sign exponent mantissa).toNat =
      (sign.toBitVec.toNat * 2 ^ 11 + exponent.toNat) * 2 ^ 52 + mantissa.toNat := by
  rw [packComponents, toNat_append, toNat_append]

theorem toNat_unpackMantissa (bits : BitVec 64) :
    (@unpackMantissa .binary64 bits).toNat = bits.toNat % 2 ^ 52 :=
  rfl

theorem toNat_unpackExponent (bits : BitVec 64) :
    (@unpackExponent .binary64 bits).toNat = bits.toNat / 2 ^ 52 % 2 ^ 11 := by
  rw [← Nat.shiftRight_eq_div_pow]
  rfl

theorem toNat_unpackSign (bits : BitVec 64) :
    (@unpackSign .binary64 bits).toNat = bits.toNat / 2 ^ 63 := by
  have bound := bits.isLt
  have cut : (@unpackSign .binary64 bits).toNat = bits.toNat >>> 63 % 2 ^ 1 := rfl
  rw [cut, Nat.shiftRight_eq_div_pow]
  omega

/-- The three fields of the bits make up the bits. -/
theorem fields_of_bits (bits : BitVec 64) :
    packComponents .binary64 (.ofBitVec (@unpackSign .binary64 bits))
      (@unpackExponent .binary64 bits) (@unpackMantissa .binary64 bits) =
        bits := by
  apply BitVec.eq_of_toNat_eq
  rw [toNat_packComponents, toBitVec_ofBitVec, toNat_unpackSign, toNat_unpackExponent,
    toNat_unpackMantissa]
  omega

theorem sign_of_fields (sign : UnpackedFloat.Sign) (exponent : BitVec 11)
    (mantissa : BitVec 52) :
    unpackSign (packComponents .binary64 sign exponent mantissa) = sign.toBitVec := by
  have exponentBound := exponent.isLt
  have mantissaBound := mantissa.isLt
  apply BitVec.eq_of_toNat_eq
  rw [toNat_unpackSign, toNat_packComponents]
  omega

/-! ### What fields hold -/

/-- The parts that a sign, an exponent and a mantissa stand for. The greatest exponent marks what is
not finite, and the least one a significand without its leading bit. -/
inductive Holds (sign : UnpackedFloat.Sign) (exponent mantissa : Nat) : UnpackedFloat → Prop where
  | infinity (full : exponent = 2047) (none : mantissa = 0) :
    Holds sign exponent mantissa (.infinity sign)
  | notANumber (full : exponent = 2047) (some : 0 < mantissa) :
    Holds sign exponent mantissa .notANumber
  | zero (least : exponent = 0) (none : mantissa = 0) : Holds sign exponent mantissa (.zero sign)
  | subnormal (least : exponent = 0) (some : 0 < mantissa) :
    Holds sign exponent mantissa (.finite sign mantissa (-1074) some)
  | normal (inner : 0 < exponent ∧ exponent < 2047) :
    Holds sign exponent mantissa
      (.finite sign (2 ^ 52 + mantissa) (exponent - 1075) (by omega))

section

variable {sign : UnpackedFloat.Sign} {u v : UnpackedFloat}

theorem Holds.unique {exponent mantissa : Nat} (left : Holds sign exponent mantissa u)
    (right : Holds sign exponent mantissa v) : u = v := by
  cases left <;> cases right <;> first | rfl | omega

theorem eq_zero_iff {n : Nat} (bits : BitVec n) : bits = 0#n ↔ bits.toNat = 0 := by
  rw [← BitVec.toNat_inj, BitVec.toNat_zero]

theorem eq_full_iff (exponent : BitVec 11) : exponent = -1#11 ↔ exponent.toNat = 2047 := by
  rw [← BitVec.toNat_inj]
  rfl

theorem toNat_leadingBit (mantissa : BitVec 52) :
    (1#1 ++ mantissa).toNat = 2 ^ 52 + mantissa.toNat := by
  rw [toNat_append]
  rfl

theorem finite_congr {m n : Nat} {e f : Int} (significand : m = n) (exponent : e = f) {pos pos'} :
    UnpackedFloat.finite sign m e pos = .finite sign n f pos' := by
  subst significand exponent
  rfl

/-- What is unpacked from bits is what their fields hold. -/
theorem holds_unpack (bits : BitVec 64) :
    Holds (.ofBitVec (@unpackSign .binary64 bits))
      (@unpackExponent .binary64 bits).toNat
      (@unpackMantissa .binary64 bits).toNat (UnpackedFloat.unpack .binary64 bits) := by
  have bound := (@unpackExponent .binary64 bits).isLt
  have bias : (Format.binary64.exponentBias : Int) = 1023 := rfl
  unfold UnpackedFloat.unpack
  dsimp only
  split
  next full =>
    rw [eq_full_iff] at full
    split
    next none => exact .infinity full ((eq_zero_iff _).mp none)
    next some =>
      rw [eq_zero_iff] at some
      exact .notANumber full (Nat.pos_of_ne_zero some)
  next notFull =>
    rw [eq_full_iff] at notFull
    split
    next least =>
      rw [eq_zero_iff] at least
      split
      next none => exact .zero least ((eq_zero_iff _).mp none)
      next some =>
        rw [eq_zero_iff] at some
        have held : Holds (.ofBitVec (@unpackSign .binary64 bits)) _ _ _ :=
          .subnormal least (Nat.pos_of_ne_zero some)
        rwa [finite_congr rfl (by rw [least, bias])]
    next notLeast =>
      rw [eq_zero_iff] at notLeast
      have held : Holds (.ofBitVec (@unpackSign .binary64 bits)) _
          (@unpackMantissa .binary64 bits).toNat _ :=
        .normal ⟨Nat.pos_of_ne_zero notLeast,
          Nat.lt_of_le_of_ne (Nat.le_of_lt_succ bound) notFull⟩
      rwa [finite_congr (toNat_leadingBit _) (by rw [bias])]

/-- What bits hold can be packed. -/
theorem Holds.packable {exponent mantissa : Nat} (small : mantissa < 2 ^ 52)
    (held : Holds sign exponent mantissa u) : Packable u := by
  cases held with
  | infinity | notANumber | zero => trivial
  | subnormal _ some => constructor <;> dsimp only <;> omega
  | normal inner => constructor <;> dsimp only <;> omega

theorem pack_finite (m : Nat) (e : Int) (pos : 0 < m) :
    UnpackedFloat.pack .binary64 (.finite sign m e pos) =
      if 2048 ≤ (e + 1075).toNat + 1 then packedInfinity .binary64 sign
      else if m.log2 + 1 = 53 then
        packComponents .binary64 sign (BitVec.ofNat 11 (e + 1075).toNat) (BitVec.ofNat 52 m)
      else packComponents .binary64 sign 0#11 (BitVec.ofNat 52 m) := by
  have biased : e + 1075 = e + (Format.binary64.exponentBias : Int) + (52 : Nat) := by
    change _ = e + 1023 + 52
    omega
  rw [biased]
  rfl

/-- What fields hold is packed into these fields, except that there is one way only to write what is
no number. -/
theorem Holds.pack {exponent : BitVec 11} {mantissa : BitVec 52}
    (held : Holds sign exponent.toNat mantissa.toNat u) (number : u ≠ .notANumber) :
    UnpackedFloat.pack .binary64 u = packComponents .binary64 sign exponent mantissa := by
  have small := mantissa.isLt
  cases held with
  | infinity full none =>
    rw [← eq_full_iff] at full
    rw [← eq_zero_iff] at none
    rw [full, none]
    rfl
  | notANumber => exact absurd rfl number
  | zero least none =>
    rw [← eq_zero_iff] at least none
    rw [least, none]
    rfl
  | subnormal least some =>
    have short := (Nat.log2_lt (Nat.ne_of_gt some)).mpr small
    rw [← eq_zero_iff] at least
    rw [pack_finite, if_neg (by decide), if_neg (by omega), BitVec.ofNat_toNat,
      BitVec.setWidth_eq, least]
  | normal inner =>
    have long : (2 ^ 52 + mantissa.toNat).log2 = 52 :=
      (Nat.log2_eq_iff (by omega)).mpr (by omega)
    have biased : ((exponent.toNat : Int) - 1075 + 1075).toNat = exponent.toNat := by omega
    -- The leading bit is cut off.
    have rest : BitVec.ofNat 52 (2 ^ 52 + mantissa.toNat) = mantissa := by
      apply BitVec.eq_of_toNat_eq
      rw [BitVec.toNat_ofNat]
      omega
    rw [pack_finite, biased, if_neg (by omega), if_pos (by omega), rest, BitVec.ofNat_toNat,
      BitVec.setWidth_eq]

/-- Parts that some number has are held by the fields that they are packed into. -/
theorem exists_holds (packable : Packable u) :
    ∃ (sign : UnpackedFloat.Sign) (exponent : BitVec 11) (mantissa : BitVec 52),
      UnpackedFloat.pack .binary64 u = packComponents .binary64 sign exponent mantissa ∧
        Holds sign exponent.toNat mantissa.toNat u := by
  cases u with
  | infinity sign => exact ⟨sign, _, _, rfl, .infinity rfl rfl⟩
  | notANumber => exact ⟨.positive, _, _, rfl, .notANumber rfl (by decide)⟩
  | zero sign => exact ⟨sign, _, _, rfl, .zero rfl rfl⟩
  | finite sign m e pos =>
    obtain ⟨-, bits, least, greatest, lowest⟩ := packable
    dsimp only at bits least greatest lowest
    by_cases full : 2 ^ 52 ≤ m
    · -- The fields lose the leading bit, and nothing else.
      have exponent : (BitVec.ofNat 11 (e + 1075).toNat).toNat = (e + 1075).toNat :=
        Nat.mod_eq_of_lt (by omega)
      have mantissa : (BitVec.ofNat 52 m).toNat = m - 2 ^ 52 := by
        rw [BitVec.toNat_ofNat]
        omega
      have held : Holds sign (BitVec.ofNat 11 (e + 1075).toNat).toNat (BitVec.ofNat 52 m).toNat
          (.finite sign m e pos) := by
        rw [exponent, mantissa, finite_congr (m := m) (n := 2 ^ 52 + (m - 2 ^ 52))
          (f := ((e + 1075).toNat : Int) - 1075) (by omega) (by omega)]
        exact .normal (by omega)
      exact ⟨sign, _, _, held.pack nofun, held⟩
    · -- Without a leading bit the exponent is the least one.
      obtain rfl := lowest.resolve_left full
      have mantissa : (BitVec.ofNat 52 m).toNat = m := Nat.mod_eq_of_lt (by omega)
      have held : Holds sign (0#11).toNat (BitVec.ofNat 52 m).toNat
          (.finite sign m (-1074) pos) := by
        rw [mantissa]
        exact .subnormal rfl pos
      exact ⟨sign, _, _, held.pack nofun, held⟩

end

/-! ### Numbers -/

/-- The parts of a number make up that number. -/
theorem pack_unpack (x : Float.Model) : Float.Model.pack x.unpack = x := by
  have held : Holds _ _ _ x.unpack := holds_unpack x.toBits.toBitVec
  have bits : UnpackedFloat.pack .binary64 x.unpack = x.toBits.toBitVec := by
    by_cases number : x.unpack = .notANumber
    · -- What is no number has the same bits everywhere.
      rw [number] at held
      cases held with
      | notANumber full some =>
        rw [← eq_full_iff] at full
        rw [number]
        exact (x.valid.eq_packedNaN full (mt (eq_zero_iff _).mp (Nat.ne_of_gt some))).symm
    · rw [← fields_of_bits x.toBits.toBitVec]
      exact held.pack number
  cases x with
  | mk toBits valid =>
    rw [Float.Model.pack]
    congr 1
    rw [bits, UInt64.ofBitVec_toBitVec]

theorem packable_unpack (x : Float.Model) : Packable x.unpack :=
  (holds_unpack x.toBits.toBitVec).packable (BitVec.isLt _)

/-- Parts in lowest position are the parts of the number that they make up. -/
theorem unpack_pack {u : UnpackedFloat} (packable : Packable u) :
    (Float.Model.pack u).unpack = u := by
  obtain ⟨sign, exponent, mantissa, packed, held⟩ := exists_holds packable
  have again := holds_unpack (packComponents .binary64 sign exponent mantissa)
  rw [sign_of_fields, ofBitVec_toBitVec, unpackExponent_packComponents,
    unpackMantissa_packComponents] at again
  rw [← packed] at again
  exact again.unique held

theorem packable_neg {u : UnpackedFloat} (packable : Packable u) : Packable u.neg := by
  cases u <;> exact packable

/-- The opposite of a number has its parts, with the opposite sign. -/
theorem unpack_neg (x : Float) : (-x).toModel.unpack = x.toModel.unpack.neg :=
  unpack_pack (packable_neg (packable_unpack _))

theorem neg_neg_float (x : Float) : -(-x) = x := by
  have twice : x.toModel.unpack.neg.neg = x.toModel.unpack := by
    cases x.toModel.unpack with
    | notANumber => rfl
    | infinity sign | zero sign | finite sign => cases sign <;> rfl
  change Float.ofModel (.pack (-x).toModel.unpack.neg) = x
  rw [unpack_neg, twice, pack_unpack]

end DiceChat.Number
