import StoreBench.Proofs.Decimal.Rounding

/-!
Contract: the bits of a double stand for the number that they are unpacked to, and back.

Owns:
- the fields of the bits;
- `ofFloat_eq`, that the quantity of a double is the number that is unpacked from it;
- `unpack_pack`, that what is packed of a double is unpacked to it.

Does not own: rounding.
-/

namespace StoreBench.Decimal

open Float.Model
open Float.Model.UnpackedFloat

variable {sign : Sign} {significand : Nat} {exponent : Int}

/-! ## Fields -/

theorem toNat_unpackMantissa (bits : BitVec 64) :
    (@unpackMantissa Format.binary64 bits).toNat = bits.toNat % 2 ^ 52 := by
  rw [unpackMantissa, BitVec.toNat_cast, BitVec.extractLsb_toNat]
  rfl

theorem toNat_unpackExponent (bits : BitVec 64) :
    (@unpackExponent Format.binary64 bits).toNat = bits.toNat / 2 ^ 52 % 2 ^ 11 := by
  rw [unpackExponent, BitVec.toNat_cast, BitVec.extractLsb_toNat, Nat.shiftRight_eq_div_pow]
  rfl

theorem toNat_unpackSign (bits : BitVec 64) :
    (@unpackSign Format.binary64 bits).toNat = bits.toNat / 2 ^ 63 := by
  rw [unpackSign, BitVec.toNat_cast, BitVec.extractLsb_toNat, Nat.shiftRight_eq_div_pow]
  exact Nat.mod_eq_of_lt (Nat.div_lt_of_lt_mul bits.isLt)

theorem toNat_append_lt {high low : Nat} (first : BitVec high) (second : BitVec low) :
    (first ++ second).toNat = first.toNat * 2 ^ low + second.toNat := by
  rw [BitVec.toNat_append, ← Nat.shiftLeft_add_eq_or_of_lt second.isLt, Nat.shiftLeft_eq]

/-! ## What bits stand for -/

def isNegative : Sign → Bool
  | .negative => true
  | .positive => false

/-- The number of an unpacked double. -/
def Binary64.ofUnpacked : UnpackedFloat → Binary64
  | .notANumber => .notANumber
  | .infinity sign => .infinite (isNegative sign)
  | .zero sign => .finite (isNegative sign) 0 leastExponent
  | .finite sign significand exponent _ => .finite (isNegative sign) significand exponent

theorem isNegative_ofBitVec (bit : BitVec 1) :
    isNegative (Sign.ofBitVec bit) = (bit.toNat == 1) := by
  revert bit
  decide

theorem toNat_one_append (fraction : BitVec 52) :
    (1#1 ++ fraction).toNat = fraction.toNat + 2 ^ 52 := by
  rw [toNat_append_lt]
  exact Nat.add_comm _ _

/-- Both readings of the bits agree. -/
theorem Binary64.ofBits_eq (bits : UInt64) :
    ofBits bits = ofUnpacked (UnpackedFloat.unpack Format.binary64 bits.toBitVec) := by
  have sign := isNegative_ofBitVec (@unpackSign Format.binary64 bits.toBitVec)
  have field := toNat_unpackExponent bits.toBitVec
  have fraction := toNat_unpackMantissa bits.toBitVec
  rw [toNat_unpackSign] at sign
  have toNat : bits.toBitVec.toNat = bits.toNat := rfl
  rw [toNat] at sign field fraction
  rw [ofBits, UnpackedFloat.unpack]
  have all : @unpackExponent Format.binary64 bits.toBitVec = -1#11 ↔
      bits.toNat / hiddenBit % 2048 = 2047 := by
    rw [← BitVec.toNat_inj, field]
    rfl
  have none : @unpackExponent Format.binary64 bits.toBitVec = 0#11 ↔
      bits.toNat / hiddenBit % 2048 = 0 := by
    rw [← BitVec.toNat_inj, field]
    rfl
  have empty : @unpackMantissa Format.binary64 bits.toBitVec = 0#52 ↔
      bits.toNat % hiddenBit = 0 := by
    rw [← BitVec.toNat_inj, fraction]
    rfl
  dsimp only
  by_cases huge : bits.toNat / hiddenBit % 2048 = 2047
  · rw [if_pos huge, if_pos (all.2 huge)]
    by_cases zero : bits.toNat % hiddenBit = 0
    · rw [if_pos zero, if_pos (empty.2 zero)]
      exact congrArg Binary64.infinite sign.symm
    · rw [if_neg zero, if_neg (mt empty.1 zero)]
      rfl
  · rw [if_neg huge, if_neg (mt all.1 huge)]
    by_cases tiny : bits.toNat / hiddenBit % 2048 = 0
    · rw [if_pos tiny, if_pos (none.2 tiny)]
      by_cases zero : bits.toNat % hiddenBit = 0
      · rw [dif_pos (empty.2 zero), zero]
        exact congrArg (Binary64.finite · 0 leastExponent) sign.symm
      · rw [dif_neg (mt empty.1 zero), ofUnpacked, finite.injEq, fraction, field]
        refine ⟨sign.symm, rfl, ?_⟩
        have least : bits.toNat / 2 ^ 52 % 2 ^ 11 = 0 := tiny
        rw [least]
        rfl
    · rw [if_neg tiny, if_neg (mt none.1 tiny), ofUnpacked, finite.injEq, toNat_one_append,
        fraction, field]
      refine ⟨sign.symm, rfl, ?_⟩
      show -1074 + (((bits.toNat / 2 ^ 52 % 2 ^ 11 : Nat) : Int) - 1) =
        ((bits.toNat / 2 ^ 52 % 2 ^ 11 : Nat) : Int) - 1075
      omega

/-- What is unpacked is a double. -/
theorem isDouble_of_unpack {bits : BitVec 64} {positive : 0 < significand}
    (unpacked : UnpackedFloat.unpack Format.binary64 bits =
      .finite sign significand exponent positive) : IsDouble significand exponent := by
  have field := toNat_unpackExponent bits
  have fraction := toNat_unpackMantissa bits
  have size := bits.isLt
  rw [UnpackedFloat.unpack] at unpacked
  dsimp only at unpacked
  split at unpacked
  · split at unpacked <;> cases unpacked
  · next finite =>
    have below : bits.toNat / 2 ^ 52 % 2 ^ 11 ≠ 2047 := by
      rw [← field]
      exact fun same => finite (BitVec.eq_of_toNat_eq same)
    split at unpacked
    · next tiny =>
      split at unpacked
      · cases unpacked
      · injection unpacked with _ mantissa power
        have none : (@unpackExponent Format.binary64 bits).toNat = 0 := by
          rw [tiny]
          rfl
        rw [none] at power
        have power : exponent = -1074 := power.symm
        exact ⟨positive, by omega, by omega, by omega, .inl power⟩
    · next full =>
      injection unpacked with _ mantissa power
      have above : bits.toNat / 2 ^ 52 % 2 ^ 11 ≠ 0 := by
        rw [← field]
        exact fun same => full (BitVec.eq_of_toNat_eq same)
      rw [toNat_one_append] at mantissa
      rw [field] at power
      have power : exponent = ((bits.toNat / 2 ^ 52 % 2 ^ 11 : Nat) : Int) - 1075 := power.symm
      exact ⟨positive, by omega, by omega, by omega, .inr (by omega)⟩

/-! ## Packing -/

/-- A double is packed into its exponent and the places behind its first one; without that one,
the exponent is left out. -/
theorem pack_eq (sign : Sign) (double : IsDouble significand exponent) :
    UnpackedFloat.pack Format.binary64 (.finite sign significand exponent double.positive) =
      packComponents Format.binary64 sign
        (if 2 ^ 52 ≤ significand then BitVec.ofNat 11 (exponent + 1075).toNat else 0#11)
        (BitVec.ofNat 52 significand) := by
  obtain ⟨positive, small, least, greatest, full⟩ := double
  rw [UnpackedFloat.pack]
  have bias : (exponent + Format.binary64.exponentBias + (52 : Nat)).toNat =
      (exponent + 1075).toNat := by
    have bias : (Format.binary64.exponentBias : Int) = 1023 := rfl
    rw [bias]
    omega
  dsimp only
  rw [bias, if_neg (by omega)]
  have normal : significand.log2 + 1 = Format.binary64.mantissaBits ↔ 2 ^ 52 ≤ significand := by
    have few := (Nat.log2_lt positive.ne').2 small
    have enough := @Nat.le_log2 significand 52 positive.ne'
    have bits : Format.binary64.mantissaBits = 53 := rfl
    rw [bits, ← enough]
    omega
  by_cases first : 2 ^ 52 ≤ significand
  · rw [if_pos (normal.2 first), if_pos first]
  · rw [if_neg (mt normal.1 first), if_neg first]

theorem unpack_normal {field : BitVec 11} (fraction : BitVec 52) (full : field.toNat ≠ 0)
    (finite : field.toNat ≠ 2047) :
    UnpackedFloat.unpack Format.binary64 (packComponents Format.binary64 sign field fraction) =
      .finite sign (fraction.toNat + 2 ^ 52) (field.toNat - 1075) (Nat.succ_pos _) := by
  rw [UnpackedFloat.unpack]
  dsimp only
  rw [if_neg, if_neg]
  · simp only [unpackMantissa_packComponents, unpackExponent_packComponents,
      unpackSign_packComponents, Sign.ofBitVec_toBitVec, toNat_one_append]
    rfl
  · rw [unpackExponent_packComponents]
    exact fun same => full (congrArg BitVec.toNat same)
  · rw [unpackExponent_packComponents]
    exact fun same => finite (congrArg BitVec.toNat same)

theorem unpack_subnormal {fraction : BitVec 52} (some : 0 < fraction.toNat) :
    UnpackedFloat.unpack Format.binary64 (packComponents Format.binary64 sign 0#11 fraction) =
      .finite sign fraction.toNat (-1074) some := by
  rw [UnpackedFloat.unpack]
  dsimp only
  rw [if_neg, if_pos, dif_neg]
  · simp only [unpackMantissa_packComponents, unpackExponent_packComponents,
      unpackSign_packComponents, Sign.ofBitVec_toBitVec]
    rfl
  · rw [unpackMantissa_packComponents]
    rintro rfl
    exact Nat.lt_irrefl 0 some
  · exact unpackExponent_packComponents
  · rw [unpackExponent_packComponents]
    decide

/-- A double is packed into fields that stand for it. -/
theorem unpack_pack (sign : Sign) (double : IsDouble significand exponent) :
    UnpackedFloat.unpack Format.binary64
        (UnpackedFloat.pack Format.binary64 (.finite sign significand exponent double.positive)) =
      .finite sign significand exponent double.positive := by
  rw [pack_eq sign double]
  obtain ⟨positive, small, least, greatest, full⟩ := double
  by_cases first : 2 ^ 52 ≤ significand
  · have field : (BitVec.ofNat 11 (exponent + 1075).toNat).toNat = (exponent + 1075).toNat :=
      Nat.mod_eq_of_lt (by omega)
    have fraction : (BitVec.ofNat 52 significand).toNat + 2 ^ 52 = significand := by
      rw [BitVec.toNat_ofNat]
      omega
    rw [if_pos first, unpack_normal _ (by omega) (by omega), UnpackedFloat.finite.injEq]
    exact ⟨rfl, fraction, by omega⟩
  · have fraction : (BitVec.ofNat 52 significand).toNat = significand :=
      Nat.mod_eq_of_lt (by omega)
    rw [if_neg first, unpack_subnormal (by omega), UnpackedFloat.finite.injEq]
    exact ⟨rfl, fraction, by omega⟩

/-! ## Doubles -/

theorem ofFloat_eq (value : Float) :
    Binary64.ofFloat value = Binary64.ofUnpacked value.toModel.unpack :=
  Binary64.ofBits_eq value.toBits

/-- A double is what is packed of the number that is unpacked from it. -/
theorem ofModel_pack (value : Float) :
    Float.ofModel (Float.Model.pack value.toModel.unpack) = value := by
  obtain ⟨⟨bits, valid⟩⟩ := value
  have packed := pack_unpack_of_valid valid
  apply congrArg Float.ofModel
  rw [Float.Model.pack, Float.Model.mk.injEq, Float.Model.unpack, packed]

end StoreBench.Decimal
