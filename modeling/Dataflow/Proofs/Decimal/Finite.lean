import Dataflow.Decimal.Literal
import Mathlib.Algebra.Group.Nat.Defs
import Mathlib.Data.Nat.Log

/-! The value of a literal is a finite number.

A product that overflows is refused (`value?`), and a division is by ten at least, so
rounding its result up cannot lead past the largest number. What is followed through the
arithmetic is a bound on the biased exponent in a number's bits: `2047` is the exponent of
the infinities, and `Within k` says of an unpacked number that packing it gives at most `k`.
Rounding a mantissa of `bits` bits raises its exponent by no more than twice the bits that
are too many (`within_roundWithAccuracy`), which is crude and far enough from the bound
for all but the powers of ten. Those fill their 53 bits, so that their exponent is known
up to one (`log2_roundWithAccuracy`), and only the largest of them has to be computed. -/
namespace Dataflow.Decimal

open Float.Model (Format UnpackedFloat totalExponent)
open Float.Model.UnpackedFloat (Accuracy ExtendedMantissa Sign)

/-! ### The exponent in the bits -/

/-- The biased exponent in the bits of a number. -/
def exponentField (x : Float) : Nat :=
  (@UnpackedFloat.unpackExponent .binary64 x.toModel.toBits.toBitVec).toNat

/-- Zero, or a magnitude whose biased exponent is at most `k`. -/
def Within (k : Nat) : UnpackedFloat → Prop
  | .zero _ => True
  | .finite _ _ e _ => e + 1075 ≤ k
  | _ => False

/-- The mantissa, if there is one, has at most 53 bits. -/
def Narrow : UnpackedFloat → Prop
  | .finite _ m _ _ => m < 2 ^ 53
  | _ => True

/-- A magnitude of eight at least. -/
def Large : UnpackedFloat → Bool
  | .finite _ m e _ => decide (4 ≤ totalExponent m e)
  | _ => false

theorem log2_append_one (v : BitVec 52) : 52 ≤ (1#1 ++ v).toNat.log2 := by
  have wide : 2 ^ 52 ≤ (1#1 ++ v).toNat := by
    rw [BitVec.toNat_append]
    exact Nat.left_le_or
  exact (Nat.le_log2 (by omega)).2 wide

/-- What bits with a biased exponent come to. -/
inductive Unpacks : Nat → UnpackedFloat → Prop
  | infinity (s : Sign) : Unpacks 2047 (.infinity s)
  | notANumber : Unpacks 2047 .notANumber
  | zero (s : Sign) : Unpacks 0 (.zero s)
  | subnormal (s : Sign) {m : Nat} {e : Int} (pos : 0 < m) (narrow : m < 2 ^ 52)
      (exponent : e + 1075 = 1) : Unpacks 0 (.finite s m e pos)
  | normal (s : Sign) {field m : Nat} {e : Int} (pos : 0 < m) (narrow : m < 2 ^ 53)
      (wide : 52 ≤ m.log2) (exponent : e + 1075 = field) (below : field < 2047) :
      Unpacks field (.finite s m e pos)

theorem unpacks (x : Float) : Unpacks (exponentField x) x.toModel.unpack := by
  have bias : Format.exponentBias .binary64 = 1023 := rfl
  unfold exponentField Float.Model.unpack UnpackedFloat.unpack
  generalize same : @UnpackedFloat.unpackExponent .binary64 x.toModel.toBits.toBitVec = field
  dsimp only
  rw [bias]
  by_cases top : field = -1#11
  · rw [if_pos top, top]
    split
    · exact .infinity _
    · exact .notANumber
  rw [if_neg top]
  by_cases bottom : field = 0#11
  · rw [if_pos bottom, bottom]
    by_cases zero : @UnpackedFloat.unpackMantissa .binary64 x.toModel.toBits.toBitVec = 0#52
    · rw [dif_pos zero]
      exact .zero _
    · rw [dif_neg zero]
      exact .subnormal _ _ (BitVec.isLt _) rfl
  · rw [if_neg bottom]
    have bound : field.toNat < 2048 := field.isLt
    have below : field.toNat ≠ 2047 := fun eq => top (BitVec.eq_of_toNat_eq eq)
    exact .normal _ _ (BitVec.isLt _) (log2_append_one _) (Int.sub_add_cancel ..) (by omega)

section
variable {field : Nat} {f : UnpackedFloat} (h : Unpacks field f)
include h

theorem Unpacks.isFinite_iff : f.isFinite = true ↔ field < 2047 := by
  cases h with
  | infinity | notANumber => exact iff_of_false Bool.false_ne_true (Nat.lt_irrefl _)
  | zero | subnormal => exact iff_of_true rfl (by decide)
  | normal _ _ _ _ _ below => exact iff_of_true rfl below

theorem Unpacks.within {k : Nat} (pos : 0 < k) (small : k < 2047) (le : field ≤ k) :
    Within k f := by
  cases h with
  | infinity | notANumber => omega
  | zero => trivial
  | subnormal _ _ _ exponent =>
    show _ + (1075 : Int) ≤ k
    omega
  | normal _ _ _ _ exponent =>
    show _ + (1075 : Int) ≤ k
    omega

theorem Unpacks.narrow : Narrow f := by
  cases h with
  | infinity | notANumber | zero => trivial
  | subnormal _ _ narrow => exact narrow.trans (by decide)
  | normal _ _ narrow => exact narrow

theorem Unpacks.large (lower : 1026 ≤ field) (upper : field < 2047) : Large f = true := by
  cases h with
  | infinity | notANumber | zero | subnormal => omega
  | normal _ _ _ wide exponent =>
    refine decide_eq_true ?_
    unfold totalExponent
    omega

end

theorem isFinite_iff (x : Float) : x.isFinite = true ↔ exponentField x < 2047 :=
  (unpacks x).isFinite_iff

theorem exponentField_pack {k : Nat} {f : UnpackedFloat} (small : k < 2047) (h : Within k f) :
    exponentField (.ofModel (.pack f)) ≤ k := by
  show (UnpackedFloat.unpackExponent (UnpackedFloat.pack .binary64 f)).toNat ≤ k
  cases f with
  | zero s =>
    unfold UnpackedFloat.pack UnpackedFloat.packedZero
    simp
  | finite s m e pos =>
    dsimp only [Within] at h
    have bias : Format.exponentBias .binary64 = 1023 := rfl
    unfold UnpackedFloat.pack
    dsimp only
    rw [bias, if_neg (by omega)]
    split
    · simp
      omega
    · simp
  | infinity s => cases h
  | notANumber => cases h

theorem exponentField_normal (s : Sign) {m : Nat} (e : Int) (pos : 0 < m) (log : m.log2 = 52)
    (lower : 0 < e + 1075) (upper : e + 1075 < 2047) :
    (exponentField (.ofModel (.pack (.finite s m e pos))) : Int) = e + 1075 := by
  show ((UnpackedFloat.unpackExponent
    (UnpackedFloat.pack .binary64 (.finite s m e pos))).toNat : Int) = _
  have bias : Format.exponentBias .binary64 = 1023 := rfl
  have bits : Format.mantissaBits .binary64 = 53 := rfl
  unfold UnpackedFloat.pack
  dsimp only
  rw [bias, bits, if_neg (by omega), if_pos (by omega)]
  simp
  omega

theorem within_of_isFinite {x : Float} (h : x.isFinite = true) : Within 2046 x.toModel.unpack :=
  (unpacks x).within (by decide) (by decide) (Nat.lt_succ_iff.1 ((isFinite_iff x).1 h))

theorem isFinite_of_within {f : UnpackedFloat} (h : Within 2046 f) :
    (Float.ofModel (.pack f)).isFinite = true :=
  (isFinite_iff _).2 (Nat.lt_succ_of_le (exponentField_pack (by decide) h))

/-- Packing a finite number gives a finite number or an infinity, but no NaN. -/
theorem isFinite_of_not_isInf {f : UnpackedFloat} (h : f.isFinite = true)
    (small : (Float.ofModel (.pack f)).isInf = false) :
    (Float.ofModel (.pack f)).isFinite = true := by
  cases f with
  | zero s => exact isFinite_of_within trivial
  | finite s m e pos =>
    by_cases fits : e + 1075 ≤ 2046
    · exact isFinite_of_within fits
    · have infinite : UnpackedFloat.pack .binary64 (.finite s m e pos) =
          UnpackedFloat.pack .binary64 (.infinity s) := by
        have bias : Format.exponentBias .binary64 = 1023 := rfl
        unfold UnpackedFloat.pack
        dsimp only
        rw [bias, if_pos (by omega)]
      have unpacked : (UnpackedFloat.unpack .binary64
          (UnpackedFloat.pack .binary64 (.finite s m e pos))).isInf = false := small
      rw [infinite] at unpacked
      cases s <;> exact absurd unpacked (by decide)
  | infinity s => cases h
  | notANumber => cases h

/-! ### Rounding -/

theorem mantissa_repeat (em : ExtendedMantissa) (n : Nat) :
    (n.repeat ExtendedMantissa.shiftRightOne em).mantissa = em.mantissa / 2 ^ n := by
  induction n with
  | zero => exact (Nat.div_one _).symm
  | succ n ih =>
    show (n.repeat ExtendedMantissa.shiftRightOne em).mantissa / 2 = _
    rw [ih, Nat.div_div_eq_div_mul, Nat.pow_succ]

theorem roundedMantissa_le (em : ExtendedMantissa) : em.roundedMantissa ≤ em.mantissa + 1 := by
  unfold ExtendedMantissa.roundedMantissa Accuracy.roundToNearestEven
  split <;> omega

theorem le_roundedMantissa (em : ExtendedMantissa) : em.mantissa ≤ em.roundedMantissa := by
  unfold ExtendedMantissa.roundedMantissa Accuracy.roundToNearestEven
  split <;> omega

theorem mantissa_ofMantissaAndAccuracy (m : Nat) (a : Accuracy) :
    (ExtendedMantissa.ofMantissaAndAccuracy m a).mantissa = m := by
  unfold ExtendedMantissa.ofMantissaAndAccuracy
  split <;> rfl

theorem targetExponent_eq (total : Int) :
    Format.targetExponent .binary64 total = max (total - 53) (-1074) := rfl

theorem shift_mantissa (m : Nat) (e : Int) (a : Accuracy) :
    (UnpackedFloat.shiftToTargetExponent .binary64 m e a).1.mantissa =
      m / 2 ^ (max (m.log2 + 1 + e - 53) (-1074) - e).toNat := by
  have shifted := mantissa_repeat (.ofMantissaAndAccuracy m a)
    (max ((m.log2 : Int) + 1 + e - 53) (-1074) - e).toNat
  rwa [mantissa_ofMantissaAndAccuracy] at shifted

theorem shift_exponent (m : Nat) (e : Int) (a : Accuracy) :
    (UnpackedFloat.shiftToTargetExponent .binary64 m e a).2 =
      max e (max (m.log2 + 1 + e - 53) (-1074)) := by
  unfold UnpackedFloat.shiftToTargetExponent UnpackedFloat.shiftToExponent totalExponent
  dsimp only
  rw [targetExponent_eq]
  omega

theorem log2_lt_of_lt {m bits : Nat} (pos : 0 < bits) (h : m < 2 ^ bits) : m.log2 < bits := by
  by_cases zero : m = 0
  · rwa [zero, Nat.log2_zero]
  · exact (Nat.log2_lt zero).2 h

theorem log2_eq {m bits : Nat} (lower : 2 ^ bits ≤ m) (upper : m < 2 ^ (bits + 1)) :
    m.log2 = bits :=
  (Nat.log2_eq_iff (Nat.pos_iff_ne_zero.1 (lt_of_lt_of_le (Nat.two_pow_pos bits) lower))).2
    ⟨lower, upper⟩

/-- Rounding shifts twice: once by the bits that are too many, and once more if that
rounded up to a further bit. -/
theorem roundWithAccuracy_of_shifts {m : Nat} {e e₁ e₂ : Int} {a : Accuracy}
    {em₁ em₂ : ExtendedMantissa} (s : Sign)
    (first : UnpackedFloat.shiftToTargetExponent .binary64 m e a = (em₁, e₁))
    (second : UnpackedFloat.shiftToTargetExponent .binary64 em₁.roundedMantissa e₁ .exact =
      (em₂, e₂)) :
    UnpackedFloat.roundWithAccuracy .binary64 s m e a =
      if h : em₂.mantissa = 0 then .zero s
      else .finite s em₂.mantissa e₂ (Nat.pos_of_ne_zero h) := by
  unfold UnpackedFloat.roundWithAccuracy
  rw [first]
  dsimp only
  rw [second]

theorem within_roundWithAccuracy (bits : Nat) {k m : Nat} {e : Int} (s : Sign) (a : Accuracy)
    (wide : 53 ≤ bits) (narrow : m < 2 ^ bits) (bound : e + 2 * bits + 970 ≤ k)
    (least : bits ≤ k + 51) :
    Within k (UnpackedFloat.roundWithAccuracy .binary64 s m e a) := by
  have exponent := shift_exponent m e a
  have mantissa : _ ≤ m := (shift_mantissa m e a).trans_le (Nat.div_le_self _ _)
  cases first : UnpackedFloat.shiftToTargetExponent .binary64 m e a with
  | mk em₁ e₁ =>
    have rounded := roundedMantissa_le em₁
    have exponent₂ := shift_exponent em₁.roundedMantissa e₁ .exact
    cases second : UnpackedFloat.shiftToTargetExponent .binary64 em₁.roundedMantissa e₁ .exact with
    | mk em₂ e₂ =>
      rw [first] at exponent mantissa
      rw [second] at exponent₂
      rw [roundWithAccuracy_of_shifts s first second]
      by_cases zero : em₂.mantissa = 0
      · rw [dif_pos zero]
        trivial
      · rw [dif_neg zero]
        have log : m.log2 < bits := log2_lt_of_lt (by omega) narrow
        have log₂ : em₁.roundedMantissa.log2 < bits + 1 := by
          refine log2_lt_of_lt (by omega) ?_
          rw [Nat.pow_succ]
          dsimp only at mantissa
          omega
        dsimp only at exponent exponent₂
        show e₂ + 1075 ≤ k
        omega

/-- The first 53 bits of a number that has as many. -/
theorem leading_bits {m : Nat} (wide : 2 ^ 52 ≤ m) :
    2 ^ 52 ≤ m / 2 ^ (m.log2 - 52) ∧ m / 2 ^ (m.log2 - 52) < 2 ^ 53 := by
  have ne : m ≠ 0 := by omega
  have log : 52 ≤ m.log2 := (Nat.le_log2 ne).2 wide
  constructor
  · rw [Nat.le_div_iff_mul_le (Nat.two_pow_pos _), ← Nat.pow_add, Nat.add_sub_cancel' log]
    exact Nat.log2_self_le ne
  · rw [Nat.div_lt_iff_lt_mul (Nat.two_pow_pos _), ← Nat.pow_add]
    have bits : 53 + (m.log2 - 52) = m.log2 + 1 := by omega
    rw [bits]
    exact Nat.lt_log2_self

/-- A mantissa of 53 bits or more is rounded to 53 bits. -/
theorem log2_roundWithAccuracy {m : Nat} {e : Int} (s : Sign) (wide : 2 ^ 52 ≤ m)
    (above : -1074 ≤ m.log2 + e - 52) :
    ∃ m' e' pos, UnpackedFloat.roundWithAccuracy .binary64 s m e .exact = .finite s m' e' pos ∧
      m'.log2 = 52 ∧ m.log2 + e - 52 ≤ e' ∧ e' ≤ m.log2 + e - 51 := by
  have log : 52 ≤ m.log2 := (Nat.le_log2 (by omega)).2 wide
  obtain ⟨lower, upper⟩ := leading_bits wide
  have exponent := shift_exponent m e .exact
  have mantissa := shift_mantissa m e .exact
  have shift : (max ((m.log2 : Int) + 1 + e - 53) (-1074) - e).toNat = m.log2 - 52 := by omega
  rw [shift] at mantissa
  rw [← mantissa] at lower upper
  cases first : UnpackedFloat.shiftToTargetExponent .binary64 m e .exact with
  | mk em₁ e₁ =>
    rw [first] at exponent lower upper
    have rounded := roundedMantissa_le em₁
    have rounded' := le_roundedMantissa em₁
    generalize same : em₁.roundedMantissa = r at rounded rounded'
    have exponent₂ := shift_exponent r e₁ .exact
    have mantissa₂ := shift_mantissa r e₁ .exact
    cases second : UnpackedFloat.shiftToTargetExponent .binary64 r e₁ .exact with
    | mk em₂ e₂ =>
      rw [second] at exponent₂ mantissa₂
      dsimp only at exponent exponent₂ mantissa₂ lower upper
      have final : em₂.mantissa.log2 = 52 ∧ e₂ ≤ e₁ + 1 := by
        by_cases fits : r < 2 ^ 53
        · have log_r : r.log2 = 52 := log2_eq (by omega) fits
          have none : (max ((r.log2 : Int) + 1 + e₁ - 53) (-1074) - e₁).toNat = 0 := by omega
          rw [none, Nat.pow_zero, Nat.div_one] at mantissa₂
          exact ⟨mantissa₂ ▸ log_r, by omega⟩
        · have top : r = 2 ^ 53 := by omega
          have log_r : r.log2 = 53 := top ▸ Nat.log2_two_pow
          have one : (max ((r.log2 : Int) + 1 + e₁ - 53) (-1074) - e₁).toNat = 1 := by omega
          rw [one, top] at mantissa₂
          exact ⟨mantissa₂ ▸ Nat.log2_two_pow (n := 52), by omega⟩
      have pos : em₂.mantissa ≠ 0 := by
        intro zero
        rw [zero] at final
        exact absurd final.1 (by decide)
      refine ⟨em₂.mantissa, e₂, Nat.pos_of_ne_zero pos, ?_, final.1, by omega, by omega⟩
      rw [roundWithAccuracy_of_shifts s first (same ▸ second), dif_neg pos]

theorem isFinite_roundWithAccuracy (s : Sign) (m : Nat) (e : Int) (a : Accuracy) :
    (UnpackedFloat.roundWithAccuracy .binary64 s m e a).isFinite = true := by
  cases first : UnpackedFloat.shiftToTargetExponent .binary64 m e a with
  | mk em₁ e₁ =>
    cases second : UnpackedFloat.shiftToTargetExponent .binary64 em₁.roundedMantissa e₁ .exact with
    | mk em₂ e₂ =>
      rw [roundWithAccuracy_of_shifts s first second]
      by_cases zero : em₂.mantissa = 0
      · rw [dif_pos zero]
        rfl
      · rw [dif_neg zero]
        rfl

/-! ### Arithmetic -/

theorem within_mul {k a b : Nat} {x y : UnpackedFloat} (hx : Within a x) (hy : Within b y)
    (nx : Narrow x) (ny : Narrow y) (room : a + b ≤ k + 968) (least : 55 ≤ k) :
    Within k (UnpackedFloat.mul .binary64 x y) := by
  cases x <;> cases y <;> dsimp only [Within, Narrow] at hx hy nx ny <;>
    dsimp only [UnpackedFloat.mul]
  -- Only the product of two magnitudes is left; all others are zero.
  all_goals try trivial
  refine within_roundWithAccuracy 106 _ _ (by omega) ?_ (by push_cast; omega) (by omega)
  calc _ < 2 ^ 53 * 2 ^ 53 := Nat.mul_lt_mul'' nx ny
    _ = 2 ^ 106 := rfl

theorem isFinite_mul {x y : UnpackedFloat} (hx : x.isFinite = true) (hy : y.isFinite = true) :
    (UnpackedFloat.mul .binary64 x y).isFinite = true := by
  cases x <;> cases y <;> cases hx <;> cases hy
  all_goals first | rfl | exact isFinite_roundWithAccuracy _ _ _ _

theorem within_div {x y : UnpackedFloat} (hx : Within 2046 x) (nx : Narrow x)
    (large : Large y = true) : Within 2046 (UnpackedFloat.div .binary64 x y) := by
  cases y with
  | finite s₂ m₂ e₂ pos₂ =>
    cases x with
    | zero s => trivial
    | finite s m e pos =>
      have large : 4 ≤ totalExponent m₂ e₂ := of_decide_eq_true large
      dsimp only [Within, Narrow, totalExponent] at hx nx large
      dsimp only [UnpackedFloat.div, UnpackedFloat.divCore, targetExponent_eq, totalExponent]
      have log : m.log2 < 53 := log2_lt_of_lt (by omega) nx
      -- The shift gives the quotient one bit more than a mantissa has.
      refine within_roundWithAccuracy 54 _ _ (by omega) ?_ (by omega) (by omega)
      refine Nat.div_lt_of_lt_mul ?_
      rw [Nat.shiftLeft_eq]
      generalize shift : (e - e₂ - min (e - e₂) _).toNat = n
      calc m * 2 ^ n < 2 ^ (m.log2 + 1) * 2 ^ n :=
            Nat.mul_lt_mul_of_pos_right Nat.lt_log2_self (Nat.two_pow_pos n)
        _ = 2 ^ (m.log2 + 1 + n) := (Nat.pow_add ..).symm
        _ ≤ 2 ^ (m₂.log2 + 54) := Nat.pow_le_pow_right (by decide) (by omega)
        _ = 2 ^ m₂.log2 * 2 ^ 54 := Nat.pow_add ..
        _ ≤ m₂ * 2 ^ 54 := Nat.mul_le_mul_right _ (Nat.log2_self_le (by omega))
    | infinity s => cases hx
    | notANumber => cases hx
  | zero s => cases large
  | infinity s => cases large
  | notANumber => cases large

theorem isFinite_neg {x : Float} (h : x.isFinite = true) : (-x).isFinite = true := by
  have bound := within_of_isFinite h
  refine isFinite_of_within ?_
  cases unpacked : x.toModel.unpack <;> rw [unpacked] at bound <;> exact bound

/-! ### Whole numbers of 64 bits -/

theorem within_round {n : Nat} (small : n < 2 ^ 64) (s : Sign) :
    Within 1100 (UnpackedFloat.round .binary64 s n 0) := by
  unfold UnpackedFloat.round UnpackedFloat.decreaseExponent totalExponent
  dsimp only
  rw [targetExponent_eq]
  generalize shift : (0 - max ((n.log2 : Int) + 1 + 0 - 53) (-1074)).toNat = k
  refine within_roundWithAccuracy 64 _ _ (by omega) ?_ (by omega) (by omega)
  rw [Nat.shiftLeft_eq]
  by_cases wide : 52 ≤ n.log2
  · have still : k = 0 := by omega
    simpa [still] using small
  · calc n * 2 ^ k < 2 ^ (n.log2 + 1) * 2 ^ k :=
          Nat.mul_lt_mul_of_pos_right Nat.lt_log2_self (Nat.two_pow_pos k)
      _ = 2 ^ (n.log2 + 1 + k) := (Nat.pow_add ..).symm
      _ ≤ 2 ^ 64 := Nat.pow_le_pow_right (by decide) (by omega)

theorem within_toFloat (n : UInt64) : Within 1100 n.toFloat.toModel.unpack := by
  refine (unpacks _).within (by decide) (by decide) (exponentField_pack (by decide) ?_)
  unfold UnpackedFloat.ofUInt64 UnpackedFloat.ofNat UnpackedFloat.ofInt UnpackedFloat.normalize
  split
  · next negative =>
    rw [Int.compare_eq_lt] at negative
    omega
  · trivial
  · exact within_round (UInt64.toNat_lt n) _

theorem ofScientific_eq {m n : Nat} (pos : m ≠ 0) (small : n ≤ 308) :
    UnpackedFloat.ofScientific .binary64 m n =
      UnpackedFloat.roundWithAccuracy .binary64 .positive (m <<< 53 * 10 ^ n) (-53) .exact := by
  have bits : (2 ^ Format.exponentBits .binary64 : Int) = 2048 := rfl
  unfold UnpackedFloat.ofScientific
  rw [bits, dif_neg pos, if_neg (by omega), if_neg (by omega), if_pos (Int.natCast_nonneg n)]
  rfl

theorem within_ofScientific {n : Nat} (small : n < 2 ^ 64) :
    Within 2046 (UnpackedFloat.ofScientific .binary64 n 0) := by
  by_cases zero : n = 0
  · subst zero
    trivial
  · have narrow : n <<< 53 * 10 ^ 0 < 2 ^ 117 := by
      rw [Nat.pow_zero, Nat.mul_one, Nat.shiftLeft_eq]
      omega
    have rounded := ofScientific_eq zero (Nat.zero_le 308)
    -- With the numbers in sight, elaboration would carry the rounding out.
    generalize n <<< 53 * 10 ^ 0 = m at narrow rounded
    generalize low : (-53 : Int) = e at rounded
    exact rounded ▸ within_roundWithAccuracy 117 _ _ (by decide) narrow (by omega) (by decide)

theorem isFinite_ofNat {n : Nat} (small : n < 2 ^ 64) : (Float.ofNat n).isFinite = true := by
  show (Float.ofScientific n false 0).isFinite = true
  unfold Float.ofScientific
  split
  · have one : Within 1023 (Float.ofBits 0x3FF0000000000000).toModel.unpack :=
      (unpacks _).within (by decide) (by decide) (by decide)
    exact isFinite_of_within (within_mul (within_toFloat _) one (unpacks _).narrow
      (unpacks _).narrow (by omega) (by omega))
  · exact isFinite_of_within (within_ofScientific small)

theorem isFinite_ofInt {n : Int} (small : n.natAbs < 2 ^ 64) :
    (Float.ofInt n).isFinite = true := by
  cases n with
  | ofNat n => exact isFinite_ofNat small
  | negSucc n => exact isFinite_neg (isFinite_ofNat small)

/-! ### Literals -/

theorem power_eq {n : Nat} (lower : 22 < n) (upper : n ≤ 308) :
    power n = .ofModel (.pack (UnpackedFloat.roundWithAccuracy .binary64 .positive
      (1 <<< 53 * 10 ^ n) (-53) .exact)) := by
  rw [← ofScientific_eq (by decide) upper]
  show Float.ofScientific 1 false n = _
  unfold Float.ofScientific
  rw [dif_neg (by omega)]
  rfl

theorem exponentField_power_of_table : ∀ n < 23, n ≠ 0 →
    1026 ≤ exponentField (power n) ∧ exponentField (power n) < 2047 := by
  decide +kernel

theorem exponentField_power_308 :
    1026 ≤ exponentField (power 308) ∧ exponentField (power 308) < 2047 := by
  decide +kernel

theorem exponentField_power {n : Nat} (pos : n ≠ 0) (le : n ≤ 308) :
    1026 ≤ exponentField (power n) ∧ exponentField (power n) < 2047 := by
  by_cases table : n < 23
  · exact exponentField_power_of_table n table pos
  by_cases top : n = 308
  · exact top ▸ exponentField_power_308
  have lower : 2 ^ 57 ≤ 1 <<< 53 * 10 ^ n :=
    calc 2 ^ 57 ≤ 1 <<< 53 * 10 ^ 23 := by decide
      _ ≤ 1 <<< 53 * 10 ^ n := Nat.mul_le_mul_left _ (Nat.pow_le_pow_right (by decide) (by omega))
  have upper : 1 <<< 53 * 10 ^ n < 2 ^ 1073 :=
    calc 1 <<< 53 * 10 ^ n ≤ 1 <<< 53 * 10 ^ 307 :=
          Nat.mul_le_mul_left _ (Nat.pow_le_pow_right (by decide) (by omega))
      _ < 2 ^ 1073 := by decide +kernel
  rw [power_eq (by omega) le]
  generalize 1 <<< 53 * 10 ^ n = m at lower upper ⊢
  have log : 57 ≤ m.log2 := (Nat.le_log2 (by omega)).2 lower
  have log' : m.log2 < 1073 := log2_lt_of_lt (by decide) upper
  obtain ⟨m', e', pos, rounded, log₂, least, most⟩ :=
    log2_roundWithAccuracy (m := m) (e := -53) .positive (by omega) (by omega)
  rw [rounded]
  have field := exponentField_normal .positive e' pos log₂ (by omega) (by omega)
  omega

theorem isFinite_power {n : Nat} (le : n ≤ 308) : (power n).isFinite = true := by
  by_cases zero : n = 0
  · subst zero
    decide +kernel
  · exact (isFinite_iff _).2 (exponentField_power zero le).2

theorem isFinite_divideByPower {x : Float} (h : x.isFinite = true) {n : Nat} (pos : n ≠ 0) :
    (divideByPower x n).isFinite = true := by
  have div {x : Float} (h : x.isFinite = true) {n : Nat} (pos : n ≠ 0) (le : n ≤ 308) :
      (x / power n).isFinite = true :=
    have field := exponentField_power pos le
    isFinite_of_within (within_div (within_of_isFinite h) (unpacks _).narrow
      ((unpacks _).large field.1 field.2))
  fun_induction divideByPower x n with
  | case1 x n le => exact div h pos le
  | case2 x n gt zero => exact h
  | case3 x n gt ne ih => exact ih (div h (by decide) (le_refl _)) (by omega)

/-- The value of a literal whose digits fit in 64 bits is a finite number. -/
theorem isFinite_value? {digits : Nat} (small : digits < 2 ^ 64) {e : Int} {x : Float}
    (h : value? digits e = some x) : x.isFinite = true := by
  unfold value? at h
  dsimp only at h
  split at h
  · cases h
    exact isFinite_divideByPower (isFinite_ofNat small) (by omega)
  · split at h
    · split at h
      · cases h
      · next inf =>
        cases h
        exact isFinite_of_not_isInf
          (isFinite_mul (isFinite_ofNat small) (isFinite_power (by omega)))
          (Bool.not_eq_true _ ▸ inf)
    · split at h
      · cases h
        exact isFinite_ofNat small
      · cases h

/-! ### Significands -/

namespace Significand

theorem lt_of_fits {s : Significand} {c : Char} (h : s.fits c = true) :
    s.digits * 10 + digit c < 2 ^ 64 := by
  simp only [fits, Bool.and_eq_true, decide_eq_true_eq] at h
  exact h.2

theorem digits_pushWhole {s : Significand} (h : s.digits < 2 ^ 64) (c : Char) :
    (s.pushWhole c).digits < 2 ^ 64 := by
  unfold pushWhole
  split
  · next room => exact lt_of_fits room
  · exact h

theorem digits_pushFraction {s : Significand} (h : s.digits < 2 ^ 64) (c : Char) :
    (s.pushFraction c).digits < 2 ^ 64 := by
  unfold pushFraction
  split
  · next room => exact lt_of_fits room
  · exact h

theorem digits_ofWhole (cs : List Char) : (ofWhole cs).digits < 2 ^ 64 :=
  List.foldlRecOn (motive := fun s => s.digits < 2 ^ 64) cs pushWhole (by decide)
    fun _ h c _ => digits_pushWhole h c

theorem digits_addFraction {s : Significand} (h : s.digits < 2 ^ 64) (cs : List Char) :
    (s.addFraction cs).digits < 2 ^ 64 := by
  have start : ({ s with full := false } : Significand).digits < 2 ^ 64 := h
  exact List.foldlRecOn (motive := fun s => s.digits < 2 ^ 64) cs pushFraction start
    fun _ h c _ => digits_pushFraction h c

end Significand

end Dataflow.Decimal
