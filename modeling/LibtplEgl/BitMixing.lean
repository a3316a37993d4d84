import Mathlib.Data.BitVec
import Mathlib.Data.Nat.ModEq
import Mathlib.Data.Nat.Prime.Basic
import Mathlib.SetTheory.Cardinal.Finite
import Mathlib.Tactic.Ring

/-!
Mixing steps on words of `w` bits that lose no word, and how evenly the low
bits of a word that is mixed by such steps are spread.
-/

namespace LibtplEgl.BitMixing

variable {w : Nat}

/-- The bits of a word that is xored with its own upper part come back one after
the other, the highest first. -/
theorem xorShift_injective {k : Nat} (hk : 0 < k) :
    Function.Injective fun x : BitVec w => x ^^^ (x >>> k) := by
  intro x y hxy
  have hbit : ∀ i, (x.getLsbD i ^^ x.getLsbD (k + i)) = (y.getLsbD i ^^ y.getLsbD (k + i)) := by
    intro i
    have h := congrArg (fun z : BitVec w => z.getLsbD i) hxy
    simpa only [BitVec.getLsbD_xor, BitVec.getLsbD_ushiftRight] using h
  have hfrom : ∀ n i, w ≤ i + n → x.getLsbD i = y.getLsbD i := by
    intro n
    induction n with
    | zero =>
        intro i hi
        rw [BitVec.getLsbD_of_ge x i hi, BitVec.getLsbD_of_ge y i hi]
    | succ n ih =>
        intro i hi
        have hupper : x.getLsbD (k + i) = y.getLsbD (k + i) := ih (k + i) (by omega)
        have h := hbit i
        rw [hupper] at h
        exact Bool.xor_left_inj.mp h
  exact BitVec.eq_of_getLsbD_eq fun i _ => hfrom w i (Nat.le_add_left w i)

theorem mul_injective {c : BitVec w} (hodd : Odd c.toNat) :
    Function.Injective fun x : BitVec w => x * c := by
  intro x y hxy
  have hcoprime : Nat.gcd (2 ^ w) c.toNat = 1 :=
    Nat.Coprime.pow_left w (Nat.coprime_two_left.mpr hodd)
  have hmod : x.toNat * c.toNat % 2 ^ w = y.toNat * c.toNat % 2 ^ w := by
    have h := congrArg BitVec.toNat hxy
    simpa only [BitVec.toNat_mul] using h
  have hcancel : x.toNat % 2 ^ w = y.toNat % 2 ^ w :=
    Nat.ModEq.cancel_right_of_coprime hcoprime hmod
  rw [Nat.mod_eq_of_lt x.isLt, Nat.mod_eq_of_lt y.isLt] at hcancel
  exact BitVec.eq_of_toNat_eq hcancel

section

variable {k : Nat}

theorem odd_twoPow_add_one (hk : 0 < k) (hkw : k < w) :
    Odd (BitVec.twoPow w k + 1#w).toNat := by
  have heven : Even (2 ^ k) := Nat.even_pow.mpr ⟨even_two, hk.ne'⟩
  have hlt : 2 ^ k + 1 < 2 ^ w := by
    have hdouble : 2 ^ (k + 1) ≤ 2 ^ w := Nat.pow_le_pow_right (by decide) hkw
    have hone : 2 ^ 1 ≤ 2 ^ k := Nat.pow_le_pow_right (by decide) hk
    rw [Nat.pow_succ] at hdouble
    omega
  rw [BitVec.toNat_add, BitVec.toNat_twoPow_of_lt hkw, BitVec.toNat_one (by omega),
    Nat.mod_eq_of_lt hlt]
  exact heven.add_one

theorem odd_twoPow_sub_one (hk : 0 < k) (hkw : k < w) :
    Odd (BitVec.twoPow w k - 1#w).toNat := by
  have heven : Even (2 ^ k) := Nat.even_pow.mpr ⟨even_two, hk.ne'⟩
  have hpos : 1 ≤ 2 ^ k := Nat.one_le_two_pow
  have hle : 1#w ≤ BitVec.twoPow w k := by
    rw [BitVec.le_def, BitVec.toNat_twoPow_of_lt hkw, BitVec.toNat_one (by omega)]
    exact hpos
  rw [BitVec.toNat_sub_of_le hle, BitVec.toNat_twoPow_of_lt hkw, BitVec.toNat_one (by omega)]
  exact Nat.Even.sub_odd hpos heven odd_one

theorem addShift_injective (hk : 0 < k) (hkw : k < w) :
    Function.Injective fun x : BitVec w => x + (x <<< k) := by
  have hmul : (fun x : BitVec w => x + (x <<< k)) =
      fun x => x * (BitVec.twoPow w k + 1#w) := by
    funext x
    rw [BitVec.shiftLeft_eq_mul_twoPow]
    show x + x * BitVec.twoPow w k = x * (BitVec.twoPow w k + 1)
    ring
  rw [hmul]
  exact mul_injective (odd_twoPow_add_one hk hkw)

theorem notAddShift_injective (hk : 0 < k) (hkw : k < w) :
    Function.Injective fun x : BitVec w => ~~~x + (x <<< k) := by
  have hmul : ∀ x : BitVec w, ~~~x + (x <<< k) = x * (BitVec.twoPow w k - 1#w) - 1#w := by
    intro x
    rw [BitVec.shiftLeft_eq_mul_twoPow, BitVec.not_eq_neg_add]
    show -x - 1 + x * BitVec.twoPow w k = x * (BitVec.twoPow w k - 1) - 1
    ring
  intro x y hxy
  dsimp only at hxy
  rw [hmul, hmul] at hxy
  exact mul_injective (odd_twoPow_sub_one hk hkw) (sub_left_injective hxy)

end

section

variable {b i : Nat}

theorem upper_lt (hb : b ≤ w) (x : BitVec w) : x.toNat / 2 ^ b < 2 ^ (w - b) := by
  have hlt := x.isLt
  rw [← pow_mul_pow_sub 2 hb] at hlt
  exact Nat.div_lt_of_lt_mul hlt

theorem joined_lt (hb : b ≤ w) (hi : i < 2 ^ b) (j : Fin (2 ^ (w - b))) :
    2 ^ b * j.val + i < 2 ^ w := by
  calc
    2 ^ b * j.val + i < 2 ^ b * (j.val + 1) := by
      rw [Nat.mul_succ]
      omega
    _ ≤ 2 ^ b * 2 ^ (w - b) := Nat.mul_le_mul_left _ j.isLt
    _ = 2 ^ w := pow_mul_pow_sub 2 hb

/-- A word whose low bits are given is told by its upper part. -/
def lowEquiv (hb : b ≤ w) (hi : i < 2 ^ b) :
    { x : BitVec w // x.toNat % 2 ^ b = i } ≃ Fin (2 ^ (w - b)) where
  toFun x := ⟨x.val.toNat / 2 ^ b, upper_lt hb x.val⟩
  invFun j := ⟨BitVec.ofNatLT (2 ^ b * j.val + i) (joined_lt hb hi j), by
    rw [BitVec.toNat_ofNatLT, Nat.mul_add_mod, Nat.mod_eq_of_lt hi]⟩
  left_inv x := by
    refine Subtype.ext (BitVec.eq_of_toNat_eq ?_)
    have hsplit := Nat.div_add_mod x.val.toNat (2 ^ b)
    rw [x.property] at hsplit
    exact hsplit
  right_inv j := by
    refine Fin.ext ?_
    show (2 ^ b * j.val + i) / 2 ^ b = j.val
    rw [Nat.mul_add_div (Nat.two_pow_pos b), Nat.div_eq_of_lt hi, Nat.add_zero]

/-- A mixing that loses no word gives each value of the low bits equally often. -/
theorem card_mixed {mix : BitVec w → BitVec w} (hmix : Function.Injective mix) (hb : b ≤ w)
    (hi : i < 2 ^ b) :
    Nat.card { x : BitVec w // (mix x).toNat % 2 ^ b = i } = 2 ^ (w - b) := by
  have hbijective : Function.Bijective mix :=
    have : Finite (BitVec w) := Finite.of_equiv _ BitVec.equivFin.symm.toEquiv
    Finite.injective_iff_bijective.mp hmix
  have hmixed : { x : BitVec w // (mix x).toNat % 2 ^ b = i } ≃
      { x : BitVec w // x.toNat % 2 ^ b = i } :=
    (Equiv.ofBijective mix hbijective).subtypeEquiv fun _ => Iff.rfl
  rw [Nat.card_congr (hmixed.trans (lowEquiv hb hi)), Nat.card_fin]

end

end LibtplEgl.BitMixing
