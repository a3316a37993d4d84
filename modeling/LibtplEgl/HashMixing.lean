import LibtplEgl.BitMixing
import LibtplEgl.MapRefinement
import LibtplEgl.ObjectUserData

namespace LibtplEgl.HashMixing

open LibtplEgl.BitMixing
open LibtplEgl.MapRefinement (int32Config int32Hash key32)
open LibtplEgl.ObjectUserData (Key64 int64Config int64Hash mix64 pointerHash)
open LibtplEgl.UtilMap

/-- The mixing of `__int32_hash`. -/
def mix32 (key : BitVec 32) : BitVec 32 :=
  let key := ~~~key + (key <<< 15)
  let key := key ^^^ (key >>> 12)
  let key := key + (key <<< 2)
  let key := key ^^^ (key >>> 4)
  let key := key * 2057#32
  key ^^^ (key >>> 16)

/-- `__pointer_hash` where pointers have 32 bits. -/
def pointerHash32 (key : Key64) (_keyLength : Int) : CInt := mix32 (key32 key)

theorem mix32_injective : Function.Injective mix32 := by
  have hfirst : Function.Injective fun x : BitVec 32 => ~~~x + (x <<< 15) :=
    notAddShift_injective (by decide) (by decide)
  have hfactor : Function.Injective fun x : BitVec 32 => x * 2057#32 :=
    mul_injective (by decide)
  have hshift : Function.Injective fun x : BitVec 32 => x + (x <<< 2) :=
    addShift_injective (by decide) (by decide)
  have hxor : ∀ {k : Nat}, 0 < k → Function.Injective fun x : BitVec 32 => x ^^^ (x >>> k) :=
    xorShift_injective
  exact (hxor (k := 16) (by decide)).comp <| hfactor.comp <| (hxor (k := 4) (by decide)).comp <|
    hshift.comp <| (hxor (k := 12) (by decide)).comp hfirst

theorem mix64_injective : Function.Injective mix64 := by
  have hfirst : Function.Injective fun x : BitVec 64 => ~~~x + (x <<< 18) :=
    notAddShift_injective (by decide) (by decide)
  have hfactor : Function.Injective fun x : BitVec 64 => x * 21#64 :=
    mul_injective (by decide)
  have hshift : Function.Injective fun x : BitVec 64 => x + (x <<< 6) :=
    addShift_injective (by decide) (by decide)
  have hxor : ∀ {k : Nat}, 0 < k → Function.Injective fun x : BitVec 64 => x ^^^ (x >>> k) :=
    xorShift_injective
  exact (hxor (k := 22) (by decide)).comp <| hshift.comp <| (hxor (k := 11) (by decide)).comp <|
    hfactor.comp <| (hxor (k := 31) (by decide)).comp hfirst

theorem getBucketIndex_eq (cfg : MapConfig Key64) (key : Key64) :
    cfg.getBucketIndex key =
      (cfg.hashFunc key (cfg.keyLength key)).toNat % 2 ^ cfg.bucketBits := by
  rw [MapConfig.getBucketIndex, BitVec.toNat_and, MapConfig.bucketMask_eq,
    Nat.and_two_pow_sub_one_eq_mod]

theorem key32_append (upper low : BitVec 32) : key32 (upper ++ low) = low := by
  ext i hi
  rw [key32, BitVec.getElem_setWidth]
  show (upper ++ low : BitVec (32 + 32)).getLsbD i = low[i]
  rw [BitVec.getLsbD_append, if_pos hi, BitVec.getLsbD_eq_getElem hi]

theorem setWidth_mod {bits : Nat} (h : bits ≤ 30) (word : BitVec 64) :
    (word.setWidth 32).toNat % 2 ^ bits = word.toNat % 2 ^ bits := by
  rw [BitVec.toNat_setWidth]
  exact Nat.mod_mod_of_dvd _ (Nat.pow_dvd_pow 2 (by omega))

/-- The mixings lose no key, and every bucket index is that of as many keys as
every other one. -/
theorem mixing_balanced :
    Function.Injective mix32 ∧ Function.Injective mix64 ∧
      (∀ (key : Key64) (keyLength : Int), int32Hash key keyLength = mix32 (key32 key)) ∧
      (∀ (key : Key64) (keyLength : Int), int64Hash key keyLength = (mix64 key).setWidth 32) ∧
      (∀ (key : Key64) (keyLength : Int), pointerHash key keyLength = (mix64 key).setWidth 32) ∧
      ∀ (cfg : MapConfig Key64) (index : Nat), index < 2 ^ cfg.bucketBits →
        (cfg.hashFunc = int32Hash ∨ cfg.hashFunc = pointerHash32 → ∀ upper : BitVec 32,
          Nat.card { low : BitVec 32 // cfg.getBucketIndex (upper ++ low) = index } =
            2 ^ (32 - cfg.bucketBits)) ∧
        (cfg.hashFunc = int64Hash ∨ cfg.hashFunc = pointerHash →
          Nat.card { key : Key64 // cfg.getBucketIndex key = index } =
            2 ^ (64 - cfg.bucketBits)) := by
  refine ⟨mix32_injective, mix64_injective, fun _ _ => rfl, fun _ _ => rfl, fun _ _ => rfl, ?_⟩
  intro cfg index hindex
  have hbits := cfg.bucketBits_le
  refine ⟨fun hhash upper => ?_, fun hhash => ?_⟩
  · have hlow : ∀ low : BitVec 32, cfg.getBucketIndex (upper ++ low) =
        (mix32 low).toNat % 2 ^ cfg.bucketBits := by
      intro low
      rw [getBucketIndex_eq]
      rcases hhash with hhash | hhash
      · rw [hhash]
        show (mix32 (key32 (upper ++ low))).toNat % _ = _
        rw [key32_append]
      · rw [hhash, pointerHash32, key32_append]
    simp only [hlow]
    exact card_mixed mix32_injective (by omega) hindex
  · have hkey : ∀ key : Key64, cfg.getBucketIndex key =
        (mix64 key).toNat % 2 ^ cfg.bucketBits := by
      intro key
      rw [getBucketIndex_eq, ← setWidth_mod hbits]
      rcases hhash with hhash | hhash
      · rw [hhash, int64Hash]
      · rw [hhash, pointerHash]
    simp only [hkey]
    exact card_mixed mix64_injective (by omega) hindex

/-- The last bucket of maps of 2^5 buckets. -/
theorem mixing_balanced_last :
    (∀ upper : BitVec 32, Nat.card { low : BitVec 32 //
        (int32Config 5 (by decide)).getBucketIndex (upper ++ low) = 31 } = 2 ^ 27) ∧
      Nat.card { key : Key64 // (int64Config 5 (by decide)).getBucketIndex key = 31 } = 2 ^ 59 :=
  ⟨(mixing_balanced.2.2.2.2.2 (int32Config 5 (by decide)) 31 (by decide)).1 (.inl rfl),
    (mixing_balanced.2.2.2.2.2 (int64Config 5 (by decide)) 31 (by decide)).2 (.inl rfl)⟩

end LibtplEgl.HashMixing
