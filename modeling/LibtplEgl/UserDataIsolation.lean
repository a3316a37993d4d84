import LibtplEgl.ObjectUserData
import Mathlib.Data.Set.Insert

namespace LibtplEgl.UserDataIsolation

open LibtplEgl.KeyedStore
open LibtplEgl.UtilMap
open LibtplEgl.ObjectUserData

universe u v

/-- No two keys of the set share both their low 32 bits and their bucket. -/
def NoAlias (cfg : MapConfig Key64) (keys : Set Key64) : Prop :=
  ∀ k₁ ∈ keys, ∀ k₂ ∈ keys, k₁.toNat % 2 ^ 32 = k₂.toNat % 2 ^ 32 →
    cfg.getBucketIndex k₁ = cfg.getBucketIndex k₂ → k₁ = k₂

section

variable {Data : Type u} {FreeFunc : Type v} [Inhabited Data] {Store : Type (max u v)}

/-- A store that refines a map of 64-bit keys, compared by low words, isolates
exactly the sets of keys without aliases. -/
theorem isolated_iff_noAlias {cfg : MapConfig Key64}
    (hmatch : ∀ a b, cfg.KeyMatches a b ↔ a.toNat % 2 ^ 32 = b.toNat % 2 ^ 32)
    {start : Store} {write : Store → Write Key64 Data (Option FreeFunc) → Store}
    {read : Store → Key64 → Option Data} (h : Realizes cfg.SameSlot start write read)
    (keys : Set Key64) : Isolated start write read keys ↔ NoAlias cfg keys := by
  have hrefl : ∀ k, cfg.SameSlot k k := fun k => ⟨rfl, (hmatch k k).mpr rfl⟩
  rw [h.isolated_iff hrefl]
  constructor
  · intro hkeys k₁ hk₁ k₂ hk₂ hlow hbucket
    exact hkeys k₁ hk₁ k₂ hk₂ ⟨hbucket, (hmatch k₁ k₂).mpr hlow⟩
  · rintro hkeys k₁ hk₁ k₂ hk₂ ⟨hbucket, hslot⟩
    exact hkeys k₁ hk₁ k₂ hk₂ ((hmatch k₁ k₂).mp hslot) hbucket

end

/-- Isolation on every map of 64-bit or pointer keys and on every object. -/
def UserDataIsolated (Data : Type u) (FreeFunc : Type v) (keys : Set Key64) : Prop :=
  (∀ bits h, Isolated (tplUtilMapInit (int64Config bits h) : TplUtilMap Key64 Data FreeFunc)
    mapWrite tplUtilMapGet keys) ∧
  (∀ bits h, Isolated (tplUtilMapInit (pointerConfig bits h) : TplUtilMap Key64 Data FreeFunc)
    mapWrite tplUtilMapGet keys) ∧
  Isolated (objectInit : TplObject Data FreeFunc) objectWrite tplObjectGetUserData keys

/-- User data is isolated on a set of keys exactly when the set has no aliases
in the map that holds them. -/
theorem userData_isolated_iff {Data : Type u} {FreeFunc : Type v} [Inhabited Data]
    (bits : Nat) (h : bits ≤ 30) (keys : Set Key64) :
    (Isolated (tplUtilMapInit (int64Config bits h) : TplUtilMap Key64 Data FreeFunc)
      mapWrite tplUtilMapGet keys ↔ NoAlias (int64Config bits h) keys) ∧
    (Isolated (tplUtilMapInit (pointerConfig bits h) : TplUtilMap Key64 Data FreeFunc)
      mapWrite tplUtilMapGet keys ↔ NoAlias (pointerConfig bits h) keys) ∧
    (Isolated (objectInit : TplObject Data FreeFunc) objectWrite tplObjectGetUserData keys ↔
      NoAlias (pointerConfig tplObjectBucketBits (by decide)) keys) := by
  refine ⟨?_, ?_, ?_⟩
  · exact isolated_iff_noAlias (int64Config_keyMatches_iff h)
      (tplUtilMap_realizes (int64Config_equivalence h)) keys
  · exact isolated_iff_noAlias (pointerConfig_keyMatches_iff h)
      (tplUtilMap_realizes (pointerConfig_equivalence h)) keys
  · exact isolated_iff_noAlias (pointerConfig_keyMatches_iff (by decide))
      tplObject_realizes keys

theorem userData_isolated_nearby_keys :
    Isolated (tplUtilMapInit (int64Config 5 (by decide)) : TplUtilMap Key64 Nat Unit)
      mapWrite tplUtilMapGet {0x7f0000001000#64, 0x7f0000001008#64} := by
  refine (userData_isolated_iff 5 (by decide) _).1.mpr ?_
  intro k₁ hk₁ k₂ hk₂ hlow _
  rcases hk₁ with rfl | rfl <;> rcases hk₂ with rfl | rfl
  · rfl
  · exact absurd hlow (by decide)
  · exact absurd hlow (by decide)
  · rfl

/-- The keys `0x7f0000001000` and `0x7f0900001000` are 36 GiB apart, fall in
bucket 10 of an object's map and compare as equal. -/
theorem userData_not_isolated : ¬ UserDataIsolated Nat Unit Set.univ := by
  rintro ⟨-, -, hobject⟩
  have hkeep := (hobject [] (by simp) 0x7f0900001000#64 trivial).2
    ⟨0x7f0000001000#64, some 1, none⟩ trivial (by decide)
  revert hkeep
  decide

end LibtplEgl.UserDataIsolation
