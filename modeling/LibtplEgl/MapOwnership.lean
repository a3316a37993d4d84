import LibtplEgl.UtilMap
import Mathlib.Data.List.Basic
import Mathlib.Data.List.Count

namespace LibtplEgl.MapOwnership

open LibtplEgl.UtilMap

universe u v w

theorem flatMap_update_perm {α : Type u} {indices : List Nat} (hnodup : indices.Nodup) {i : Nat}
    (hi : i ∈ indices) (chains : Nat → List α) (chain : List α) :
    (indices.flatMap (Function.update chains i chain) ++ chains i).Perm
      (chain ++ indices.flatMap chains) := by
  induction indices with
  | nil => cases hi
  | cons j indices ih =>
      obtain ⟨hj, hrest⟩ := List.nodup_cons.mp hnodup
      rw [List.flatMap_cons, List.flatMap_cons]
      rcases List.mem_cons.mp hi with rfl | hmem
      · have hsame : indices.flatMap (Function.update chains i chain) = indices.flatMap chains := by
          refine List.flatMap_congr fun k hk => ?_
          have hne : k ≠ i := fun h => hj (h ▸ hk)
          rw [Function.update_of_ne hne]
        rw [hsame, Function.update_self, List.append_assoc]
        exact List.perm_append_comm.append_left chain
      · have hne : j ≠ i := fun h => hj (h ▸ hmem)
        rw [Function.update_of_ne hne, List.append_assoc]
        exact ((ih hrest hmem).append_left _).trans (List.perm_append_comm_assoc _ _ _)

variable {Key : Type u} {Data : Type v} {FreeFunc : Type w}

/-- `tpl_util_map_clear`, which `tpl_util_map_fini` is: the emptied map and the free
calls that it made. -/
def tplUtilMapClear (m : TplUtilMap Key Data FreeFunc) :
    TplUtilMap Key Data FreeFunc × List (FreeFunc × Data) :=
  ({ m with buckets := fun i => if i < m.bucketSize.toNat then [] else m.buckets i },
    (List.range m.bucketSize.toNat).flatMap fun i => (m.buckets i).flatMap freeData)

def entries (m : TplUtilMap Key Data FreeFunc) : List (MapEntry Key Data FreeFunc) :=
  (List.range m.bucketSize.toNat).flatMap m.buckets

/-- The free calls that the map still owes. -/
def owed (m : TplUtilMap Key Data FreeFunc) : List (FreeFunc × Data) :=
  (entries m).flatMap freeData

/-- The free call that is owed for a datum that has a free function. -/
def freePair (data : Option Data) (freeFunc : Option FreeFunc) : List (FreeFunc × Data) :=
  match data, freeFunc with
  | some data, some freeFunc => [(freeFunc, data)]
  | some _, none | none, _ => []

/-- A set stores its datum: it finds an entry, or gets the memory for a new one. -/
def Stores (m : TplUtilMap Key Data FreeFunc) (key : Key) (alloc : Bool) : Prop :=
  alloc = true ∨ ∃ e ∈ m.buckets (m.getBucketIndex key), m.KeyMatches e.key key

instance (m : TplUtilMap Key Data FreeFunc) (key : Key) (alloc : Bool) :
    Decidable (Stores m key alloc) :=
  inferInstanceAs (Decidable (_ ∨ ∃ e ∈ m.buckets (m.getBucketIndex key), _))

theorem freePair_none (freeFunc : Option FreeFunc) :
    freePair (none : Option Data) freeFunc = [] := by
  cases freeFunc with
  | none | some _ => rfl

theorem freeData_eq (entry : MapEntry Key Data FreeFunc) :
    freeData entry = freePair (some entry.data) entry.freeFunc := by
  unfold freeData
  cases entry.freeFunc with
  | none | some _ => rfl

theorem clear_freed (m : TplUtilMap Key Data FreeFunc) : (tplUtilMapClear m).2 = owed m := by
  unfold tplUtilMapClear owed entries
  rw [List.flatMap_assoc]

theorem bucketSize_eq (cfg : MapConfig Key) : cfg.bucketSize.toNat = 2 ^ cfg.bucketBits := by
  have hlt : 2 ^ cfg.bucketBits < 2 ^ 32 :=
    Nat.pow_lt_pow_right (by decide) (by have := cfg.bucketBits_le; omega)
  rw [MapConfig.bucketSize, BitVec.toNat_shiftLeft, Nat.shiftLeft_eq, BitVec.toNat_ofNat,
    Nat.mod_eq_of_lt (by decide : 1 < 2 ^ 32), Nat.one_mul, Nat.mod_eq_of_lt hlt]

theorem getBucketIndex_mem (cfg : MapConfig Key) (key : Key) :
    cfg.getBucketIndex key ∈ List.range cfg.bucketSize.toNat := by
  rw [List.mem_range, bucketSize_eq]
  exact cfg.getBucketIndex_lt key

theorem entries_clear (m : TplUtilMap Key Data FreeFunc) : entries (tplUtilMapClear m).1 = [] := by
  unfold entries tplUtilMapClear
  rw [List.flatMap_eq_nil_iff]
  intro i hi
  exact if_pos (List.mem_range.mp hi)

theorem mapSetLoop_perm {cfg : MapConfig Key} {key : Key} {data : Option Data}
    {freeFunc : Option FreeFunc} {chain chain' : List (MapEntry Key Data FreeFunc)}
    {freed : List (FreeFunc × Data)}
    (h : mapSetLoop cfg key data freeFunc chain = some (chain', freed)) :
    (chain'.flatMap freeData ++ freed).Perm
      (freePair data freeFunc ++ chain.flatMap freeData) := by
  induction chain generalizing chain' freed with
  | nil => cases h
  | cons curr next ih =>
      simp only [mapSetLoop] at h
      split at h
      · cases data with
        | some data =>
            cases h
            rw [List.flatMap_cons, List.flatMap_cons, freeData_eq, List.append_assoc]
            exact List.perm_append_comm.append_left _
        | none =>
            cases h
            rw [freePair_none, List.flatMap_cons]
            exact List.perm_append_comm
      · obtain ⟨⟨rest, freed'⟩, hrest, hcons⟩ := Option.map_eq_some_iff.mp h
        cases hcons
        rw [List.flatMap_cons, List.flatMap_cons, List.append_assoc]
        exact ((ih hrest).append_left _).trans (List.perm_append_comm_assoc _ _ _)

theorem mapSetLoop_eq_none_iff {cfg : MapConfig Key} {key : Key} {data : Option Data}
    {freeFunc : Option FreeFunc} {chain : List (MapEntry Key Data FreeFunc)} :
    mapSetLoop cfg key data freeFunc chain = none ↔ ∀ e ∈ chain, ¬ cfg.KeyMatches e.key key := by
  constructor
  · exact mapSetLoop_eq_none
  · intro h
    induction chain with
    | nil => rfl
    | cons curr next ih =>
        have hcurr : ¬ cfg.KeyMatches curr.key key := h curr List.mem_cons_self
        have hnext := ih fun e he => h e (List.mem_cons_of_mem _ he)
        simp only [mapSetLoop, if_neg hcurr, hnext, Option.map_none]

theorem mapSetLoop_found {cfg : MapConfig Key} {key : Key} {front : List (MapEntry Key Data FreeFunc)}
    {e : MapEntry Key Data FreeFunc} (hfront : ∀ e ∈ front, ¬ cfg.KeyMatches e.key key)
    (hmatch : cfg.KeyMatches e.key key) (back : List (MapEntry Key Data FreeFunc))
    (data : Option Data) (freeFunc : Option FreeFunc) :
    mapSetLoop cfg key data freeFunc (front ++ e :: back) =
      some (front ++ (match data with
        | some d => { e with data := d, freeFunc } :: back
        | none => back), freeData e) := by
  induction front with
  | nil =>
      cases data with
      | some d | none => simp only [List.nil_append, mapSetLoop, if_pos hmatch]
  | cons x front ih =>
      have hrest := ih fun e he => hfront e (List.mem_cons_of_mem _ he)
      simp only [List.cons_append, mapSetLoop, if_neg (hfront x List.mem_cons_self), hrest]
      rfl

theorem owed_update_perm (m : TplUtilMap Key Data FreeFunc) (key : Key)
    (chain : List (MapEntry Key Data FreeFunc)) :
    (owed { m with buckets := Function.update m.buckets (m.getBucketIndex key) chain } ++
        (m.buckets (m.getBucketIndex key)).flatMap freeData).Perm
      (chain.flatMap freeData ++ owed m) := by
  have h := flatMap_update_perm List.nodup_range (getBucketIndex_mem m.toMapConfig key) m.buckets
    chain
  have hmap := h.flatMap_right freeData
  rw [List.flatMap_append, List.flatMap_append] at hmap
  exact hmap

/-- Every stored datum is owed until it is freed: a set moves the calls that it makes out
of the owed ones, and the call for its datum in. -/
theorem owed_set_perm (m : TplUtilMap Key Data FreeFunc) (key : Key) (data : Option Data)
    (freeFunc : Option FreeFunc) (alloc : Bool) :
    (owed (tplUtilMapSet m key data freeFunc alloc).1 ++
        (tplUtilMapSet m key data freeFunc alloc).2).Perm
      ((if Stores m key alloc then freePair data freeFunc else []) ++ owed m) := by
  classical
  obtain ⟨chain, freed, hloop, h⟩ | ⟨hfresh, hnew⟩ :=
    tplUtilMapSet_cases m key data freeFunc alloc
  · have hstores : Stores m key alloc := by
      by_contra hnot
      have hnone : mapSetLoop m.toMapConfig key data freeFunc
          (m.buckets (m.getBucketIndex key)) = none :=
        mapSetLoop_eq_none_iff.mpr fun e he hmatch => hnot (.inr ⟨e, he, hmatch⟩)
      cases hnone.symm.trans hloop
    rw [h, if_pos hstores]
    have hmoved := owed_update_perm m key chain
    have hchain := mapSetLoop_perm hloop
    rw [List.perm_iff_count] at hmoved hchain ⊢
    intro pair
    have hm := hmoved pair
    have hc := hchain pair
    simp only [List.count_append] at hm hc ⊢
    omega
  · obtain ⟨hnothing, h⟩ | ⟨d, rfl, rfl, h⟩ := hnew
    · have hpair : (if Stores m key alloc then freePair data freeFunc else []) = [] := by
        rcases hnothing with rfl | rfl
        · rw [freePair_none, ite_self]
        · refine if_neg ?_
          rintro (hcontra | ⟨e, he, hmatch⟩)
          · cases hcontra
          · exact hfresh e he hmatch
      rw [h, hpair, List.append_nil]
      exact List.Perm.refl _
    · rw [h, if_pos (.inl rfl), List.append_nil]
      have hmoved := owed_update_perm m key
        (⟨key, d, freeFunc⟩ :: m.buckets (m.getBucketIndex key))
      rw [List.flatMap_cons, freeData_eq] at hmoved
      rw [List.perm_iff_count] at hmoved ⊢
      intro pair
      have hm := hmoved pair
      simp only [List.count_append] at hm ⊢
      omega

end LibtplEgl.MapOwnership
