import LibtplEgl.KeyedStore
import Mathlib.Algebra.Group.Nat.Defs
import Mathlib.Logic.Function.Basic

/-!
The chained hash map of `tpl_utils_map.c`. A key of a map with a length
function stands for the bytes it is compared by; the copy that `set` stores
beside a new entry is that key again.
-/

namespace LibtplEgl.UtilMap

open LibtplEgl.KeyedStore

universe u v w

abbrev CInt := BitVec 32

/-- `struct tpl_util_map_entry`; the chain is a list instead of `next`. Stored
data is never NULL, since `set` deletes the entry in that case. -/
structure MapEntry (Key : Type u) (Data : Type v) (FreeFunc : Type w) where
  key : Key
  data : Data
  freeFunc : Option FreeFunc

/-- What `tpl_util_map_init` fixes. `1 << bucket_bits` has to be an `int`. -/
structure MapConfig (Key : Type u) where
  hashFunc : Key → Int → CInt
  keyLengthFunc : Option (Key → Int)
  keyCompareFunc : Key → Int → Key → Int → CInt
  bucketBits : Nat
  bucketBits_le : bucketBits ≤ 30

namespace MapConfig

variable {Key : Type u} (cfg : MapConfig Key)

def bucketSize : CInt := 1#32 <<< cfg.bucketBits

def bucketMask : CInt := cfg.bucketSize - 1#32

def keyLength (key : Key) : Int :=
  match cfg.keyLengthFunc with
  | some keyLengthFunc => keyLengthFunc key
  | none => 0

def getBucketIndex (key : Key) : Nat :=
  (cfg.hashFunc key (cfg.keyLength key) &&& cfg.bucketMask).toNat

/-- The test of both chain searches: `key_compare_func` on the stored key and
the argument returns 0. -/
def KeyMatches (stored key : Key) : Prop :=
  cfg.keyCompareFunc stored (cfg.keyLength stored) key (cfg.keyLength key) = 0#32

instance : DecidableRel cfg.KeyMatches := fun _ _ => inferInstanceAs (Decidable (_ = _))

def SameSlot (k₁ k₂ : Key) : Prop :=
  cfg.getBucketIndex k₁ = cfg.getBucketIndex k₂ ∧ cfg.KeyMatches k₁ k₂

instance : DecidableRel cfg.SameSlot := fun _ _ => inferInstanceAs (Decidable (_ ∧ _))

theorem sameSlot_iff {k₁ k₂ : Key} (h : cfg.getBucketIndex k₁ = cfg.getBucketIndex k₂) :
    cfg.SameSlot k₁ k₂ ↔ cfg.KeyMatches k₁ k₂ :=
  and_iff_right h

theorem bucketMask_eq : cfg.bucketMask.toNat = 2 ^ cfg.bucketBits - 1 := by
  have hlt : 2 ^ cfg.bucketBits < 2 ^ 32 :=
    Nat.pow_lt_pow_right (by decide) (by have := cfg.bucketBits_le; omega)
  have hpos : 0 < 2 ^ cfg.bucketBits := Nat.two_pow_pos _
  have hsize : cfg.bucketSize.toNat = 2 ^ cfg.bucketBits := by
    rw [bucketSize, BitVec.toNat_shiftLeft, Nat.shiftLeft_eq, BitVec.toNat_ofNat,
      Nat.mod_eq_of_lt (by decide : 1 < 2 ^ 32), Nat.one_mul, Nat.mod_eq_of_lt hlt]
  rw [bucketMask, BitVec.toNat_sub, hsize, BitVec.toNat_ofNat]
  omega

theorem getBucketIndex_lt (key : Key) : cfg.getBucketIndex key < 2 ^ cfg.bucketBits := by
  rw [getBucketIndex, BitVec.toNat_and, bucketMask_eq, Nat.and_two_pow_sub_one_eq_mod]
  exact Nat.mod_lt _ (Nat.two_pow_pos _)

end MapConfig

/-- `struct tpl_util_map`. -/
structure TplUtilMap (Key : Type u) (Data : Type v) (FreeFunc : Type w)
    extends MapConfig Key where
  buckets : Nat → List (MapEntry Key Data FreeFunc)

variable {Key : Type u} {Data : Type v} {FreeFunc : Type w}

/-- `tpl_util_map_init` on a zeroed bucket array. -/
def tplUtilMapInit (cfg : MapConfig Key) : TplUtilMap Key Data FreeFunc where
  toMapConfig := cfg
  buckets := fun _ => []

/-- The search loop of `tpl_util_map_get`. -/
def mapGetLoop (cfg : MapConfig Key) (key : Key) :
    List (MapEntry Key Data FreeFunc) → Option Data
  | [] => none
  | curr :: next => if cfg.KeyMatches curr.key key then some curr.data else mapGetLoop cfg key next

def tplUtilMapGet (m : TplUtilMap Key Data FreeFunc) (key : Key) : Option Data :=
  mapGetLoop m.toMapConfig key (m.buckets (m.getBucketIndex key))

/-- The call `free_func(data)` on an entry that has a free function. -/
def freeData (entry : MapEntry Key Data FreeFunc) : List (FreeFunc × Data) :=
  match entry.freeFunc with
  | some freeFunc => [(freeFunc, entry.data)]
  | none => []

/-- The search loop of `tpl_util_map_set`: the chain with the found entry
overwritten or unlinked and the free calls made, or `none` if no key matches. -/
def mapSetLoop (cfg : MapConfig Key) (key : Key) (data : Option Data)
    (freeFunc : Option FreeFunc) : List (MapEntry Key Data FreeFunc) →
      Option (List (MapEntry Key Data FreeFunc) × List (FreeFunc × Data))
  | [] => none
  | curr :: next =>
      if cfg.KeyMatches curr.key key then
        match data with
        | some data => some ({ curr with data, freeFunc } :: next, freeData curr)
        | none => some (next, freeData curr)
      else
        (mapSetLoop cfg key data freeFunc next).map fun (chain, freed) => (curr :: chain, freed)

/-- `tpl_util_map_set`, with the outcome of the `malloc` of a new entry. Returns
the map and the free calls it made. -/
def tplUtilMapSet (m : TplUtilMap Key Data FreeFunc) (key : Key) (data : Option Data)
    (freeFunc : Option FreeFunc) (alloc : Bool) :
    TplUtilMap Key Data FreeFunc × List (FreeFunc × Data) :=
  let index := m.getBucketIndex key
  match mapSetLoop m.toMapConfig key data freeFunc (m.buckets index) with
  | some (chain, freed) =>
      ({ m with buckets := Function.update m.buckets index chain }, freed)
  | none =>
      match data with
      | none => (m, [])
      | some data =>
          if alloc then
            let entry := { key, data, freeFunc }
            ({ m with
                buckets := Function.update m.buckets index (entry :: m.buckets index) }, [])
          else (m, [])

/-- `tpl_util_map_set` as a write, with the entry allocation succeeding. -/
def mapWrite (m : TplUtilMap Key Data FreeFunc) (w : Write Key Data (Option FreeFunc)) :
    TplUtilMap Key Data FreeFunc :=
  (tplUtilMapSet m w.key w.value w.extra true).1

/-- Every entry is in the bucket of its key, and a chain holds one entry of each slot. -/
def WellFormed (m : TplUtilMap Key Data FreeFunc) : Prop :=
  ∀ i, ((m.buckets i).map MapEntry.key).Pairwise (fun k k' => ¬ m.KeyMatches k k') ∧
    ∀ k ∈ (m.buckets i).map MapEntry.key, m.getBucketIndex k = i

theorem wellFormed_init (cfg : MapConfig Key) :
    WellFormed (tplUtilMapInit cfg : TplUtilMap Key Data FreeFunc) := by
  intro i
  simp [tplUtilMapInit]

theorem mapGetLoop_eq_none {cfg : MapConfig Key} {key : Key}
    {chain : List (MapEntry Key Data FreeFunc)}
    (h : ∀ e ∈ chain, ¬ cfg.KeyMatches e.key key) : mapGetLoop cfg key chain = none := by
  induction chain with
  | nil => rfl
  | cons curr next ih =>
      rw [mapGetLoop, if_neg (h curr (by simp))]
      exact ih fun e he => h e (by simp [he])

theorem mapSetLoop_eq_none {cfg : MapConfig Key} {key : Key} {data : Option Data}
    {freeFunc : Option FreeFunc} {chain : List (MapEntry Key Data FreeFunc)}
    (h : mapSetLoop cfg key data freeFunc chain = none) :
    ∀ e ∈ chain, ¬ cfg.KeyMatches e.key key := by
  induction chain with
  | nil => simp
  | cons curr next ih =>
      simp only [mapSetLoop] at h
      split at h
      · cases data <;> cases h
      · rename_i hcurr
        intro e he
        rcases List.mem_cons.mp he with rfl | he
        · exact hcurr
        · exact ih (by simpa using h) e he

theorem mapSetLoop_keys_sublist {cfg : MapConfig Key} {key : Key} {data : Option Data}
    {freeFunc : Option FreeFunc} {chain chain' : List (MapEntry Key Data FreeFunc)}
    {freed : List (FreeFunc × Data)}
    (h : mapSetLoop cfg key data freeFunc chain = some (chain', freed)) :
    (chain'.map MapEntry.key).Sublist (chain.map MapEntry.key) := by
  induction chain generalizing chain' freed with
  | nil => cases h
  | cons curr next ih =>
      simp only [mapSetLoop] at h
      split at h
      · cases data with
        | some data =>
            cases h
            exact List.Sublist.refl _
        | none =>
            cases h
            exact List.sublist_cons_self _ _
      · obtain ⟨⟨rest, freed'⟩, hrest, hcons⟩ := Option.map_eq_some_iff.mp h
        cases hcons
        exact (ih hrest).cons_cons _

theorem WellFormed.update {m : TplUtilMap Key Data FreeFunc} (hm : WellFormed m) {index : Nat}
    {chain : List (MapEntry Key Data FreeFunc)}
    (hpair : (chain.map MapEntry.key).Pairwise fun k k' => ¬ m.KeyMatches k k')
    (hindex : ∀ k ∈ chain.map MapEntry.key, m.getBucketIndex k = index) :
    WellFormed { m with buckets := Function.update m.buckets index chain } := by
  intro i
  by_cases hi : i = index
  · subst hi
    dsimp only
    rw [Function.update_self]
    exact ⟨hpair, hindex⟩
  · simpa [Function.update_of_ne hi] using hm i

theorem tplUtilMapSet_cases (m : TplUtilMap Key Data FreeFunc) (key : Key)
    (data : Option Data) (freeFunc : Option FreeFunc) (alloc : Bool) :
    (∃ chain freed,
      mapSetLoop m.toMapConfig key data freeFunc (m.buckets (m.getBucketIndex key)) =
        some (chain, freed) ∧
      tplUtilMapSet m key data freeFunc alloc =
        ({ m with buckets := Function.update m.buckets (m.getBucketIndex key) chain }, freed)) ∨
    ((∀ e ∈ m.buckets (m.getBucketIndex key), ¬ m.KeyMatches e.key key) ∧
      ((data = none ∨ alloc = false) ∧ tplUtilMapSet m key data freeFunc alloc = (m, []) ∨
        ∃ d, data = some d ∧ alloc = true ∧
          tplUtilMapSet m key data freeFunc alloc =
            ({ m with
                buckets := Function.update m.buckets (m.getBucketIndex key)
                  ({ key, data := d, freeFunc } :: m.buckets (m.getBucketIndex key)) }, []))) := by
  cases hloop : mapSetLoop m.toMapConfig key data freeFunc
      (m.buckets (m.getBucketIndex key)) with
  | some found =>
      obtain ⟨chain, freed⟩ := found
      exact .inl ⟨chain, freed, rfl, by simp [tplUtilMapSet, hloop]⟩
  | none =>
      refine .inr ⟨mapSetLoop_eq_none hloop, ?_⟩
      cases data with
      | none => exact .inl ⟨.inl rfl, by simp [tplUtilMapSet, hloop]⟩
      | some d =>
          cases alloc with
          | false => exact .inl ⟨.inr rfl, by simp [tplUtilMapSet, hloop]⟩
          | true => exact .inr ⟨d, rfl, rfl, by simp [tplUtilMapSet, hloop]⟩

theorem tplUtilMapSet_toMapConfig (m : TplUtilMap Key Data FreeFunc) (key : Key)
    (data : Option Data) (freeFunc : Option FreeFunc) (alloc : Bool) :
    (tplUtilMapSet m key data freeFunc alloc).1.toMapConfig = m.toMapConfig := by
  obtain ⟨_, _, -, h⟩ | ⟨-, ⟨-, h⟩ | ⟨_, -, -, h⟩⟩ :=
    tplUtilMapSet_cases m key data freeFunc alloc <;> rw [h]

section Chain

variable {cfg : MapConfig Key} (heq : Equivalence cfg.KeyMatches)

include heq

theorem mapGetLoop_mapSetLoop {key : Key} {data : Option Data}
    {freeFunc : Option FreeFunc} {chain chain' : List (MapEntry Key Data FreeFunc)}
    {freed : List (FreeFunc × Data)}
    (hpair : (chain.map MapEntry.key).Pairwise fun k k' => ¬ cfg.KeyMatches k k')
    (h : mapSetLoop cfg key data freeFunc chain = some (chain', freed)) (k : Key) :
    mapGetLoop cfg k chain' =
      if cfg.KeyMatches key k then data else mapGetLoop cfg k chain := by
  induction chain generalizing chain' freed with
  | nil => cases h
  | cons curr next ih =>
      obtain ⟨hcurr, hnext⟩ := List.pairwise_cons.mp hpair
      simp only [mapSetLoop] at h
      split at h
      · rename_i hmatch
        have hiff : cfg.KeyMatches curr.key k ↔ cfg.KeyMatches key k :=
          ⟨heq.trans (heq.symm hmatch), heq.trans hmatch⟩
        cases data with
        | some data =>
            cases h
            simp only [mapGetLoop, hiff]
            split <;> simp [*]
        | none =>
            cases h
            simp only [mapGetLoop, hiff]
            split
            · rename_i hk
              exact mapGetLoop_eq_none fun e he hek =>
                hcurr e.key (List.mem_map_of_mem he) (heq.trans (hiff.mpr hk) (heq.symm hek))
            · rfl
      · rename_i hmatch
        obtain ⟨⟨rest, freed'⟩, hrest, hcons⟩ := Option.map_eq_some_iff.mp h
        cases hcons
        rw [mapGetLoop, mapGetLoop, ih hnext hrest]
        split
        · rename_i hk
          rw [if_neg fun hkey => hmatch (heq.trans hk (heq.symm hkey))]
        · rfl

end Chain

section Refinement

variable {m : TplUtilMap Key Data FreeFunc} (heq : Equivalence m.KeyMatches)

include heq

theorem WellFormed.set (hm : WellFormed m) (key : Key) (data : Option Data)
    (freeFunc : Option FreeFunc) (alloc : Bool) :
    WellFormed (tplUtilMapSet m key data freeFunc alloc).1 := by
  obtain ⟨hpair, hindex⟩ := hm (m.getBucketIndex key)
  obtain ⟨chain, freed, hloop, h⟩ | ⟨hfresh, ⟨-, h⟩ | ⟨d, -, -, h⟩⟩ :=
    tplUtilMapSet_cases m key data freeFunc alloc
  · rw [h]
    have hsub := mapSetLoop_keys_sublist hloop
    exact hm.update (hpair.sublist hsub) fun k hk => hindex k (hsub.subset hk)
  · rw [h]
    exact hm
  · rw [h]
    refine hm.update ?_ ?_
    · rw [List.map_cons, List.pairwise_cons]
      refine ⟨?_, hpair⟩
      intro k hk hmatch
      obtain ⟨e, he, rfl⟩ := List.mem_map.mp hk
      exact hfresh e he (heq.symm hmatch)
    · intro k hk
      rw [List.map_cons] at hk
      rcases List.mem_cons.mp hk with rfl | hk
      · rfl
      · exact hindex k hk

omit heq in
theorem tplUtilMapGet_update (index : Nat) (chain : List (MapEntry Key Data FreeFunc))
    (k : Key) :
    tplUtilMapGet { m with buckets := Function.update m.buckets index chain } k =
      if index = m.getBucketIndex k then mapGetLoop m.toMapConfig k chain
      else tplUtilMapGet m k := by
  unfold tplUtilMapGet
  by_cases hk : index = m.getBucketIndex k
  · simp [hk]
  · simp [hk, Function.update_of_ne (Ne.symm hk)]

/-- One set, seen by any get: it changes exactly the keys of its slot. -/
theorem tplUtilMapGet_set (hm : WellFormed m) (key : Key) (data : Option Data)
    (freeFunc : Option FreeFunc) (k : Key) :
    tplUtilMapGet (tplUtilMapSet m key data freeFunc true).1 k =
      if m.SameSlot key k then data else tplUtilMapGet m k := by
  have hpair := (hm (m.getBucketIndex key)).1
  have hslot : m.SameSlot key k → m.getBucketIndex key = m.getBucketIndex k := And.left
  obtain ⟨chain, freed, hloop, h⟩ | ⟨hfresh, hnew⟩ :=
    tplUtilMapSet_cases m key data freeFunc true
  · rw [h, tplUtilMapGet_update, mapGetLoop_mapSetLoop heq hpair hloop k]
    split
    · rename_i hk
      simp only [m.sameSlot_iff hk, hk]
      rfl
    · rename_i hk
      rw [if_neg (mt hslot hk)]
  · have hold : m.SameSlot key k → tplUtilMapGet m k = none := by
      rintro ⟨hk, hmatch⟩
      refine mapGetLoop_eq_none fun e he hek => hfresh e (hk ▸ he) ?_
      exact heq.trans hek (heq.symm hmatch)
    obtain ⟨hdata, h⟩ | ⟨d, rfl, -, h⟩ := hnew
    · obtain rfl : data = none := by simpa using hdata
      rw [h]
      split
      · rename_i hsame
        exact hold hsame
      · rfl
    · rw [h, tplUtilMapGet_update, mapGetLoop]
      split
      · rename_i hk
        simp only [m.sameSlot_iff hk, hk]
        rfl
      · rename_i hk
        rw [if_neg (mt hslot hk)]

end Refinement

theorem foldl_mapWrite {cfg : MapConfig Key} (heq : Equivalence cfg.KeyMatches)
    (writes : List (Write Key Data (Option FreeFunc))) :
    (writes.foldl mapWrite (tplUtilMapInit cfg)).toMapConfig = cfg ∧
      WellFormed (writes.foldl mapWrite (tplUtilMapInit cfg)) := by
  induction writes using List.reverseRecOn with
  | nil => exact ⟨rfl, wellFormed_init cfg⟩
  | append_singleton writes w ih =>
      obtain ⟨hcfg, hwf⟩ := ih
      rw [List.foldl_append, List.foldl_cons, List.foldl_nil]
      refine ⟨(tplUtilMapSet_toMapConfig _ _ _ _ _).trans hcfg, ?_⟩
      exact hwf.set (by rw [hcfg]; exact heq) _ _ _ _

/-- The map refines a partial map on slots: a get returns what the last set of
a key in the same slot stored. -/
theorem tplUtilMap_realizes {cfg : MapConfig Key} (heq : Equivalence cfg.KeyMatches) :
    Realizes cfg.SameSlot (tplUtilMapInit cfg : TplUtilMap Key Data FreeFunc)
      mapWrite tplUtilMapGet := by
  intro writes k
  induction writes using List.reverseRecOn with
  | nil => rfl
  | append_singleton writes w ih =>
      obtain ⟨hcfg, hwf⟩ := foldl_mapWrite heq writes
      rw [List.foldl_append, List.foldl_cons, List.foldl_nil, lastWrite_concat, ← ih]
      have hset := tplUtilMapGet_set (by rw [hcfg]; exact heq) hwf w.key w.value w.extra k
      simpa only [mapWrite, hcfg] using hset

end LibtplEgl.UtilMap
