import LibtplEgl.TplTypes
import LibtplEgl.UtilMap

/-!
Reference counted objects of `tpl_object.c` with their user data, on a target
with 64-bit pointers.
-/

namespace LibtplEgl.ObjectUserData

open LibtplEgl.KeyedStore
open LibtplEgl.TplTypes
open LibtplEgl.UtilMap

universe u v

abbrev Key64 := BitVec 64

/-- The mixing steps of `__int64_hash` and of the 64-bit `__pointer_hash`. -/
def mix64 (key : Key64) : Key64 :=
  let key := ~~~key + (key <<< 18)
  let key := key ^^^ (key >>> 31)
  let key := key * 21#64
  let key := key ^^^ (key >>> 11)
  let key := key + (key <<< 6)
  key ^^^ (key >>> 22)

def int64Hash (key : Key64) (_keyLength : Int) : CInt := (mix64 key).setWidth 32

/-- `__pointer_hash` where pointers have 64 bits. -/
def pointerHash (key : Key64) (_keyLength : Int) : CInt := (mix64 key).setWidth 32

/-- `__int64_key_compare`: the 64-bit difference, converted to `int`. -/
def int64KeyCompare (key₀ : Key64) (_key₀Length : Int) (key₁ : Key64) (_key₁Length : Int) :
    CInt :=
  (key₀ - key₁).setWidth 32

/-- `__pointer_key_compare`: the pointer difference, converted to `int`. -/
def pointerKeyCompare (key₀ : Key64) (_key₀Length : Int) (key₁ : Key64) (_key₁Length : Int) :
    CInt :=
  (key₀ - key₁).setWidth 32

/-- The functions `tpl_util_map_int64_init` and `_create` pass on. -/
def int64Config (bucketBits : Nat) (h : bucketBits ≤ 30) : MapConfig Key64 where
  hashFunc := int64Hash
  keyLengthFunc := none
  keyCompareFunc := int64KeyCompare
  bucketBits := bucketBits
  bucketBits_le := h

/-- The functions `tpl_util_map_pointer_init` and `_create` pass on. -/
def pointerConfig (bucketBits : Nat) (h : bucketBits ≤ 30) : MapConfig Key64 where
  hashFunc := pointerHash
  keyLengthFunc := none
  keyCompareFunc := pointerKeyCompare
  bucketBits := bucketBits
  bucketBits_le := h

theorem setWidth_sub_eq_zero_iff (a b : Key64) :
    (a - b).setWidth 32 = 0#32 ↔ a.toNat % 2 ^ 32 = b.toNat % 2 ^ 32 := by
  rw [← BitVec.toNat_inj, BitVec.toNat_setWidth, BitVec.toNat_sub]
  have ha := a.isLt
  have hb := b.isLt
  simp only [BitVec.toNat_ofNat, Nat.reducePow, Nat.zero_mod] at *
  omega

section Slots

variable {bits : Nat} (h : bits ≤ 30)

theorem int64Config_keyMatches_iff (a b : Key64) :
    (int64Config bits h).KeyMatches a b ↔ a.toNat % 2 ^ 32 = b.toNat % 2 ^ 32 :=
  setWidth_sub_eq_zero_iff a b

theorem pointerConfig_keyMatches_iff (a b : Key64) :
    (pointerConfig bits h).KeyMatches a b ↔ a.toNat % 2 ^ 32 = b.toNat % 2 ^ 32 :=
  setWidth_sub_eq_zero_iff a b

theorem equivalence_low_word :
    Equivalence fun a b : Key64 => a.toNat % 2 ^ 32 = b.toNat % 2 ^ 32 :=
  ⟨fun _ => rfl, Eq.symm, Eq.trans⟩

theorem int64Config_equivalence : Equivalence (int64Config bits h).KeyMatches := by
  have hfun : (int64Config bits h).KeyMatches =
      fun a b : Key64 => a.toNat % 2 ^ 32 = b.toNat % 2 ^ 32 := by
    funext a b
    exact propext (int64Config_keyMatches_iff h a b)
  rw [hfun]
  exact equivalence_low_word

theorem pointerConfig_equivalence : Equivalence (pointerConfig bits h).KeyMatches :=
  int64Config_equivalence h

end Slots

def tplObjectMagic : CInt := 0xe0b9ec75#32

def tplObjectBucketBits : Nat := 5

/-- The fields of `struct _tpl_object` that its user data functions use. -/
structure TplObject (Data : Type u) (FreeFunc : Type v) where
  magic : CInt
  reference : BitVec 32
  userDataMap : TplUtilMap Key64 Data FreeFunc

variable {Data : Type u} {FreeFunc : Type v}

/-- `__tpl_object_is_valid` on a non-NULL object, without `OBJECT_HASH_CHECK`. -/
def objectIsValid (object : TplObject Data FreeFunc) : Bool :=
  object.magic == tplObjectMagic && object.reference != 0#32

/-- `__tpl_object_init`. -/
def objectInit : TplObject Data FreeFunc where
  magic := tplObjectMagic
  reference := 1#32
  userDataMap := tplUtilMapInit (pointerConfig tplObjectBucketBits (by decide))

/-- `tpl_object_set_user_data`, with the outcome of the entry allocation. -/
def tplObjectSetUserData (object : TplObject Data FreeFunc) (key : Key64)
    (data : Option Data) (freeFunc : Option FreeFunc) (alloc : Bool) :
    TplResult × TplObject Data FreeFunc × List (FreeFunc × Data) :=
  if objectIsValid object then
    let (map, freed) := tplUtilMapSet object.userDataMap key data freeFunc alloc
    (.errorNone, { object with userDataMap := map }, freed)
  else (.errorInvalidParameter, object, [])

def tplObjectGetUserData (object : TplObject Data FreeFunc) (key : Key64) : Option Data :=
  if objectIsValid object then tplUtilMapGet object.userDataMap key else none

/-- `tpl_object_set_user_data` as a write, with the entry allocation succeeding. -/
def objectWrite (object : TplObject Data FreeFunc) (w : Write Key64 Data (Option FreeFunc)) :
    TplObject Data FreeFunc :=
  (tplObjectSetUserData object w.key w.value w.extra true).2.1

theorem foldl_objectWrite {object : TplObject Data FreeFunc} (hvalid : objectIsValid object)
    (writes : List (Write Key64 Data (Option FreeFunc))) :
    writes.foldl objectWrite object =
      { object with userDataMap := writes.foldl mapWrite object.userDataMap } := by
  induction writes generalizing object with
  | nil => rfl
  | cons w writes ih =>
      have hwrite : objectWrite object w =
          { object with userDataMap := mapWrite object.userDataMap w } := by
        simp [objectWrite, tplObjectSetUserData, hvalid, mapWrite]
      rw [List.foldl_cons, List.foldl_cons, hwrite, ih (by simpa [objectIsValid] using hvalid)]

theorem tplObject_realizes :
    Realizes (pointerConfig tplObjectBucketBits (by decide)).SameSlot
      (objectInit : TplObject Data FreeFunc) objectWrite tplObjectGetUserData := by
  intro writes k
  have hvalid : objectIsValid (objectInit : TplObject Data FreeFunc) := rfl
  rw [foldl_objectWrite hvalid]
  exact tplUtilMap_realizes (pointerConfig_equivalence (by decide)) writes k

end LibtplEgl.ObjectUserData
