import LibtplEgl.ObjectUserData
import LibtplEgl.UtilMapHeap
import Mathlib.Data.List.Pairwise

namespace LibtplEgl.MapRefinement

open LibtplEgl.CellChain
open LibtplEgl.KeyedStore
open LibtplEgl.MapOwnership
open LibtplEgl.ObjectUserData (Key64)
open LibtplEgl.UtilMap
open LibtplEgl.UtilMapHeap

/-- `key.key32`, the low word of the union. -/
def key32 (key : Key64) : BitVec 32 := key.setWidth 32

def int32Hash (key : Key64) (_keyLength : Int) : CInt :=
  let key := key32 key
  let key := ~~~key + (key <<< 15)
  let key := key ^^^ (key >>> 12)
  let key := key + (key <<< 2)
  let key := key ^^^ (key >>> 4)
  let key := key * 2057#32
  key ^^^ (key >>> 16)

def int32KeyCompare (key₀ : Key64) (_key₀Length : Int) (key₁ : Key64) (_key₁Length : Int) : CInt :=
  key32 key₀ - key32 key₁

/-- The functions `tpl_util_map_int32_init` and `_create` pass on. -/
def int32Config (bucketBits : Nat) (h : bucketBits ≤ 30) : MapConfig Key64 where
  hashFunc := int32Hash
  keyLengthFunc := none
  keyCompareFunc := int32KeyCompare
  bucketBits := bucketBits
  bucketBits_le := h

/-- A map without a length function whose compare function returns 0 for the pairs of an
equivalence, which its hash function respects. -/
structure Lawful {Key : Type} (cfg : MapConfig Key) : Prop where
  keyLengthFunc : cfg.keyLengthFunc = none
  equivalence : Equivalence cfg.KeyMatches
  hash : ∀ a b, cfg.KeyMatches a b → cfg.hashFunc a 0 = cfg.hashFunc b 0

theorem int32Config_keyMatches_iff {bits : Nat} (h : bits ≤ 30) (a b : Key64) :
    (int32Config bits h).KeyMatches a b ↔ key32 a = key32 b := by
  show key32 a - key32 b = 0#32 ↔ _
  rw [BitVec.sub_eq_iff_eq_add, BitVec.zero_add]

theorem int32Config_lawful {bits : Nat} (h : bits ≤ 30) : Lawful (int32Config bits h) := by
  refine ⟨rfl, ⟨fun a => ?_, fun {a b} hab => ?_, fun {a b c} hab hbc => ?_⟩, fun a b hab => ?_⟩
  · rw [int32Config_keyMatches_iff]
  · rw [int32Config_keyMatches_iff] at hab ⊢
    exact hab.symm
  · rw [int32Config_keyMatches_iff] at hab hbc ⊢
    exact hab.trans hbc
  · rw [int32Config_keyMatches_iff] at hab
    show int32Hash a 0 = int32Hash b 0
    rw [int32Hash, int32Hash, hab]

section

variable {Key Data FreeFunc Addr : Type}

theorem Lawful.getBucketIndex_eq {cfg : MapConfig Key} (h : Lawful cfg) {a b : Key}
    (hab : cfg.KeyMatches a b) : cfg.getBucketIndex a = cfg.getBucketIndex b := by
  rw [MapConfig.getBucketIndex, MapConfig.getBucketIndex, MapConfig.keyLength, MapConfig.keyLength,
    h.keyLengthFunc]
  exact congrArg (fun hash => (hash &&& cfg.bucketMask).toNat) (h.hash a b hab)

theorem Lawful.sameSlot_iff {cfg : MapConfig Key} (h : Lawful cfg) {a b : Key} :
    cfg.SameSlot a b ↔ cfg.KeyMatches a b :=
  ⟨fun hab => hab.2, fun hab => ⟨h.getBucketIndex_eq hab, hab⟩⟩

/-- A call on the map, with the entry that `malloc` returns in it, or what other code allocates
and frees between two calls. -/
inductive Op (Key Data FreeFunc Addr : Type)
  | set (key : Key) (data : Option Data) (freeFunc : Option FreeFunc) (alloc : Addr)
  | get (key : Key)
  | clear
  | elsewhere (allocated : Addr → Bool)

def writesAfter (writes : List (Write Key Data (Option FreeFunc))) :
    Op Key Data FreeFunc Addr → List (Write Key Data (Option FreeFunc))
  | .set key data freeFunc _ => writes ++ [⟨key, data, freeFunc⟩]
  | .clear => []
  | _ => writes

def storedAfter (stored : List (FreeFunc × Data)) :
    Op Key Data FreeFunc Addr → List (FreeFunc × Data)
  | .set _ data freeFunc _ => stored ++ freePair data freeFunc
  | _ => stored

def Listed (s : MapHeap Key Data FreeFunc Addr) (a : Addr) : Prop :=
  ∃ i as, Chain s.cells (.head i) as ∧ a ∈ as

variable (cfg : MapConfig Key)

/-- What a get returns; the other calls return nothing. -/
def Answers (writes : List (Write Key Data (Option FreeFunc))) (op : Op Key Data FreeFunc Addr)
    (reply : Option (Option Data)) : Prop :=
  match op with
  | .get key => reply = some (lastWrite cfg.KeyMatches writes key)
  | _ => reply = none

/-- The chains of the buckets are finite and share no entry, each entry is in the bucket of its
key, and no two entries have equivalent keys. -/
def Sound (s : MapHeap Key Data FreeFunc Addr) : Prop :=
  ∃ chains : Nat → List Addr, Chains s.cells chains ∧
    (∀ i, ∀ a ∈ chains i, i < 2 ^ cfg.bucketBits ∧
      (cfg.hashFunc (s.key a) 0 &&& cfg.bucketMask).toNat = i ∧ s.allocated a = true) ∧
    ∀ i j, ∀ a ∈ chains i, ∀ b ∈ chains j, cfg.KeyMatches (s.key a) (s.key b) → a = b

/-- A set makes the free call of the entry that it overwrites or deletes, and a clear those of
all entries. -/
def Frees (s s' : MapHeap Key Data FreeFunc Addr) : Op Key Data FreeFunc Addr → Prop
  | .set key _ _ _ =>
      (∀ a, Listed s a → cfg.KeyMatches (s.key a) key → s'.freed = s.freed ++ s.calls a) ∧
        ((∀ a, Listed s a → ¬ cfg.KeyMatches (s.key a) key) → s'.freed = s.freed)
  | .clear =>
      ∃ as : List Addr, as.Nodup ∧ (∀ a, a ∈ as ↔ Listed s a) ∧
        s'.freed = s.freed ++ as.flatMap s.calls
  | _ => s'.freed = s.freed

/-- The data that were set with a free function are those that it was called with and those of
the entries. -/
def Accounts (s : MapHeap Key Data FreeFunc Addr) (stored : List (FreeFunc × Data)) : Prop :=
  ∃ as : List Addr, as.Nodup ∧ (∀ a, a ∈ as ↔ Listed s a) ∧
    (heapCalls stored).Perm (s.freed ++ as.flatMap s.calls)

/-- `malloc` returns memory that is not in use, and other code frees no entry of the map. -/
def Permitted (s : MapHeap Key Data FreeFunc Addr) : Op Key Data FreeFunc Addr → Prop
  | .set _ _ _ alloc => s.allocated alloc = false
  | .elsewhere allocated => ∀ a, Listed s a → allocated a = true
  | _ => True

def mapInit (s : MapHeap Key Data FreeFunc Addr) : MapHeap Key Data FreeFunc Addr :=
  { s with
    cells := fun
      | .head _ => none
      | .next a => s.cells (.next a)
    freed := [] }

variable [DecidableEq Addr]

def step (fuel : Nat) (s : MapHeap Key Data FreeFunc Addr) :
    Op Key Data FreeFunc Addr → Option (Option (Option Data) × MapHeap Key Data FreeFunc Addr)
  | .set key data freeFunc alloc =>
      (mapSet cfg fuel s key data freeFunc (some alloc)).map fun s => (none, s)
  | .get key => (mapGet cfg fuel s key).map fun d => (some d, s)
  | .clear => (mapClear cfg fuel s).map fun s => (none, s)
  | .elsewhere allocated => some (none, { s with allocated := allocated })

def run (fuel : Nat) : MapHeap Key Data FreeFunc Addr → List (Op Key Data FreeFunc Addr) →
    Option (List (Option (Option Data) × MapHeap Key Data FreeFunc Addr))
  | _, [] => some []
  | s, op :: ops => do
      let out ← step cfg fuel s op
      let rest ← run fuel out.2 ops
      some (out :: rest)

def PermittedRun : MapHeap Key Data FreeFunc Addr → List (Op Key Data FreeFunc Addr) → Prop
  | _, [] => True
  | s, op :: ops =>
      Permitted s op ∧ ∀ fuel reply s', step cfg fuel s op = some (reply, s') → PermittedRun s' ops

/-- Every call of a run answers and frees as it should, and leaves a sound map that accounts for
all data. -/
def Explains : MapHeap Key Data FreeFunc Addr → List (Write Key Data (Option FreeFunc)) →
    List (FreeFunc × Data) → List (Op Key Data FreeFunc Addr) →
    List (Option (Option Data) × MapHeap Key Data FreeFunc Addr) → Prop
  | _, _, _, [], [] => True
  | s, writes, stored, op :: ops, (reply, s') :: rest =>
      Answers cfg writes op reply ∧ Frees cfg s s' op ∧ Sound cfg s' ∧
        Accounts s' (storedAfter stored op) ∧
        Explains s' (writesAfter writes op) (storedAfter stored op) ops rest
  | _, _, _, _, _ => False

end

section

variable {Key Data FreeFunc Addr : Type} {cfg : MapConfig Key}
variable {s : MapHeap Key Data FreeFunc Addr} {chains : Nat → List Addr}
variable {m : TplUtilMap Key Data FreeFunc} {writes : List (Write Key Data (Option FreeFunc))}
variable {stored : List (FreeFunc × Data)}

/-- The heap holds a map of lists that holds the sets since the last clear, and every free call
is made or still owed. -/
structure Inv (cfg : MapConfig Key) (s : MapHeap Key Data FreeFunc Addr) (chains : Nat → List Addr)
    (m : TplUtilMap Key Data FreeFunc) (writes : List (Write Key Data (Option FreeFunc)))
    (stored : List (FreeFunc × Data)) : Prop where
  refines : Refines s chains m
  config : m.toMapConfig = cfg
  wellFormed : WellFormed m
  get : ∀ k, tplUtilMapGet m k = lastWrite cfg.KeyMatches writes k
  accounts : (heapCalls stored).Perm (s.freed ++ heapCalls (owed m))

theorem listed_iff (h : Refines s chains m) {a : Addr} : Listed s a ↔ ∃ i, a ∈ chains i := by
  constructor
  · rintro ⟨i, as, hchain, ha⟩
    rw [hchain.unique (h.linked.chain i)] at ha
    exact ⟨i, ha⟩
  · rintro ⟨i, ha⟩
    exact ⟨i, chains i, h.linked.chain i, ha⟩

theorem exists_entry (h : Refines s chains m) {i : Nat} {a : Addr} (ha : a ∈ chains i) :
    ∃ e ∈ m.buckets i, heapEntry s a = listEntry e := by
  have hmem : heapEntry s a ∈ (m.buckets i).map listEntry :=
    h.entries i ▸ List.mem_map_of_mem ha
  obtain ⟨e, he, heq⟩ := List.mem_map.mp hmem
  exact ⟨e, he, heq.symm⟩

theorem bucket_eq (hm : WellFormed m) (h : Refines s chains m) {i : Nat} {a : Addr}
    (ha : a ∈ chains i) : m.getBucketIndex (s.key a) = i :=
  (hm i).2 _ (key_mem (h.entries i) ▸ List.mem_map_of_mem ha)

theorem Inv.sound (h : Inv cfg s chains m writes stored) (hcfg : Lawful cfg) : Sound cfg s := by
  obtain ⟨hrefines, rfl, hm, -, -⟩ := h
  refine ⟨chains, hrefines.linked, fun i a ha => ⟨?_, ?_, hrefines.live i a ha⟩, ?_⟩
  · rw [← bucket_eq hm hrefines ha]
    exact m.getBucketIndex_lt _
  · have hbucket := bucket_eq hm hrefines ha
    rw [MapConfig.getBucketIndex, MapConfig.keyLength, hcfg.keyLengthFunc] at hbucket
    exact hbucket
  · intro i j a ha b hb hab
    have hi := bucket_eq hm hrefines ha
    have hj := bucket_eq hm hrefines hb
    rw [← hcfg.getBucketIndex_eq hab, hi] at hj
    subst hj
    have hpair := (hm i).1
    rw [← key_mem (hrefines.entries i), List.pairwise_map] at hpair
    by_contra hne
    have hsymm : Std.Symm fun a b => ¬ m.KeyMatches (s.key a) (s.key b) :=
      ⟨fun _ _ hno hyes => hno (hcfg.equivalence.symm hyes)⟩
    exact hpair.forall ha hb hne hab

theorem exists_all (h : Refines s chains m) (hm : WellFormed m) :
    ((List.range m.bucketSize.toNat).flatMap chains).Nodup ∧
      (∀ a, a ∈ (List.range m.bucketSize.toNat).flatMap chains ↔ Listed s a) ∧
      ((List.range m.bucketSize.toNat).flatMap chains).flatMap s.calls = heapCalls (owed m) := by
  refine ⟨?_, fun a => ?_, h.calls_all⟩
  · rw [List.nodup_flatMap]
    refine ⟨fun i _ => h.linked.nodup i, List.nodup_range.imp fun {i j} hij => ?_⟩
    exact fun a ha hb => hij (h.linked.disjoint ha hb)
  · rw [listed_iff h, List.mem_flatMap]
    constructor
    · rintro ⟨i, -, ha⟩
      exact ⟨i, ha⟩
    · rintro ⟨i, ha⟩
      have hi := getBucketIndex_mem m.toMapConfig (s.key a)
      rw [bucket_eq hm h ha] at hi
      exact ⟨i, hi, ha⟩

theorem Inv.accounts_listed (h : Inv cfg s chains m writes stored) : Accounts s stored := by
  obtain ⟨hnodup, hlisted, hcalls⟩ := exists_all h.refines h.wellFormed
  refine ⟨_, hnodup, hlisted, ?_⟩
  rw [hcalls]
  exact h.accounts

variable [DecidableEq Addr]

theorem tplUtilMapSet_freed (hm : WellFormed m) (heq : Equivalence m.KeyMatches) (key : Key)
    (data : Option Data) (freeFunc : Option FreeFunc) (alloc : Bool)
    {e : MapEntry Key Data FreeFunc} (he : e ∈ m.buckets (m.getBucketIndex key))
    (hmatch : m.KeyMatches e.key key) :
    (tplUtilMapSet m key data freeFunc alloc).2 = freeData e := by
  obtain ⟨front, back, hsplit⟩ := List.append_of_mem he
  have hpair := (hm (m.getBucketIndex key)).1
  rw [hsplit, List.map_append, List.map_cons, List.pairwise_append] at hpair
  have hfront : ∀ x ∈ front, ¬ m.KeyMatches x.key key := by
    intro x hx hxkey
    exact hpair.2.2 x.key (List.mem_map_of_mem hx) e.key List.mem_cons_self
      (heq.trans hxkey (heq.symm hmatch))
  simp [tplUtilMapSet, hsplit, mapSetLoop_found hfront hmatch]

theorem tplUtilMapSet_freed_none {key : Key} (data : Option Data) (freeFunc : Option FreeFunc)
    (alloc : Bool) (hnone : ∀ e ∈ m.buckets (m.getBucketIndex key), ¬ m.KeyMatches e.key key) :
    (tplUtilMapSet m key data freeFunc alloc).2 = [] := by
  obtain ⟨chain, freed, hloop, -⟩ | ⟨-, ⟨-, h⟩ | ⟨d, -, -, h⟩⟩ :=
    tplUtilMapSet_cases m key data freeFunc alloc
  · cases (mapSetLoop_eq_none_iff.mpr hnone).symm.trans hloop
  · rw [h]
  · rw [h]

omit [DecidableEq Addr] in
theorem Inv.set_frees (h : Inv cfg s chains m writes stored) (hcfg : Lawful cfg)
    {s' : MapHeap Key Data FreeFunc Addr} {key : Key} {data : Option Data}
    {freeFunc : Option FreeFunc} {alloc : Bool}
    (hfreed : s'.freed = s.freed ++ heapCalls (tplUtilMapSet m key data freeFunc alloc).2) :
    (∀ a, Listed s a → cfg.KeyMatches (s.key a) key → s'.freed = s.freed ++ s.calls a) ∧
      ((∀ a, Listed s a → ¬ cfg.KeyMatches (s.key a) key) → s'.freed = s.freed) := by
  obtain ⟨hrefines, rfl, hm, -, -⟩ := h
  constructor
  · intro a ha hmatch
    obtain ⟨i, ha⟩ := (listed_iff hrefines).mp ha
    obtain ⟨e, he, hentry⟩ := exists_entry hrefines ha
    have hkey : s.key a = e.key := congrArg Prod.fst hentry
    have hi : m.getBucketIndex key = i := by
      rw [← hcfg.getBucketIndex_eq hmatch]
      exact bucket_eq hm hrefines ha
    rw [hfreed, calls_eq hentry, tplUtilMapSet_freed hm hcfg.equivalence key data freeFunc alloc
      (hi ▸ he) (hkey ▸ hmatch)]
  · intro hnone
    have hes : ∀ e ∈ m.buckets (m.getBucketIndex key), ¬ m.KeyMatches e.key key := by
      intro e he
      have hkeys := key_mem (hrefines.entries (m.getBucketIndex key))
      obtain ⟨a, ha, hkey⟩ := List.mem_map.mp (hkeys ▸ List.mem_map_of_mem he)
      rw [← hkey]
      exact hnone a ((listed_iff hrefines).mpr ⟨_, ha⟩)
    rw [hfreed, tplUtilMapSet_freed_none data freeFunc alloc hes]
    exact List.append_nil _

theorem Inv.set (h : Inv cfg s chains m writes stored) (hcfg : Lawful cfg) {key : Key}
    {data : Option Data} {freeFunc : Option FreeFunc} {alloc : Addr}
    (hfresh : s.allocated alloc = false) :
    ∃ n s' chains' m', (∀ fuel ≥ n, mapSet cfg fuel s key data freeFunc (some alloc) = some s') ∧
      Inv cfg s' chains' m' (writes ++ [⟨key, data, freeFunc⟩]) (stored ++ freePair data freeFunc) ∧
      Frees cfg s s' (.set key data freeFunc alloc) := by
  have hnew : ∀ a, some alloc = some a → s.allocated a = false := by
    rintro a ⟨⟩
    exact hfresh
  obtain ⟨s', chains', hset, hrefines, hfreed⟩ := h.refines.set hnew key data freeFunc
  rw [Option.isSome_some] at hrefines hfreed
  have hfrees := h.set_frees hcfg hfreed
  obtain ⟨hold, rfl, hm, hget, haccounts⟩ := h
  refine ⟨_, s', chains', _, fun fuel hfuel => hset fuel hfuel, ⟨hrefines,
    tplUtilMapSet_toMapConfig m key data freeFunc true, hm.set hcfg.equivalence key data freeFunc true,
    fun k => ?_, ?_⟩, hfrees⟩
  · rw [lastWrite_concat, ← hget k]
    have hslot := tplUtilMapGet_set hcfg.equivalence hm key data freeFunc k
    simpa only [hcfg.sameSlot_iff] using hslot
  · have hmoved := owed_set_perm m key data freeFunc true
    rw [if_pos (.inl rfl)] at hmoved
    have hcalls : (heapCalls (owed (tplUtilMapSet m key data freeFunc true).1) ++
        heapCalls (tplUtilMapSet m key data freeFunc true).2).Perm
          (heapCalls (freePair data freeFunc) ++ heapCalls (owed m)) := by
      have hmap := hmoved.map fun call => (call.1, some call.2)
      rw [List.map_append, List.map_append] at hmap
      exact hmap
    have hstored : heapCalls (stored ++ freePair data freeFunc) =
        heapCalls stored ++ heapCalls (freePair data freeFunc) := List.map_append
    classical
    rw [hstored, hfreed]
    rw [List.perm_iff_count] at hcalls haccounts ⊢
    intro call
    have hmove := hcalls call
    have hbefore := haccounts call
    simp only [List.count_append] at hmove hbefore ⊢
    omega

theorem WellFormed.clear (hm : WellFormed m) : WellFormed (tplUtilMapClear m).1 := by
  intro i
  by_cases hi : i < m.bucketSize.toNat
  · simp [tplUtilMapClear, hi]
  · simpa [tplUtilMapClear, hi] using hm i

theorem tplUtilMapGet_clear (m : TplUtilMap Key Data FreeFunc) (k : Key) :
    tplUtilMapGet (tplUtilMapClear m).1 k = none := by
  have hi := List.mem_range.mp (getBucketIndex_mem m.toMapConfig k)
  have hempty : (tplUtilMapClear m).1.buckets (m.getBucketIndex k) = [] := if_pos hi
  rw [tplUtilMapGet]
  exact congrArg (mapGetLoop m.toMapConfig k) hempty

theorem Inv.clear (h : Inv cfg s chains m writes stored) :
    ∃ n s' chains' m', (∀ fuel ≥ n, mapClear cfg fuel s = some s') ∧
      Inv cfg s' chains' m' [] stored ∧ Frees cfg s s' .clear := by
  obtain ⟨s', hclear, hrefines, hfreed⟩ := h.refines.clear
  obtain ⟨hnodup, hlisted, hcalls⟩ := exists_all h.refines h.wellFormed
  obtain ⟨hold, rfl, hm, hget, haccounts⟩ := h
  rw [clear_freed] at hfreed
  refine ⟨_, s', _, _, fun fuel hfuel => hclear fuel hfuel, ⟨hrefines, rfl, WellFormed.clear hm,
    tplUtilMapGet_clear m, ?_⟩, _, hnodup, hlisted, ?_⟩
  · rw [owed, entries_clear, hfreed]
    simpa [heapCalls] using haccounts
  · rw [hfreed, hcalls]

theorem Inv.step (h : Inv cfg s chains m writes stored) (hcfg : Lawful cfg)
    {op : Op Key Data FreeFunc Addr} (hop : Permitted s op) :
    ∃ n reply s' chains' m', (∀ fuel ≥ n, MapRefinement.step cfg fuel s op = some (reply, s')) ∧
      Answers cfg writes op reply ∧ Frees cfg s s' op ∧
      Inv cfg s' chains' m' (writesAfter writes op) (storedAfter stored op) := by
  cases op with
  | set key data freeFunc alloc =>
      obtain ⟨n, s', chains', m', hset, hinv, hfrees⟩ := h.set hcfg hop
      refine ⟨n, none, s', chains', m', fun fuel hfuel => ?_, rfl, hfrees, hinv⟩
      simp [MapRefinement.step, hset fuel hfuel]
  | get key =>
      refine ⟨(chains (m.getBucketIndex key)).length + 1, _, s, chains, m, fun fuel hfuel => ?_,
        rfl, rfl, h⟩
      have hget := h.refines.get key hfuel
      rw [h.config, h.get key] at hget
      simp [MapRefinement.step, hget]
  | clear =>
      obtain ⟨n, s', chains', m', hclear, hinv, hfrees⟩ := h.clear
      refine ⟨n, none, s', chains', m', fun fuel hfuel => ?_, rfl, hfrees, hinv⟩
      simp [MapRefinement.step, hclear fuel hfuel]
  | elsewhere allocated =>
      refine ⟨0, none, _, chains, m, fun fuel _ => rfl, rfl, rfl, ⟨?_, h.config, h.wellFormed, h.get,
        h.accounts⟩⟩
      exact ⟨h.refines.linked, fun i a ha => hop a ((listed_iff h.refines).mpr ⟨i, ha⟩),
        h.refines.entries⟩

theorem run_from (hcfg : Lawful cfg) {ops : List (Op Key Data FreeFunc Addr)}
    (h : Inv cfg s chains m writes stored) (hops : PermittedRun cfg s ops) :
    ∃ n trace, (∀ fuel ≥ n, run cfg fuel s ops = some trace) ∧
      Explains cfg s writes stored ops trace := by
  induction ops generalizing s chains m writes stored with
  | nil => exact ⟨0, [], fun fuel _ => rfl, trivial⟩
  | cons op ops ih =>
      obtain ⟨hop, hrest⟩ := hops
      obtain ⟨n₁, reply, s', chains', m', hstep, hanswers, hfrees, hinv⟩ := h.step hcfg hop
      obtain ⟨n₂, trace, hrun, hexplains⟩ := ih hinv (hrest _ _ _ (hstep n₁ (Nat.le_refl _)))
      refine ⟨max n₁ n₂, (reply, s') :: trace, fun fuel hfuel => ?_, hanswers, hfrees,
        hinv.sound hcfg, hinv.accounts_listed, hexplains⟩
      have hfirst := hstep fuel (Nat.le_trans (Nat.le_max_left _ _) hfuel)
      have hlater := hrun fuel (Nat.le_trans (Nat.le_max_right _ _) hfuel)
      simp [run, hfirst, hlater]

omit [DecidableEq Addr] in
theorem inv_init (cfg : MapConfig Key) (s : MapHeap Key Data FreeFunc Addr) :
    Inv cfg (mapInit s) (fun _ => []) (tplUtilMapInit cfg) [] [] := by
  refine ⟨⟨chains_empty fun _ => rfl, by simp, fun _ => rfl⟩, rfl, wellFormed_init cfg, fun k => rfl,
    ?_⟩
  simp [mapInit, owed, entries, tplUtilMapInit, heapCalls]

/-- The `int32` functions make a lawful map, whose keys are the 32-bit ones, and every run of a
lawful map from empty buckets ends, reads back the last set since the last clear, keeps its chains
sound, and frees every datum exactly once. -/
theorem map_explained (hcfg : Lawful cfg) (s₀ : MapHeap Key Data FreeFunc Addr)
    {ops : List (Op Key Data FreeFunc Addr)} (hops : PermittedRun cfg (mapInit s₀) ops) :
    (∀ bits (h : bits ≤ 30), Lawful (int32Config bits h) ∧
        ∀ a b, (int32Config bits h).KeyMatches a b ↔ key32 a = key32 b) ∧
      ∃ n trace, (∀ fuel ≥ n, run cfg fuel (mapInit s₀) ops = some trace) ∧
        Explains cfg (mapInit s₀) [] [] ops trace :=
  ⟨fun _ h => ⟨int32Config_lawful h, int32Config_keyMatches_iff h⟩,
    run_from hcfg (inv_init cfg s₀) hops⟩

end

def exampleHeap : MapHeap Key64 Nat Nat Nat where
  cells := fun _ => none
  key := fun _ => 0
  data := fun _ => none
  freeFunc := fun _ => none
  allocated := fun _ => false
  freed := []

def exampleOps : List (Op Key64 Nat Nat Nat) :=
  [.set 7 (some 70) (some 1) 100, .get 7, .clear, .get 7]

theorem map_explained_example :
    (∀ bits (h : bits ≤ 30), Lawful (int32Config bits h) ∧
        ∀ a b, (int32Config bits h).KeyMatches a b ↔ key32 a = key32 b) ∧
      ∃ n trace, (∀ fuel ≥ n, run (int32Config 4 (by decide)) fuel (mapInit exampleHeap) exampleOps =
          some trace) ∧
        Explains (int32Config 4 (by decide)) (mapInit exampleHeap) [] [] exampleOps trace :=
  map_explained (int32Config_lawful (by decide)) exampleHeap
    ⟨rfl, fun _ _ _ _ => ⟨trivial, fun _ _ _ _ => ⟨trivial, fun _ _ _ _ =>
      ⟨trivial, fun _ _ _ _ => trivial⟩⟩⟩⟩

end LibtplEgl.MapRefinement
