import LibtplEgl.CellChain
import LibtplEgl.MapOwnership

/-!
The entries of `tpl_utils_map.c` in the heap, with the pointers of their chains. This is the code
of which the maps of lists are the meaning.
-/

namespace LibtplEgl.UtilMapHeap

open LibtplEgl.CellChain
open LibtplEgl.MapOwnership
open LibtplEgl.UtilMap

/-- The buckets of a map and the heap of its entries, with the free calls made so far. The cells
are `buckets[i]` and the `next` of each entry. -/
structure MapHeap (Key Data FreeFunc Addr : Type) where
  cells : Cells Nat Addr
  key : Addr → Key
  data : Addr → Option Data
  freeFunc : Addr → Option FreeFunc
  allocated : Addr → Bool
  freed : List (FreeFunc × Option Data)

section

variable {Key Data FreeFunc Addr : Type}

namespace MapHeap

variable (cfg : MapConfig Key) (s : MapHeap Key Data FreeFunc Addr)

/-- The cells that may be accessed: the bucket array has `bucket_size` elements. -/
def live : Cell Nat Addr → Bool
  | .head i => i < cfg.bucketSize.toNat
  | .next a => s.allocated a

def readCell (c : Cell Nat Addr) : Option (Option Addr) :=
  if s.live cfg c then some (s.cells c) else none

def readKey (a : Addr) : Option Key := if s.allocated a then some (s.key a) else none

def readData (a : Addr) : Option (Option Data) := if s.allocated a then some (s.data a) else none

/-- The call `free_func(data)` on an entry that has a free function. -/
def calls (a : Addr) : List (FreeFunc × Option Data) :=
  match s.freeFunc a with
  | some freeFunc => [(freeFunc, s.data a)]
  | none => []

/-- `if (curr->free_func) curr->free_func(curr->data)`. -/
def callFree (a : Addr) : Option (MapHeap Key Data FreeFunc Addr) :=
  if s.allocated a then some { s with freed := s.freed ++ s.calls a } else none

variable [DecidableEq Addr]

def writeCell (c : Cell Nat Addr) (value : Option Addr) : Option (MapHeap Key Data FreeFunc Addr) :=
  if s.live cfg c then some { s with cells := Function.update s.cells c value } else none

def writeData (a : Addr) (data : Option Data) (freeFunc : Option FreeFunc) :
    Option (MapHeap Key Data FreeFunc Addr) :=
  if s.allocated a then
    some { s with
      data := Function.update s.data a data
      freeFunc := Function.update s.freeFunc a freeFunc }
  else none

/-- `malloc` of an entry, whose key is written first. -/
def newEntry (a : Addr) (key : Key) : MapHeap Key Data FreeFunc Addr :=
  { s with
    key := Function.update s.key a key
    allocated := Function.update s.allocated a true }

def freeEntry (a : Addr) : Option (MapHeap Key Data FreeFunc Addr) :=
  if s.allocated a then some { s with allocated := Function.update s.allocated a false } else none

end MapHeap

variable (cfg : MapConfig Key)

def getLoop (s : MapHeap Key Data FreeFunc Addr) (key : Key) :
    Nat → Option Addr → Option (Option Data)
  | 0, _ => none
  | _ + 1, none => some none
  | fuel + 1, some curr => do
      let currKey ← s.readKey curr
      if cfg.KeyMatches currKey key then s.readData curr
      else getLoop s key fuel (← s.readCell cfg (.next curr))

def mapGet (fuel : Nat) (s : MapHeap Key Data FreeFunc Addr) (key : Key) : Option (Option Data) := do
  getLoop cfg s key fuel (← s.readCell cfg (.head (cfg.getBucketIndex key)))

/-- `prev->next`, or `*bucket` where `prev` is a null pointer. -/
def prevCell (bucket : Nat) : Option Addr → Cell Nat Addr
  | some prev => .next prev
  | none => .head bucket

variable [DecidableEq Addr]

/-- The search loop of `tpl_util_map_set`, and whether it found an entry. -/
def setLoop (key : Key) (data : Option Data) (freeFunc : Option FreeFunc) (bucket : Nat) :
    Nat → Option Addr → Option Addr → MapHeap Key Data FreeFunc Addr →
      Option (Bool × MapHeap Key Data FreeFunc Addr)
  | 0, _, _, _ => none
  | _ + 1, _, none, s => some (false, s)
  | fuel + 1, prev, some curr, s => do
      let currKey ← s.readKey curr
      if cfg.KeyMatches currKey key then do
        let s ← s.callFree curr
        match data with
        | some d => do
            let s ← s.writeData curr (some d) freeFunc
            some (true, s)
        | none => do
            let next ← s.readCell cfg (.next curr)
            let s ← s.writeCell cfg (prevCell bucket prev) next
            let s ← s.freeEntry curr
            some (true, s)
      else setLoop key data freeFunc bucket fuel (some curr) (← s.readCell cfg (.next curr)) s

/-- `tpl_util_map_set` without a length function, with the entry that `malloc` returns. -/
def mapSet (fuel : Nat) (s : MapHeap Key Data FreeFunc Addr) (key : Key) (data : Option Data)
    (freeFunc : Option FreeFunc) (alloc : Option Addr) : Option (MapHeap Key Data FreeFunc Addr) := do
  let bucket := cfg.getBucketIndex key
  let curr ← s.readCell cfg (.head bucket)
  let (found, s) ← setLoop cfg key data freeFunc bucket fuel none curr s
  if found then some s
  else
    match data, alloc with
    | none, _ | some _, none => some s
    | some d, some curr => do
        let s ← (s.newEntry curr key).writeData curr (some d) freeFunc
        let first ← s.readCell cfg (.head bucket)
        let s ← s.writeCell cfg (.next curr) first
        s.writeCell cfg (.head bucket) (some curr)

/-- The inner loop of `tpl_util_map_clear`. -/
def clearChain : Nat → Option Addr → MapHeap Key Data FreeFunc Addr →
    Option (MapHeap Key Data FreeFunc Addr)
  | 0, _, _ => none
  | _ + 1, none, s => some s
  | fuel + 1, some curr, s => do
      let next ← s.readCell cfg (.next curr)
      let s ← s.callFree curr
      let s ← s.freeEntry curr
      clearChain fuel next s

def clearBuckets (fuel : Nat) : List Nat → MapHeap Key Data FreeFunc Addr →
    Option (MapHeap Key Data FreeFunc Addr)
  | [], s => some s
  | i :: rest, s => do
      let curr ← s.readCell cfg (.head i)
      let s ← clearChain cfg fuel curr s
      clearBuckets fuel rest s

def mapClear (fuel : Nat) (s : MapHeap Key Data FreeFunc Addr) :
    Option (MapHeap Key Data FreeFunc Addr) := do
  let s ← clearBuckets cfg fuel (List.range cfg.bucketSize.toNat) s
  some { s with
    cells := fun
      | .head i => if i < cfg.bucketSize.toNat then none else s.cells (.head i)
      | .next a => s.cells (.next a) }

end

section

variable {Key Data FreeFunc Addr : Type}

def heapEntry (s : MapHeap Key Data FreeFunc Addr) (a : Addr) :
    Key × Option Data × Option FreeFunc :=
  (s.key a, s.data a, s.freeFunc a)

def listEntry (e : MapEntry Key Data FreeFunc) : Key × Option Data × Option FreeFunc :=
  (e.key, some e.data, e.freeFunc)

def heapCalls (freed : List (FreeFunc × Data)) : List (FreeFunc × Option Data) :=
  freed.map fun call => (call.1, some call.2)

/-- The heap holds the map of lists: the chain of each bucket is linked and allocated, and its
entries are those of the list. -/
structure Refines (s : MapHeap Key Data FreeFunc Addr) (chains : Nat → List Addr)
    (m : TplUtilMap Key Data FreeFunc) : Prop where
  linked : Chains s.cells chains
  live : ∀ i, ∀ a ∈ chains i, s.allocated a = true
  entries : ∀ i, (chains i).map (heapEntry s) = (m.buckets i).map listEntry

variable {cfg : MapConfig Key} {s : MapHeap Key Data FreeFunc Addr} {chains : Nat → List Addr}
variable {m : TplUtilMap Key Data FreeFunc}

theorem calls_eq {a : Addr} {e : MapEntry Key Data FreeFunc} (h : heapEntry s a = listEntry e) :
    s.calls a = heapCalls (freeData e) := by
  simp only [heapEntry, listEntry, Prod.mk.injEq] at h
  obtain ⟨-, hdata, hfree⟩ := h
  rw [MapHeap.calls, freeData, hfree, hdata]
  cases e.freeFunc with
  | none | some _ => rfl

theorem getLoop_eq {c : Cell Nat Addr} {as : List Addr} (hchain : Chain s.cells c as)
    (hlive : ∀ a ∈ as, s.allocated a = true) (key : Key) {fuel : Nat} (hfuel : as.length < fuel) :
    getLoop cfg s key fuel as.head? =
      some ((as.find? fun a => cfg.KeyMatches (s.key a) key).bind s.data) := by
  obtain ⟨fuel, rfl⟩ := Nat.exists_eq_add_one.mpr (Nat.zero_lt_of_lt hfuel)
  induction as generalizing c fuel with
  | nil => rfl
  | cons a as ih =>
      have ha := hlive a List.mem_cons_self
      obtain ⟨fuel, rfl⟩ := Nat.exists_eq_add_one.mpr
        (Nat.zero_lt_of_lt (Nat.lt_of_succ_lt_succ hfuel))
      have hloop := ih hchain.2 (fun b hb => hlive b (List.mem_cons_of_mem _ hb)) fuel
        (Nat.lt_of_succ_lt_succ hfuel)
      have hkey : s.readKey a = some (s.key a) := if_pos ha
      have hdata : s.readData a = some (s.data a) := if_pos ha
      have hnext : s.readCell cfg (.next a) = some as.head? := by
        rw [MapHeap.readCell, MapHeap.live, if_pos ha, hchain.2.head_eq]
      simp only [List.head?_cons, getLoop, hkey, hnext, hdata, Option.bind_eq_bind,
        Option.bind_some]
      by_cases hk : cfg.KeyMatches (s.key a) key
      · rw [if_pos hk, List.find?_cons_of_pos (by simpa using hk)]
        rfl
      · rw [if_neg hk, List.find?_cons_of_neg (by simpa using hk)]
        exact hloop

theorem mapGetLoop_eq {as : List Addr} {es : List (MapEntry Key Data FreeFunc)}
    (h : as.map (heapEntry s) = es.map listEntry) (key : Key) :
    mapGetLoop cfg key es = (as.find? fun a => cfg.KeyMatches (s.key a) key).bind s.data := by
  induction as generalizing es with
  | nil =>
      obtain rfl := List.map_eq_nil_iff.mp h.symm
      rfl
  | cons a as ih =>
      obtain ⟨e, es, rfl, hentry, hrest⟩ := List.map_eq_cons_iff.mp h.symm
      have hentry' := hentry.symm
      simp only [heapEntry, listEntry, Prod.mk.injEq] at hentry'
      obtain ⟨hkey, hdata, -⟩ := hentry'
      rw [mapGetLoop, ← hkey]
      by_cases hk : cfg.KeyMatches (s.key a) key
      · rw [if_pos hk, List.find?_cons_of_pos (by simpa using hk)]
        exact hdata.symm
      · rw [if_neg hk, List.find?_cons_of_neg (by simpa using hk)]
        exact ih hrest.symm

theorem live_bucket (cfg : MapConfig Key) (s : MapHeap Key Data FreeFunc Addr) (key : Key) :
    s.live cfg (.head (cfg.getBucketIndex key)) = true := by
  simpa [MapHeap.live] using List.mem_range.mp (getBucketIndex_mem cfg key)

theorem readCell_bucket (cfg : MapConfig Key) (hlinked : Chains s.cells chains) (key : Key) :
    s.readCell cfg (.head (cfg.getBucketIndex key)) =
      some (chains (cfg.getBucketIndex key)).head? := by
  rw [MapHeap.readCell, if_pos (live_bucket cfg s key), (hlinked.chain _).head_eq]

theorem Refines.get (h : Refines s chains m) (key : Key) {fuel : Nat}
    (hfuel : (chains (m.getBucketIndex key)).length < fuel) :
    mapGet m.toMapConfig fuel s key = some (tplUtilMapGet m key) := by
  rw [mapGet, readCell_bucket m.toMapConfig h.linked, tplUtilMapGet, mapGetLoop_eq (h.entries _) key]
  exact getLoop_eq (h.linked.chain _) (h.live _) key hfuel

theorem prevCell_getLast (bucket : Nat) (front : List Addr) :
    prevCell bucket front.getLast? = lastCell (.head bucket) front := by
  rcases List.eq_nil_or_concat' front with rfl | ⟨init, a, rfl⟩
  · rfl
  · rw [lastCell_concat, List.getLast?_concat]
    rfl

variable [DecidableEq Addr]

theorem setLoop_skip {c : Cell Nat Addr} {mid tail : List Addr}
    (hchain : Chain s.cells c (mid ++ tail)) (hlive : ∀ a ∈ mid, s.allocated a = true) {key : Key}
    (hmid : ∀ a ∈ mid, ¬ cfg.KeyMatches (s.key a) key) (data : Option Data)
    (freeFunc : Option FreeFunc) (bucket fuel : Nat) (prev : Option Addr) :
    setLoop cfg key data freeFunc bucket (fuel + mid.length) prev (mid ++ tail).head? s =
      setLoop cfg key data freeFunc bucket fuel (mid.getLast?.or prev) tail.head? s := by
  induction mid generalizing c prev with
  | nil => rfl
  | cons a mid ih =>
      have ha := hlive a List.mem_cons_self
      have hkey : s.readKey a = some (s.key a) := if_pos ha
      have hnext : s.readCell cfg (.next a) = some (mid ++ tail).head? := by
        rw [MapHeap.readCell, MapHeap.live, if_pos ha]
        exact congrArg some hchain.2.head_eq
      have hrest := ih hchain.2 (fun b hb => hlive b (List.mem_cons_of_mem _ hb))
        (fun b hb => hmid b (List.mem_cons_of_mem _ hb)) (some a)
      have hlast : (mid.getLast?.or (some a)) = ((a :: mid).getLast?.or prev) := by
        rw [List.getLast?_cons]
        cases mid.getLast? with
        | none | some b => rfl
      rw [List.length_cons, ← Nat.add_assoc, List.cons_append, List.head?_cons, setLoop, hkey]
      simp only [Option.bind_eq_bind, Option.bind_some, if_neg (hmid a List.mem_cons_self), hnext]
      rw [hrest, hlast]

theorem setLoop_none {c : Cell Nat Addr} {as : List Addr} (hchain : Chain s.cells c as)
    (hlive : ∀ a ∈ as, s.allocated a = true) {key : Key}
    (hnone : ∀ a ∈ as, ¬ cfg.KeyMatches (s.key a) key) (data : Option Data)
    (freeFunc : Option FreeFunc) (bucket : Nat) (prev : Option Addr) {fuel : Nat}
    (hfuel : as.length < fuel) :
    setLoop cfg key data freeFunc bucket fuel prev as.head? s = some (false, s) := by
  obtain ⟨rest, rfl⟩ := Nat.exists_eq_add_of_lt hfuel
  rw [← List.append_nil as] at hchain
  have hskip := setLoop_skip hchain hlive hnone data freeFunc bucket (rest + 1) prev
  rw [List.append_nil] at hskip
  rw [Nat.add_assoc, Nat.add_comm as.length, hskip]
  rfl

def overwritten (s : MapHeap Key Data FreeFunc Addr) (a : Addr) (d : Data)
    (freeFunc : Option FreeFunc) : MapHeap Key Data FreeFunc Addr :=
  { s with
    data := Function.update s.data a (some d)
    freeFunc := Function.update s.freeFunc a freeFunc
    freed := s.freed ++ s.calls a }

def deleted (s : MapHeap Key Data FreeFunc Addr) (a : Addr) (c : Cell Nat Addr) :
    MapHeap Key Data FreeFunc Addr :=
  { s with
    cells := Function.update s.cells c (s.cells (.next a))
    allocated := Function.update s.allocated a false
    freed := s.freed ++ s.calls a }

def foundState (s : MapHeap Key Data FreeFunc Addr) (a : Addr) (c : Cell Nat Addr)
    (data : Option Data) (freeFunc : Option FreeFunc) : MapHeap Key Data FreeFunc Addr :=
  match data with
  | some d => overwritten s a d freeFunc
  | none => deleted s a c

def inserted (s : MapHeap Key Data FreeFunc Addr) (bucket : Nat) (a : Addr) (key : Key) (d : Data)
    (freeFunc : Option FreeFunc) : MapHeap Key Data FreeFunc Addr where
  cells := push s.cells bucket a
  key := Function.update s.key a key
  data := Function.update s.data a (some d)
  freeFunc := Function.update s.freeFunc a freeFunc
  allocated := Function.update s.allocated a true
  freed := s.freed

theorem setLoop_found {a : Addr} {key : Key} (ha : s.allocated a = true)
    (hmatch : cfg.KeyMatches (s.key a) key) (data : Option Data) (freeFunc : Option FreeFunc)
    {bucket : Nat} {prev : Option Addr} (hprev : s.live cfg (prevCell bucket prev) = true)
    (fuel : Nat) :
    setLoop cfg key data freeFunc bucket (fuel + 1) prev (some a) s =
      some (true, foundState s a (prevCell bucket prev) data freeFunc) := by
  have hkey : s.readKey a = some (s.key a) := if_pos ha
  have hlive : ∀ freed, MapHeap.live cfg { s with freed := freed } (prevCell bucket prev) = true := by
    intro freed
    cases prev with
    | none => exact hprev
    | some p => exact hprev
  have hself : ∀ freed, MapHeap.live cfg { s with freed := freed } (.next a) = true := fun _ => ha
  cases data with
  | some d =>
      simp [setLoop, hkey, if_pos hmatch, MapHeap.callFree, ha, MapHeap.writeData, foundState,
        overwritten]
  | none =>
      simp [setLoop, hkey, if_pos hmatch, MapHeap.callFree, ha, MapHeap.readCell, MapHeap.writeCell,
        MapHeap.freeEntry, hlive, hself, foundState, deleted]

omit [DecidableEq Addr] in
theorem split_entries {front back : List Addr} {a : Addr} {es : List (MapEntry Key Data FreeFunc)}
    (h : (front ++ a :: back).map (heapEntry s) = es.map listEntry) :
    ∃ es₁ e es₂, es = es₁ ++ e :: es₂ ∧ front.map (heapEntry s) = es₁.map listEntry ∧
      heapEntry s a = listEntry e ∧ back.map (heapEntry s) = es₂.map listEntry := by
  rw [List.map_append, List.map_cons] at h
  obtain ⟨es₁, rest, rfl, h₁, hrest⟩ := List.map_eq_append_iff.mp h.symm
  obtain ⟨e, es₂, rfl, he, h₂⟩ := List.map_eq_cons_iff.mp hrest
  exact ⟨es₁, e, es₂, rfl, h₁.symm, he.symm, h₂.symm⟩

omit [DecidableEq Addr] in
theorem key_mem {as : List Addr} {es : List (MapEntry Key Data FreeFunc)}
    (h : as.map (heapEntry s) = es.map listEntry) : as.map s.key = es.map MapEntry.key := by
  have hfst := congrArg (List.map Prod.fst) h
  rw [List.map_map, List.map_map] at hfst
  exact hfst

omit [DecidableEq Addr] in
theorem map_heapEntry_congr {s' : MapHeap Key Data FreeFunc Addr} {as : List Addr}
    (h : ∀ a ∈ as, heapEntry s' a = heapEntry s a) : as.map (heapEntry s') = as.map (heapEntry s) :=
  List.map_congr_left h

omit [DecidableEq Addr] in
theorem entries_update {s' : MapHeap Key Data FreeFunc Addr} (h : Refines s chains m) {i : Nat}
    {as : List Addr} {es : List (MapEntry Key Data FreeFunc)}
    (has : as.map (heapEntry s') = es.map listEntry)
    (hsame : ∀ j, j ≠ i → ∀ a ∈ chains j, heapEntry s' a = heapEntry s a) (j : Nat) :
    (Function.update chains i as j).map (heapEntry s') =
      (Function.update m.buckets i es j).map listEntry := by
  by_cases hj : j = i
  · subst hj
    rw [Function.update_self, Function.update_self]
    exact has
  · rw [Function.update_of_ne hj, Function.update_of_ne hj, map_heapEntry_congr (hsame j hj)]
    exact h.entries j

theorem Refines.overwrite (h : Refines s chains m) {i : Nat} {front back : List Addr} {a : Addr}
    (hi : chains i = front ++ a :: back) {es₁ es₂ : List (MapEntry Key Data FreeFunc)}
    {e : MapEntry Key Data FreeFunc} (hfront : front.map (heapEntry s) = es₁.map listEntry)
    (he : heapEntry s a = listEntry e) (hback : back.map (heapEntry s) = es₂.map listEntry)
    (d : Data) (freeFunc : Option FreeFunc) :
    Refines (overwritten s a d freeFunc) chains
      { m with
        buckets := Function.update m.buckets i (es₁ ++ { e with data := d, freeFunc } :: es₂) } := by
  have hsame : ∀ b, b ≠ a → heapEntry (overwritten s a d freeFunc) b = heapEntry s b := by
    intro b hb
    simp [heapEntry, overwritten, hb]
  have hself : heapEntry (overwritten s a d freeFunc) a =
      listEntry { e with data := d, freeFunc } := by
    have hkey := congrArg Prod.fst he
    simp [heapEntry, listEntry, overwritten] at hkey ⊢
    exact hkey
  have hsplit : (front ++ a :: back).map (heapEntry (overwritten s a d freeFunc)) =
      (es₁ ++ { e with data := d, freeFunc } :: es₂).map listEntry := by
    rw [List.map_append, List.map_cons, List.map_append, List.map_cons, hself, ← hfront, ← hback,
      map_heapEntry_congr fun b hb => hsame b (h.linked.ne_of_mem hi (List.mem_append_left _ hb)),
      map_heapEntry_congr fun b hb => hsame b (h.linked.ne_of_mem hi (List.mem_append_right _ hb))]
  have hother : ∀ j, j ≠ i → ∀ b ∈ chains j,
      heapEntry (overwritten s a d freeFunc) b = heapEntry s b := by
    intro j hj b hb
    refine hsame b ?_
    rintro rfl
    exact hj (h.linked.disjoint hb (hi ▸ List.mem_append_right _ List.mem_cons_self))
  refine ⟨h.linked, h.live, fun j => ?_⟩
  have hentries := entries_update h hsplit hother j
  rw [← hi, Function.update_eq_self] at hentries
  exact hentries

theorem Refines.delete (h : Refines s chains m) {i : Nat} {front back : List Addr} {a : Addr}
    (hi : chains i = front ++ a :: back) {es₁ es₂ : List (MapEntry Key Data FreeFunc)}
    (hfront : front.map (heapEntry s) = es₁.map listEntry)
    (hback : back.map (heapEntry s) = es₂.map listEntry) :
    Refines (deleted s a (lastCell (.head i) front)) (Function.update chains i (front ++ back))
      { m with buckets := Function.update m.buckets i (es₁ ++ es₂) } := by
  have hsplit : (front ++ back).map (heapEntry s) = (es₁ ++ es₂).map listEntry := by
    rw [List.map_append, List.map_append, hfront, hback]
  refine ⟨h.linked.remove hi, fun j b hb => ?_, fun j => ?_⟩
  · show Function.update s.allocated a false b = true
    rw [Function.update_of_ne (h.linked.ne_of_remove hi hb)]
    exact h.live j b (mem_of_remove hi hb)
  · exact entries_update h hsplit (fun _ _ _ _ => rfl) j

theorem Refines.insert (h : Refines s chains m) {a : Addr} (hfresh : s.allocated a = false)
    (i : Nat) (key : Key) (d : Data) (freeFunc : Option FreeFunc) :
    Refines (inserted s i a key d freeFunc) (Function.update chains i (a :: chains i))
      { m with
        buckets := Function.update m.buckets i ({ key, data := d, freeFunc } :: m.buckets i) } := by
  have hne : ∀ j, ∀ b ∈ chains j, b ≠ a := by
    rintro j b hb rfl
    have hlive := h.live j b hb
    rw [hfresh] at hlive
    cases hlive
  have hsame : ∀ j, ∀ b ∈ chains j, heapEntry (inserted s i a key d freeFunc) b = heapEntry s b := by
    intro j b hb
    simp [heapEntry, inserted, hne j b hb]
  have hself : heapEntry (inserted s i a key d freeFunc) a =
      listEntry { key, data := d, freeFunc } := by
    simp [heapEntry, listEntry, inserted]
  have hsplit : (a :: chains i).map (heapEntry (inserted s i a key d freeFunc)) =
      ({ key, data := d, freeFunc } :: m.buckets i).map listEntry := by
    rw [List.map_cons, List.map_cons, hself, map_heapEntry_congr (hsame i), h.entries i]
  refine ⟨h.linked.push i fun j hj => hne j a hj rfl, fun j b hb => ?_, fun j => ?_⟩
  · show Function.update s.allocated a true b = true
    rcases mem_push_iff.mp hb with ⟨-, rfl⟩ | hb
    · exact Function.update_self _ _ _
    · rw [Function.update_of_ne (hne j b hb)]
      exact h.live j b hb
  · exact entries_update h hsplit (fun j _ => hsame j) j

theorem mapSet_insert {key : Key} {fuel : Nat} {a : Addr} {d : Data} {freeFunc : Option FreeFunc}
    (hloop : setLoop cfg key (some d) freeFunc (cfg.getBucketIndex key) fuel none
      (s.cells (.head (cfg.getBucketIndex key))) s = some (false, s)) :
    mapSet cfg fuel s key (some d) freeFunc (some a) =
      some (inserted s (cfg.getBucketIndex key) a key d freeFunc) := by
  have hbucket := fun s' : MapHeap Key Data FreeFunc Addr => live_bucket cfg s' key
  have hself : ∀ s' : MapHeap Key Data FreeFunc Addr, s'.allocated a = true →
      s'.live cfg (.next a) = true := fun _ h => h
  simp [mapSet, hloop, MapHeap.newEntry, MapHeap.writeData, MapHeap.readCell,
    MapHeap.writeCell, hbucket, hself, inserted, push]

theorem Refines.set_new (h : Refines s chains m) {alloc : Option Addr}
    (hfresh : ∀ a, alloc = some a → s.allocated a = false) {key : Key}
    (hnone : ∀ a ∈ chains (m.getBucketIndex key), ¬ m.KeyMatches (s.key a) key)
    (data : Option Data) (freeFunc : Option FreeFunc) :
    ∃ s' chains', (∀ fuel > (chains (m.getBucketIndex key)).length,
        mapSet m.toMapConfig fuel s key data freeFunc alloc = some s') ∧
      Refines s' chains' (tplUtilMapSet m key data freeFunc alloc.isSome).1 ∧
      s'.freed = s.freed ++ heapCalls (tplUtilMapSet m key data freeFunc alloc.isSome).2 := by
  have hhead := readCell_bucket m.toMapConfig h.linked key
  have hchain := h.linked.chain (m.getBucketIndex key)
  have hes : ∀ e ∈ m.buckets (m.getBucketIndex key), ¬ m.KeyMatches e.key key := by
    intro e he
    have hkeys := key_mem (h.entries (m.getBucketIndex key))
    obtain ⟨a, ha, hkey⟩ := List.mem_map.mp (hkeys ▸ List.mem_map_of_mem he)
    rw [← hkey]
    exact hnone a ha
  have hlist : mapSetLoop m.toMapConfig key data freeFunc (m.buckets (m.getBucketIndex key)) =
      none := mapSetLoop_eq_none_iff.mpr hes
  have hloop := fun fuel (hfuel : fuel > (chains (m.getBucketIndex key)).length) =>
    setLoop_none hchain (h.live _) hnone data freeFunc (m.getBucketIndex key) none hfuel
  cases data with
  | none =>
      refine ⟨s, chains, fun fuel hfuel => ?_, ?_, ?_⟩
      · simp [mapSet, hhead, hloop fuel hfuel]
      · simpa [tplUtilMapSet, hlist] using h
      · simp [tplUtilMapSet, hlist, heapCalls]
  | some d =>
      cases alloc with
      | none =>
          refine ⟨s, chains, fun fuel hfuel => ?_, ?_, ?_⟩
          · simp [mapSet, hhead, hloop fuel hfuel]
          · simpa [tplUtilMapSet, hlist] using h
          · simp [tplUtilMapSet, hlist, heapCalls]
      | some a =>
          refine ⟨inserted s (m.getBucketIndex key) a key d freeFunc,
            Function.update chains (m.getBucketIndex key) (a :: chains (m.getBucketIndex key)),
            fun fuel hfuel => ?_, ?_, ?_⟩
          · exact mapSet_insert (hchain.head_eq ▸ hloop fuel hfuel)
          · simpa [tplUtilMapSet, hlist] using
              h.insert (hfresh a rfl) (m.getBucketIndex key) key d freeFunc
          · simp [tplUtilMapSet, hlist, heapCalls, inserted]

theorem Refines.set_found (h : Refines s chains m) {key : Key} {front back : List Addr} {a : Addr}
    (hi : chains (m.getBucketIndex key) = front ++ a :: back)
    (hfront : ∀ b ∈ front, ¬ m.KeyMatches (s.key b) key) (hmatch : m.KeyMatches (s.key a) key)
    (data : Option Data) (freeFunc : Option FreeFunc) (alloc : Option Addr) :
    ∃ s' chains', (∀ fuel > (chains (m.getBucketIndex key)).length,
        mapSet m.toMapConfig fuel s key data freeFunc alloc = some s') ∧
      Refines s' chains' (tplUtilMapSet m key data freeFunc alloc.isSome).1 ∧
      s'.freed = s.freed ++ heapCalls (tplUtilMapSet m key data freeFunc alloc.isSome).2 := by
  have hhead := readCell_bucket m.toMapConfig h.linked key
  have hchain := h.linked.chain (m.getBucketIndex key)
  have hentries := h.entries (m.getBucketIndex key)
  have hlive := h.live (m.getBucketIndex key)
  rw [hi] at hhead hchain hentries hlive
  obtain ⟨es₁, e, es₂, hes, hes₁, he, hes₂⟩ := split_entries hentries
  have hcalls := calls_eq he
  have hkey : s.key a = e.key := congrArg Prod.fst he
  have hesfront : ∀ x ∈ es₁, ¬ m.KeyMatches x.key key := by
    intro x hx
    obtain ⟨b, hb, hbx⟩ := List.mem_map.mp (key_mem hes₁ ▸ List.mem_map_of_mem hx)
    rw [← hbx]
    exact hfront b hb
  have hlist := mapSetLoop_found hesfront (hkey ▸ hmatch) es₂ data freeFunc
  have hprev : s.live m.toMapConfig (prevCell (m.getBucketIndex key) front.getLast?) = true := by
    rw [prevCell_getLast]
    rcases lastCell_mem (.head (m.getBucketIndex key)) front with hfirst | ⟨b, hb, hnext⟩
    · rw [hfirst]
      exact live_bucket _ s key
    · rw [hnext]
      exact hlive b (List.mem_append_left _ hb)
  have hloop : ∀ fuel > (front ++ a :: back).length,
      setLoop m.toMapConfig key data freeFunc (m.getBucketIndex key) fuel none
        (front ++ a :: back).head? s =
          some (true, foundState s a (prevCell (m.getBucketIndex key) front.getLast?) data
            freeFunc) := by
    intro fuel hfuel
    have hmore : front.length < fuel := by
      rw [List.length_append] at hfuel
      omega
    obtain ⟨rest, rfl⟩ := Nat.exists_eq_add_of_lt hmore
    have hskip := setLoop_skip hchain (fun b hb => hlive b (List.mem_append_left _ hb)) hfront data
      freeFunc (m.getBucketIndex key) (rest + 1) none
    rw [Nat.add_assoc, Nat.add_comm front.length, hskip, Option.or_none]
    exact setLoop_found (hlive a (by simp)) hmatch data freeFunc hprev rest
  rw [← hi] at hhead hloop
  have hset : ∀ fuel > (chains (m.getBucketIndex key)).length,
      mapSet m.toMapConfig fuel s key data freeFunc alloc =
        some (foundState s a (prevCell (m.getBucketIndex key) front.getLast?) data freeFunc) := by
    intro fuel hfuel
    simp [mapSet, hhead, hloop fuel (hi ▸ hfuel)]
  cases data with
  | some d =>
      refine ⟨_, chains, hset, ?_, ?_⟩
      · simpa [tplUtilMapSet, hes, hlist, foundState] using h.overwrite hi hes₁ he hes₂ d freeFunc
      · simp [foundState, overwritten, tplUtilMapSet, hes, hlist, hcalls]
  | none =>
      refine ⟨_, Function.update chains (m.getBucketIndex key) (front ++ back), hset, ?_, ?_⟩
      · rw [prevCell_getLast]
        simpa [tplUtilMapSet, hes, hlist, foundState] using h.delete hi hes₁ hes₂
      · simp [foundState, deleted, tplUtilMapSet, hes, hlist, hcalls]

theorem Refines.set (h : Refines s chains m) {alloc : Option Addr}
    (hfresh : ∀ a, alloc = some a → s.allocated a = false) (key : Key) (data : Option Data)
    (freeFunc : Option FreeFunc) :
    ∃ s' chains', (∀ fuel > (chains (m.getBucketIndex key)).length,
        mapSet m.toMapConfig fuel s key data freeFunc alloc = some s') ∧
      Refines s' chains' (tplUtilMapSet m key data freeFunc alloc.isSome).1 ∧
      s'.freed = s.freed ++ heapCalls (tplUtilMapSet m key data freeFunc alloc.isSome).2 := by
  cases hfind : (chains (m.getBucketIndex key)).find? fun a => m.KeyMatches (s.key a) key with
  | none =>
      refine h.set_new hfresh (fun a ha => ?_) data freeFunc
      simpa using List.find?_eq_none.mp hfind a ha
  | some a =>
      obtain ⟨hmatch, front, back, hi, hfront⟩ := List.find?_eq_some_iff_append.mp hfind
      refine h.set_found hi (fun b hb => ?_) (by simpa using hmatch) data freeFunc alloc
      simpa using hfront b hb

def freedAll (s : MapHeap Key Data FreeFunc Addr) (as : List Addr) : MapHeap Key Data FreeFunc Addr :=
  { s with
    allocated := fun a => if a ∈ as then false else s.allocated a
    freed := s.freed ++ as.flatMap s.calls }

theorem freedAll_freedAll (s : MapHeap Key Data FreeFunc Addr) (as bs : List Addr) :
    freedAll (freedAll s as) bs = freedAll s (as ++ bs) := by
  have hallocated : (freedAll (freedAll s as) bs).allocated = (freedAll s (as ++ bs)).allocated := by
    funext a
    by_cases ha : a ∈ as
    · simp [freedAll, ha]
    · simp [freedAll, ha]
  have hfreed : (freedAll (freedAll s as) bs).freed = (freedAll s (as ++ bs)).freed := by
    show (s.freed ++ as.flatMap s.calls) ++ bs.flatMap s.calls = s.freed ++ (as ++ bs).flatMap s.calls
    rw [List.flatMap_append, List.append_assoc]
  show MapHeap.mk s.cells s.key s.data s.freeFunc (freedAll (freedAll s as) bs).allocated
    (freedAll (freedAll s as) bs).freed = _
  rw [hallocated, hfreed]
  rfl

theorem clearChain_eq (cfg : MapConfig Key) {c : Cell Nat Addr} {as : List Addr} (hchain : Chain s.cells c as)
    (hlive : ∀ a ∈ as, s.allocated a = true) (hnodup : as.Nodup) {fuel : Nat}
    (hfuel : as.length < fuel) : clearChain cfg fuel as.head? s = some (freedAll s as) := by
  induction as generalizing s c fuel with
  | nil =>
      obtain ⟨fuel, rfl⟩ := Nat.exists_eq_add_one.mpr hfuel
      simp [clearChain, freedAll]
  | cons a as ih =>
      obtain ⟨fuel, rfl⟩ := Nat.exists_eq_add_one.mpr (Nat.zero_lt_of_lt hfuel)
      obtain ⟨hnew, hnodup⟩ := List.nodup_cons.mp hnodup
      have ha := hlive a List.mem_cons_self
      have hnext : s.readCell cfg (.next a) = some as.head? := by
        rw [MapHeap.readCell, MapHeap.live, if_pos ha]
        exact congrArg some hchain.2.head_eq
      have hone : (do
          let s ← s.callFree a
          s.freeEntry a) = some (freedAll s [a]) := by
        have hallocated : Function.update s.allocated a false =
            fun b => if b ∈ [a] then false else s.allocated b := by
          funext b
          simp [Function.update_apply]
        simp [MapHeap.callFree, MapHeap.freeEntry, ha, freedAll, hallocated]
      obtain ⟨s₁, hcall, hfree⟩ := Option.bind_eq_some_iff.mp hone
      have hrest := ih (s := freedAll s [a]) (c := .next a) hchain.2 (fun b hb => ?_) hnodup
        (Nat.lt_of_succ_lt_succ hfuel)
      · rw [freedAll_freedAll] at hrest
        simp [clearChain, hnext, hcall, hfree, hrest]
      · have hne : b ≠ a := by
          rintro rfl
          exact hnew hb
        simpa [freedAll, hne] using hlive b (List.mem_cons_of_mem _ hb)

theorem clearBuckets_eq (hlinked : Chains s.cells chains) {buckets : List Nat}
    (hlive : ∀ i ∈ buckets, ∀ a ∈ chains i, s.allocated a = true) (hnodup : buckets.Nodup)
    (hbound : ∀ i ∈ buckets, i < cfg.bucketSize.toNat) {fuel : Nat}
    (hfuel : ∀ i ∈ buckets, (chains i).length < fuel) :
    clearBuckets cfg fuel buckets s = some (freedAll s (buckets.flatMap chains)) := by
  induction buckets generalizing s with
  | nil => simp [clearBuckets, freedAll]
  | cons i buckets ih =>
      obtain ⟨hi, hnodup⟩ := List.nodup_cons.mp hnodup
      have hhead : s.readCell cfg (.head i) = some (chains i).head? := by
        rw [MapHeap.readCell, MapHeap.live, if_pos (by simpa using hbound i List.mem_cons_self)]
        exact congrArg some (hlinked.chain i).head_eq
      have hchain := clearChain_eq cfg (hlinked.chain i) (hlive i List.mem_cons_self)
        (hlinked.nodup i) (hfuel i List.mem_cons_self)
      have hrest := ih (s := freedAll s (chains i)) hlinked (fun j hj a ha => ?_) hnodup
        (fun j hj => hbound j (List.mem_cons_of_mem _ hj))
        (fun j hj => hfuel j (List.mem_cons_of_mem _ hj))
      · rw [freedAll_freedAll, ← List.flatMap_cons] at hrest
        simp [clearBuckets, hhead, hchain, hrest]
      · have hai : a ∉ chains i := by
          intro hai
          obtain rfl := hlinked.disjoint ha hai
          exact hi hj
        simpa [freedAll, hai] using hlive j (List.mem_cons_of_mem _ hj) a ha

omit [DecidableEq Addr] in
theorem flatMap_calls {as : List Addr} {es : List (MapEntry Key Data FreeFunc)}
    (h : as.map (heapEntry s) = es.map listEntry) :
    as.flatMap s.calls = heapCalls (es.flatMap freeData) := by
  induction as generalizing es with
  | nil =>
      obtain rfl := List.map_eq_nil_iff.mp h.symm
      rfl
  | cons a as ih =>
      obtain ⟨e, es, rfl, hentry, hrest⟩ := List.map_eq_cons_iff.mp h.symm
      rw [List.flatMap_cons, List.flatMap_cons, calls_eq hentry.symm, ih hrest.symm]
      simp [heapCalls]

omit [DecidableEq Addr] in
theorem Refines.calls_all (h : Refines s chains m) :
    ((List.range m.bucketSize.toNat).flatMap chains).flatMap s.calls = heapCalls (owed m) := by
  have hmap : ((List.range m.bucketSize.toNat).flatMap chains).map (heapEntry s) =
      (MapOwnership.entries m).map listEntry := by
    rw [MapOwnership.entries, List.map_flatMap, List.map_flatMap]
    exact List.flatMap_congr fun i _ => h.entries i
  exact flatMap_calls hmap

def clearedChains (cfg : MapConfig Key) (chains : Nat → List Addr) : Nat → List Addr :=
  fun i => if i < cfg.bucketSize.toNat then [] else chains i

def clearedState (cfg : MapConfig Key) (s : MapHeap Key Data FreeFunc Addr)
    (chains : Nat → List Addr) : MapHeap Key Data FreeFunc Addr :=
  { freedAll s ((List.range cfg.bucketSize.toNat).flatMap chains) with
    cells := fun
      | .head i => if i < cfg.bucketSize.toNat then none else s.cells (.head i)
      | .next a => s.cells (.next a) }

/-- `tpl_util_map_clear` frees every entry, and makes the free calls in the order of the buckets. -/
theorem Refines.clear (h : Refines s chains m) :
    ∃ s', (∀ fuel > (((List.range m.bucketSize.toNat).flatMap chains)).length,
        mapClear m.toMapConfig fuel s = some s') ∧
      Refines s' (clearedChains m.toMapConfig chains) (tplUtilMapClear m).1 ∧
      s'.freed = s.freed ++ heapCalls (tplUtilMapClear m).2 := by
  have hloop : ∀ fuel > (((List.range m.bucketSize.toNat).flatMap chains)).length,
      clearBuckets m.toMapConfig fuel (List.range m.bucketSize.toNat) s =
        some (freedAll s ((List.range m.bucketSize.toNat).flatMap chains)) := by
    intro fuel hfuel
    refine clearBuckets_eq h.linked (fun i _ => h.live i) List.nodup_range
      (fun i hi => List.mem_range.mp hi) fun i hi => ?_
    have hsub : (chains i).Sublist ((List.range m.bucketSize.toNat).flatMap chains) :=
      List.sublist_flatten_of_mem (List.mem_map_of_mem hi)
    exact Nat.lt_of_le_of_lt hsub.length_le hfuel
  have hmem : ∀ {i a}, a ∈ clearedChains m.toMapConfig chains i →
      a ∈ chains i ∧ ¬ i < m.bucketSize.toNat := by
    intro i a ha
    by_cases hi : i < m.bucketSize.toNat
    · rw [clearedChains, if_pos hi] at ha
      cases ha
    · rw [clearedChains, if_neg hi] at ha
      exact ⟨ha, hi⟩
  refine ⟨clearedState m.toMapConfig s chains, fun fuel hfuel => ?_, ⟨⟨fun i => ?_, fun i => ?_, ?_⟩,
    fun i a ha => ?_, fun i => ?_⟩, ?_⟩
  · simp [mapClear, hloop fuel hfuel, clearedState, freedAll]
  · by_cases hi : i < m.bucketSize.toNat
    · rw [clearedChains, if_pos hi]
      exact if_pos hi
    · rw [clearedChains, if_neg hi]
      exact (h.linked.chain i).congr (if_neg hi) fun _ _ => rfl
  · by_cases hi : i < m.bucketSize.toNat
    · rw [clearedChains, if_pos hi]
      exact List.nodup_nil
    · rw [clearedChains, if_neg hi]
      exact h.linked.nodup i
  · exact fun ha hb => h.linked.disjoint (hmem ha).1 (hmem hb).1
  · obtain ⟨ha, hi⟩ := hmem ha
    have hother : a ∉ (List.range m.bucketSize.toNat).flatMap chains := by
      intro hcontra
      obtain ⟨j, hj, haj⟩ := List.mem_flatMap.mp hcontra
      obtain rfl := h.linked.disjoint ha haj
      exact hi (List.mem_range.mp hj)
    show (if a ∈ (List.range m.bucketSize.toNat).flatMap chains then false else s.allocated a) = true
    rw [if_neg hother]
    exact h.live i a ha
  · show (clearedChains m.toMapConfig chains i).map (heapEntry s) =
      ((tplUtilMapClear m).1.buckets i).map listEntry
    by_cases hi : i < m.bucketSize.toNat
    · simp [clearedChains, tplUtilMapClear, hi]
    · simp [clearedChains, tplUtilMapClear, hi, h.entries i]
  · show s.freed ++ ((List.range m.bucketSize.toNat).flatMap chains).flatMap s.calls = _
    rw [h.calls_all, clear_freed]

end

end LibtplEgl.UtilMapHeap
