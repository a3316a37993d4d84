import LibtplEgl.CellChain
import LibtplEgl.TplTypes
import Mathlib.Data.List.FinRange

namespace LibtplEgl.HashList

open LibtplEgl.CellChain
open LibtplEgl.TplTypes

def hashHeadBits : Nat := 8

def numOfHeads : Nat := 1 <<< hashHeadBits

/-- `CALC_HASH`: it reads the low 32 bits of the key. -/
def calcHash {w : Nat} (key : BitVec w) : BitVec 32 :=
  (key.setWidth 32 * 0x9e406cb5#32) >>> (32 - hashHeadBits)

theorem calcHash_lt {w : Nat} (key : BitVec w) : (calcHash key).toNat < numOfHeads := by
  have hlt := (key.setWidth 32 * 0x9e406cb5#32).isLt
  rw [calcHash, BitVec.toNat_ushiftRight, Nat.shiftRight_eq_div_pow]
  exact Nat.div_lt_of_lt_mul hlt

abbrev HeadIndex := Fin numOfHeads

/-- The index of `list->heads` for a key. -/
def headOf {w : Nat} (key : BitVec w) : HeadIndex := ⟨(calcHash key).toNat, calcHash_lt key⟩

/-- A `tpl_hlist_t` and the heap of its nodes: the cells are the `first` of each head and the
`next` of each node. -/
structure HashState (w : Nat) (Addr Data : Type) where
  cells : Cells HeadIndex Addr
  pprev : Addr → Option (Cell HeadIndex Addr)
  key : Addr → BitVec w
  data : Addr → Option Data
  allocated : Addr → Bool

section

variable {w : Nat} {Addr Data : Type}

namespace HashState

variable (s : HashState w Addr Data)

def live : Cell HeadIndex Addr → Bool
  | .head _ => true
  | .next a => s.allocated a

def readCell (c : Cell HeadIndex Addr) : Option (Option Addr) :=
  if s.live c then some (s.cells c) else none

def readPprev (a : Addr) : Option (Option (Cell HeadIndex Addr)) :=
  if s.allocated a then some (s.pprev a) else none

def readKey (a : Addr) : Option (BitVec w) := if s.allocated a then some (s.key a) else none

def readData (a : Addr) : Option (Option Data) := if s.allocated a then some (s.data a) else none

variable [DecidableEq Addr]

def writeCell (c : Cell HeadIndex Addr) (value : Option Addr) : Option (HashState w Addr Data) :=
  if s.live c then some { s with cells := Function.update s.cells c value } else none

def writePprev (a : Addr) (value : Option (Cell HeadIndex Addr)) : Option (HashState w Addr Data) :=
  if s.allocated a then some { s with pprev := Function.update s.pprev a value } else none

def writeEntry (a : Addr) (key : BitVec w) (data : Option Data) : Option (HashState w Addr Data) :=
  if s.allocated a then
    some { s with key := Function.update s.key a key, data := Function.update s.data a data }
  else none

def malloc (a : Addr) : HashState w Addr Data :=
  { s with allocated := Function.update s.allocated a true }

def free (a : Addr) : HashState w Addr Data :=
  { s with allocated := Function.update s.allocated a false }

end HashState

variable [DecidableEq Addr]

def hlistInitNode (s : HashState w Addr Data) (n : Addr) : Option (HashState w Addr Data) := do
  let s ← s.writeCell (.next n) none
  s.writePprev n none

/-- `if (node) node->pprev = value`. -/
def tellNode (s : HashState w Addr Data) (node : Option Addr) (value : Cell HeadIndex Addr) :
    Option (HashState w Addr Data) :=
  match node with
  | some b => s.writePprev b (some value)
  | none => some s

def hlistDel (s : HashState w Addr Data) (n : Addr) : Option (HashState w Addr Data) := do
  let next ← s.readCell (.next n)
  let pprev ← s.readPprev n
  -- `*pprev` of a null pointer is a fault
  let cell ← pprev
  let s ← s.writeCell cell next
  let s ← tellNode s next cell
  let s ← s.writeCell (.next n) none
  s.writePprev n none

def hlistAddHead (s : HashState w Addr Data) (n : Addr) (h : HeadIndex) :
    Option (HashState w Addr Data) := do
  let first ← s.readCell (.head h)
  let s ← s.writeCell (.next n) first
  let s ← tellNode s first (.next n)
  let s ← s.writeCell (.head h) (some n)
  s.writePprev n (some (.head h))

/-- The loop of `__tpl_hlist_get_node`. -/
def getNodeLoop (s : HashState w Addr Data) (key : BitVec w) :
    Nat → Option Addr → Option (Option Addr)
  | 0, _ => none
  | _ + 1, none => some none
  | fuel + 1, some pos => do
      let posKey ← s.readKey pos
      if posKey = key then some (some pos)
      else getNodeLoop s key fuel (← s.readCell (.next pos))

def hlistGetNode (fuel : Nat) (s : HashState w Addr Data) (key : BitVec w) :
    Option (Option Addr) := do
  getNodeLoop s key fuel (← s.readCell (.head (headOf key)))

/-- `__tpl_hashlist_create`, when both allocations succeed. -/
def hashlistCreate (s : HashState w Addr Data) : HashState w Addr Data :=
  { s with
    cells := fun
      | .head _ => none
      | .next a => s.cells (.next a) }

/-- `__tpl_hashlist_insert`, with the node that `malloc` returns. -/
def hashlistInsert (fuel : Nat) (s : HashState w Addr Data) (key : BitVec w) (data : Option Data)
    (alloc : Option Addr) : Option (TplResult × HashState w Addr Data) := do
  let prevNode ← hlistGetNode fuel s key
  if prevNode.isSome then some (.errorInvalidParameter, s)
  else
    match alloc with
    | none => some (.errorOutOfMemory, s)
    | some newNode => do
        let s ← hlistInitNode (s.malloc newNode) newNode
        let s ← s.writeEntry newNode key data
        let s ← hlistAddHead s newNode (headOf key)
        some (.errorNone, s)

def hashlistDelete (fuel : Nat) (s : HashState w Addr Data) (key : BitVec w) :
    Option (HashState w Addr Data) := do
  match ← hlistGetNode fuel s key with
  | none => some s
  | some node => do
      let s ← hlistDel s node
      if s.allocated node then some (s.free node) else none

/-- The inner loop of `__tpl_hashlist_do_for_all_nodes`: the data of the calls of `cb_func`. -/
def forNodesLoop (s : HashState w Addr Data) : Nat → Option Addr → Option (List (Option Data))
  | 0, _ => none
  | _ + 1, none => some []
  | fuel + 1, some pos => do
      let d ← s.readData pos
      let rest ← forNodesLoop s fuel (← s.readCell (.next pos))
      some (d :: rest)

def forHeadsLoop (fuel : Nat) (s : HashState w Addr Data) :
    List HeadIndex → Option (List (Option Data))
  | [] => some []
  | hidx :: rest => do
      let calls ← forNodesLoop s fuel (← s.readCell (.head hidx))
      let later ← forHeadsLoop fuel s rest
      some (calls ++ later)

/-- `__tpl_hashlist_do_for_all_nodes`, with or without a `cb_func`. -/
def hashlistDoForAllNodes (fuel : Nat) (s : HashState w Addr Data) (cbFunc : Bool) :
    Option (List (Option Data)) :=
  if cbFunc then forHeadsLoop fuel s (List.finRange numOfHeads) else some []

def hashlistLookup (fuel : Nat) (s : HashState w Addr Data) (key : BitVec w) :
    Option (Option Data) := do
  match ← hlistGetNode fuel s key with
  | none => some none
  | some node => s.readData node

end

section

variable {w : Nat} {Addr Data : Type}

/-- A partial map from full keys to data, which may be null pointers. -/
abbrev KeyMap (w : Nat) (Data : Type) := BitVec w → Option (Option Data)

/-- The heads hold chains of nodes, each in the chain of its key and pointing back at the cell
that points to it, and the nodes hold the partial map. -/
structure Refines (s : HashState w Addr Data) (chains : HeadIndex → List Addr)
    (m : KeyMap w Data) : Prop where
  linked : Chains s.cells chains
  backs : Backs s.pprev chains
  bucket : ∀ i, ∀ a ∈ chains i, headOf (s.key a) = i
  keys : ∀ i, ((chains i).map s.key).Nodup
  live : ∀ i, ∀ a ∈ chains i, s.allocated a = true
  content : ∀ k, m k = ((chains (headOf k)).find? fun a => s.key a = k).map s.data

variable {s : HashState w Addr Data} {chains : HeadIndex → List Addr} {m : KeyMap w Data}

theorem getNodeLoop_eq {c : Cell HeadIndex Addr} {as : List Addr} (hchain : Chain s.cells c as)
    (hlive : ∀ a ∈ as, s.allocated a = true) (key : BitVec w) {fuel : Nat}
    (hfuel : as.length < fuel) :
    getNodeLoop s key fuel as.head? = some (as.find? fun a => s.key a = key) := by
  obtain ⟨fuel, rfl⟩ := Nat.exists_eq_add_one.mpr (Nat.zero_lt_of_lt hfuel)
  induction as generalizing c fuel with
  | nil => rfl
  | cons a as ih =>
      have ha := hlive a List.mem_cons_self
      obtain ⟨fuel, rfl⟩ := Nat.exists_eq_add_one.mpr
        (Nat.zero_lt_of_lt (Nat.lt_of_succ_lt_succ hfuel))
      have hloop := ih hchain.2 (fun b hb => hlive b (List.mem_cons_of_mem _ hb)) fuel
        (Nat.lt_of_succ_lt_succ hfuel)
      have hkey : s.readKey a = some (s.key a) := if_pos ha
      have hnext : s.readCell (.next a) = some as.head? := by
        rw [HashState.readCell, HashState.live, if_pos ha, hchain.2.head_eq]
      simp only [List.head?_cons, getNodeLoop, hkey, hnext, Option.bind_eq_bind, Option.bind_some]
      by_cases hk : s.key a = key
      · rw [if_pos hk, List.find?_cons_of_pos (by simpa using hk)]
      · rw [if_neg hk, List.find?_cons_of_neg (by simpa using hk)]
        exact hloop

theorem Refines.getNode (h : Refines s chains m) (key : BitVec w) {fuel : Nat}
    (hfuel : (chains (headOf key)).length < fuel) :
    hlistGetNode fuel s key = some ((chains (headOf key)).find? fun a => s.key a = key) := by
  have hchain := h.linked.chain (headOf key)
  have hhead : s.readCell (.head (headOf key)) = some (chains (headOf key)).head? := by
    rw [← hchain.head_eq]
    rfl
  rw [hlistGetNode, hhead]
  exact getNodeLoop_eq hchain (h.live _) key hfuel

theorem Refines.isSome_iff (h : Refines s chains m) (key : BitVec w) :
    (m key).isSome = ((chains (headOf key)).find? fun a => s.key a = key).isSome := by
  rw [h.content, Option.isSome_map]

theorem Refines.lookup (h : Refines s chains m) (key : BitVec w) {fuel : Nat}
    (hfuel : (chains (headOf key)).length < fuel) :
    hashlistLookup fuel s key = some (m key).join := by
  rw [hashlistLookup, h.getNode key hfuel, h.content]
  cases hfind : (chains (headOf key)).find? fun a => s.key a = key with
  | none => rfl
  | some a =>
      have ha := h.live _ a (List.mem_of_find?_eq_some hfind)
      have hread : s.readData a = some (s.data a) := if_pos ha
      simp [hread]

variable [DecidableEq Addr]

def insertResult (m : KeyMap w Data) (key : BitVec w) (alloc : Option Addr) : TplResult :=
  if (m key).isSome then .errorInvalidParameter
  else if alloc.isSome then .errorNone
  else .errorOutOfMemory

def insertMap (m : KeyMap w Data) (key : BitVec w) (data : Option Data) (alloc : Option Addr) :
    KeyMap w Data :=
  if insertResult m key alloc = .errorNone then Function.update m key (some data) else m

def withNode (s : HashState w Addr Data) (a : Addr) (key : BitVec w) (data : Option Data) :
    HashState w Addr Data where
  cells := push s.cells (headOf key) a
  pprev := Function.update (CellChain.tell s.pprev (s.cells (.head (headOf key))) (.next a)) a
    (some (.head (headOf key)))
  key := Function.update s.key a key
  data := Function.update s.data a data
  allocated := Function.update s.allocated a true

omit [DecidableEq Addr] in
theorem live_mk (cells : Cells HeadIndex Addr) (pprev : Addr → Option (Cell HeadIndex Addr))
    (key : Addr → BitVec w) (data : Addr → Option Data) (c : Cell HeadIndex Addr) :
    HashState.live ⟨cells, pprev, key, data, s.allocated⟩ c = s.live c := by
  cases c with
  | head h | next a => rfl

theorem update_overwritten {β : Type} (f : Addr → β) (a b : Addr) (x y z : β) :
    Function.update (Function.update (Function.update f a x) b y) a z =
      Function.update (Function.update f b y) a z := by
  funext c
  by_cases hca : c = a
  · rw [hca, Function.update_self, Function.update_self]
  · rw [Function.update_of_ne hca, Function.update_of_ne hca]
    by_cases hcb : c = b
    · rw [hcb, Function.update_self, Function.update_self]
    · rw [Function.update_of_ne hcb, Function.update_of_ne hcb, Function.update_of_ne hca]

theorem insertNode_eq (a : Addr) (key : BitVec w) (data : Option Data)
    (hfirst : ∀ b, s.cells (.head (headOf key)) = some b → s.allocated b = true) :
    (do
      let s ← hlistInitNode (s.malloc a) a
      let s ← s.writeEntry a key data
      hlistAddHead s a (headOf key)) = some (withNode s a key data) := by
  cases hcell : s.cells (.head (headOf key)) with
  | none =>
      simp [hlistInitNode, hlistAddHead, tellNode, HashState.writeCell, HashState.writePprev,
        HashState.writeEntry, HashState.readCell, HashState.live, HashState.malloc, hcell,
        withNode, push, CellChain.tell]
  | some b =>
      have hb := hfirst b hcell
      have hlive : Function.update s.allocated a true b = true := by
        by_cases hba : b = a
        · rw [hba, Function.update_self]
        · rw [Function.update_of_ne hba]
          exact hb
      simp [hlistInitNode, hlistAddHead, tellNode, HashState.writeCell, HashState.writePprev,
        HashState.writeEntry, HashState.readCell, HashState.live, HashState.malloc, hcell,
        withNode, push, CellChain.tell, hlive, update_overwritten]

theorem find_update {as : List Addr} {a : Addr} (hne : ∀ b ∈ as, b ≠ a) (key k : BitVec w)
    (data : Option Data) :
    (as.find? fun b => Function.update s.key a key b = k).map (Function.update s.data a data) =
      (as.find? fun b => s.key b = k).map s.data := by
  induction as with
  | nil => rfl
  | cons b as ih =>
      have hb := hne b List.mem_cons_self
      have hkey : Function.update s.key a key b = s.key b := Function.update_of_ne hb _ _
      have hdata : Function.update s.data a data b = s.data b := Function.update_of_ne hb _ _
      rw [List.find?_cons, List.find?_cons, hkey]
      cases decide (s.key b = k) with
      | true => simp only [Option.map_some, hdata]
      | false => exact ih fun d hd => hne d (List.mem_cons_of_mem _ hd)

theorem Refines.insert (h : Refines s chains m) {a : Addr} {key : BitVec w}
    (hfresh : s.allocated a = false) (hkey : m key = none) (data : Option Data) :
    Refines (withNode s a key data)
      (Function.update chains (headOf key) (a :: chains (headOf key)))
      (Function.update m key (some data)) := by
  have hne : ∀ j, ∀ b ∈ chains j, b ≠ a := by
    rintro j b hb rfl
    have hlive := h.live j b hb
    rw [hfresh] at hlive
    cases hlive
  have hnew : ∀ j, a ∉ chains j := fun j ha => hne j a ha rfl
  have hself : (withNode s a key data).key a = key := Function.update_self _ _ _
  have hsame : ∀ j, ∀ b ∈ chains j, (withNode s a key data).key b = s.key b :=
    fun j b hb => Function.update_of_ne (hne j b hb) _ _
  have hfind : ((chains (headOf key)).find? fun b => s.key b = key) = none := by
    rw [← Option.not_isSome_iff_eq_none, ← h.isSome_iff, hkey]
    simp
  refine ⟨h.linked.push _ hnew, h.backs.push h.linked _ hnew, ?_, ?_, ?_, ?_⟩
  · intro i b hb
    rcases mem_push_iff.mp hb with ⟨rfl, rfl⟩ | hb
    · rw [hself]
    · rw [hsame i b hb]
      exact h.bucket i b hb
  · intro i
    by_cases hi : i = headOf key
    · rw [hi, Function.update_self, List.map_cons, hself, List.map_congr_left (hsame _),
        List.nodup_cons]
      refine ⟨fun hmem => ?_, h.keys _⟩
      obtain ⟨b, hb, hbk⟩ := List.mem_map.mp hmem
      exact List.find?_eq_none.mp hfind b hb (by simpa using hbk)
    · rw [Function.update_of_ne hi, List.map_congr_left (hsame _)]
      exact h.keys i
  · intro i b hb
    show Function.update s.allocated a true b = true
    rcases mem_push_iff.mp hb with ⟨-, rfl⟩ | hb
    · exact Function.update_self _ _ _
    · rw [Function.update_of_ne (hne i b hb)]
      exact h.live i b hb
  · intro k
    by_cases hk : k = key
    · subst hk
      rw [Function.update_self, Function.update_self, List.find?_cons_of_pos (by simpa using hself)]
      simp [withNode]
    · have hmap := find_update (s := s) (hne (headOf k)) key k data
      have hskip : ((Function.update chains (headOf key) (a :: chains (headOf key)) (headOf k)).find?
          fun b => (withNode s a key data).key b = k) =
          (chains (headOf k)).find? fun b => (withNode s a key data).key b = k := by
        by_cases hhead : headOf k = headOf key
        · rw [hhead, Function.update_self, List.find?_cons_of_neg]
          rw [hself]
          simpa using Ne.symm hk
        · rw [Function.update_of_ne hhead]
      rw [Function.update_of_ne hk, h.content, hskip]
      exact hmap.symm

def withoutNode (s : HashState w Addr Data) (a : Addr) (c : Cell HeadIndex Addr) :
    HashState w Addr Data :=
  { s with
    cells := Function.update (Function.update s.cells c (s.cells (.next a))) (.next a) none
    pprev := Function.update (CellChain.tell s.pprev (s.cells (.next a)) c) a none
    allocated := Function.update s.allocated a false }

theorem deleteNode_eq {a : Addr} {c : Cell HeadIndex Addr} (ha : s.allocated a = true)
    (hc : s.live c = true) (hpprev : s.pprev a = some c)
    (hnext : ∀ b, s.cells (.next a) = some b → s.allocated b = true) :
    (do
      let s ← hlistDel s a
      if s.allocated a then some (s.free a) else none) = some (withoutNode s a c) := by
  have hself : s.live (.next a) = true := ha
  cases hcell : s.cells (.next a) with
  | none =>
      simp [hlistDel, tellNode, HashState.writeCell, HashState.writePprev, HashState.readPprev,
        HashState.readCell, HashState.free, live_mk, hcell, hself, ha, hc, hpprev, withoutNode,
        CellChain.tell]
  | some b =>
      simp [hlistDel, tellNode, HashState.writeCell, HashState.writePprev, HashState.readPprev,
        HashState.readCell, HashState.free, live_mk, hcell, hself, ha, hc, hpprev, withoutNode,
        CellChain.tell, hnext b hcell]

theorem Refines.delete (h : Refines s chains m) {key : BitVec w} {front back : List Addr} {a : Addr}
    (hi : chains (headOf key) = front ++ a :: back) (hkey : s.key a = key) :
    Refines (withoutNode s a (lastCell (.head (headOf key)) front))
      (Function.update chains (headOf key) (front ++ back)) (Function.update m key none) := by
  have hchain := h.linked.chain (headOf key)
  rw [hi] at hchain
  have hne : ∀ j, ∀ b ∈ Function.update chains (headOf key) (front ++ back) j, b ≠ a :=
    fun j b hb => h.linked.ne_of_remove hi hb
  refine ⟨?_, ?_, ?_, ?_, ?_, ?_⟩
  · refine (h.linked.remove hi).congr (fun j => ?_) fun j b hb => ?_
    · have hcell : (.head j : Cell HeadIndex Addr) ≠ .next a := by simp
      exact Function.update_of_ne hcell none _
    · exact Function.update_of_ne (by simpa using hne j b hb) _ _
  · have hback := h.backs.remove h.linked hi
    rw [← hchain.next_eq] at hback
    exact fun j => (hback j).congr fun b hb => Function.update_of_ne (hne j b hb) _ _
  · exact fun j b hb => h.bucket j b (mem_of_remove hi hb)
  · intro j
    by_cases hj : j = headOf key
    · have hkeys := h.keys j
      rw [hj, hi] at hkeys
      rw [hj, Function.update_self]
      exact hkeys.sublist (((List.sublist_cons_self a back).append_left front).map s.key)
    · rw [Function.update_of_ne hj]
      exact h.keys j
  · intro j b hb
    show Function.update s.allocated a false b = true
    rw [Function.update_of_ne (hne j b hb)]
    exact h.live j b (mem_of_remove hi hb)
  · intro k
    by_cases hk : k = key
    · subst hk
      have hkeys := h.keys (headOf k)
      rw [hi, List.map_append, List.map_cons] at hkeys
      have hnone : ((front ++ back).find? fun b => s.key b = k) = none := by
        rw [List.find?_eq_none]
        intro b hb hbk
        refine (List.nodup_middle.mp hkeys).notMem ?_
        rw [← List.map_append, hkey]
        exact List.mem_map.mpr ⟨b, hb, by simpa using hbk⟩
      rw [Function.update_self, Function.update_self]
      show none = ((front ++ back).find? fun b => s.key b = k).map s.data
      rw [hnone]
      rfl
    · rw [Function.update_of_ne hk, h.content]
      show _ = ((Function.update chains (headOf key) (front ++ back) (headOf k)).find?
        fun b => s.key b = k).map s.data
      by_cases hhead : headOf k = headOf key
      · have hak : ¬ s.key a = k := by
          rw [hkey]
          exact Ne.symm hk
        rw [hhead, Function.update_self, hi, List.find?_append, List.find?_append,
          List.find?_cons_of_neg (by simpa using hak)]
      · rw [Function.update_of_ne hhead]

theorem Refines.insert_refines (h : Refines s chains m) {alloc : Option Addr}
    (hfresh : ∀ a, alloc = some a → s.allocated a = false) (key : BitVec w) (data : Option Data) :
    ∃ s' chains', (∀ fuel > (chains (headOf key)).length,
        hashlistInsert fuel s key data alloc = some (insertResult m key alloc, s')) ∧
      Refines s' chains' (insertMap m key data alloc) ∧
      (insertResult m key alloc ≠ .errorNone → s' = s) := by
  have hnode := h.isSome_iff key
  by_cases hkey : (m key).isSome = true
  · rw [hkey] at hnode
    have hresult : insertResult m key alloc = .errorInvalidParameter := if_pos hkey
    refine ⟨s, chains, fun fuel hfuel => ?_, ?_, fun _ => rfl⟩
    · simp [hashlistInsert, h.getNode key hfuel, ← hnode, hresult]
    · rw [insertMap, hresult, if_neg (by decide)]
      exact h
  · have hnone : m key = none := Option.not_isSome_iff_eq_none.mp hkey
    rw [hnone, Option.isSome_none] at hnode
    cases alloc with
    | none =>
        have hresult : insertResult m key (none : Option Addr) = .errorOutOfMemory := by
          simp [insertResult, hnone]
        refine ⟨s, chains, fun fuel hfuel => ?_, ?_, fun _ => rfl⟩
        · simp [hashlistInsert, h.getNode key hfuel, ← hnode, hresult]
        · rw [insertMap, hresult, if_neg (by decide)]
          exact h
    | some a =>
        have hresult : insertResult m key (some a) = .errorNone := by simp [insertResult, hnone]
        have hfirst : ∀ b, s.cells (.head (headOf key)) = some b → s.allocated b = true := by
          intro b hb
          rw [(h.linked.chain (headOf key)).head_eq] at hb
          exact h.live _ b (List.mem_of_head? hb)
        refine ⟨withNode s a key data, Function.update chains (headOf key) (a :: chains (headOf key)),
          fun fuel hfuel => ?_, ?_, fun hne => absurd hresult hne⟩
        · have hwrites := insertNode_eq a key data hfirst
          obtain ⟨s₁, hinit, hwrites⟩ := Option.bind_eq_some_iff.mp hwrites
          obtain ⟨s₂, hentry, hadd⟩ := Option.bind_eq_some_iff.mp hwrites
          simp [hashlistInsert, h.getNode key hfuel, ← hnode, hresult, hinit, hentry, hadd]
        · rw [insertMap, hresult, if_pos rfl]
          exact h.insert (hfresh a rfl) hnone data

theorem Refines.delete_refines (h : Refines s chains m) (key : BitVec w) :
    ∃ s' chains', (∀ fuel > (chains (headOf key)).length,
        hashlistDelete fuel s key = some s') ∧ Refines s' chains' (Function.update m key none) := by
  cases hfind : (chains (headOf key)).find? fun a => s.key a = key with
  | none =>
      have hnone : m key = none := by
        rw [h.content, hfind]
        rfl
      refine ⟨s, chains, fun fuel hfuel => ?_, ?_⟩
      · rw [hashlistDelete, h.getNode key hfuel, hfind]
        rfl
      · rw [← hnone, Function.update_eq_self]
        exact h
  | some a =>
      have hmem := List.mem_of_find?_eq_some hfind
      have hkey : s.key a = key := by simpa using List.find?_some hfind
      obtain ⟨front, back, hi⟩ := List.append_of_mem hmem
      have hchain := h.linked.chain (headOf key)
      have hback := h.backs (headOf key)
      rw [hi] at hchain hback
      have hlive : s.live (lastCell (.head (headOf key)) front) = true := by
        rcases lastCell_mem (.head (headOf key)) front with hhead | ⟨b, hb, hnext⟩
        · rw [hhead]
          rfl
        · rw [hnext]
          refine h.live (headOf key) b ?_
          rw [hi]
          exact List.mem_append_left _ hb
      have hnext : ∀ b, s.cells (.next a) = some b → s.allocated b = true := by
        intro b hb
        rw [hchain.next_eq] at hb
        refine h.live (headOf key) b ?_
        rw [hi]
        exact List.mem_append_right _ (List.mem_cons_of_mem _ (List.mem_of_head? hb))
      refine ⟨_, _, fun fuel hfuel => ?_, h.delete hi hkey⟩
      rw [hashlistDelete, h.getNode key hfuel, hfind]
      exact deleteNode_eq (h.live _ a hmem) hlive hback.eq_of_split hnext

omit [DecidableEq Addr] in
theorem forNodesLoop_eq {c : Cell HeadIndex Addr} {as : List Addr} (hchain : Chain s.cells c as)
    (hlive : ∀ a ∈ as, s.allocated a = true) {fuel : Nat} (hfuel : as.length < fuel) :
    forNodesLoop s fuel as.head? = some (as.map s.data) := by
  obtain ⟨fuel, rfl⟩ := Nat.exists_eq_add_one.mpr (Nat.zero_lt_of_lt hfuel)
  induction as generalizing c fuel with
  | nil => rfl
  | cons a as ih =>
      have ha := hlive a List.mem_cons_self
      obtain ⟨fuel, rfl⟩ := Nat.exists_eq_add_one.mpr
        (Nat.zero_lt_of_lt (Nat.lt_of_succ_lt_succ hfuel))
      have hloop := ih hchain.2 (fun b hb => hlive b (List.mem_cons_of_mem _ hb)) fuel
        (Nat.lt_of_succ_lt_succ hfuel)
      have hdata : s.readData a = some (s.data a) := if_pos ha
      have hnext : s.readCell (.next a) = some as.head? := by
        rw [HashState.readCell, HashState.live, if_pos ha, hchain.2.head_eq]
      rw [List.head?_cons, forNodesLoop, hdata, hnext]
      simp [hloop]

/-- The nodes in the order in which `__tpl_hashlist_do_for_all_nodes` meets them. -/
def allNodes (chains : HeadIndex → List Addr) : List Addr :=
  (List.finRange numOfHeads).flatMap chains

omit [DecidableEq Addr] in
theorem Refines.forHeadsLoop_eq (h : Refines s chains m) {fuel : Nat} {heads : List HeadIndex}
    (hfuel : ∀ i ∈ heads, (chains i).length < fuel) :
    forHeadsLoop fuel s heads = some ((heads.flatMap chains).map s.data) := by
  induction heads with
  | nil => rfl
  | cons i heads ih =>
      have hchain := h.linked.chain i
      have hread : s.readCell (.head i) = some (chains i).head? := by
        rw [← hchain.head_eq]
        rfl
      have hnodes := forNodesLoop_eq hchain (h.live i) (hfuel i List.mem_cons_self)
      have hlater := ih fun j hj => hfuel j (List.mem_cons_of_mem _ hj)
      rw [forHeadsLoop, hread]
      simp [hnodes, hlater]

omit [DecidableEq Addr] in
theorem Refines.content_of_mem (h : Refines s chains m) {i : HeadIndex} {a : Addr}
    (ha : a ∈ chains i) : m (s.key a) = some (s.data a) := by
  have hi : headOf (s.key a) = i := h.bucket i a ha
  obtain ⟨front, back, hsplit⟩ := List.append_of_mem ha
  have hkeys := h.keys i
  rw [hsplit, List.map_append, List.map_cons] at hkeys
  have hfront : front.find? (fun b => s.key b = s.key a) = none := by
    rw [List.find?_eq_none]
    intro b hb hbk
    refine (List.nodup_middle.mp hkeys).notMem (List.mem_append_left _ ?_)
    exact List.mem_map.mpr ⟨b, hb, by simpa using hbk⟩
  rw [h.content, hi, hsplit, List.find?_append, hfront, List.find?_cons_of_pos (by simp)]
  rfl

omit [DecidableEq Addr] in
theorem Refines.allNodes_keys (h : Refines s chains m) :
    ((allNodes chains).map s.key).Nodup ∧
      (∀ k, k ∈ (allNodes chains).map s.key ↔ (m k).isSome = true) ∧
      (allNodes chains).map s.data = ((allNodes chains).map s.key).map fun k => (m k).join := by
  have hmem : ∀ {a}, a ∈ allNodes chains ↔ ∃ i, a ∈ chains i := by
    intro a
    simp [allNodes]
  refine ⟨?_, fun k => ?_, ?_⟩
  · rw [allNodes, List.map_flatMap, List.nodup_flatMap]
    refine ⟨fun i _ => h.keys i, (List.nodup_finRange numOfHeads).imp fun {i j} hij => ?_⟩
    intro k hi hj
    obtain ⟨a, ha, rfl⟩ := List.mem_map.mp hi
    obtain ⟨b, hb, hkey⟩ := List.mem_map.mp hj
    exact hij ((h.bucket i a ha).symm.trans ((congrArg headOf hkey.symm).trans (h.bucket j b hb)))
  · constructor
    · intro hk
      obtain ⟨a, ha, rfl⟩ := List.mem_map.mp hk
      obtain ⟨i, ha⟩ := hmem.mp ha
      rw [h.content_of_mem ha]
      rfl
    · intro hk
      rw [h.isSome_iff] at hk
      obtain ⟨a, hfind⟩ := Option.isSome_iff_exists.mp hk
      have hkey : s.key a = k := by simpa using List.find?_some hfind
      exact List.mem_map.mpr ⟨a, hmem.mpr ⟨_, List.mem_of_find?_eq_some hfind⟩, hkey⟩
  · rw [List.map_map]
    refine List.map_congr_left fun a ha => ?_
    obtain ⟨i, ha⟩ := hmem.mp ha
    show s.data a = (m (s.key a)).join
    rw [h.content_of_mem ha]
    rfl

end

section

variable {w : Nat} {Addr Data : Type}

/-- A call on the list, with the node that `malloc` returns in it, or what other code allocates
and frees between two calls. -/
inductive Op (w : Nat) (Addr Data : Type)
  | insert (key : BitVec w) (data : Option Data) (alloc : Option Addr)
  | delete (key : BitVec w)
  | lookup (key : BitVec w)
  | doForAllNodes (cbFunc : Bool)
  | elsewhere (allocated : Addr → Bool)

inductive Reply (Data : Type)
  | void
  | result (r : TplResult)
  | data (d : Option Data)
  | calls (ds : List (Option Data))
  deriving DecidableEq, Repr

def mapAfter (m : KeyMap w Data) : Op w Addr Data → KeyMap w Data
  | .insert key data alloc => insertMap m key data alloc
  | .delete key => Function.update m key none
  | _ => m

/-- What the partial map says of the reply of a call. -/
def Answers (m : KeyMap w Data) (op : Op w Addr Data) (reply : Reply Data) : Prop :=
  match op with
  | .insert key _ alloc => reply = .result (insertResult m key alloc)
  | .lookup key => reply = .data (m key).join
  | .doForAllNodes true =>
      ∃ keys : List (BitVec w), keys.Nodup ∧ (∀ k, k ∈ keys ↔ (m k).isSome = true) ∧
        reply = .calls (keys.map fun k => (m k).join)
  | .doForAllNodes false => reply = .calls []
  | _ => reply = .void

def Refused (m : KeyMap w Data) : Op w Addr Data → Prop
  | .insert key _ alloc => insertResult m key alloc ≠ .errorNone
  | _ => False

/-- The heap is sound and holds the map: the chains of the heads are finite and share no node,
each node is in the chain of its key, and its `pprev` is a cell that points to it. -/
def Sound (s : HashState w Addr Data) (m : KeyMap w Data) : Prop :=
  ∃ chains, Refines s chains m ∧
    ∀ i, ∀ a ∈ chains i, (calcHash (s.key a)).toNat = i ∧
      ∃ c, s.pprev a = some c ∧ s.cells c = some a

theorem Refines.sound {s : HashState w Addr Data} {chains : HeadIndex → List Addr}
    {m : KeyMap w Data} (h : Refines s chains m) : Sound s m :=
  ⟨chains, h, fun i a ha => ⟨congrArg Fin.val (h.bucket i a ha),
    (h.backs i).points (h.linked.chain i) ha⟩⟩

def Listed (s : HashState w Addr Data) (a : Addr) : Prop :=
  ∃ i as, Chain s.cells (.head i) as ∧ a ∈ as

/-- `malloc` returns memory that is not in use, and other code frees no node of the list. -/
def Permitted (s : HashState w Addr Data) : Op w Addr Data → Prop
  | .insert _ _ alloc => ∀ a, alloc = some a → s.allocated a = false
  | .elsewhere allocated => ∀ a, Listed s a → allocated a = true
  | _ => True

variable [DecidableEq Addr]

def step (fuel : Nat) (s : HashState w Addr Data) :
    Op w Addr Data → Option (Reply Data × HashState w Addr Data)
  | .insert key data alloc =>
      (hashlistInsert fuel s key data alloc).map fun out => (.result out.1, out.2)
  | .delete key => (hashlistDelete fuel s key).map fun s => (.void, s)
  | .lookup key => (hashlistLookup fuel s key).map fun d => (.data d, s)
  | .doForAllNodes cbFunc => (hashlistDoForAllNodes fuel s cbFunc).map fun ds => (.calls ds, s)
  | .elsewhere allocated => some (.void, { s with allocated := allocated })

def run (fuel : Nat) : HashState w Addr Data → List (Op w Addr Data) →
    Option (List (Reply Data × HashState w Addr Data))
  | _, [] => some []
  | s, op :: ops => do
      let out ← step fuel s op
      let rest ← run fuel out.2 ops
      some (out :: rest)

def PermittedRun : HashState w Addr Data → List (Op w Addr Data) → Prop
  | _, [] => True
  | s, op :: ops =>
      Permitted s op ∧ ∀ fuel reply s', step fuel s op = some (reply, s') → PermittedRun s' ops

/-- Every call of a run answers as the partial map does and leaves a sound heap that holds the
map after it; a refused insertion leaves the heap as it was. -/
def Explains : HashState w Addr Data → KeyMap w Data → List (Op w Addr Data) →
    List (Reply Data × HashState w Addr Data) → Prop
  | _, _, [], [] => True
  | s, m, op :: ops, (reply, s') :: rest =>
      Answers m op reply ∧ Sound s' (mapAfter m op) ∧ (Refused m op → s' = s) ∧
        Explains s' (mapAfter m op) ops rest
  | _, _, _, _ => False

variable {s : HashState w Addr Data} {chains : HeadIndex → List Addr} {m : KeyMap w Data}

/-- A permitted call ends, answers as the map does, and keeps the chains. -/
theorem step_refines (h : Refines s chains m) {op : Op w Addr Data} (hop : Permitted s op) :
    ∃ n reply s' chains', (∀ fuel ≥ n, step fuel s op = some (reply, s')) ∧ Answers m op reply ∧
      Refines s' chains' (mapAfter m op) ∧ (Refused m op → s' = s) := by
  cases op with
  | insert key data alloc =>
      obtain ⟨s', chains', hinsert, hrefines, hsame⟩ := h.insert_refines hop key data
      refine ⟨(chains (headOf key)).length + 1, _, s', chains', fun fuel hfuel => ?_, rfl, hrefines,
        hsame⟩
      simp [step, hinsert fuel hfuel]
  | delete key =>
      obtain ⟨s', chains', hdelete, hrefines⟩ := h.delete_refines key
      refine ⟨(chains (headOf key)).length + 1, .void, s', chains', fun fuel hfuel => ?_, rfl,
        hrefines, False.elim⟩
      simp [step, hdelete fuel hfuel]
  | lookup key =>
      refine ⟨(chains (headOf key)).length + 1, _, s, chains, fun fuel hfuel => ?_, rfl, h,
        False.elim⟩
      simp [step, h.lookup key hfuel]
  | doForAllNodes cbFunc =>
      cases cbFunc with
      | false => exact ⟨0, .calls [], s, chains, fun fuel _ => rfl, rfl, h, False.elim⟩
      | true =>
          obtain ⟨hnodup, hkeys, hdata⟩ := h.allNodes_keys
          refine ⟨(allNodes chains).length + 1, _, s, chains, fun fuel hfuel => ?_,
            ⟨_, hnodup, hkeys, rfl⟩, h, False.elim⟩
          have hlength : ∀ i ∈ List.finRange numOfHeads, (chains i).length < fuel := by
            intro i hi
            have hsub : (chains i).Sublist (allNodes chains) :=
              List.sublist_flatten_of_mem (List.mem_map_of_mem hi)
            exact lt_of_le_of_lt hsub.length_le hfuel
          have hloop := h.forHeadsLoop_eq hlength
          rw [← allNodes, hdata] at hloop
          simp [step, hashlistDoForAllNodes, hloop]
  | elsewhere allocated =>
      refine ⟨0, .void, _, chains, fun fuel _ => rfl, rfl, ?_, False.elim⟩
      exact ⟨h.linked, h.backs, h.bucket, h.keys, fun i a ha => hop a ⟨i, _, h.linked.chain i, ha⟩,
        h.content⟩

theorem run_from (h : Refines s chains m) {ops : List (Op w Addr Data)}
    (hops : PermittedRun s ops) :
    ∃ n trace, (∀ fuel ≥ n, run fuel s ops = some trace) ∧ Explains s m ops trace := by
  induction ops generalizing s chains m with
  | nil => exact ⟨0, [], fun fuel _ => rfl, trivial⟩
  | cons op ops ih =>
      obtain ⟨hop, hrest⟩ := hops
      obtain ⟨n₁, reply, s', chains', hstep, hanswers, hrefines, hsame⟩ := step_refines h hop
      obtain ⟨n₂, trace, hrun, hexplains⟩ := ih hrefines (hrest _ _ _ (hstep n₁ (le_refl _)))
      refine ⟨max n₁ n₂, (reply, s') :: trace, fun fuel hfuel => ?_, hanswers, hrefines.sound, hsame,
        hexplains⟩
      have hfirst := hstep fuel (le_trans (le_max_left _ _) hfuel)
      have hlater := hrun fuel (le_trans (le_max_right _ _) hfuel)
      simp [run, hfirst, hlater]

omit [DecidableEq Addr] in
theorem hashlistCreate_refines (s : HashState w Addr Data) :
    Refines (hashlistCreate s) (fun _ => []) fun _ => none :=
  ⟨chains_empty fun _ => rfl, fun _ => trivial, by simp, by simp, by simp, by simp⟩

/-- From `__tpl_hashlist_create`, every run of permitted calls ends, and behaves as a finite
partial map from full keys. -/
theorem hashList_explained (s₀ : HashState w Addr Data) {ops : List (Op w Addr Data)}
    (hops : PermittedRun (hashlistCreate s₀) ops) :
    ∃ n trace, (∀ fuel ≥ n, run fuel (hashlistCreate s₀) ops = some trace) ∧
      Explains (hashlistCreate s₀) (fun _ => none) ops trace :=
  run_from (hashlistCreate_refines s₀) hops

end

def exampleState : HashState 64 Nat Nat where
  cells := fun _ => some 9
  pprev := fun _ => none
  key := fun _ => 0
  data := fun _ => none
  allocated := fun _ => false

def exampleOps : List (Op 64 Nat Nat) :=
  [.insert 5 (some 50) (some 1), .insert 5 (some 60) none, .lookup 5, .delete 5,
    .doForAllNodes true]

theorem hashList_explained_example :
    ∃ n trace, (∀ fuel ≥ n, run fuel (hashlistCreate exampleState) exampleOps = some trace) ∧
      Explains (hashlistCreate exampleState) (fun _ => none) exampleOps trace := by
  refine hashList_explained exampleState ⟨fun a _ => rfl, fun _ _ _ _ => ⟨?_, fun _ _ _ _ => ?_⟩⟩
  · intro a h
    cases h
  · exact ⟨trivial, fun _ _ _ _ => ⟨trivial, fun _ _ _ _ => ⟨trivial, fun _ _ _ _ => trivial⟩⟩⟩

end LibtplEgl.HashList
