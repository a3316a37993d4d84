import LibtplEgl.TplList
import LibtplEgl.TplTypes
import Mathlib.Data.List.Nodup

namespace LibtplEgl.ListOperations

open LibtplEgl.DoublyLinked
open LibtplEgl.TplList
open LibtplEgl.TplTypes

universe u

/-- `enum _tpl_occurrence`. -/
inductive TplOccurrence
  | first
  | last
  | all
  deriving DecidableEq, Repr

/-- The heap with the `list` field of every node, and the data that a free function has
been called with. -/
structure ListState (Addr Data ListAddr : Type u) where
  heap : ListHeap Addr Data
  list : NodeRef Addr → Option ListAddr
  freed : List Data

section

variable {Addr Data ListAddr : Type u}

namespace ListState

def live (s : ListState Addr Data ListAddr) : NodeRef Addr → Bool
  | .cell a => s.heap.allocated a
  | .head | .tail => true

/-- `node->next`, which every caller asserts not to be `NULL`. -/
def next (s : ListState Addr Data ListAddr) (node : NodeRef Addr) : Option (NodeRef Addr) :=
  if s.live node then s.heap.links.next node else none

/-- `node->prev`, which every caller asserts not to be `NULL`. -/
def prev (s : ListState Addr Data ListAddr) (node : NodeRef Addr) : Option (NodeRef Addr) :=
  if s.live node then s.heap.links.prev node else none

def data (s : ListState Addr Data ListAddr) (node : NodeRef Addr) : Option Data :=
  if s.live node then s.heap.data node else none

/-- `node->list`, which every caller dereferences. -/
def getList (s : ListState Addr Data ListAddr) (node : NodeRef Addr) : Option ListAddr :=
  if s.live node then s.list node else none

def withFreed (s : ListState Addr Data ListAddr) (d : Data) : ListState Addr Data ListAddr :=
  { s with freed := s.freed ++ [d] }

def callFree (s : ListState Addr Data ListAddr) (node : NodeRef Addr) (func : Bool) :
    Option (ListState Addr Data ListAddr) :=
  if func then (s.data node).map s.withFreed else some s

variable [DecidableEq Addr]

def withLinks (s : ListState Addr Data ListAddr) (links : Links (NodeRef Addr)) :
    ListState Addr Data ListAddr :=
  { s with heap := { s.heap with links := links } }

def setNext (s : ListState Addr Data ListAddr) (node value : NodeRef Addr) :
    Option (ListState Addr Data ListAddr) :=
  if s.live node then some (s.withLinks (s.heap.links.setNext node (some value))) else none

def setPrev (s : ListState Addr Data ListAddr) (node value : NodeRef Addr) :
    Option (ListState Addr Data ListAddr) :=
  if s.live node then some (s.withLinks (s.heap.links.setPrev node (some value))) else none

/-- `malloc` of a node, and the writes to its `data` and `list`. -/
def newNode (s : ListState Addr Data ListAddr) (a : Addr) (d : Data) (list : ListAddr) :
    ListState Addr Data ListAddr :=
  { s with
    heap := { s.heap.malloc a with data := Function.update s.heap.data (.cell a) (some d) }
    list := Function.update s.list (.cell a) (some list) }

def freeNode (s : ListState Addr Data ListAddr) :
    NodeRef Addr → Option (ListState Addr Data ListAddr)
  | .cell a => if s.heap.allocated a then some { s with heap := s.heap.free a } else none
  | .head | .tail => none

def withCount (s : ListState Addr Data ListAddr) (n : Int) : ListState Addr Data ListAddr :=
  { s with heap := { s.heap with count := n } }

/-- `node->list->count += n`, for the list at `l`. -/
def addCount [DecidableEq ListAddr] (l : ListAddr) (s : ListState Addr Data ListAddr)
    (node : NodeRef Addr) (n : Int) : Option (ListState Addr Data ListAddr) :=
  if s.getList node = some l then some (s.withCount (s.heap.count + n)) else none

end ListState

variable [DecidableEq Addr]

/-- `__tpl_list_init` of the list at `l`. -/
def listInit (l : ListAddr) (s : ListState Addr Data ListAddr) :
    ListState Addr Data ListAddr where
  heap := { s.heap with
    links := (((s.heap.links.setPrev .head none).setNext .head (some .tail)).setPrev .tail
      (some .head)).setNext .tail none
    count := 0 }
  list := Function.update (Function.update s.list .head (some l)) .tail (some l)
  freed := s.freed

variable [DecidableEq ListAddr] (l : ListAddr)

def listRemove (s : ListState Addr Data ListAddr) (node : NodeRef Addr) (func : Bool) :
    Option (ListState Addr Data ListAddr) := do
  let pred ← s.prev node
  let succ ← s.next node
  let s ← s.setNext pred succ
  let succ ← s.next node
  let pred ← s.prev node
  let s ← s.setPrev succ pred
  let s ← s.callFree node func
  let s ← s.addCount l node (-1)
  s.freeNode node

/-- `__tpl_list_insert`, with the node that `malloc` returns. -/
def listInsert (s : ListState Addr Data ListAddr) (pos : NodeRef Addr) (d : Data) :
    Option Addr → Option (TplResult × ListState Addr Data ListAddr)
  | none => some (.errorOutOfMemory, s)
  | some a => do
      let list ← s.getList pos
      let s := s.newNode a d list
      let succ ← s.next pos
      let s ← s.setPrev succ (.cell a)
      let succ ← s.next pos
      let s ← s.setNext (.cell a) succ
      let s ← s.setNext pos (.cell a)
      let s ← s.setPrev (.cell a) pos
      let s ← s.addCount l pos 1
      some (.errorNone, s)

def finiLoop (func : Bool) : Nat → ListState Addr Data ListAddr → NodeRef Addr →
    Option (ListState Addr Data ListAddr)
  | 0, _, _ => none
  | fuel + 1, s, node =>
      if node = .tail then some s
      else do
        let succ ← s.next node
        let s ← s.callFree node func
        let s ← s.freeNode node
        finiLoop func fuel s succ

def listFini (fuel : Nat) (s : ListState Addr Data ListAddr) (func : Bool) :
    Option (ListState Addr Data ListAddr) := do
  let node ← s.next .head
  let s ← finiLoop func fuel s node
  some (listInit l s)

def listPushFront (s : ListState Addr Data ListAddr) (d : Data) (alloc : Option Addr) :
    Option (ListState Addr Data ListAddr) :=
  (listInsert l s .head d alloc).map Prod.snd

def listPushBack (s : ListState Addr Data ListAddr) (d : Data) (alloc : Option Addr) :
    Option (TplResult × ListState Addr Data ListAddr) := do
  let pos ← s.prev .tail
  listInsert l s pos d alloc

def listPopFront (s : ListState Addr Data ListAddr) (func : Bool) :
    Option (Option Data × ListState Addr Data ListAddr) :=
  if s.heap.count = 0 then some (none, s)
  else do
    let node ← s.next .head
    let d ← s.data node
    let s ← listRemove l s node func
    some (some d, s)

def listPopBack (s : ListState Addr Data ListAddr) (func : Bool) :
    Option (Option Data × ListState Addr Data ListAddr) :=
  if s.heap.count = 0 then some (none, s)
  else do
    let node ← s.prev .tail
    let d ← s.data node
    let s ← listRemove l s node func
    some (some d, s)

variable [DecidableEq Data]

/-- The loop of `__tpl_list_remove_data` for `TPL_FIRST`. -/
def removeFirstLoop (d : Data) (func : Bool) : Nat → ListState Addr Data ListAddr →
    NodeRef Addr → Option (ListState Addr Data ListAddr)
  | 0, _, _ => none
  | fuel + 1, s, node =>
      if node = .tail then some s
      else do
        let succ ← s.next node
        let x ← s.data node
        if x = d then listRemove l s node func
        else removeFirstLoop d func fuel s succ

/-- The loop for `TPL_LAST`, which goes backwards. -/
def removeLastLoop (d : Data) (func : Bool) : Nat → ListState Addr Data ListAddr →
    NodeRef Addr → Option (ListState Addr Data ListAddr)
  | 0, _, _ => none
  | fuel + 1, s, node =>
      if node = .head then some s
      else do
        let pred ← s.prev node
        let x ← s.data node
        if x = d then listRemove l s node func
        else removeLastLoop d func fuel s pred

/-- The loop for `TPL_ALL`, which goes on after a node that it removes. -/
def removeAllLoop (d : Data) (func : Bool) : Nat → ListState Addr Data ListAddr →
    NodeRef Addr → Option (ListState Addr Data ListAddr)
  | 0, _, _ => none
  | fuel + 1, s, node =>
      if node = .tail then some s
      else do
        let succ ← s.next node
        let x ← s.data node
        if x = d then do
          let s ← listRemove l s node func
          removeAllLoop d func fuel s succ
        else removeAllLoop d func fuel s succ

def listRemoveData (fuel : Nat) (s : ListState Addr Data ListAddr) (d : Data)
    (occurrence : TplOccurrence) (func : Bool) : Option (ListState Addr Data ListAddr) :=
  match occurrence with
  | .first => do removeFirstLoop l d func fuel s (← s.next .head)
  | .last => do removeLastLoop l d func fuel s (← s.prev .tail)
  | .all => do removeAllLoop l d func fuel s (← s.next .head)

end

section

variable {Addr Data ListAddr : Type u}

/-- A plain list: the nodes in their order, with their data. -/
abbrev Cells (Addr Data : Type u) := List (Addr × Data)

def refs (xs : Cells Addr Data) : List (NodeRef Addr) := xs.map fun x => .cell x.1

def lastRef (front : Cells Addr Data) : NodeRef Addr := (refs front).getLastD .head

def firstRef (back : Cells Addr Data) : NodeRef Addr := (refs back).headD .tail

/-- A plain list without the first, the last or all of the equal data, and what is taken out. -/
def removeData [DecidableEq Data] (d : Data) (occurrence : TplOccurrence) (xs : Cells Addr Data) :
    Cells Addr Data × List Data :=
  match occurrence with
  | .first =>
      (xs.eraseP fun x => x.2 = d, ((xs.find? fun x => x.2 = d).map Prod.snd).toList)
  | .last =>
      ((xs.reverse.eraseP fun x => x.2 = d).reverse,
        ((xs.reverse.find? fun x => x.2 = d).map Prod.snd).toList)
  | .all => (xs.filter fun x => x.2 ≠ d, (xs.filter fun x => x.2 = d).map Prod.snd)

/-- The heap holds the plain list, and its nodes know the list they are in. -/
structure Refines (l : ListAddr) (s : ListState Addr Data ListAddr) (xs : Cells Addr Data) :
    Prop where
  represents : Represents s.heap (xs.map Prod.fst) (xs.map Prod.snd)
  head : s.list .head = some l
  tail : s.list .tail = some l
  cells : ∀ x ∈ xs, s.list (.cell x.1) = some l

variable {l : ListAddr} {s : ListState Addr Data ListAddr}

theorem exists_refs_front (front : Cells Addr Data) :
    ∃ before, (.head :: refs front : List (NodeRef Addr)) = before ++ [lastRef front] := by
  rcases List.eq_nil_or_concat' front with rfl | ⟨init, x, rfl⟩
  · exact ⟨[], rfl⟩
  · exact ⟨.head :: refs init, by simp [refs, lastRef]⟩

theorem exists_refs_back (back : Cells Addr Data) :
    ∃ after, (refs back ++ [.tail] : List (NodeRef Addr)) = firstRef back :: after := by
  cases back with
  | nil => exact ⟨[], rfl⟩
  | cons x back => exact ⟨refs back ++ [.tail], rfl⟩

theorem Refines.path {xs : Cells Addr Data} (h : Refines l s xs) :
    s.heap.links.Path (.head :: refs xs ++ [.tail]) := by
  have hpath := h.represents.path
  rw [List.map_map] at hpath
  exact hpath

theorem refs_cut {front back : Cells Addr Data} {before after : List (NodeRef Addr)}
    (hfront : .head :: refs front = before ++ [lastRef front])
    (hback : refs back ++ [.tail] = firstRef back :: after) :
    .head :: refs (front ++ back) ++ [.tail] =
      before ++ lastRef front :: firstRef back :: after := by
  rw [refs, List.map_append, ← List.cons_append, List.append_assoc]
  change (.head :: refs front) ++ (refs back ++ [.tail]) = _
  rw [hfront, hback, List.append_assoc]
  rfl

theorem Refines.path_split {front back : Cells Addr Data} (h : Refines l s (front ++ back)) :
    ∃ before after : List (NodeRef Addr),
      .head :: refs front = before ++ [lastRef front] ∧
      refs back ++ [.tail] = firstRef back :: after ∧
      s.heap.links.Path (before ++ lastRef front :: firstRef back :: after) := by
  obtain ⟨before, hfront⟩ := exists_refs_front front
  obtain ⟨after, hback⟩ := exists_refs_back back
  refine ⟨before, after, hfront, hback, ?_⟩
  rw [← refs_cut hfront hback]
  exact h.path

theorem Refines.of_path {xs : Cells Addr Data}
    (hpath : s.heap.links.Path (.head :: refs xs ++ [.tail]))
    (hdata : ∀ x ∈ xs, s.heap.data (.cell x.1) = some x.2)
    (hlive : ∀ x ∈ xs, s.heap.allocated x.1 = true) (hcount : s.heap.count = xs.length)
    (hhead : s.list .head = some l) (htail : s.list .tail = some l)
    (hcells : ∀ x ∈ xs, s.list (.cell x.1) = some l) : Refines l s xs := by
  refine ⟨⟨?_, ?_, ?_, ?_⟩, hhead, htail, hcells⟩
  · rw [List.map_map]
    exact hpath
  · rw [List.map_map, List.map_map]
    exact List.map_congr_left hdata
  · intro a ha
    obtain ⟨x, hx, rfl⟩ := List.mem_map.mp ha
    exact hlive x hx
  · rw [List.length_map]
    exact hcount

theorem Refines.data_cell {xs : Cells Addr Data} (h : Refines l s xs) {x : Addr × Data}
    (hx : x ∈ xs) : s.heap.data (.cell x.1) = some x.2 := by
  have hdata := h.represents.data
  rw [List.map_map, List.map_map] at hdata
  exact List.map_inj_left.mp hdata x hx

theorem Refines.count_eq {xs : Cells Addr Data} (h : Refines l s xs) :
    s.heap.count = xs.length := by
  rw [h.represents.count, List.length_map]

theorem mem_refs_iff {xs : Cells Addr Data} {a : Addr} :
    .cell a ∈ refs xs ↔ ∃ x ∈ xs, x.1 = a := by
  simp [refs]

theorem lastRef_mem (front : Cells Addr Data) :
    lastRef front = .head ∨ ∃ x ∈ front, lastRef front = .cell x.1 := by
  rcases List.eq_nil_or_concat' front with rfl | ⟨init, x, rfl⟩
  · exact .inl rfl
  · exact .inr ⟨x, by simp, by simp [lastRef, refs]⟩

theorem firstRef_mem (back : Cells Addr Data) :
    firstRef back = .tail ∨ ∃ x ∈ back, firstRef back = .cell x.1 := by
  cases back with
  | nil => exact .inl rfl
  | cons x back => exact .inr ⟨x, List.mem_cons_self, rfl⟩

theorem Refines.live_cell {xs : Cells Addr Data} (h : Refines l s xs) {x : Addr × Data}
    (hx : x ∈ xs) : s.live (.cell x.1) = true :=
  h.represents.live x.1 (List.mem_map_of_mem hx)

theorem Refines.live_lastRef {front back : Cells Addr Data} (h : Refines l s (front ++ back)) :
    s.live (lastRef front) = true := by
  rcases lastRef_mem front with hhead | ⟨x, hx, hcell⟩
  · rw [hhead]
    rfl
  · rw [hcell]
    exact h.live_cell (List.mem_append_left _ hx)

theorem Refines.live_firstRef {front back : Cells Addr Data} (h : Refines l s (front ++ back)) :
    s.live (firstRef back) = true := by
  rcases firstRef_mem back with htail | ⟨x, hx, hcell⟩
  · rw [htail]
    rfl
  · rw [hcell]
    exact h.live_cell (List.mem_append_right _ hx)

theorem Refines.list_lastRef {front back : Cells Addr Data} (h : Refines l s (front ++ back)) :
    s.list (lastRef front) = some l := by
  rcases lastRef_mem front with hhead | ⟨x, hx, hcell⟩
  · rw [hhead]
    exact h.head
  · rw [hcell]
    exact h.cells x (List.mem_append_left _ hx)

theorem Refines.next_lastRef {front back : Cells Addr Data} (h : Refines l s (front ++ back)) :
    s.heap.links.next (lastRef front) = some (firstRef back) := by
  obtain ⟨before, after, -, -, hpath⟩ := h.path_split
  exact hpath.next_eq

theorem Refines.prev_firstRef {front back : Cells Addr Data} (h : Refines l s (front ++ back)) :
    s.heap.links.prev (firstRef back) = some (lastRef front) := by
  obtain ⟨before, after, -, -, hpath⟩ := h.path_split
  exact hpath.prev_eq

@[simp] theorem withLinks_links (links : Links (NodeRef Addr)) :
    (s.withLinks links).heap.links = links := rfl

@[simp] theorem withLinks_withLinks (links links' : Links (NodeRef Addr)) :
    (s.withLinks links).withLinks links' = s.withLinks links' := rfl

@[simp] theorem withLinks_count (links : Links (NodeRef Addr)) :
    (s.withLinks links).heap.count = s.heap.count := rfl

@[simp] theorem withLinks_list (links : Links (NodeRef Addr)) :
    (s.withLinks links).list = s.list := rfl

@[simp] theorem withLinks_data (links : Links (NodeRef Addr)) :
    (s.withLinks links).heap.data = s.heap.data := rfl

@[simp] theorem withFreed_heap (d : Data) : (s.withFreed d).heap = s.heap := rfl

@[simp] theorem withFreed_list (d : Data) : (s.withFreed d).list = s.list := rfl

@[simp] theorem withFreed_live (d : Data) (r : NodeRef Addr) :
    (s.withFreed d).live r = s.live r := by
  cases r with
  | head | tail | cell a => rfl

@[simp] theorem withLinks_live (links : Links (NodeRef Addr)) (r : NodeRef Addr) :
    (s.withLinks links).live r = s.live r := by
  cases r with
  | head | tail | cell a => rfl

variable [DecidableEq Addr]

theorem live_newNode (a : Addr) (d : Data) (list : ListAddr) {r : NodeRef Addr}
    (hr : s.live r = true ∨ r = .cell a) : (s.newNode a d list).live r = true := by
  cases r with
  | head | tail => rfl
  | cell b =>
      show Function.update s.heap.allocated a true b = true
      by_cases hba : b = a
      · rw [hba, Function.update_self]
      · rw [Function.update_of_ne hba]
        rcases hr with hlive | heq
        · exact hlive
        · exact absurd (NodeRef.cell.inj heq) hba

variable [DecidableEq ListAddr]

theorem listInsert_eq {pos succ : NodeRef Addr} {a : Addr} (hpos : s.live pos = true)
    (hsucc : s.live succ = true) (hlist : s.list pos = some l)
    (hnext : s.heap.links.next pos = some succ) (hposa : pos ≠ .cell a) (d : Data) :
    listInsert l s pos d (some a) = some (.errorNone,
      ((s.newNode a d l).withLinks (s.heap.links.link pos (.cell a) succ)).withCount
        (s.heap.count + 1)) := by
  have hnew := live_newNode (s := s) a d l (r := .cell a) (.inr rfl)
  have hpos' := live_newNode (s := s) a d l (.inl hpos)
  have hsucc' := live_newNode (s := s) a d l (.inl hsucc)
  have hlist' : (s.newNode a d l).list pos = some l := by
    show Function.update s.list (.cell a) (some l) pos = some l
    rw [Function.update_of_ne hposa]
    exact hlist
  have hlinks : (s.newNode a d l).heap.links = s.heap.links := rfl
  have hcount : (s.newNode a d l).heap.count = s.heap.count := rfl
  simp [listInsert, ListState.getList, ListState.next, ListState.setNext, ListState.setPrev,
    ListState.addCount, hpos, hlist, hpos', hsucc', hnew, hlinks, hcount, hnext, hlist', Links.link]

omit [DecidableEq ListAddr] in
theorem Refines.insert {front back : Cells Addr Data} (h : Refines l s (front ++ back)) {a : Addr}
    (hfresh : s.heap.allocated a = false) (d : Data) :
    Refines l (((s.newNode a d l).withLinks
      (s.heap.links.link (lastRef front) (.cell a) (firstRef back))).withCount
        (s.heap.count + 1)) (front ++ (a, d) :: back) := by
  obtain ⟨before, after, hfront, hback, hpath⟩ := h.path_split
  have hnew : ∀ x ∈ front ++ back, x.1 ≠ a := by
    rintro x hx rfl
    have hlive := h.live_cell hx
    rw [ListState.live, hfresh] at hlive
    cases hlive
  have hmem : .cell a ∉ before ++ lastRef front :: firstRef back :: after := by
    rw [← List.singleton_append, ← List.append_assoc, ← hfront, ← hback]
    simp only [List.cons_append, List.mem_cons, List.mem_append, mem_refs_iff, List.mem_nil_iff,
      reduceCtorEq, or_false, false_or, not_or]
    refine ⟨?_, ?_⟩
    · rintro ⟨x, hx, heq⟩
      exact hnew x (List.mem_append_left _ hx) heq
    · rintro ⟨x, hx, heq⟩
      exact hnew x (List.mem_append_right _ hx) heq
  have hcases : ∀ x ∈ front ++ (a, d) :: back, x = (a, d) ∨ x ∈ front ++ back := by
    intro x hx
    exact List.mem_cons.mp (List.perm_middle.subset hx)
  refine .of_path ?_ ?_ ?_ ?_ ?_ ?_ ?_
  · have hlinked := hpath.link hmem
    have hnode : refs ((a, d) :: back) ++ [.tail] = .cell a :: firstRef back :: after := by
      rw [← hback]
      rfl
    rw [refs_cut hfront hnode]
    exact hlinked
  · intro x hx
    show Function.update s.heap.data (.cell a) (some d) (.cell x.1) = some x.2
    rcases hcases x hx with rfl | hold
    · exact Function.update_self _ _ _
    · rw [Function.update_of_ne fun heq => hnew x hold (NodeRef.cell.inj heq)]
      exact h.data_cell hold
  · intro x hx
    show Function.update s.heap.allocated a true x.1 = true
    rcases hcases x hx with rfl | hold
    · exact Function.update_self _ _ _
    · rw [Function.update_of_ne (hnew x hold)]
      exact h.live_cell hold
  · show s.heap.count + 1 = _
    rw [h.count_eq]
    simp only [List.length_append, List.length_cons]
    omega
  · show Function.update s.list (.cell a) (some l) .head = some l
    rw [Function.update_of_ne (by simp)]
    exact h.head
  · show Function.update s.list (.cell a) (some l) .tail = some l
    rw [Function.update_of_ne (by simp)]
    exact h.tail
  · intro x hx
    show Function.update s.list (.cell a) (some l) (.cell x.1) = some l
    rcases hcases x hx with rfl | hold
    · exact Function.update_self _ _ _
    · rw [Function.update_of_ne fun heq => hnew x hold (NodeRef.cell.inj heq)]
      exact h.cells x hold

theorem listInsert_refines {front back : Cells Addr Data} (h : Refines l s (front ++ back))
    {a : Addr} (hfresh : s.heap.allocated a = false) (d : Data) :
    ∃ s', listInsert l s (lastRef front) d (some a) = some (.errorNone, s') ∧
      Refines l s' (front ++ (a, d) :: back) ∧ s'.freed = s.freed := by
  have hne : lastRef front ≠ .cell a := by
    intro heq
    have hlive := h.live_lastRef
    rw [heq, ListState.live, hfresh] at hlive
    cases hlive
  exact ⟨_, listInsert_eq h.live_lastRef h.live_firstRef h.list_lastRef h.next_lastRef hne d,
    h.insert hfresh d, rfl⟩

def withoutNode (s : ListState Addr Data ListAddr) (a : Addr) (d : Data)
    (links : Links (NodeRef Addr)) (func : Bool) : ListState Addr Data ListAddr :=
  { s with
    heap := ListHeap.free { s.heap with links := links, count := s.heap.count + (-1) } a
    freed := s.freed ++ if func then [d] else [] }

theorem listRemove_eq {pred succ : NodeRef Addr} {a : Addr} {d : Data}
    (hlive : s.live (.cell a) = true) (hpred : s.live pred = true) (hsucc : s.live succ = true)
    (hlist : s.list (.cell a) = some l) (hprev : s.heap.links.prev (.cell a) = some pred)
    (hnext : s.heap.links.next (.cell a) = some succ) (hdata : s.heap.data (.cell a) = some d)
    (hne : pred ≠ .cell a) (func : Bool) :
    listRemove l s (.cell a) func =
      some (withoutNode s a d (s.heap.links.unlink pred succ) func) := by
  have hallocated : s.heap.allocated a = true := hlive
  -- the node's own `next` is read again after the write to that of `pred`
  have hagain : (s.heap.links.setNext pred (some succ)).next (.cell a) = some succ := by
    show Function.update s.heap.links.next pred (some succ) (.cell a) = some succ
    rw [Function.update_of_ne (Ne.symm hne)]
    exact hnext
  cases func with
  | true =>
      have hrun : listRemove l s (.cell a) true =
          (((s.withLinks (s.heap.links.unlink pred succ)).withFreed d).withCount
            (s.heap.count + (-1))).freeNode (.cell a) := by
        simp [listRemove, ListState.getList, ListState.next, ListState.prev, ListState.setNext,
          ListState.setPrev, ListState.addCount, ListState.callFree, ListState.data,
          hlive, hpred, hsucc, hlist, hprev, hnext, hagain, hdata, Links.unlink]
      rw [hrun]
      exact if_pos hallocated
  | false =>
      have hrun : listRemove l s (.cell a) false =
          ((s.withLinks (s.heap.links.unlink pred succ)).withCount
            (s.heap.count + (-1))).freeNode (.cell a) := by
        simp [listRemove, ListState.getList, ListState.next, ListState.prev, ListState.setNext,
          ListState.setPrev, ListState.addCount, ListState.callFree,
          hlive, hpred, hsucc, hlist, hprev, hnext, hagain, Links.unlink]
      have hfreed : s.freed = s.freed ++ if false then [d] else [] := (List.append_nil _).symm
      rw [hrun, withoutNode, ← hfreed]
      exact if_pos hallocated

omit [DecidableEq Addr] [DecidableEq ListAddr] in
theorem Refines.addr_ne {front back : Cells Addr Data} {a : Addr} {d : Data}
    (h : Refines l s (front ++ (a, d) :: back)) {x : Addr × Data} (hx : x ∈ front ++ back) :
    x.1 ≠ a := by
  have hnodup := (List.nodup_cons.mp (List.nodup_append.mp h.path.nodup).1).2
  have hperm : (refs (front ++ (a, d) :: back)).Perm (.cell a :: refs (front ++ back)) :=
    List.perm_middle.map _
  rw [hperm.nodup_iff, List.nodup_cons] at hnodup
  rintro rfl
  exact hnodup.1 (mem_refs_iff.mpr ⟨x, hx, rfl⟩)

omit [DecidableEq ListAddr] in
theorem Refines.remove {front back : Cells Addr Data} {a : Addr} {d : Data}
    (h : Refines l s (front ++ (a, d) :: back)) (func : Bool) :
    Refines l (withoutNode s a d (s.heap.links.unlink (lastRef front) (firstRef back)) func)
      (front ++ back) := by
  have hmem : ∀ x ∈ front ++ back, x ∈ front ++ (a, d) :: back := by
    intro x hx
    exact ((List.sublist_cons_self (a, d) back).append_left front).subset hx
  refine .of_path ?_ (fun x hx => h.data_cell (hmem x hx)) ?_ ?_ h.head h.tail
    (fun x hx => h.cells x (hmem x hx))
  · obtain ⟨before, hfront⟩ := exists_refs_front front
    obtain ⟨after, hback⟩ := exists_refs_back back
    have hnode : refs ((a, d) :: back) ++ [.tail] = .cell a :: firstRef back :: after := by
      rw [← hback]
      rfl
    have hpath := h.path
    rw [refs_cut hfront hnode] at hpath
    rw [refs_cut hfront hback]
    exact hpath.unlink
  · intro x hx
    show Function.update s.heap.allocated a false x.1 = true
    rw [Function.update_of_ne (h.addr_ne hx)]
    exact h.live_cell (hmem x hx)
  · show s.heap.count + (-1) = _
    rw [h.count_eq]
    simp only [List.length_append, List.length_cons]
    omega

/-- The data that a call passes to its free function, if it has one. -/
def passed (func : Bool) (ds : List Data) : List Data := if func then ds else []

theorem listRemove_refines {front back : Cells Addr Data} {a : Addr} {d : Data}
    (h : Refines l s (front ++ (a, d) :: back)) (func : Bool) :
    ∃ s', listRemove l s (.cell a) func = some s' ∧ Refines l s' (front ++ back) ∧
      s'.freed = s.freed ++ passed func [d] := by
  have hsplit : front ++ (a, d) :: back = (front ++ [(a, d)]) ++ back := by simp
  have hnext := (hsplit ▸ h).next_lastRef
  have hsucc := (hsplit ▸ h).live_firstRef
  have hlast : lastRef (front ++ [(a, d)]) = .cell a := by simp [lastRef, refs]
  rw [hlast] at hnext
  have hself : (a, d) ∈ front ++ (a, d) :: back := by simp
  have hne : lastRef front ≠ .cell a := by
    rcases lastRef_mem front with heq | ⟨x, hx, heq⟩
    · rw [heq]
      simp
    · rw [heq]
      exact fun hcell => h.addr_ne (List.mem_append_left _ hx) (NodeRef.cell.inj hcell)
  exact ⟨_, listRemove_eq (h.live_cell hself) h.live_lastRef hsucc (h.cells _ hself)
    h.prev_firstRef hnext (h.data_cell hself) hne func, h.remove func, rfl⟩

omit [DecidableEq Addr] [DecidableEq ListAddr] in
theorem Refines.next_cell {front back : Cells Addr Data} {x : Addr × Data}
    (h : Refines l s (front ++ x :: back)) : s.next (.cell x.1) = some (firstRef back) := by
  have hlive : s.live (.cell x.1) = true := h.live_cell (by simp)
  have hsplit : front ++ x :: back = (front ++ [x]) ++ back := by simp
  have hnext := (hsplit ▸ h).next_lastRef
  have hlast : lastRef (front ++ [x]) = .cell x.1 := by simp [lastRef, refs]
  rw [hlast] at hnext
  rw [ListState.next, if_pos hlive]
  exact hnext

omit [DecidableEq Addr] [DecidableEq ListAddr] in
theorem Refines.prev_cell {front back : Cells Addr Data} {x : Addr × Data}
    (h : Refines l s (front ++ x :: back)) : s.prev (.cell x.1) = some (lastRef front) := by
  have hlive : s.live (.cell x.1) = true := h.live_cell (by simp)
  rw [ListState.prev, if_pos hlive]
  exact h.prev_firstRef

omit [DecidableEq Addr] [DecidableEq ListAddr] in
theorem Refines.read_cell {front back : Cells Addr Data} {x : Addr × Data}
    (h : Refines l s (front ++ x :: back)) : s.data (.cell x.1) = some x.2 := by
  have hlive : s.live (.cell x.1) = true := h.live_cell (by simp)
  rw [ListState.data, if_pos hlive]
  exact h.data_cell (by simp)

omit [DecidableEq Addr] [DecidableEq ListAddr] in
theorem Refines.next_head {xs : Cells Addr Data} (h : Refines l s xs) :
    s.next .head = some (firstRef xs) := by
  have hfront : Refines l s ([] ++ xs) := h
  exact hfront.next_lastRef

omit [DecidableEq Addr] [DecidableEq ListAddr] in
theorem Refines.prev_tail {xs : Cells Addr Data} (h : Refines l s xs) :
    s.prev .tail = some (lastRef xs) := by
  rw [← List.append_nil xs] at h
  exact h.prev_firstRef

@[simp] theorem passed_nil (func : Bool) : passed func ([] : List Data) = [] := by
  cases func with
  | true | false => rfl

theorem passed_append (func : Bool) (ds ds' : List Data) :
    passed func (ds ++ ds') = passed func ds ++ passed func ds' := by
  cases func with
  | true | false => rfl

omit [DecidableEq Addr] [DecidableEq ListAddr] in
theorem lastRef_concat (front : Cells Addr Data) (x : Addr × Data) :
    lastRef (front ++ [x]) = .cell x.1 := by
  simp [lastRef, refs]

variable [DecidableEq Data]

theorem removeFirstLoop_refines (d : Data) (func : Bool) {front back : Cells Addr Data}
    (h : Refines l s (front ++ back)) :
    ∃ s', (∀ fuel > back.length, removeFirstLoop l d func fuel s (firstRef back) = some s') ∧
      Refines l s' (front ++ back.eraseP fun x => x.2 = d) ∧
      s'.freed = s.freed ++ passed func ((back.find? fun x => x.2 = d).map Prod.snd).toList := by
  induction back generalizing front with
  | nil =>
      refine ⟨s, fun fuel hfuel => ?_, h, by simp⟩
      obtain ⟨fuel, rfl⟩ := Nat.exists_eq_add_one.mpr hfuel
      rfl
  | cons x back ih =>
      have hturn : ∀ fuel > (x :: back).length, ∃ rest > back.length,
          removeFirstLoop l d func fuel s (firstRef (x :: back)) =
            if x.2 = d then listRemove l s (.cell x.1) func
            else removeFirstLoop l d func rest s (firstRef back) := by
        intro fuel hfuel
        obtain ⟨rest, rfl⟩ := Nat.exists_eq_add_one.mpr (Nat.zero_lt_of_lt hfuel)
        have hfirst : firstRef (x :: back) = .cell x.1 := rfl
        refine ⟨rest, Nat.lt_of_succ_lt_succ hfuel, ?_⟩
        simp only [removeFirstLoop, hfirst, h.next_cell, h.read_cell, reduceCtorEq, if_false,
          Option.bind_eq_bind, Option.bind_some]
      by_cases hx : x.2 = d
      · obtain ⟨s', hremove, hrefines, hfreed⟩ := listRemove_refines h func
        refine ⟨s', fun fuel hfuel => ?_, ?_, ?_⟩
        · obtain ⟨rest, -, hloop⟩ := hturn fuel hfuel
          rw [hloop, if_pos hx]
          exact hremove
        · simpa [hx] using hrefines
        · simpa [hx] using hfreed
      · have hrest : Refines l s ((front ++ [x]) ++ back) := by simpa using h
        obtain ⟨s', hloop, hrefines, hfreed⟩ := ih hrest
        refine ⟨s', fun fuel hfuel => ?_, ?_, ?_⟩
        · obtain ⟨rest, hrest, heq⟩ := hturn fuel hfuel
          rw [heq, if_neg hx]
          exact hloop rest hrest
        · simpa [hx] using hrefines
        · simpa [hx] using hfreed

theorem removeLastLoop_refines (d : Data) (func : Bool) {front back : Cells Addr Data}
    (h : Refines l s (front ++ back)) :
    ∃ s', (∀ fuel > front.length, removeLastLoop l d func fuel s (lastRef front) = some s') ∧
      Refines l s' ((front.reverse.eraseP fun x => x.2 = d).reverse ++ back) ∧
      s'.freed = s.freed ++
        passed func ((front.reverse.find? fun x => x.2 = d).map Prod.snd).toList := by
  induction front using List.reverseRecOn generalizing back with
  | nil =>
      refine ⟨s, fun fuel hfuel => ?_, h, by simp⟩
      obtain ⟨fuel, rfl⟩ := Nat.exists_eq_add_one.mpr hfuel
      rfl
  | append_singleton front x ih =>
      have hrest : Refines l s (front ++ x :: back) := by simpa using h
      have hturn : ∀ fuel > (front ++ [x]).length, ∃ rest > front.length,
          removeLastLoop l d func fuel s (lastRef (front ++ [x])) =
            if x.2 = d then listRemove l s (.cell x.1) func
            else removeLastLoop l d func rest s (lastRef front) := by
        intro fuel hfuel
        obtain ⟨rest, rfl⟩ := Nat.exists_eq_add_one.mpr (Nat.zero_lt_of_lt hfuel)
        rw [List.length_append, List.length_singleton] at hfuel
        refine ⟨rest, Nat.lt_of_succ_lt_succ hfuel, ?_⟩
        simp only [removeLastLoop, lastRef_concat, hrest.prev_cell, hrest.read_cell, reduceCtorEq,
          if_false, Option.bind_eq_bind, Option.bind_some]
      by_cases hx : x.2 = d
      · obtain ⟨s', hremove, hrefines, hfreed⟩ := listRemove_refines hrest func
        refine ⟨s', fun fuel hfuel => ?_, ?_, ?_⟩
        · obtain ⟨rest, -, hloop⟩ := hturn fuel hfuel
          rw [hloop, if_pos hx]
          exact hremove
        · simpa [hx] using hrefines
        · simpa [hx] using hfreed
      · obtain ⟨s', hloop, hrefines, hfreed⟩ := ih hrest
        refine ⟨s', fun fuel hfuel => ?_, ?_, ?_⟩
        · obtain ⟨rest, hrest, heq⟩ := hturn fuel hfuel
          rw [heq, if_neg hx]
          exact hloop rest hrest
        · simpa [hx] using hrefines
        · simpa [hx] using hfreed

theorem removeAllLoop_refines (d : Data) (func : Bool) {front back : Cells Addr Data}
    (h : Refines l s (front ++ back)) :
    ∃ s', (∀ fuel > back.length, removeAllLoop l d func fuel s (firstRef back) = some s') ∧
      Refines l s' (front ++ back.filter fun x => x.2 ≠ d) ∧
      s'.freed = s.freed ++ passed func ((back.filter fun x => x.2 = d).map Prod.snd) := by
  -- over all states: the rest of the loop runs on what the removal leaves
  induction back generalizing s front with
  | nil =>
      refine ⟨s, fun fuel hfuel => ?_, h, by simp⟩
      obtain ⟨fuel, rfl⟩ := Nat.exists_eq_add_one.mpr hfuel
      rfl
  | cons x back ih =>
      have hturn : ∀ fuel > (x :: back).length, ∃ rest > back.length,
          removeAllLoop l d func fuel s (firstRef (x :: back)) =
            if x.2 = d then
              (listRemove l s (.cell x.1) func).bind fun s =>
                removeAllLoop l d func rest s (firstRef back)
            else removeAllLoop l d func rest s (firstRef back) := by
        intro fuel hfuel
        obtain ⟨rest, rfl⟩ := Nat.exists_eq_add_one.mpr (Nat.zero_lt_of_lt hfuel)
        have hfirst : firstRef (x :: back) = .cell x.1 := rfl
        refine ⟨rest, Nat.lt_of_succ_lt_succ hfuel, ?_⟩
        simp only [removeAllLoop, hfirst, h.next_cell, h.read_cell, reduceCtorEq, if_false,
          Option.bind_eq_bind, Option.bind_some]
      by_cases hx : x.2 = d
      · obtain ⟨s₁, hremove, hrefines₁, hfreed₁⟩ := listRemove_refines h func
        obtain ⟨s', hloop, hrefines, hfreed⟩ := ih hrefines₁
        refine ⟨s', fun fuel hfuel => ?_, ?_, ?_⟩
        · obtain ⟨rest, hrest, heq⟩ := hturn fuel hfuel
          rw [heq, if_pos hx, hremove]
          exact hloop rest hrest
        · simpa [hx] using hrefines
        · rw [hfreed, hfreed₁, List.append_assoc, ← passed_append]
          simp [hx]
      · have hrest : Refines l s ((front ++ [x]) ++ back) := by simpa using h
        obtain ⟨s', hloop, hrefines, hfreed⟩ := ih hrest
        refine ⟨s', fun fuel hfuel => ?_, ?_, ?_⟩
        · obtain ⟨rest, hrest, heq⟩ := hturn fuel hfuel
          rw [heq, if_neg hx]
          exact hloop rest hrest
        · simpa [hx] using hrefines
        · simpa [hx] using hfreed

omit [DecidableEq ListAddr] [DecidableEq Data] in
theorem finiLoop_frees (func : Bool) {back : Cells Addr Data}
    (hlinks : (refs back ++ [NodeRef.tail]).IsChain fun r r' => s.heap.links.next r = some r')
    (hlive : ∀ x ∈ back, s.heap.allocated x.1 = true)
    (hdata : ∀ x ∈ back, s.heap.data (.cell x.1) = some x.2) (hnodup : (back.map Prod.fst).Nodup) :
    ∃ s', (∀ fuel > back.length, finiLoop func fuel s (firstRef back) = some s') ∧
      s'.freed = s.freed ++ passed func (back.map Prod.snd) := by
  induction back generalizing s with
  | nil =>
      refine ⟨s, fun fuel hfuel => ?_, by simp⟩
      obtain ⟨fuel, rfl⟩ := Nat.exists_eq_add_one.mpr hfuel
      rfl
  | cons x back ih =>
      have hx := hlive x List.mem_cons_self
      have hself : s.live (.cell x.1) = true := hx
      have hd := hdata x List.mem_cons_self
      obtain ⟨after, hback⟩ := exists_refs_back back
      have hchain : (.cell x.1 :: (refs back ++ [.tail])).IsChain
          fun r r' => s.heap.links.next r = some r' := hlinks
      have hnext : s.heap.links.next (.cell x.1) = some (firstRef back) := by
        rw [hback, List.isChain_cons_cons] at hchain
        exact hchain.1
      rw [List.map_cons, List.nodup_cons] at hnodup
      have hold : ∀ y ∈ back, Function.update s.heap.allocated x.1 false y.1 = true := by
        intro y hy
        have hne : y.1 ≠ x.1 := fun heq => hnodup.1 (heq ▸ List.mem_map_of_mem hy)
        rw [Function.update_of_ne hne]
        exact hlive y (List.mem_cons_of_mem _ hy)
      have hstep : ∃ s₁, s.callFree (.cell x.1) func = some s₁ ∧ s₁.heap = s.heap ∧
          s₁.freed = s.freed ++ passed func [x.2] := by
        cases func with
        | true =>
            refine ⟨s.withFreed x.2, ?_, rfl, rfl⟩
            simp [ListState.callFree, ListState.data, hself, hd]
        | false => exact ⟨s, rfl, rfl, (List.append_nil _).symm⟩
      obtain ⟨s₁, hcall, hheap, hfreed₁⟩ := hstep
      have hfree : s₁.freeNode (.cell x.1) = some { s₁ with heap := s.heap.free x.1 } := by
        rw [ListState.freeNode, hheap, if_pos hx]
      obtain ⟨s', hloop, hfreed⟩ := ih (s := { s₁ with heap := s.heap.free x.1 })
        (List.isChain_of_isChain_cons hchain) hold
        (fun y hy => hdata y (List.mem_cons_of_mem _ hy)) hnodup.2
      refine ⟨s', fun fuel hfuel => ?_, ?_⟩
      · obtain ⟨rest, rfl⟩ := Nat.exists_eq_add_one.mpr (Nat.zero_lt_of_lt hfuel)
        have hfirst : firstRef (x :: back) = .cell x.1 := rfl
        simp only [finiLoop, hfirst, ListState.next, hself, hnext, if_true, reduceCtorEq, if_false,
          Option.bind_eq_bind, Option.bind_some, hcall, hfree]
        exact hloop rest (Nat.lt_of_succ_lt_succ hfuel)
      · rw [hfreed, List.map_cons, ← List.singleton_append, passed_append, ← List.append_assoc]
        exact congrArg (· ++ _) hfreed₁

omit [DecidableEq ListAddr] [DecidableEq Data] in
theorem listInit_refines (l : ListAddr) (s : ListState Addr Data ListAddr) :
    Refines l (listInit l s) [] := by
  refine .of_path ⟨?_, by simp [refs]⟩ (by simp) (by simp) rfl ?_ ?_ (by simp)
  · simp [refs, listInit, Links.Adjacent, Links.setNext, Links.setPrev]
  · show Function.update (Function.update s.list .head (some l)) .tail (some l) .head = some l
    rw [Function.update_of_ne (by simp), Function.update_self]
  · show Function.update (Function.update s.list .head (some l)) .tail (some l) .tail = some l
    rw [Function.update_self]

omit [DecidableEq ListAddr] [DecidableEq Data] in
theorem listFini_refines {xs : Cells Addr Data} (h : Refines l s xs) (func : Bool) :
    ∃ s', (∀ fuel > xs.length, listFini l fuel s func = some s') ∧ Refines l s' [] ∧
      s'.freed = s.freed ++ passed func (xs.map Prod.snd) := by
  have hpath := h.path
  have hnodup : (xs.map Prod.fst).Nodup := by
    have hrefs := (List.nodup_cons.mp (List.nodup_append.mp hpath.nodup).1).2
    have hmap : refs xs = (xs.map Prod.fst).map NodeRef.cell := by simp [refs]
    rw [hmap] at hrefs
    exact List.Nodup.of_map _ hrefs
  have hlinks : (refs xs ++ [NodeRef.tail]).IsChain fun r r' => s.heap.links.next r = some r' :=
    (List.isChain_of_isChain_cons hpath.chain).imp fun _ _ hadj => hadj.1
  obtain ⟨s', hloop, hfreed⟩ := finiLoop_frees func hlinks (fun x hx => h.live_cell hx)
    (fun x hx => h.data_cell hx) hnodup
  refine ⟨listInit l s', fun fuel hfuel => ?_, listInit_refines l s', hfreed⟩
  simp only [listFini, h.next_head, hloop fuel hfuel, Option.bind_eq_bind, Option.bind_some]

omit [DecidableEq Data] in
theorem listPopFront_refines {xs : Cells Addr Data} (h : Refines l s xs) (func : Bool) :
    ∃ s', listPopFront l s func = some ((xs.map Prod.snd).head?, s') ∧ Refines l s' xs.tail ∧
      s'.freed = s.freed ++ passed func (xs.map Prod.snd).head?.toList := by
  cases xs with
  | nil =>
      have hcount : s.heap.count = 0 := h.count_eq
      exact ⟨s, by simp [listPopFront, hcount], h, by simp⟩
  | cons x xs =>
      have hcount : s.heap.count ≠ 0 := by
        rw [h.count_eq, List.length_cons]
        omega
      have hfront : Refines l s ([] ++ x :: xs) := h
      obtain ⟨s', hremove, hrefines, hfreed⟩ := listRemove_refines hfront func
      refine ⟨s', ?_, hrefines, hfreed⟩
      have hfirst : firstRef (x :: xs) = .cell x.1 := rfl
      simp [listPopFront, hcount, h.next_head, hfirst, hfront.read_cell, hremove]

omit [DecidableEq Data] in
theorem listPopBack_refines {xs : Cells Addr Data} (h : Refines l s xs) (func : Bool) :
    ∃ s', listPopBack l s func = some ((xs.map Prod.snd).getLast?, s') ∧
      Refines l s' xs.dropLast ∧
      s'.freed = s.freed ++ passed func (xs.map Prod.snd).getLast?.toList := by
  rcases List.eq_nil_or_concat' xs with rfl | ⟨front, x, rfl⟩
  · have hcount : s.heap.count = 0 := h.count_eq
    exact ⟨s, by simp [listPopBack, hcount], h, by simp⟩
  · have hcount : s.heap.count ≠ 0 := by
      rw [h.count_eq, List.length_append, List.length_singleton]
      omega
    obtain ⟨s', hremove, hrefines, hfreed⟩ := listRemove_refines h func
    refine ⟨s', ?_, by simpa using hrefines, by simpa using hfreed⟩
    simp [listPopBack, hcount, h.prev_tail, lastRef_concat, h.read_cell, hremove]

/-- `__tpl_list_remove_data`: every loop ends, and takes out what a plain list would. -/
theorem listRemoveData_refines {xs : Cells Addr Data} (h : Refines l s xs) (d : Data)
    (occurrence : TplOccurrence) (func : Bool) :
    ∃ s', (∀ fuel > xs.length, listRemoveData l fuel s d occurrence func = some s') ∧
      Refines l s' (removeData d occurrence xs).1 ∧
      s'.freed = s.freed ++ passed func (removeData d occurrence xs).2 := by
  cases occurrence with
  | first =>
      have hfront : Refines l s ([] ++ xs) := h
      obtain ⟨s', hloop, hrefines, hfreed⟩ := removeFirstLoop_refines d func hfront
      refine ⟨s', fun fuel hfuel => ?_, hrefines, hfreed⟩
      simp only [listRemoveData, h.next_head, Option.bind_eq_bind, Option.bind_some,
        hloop fuel hfuel]
  | last =>
      have hback : Refines l s (xs ++ []) := by simpa using h
      obtain ⟨s', hloop, hrefines, hfreed⟩ := removeLastLoop_refines d func hback
      rw [List.append_nil] at hrefines
      refine ⟨s', fun fuel hfuel => ?_, hrefines, hfreed⟩
      simp only [listRemoveData, h.prev_tail, Option.bind_eq_bind, Option.bind_some,
        hloop fuel hfuel]
  | all =>
      have hfront : Refines l s ([] ++ xs) := h
      obtain ⟨s', hloop, hrefines, hfreed⟩ := removeAllLoop_refines d func hfront
      refine ⟨s', fun fuel hfuel => ?_, hrefines, hfreed⟩
      simp only [listRemoveData, h.next_head, Option.bind_eq_bind, Option.bind_some,
        hloop fuel hfuel]

end

section

variable {Addr Data ListAddr : Type u}

/-- A call of a list function, with the node that `malloc` returns in it, or what other code
allocates and frees between two calls. -/
inductive Op (Addr Data : Type u)
  | pushFront (d : Data) (alloc : Option Addr)
  | pushBack (d : Data) (alloc : Option Addr)
  | insert (pos : NodeRef Addr) (d : Data) (alloc : Option Addr)
  | remove (a : Addr) (func : Bool)
  | removeData (d : Data) (occurrence : TplOccurrence) (func : Bool)
  | popFront (func : Bool)
  | popBack (func : Bool)
  | fini (func : Bool)
  | elsewhere (allocated : Addr → Bool)

inductive Reply (Data : Type u)
  | void
  | result (r : TplResult)
  | data (d : Option Data)
  deriving DecidableEq, Repr

def Op.alloc : Op Addr Data → Option Addr
  | .pushFront _ alloc | .pushBack _ alloc | .insert _ _ alloc => alloc
  | _ => none

def Op.func : Op Addr Data → Bool
  | .remove _ func | .removeData _ _ func | .popFront func | .popBack func | .fini func => func
  | _ => false

def insertResult (alloc : Option Addr) : TplResult :=
  if alloc.isSome then .errorNone else .errorOutOfMemory

variable [DecidableEq Addr] [DecidableEq Data]

/-- A plain list with a new entry after a position. -/
def insertAfter (pos : NodeRef Addr) (x : Addr × Data) (xs : Cells Addr Data) : Cells Addr Data :=
  match pos with
  | .head => x :: xs
  | .cell a => xs.flatMap fun y => if y.1 = a then [y, x] else [y]
  | .tail => xs

def plain (xs : Cells Addr Data) : Op Addr Data → Cells Addr Data
  | .pushFront d alloc => (alloc.map fun a => (a, d)).toList ++ xs
  | .pushBack d alloc => xs ++ (alloc.map fun a => (a, d)).toList
  | .insert pos d (some a) => insertAfter pos (a, d) xs
  | .insert _ _ none => xs
  | .remove a _ => xs.eraseP fun x => x.1 = a
  | .removeData d occurrence _ => (removeData d occurrence xs).1
  | .popFront _ => xs.tail
  | .popBack _ => xs.dropLast
  | .fini _ => []
  | .elsewhere _ => xs

def plainReply (xs : Cells Addr Data) : Op Addr Data → Reply Data
  | .pushBack _ alloc | .insert _ _ alloc => .result (insertResult alloc)
  | .popFront _ => .data (xs.map Prod.snd).head?
  | .popBack _ => .data (xs.map Prod.snd).getLast?
  | _ => .void

def removed (xs ys : Cells Addr Data) : List Data := (xs.filter fun x => x ∉ ys).map Prod.snd

def followNext (s : ListState Addr Data ListAddr) : Nat → NodeRef Addr → Option (List Addr)
  | 0, _ => none
  | fuel + 1, node =>
      match s.next node with
      | some (.cell a) => (followNext s fuel (.cell a)).map fun as => a :: as
      | some .tail => some []
      | _ => none

def followPrev (s : ListState Addr Data ListAddr) : Nat → NodeRef Addr → Option (List Addr)
  | 0, _ => none
  | fuel + 1, node =>
      match s.prev node with
      | some (.cell a) => (followPrev s fuel (.cell a)).map fun as => a :: as
      | some .head => some []
      | _ => none

/-- What a call may rely on: the position and the node it is given are in the list, `malloc`
returns memory that is not in use, and other code frees no node of the list. -/
def Permitted (s : ListState Addr Data ListAddr) (xs : Cells Addr Data) (op : Op Addr Data) : Prop :=
  (∀ a, op.alloc = some a → s.heap.allocated a = false) ∧
    match op with
    | .insert pos _ _ => pos = .head ∨ ∃ x ∈ xs, pos = .cell x.1
    | .remove a _ => ∃ x ∈ xs, x.1 = a
    | .elsewhere allocated => ∀ x ∈ xs, allocated x.1 = true
    | _ => True

variable [DecidableEq ListAddr] (l : ListAddr)

def step (fuel : Nat) (s : ListState Addr Data ListAddr) :
    Op Addr Data → Option (Reply Data × ListState Addr Data ListAddr)
  | .pushFront d alloc => (listPushFront l s d alloc).map fun s => (.void, s)
  | .pushBack d alloc => (listPushBack l s d alloc).map fun out => (.result out.1, out.2)
  | .insert pos d alloc => (listInsert l s pos d alloc).map fun out => (.result out.1, out.2)
  | .remove a func => (listRemove l s (.cell a) func).map fun s => (.void, s)
  | .removeData d occurrence func =>
      (listRemoveData l fuel s d occurrence func).map fun s => (.void, s)
  | .popFront func => (listPopFront l s func).map fun out => (.data out.1, out.2)
  | .popBack func => (listPopBack l s func).map fun out => (.data out.1, out.2)
  | .fini func => (listFini l fuel s func).map fun s => (.void, s)
  | .elsewhere allocated => some (.void, { s with heap := { s.heap with allocated := allocated } })

def run (fuel : Nat) : ListState Addr Data ListAddr → List (Op Addr Data) →
    Option (List (Reply Data) × ListState Addr Data ListAddr)
  | s, [] => some ([], s)
  | s, op :: ops => do
      let (reply, s) ← step l fuel s op
      let (replies, s) ← run fuel s ops
      some (reply :: replies, s)

def plainRun : Cells Addr Data → List (Op Addr Data) → List (Reply Data) × Cells Addr Data × List Data
  | xs, [] => ([], xs, [])
  | xs, op :: ops =>
      let out := plainRun (plain xs op) ops
      (plainReply xs op :: out.1, out.2.1, passed op.func (removed xs (plain xs op)) ++ out.2.2)

def PermittedRun : ListState Addr Data ListAddr → Cells Addr Data → List (Op Addr Data) → Prop
  | _, _, [] => True
  | s, xs, op :: ops =>
      Permitted s xs op ∧ ∀ fuel reply s', step l fuel s op = some (reply, s') →
        PermittedRun s' (plain xs op) ops

end

section

variable {Addr Data ListAddr : Type u} {l : ListAddr} {s : ListState Addr Data ListAddr}
variable {xs : Cells Addr Data}

theorem Refines.nodup (h : Refines l s xs) : xs.Nodup := by
  have hrefs := (List.nodup_cons.mp (List.nodup_append.mp h.path.nodup).1).2
  exact List.Nodup.of_map _ hrefs

variable [DecidableEq Addr] [DecidableEq Data]

theorem removed_of_subset {ys : Cells Addr Data} (h : ∀ x ∈ xs, x ∈ ys) : removed xs ys = [] := by
  simpa [removed] using h

theorem removed_nil (xs : Cells Addr Data) : removed xs [] = xs.map Prod.snd := by
  simp [removed]

theorem removed_split {front back : Cells Addr Data} {x : Addr × Data}
    (h : (front ++ x :: back).Nodup) : removed (front ++ x :: back) (front ++ back) = [x.2] := by
  have hx : x ∉ front ++ back := (List.nodup_middle.mp h).notMem
  have hfront : front.filter (fun y => y ∉ front ++ back) = [] := by
    simp +contextual
  have hback : back.filter (fun y => y ∉ front ++ back) = [] := by
    simp +contextual
  rw [removed, List.filter_append, List.filter_cons_of_pos (by simpa using hx), hfront, hback]
  rfl

theorem removed_eraseP (h : xs.Nodup) (p : Addr × Data → Bool) :
    removed xs (xs.eraseP p) = ((xs.find? p).map Prod.snd).toList := by
  rcases List.exists_or_eq_self_of_eraseP p xs with hself | ⟨x, front, back, hfront, hx, rfl, herase⟩
  · have hnone : xs.find? p = none := by
      rw [List.find?_eq_none]
      intro x hx hpx
      have hlength := List.length_eraseP_of_mem hx hpx
      have hpos := List.length_pos_of_mem hx
      rw [hself] at hlength
      omega
    rw [hself, hnone, removed_of_subset fun x hx => hx]
    rfl
  · have hfind : (front ++ x :: back).find? p = some x := by
      rw [List.find?_append, List.find?_eq_none.mpr hfront]
      simp [hx]
    rw [herase, removed_split h, hfind]
    rfl

theorem removed_reverse (ys : Cells Addr Data) :
    removed xs.reverse ys = (removed xs ys).reverse := by
  simp [removed]

theorem removed_removeData (h : xs.Nodup) (d : Data) (occurrence : TplOccurrence) :
    removed xs (removeData d occurrence xs).1 = (removeData d occurrence xs).2 := by
  cases occurrence with
  | first => exact removed_eraseP h _
  | last =>
      have hreverse := removed_eraseP (List.nodup_reverse.mpr h) fun x => x.2 = d
      rw [removed_reverse, List.reverse_eq_iff] at hreverse
      have hmem : removed xs (xs.reverse.eraseP fun x => x.2 = d).reverse =
          removed xs (xs.reverse.eraseP fun x => x.2 = d) := by
        simp only [removed, List.mem_reverse]
      rw [removeData, hmem, hreverse]
      cases List.find? _ _ with
      | none | some x => rfl
  | all =>
      have hfilter : (xs.filter fun x => x ∉ xs.filter fun x => x.2 ≠ d) =
          xs.filter fun x => x.2 = d := by
        refine List.filter_congr fun x hx => ?_
        simp [hx]
      rw [removeData, removed, hfilter]

variable [DecidableEq ListAddr]

omit [DecidableEq Data] in
theorem listInsert_cut {front back : Cells Addr Data} (h : Refines l s (front ++ back))
    {alloc : Option Addr} (hfresh : ∀ a, alloc = some a → s.heap.allocated a = false) (d : Data) :
    ∃ s', listInsert l s (lastRef front) d alloc = some (insertResult alloc, s') ∧
      Refines l s' (front ++ (alloc.map fun a => (a, d)).toList ++ back) ∧ s'.freed = s.freed := by
  cases alloc with
  | none => exact ⟨s, rfl, by simpa using h, rfl⟩
  | some a =>
      obtain ⟨s', hinsert, hrefines, hfreed⟩ := listInsert_refines h (hfresh a rfl) d
      exact ⟨s', hinsert, by simpa using hrefines, hfreed⟩

omit [DecidableEq Data] [DecidableEq ListAddr] in
theorem insertAfter_cell {front back : Cells Addr Data} {y : Addr × Data}
    (h : Refines l s (front ++ y :: back)) (x : Addr × Data) :
    insertAfter (.cell y.1) x (front ++ y :: back) = front ++ y :: x :: back := by
  have hother : ∀ zs : Cells Addr Data, (∀ z ∈ zs, z ∈ front ++ back) →
      zs.flatMap (fun z => if z.1 = y.1 then [z, x] else [z]) = zs := by
    intro zs hzs
    have hone : ∀ z ∈ zs, (if z.1 = y.1 then [z, x] else [z]) = [z] := by
      intro z hz
      rw [if_neg (h.addr_ne (hzs z hz))]
    rw [List.flatMap_congr hone]
    exact List.flatMap_singleton' zs
  rw [insertAfter, List.flatMap_append, List.flatMap_cons, if_pos rfl,
    hother front fun z hz => List.mem_append_left _ hz,
    hother back fun z hz => List.mem_append_right _ hz]
  rfl

omit [DecidableEq Data] [DecidableEq ListAddr] in
theorem exists_cut (h : Refines l s xs) {pos : NodeRef Addr}
    (hpos : pos = .head ∨ ∃ x ∈ xs, pos = .cell x.1) :
    ∃ front back, xs = front ++ back ∧ pos = lastRef front ∧
      ∀ x, insertAfter pos x xs = front ++ x :: back := by
  rcases hpos with rfl | ⟨y, hy, rfl⟩
  · exact ⟨[], xs, rfl, rfl, fun x => rfl⟩
  · obtain ⟨front, back, rfl⟩ := List.append_of_mem hy
    refine ⟨front ++ [y], back, by simp, (lastRef_concat front y).symm, fun x => ?_⟩
    rw [insertAfter_cell h x]
    simp

omit [DecidableEq Data] [DecidableEq ListAddr] in
theorem eraseP_addr {front back : Cells Addr Data} {y : Addr × Data}
    (h : Refines l s (front ++ y :: back)) :
    (front ++ y :: back).eraseP (fun x => x.1 = y.1) = front ++ back := by
  have hfront : ∀ x ∈ front, ¬ decide (x.1 = y.1) = true := by
    intro x hx
    simpa using h.addr_ne (List.mem_append_left _ hx)
  rw [List.eraseP_append_right _ hfront, List.eraseP_cons_of_pos (by simp)]

/-- A permitted call returns what it returns on the plain list, leaves what represents the
plain list after it, and passes the data of the nodes that are gone to the free function. -/
theorem step_refines (h : Refines l s xs) {op : Op Addr Data} (hop : Permitted s xs op) :
    ∃ s', (∀ fuel > xs.length, step l fuel s op = some (plainReply xs op, s')) ∧
      Refines l s' (plain xs op) ∧
      s'.freed = s.freed ++ passed op.func (removed xs (plain xs op)) := by
  cases op with
  | pushFront d alloc =>
      have hfresh : ∀ a, alloc = some a → s.heap.allocated a = false := hop.1
      have hfront : Refines l s ([] ++ xs) := h
      obtain ⟨s', hinsert, hrefines, hfreed⟩ := listInsert_cut hfront hfresh d
      have hhead : listInsert l s .head d alloc = some (insertResult alloc, s') := hinsert
      refine ⟨s', fun fuel _ => ?_, hrefines, by simpa [Op.func, passed] using hfreed⟩
      simp [step, listPushFront, hhead, plainReply]
  | pushBack d alloc =>
      have hfresh : ∀ a, alloc = some a → s.heap.allocated a = false := hop.1
      have hback : Refines l s (xs ++ []) := by simpa using h
      obtain ⟨s', hinsert, hrefines, hfreed⟩ := listInsert_cut hback hfresh d
      rw [List.append_nil] at hrefines
      refine ⟨s', fun fuel _ => ?_, hrefines, by simpa [Op.func, passed] using hfreed⟩
      simp [step, listPushBack, h.prev_tail, hinsert, plainReply]
  | insert pos d alloc =>
      have hfresh : ∀ a, alloc = some a → s.heap.allocated a = false := hop.1
      obtain ⟨front, back, rfl, rfl, hafter⟩ := exists_cut h hop.2
      obtain ⟨s', hinsert, hrefines, hfreed⟩ := listInsert_cut h hfresh d
      refine ⟨s', fun fuel _ => ?_, ?_, by simpa [Op.func, passed] using hfreed⟩
      · simp [step, hinsert, plainReply]
      · cases alloc with
        | none => simpa [plain] using hrefines
        | some a => simpa [plain, hafter] using hrefines
  | remove a func =>
      obtain ⟨⟨b, d⟩, hy, rfl⟩ := hop.2
      obtain ⟨front, back, rfl⟩ := List.append_of_mem hy
      obtain ⟨s', hremove, hrefines, hfreed⟩ := listRemove_refines h func
      have hplain : plain (front ++ (b, d) :: back) (.remove b func) = front ++ back := eraseP_addr h
      rw [hplain, removed_split h.nodup]
      exact ⟨s', fun fuel _ => by simp [step, hremove, plainReply], hrefines, hfreed⟩
  | removeData d occurrence func =>
      obtain ⟨s', hremove, hrefines, hfreed⟩ :=
        listRemoveData_refines h d occurrence func
      refine ⟨s', fun fuel hfuel => ?_, hrefines, ?_⟩
      · simp [step, hremove fuel hfuel, plainReply]
      · rw [plain, removed_removeData h.nodup]
        exact hfreed
  | popFront func =>
      obtain ⟨s', hpop, hrefines, hfreed⟩ := listPopFront_refines h func
      refine ⟨s', fun fuel _ => by simp [step, hpop, plainReply], hrefines, ?_⟩
      rw [hfreed, plain]
      cases xs with
      | nil => simp [removed]
      | cons x xs =>
          have hnodup : ([] ++ x :: xs).Nodup := h.nodup
          have hsplit := removed_split hnodup
          rw [List.nil_append, List.nil_append] at hsplit
          rw [List.tail_cons, hsplit]
          rfl
  | popBack func =>
      obtain ⟨s', hpop, hrefines, hfreed⟩ := listPopBack_refines h func
      refine ⟨s', fun fuel _ => by simp [step, hpop, plainReply], hrefines, ?_⟩
      rw [hfreed, plain]
      rcases List.eq_nil_or_concat' xs with rfl | ⟨front, x, rfl⟩
      · simp [removed]
      · have hsplit := removed_split h.nodup
        rw [List.append_nil] at hsplit
        rw [List.dropLast_concat, hsplit]
        simp [Op.func]
  | fini func =>
      obtain ⟨s', hfini, hrefines, hfreed⟩ := listFini_refines h func
      refine ⟨s', fun fuel hfuel => ?_, hrefines, ?_⟩
      · simp [step, hfini fuel hfuel, plainReply]
      · rw [plain, removed_nil]
        exact hfreed
  | elsewhere allocated =>
      refine ⟨_, fun fuel _ => rfl, ?_, by simp [Op.func, passed]⟩
      exact .of_path h.path (fun x hx => h.data_cell hx) hop.2 h.count_eq h.head h.tail h.cells

theorem run_from {ops : List (Op Addr Data)} (h : Refines l s xs) (hops : PermittedRun l s xs ops) :
    ∃ n s', (∀ fuel ≥ n, run l fuel s ops = some ((plainRun xs ops).1, s')) ∧
      Refines l s' (plainRun xs ops).2.1 ∧ s'.freed = s.freed ++ (plainRun xs ops).2.2 := by
  induction ops generalizing s xs with
  | nil => exact ⟨0, s, fun fuel _ => rfl, h, (List.append_nil _).symm⟩
  | cons op ops ih =>
      obtain ⟨hop, hrest⟩ := hops
      obtain ⟨s₁, hstep, hrefines₁, hfreed₁⟩ := step_refines h hop
      obtain ⟨n, s', hrun, hrefines, hfreed⟩ :=
        ih hrefines₁ (hrest _ _ _ (hstep _ (Nat.lt_succ_self _)))
      refine ⟨max n (xs.length + 1), s', fun fuel hfuel => ?_, hrefines, ?_⟩
      · have hfirst := hstep fuel (le_trans (le_max_right _ _) hfuel)
        have hlater := hrun fuel (le_trans (le_max_left _ _) hfuel)
        simp [run, hfirst, hlater, plainRun]
      · rw [hfreed, hfreed₁, List.append_assoc]
        rfl

omit [DecidableEq Addr] [DecidableEq Data] [DecidableEq ListAddr] in
theorem followNext_eq {front back : Cells Addr Data} (h : Refines l s (front ++ back)) {fuel : Nat}
    (hfuel : back.length < fuel) :
    followNext s fuel (lastRef front) = some (back.map Prod.fst) := by
  have hnext : s.next (lastRef front) = some (firstRef back) := by
    rw [ListState.next, if_pos h.live_lastRef, h.next_lastRef]
  obtain ⟨fuel, rfl⟩ := Nat.exists_eq_add_one.mpr (Nat.zero_lt_of_lt hfuel)
  induction back generalizing front fuel with
  | nil =>
      have htail : firstRef ([] : Cells Addr Data) = .tail := rfl
      rw [followNext, hnext, htail]
      rfl
  | cons x back ih =>
      have hrest : Refines l s ((front ++ [x]) ++ back) := by simpa using h
      have hlater : s.next (lastRef (front ++ [x])) = some (firstRef back) := by
        rw [lastRef_concat, h.next_cell]
      obtain ⟨fuel, rfl⟩ := Nat.exists_eq_add_one.mpr
        (Nat.zero_lt_of_lt (Nat.lt_of_succ_lt_succ hfuel))
      have hfollow := ih hrest hlater fuel (Nat.lt_of_succ_lt_succ hfuel)
      rw [lastRef_concat] at hfollow
      have hfirst : firstRef (x :: back) = .cell x.1 := rfl
      rw [followNext, hnext, hfirst]
      simp only [hfollow, Option.map_some, List.map_cons]

omit [DecidableEq Addr] [DecidableEq Data] [DecidableEq ListAddr] in
theorem followPrev_eq {front back : Cells Addr Data} (h : Refines l s (front ++ back)) {fuel : Nat}
    (hfuel : front.length < fuel) :
    followPrev s fuel (firstRef back) = some (front.map Prod.fst).reverse := by
  have hprev : s.prev (firstRef back) = some (lastRef front) := by
    rw [ListState.prev, if_pos h.live_firstRef, h.prev_firstRef]
  obtain ⟨fuel, rfl⟩ := Nat.exists_eq_add_one.mpr (Nat.zero_lt_of_lt hfuel)
  induction front using List.reverseRecOn generalizing back fuel with
  | nil =>
      have hhead : lastRef ([] : Cells Addr Data) = .head := rfl
      rw [followPrev, hprev, hhead]
      rfl
  | append_singleton front x ih =>
      have hrest : Refines l s (front ++ x :: back) := by simpa using h
      rw [List.length_append, List.length_singleton] at hfuel
      obtain ⟨fuel, rfl⟩ := Nat.exists_eq_add_one.mpr
        (Nat.zero_lt_of_lt (Nat.lt_of_succ_lt_succ hfuel))
      have hfollow : followPrev s (fuel + 1) (.cell x.1) = some (front.map Prod.fst).reverse :=
        ih hrest hrest.prev_cell fuel (Nat.lt_of_succ_lt_succ hfuel)
      rw [followPrev, hprev, lastRef_concat]
      simp only [hfollow, Option.map_some, List.map_append, List.map_cons, List.map_nil,
        List.reverse_append, List.reverse_cons, List.reverse_nil, List.nil_append,
        List.cons_append]

/-- From `__tpl_list_init`, every run of permitted calls ends, answers as the plain list does,
and leaves its nodes linked both ways, counted and owned by the list; the free functions are
called once for each node that is gone. -/
theorem run_refines (l : ListAddr) (s₀ : ListState Addr Data ListAddr)
    {ops : List (Op Addr Data)} (hops : PermittedRun l (listInit l s₀) [] ops) :
    ∃ n s', (∀ fuel ≥ n, run l fuel (listInit l s₀) ops = some ((plainRun [] ops).1, s') ∧
        followNext s' fuel .head = some ((plainRun [] ops).2.1.map Prod.fst) ∧
        followPrev s' fuel .tail = some ((plainRun [] ops).2.1.map Prod.fst).reverse) ∧
      Refines l s' (plainRun [] ops).2.1 ∧ s'.freed = s₀.freed ++ (plainRun [] ops).2.2 := by
  obtain ⟨n, s', hrun, hrefines, hfreed⟩ := run_from (listInit_refines l s₀) hops
  have hfront : Refines l s' ([] ++ (plainRun [] ops).2.1) := hrefines
  have hback : Refines l s' ((plainRun [] ops).2.1 ++ []) := by simpa using hrefines
  refine ⟨max n ((plainRun [] ops).2.1.length + 1), s', fun fuel hfuel => ⟨?_, ?_, ?_⟩, hrefines,
    hfreed⟩
  · exact hrun fuel (le_trans (le_max_left _ _) hfuel)
  · exact followNext_eq hfront (le_trans (le_max_right _ _) hfuel)
  · exact followPrev_eq hback (le_trans (le_max_right _ _) hfuel)

end

def exampleOps : List (Op Nat Nat) :=
  [.pushBack 7 (some 1), .pushFront 8 (some 2), .insert (.cell 2) 7 (some 3), .pushBack 9 none,
    .elsewhere fun a => a < 10, .removeData 7 .last true, .popFront true, .fini true]

def exampleState : ListState Nat Nat Nat where
  heap := { links := ⟨fun _ => none, fun _ => none⟩, data := fun _ => none, count := 5,
            allocated := fun _ => false }
  list := fun _ => none
  freed := []

theorem run_refines_example :
    ∃ n s', (∀ fuel ≥ n, run 0 fuel (listInit 0 exampleState) exampleOps =
        some ([.result .errorNone, .void, .result .errorNone, .result .errorOutOfMemory, .void,
          .void, .data (some 8), .void], s') ∧
        followNext s' fuel .head = some [] ∧ followPrev s' fuel .tail = some []) ∧
      Refines 0 s' [] ∧ s'.freed = [7, 8, 7] := by
  refine run_refines 0 exampleState ⟨⟨?_, trivial⟩, ?_⟩
  · intro a h
    rfl
  · intro fuel reply s₁ hstep₁
    cases hstep₁
    refine ⟨⟨fun a h => ?_, trivial⟩, ?_⟩
    · cases h
      rfl
    · intro fuel reply s₂ hstep₂
      cases hstep₂
      refine ⟨⟨fun a h => ?_, .inr ⟨(2, 8), by decide, rfl⟩⟩, ?_⟩
      · cases h
        rfl
      · intro fuel reply s₃ hstep₃
        cases hstep₃
        refine ⟨⟨by simp [Op.alloc], trivial⟩, fun _ _ s₄ _ => ⟨⟨by simp [Op.alloc], ?_⟩, ?_⟩⟩
        · decide
        · exact fun _ _ _ _ => ⟨⟨by simp [Op.alloc], trivial⟩, fun _ _ _ _ =>
            ⟨⟨by simp [Op.alloc], trivial⟩, fun _ _ _ _ => ⟨⟨by simp [Op.alloc], trivial⟩,
              fun _ _ _ _ => trivial⟩⟩⟩

end LibtplEgl.ListOperations
