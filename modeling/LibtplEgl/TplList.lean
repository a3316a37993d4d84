import LibtplEgl.DoublyLinked
import LibtplEgl.StraightLine

namespace LibtplEgl.TplList

open LibtplEgl.DoublyLinked
open LibtplEgl.StraightLine

universe u v

/-- The nodes of a `tpl_list_t`: its `head` and `tail` and the allocated ones. -/
inductive NodeRef (Addr : Type u)
  | head
  | tail
  | cell (a : Addr)
  deriving DecidableEq, Repr

/-- A `tpl_list_t` and the heap of its nodes. The `list` field of every node is
this list, so it is left out. -/
structure ListHeap (Addr : Type u) (Data : Type v) where
  links : Links (NodeRef Addr)
  data : NodeRef Addr → Option Data
  count : Int
  allocated : Addr → Bool

/-- Where `__tpl_list_insert` is after its allocation. -/
inductive PushPc (Addr : Type u) (Data : Type v)
  | setData (pos node : NodeRef Addr) (d : Data)
  | setSuccPrev (pos node : NodeRef Addr)
  | setNodeNext (pos node : NodeRef Addr)
  | setPosNext (pos node : NodeRef Addr)
  | setNodePrev (pos node : NodeRef Addr)
  | loadCount
  | storeCount (n : Int)
  | returned
  deriving DecidableEq, Repr

/-- Where `__tpl_list_pop_front` is once the list is not empty: it reads the
first node and its data, then `__tpl_list_remove` takes the node out. -/
inductive PopPc (Addr : Type u) (Data : Type v)
  | readData
  | readNode (d : Data)
  | setPredNext (d : Data) (node : NodeRef Addr)
  | setSuccPrev (d : Data) (node : NodeRef Addr)
  | loadCount (d : Data) (node : NodeRef Addr)
  | storeCount (d : Data) (node : NodeRef Addr) (n : Int)
  | freeNode (d : Data) (node : NodeRef Addr)
  | returned (d : Data)
  deriving DecidableEq, Repr

section

variable {Addr : Type u} {Data : Type v}

def PushPc.rank : PushPc Addr Data → Nat
  | .setData _ _ _ => 7
  | .setSuccPrev _ _ => 6
  | .setNodeNext _ _ => 5
  | .setPosNext _ _ => 4
  | .setNodePrev _ _ => 3
  | .loadCount => 2
  | .storeCount _ => 1
  | .returned => 0

def PopPc.rank : PopPc Addr Data → Nat
  | .readData => 7
  | .readNode _ => 6
  | .setPredNext _ _ => 5
  | .setSuccPrev _ _ => 4
  | .loadCount _ _ => 3
  | .storeCount _ _ _ => 2
  | .freeNode _ _ => 1
  | .returned _ => 0

/-- The list holds the data `ds`: its nodes are linked both ways between head and
tail, allocated, and counted. -/
structure Represents (heap : ListHeap Addr Data) (cells : List Addr) (ds : List Data) : Prop where
  path : heap.links.Path (.head :: cells.map .cell ++ [.tail])
  data : cells.map (fun a => heap.data (.cell a)) = ds.map some
  live : ∀ a ∈ cells, heap.allocated a = true
  count : heap.count = cells.length

theorem Represents.length_eq {heap : ListHeap Addr Data} {cells : List Addr} {ds : List Data}
    (h : Represents heap cells ds) : cells.length = ds.length := by
  simpa using congrArg List.length h.data

theorem Represents.exists_last {heap : ListHeap Addr Data} {cells : List Addr} {ds : List Data}
    (h : Represents heap cells ds) : ∃ pre pos,
      (.head :: cells.map .cell : List (NodeRef Addr)) = pre ++ [pos] ∧
        heap.links.prev .tail = some pos ∧ heap.links.next pos = some .tail := by
  obtain ⟨pre, pos, hlast⟩ : ∃ pre pos,
      (.head :: cells.map .cell : List (NodeRef Addr)) = pre ++ [pos] := by
    rcases List.eq_nil_or_concat' (.head :: cells.map .cell : List (NodeRef Addr)) with hnil | hcons
    · cases hnil
    · exact hcons
  have hpath := h.path
  rw [hlast, List.append_assoc, List.singleton_append] at hpath
  exact ⟨pre, pos, hlast, hpath.prev_eq, hpath.next_eq⟩

theorem Represents.count_eq_zero_iff {heap : ListHeap Addr Data} {cells : List Addr}
    {ds : List Data} (h : Represents heap cells ds) : heap.count = 0 ↔ ds = [] := by
  rw [h.count, ← List.length_eq_zero_iff, ← h.length_eq]
  exact Int.natCast_eq_zero

variable [DecidableEq Addr]

/-- `__tpl_list_init`. -/
def listInit (data : NodeRef Addr → Option Data) (allocated : Addr → Bool) :
    ListHeap Addr Data where
  links :=
    { next := fun r => if r = .head then some .tail else none
      prev := fun r => if r = .tail then some .head else none }
  data := data
  count := 0
  allocated := allocated

namespace ListHeap

/-- `malloc` of a node: its content is what the memory holds. -/
def malloc (heap : ListHeap Addr Data) (a : Addr) : ListHeap Addr Data :=
  { heap with allocated := Function.update heap.allocated a true }

def free (heap : ListHeap Addr Data) (a : Addr) : ListHeap Addr Data :=
  { heap with allocated := Function.update heap.allocated a false }

end ListHeap

/-- One write of `__tpl_list_insert`; a null dereference has no step. -/
def pushStep : ListHeap Addr Data × PushPc Addr Data →
    Option (ListHeap Addr Data × PushPc Addr Data)
  | (heap, .setData pos node d) =>
      some ({ heap with data := Function.update heap.data node (some d) },
        .setSuccPrev pos node)
  | (heap, .setSuccPrev pos node) =>
      (heap.links.next pos).map fun succ =>
        ({ heap with links := heap.links.setPrev succ (some node) }, .setNodeNext pos node)
  | (heap, .setNodeNext pos node) =>
      some ({ heap with links := heap.links.setNext node (heap.links.next pos) },
        .setPosNext pos node)
  | (heap, .setPosNext pos node) =>
      some ({ heap with links := heap.links.setNext pos (some node) }, .setNodePrev pos node)
  | (heap, .setNodePrev pos node) =>
      some ({ heap with links := heap.links.setPrev node (some pos) }, .loadCount)
  | (heap, .loadCount) => some (heap, .storeCount heap.count)
  | (heap, .storeCount n) => some ({ heap with count := n + 1 }, .returned)
  | (_, .returned) => none

/-- One step of `__tpl_list_pop_front` on a list that is not empty. -/
def popStep : ListHeap Addr Data × PopPc Addr Data →
    Option (ListHeap Addr Data × PopPc Addr Data)
  | (heap, .readData) =>
      (heap.links.next .head).bind fun node =>
        (heap.data node).map fun d => (heap, .readNode d)
  | (heap, .readNode d) =>
      (heap.links.next .head).map fun node => (heap, .setPredNext d node)
  | (heap, .setPredNext d node) =>
      (heap.links.prev node).map fun pred =>
        ({ heap with links := heap.links.setNext pred (heap.links.next node) },
          .setSuccPrev d node)
  | (heap, .setSuccPrev d node) =>
      (heap.links.next node).map fun succ =>
        ({ heap with links := heap.links.setPrev succ (heap.links.prev node) },
          .loadCount d node)
  | (heap, .loadCount d node) => some (heap, .storeCount d node heap.count)
  | (heap, .storeCount d node n) => some ({ heap with count := n - 1 }, .freeNode d node)
  | (heap, .freeNode d (.cell a)) => some (heap.free a, .returned d)
  | (_, .freeNode _ _) => none
  | (_, .returned _) => none

def pushProgram : Program (ListHeap Addr Data × PushPc Addr Data) where
  step := pushStep
  rank x := x.2.rank
  rank_step := by
    rintro ⟨heap, pc⟩ ⟨heap', pc'⟩ h
    cases pc with
    | setSuccPrev pos node =>
        obtain ⟨succ, -, hsucc⟩ := Option.map_eq_some_iff.mp h
        cases hsucc
        rfl
    | returned => cases h
    | _ =>
        cases h
        rfl

def popProgram : Program (ListHeap Addr Data × PopPc Addr Data) where
  step := popStep
  rank x := x.2.rank
  rank_step := by
    rintro ⟨heap, pc⟩ ⟨heap', pc'⟩ h
    cases pc with
    | readData =>
        obtain ⟨node, -, hnode⟩ := Option.bind_eq_some_iff.mp h
        obtain ⟨d, -, hd⟩ := Option.map_eq_some_iff.mp hnode
        cases hd
        rfl
    | readNode d =>
        obtain ⟨node, -, hnode⟩ := Option.map_eq_some_iff.mp h
        cases hnode
        rfl
    | setPredNext d node =>
        obtain ⟨pred, -, hpred⟩ := Option.map_eq_some_iff.mp h
        cases hpred
        rfl
    | setSuccPrev d node =>
        obtain ⟨succ, -, hsucc⟩ := Option.map_eq_some_iff.mp h
        cases hsucc
        rfl
    | loadCount d node =>
        cases h
        rfl
    | storeCount d node n =>
        cases h
        rfl
    | freeNode d node =>
        cases node with
        | cell a =>
            cases h
            rfl
        | head => cases h
        | tail => cases h
    | returned d => cases h

theorem represents_listInit (data : NodeRef Addr → Option Data) (allocated : Addr → Bool) :
    Represents (listInit data allocated) [] [] := by
  refine ⟨⟨?_, by simp⟩, rfl, nofun, rfl⟩
  simp [Links.Adjacent, listInit]

theorem complete_setData {heap : ListHeap Addr Data} {pos node succ : NodeRef Addr} {d : Data}
    (hnext : heap.links.next pos = some succ) :
    pushProgram.complete (heap, .setData pos node d) =
      some ({ heap with
          links := heap.links.link pos node succ
          data := Function.update heap.data node (some d)
          count := heap.count + 1 }, .returned) := by
  simp [Program.complete, pushProgram, PushPc.rank, Program.iterate, pushStep, hnext, Links.link,
    Links.setNext, Links.setPrev]

theorem complete_readData {heap : ListHeap Addr Data} {a : Addr} {pred succ : NodeRef Addr}
    {d : Data} (hfirst : heap.links.next .head = some (.cell a))
    (hdata : heap.data (.cell a) = some d) (hprev : heap.links.prev (.cell a) = some pred)
    (hnext : heap.links.next (.cell a) = some succ) (hne : pred ≠ .cell a) :
    popProgram.complete (heap, .readData) =
      some (({ heap with
          links := heap.links.unlink pred succ
          count := heap.count - 1 } : ListHeap Addr Data).free a, .returned d) := by
  have hne' : NodeRef.cell a ≠ pred := Ne.symm hne
  simp [Program.complete, popProgram, PopPc.rank, Program.iterate, popStep, hfirst, hdata, hprev,
    hnext, hne', Links.unlink, Links.setNext, Links.setPrev, ListHeap.free]

theorem represents_push {heap : ListHeap Addr Data} {cells : List Addr} {ds : List Data}
    (h : Represents heap cells ds) {a : Addr} (hfresh : heap.allocated a = false)
    {pos : NodeRef Addr} (hpos : heap.links.prev .tail = some pos) (d : Data) :
    ∃ heap', pushProgram.complete (heap.malloc a, .setData pos (.cell a) d) =
        some (heap', .returned) ∧ Represents heap' (cells ++ [a]) (ds ++ [d]) := by
  obtain ⟨pre, pos', hlast, hprev, hnext⟩ := h.exists_last
  obtain rfl : pos = pos' := Option.some.inj (hpos.symm.trans hprev)
  have hnew : a ∉ cells := by
    intro hmem
    rw [h.live a hmem] at hfresh
    cases hfresh
  refine ⟨_, complete_setData hnext, ?_, ?_, ?_, ?_⟩
  · have hpath := h.path
    rw [hlast, List.append_assoc, List.singleton_append] at hpath
    have hnode : NodeRef.cell a ∉ pre ++ pos :: [.tail] := by
      rw [← List.singleton_append, ← List.append_assoc, ← hlast]
      simpa using hnew
    have hlinked := hpath.link hnode
    have hcells : (.head :: (cells ++ [a]).map .cell ++ [.tail] : List (NodeRef Addr)) =
        pre ++ pos :: .cell a :: [.tail] := by
      rw [List.map_append, ← List.cons_append, hlast]
      simp
    rw [hcells]
    exact hlinked
  · have hold : cells.map (fun c => Function.update heap.data (.cell a) (some d) (.cell c)) =
        cells.map (fun c => heap.data (.cell c)) := by
      refine List.map_congr_left fun c hc => Function.update_of_ne ?_ _ _
      rintro ⟨⟩
      exact hnew hc
    rw [List.map_append, List.map_append, ← h.data, ← hold]
    simp [ListHeap.malloc]
  · intro c hc
    by_cases hca : c = a
    · subst hca
      simp [ListHeap.malloc]
    · have hmem : c ∈ cells := by simpa [hca] using hc
      simpa [ListHeap.malloc, hca] using h.live c hmem
  · simp [ListHeap.malloc, h.count]

theorem represents_pop {heap : ListHeap Addr Data} {a : Addr} {cells : List Addr} {d : Data}
    {ds : List Data} (h : Represents heap (a :: cells) (d :: ds)) :
    ∃ heap', popProgram.complete (heap, .readData) = some (heap', .returned d) ∧
      Represents heap' cells ds := by
  obtain ⟨succ, post, hpost⟩ : ∃ succ post,
      (cells.map .cell ++ [.tail] : List (NodeRef Addr)) = succ :: post := by
    cases hcells : (cells.map .cell ++ [.tail] : List (NodeRef Addr)) with
    | nil => simp at hcells
    | cons succ post => exact ⟨succ, post, rfl⟩
  have hpath : heap.links.Path ([] ++ .head :: .cell a :: succ :: post) := by
    rw [← hpost]
    exact h.path
  have hpath' : heap.links.Path ([.head] ++ .cell a :: succ :: post) := hpath
  have hdata := h.data
  simp only [List.map_cons, List.cons.injEq] at hdata
  have hnodup := h.path.nodup
  have hnew : a ∉ cells := by
    simp at hnodup
    exact hnodup.1
  refine ⟨_, complete_readData hpath.next_eq hdata.1 hpath.prev_eq hpath'.next_eq nofun,
    ?_, hdata.2, ?_, ?_⟩
  · have hlinked := hpath.unlink
    rw [List.nil_append, ← hpost] at hlinked
    exact hlinked
  · intro c hc
    have hca : c ≠ a := by
      rintro rfl
      exact hnew hc
    simpa [ListHeap.free, hca] using h.live c (List.mem_cons_of_mem _ hc)
  · simp [ListHeap.free, h.count]

end

end LibtplEgl.TplList
