import LibtplEgl.LabelledSystem
import LibtplEgl.TplList

namespace LibtplEgl.DrawWaitingQueue

open LibtplEgl.LabelledSystem
open LibtplEgl.StraightLine
open LibtplEgl.TplList

universe u v

/-- Where the client is in `__tpl_tbm_surface_enqueue_buffer`; the object mutex
of the surface lets in one client at a time. -/
inductive ClientPc (Addr : Type u) (Buffer : Type v)
  | idle
  | entered (b : Buffer)
  | inited (b : Buffer)
  | located (b : Buffer) (pos : NodeRef Addr)
  | linking (b : Buffer) (pc : PushPc Addr Buffer)
  | pushed
  | unlocked
  deriving DecidableEq, Repr

/-- Where the worker is in `__tpl_tbm_draw_wait_buffer_get`. -/
inductive WorkerPc (Addr : Type u) (Buffer : Type v)
  | idle
  | locked
  | popping (pc : PopPc Addr Buffer)
  | popped (r : Option Buffer)
  deriving DecidableEq, Repr

namespace ClientPc

variable {Addr : Type u} {Buffer : Type v}

/-- Between `pthread_mutex_init` and `pthread_mutex_unlock`. -/
def holds : ClientPc Addr Buffer → Bool
  | .inited _ | .located _ _ | .linking _ _ | .pushed => true
  | _ => false

/-- Inside `__tpl_list_push_back`. -/
def inside : ClientPc Addr Buffer → Bool
  | .located _ _ | .linking _ _ => true
  | _ => false

theorem holds_of_inside {pc : ClientPc Addr Buffer} (h : pc.inside = true) : pc.holds = true := by
  cases pc <;> first | rfl | cases h

end ClientPc

namespace WorkerPc

variable {Addr : Type u} {Buffer : Type v}

/-- Between `pthread_mutex_lock` and `pthread_mutex_unlock`. -/
def holds : WorkerPc Addr Buffer → Bool
  | .idle => false
  | _ => true

/-- Inside `__tpl_list_pop_front`, on a list that is not empty. -/
def inside : WorkerPc Addr Buffer → Bool
  | .popping _ => true
  | _ => false

theorem holds_of_inside {pc : WorkerPc Addr Buffer} (h : pc.inside = true) : pc.holds = true := by
  cases pc <;> first | rfl | cases h

end WorkerPc

/-- `draw_waiting_queue` and `draw_waiting_mutex` of one surface with their two
users. The last two fields record the run: the buffers whose enqueue is bound to
return `TPL_ERROR_NONE`, and the buffers popped. -/
structure State (Addr : Type u) (Buffer : Type v) where
  heap : ListHeap Addr Buffer
  mutex : Bool
  client : ClientPc Addr Buffer
  worker : WorkerPc Addr Buffer
  enqueued : List Buffer
  popped : List Buffer

inductive Label (Addr : Type u) (Buffer : Type v)
  | enqueueBuffer (b : Buffer)
  | mutexInit
  | locateTail
  | malloc (a : Option Addr)
  | pushStep
  | clientUnlock
  | notify
  | workerLock
  | checkEmpty
  | popStep
  | workerUnlock
  deriving DecidableEq, Repr

section

variable {Addr : Type u} {Buffer : Type v}

/-- The list holds what was enqueued and not popped, in order. -/
def Intact (heap : ListHeap Addr Buffer) (popped enqueued : List Buffer) : Prop :=
  ∃ cells ds, Represents heap cells ds ∧ enqueued = popped ++ ds

/-- The two sides exclude each other, the pops follow the enqueues, and the list
is intact whenever neither side is inside. -/
structure Safe (st : State Addr Buffer) : Prop where
  exclusive : ¬ (st.client.inside = true ∧ st.worker.inside = true)
  order : st.popped <+: st.enqueued
  intact : st.client.inside = false → st.worker.inside = false →
    Intact st.heap st.popped st.enqueued

theorem Intact.order {heap : ListHeap Addr Buffer} {popped enqueued : List Buffer}
    (h : Intact heap popped enqueued) : popped <+: enqueued := by
  obtain ⟨cells, ds, -, heq⟩ := h
  exact ⟨ds, heq.symm⟩

end

section

variable {Addr : Type u} {Buffer : Type v} [DecidableEq Addr]

/-- `pthread_mutex_init` and `pthread_mutex_unlock` leave the mutex unlocked
whoever holds it. -/
def step (st : State Addr Buffer) : Label Addr Buffer → Option (State Addr Buffer)
  | .enqueueBuffer b =>
      match st.client with
      | .idle => some { st with client := .entered b }
      | _ => none
  | .mutexInit =>
      match st.client with
      | .entered b => some { st with client := .inited b, mutex := false }
      | _ => none
  | .locateTail =>
      match st.client with
      | .inited b =>
          match st.heap.links.prev .tail with
          | some pos => some { st with client := .located b pos }
          | none => none
      | _ => none
  | .malloc a =>
      match st.client, a with
      | .located b pos, some a =>
          if st.heap.allocated a then none
          else some { st with
            heap := st.heap.malloc a
            client := .linking b (.setData pos (.cell a) b) }
      -- the enqueue ignores that the node could not be allocated
      | .located b _, none =>
          some { st with client := .pushed, enqueued := st.enqueued ++ [b] }
      | _, _ => none
  | .pushStep =>
      match st.client with
      | .linking b pc =>
          match TplList.pushStep (st.heap, pc) with
          | some (heap, .returned) =>
              some { st with heap := heap, client := .pushed, enqueued := st.enqueued ++ [b] }
          | some (heap, pc') => some { st with heap := heap, client := .linking b pc' }
          | none => none
      | _ => none
  | .clientUnlock =>
      match st.client with
      | .pushed => some { st with client := .unlocked, mutex := false }
      | _ => none
  | .notify =>
      match st.client with
      | .unlocked => some { st with client := .idle }
      | _ => none
  | .workerLock =>
      match st.worker with
      | .idle => if st.mutex then none else some { st with worker := .locked, mutex := true }
      | _ => none
  | .checkEmpty =>
      match st.worker with
      | .locked =>
          if st.heap.count = 0 then some { st with worker := .popped none }
          else some { st with worker := .popping .readData }
      | _ => none
  | .popStep =>
      match st.worker with
      | .popping pc =>
          match TplList.popStep (st.heap, pc) with
          | some (heap, .returned d) =>
              some { st with
                heap := heap
                worker := .popped (some d)
                popped := st.popped ++ [d] }
          | some (heap, pc') => some { st with heap := heap, worker := .popping pc' }
          | none => none
      | _ => none
  | .workerUnlock =>
      match st.worker with
      | .popped _ => some { st with worker := .idle, mutex := false }
      | _ => none

def createSwapchain (data : NodeRef Addr → Option Buffer) (allocated : Addr → Bool) :
    State Addr Buffer where
  heap := listInit data allocated
  mutex := false
  client := .idle
  worker := .idle
  enqueued := []
  popped := []

def queueSystem : System (State Addr Buffer) (Label Addr Buffer) where
  Initial st := ∃ data allocated, st = createSwapchain data allocated
  step := step

/-- The steps that a lock in the place of `pthread_mutex_init` would have let
through, with a node allocation that succeeds. -/
def AsLocked (st : State Addr Buffer) : Label Addr Buffer → Prop
  | .mutexInit => st.worker.holds = false
  | .workerLock => st.client.holds = false
  | .malloc a => a ≠ none
  | _ => True

structure Inv (st : State Addr Buffer) : Prop where
  exclusive : ¬ (st.client.holds = true ∧ st.worker.holds = true)
  order : st.popped <+: st.enqueued
  quiet : st.client.inside = false → st.worker.inside = false →
    Intact st.heap st.popped st.enqueued
  located : ∀ b pos, st.client = .located b pos →
    st.heap.links.prev .tail = some pos ∧ Intact st.heap st.popped st.enqueued
  linking : ∀ b pc, st.client = .linking b pc → ∃ heap,
    pushProgram.complete (st.heap, pc) = some (heap, .returned) ∧
      Intact heap st.popped (st.enqueued ++ [b])
  popping : ∀ pc, st.worker = .popping pc → ∃ heap d,
    popProgram.complete (st.heap, pc) = some (heap, .returned d) ∧
      Intact heap (st.popped ++ [d]) st.enqueued

theorem Inv.safe {st : State Addr Buffer} (h : Inv st) : Safe st :=
  ⟨fun hboth => h.exclusive
      ⟨ClientPc.holds_of_inside hboth.1, WorkerPc.holds_of_inside hboth.2⟩,
    h.order, h.quiet⟩

theorem Inv.client_ne {st : State Addr Buffer} (h : Inv st) (hworker : st.worker.holds = true)
    {pc : ClientPc Addr Buffer} (hin : pc.inside = true) : st.client ≠ pc := by
  rintro rfl
  exact h.exclusive ⟨ClientPc.holds_of_inside hin, hworker⟩

theorem Inv.worker_ne {st : State Addr Buffer} (h : Inv st) (hclient : st.client.holds = true)
    {pc : WorkerPc Addr Buffer} (hin : pc.inside = true) : st.worker ≠ pc := by
  rintro rfl
  exact h.exclusive ⟨hclient, WorkerPc.holds_of_inside hin⟩

theorem Inv.intact {st : State Addr Buffer} (h : Inv st)
    (hholder : st.client.holds = true ∧ st.client.inside = false ∨
      st.worker.holds = true ∧ st.worker.inside = false) :
    Intact st.heap st.popped st.enqueued := by
  rcases hholder with ⟨hholds, hout⟩ | ⟨hholds, hout⟩
  · refine h.quiet hout ?_
    by_contra hin
    exact h.worker_ne hholds (by simpa using hin) rfl
  · refine h.quiet ?_ hout
    by_contra hin
    exact h.client_ne hholds (by simpa using hin) rfl

theorem Inv.outside {st st' : State Addr Buffer} (h : Inv st) (hheap : st'.heap = st.heap)
    (henqueued : st'.enqueued = st.enqueued) (hpopped : st'.popped = st.popped)
    (hexclusive : ¬ (st'.client.holds = true ∧ st'.worker.holds = true))
    (hclient : st'.client = st.client ∨ st.client.inside = false ∧ st'.client.inside = false)
    (hworker : st'.worker = st.worker ∨ st.worker.inside = false ∧ st'.worker.inside = false) :
    Inv st' := by
  constructor
  · exact hexclusive
  · rw [hpopped, henqueued]
    exact h.order
  · intro hc hw
    rw [hheap, hpopped, henqueued]
    refine h.quiet ?_ ?_
    · rcases hclient with heq | hout
      · rw [← heq]
        exact hc
      · exact hout.1
    · rcases hworker with heq | hout
      · rw [← heq]
        exact hw
      · exact hout.1
  · intro b pos hpc
    rcases hclient with heq | hout
    · rw [hheap, hpopped, henqueued]
      exact h.located b pos (by rw [← heq, hpc])
    · rw [hpc] at hout
      cases hout.2
  · intro b pc hpc
    rcases hclient with heq | hout
    · rw [hheap, hpopped, henqueued]
      exact h.linking b pc (by rw [← heq, hpc])
    · rw [hpc] at hout
      cases hout.2
  · intro pc hpc
    rcases hworker with heq | hout
    · rw [hheap, hpopped, henqueued]
      exact h.popping pc (by rw [← heq, hpc])
    · rw [hpc] at hout
      cases hout.2

section

variable {st : State Addr Buffer} {b : Buffer}

theorem Inv.locateTail {pos : NodeRef Addr} (h : Inv st) (hpc : st.client = .inited b)
    (hpos : st.heap.links.prev .tail = some pos) :
    Inv { st with client := .located b pos } := by
  have hintact := h.intact (.inl ⟨by rw [hpc]; rfl, by rw [hpc]; rfl⟩)
  have hexclusive := h.exclusive
  rw [hpc] at hexclusive
  refine ⟨hexclusive, h.order, nofun, ?_, nofun, h.popping⟩
  rintro b' pos' ⟨⟩
  exact ⟨hpos, hintact⟩

theorem Inv.malloc {pos : NodeRef Addr} {a : Addr} (h : Inv st)
    (hpc : st.client = .located b pos) (hfresh : st.heap.allocated a = false) :
    Inv { st with
      heap := st.heap.malloc a
      client := .linking b (.setData pos (.cell a) b) } := by
  obtain ⟨hpos, cells, ds, hrep, hds⟩ := h.located b pos hpc
  obtain ⟨heap, hcomplete, hrep'⟩ := represents_push hrep hfresh hpos b
  have hexclusive := h.exclusive
  rw [hpc] at hexclusive
  refine ⟨hexclusive, h.order, nofun, nofun, ?_, ?_⟩
  · rintro b' pc ⟨⟩
    exact ⟨heap, hcomplete, _, _, hrep', by rw [hds, List.append_assoc]⟩
  · intro pc hpop
    exact (h.worker_ne (by rw [hpc]; rfl) rfl hpop).elim

theorem Inv.pushStep {pc pc' : PushPc Addr Buffer} {heap : ListHeap Addr Buffer} (h : Inv st)
    (hpc : st.client = .linking b pc)
    (hpush : TplList.pushStep (st.heap, pc) = some (heap, pc')) :
    Inv { st with heap := heap, client := .linking b pc' } := by
  obtain ⟨heap', hcomplete, hintact⟩ := h.linking b pc hpc
  have hdone := pushProgram.complete_of_step hpush
  have hexclusive := h.exclusive
  rw [hpc] at hexclusive
  refine ⟨hexclusive, h.order, nofun, nofun, ?_, ?_⟩
  · rintro b' pc' ⟨⟩
    exact ⟨heap', hdone.trans hcomplete, hintact⟩
  · intro pc' hpop
    exact (h.worker_ne (by rw [hpc]; rfl) rfl hpop).elim

theorem Inv.pushReturned {pc : PushPc Addr Buffer} {heap : ListHeap Addr Buffer} (h : Inv st)
    (hpc : st.client = .linking b pc)
    (hpush : TplList.pushStep (st.heap, pc) = some (heap, .returned)) :
    Inv { st with heap := heap, client := .pushed, enqueued := st.enqueued ++ [b] } := by
  obtain ⟨heap', hcomplete, hintact⟩ := h.linking b pc hpc
  have hdone := pushProgram.complete_of_step hpush
  rw [hcomplete, Program.complete_of_rank_zero rfl] at hdone
  cases hdone
  have hexclusive := h.exclusive
  rw [hpc] at hexclusive
  refine ⟨hexclusive, hintact.order, fun _ _ => hintact, nofun, nofun, fun pc' hpop => ?_⟩
  exact (h.worker_ne (by rw [hpc]; rfl) rfl hpop).elim

theorem Inv.popFront (h : Inv st) (hpc : st.worker = .locked) (hcount : st.heap.count ≠ 0) :
    Inv { st with worker := .popping .readData } := by
  obtain ⟨cells, ds, hrep, hds⟩ := h.intact (.inr ⟨by rw [hpc]; rfl, by rw [hpc]; rfl⟩)
  rw [Ne, hrep.count_eq_zero_iff] at hcount
  have hexclusive := h.exclusive
  rw [hpc] at hexclusive
  have hout : ∀ pc : ClientPc Addr Buffer, pc.inside = true → st.client ≠ pc :=
    fun _ => h.client_ne (by rw [hpc]; rfl)
  refine ⟨hexclusive, h.order, nofun, fun b pos hloc => absurd hloc (hout _ rfl),
    fun b pc hlink => absurd hlink (hout _ rfl), ?_⟩
  rintro pc ⟨⟩
  cases ds with
  | nil => exact absurd rfl hcount
  | cons d ds =>
      cases cells with
      | nil => cases hrep.length_eq
      | cons a cells =>
          obtain ⟨heap, hcomplete, hrep'⟩ := represents_pop hrep
          exact ⟨heap, d, hcomplete, cells, ds, hrep', by
            rw [hds, List.append_assoc, List.singleton_append]⟩

theorem Inv.popStep {pc pc' : PopPc Addr Buffer} {heap : ListHeap Addr Buffer} (h : Inv st)
    (hpc : st.worker = .popping pc)
    (hpop : TplList.popStep (st.heap, pc) = some (heap, pc')) :
    Inv { st with heap := heap, worker := .popping pc' } := by
  obtain ⟨heap', d, hcomplete, hintact⟩ := h.popping pc hpc
  have hdone := popProgram.complete_of_step hpop
  have hexclusive := h.exclusive
  rw [hpc] at hexclusive
  have hout : ∀ pc : ClientPc Addr Buffer, pc.inside = true → st.client ≠ pc :=
    fun _ => h.client_ne (by rw [hpc]; rfl)
  refine ⟨hexclusive, h.order, nofun, fun b pos hloc => absurd hloc (hout _ rfl),
    fun b pc hlink => absurd hlink (hout _ rfl), ?_⟩
  rintro pc' ⟨⟩
  exact ⟨heap', d, hdone.trans hcomplete, hintact⟩

theorem Inv.popReturned {pc : PopPc Addr Buffer} {heap : ListHeap Addr Buffer} {d : Buffer}
    (h : Inv st) (hpc : st.worker = .popping pc)
    (hpop : TplList.popStep (st.heap, pc) = some (heap, .returned d)) :
    Inv { st with heap := heap, worker := .popped (some d), popped := st.popped ++ [d] } := by
  obtain ⟨heap', d', hcomplete, hintact⟩ := h.popping pc hpc
  have hdone := popProgram.complete_of_step hpop
  rw [hcomplete, Program.complete_of_rank_zero rfl] at hdone
  cases hdone
  have hexclusive := h.exclusive
  rw [hpc] at hexclusive
  have hout : ∀ pc : ClientPc Addr Buffer, pc.inside = true → st.client ≠ pc :=
    fun _ => h.client_ne (by rw [hpc]; rfl)
  exact ⟨hexclusive, hintact.order, fun _ _ => hintact,
    fun b pos hloc => absurd hloc (hout _ rfl), fun b pc hlink => absurd hlink (hout _ rfl),
    nofun⟩

end

theorem inv_step {st st' : State Addr Buffer} {l : Label Addr Buffer} (h : Inv st)
    (hallowed : AsLocked st l) (hstep : step st l = some st') : Inv st' := by
  cases l with
  | enqueueBuffer b =>
      simp only [step] at hstep
      split at hstep
      · rename_i hpc
        cases hstep
        exact h.outside rfl rfl rfl nofun (.inr ⟨by rw [hpc]; rfl, rfl⟩) (.inl rfl)
      · cases hstep
  | mutexInit =>
      simp only [step] at hstep
      split at hstep
      · rename_i b hpc
        cases hstep
        refine h.outside rfl rfl rfl ?_ (.inr ⟨by rw [hpc]; rfl, rfl⟩) (.inl rfl)
        rintro ⟨-, hw⟩
        rw [hallowed] at hw
        cases hw
      · cases hstep
  | locateTail =>
      simp only [step] at hstep
      split at hstep
      · rename_i b hpc
        split at hstep
        · rename_i pos hpos
          cases hstep
          exact h.locateTail hpc hpos
        · cases hstep
      · cases hstep
  | malloc a =>
      simp only [step] at hstep
      split at hstep
      · rename_i b pos a hpc
        split at hstep
        · cases hstep
        · rename_i hfresh
          cases hstep
          exact h.malloc hpc (Bool.eq_false_iff.mpr hfresh)
      · exact absurd rfl hallowed
      · cases hstep
  | pushStep =>
      simp only [step] at hstep
      split at hstep
      · rename_i b pc hpc
        split at hstep
        · rename_i heap hpush
          cases hstep
          exact h.pushReturned hpc hpush
        · rename_i heap pc' _ hpush
          cases hstep
          exact h.pushStep hpc hpush
        · cases hstep
      · cases hstep
  | clientUnlock =>
      simp only [step] at hstep
      split at hstep
      · rename_i hpc
        cases hstep
        exact h.outside rfl rfl rfl nofun (.inr ⟨by rw [hpc]; rfl, rfl⟩) (.inl rfl)
      · cases hstep
  | notify =>
      simp only [step] at hstep
      split at hstep
      · rename_i hpc
        cases hstep
        exact h.outside rfl rfl rfl nofun (.inr ⟨by rw [hpc]; rfl, rfl⟩) (.inl rfl)
      · cases hstep
  | workerLock =>
      simp only [step] at hstep
      split at hstep
      · rename_i hpc
        split at hstep
        · cases hstep
        · cases hstep
          refine h.outside rfl rfl rfl ?_ (.inl rfl) (.inr ⟨by rw [hpc]; rfl, rfl⟩)
          rintro ⟨hc, -⟩
          rw [hallowed] at hc
          cases hc
      · cases hstep
  | checkEmpty =>
      simp only [step] at hstep
      split at hstep
      · rename_i hpc
        split at hstep
        · cases hstep
          have hexclusive := h.exclusive
          rw [hpc] at hexclusive
          exact h.outside rfl rfl rfl hexclusive (.inl rfl) (.inr ⟨by rw [hpc]; rfl, rfl⟩)
        · rename_i hcount
          cases hstep
          exact h.popFront hpc hcount
      · cases hstep
  | popStep =>
      simp only [step] at hstep
      split at hstep
      · rename_i pc hpc
        split at hstep
        · rename_i heap d hpop
          cases hstep
          exact h.popReturned hpc hpop
        · rename_i heap pc' _ hpop
          cases hstep
          exact h.popStep hpc hpop
        · cases hstep
      · cases hstep
  | workerUnlock =>
      simp only [step] at hstep
      split at hstep
      · rename_i hpc
        cases hstep
        exact h.outside rfl rfl rfl (fun hboth => nomatch hboth.2) (.inl rfl)
          (.inr ⟨by rw [hpc]; rfl, rfl⟩)
      · cases hstep

theorem inv_reachable {st : State Addr Buffer} (h : queueSystem.ReachableWhen AsLocked st) :
    Inv st := by
  refine h.invariant ?_ fun _ _ _ hinv hallowed hstep => inv_step hinv hallowed hstep
  rintro _ ⟨data, allocated, rfl⟩
  exact ⟨nofun, List.nil_prefix,
    fun _ _ => ⟨[], [], represents_listInit data allocated, rfl⟩, nofun, nofun, nofun⟩

/-- The queue is safe in every run that a lock would have allowed. -/
theorem drawWaitingQueue_safe {st : State Addr Buffer}
    (h : queueSystem.ReachableWhen AsLocked st) : Safe st := (inv_reachable h).safe

instance (st : State Addr Buffer) (l : Label Addr Buffer) : Decidable (AsLocked st l) :=
  match l with
  | .mutexInit => inferInstanceAs (Decidable (st.worker.holds = false))
  | .workerLock => inferInstanceAs (Decidable (st.client.holds = false))
  | .malloc a => inferInstanceAs (Decidable (a ≠ none))
  | .enqueueBuffer _ | .locateTail | .pushStep | .clientUnlock | .notify | .checkEmpty
  | .popStep | .workerUnlock => isTrue trivial

def pushSteps (n : Nat) : List (Label Nat Nat) := List.replicate n .pushStep

def popSteps (n : Nat) : List (Label Nat Nat) := List.replicate n .popStep

def enqueueThenPop : List (Label Nat Nat) :=
  [.enqueueBuffer 1, .mutexInit, .locateTail, .malloc (some 0)] ++ pushSteps 7 ++
    [.clientUnlock, .notify, .enqueueBuffer 2, .workerLock, .checkEmpty] ++ popSteps 7

theorem drawWaitingQueue_safe_enqueue_then_pop :
    ∃ st, queueSystem.runWhen AsLocked (createSwapchain (fun _ => none) fun _ => false)
        enqueueThenPop = some st ∧ st.popped = [1] ∧ Safe st := by
  obtain ⟨st, hrun, hpopped⟩ := queueSystem.exists_of_runWhen AsLocked
    (fun st => st.popped = [1])
    (createSwapchain (fun _ => none) fun _ => false) enqueueThenPop (by decide +kernel)
  exact ⟨st, hrun, hpopped, drawWaitingQueue_safe (.of_runWhen (.initial ⟨_, _, rfl⟩) hrun)⟩

/-- The second enqueue links its buffer and loads the count, the worker pops the
first buffer up to its load, then both store. -/
def lostBuffer : List (Label Nat Nat) :=
  [.enqueueBuffer 1, .mutexInit, .locateTail, .malloc (some 0)] ++ pushSteps 7 ++
    [.clientUnlock, .notify, .enqueueBuffer 2, .mutexInit, .locateTail, .malloc (some 1)] ++
    pushSteps 6 ++ [.workerLock, .checkEmpty] ++ popSteps 5 ++ [.pushStep, .popStep, .popStep]

/-- The second buffer is then linked in a list that counts no node. -/
theorem drawWaitingQueue_not_safe :
    ¬ ∀ st : State Nat Nat, queueSystem.Reachable st → Safe st := by
  intro hall
  obtain ⟨st, hrun, hclient, hworker, hcount, henqueued, hpopped⟩ := queueSystem.exists_of_run
    (fun st => st.client.inside = false ∧ st.worker.inside = false ∧ st.heap.count = 0 ∧
      st.enqueued = [1, 2] ∧ st.popped = [1])
    (createSwapchain (fun _ => none) fun _ => false) lostBuffer (by decide +kernel)
  obtain ⟨cells, ds, hrep, hds⟩ :=
    (hall st (.of_run (.initial ⟨_, _, rfl⟩) hrun)).intact hclient hworker
  rw [hrep.count_eq_zero_iff] at hcount
  subst hcount
  rw [henqueued, hpopped] at hds
  cases hds

end

end LibtplEgl.DrawWaitingQueue
