import LibtplEgl.WorkerOrder

namespace LibtplEgl.BufferAccess

open LibtplEgl.LabelledSystem
open LibtplEgl.TplTypes
open LibtplEgl.WorkerThread (Completion Fd Fires WorkerPc workerSystem)
open LibtplEgl.WorkerOrder (Books Keeps Settles StaysListed clears inHand waiting
  mem_waiting_of_drawWaitBuffer)

universe u v w

/-- The last job that the client gave its GPU for a buffer. -/
inductive Job
  | idle
  | submitted
  | writing
  deriving DecidableEq, Repr

/-- A wayland-vulkan surface with a swapchain: the worker, the free side of its
`tbm_queue`, the buffers that the client holds with the fences of the last dequeues,
what the library keeps of a buffer, and the other two parties. `timeline` counts the
commits of a buffer that the server is done with, `reading` those that it is not. -/
structure State (Ws : Type u) (Buffer : Type v) (Client : Type w) where
  worker : WorkerThread.State Ws Buffer Client
  freeQueue : List Buffer
  held : List Buffer
  acquireFence : Buffer → Option (BitVec 32)
  wrapped : Buffer → Bool
  syncTimestamp : Buffer → BitVec 32
  job : Buffer → Job
  timeline : Buffer → Nat
  reading : Buffer → Nat

/-- How a dequeue goes: whether the caller wants a fence, whether
`tbm_sync_fence_create` succeeds, and whether a buffer that comes for the first time
gets its record, its `wl_buffer` and its timeline. -/
structure DequeueOutcome where
  syncFence : Bool
  created : Bool
  wraps : Bool
  deriving DecidableEq, Repr

section

variable {Ws : Type u} {Buffer : Type v} {Client : Type w} [DecidableEq Ws] [DecidableEq Buffer]

namespace State

/-- `__tpl_wayland_vk_wsi_surface_dequeue_buffer`, once the queue has a buffer. -/
def dequeueBuffer (st : State Ws Buffer Client) (out : DequeueOutcome) :
    Option (State Ws Buffer Client) :=
  match st.freeQueue with
  | [] => none
  | b :: freeQueue =>
      if st.wrapped b then
        some { st with
          freeQueue := freeQueue
          held := b :: st.held
          acquireFence := Function.update st.acquireFence b
            (if out.syncFence = true ∧ st.syncTimestamp b ≠ 0 ∧ out.created = true then
              some (st.syncTimestamp b)
            else none) }
      else if out.wraps then
        some { st with
          freeQueue := freeQueue
          held := b :: st.held
          acquireFence := Function.update st.acquireFence b none
          wrapped := Function.update st.wrapped b true
          syncTimestamp := Function.update st.syncTimestamp b 0
          timeline := Function.update st.timeline b 0 }
      else some { st with freeQueue := freeQueue }

/-- `__tpl_wayland_vk_wsi_surface_get_swapchain_buffers`: so many buffers are
dequeued, as long as there are any, and released again. -/
def getSwapchainBuffers (st : State Ws Buffer Client) (count : Nat) : State Ws Buffer Client :=
  { st with freeQueue := st.freeQueue.drop count ++ st.freeQueue.take count }

/-- `__tpl_wayland_vk_wsi_surface_commit_buffer`: the server has one more commit to
read, and the buffer goes to the free side of the queue. -/
def commitBuffer (st : State Ws Buffer Client) (b : Buffer) : State Ws Buffer Client :=
  { st with
    reading := Function.update st.reading b (st.reading b + 1)
    syncTimestamp := Function.update st.syncTimestamp b (st.syncTimestamp b + 1)
    freeQueue := st.freeQueue ++ [b] }

def setJob (st : State Ws Buffer Client) (b : Buffer) (job : Job) : State Ws Buffer Client :=
  { st with job := Function.update st.job b job }

/-- The fence of the last dequeue is signalled, or there is none to wait for. -/
def mayWrite (st : State Ws Buffer Client) (b : Buffer) : Bool :=
  (st.acquireFence b).all fun timestamp => decide (timestamp.toNat ≤ st.timeline b)

end State

/-- The buffer of `s` whose `draw_done` the worker calls next. -/
def finishing (s : Ws) (worker : WorkerThread.State Ws Buffer Client) : Option Buffer :=
  match worker.worker with
  | .finish t _ _ _ => if t = s then (worker.surface s).drawWaitBuffer else none
  | .rejecting t b _ => if t = s then some b else none
  | _ => none

/-- The buffer of `s` for which a step of the worker calls `draw_done`, which commits
it: `create_swapchain` leaves no present mode for which it would wait. -/
def completes (s : Ws) (worker : WorkerThread.State Ws Buffer Client) :
    WorkerThread.Label Ws Buffer Client → Option Buffer
  | .drawDone | .drawDoneRejected => finishing s worker
  | _ => none

/-- The buffer that a step enqueues on `s`, with its fence. -/
def enqueues (s : Ws) : WorkerThread.Label Ws Buffer Client → Option (Buffer × Fd)
  | .enqueueBuffer _ t b syncFence _ => if t = s then some (b, syncFence) else none
  | _ => none

/-- What holds of the client and the system: the client enqueues a buffer that it
holds, with the fence of its job if that is not done; the descriptor of a fence is not
that of another open one, and is signalled when the job is done. -/
def permits (s : Ws) (st : State Ws Buffer Client) : WorkerThread.Label Ws Buffer Client → Prop
  | .enqueueBuffer _ t b syncFence signalled =>
      (syncFence ≠ -1 → ∀ b' ∈ waiting st.worker s, st.worker.waitSync b' ≠ syncFence) ∧
        (t = s → b ∈ st.held ∧ (syncFence = -1 ∨ signalled = true → st.job b = .idle))
  | .fenceSignal fd =>
      ∀ b ∈ waiting st.worker s, st.worker.waitSync b = fd → st.job b = .idle
  | _ => True

instance (s : Ws) (st : State Ws Buffer Client) : ∀ l, Decidable (permits s st l)
  | .enqueueBuffer _ _ _ _ _ => inferInstanceAs (Decidable (_ ∧ _))
  | .fenceSignal _ => inferInstanceAs (Decidable (∀ b ∈ _, _))
  | .createSurface _ _ | .createSwapchain _ | .destroySwapchain _ | .destroySurface _
  | .newBufferNotify _ | .workerFini | .prepareEventFd _ | .loopStart | .scanNext | .popBuffer
  | .pollFence _ | .drawDoneRejected | .epollWait _ | .handleEvent | .fenceWait _ | .drawDone
  | .clearDrawWaitBuffer => inferInstanceAs (Decidable True)

/-- The calls of the client on its surface, its jobs, the server, and the single steps
of the worker and of everything that it works for. -/
inductive Label (Ws : Type u) (Buffer : Type v) (Client : Type w)
  | dequeueBuffer (out : DequeueOutcome)
  | getSwapchainBuffers (count : Nat)
  | submit (b : Buffer)
  | startWriting (b : Buffer)
  | finishWriting (b : Buffer)
  | release (b : Buffer)
  | worker (l : WorkerThread.Label Ws Buffer Client)
  deriving DecidableEq, Repr

variable [DecidableEq Client]

def workerStep (s : Ws) (st : State Ws Buffer Client) (l : WorkerThread.Label Ws Buffer Client) :
    Option (State Ws Buffer Client) :=
  if permits s st l then
    (WorkerThread.step st.worker l).map fun worker =>
      let st' := { st with
        worker := worker
        held := match enqueues s l with
          | some (b, _) => st.held.erase b
          | none => st.held }
      match completes s st.worker l with
      | some b => st'.commitBuffer b
      | none => st'
  else none

def step (s : Ws) (st : State Ws Buffer Client) : Label Ws Buffer Client →
    Option (State Ws Buffer Client)
  | .dequeueBuffer out => st.dequeueBuffer out
  | .getSwapchainBuffers count => some (st.getSwapchainBuffers count)
  | .submit b =>
      if b ∈ st.held ∧ st.job b = .idle then some (st.setJob b .submitted) else none
  | .startWriting b =>
      if st.job b = .submitted ∧ st.mayWrite b = true then some (st.setJob b .writing) else none
  | .finishWriting b => if st.job b = .writing then some (st.setJob b .idle) else none
  | .release b =>
      if st.reading b = 0 then none
      else some { st with
        timeline := Function.update st.timeline b (st.timeline b + 1)
        reading := Function.update st.reading b (st.reading b - 1) }
  | .worker l => workerStep s st l

/-- What `create_swapchain` leaves, with the buffers of the new queue. -/
def newSwapchain (worker : WorkerThread.State Ws Buffer Client) (buffers : List Buffer) :
    State Ws Buffer Client where
  worker := worker
  freeQueue := buffers
  held := []
  acquireFence := fun _ => none
  wrapped := fun _ => false
  syncTimestamp := fun _ => 0
  job := fun _ => .idle
  timeline := fun _ => 0
  reading := fun _ => 0

/-- A swapchain from its creation on, by a library that may have run before. -/
def accessSystem (s : Ws) : System (State Ws Buffer Client) (Label Ws Buffer Client) where
  Initial st := ∃ before worker buffers,
    workerSystem.ReachableWhen (StaysListed s) before ∧ (before.surface s).swapchain = false ∧
      WorkerThread.step before (.createSwapchain s) = some worker ∧ buffers.Nodup ∧
      st = newSwapchain worker buffers
  step := step s

/-- The worker waits for a fence that it finds with a buffer of `s`. -/
def PollsFence (s : Ws) (worker : WorkerThread.State Ws Buffer Client) :
    WorkerThread.Label Ws Buffer Client → Prop
  | .pollFence added => added = true ∨
      match worker.worker with
      | .popped t b _ => t = s → worker.waitSync b = -1
      | _ => True
  | _ => True

/-- Nothing that keeps the parties apart fails: a dequeue takes the fence of a buffer
that was committed, the worker waits for the fences of the enqueues, and no timestamp
wraps around. -/
def Fenced (s : Ws) (st : State Ws Buffer Client) : Label Ws Buffer Client → Prop
  | .dequeueBuffer out => ∀ b ∈ st.freeQueue.head?, st.syncTimestamp b ≠ 0 →
      out.syncFence = true ∧ out.created = true
  | .worker l => StaysListed s st.worker l ∧ PollsFence s st.worker l ∧
      ∀ b ∈ completes s st.worker l, st.syncTimestamp b ≠ BitVec.allOnes 32
  | .getSwapchainBuffers _ | .submit _ | .startWriting _ | .finishWriting _ | .release _ => True

/-- The fence of an enqueue is none, or is signalled. -/
def FenceDone (worker : WorkerThread.State Ws Buffer Client) (b : Buffer) : Prop :=
  worker.waitSync b = -1 ∨ worker.signalled (worker.waitSync b) = true

theorem ne_createSwapchain {s : Ws} {worker : WorkerThread.State Ws Buffer Client}
    {l : WorkerThread.Label Ws Buffer Client} (hswap : (worker.surface s).swapchain = true)
    (hallowed : StaysListed s worker l) : l ≠ .createSwapchain s := by
  intro hl
  have hnone := hallowed.once hl
  rw [hswap] at hnone
  cases hnone

theorem records_of_step {s : Ws} {worker worker' : WorkerThread.State Ws Buffer Client}
    {l : WorkerThread.Label Ws Buffer Client} (hcreate : l ≠ .createSwapchain s)
    (hstep : WorkerThread.step worker l = some worker') :
    worker'.enqueued s = worker.enqueued s ++ (enqueues s l).toList ∧
      (worker'.done s).map Completion.buffer =
        (worker.done s).map Completion.buffer ++ (completes s worker l).toList := by
  have hsame : worker'.enqueued s = worker.enqueued s → worker'.done s = worker.done s →
      enqueues s l = none → completes s worker l = none →
      worker'.enqueued s = worker.enqueued s ++ (enqueues s l).toList ∧
        (worker'.done s).map Completion.buffer =
          (worker.done s).map Completion.buffer ++ (completes s worker l).toList := by
    intro henqueued hdone hnone hnone'
    rw [henqueued, hdone, hnone, hnone']
    exact ⟨(List.append_nil _).symm, (List.append_nil _).symm⟩
  have hdrawDone : ∀ (t : Ws) (b : Buffer) (result : TplResult) (report : Option Fd),
      ((worker.drawDone t b result report).done s).map Completion.buffer =
        (worker.done s).map Completion.buffer ++ if t = s then [b] else [] := by
    intro t b result report
    unfold WorkerThread.State.drawDone
    dsimp only
    split
    · rename_i hts
      rw [hts, Function.update_self, List.map_append]
      rfl
    · rename_i hts
      rw [Function.update_of_ne (Ne.symm hts), List.append_nil]
  cases Fires.of_step hstep with
  | @createSwapchain t _ _ =>
      have hne : s ≠ t := by
        rintro rfl
        exact hcreate rfl
      refine hsame ?_ ?_ rfl rfl
      · exact Function.update_of_ne hne _ _
      · exact Function.update_of_ne hne _ _
  | @enqueueBuffer c t b syncFence signalled _ _ =>
      refine ⟨?_, (List.append_nil _).symm⟩
      show Function.update worker.enqueued t _ s = _
      unfold enqueues
      dsimp only
      split
      · rename_i hts
        rw [hts, Function.update_self]
        rfl
      · rename_i hts
        rw [Function.update_of_ne (Ne.symm hts)]
        exact (List.append_nil _).symm
  | @drawDoneRejected t b rest hpc =>
      refine ⟨(List.append_nil _).symm, ?_⟩
      show ((worker.drawDone t b _ _).done s).map Completion.buffer = _
      rw [hdrawDone, completes, finishing, hpc]
      dsimp only
      split
      · rfl
      · rfl
  | @drawDone t result report evs b hpc hwait =>
      refine ⟨(List.append_nil _).symm, ?_⟩
      show ((worker.drawDone t b _ _).done s).map Completion.buffer = _
      rw [hdrawDone, completes, finishing, hpc]
      dsimp only
      split
      · rename_i hts
        rw [← hts, hwait]
        rfl
      · rfl
  | createSurface _ | destroySwapchain _ | destroySurface _ _ | destroySurfaceSwapchain _
  | newBufferNotify _ | fenceSignal | workerFini | eventFdCreated _ | eventFdFailed _
  | scanStart _ | loopEnd _ | scanEnd _ | scanWaiting _ _ | scanPrepare _ _ | popEmpty _ _
  | popBuffer _ _ | fenceAdded _ _ _ | fenceNotAdded _ | epollWait _ _ | batchEnd _
  | readEventFd _ | noEpollin _ | drawWaiting _ _ | alreadySignalled _ | noFence _ _ _
  | fenceSignalled _ _ | fenceNotSignalled _ | clearDrawWaitBuffer _ =>
      exact hsame rfl rfl rfl rfl

theorem swapchain_of_step {s : Ws} {worker worker' : WorkerThread.State Ws Buffer Client}
    {l : WorkerThread.Label Ws Buffer Client} (h : WorkerOrder.Inv s worker)
    (hswap : (worker.surface s).swapchain = true) (hallowed : StaysListed s worker l)
    (hstep : WorkerThread.step worker l = some worker') :
    (worker'.surface s).swapchain = true := by
  have hset : ∀ (t : Ws) (ws : WorkerThread.WorkerSurface Buffer),
      (t = s → ws.swapchain = true) →
      ((worker.setSurface t ws).surface s).swapchain = true := by
    intro t ws hws
    unfold WorkerThread.State.setSurface
    dsimp only
    rcases eq_or_ne s t with rfl | hne
    · rw [Function.update_self]
      exact hws rfl
    · rw [Function.update_of_ne hne]
      exact hswap
  cases Fires.of_step hstep with
  | @createSurface t hasGet hfree =>
      refine hset t _ ?_
      rintro rfl
      rw [h.allocated hswap] at hfree
      cases hfree
  | createSwapchain _ _ => exact hset _ _ fun _ => rfl
  | @destroySwapchain t _ =>
      refine hset t _ ?_
      rintro rfl
      exact absurd rfl hallowed.stays
  | @destroySurface t _ hnone =>
      refine hset t _ ?_
      rintro rfl
      rw [hswap] at hnone
      cases hnone
  | @destroySurfaceSwapchain t _ =>
      have hne : s ≠ t := by
        rintro rfl
        exact absurd rfl hallowed.stays
      simpa [WorkerThread.State.surfaceListRemove, WorkerThread.State.setSurface, hne] using hswap
  | enqueueBuffer _ hlisted => exact hset _ _ fun _ => hlisted
  | popBuffer _ _ | fenceAdded _ _ _ | clearDrawWaitBuffer _ =>
      refine hset _ _ ?_
      rintro rfl
      exact hswap
  | newBufferNotify _ | fenceSignal | workerFini | eventFdCreated _ | eventFdFailed _
  | scanStart _ | loopEnd _ | scanEnd _ | scanWaiting _ _ | scanPrepare _ _ | popEmpty _ _
  | fenceNotAdded _ | drawDoneRejected _ | epollWait _ _ | batchEnd _ | readEventFd _
  | noEpollin _ | drawWaiting _ _ | alreadySignalled _ | noFence _ _ _ | fenceSignalled _ _
  | fenceNotSignalled _ | drawDone _ _ =>
      exact hswap

omit [DecidableEq Ws] [DecidableEq Buffer] [DecidableEq Client] in
theorem buffers_of_settled {done : List (Completion Buffer)} {completed : List (Buffer × Fd)}
    (h : List.Forall₂ Settles done completed) :
    done.map Completion.buffer = completed.map Prod.fst := by
  induction h with
  | nil => rfl
  | cons hfirst _ ih => rw [List.map_cons, List.map_cons, hfirst.buffer, ih]

theorem waiting_of_step {s : Ws} {worker worker' : WorkerThread.State Ws Buffer Client}
    {l : WorkerThread.Label Ws Buffer Client} (h : WorkerOrder.Inv s worker)
    (h' : WorkerOrder.Inv s worker') (hcreate : l ≠ .createSwapchain s)
    (hstep : WorkerThread.step worker l = some worker') :
    (completes s worker l).toList ++ waiting worker' s =
      waiting worker s ++ ((enqueues s l).toList.map Prod.fst) := by
  have hbooks : ∀ {worker : WorkerThread.State Ws Buffer Client}, WorkerOrder.Inv s worker →
      (worker.enqueued s).map Prod.fst =
        (worker.done s).map Completion.buffer ++ waiting worker s := by
    intro worker h
    obtain ⟨completed, pending, hbooks⟩ := h.books
    rw [hbooks.split, List.map_append, buffers_of_settled hbooks.settled, hbooks.waits]
  obtain ⟨henqueued, hdone⟩ := records_of_step hcreate hstep
  have hafter := hbooks h'
  rw [henqueued, hdone, List.map_append, hbooks h, List.append_assoc, List.append_assoc] at hafter
  exact (List.append_cancel_left hafter).symm

omit [DecidableEq Buffer] [DecidableEq Client] in
theorem mem_waiting_of_finishing {s : Ws} {worker : WorkerThread.State Ws Buffer Client}
    {b : Buffer} (h : finishing s worker = some b) : b ∈ waiting worker s := by
  unfold finishing at h
  split at h
  · rename_i t result report evs hpc
    split at h
    · refine mem_waiting_of_drawWaitBuffer h ?_
      rw [hpc]
      intro hclear
      cases hclear
    · cases h
  · rename_i t b' rest hpc
    split at h
    · rename_i hts
      obtain rfl := Option.some.inj h
      unfold waiting
      refine List.mem_append_left _ ?_
      unfold inHand
      rw [hpc, WorkerPc.hand]
      dsimp only
      rw [if_pos hts]
      exact List.mem_cons_self
    · cases h
  · cases h

theorem waitSync_of_rejecting {s : Ws} {worker : WorkerThread.State Ws Buffer Client}
    {b : Buffer} {rest : List Ws} {added : Bool} (hpc : worker.worker = .popped s b rest)
    (hpolls : PollsFence s worker (.pollFence added))
    (hstep : WorkerThread.step worker (.pollFence added) =
      some (worker.goto (.rejecting s b rest))) : worker.waitSync b = -1 := by
  by_contra hfence
  simp only [PollsFence, hpc] at hpolls
  rcases hpolls with hadded | hnone
  · simp only [WorkerThread.step, hpc, hadded, hfence, ne_eq, not_false_eq_true, and_self,
      if_true] at hstep
    split at hstep
    · split at hstep
      · cases hstep
      · have hpc' := congrArg WorkerThread.State.worker (Option.some.inj hstep)
        simp [WorkerThread.State.goto] at hpc'
    · cases hstep
  · exact hfence (hnone trivial)

theorem fenceDone_of_fenceWait {s : Ws} {worker worker' : WorkerThread.State Ws Buffer Client}
    {b : Buffer} {evs : List (WorkerThread.EpollEvent Ws)}
    (hpc : worker.worker = .fenceWait s evs)
    (hwait : (worker.surface s).drawWaitBuffer = some b)
    (hstep : WorkerThread.step worker (.fenceWait 1) = some worker') : FenceDone worker b := by
  simp only [WorkerThread.step, hpc, hwait] at hstep
  split at hstep
  · split at hstep
    · rename_i hnone
      exact .inl hnone
    · split at hstep
      · split at hstep
        · rename_i hsignalled
          exact .inr hsignalled
        · cases hstep
      · rename_i hone
        exact absurd trivial hone
  · cases hstep

theorem finishing_of_step {s : Ws} {worker worker' : WorkerThread.State Ws Buffer Client}
    {l : WorkerThread.Label Ws Buffer Client} (h : WorkerOrder.Inv s worker)
    (hswap : (worker.surface s).swapchain = true) (hallowed : StaysListed s worker l)
    (hpolls : PollsFence s worker l) (hstep : WorkerThread.step worker l = some worker')
    {b : Buffer} (hb : finishing s worker' = some b) :
    finishing s worker = some b ∨ b ∈ waiting worker s ∧ FenceDone worker b := by
  have hsame : worker'.worker = worker.worker →
      (worker'.surface s).drawWaitBuffer = (worker.surface s).drawWaitBuffer →
      finishing s worker = some b := by
    intro hpc hwait
    unfold finishing at hb ⊢
    rw [hpc] at hb
    split at hb
    · rw [hwait] at hb
      exact hb
    · exact hb
    · cases hb
  have hset : ∀ {t : Ws} {ws : WorkerThread.WorkerSurface Buffer},
      (t = s → ws.drawWaitBuffer = (worker.surface s).drawWaitBuffer) →
      ((worker.setSurface t ws).surface s).drawWaitBuffer =
        (worker.surface s).drawWaitBuffer := by
    intro t ws hws
    unfold WorkerThread.State.setSurface
    dsimp only
    rcases eq_or_ne s t with rfl | hne
    · rw [Function.update_self]
      exact hws rfl
    · rw [Function.update_of_ne hne]
  cases Fires.of_step hstep with
  | @createSurface t hasGet hfree =>
      refine .inl (hsame rfl (hset ?_))
      rintro rfl
      rw [h.allocated hswap] at hfree
      cases hfree
  | @createSwapchain t _ _ =>
      refine .inl (hsame rfl (hset ?_))
      rintro rfl
      exact absurd rfl (ne_createSwapchain hswap hallowed)
  | @destroySwapchain t _ =>
      refine .inl (hsame rfl (hset ?_))
      rintro rfl
      exact absurd rfl hallowed.stays
  | @destroySurface t _ _ =>
      refine .inl (hsame rfl (hset ?_))
      rintro rfl
      rfl
  | @destroySurfaceSwapchain t _ =>
      have hne : s ≠ t := by
        rintro rfl
        exact absurd rfl hallowed.stays
      refine .inl (hsame rfl ?_)
      simp [WorkerThread.State.surfaceListRemove, WorkerThread.State.setSurface, hne]
  | enqueueBuffer _ _ =>
      refine .inl (hsame rfl (hset ?_))
      rintro rfl
      rfl
  | newBufferNotify _ | fenceSignal | workerFini => exact .inl (hsame rfl rfl)
  | @fenceNotAdded t b' rest added hpc =>
      have hts : t = s ∧ b' = b := by
        simpa [finishing, WorkerThread.State.goto] using hb
      obtain ⟨rfl, rfl⟩ := hts
      refine .inr ⟨?_, .inl (waitSync_of_rejecting hpc hpolls hstep)⟩
      unfold waiting inHand
      rw [hpc, WorkerPc.hand]
      simp
  | @noFence t evs b' result hpc hwait hnone =>
      have hts : t = s ∧ (worker.surface s).drawWaitBuffer = some b := by
        simpa [finishing, WorkerThread.State.goto] using hb
      obtain ⟨rfl, hwait'⟩ := hts
      rw [hwait] at hwait'
      obtain rfl := Option.some.inj hwait'
      exact .inr ⟨mem_waiting_of_drawWaitBuffer hwait (by simp [hpc, clears]), .inl hnone⟩
  | @fenceSignalled t evs b' hpc hwait =>
      have hts : t = s ∧ (worker.surface s).drawWaitBuffer = some b := by
        simpa [finishing, WorkerThread.State.goto, WorkerThread.State.epollDel] using hb
      obtain ⟨rfl, hwait'⟩ := hts
      rw [hwait] at hwait'
      obtain rfl := Option.some.inj hwait'
      exact .inr ⟨mem_waiting_of_drawWaitBuffer hwait (by simp [hpc, clears]),
        fenceDone_of_fenceWait hpc hwait hstep⟩
  | eventFdCreated _ | eventFdFailed _
  | scanStart _ | loopEnd _ | scanEnd _ | scanWaiting _ _ | scanPrepare _ _ | popEmpty _ _
  | popBuffer _ _ | fenceAdded _ _ _ | drawDoneRejected _ | epollWait _ _ | batchEnd _
  | readEventFd _ | noEpollin _ | drawWaiting _ _ | alreadySignalled _
  | fenceNotSignalled _ | drawDone _ _ | clearDrawWaitBuffer _ =>
      simp [finishing, WorkerThread.State.goto] at hb

theorem signalled_of_step {worker worker' : WorkerThread.State Ws Buffer Client}
    {l : WorkerThread.Label Ws Buffer Client}
    (hstep : WorkerThread.step worker l = some worker') {fd : Fd}
    (hfd : worker'.signalled fd = true) :
    worker.signalled fd = true ∨ l = .fenceSignal fd ∨
      ∃ c t b signalled, l = .enqueueBuffer c t b fd signalled := by
  cases Fires.of_step hstep with
  | @fenceSignal fd' =>
      rcases eq_or_ne fd fd' with rfl | hne
      · exact .inr (.inl rfl)
      · exact .inl ((Function.update_of_ne hne _ _).symm.trans hfd)
  | @enqueueBuffer c t b syncFence signalled _ _ =>
      rcases eq_or_ne fd syncFence with rfl | hne
      · exact .inr (.inr ⟨c, t, b, signalled, rfl⟩)
      · exact .inl ((Function.update_of_ne hne _ _).symm.trans hfd)
  | createSurface _ | createSwapchain _ _ | destroySwapchain _ | destroySurface _ _
  | destroySurfaceSwapchain _ | newBufferNotify _ | workerFini | eventFdCreated _
  | eventFdFailed _ | scanStart _ | loopEnd _ | scanEnd _ | scanWaiting _ _ | scanPrepare _ _
  | popEmpty _ _ | popBuffer _ _ | fenceAdded _ _ _ | fenceNotAdded _ | drawDoneRejected _
  | epollWait _ _ | batchEnd _ | readEventFd _ | noEpollin _ | drawWaiting _ _
  | alreadySignalled _ | noFence _ _ _ | fenceSignalled _ _ | fenceNotSignalled _ | drawDone _ _
  | clearDrawWaitBuffer _ =>
      exact .inl hfd

def inUse (s : Ws) (st : State Ws Buffer Client) : List Buffer :=
  st.held ++ waiting st.worker s

/-- The last dequeue of a buffer has given the fence of its last commit. -/
structure Acquired (st : State Ws Buffer Client) (b : Buffer) : Prop where
  wrapped : st.wrapped b = true
  fence : st.acquireFence b = some (st.syncTimestamp b) ∨
    st.acquireFence b = none ∧ st.syncTimestamp b = 0

structure Inv (s : Ws) (st : State Ws Buffer Client) : Prop where
  order : WorkerOrder.Inv s st.worker
  listed : (st.worker.surface s).swapchain = true
  places : (st.freeQueue ++ inUse s st).Nodup
  counts : ∀ b, st.wrapped b = true →
    (st.syncTimestamp b).toNat = st.timeline b + st.reading b
  unread : ∀ b, st.wrapped b = false → st.reading b = 0
  acquired : ∀ b ∈ inUse s st, Acquired st b
  busy : ∀ b, st.job b ≠ .idle → b ∈ inUse s st
  started : ∀ b, st.job b = .writing → st.reading b = 0
  fences : ∀ b ∈ waiting st.worker s, FenceDone st.worker b → st.job b = .idle
  finishing : ∀ b, finishing s st.worker = some b → st.job b = .idle

variable {s : Ws} {st : State Ws Buffer Client} {b : Buffer}

omit [DecidableEq Ws] [DecidableEq Buffer] [DecidableEq Client] in
theorem Acquired.frame {st' : State Ws Buffer Client} (h : Acquired st b)
    (hwrapped : st'.wrapped b = st.wrapped b) (hfence : st'.acquireFence b = st.acquireFence b)
    (htimestamp : st'.syncTimestamp b = st.syncTimestamp b) : Acquired st' b := by
  refine ⟨hwrapped.trans h.wrapped, ?_⟩
  rw [hfence, htimestamp]
  exact h.fence

omit [DecidableEq Buffer] [DecidableEq Client] in
/-- For a buffer in use, the fence of the dequeue says whether the server reads it. -/
theorem Inv.mayWrite_iff (h : Inv s st) (hb : b ∈ inUse s st) :
    st.mayWrite b = true ↔ st.reading b = 0 := by
  have hcounts := h.counts b (h.acquired b hb).wrapped
  unfold State.mayWrite
  rcases (h.acquired b hb).fence with hsome | ⟨hnone, hzero⟩
  · rw [hsome, Option.all_some, decide_eq_true_eq]
    omega
  · rw [hzero] at hcounts
    have hread : st.reading b = 0 := by
      have hsum : 0 = st.timeline b + st.reading b := hcounts
      omega
    rw [hnone, hread]
    simp

omit [DecidableEq Client] in
theorem Inv.dequeueBuffer {out : DequeueOutcome} {st' : State Ws Buffer Client} (h : Inv s st)
    (hfenced : ∀ b ∈ st.freeQueue.head?, st.syncTimestamp b ≠ 0 →
      out.syncFence = true ∧ out.created = true)
    (hstep : st.dequeueBuffer out = some st') : Inv s st' := by
  have hplaces := h.places
  unfold State.dequeueBuffer at hstep
  split at hstep
  · cases hstep
  · rename_i b freeQueue hfree
    rw [hfree, List.head?_cons] at hfenced
    rw [hfree, List.cons_append, List.nodup_cons] at hplaces
    obtain ⟨hnew, hrest⟩ := hplaces
    have hunused : b ∉ inUse s st := fun hb => hnew (List.mem_append_right _ hb)
    have hother : ∀ b' ∈ inUse s st, b' ≠ b := by
      rintro _ hb' rfl
      exact hunused hb'
    have hplaces' : (freeQueue ++ b :: inUse s st).Nodup :=
      List.perm_middle.nodup_iff.mpr (List.nodup_cons.mpr ⟨hnew, hrest⟩)
    split at hstep
    · rename_i hwrapped
      obtain rfl := Option.some.inj hstep
      refine ⟨h.order, h.listed, hplaces', h.counts, h.unread, ?_,
        fun b' hb' => List.mem_cons_of_mem _ (h.busy b' hb'), h.started, h.fences, h.finishing⟩
      intro b' hb'
      rcases List.mem_cons.mp hb' with rfl | hold
      · refine ⟨hwrapped, ?_⟩
        dsimp only
        rw [Function.update_self]
        by_cases hzero : st.syncTimestamp b' = 0
        · exact .inr ⟨if_neg fun hcreate => hcreate.2.1 hzero, hzero⟩
        · obtain ⟨hask, hmade⟩ := hfenced b' rfl hzero
          exact .inl (if_pos ⟨hask, hzero, hmade⟩)
      · exact (h.acquired b' hold).frame rfl (Function.update_of_ne (hother b' hold) _ _) rfl
    · rename_i hunwrapped
      have hunread : st.reading b = 0 := h.unread b (Bool.eq_false_iff.mpr hunwrapped)
      split at hstep
      · obtain rfl := Option.some.inj hstep
        refine ⟨h.order, h.listed, hplaces', ?_, ?_, ?_,
          fun b' hb' => List.mem_cons_of_mem _ (h.busy b' hb'), h.started, h.fences, h.finishing⟩
        · intro b' hb'
          rcases eq_or_ne b' b with rfl | hne
          · simp [hunread]
          · simp only [Function.update_of_ne hne] at hb' ⊢
            exact h.counts b' hb'
        · intro b' hb'
          rcases eq_or_ne b' b with rfl | hne
          · exact hunread
          · exact h.unread b' ((Function.update_of_ne hne _ _).symm.trans hb')
        · intro b' hb'
          rcases List.mem_cons.mp hb' with rfl | hold
          · exact ⟨Function.update_self _ _ _,
              .inr ⟨Function.update_self _ _ _, Function.update_self _ _ _⟩⟩
          · have hne := hother b' hold
            exact (h.acquired b' hold).frame (Function.update_of_ne hne _ _)
              (Function.update_of_ne hne _ _) (Function.update_of_ne hne _ _)
      · -- The buffer is in no list again.
        obtain rfl := Option.some.inj hstep
        exact ⟨h.order, h.listed, hrest, h.counts, h.unread,
          fun b' hb' => (h.acquired b' hb').frame rfl rfl rfl, h.busy, h.started, h.fences,
          h.finishing⟩

omit [DecidableEq Buffer] [DecidableEq Client] in
theorem Inv.getSwapchainBuffers (h : Inv s st) (count : Nat) :
    Inv s (st.getSwapchainBuffers count) := by
  have hperm : (st.freeQueue.drop count ++ st.freeQueue.take count).Perm st.freeQueue := by
    refine List.perm_append_comm.trans ?_
    rw [List.take_append_drop]
  exact ⟨h.order, h.listed, (hperm.append_right _).nodup_iff.mpr h.places, h.counts, h.unread,
    fun b' hb' => (h.acquired b' hb').frame rfl rfl rfl, h.busy, h.started, h.fences, h.finishing⟩

omit [DecidableEq Ws] [DecidableEq Client] in
theorem job_setJob_self (job : Job) : (st.setJob b job).job b = job :=
  Function.update_self _ _ _

omit [DecidableEq Ws] [DecidableEq Client] in
theorem job_setJob_of_ne {b' : Buffer} (hne : b' ≠ b) (job : Job) :
    (st.setJob b job).job b' = st.job b' :=
  Function.update_of_ne hne _ _

omit [DecidableEq Client] in
theorem Inv.setJob {job : Job} (h : Inv s st) (hbusy : job ≠ .idle → b ∈ inUse s st)
    (hstarted : job = .writing → st.reading b = 0)
    (hfences : b ∈ waiting st.worker s → FenceDone st.worker b → job = .idle)
    (hfinishing : BufferAccess.finishing s st.worker = some b → job = .idle) :
    Inv s (st.setJob b job) := by
  refine ⟨h.order, h.listed, h.places, h.counts, h.unread,
    fun b' hb' => (h.acquired b' hb').frame rfl rfl rfl, ?_, ?_, ?_, ?_⟩
  · intro b' hb'
    rcases eq_or_ne b' b with rfl | hne
    · rw [job_setJob_self] at hb'
      exact hbusy hb'
    · rw [job_setJob_of_ne hne] at hb'
      exact h.busy b' hb'
  · intro b' hb'
    rcases eq_or_ne b' b with rfl | hne
    · rw [job_setJob_self] at hb'
      exact hstarted hb'
    · rw [job_setJob_of_ne hne] at hb'
      exact h.started b' hb'
  · intro b' hb' hfence
    rcases eq_or_ne b' b with rfl | hne
    · rw [job_setJob_self]
      exact hfences hb' hfence
    · rw [job_setJob_of_ne hne]
      exact h.fences b' hb' hfence
  · intro b' hb'
    rcases eq_or_ne b' b with rfl | hne
    · rw [job_setJob_self]
      exact hfinishing hb'
    · rw [job_setJob_of_ne hne]
      exact h.finishing b' hb'

omit [DecidableEq Client] in
theorem Inv.release (h : Inv s st) (hreading : st.reading b ≠ 0) :
    Inv s { st with
      timeline := Function.update st.timeline b (st.timeline b + 1)
      reading := Function.update st.reading b (st.reading b - 1) } := by
  refine ⟨h.order, h.listed, h.places, ?_, ?_,
    fun b' hb' => (h.acquired b' hb').frame rfl rfl rfl, h.busy, ?_, h.fences, h.finishing⟩
  · intro b' hb'
    have hcounts := h.counts b' hb'
    rcases eq_or_ne b' b with rfl | hne
    · simp only [Function.update_self]
      omega
    · simp only [Function.update_of_ne hne]
      exact hcounts
  · intro b' hb'
    rcases eq_or_ne b' b with rfl | hne
    · exact absurd (h.unread b' hb') hreading
    · exact (Function.update_of_ne hne _ _).trans (h.unread b' hb')
  · intro b' hb'
    rcases eq_or_ne b' b with rfl | hne
    · exact absurd (h.started b' hb') hreading
    · exact (Function.update_of_ne hne _ _).trans (h.started b' hb')

omit [DecidableEq Client] in
theorem Inv.commitBuffer (h : Inv s st) (hnew : b ∉ st.freeQueue ++ inUse s st)
    (hwrapped : st.wrapped b = true) (hidle : st.job b = .idle)
    (hlast : st.syncTimestamp b ≠ BitVec.allOnes 32) : Inv s (st.commitBuffer b) := by
  have hother : ∀ b' ∈ inUse s st, b' ≠ b := by
    rintro _ hb' rfl
    exact hnew (List.mem_append_right _ hb')
  refine ⟨h.order, h.listed, ?_, ?_, ?_, ?_, h.busy, ?_, h.fences, h.finishing⟩
  · show (st.freeQueue ++ [b] ++ inUse s st).Nodup
    rw [List.append_assoc, List.singleton_append]
    exact List.perm_middle.nodup_iff.mpr (List.nodup_cons.mpr ⟨hnew, h.places⟩)
  · intro b' hb'
    have hcounts := h.counts b' hb'
    rcases eq_or_ne b' b with rfl | hne
    · have hlast' : (st.syncTimestamp b').toNat ≠ 4294967295 := fun heq =>
        hlast (BitVec.eq_of_toNat_eq heq)
      have hsucc : (st.syncTimestamp b' + 1).toNat = (st.syncTimestamp b').toNat + 1 := by
        bv_omega
      simp only [State.commitBuffer, Function.update_self]
      omega
    · simp only [State.commitBuffer, Function.update_of_ne hne]
      exact hcounts
  · intro b' hb'
    rcases eq_or_ne b' b with rfl | hne
    · exact absurd (hwrapped.symm.trans hb') nofun
    · exact (Function.update_of_ne hne _ _).trans (h.unread b' hb')
  · intro b' hb'
    exact (h.acquired b' hb').frame rfl rfl (Function.update_of_ne (hother b' hb') _ _)
  · intro b' hb'
    rcases eq_or_ne b' b with rfl | hne
    · exact absurd (hidle.symm.trans hb') nofun
    · exact (Function.update_of_ne hne _ _).trans (h.started b' hb')

/-- What a step leaves of the worker, whatever it does to the buffers in use. -/
structure GoesOn (s : Ws) (st : State Ws Buffer Client)
    (worker : WorkerThread.State Ws Buffer Client) : Prop where
  order : WorkerOrder.Inv s worker
  listed : (worker.surface s).swapchain = true
  fences : ∀ b ∈ waiting worker s, FenceDone worker b → st.job b = .idle
  finishing : ∀ b, finishing s worker = some b → st.job b = .idle

omit [DecidableEq Buffer] [DecidableEq Client] in
theorem Inv.goOn {worker : WorkerThread.State Ws Buffer Client} {held : List Buffer}
    (h : Inv s st) (hgoes : GoesOn s st worker)
    (hplaces : (st.freeQueue ++ (held ++ waiting worker s)).Nodup)
    (hold : ∀ b ∈ held ++ waiting worker s, b ∈ inUse s st)
    (hleft : ∀ b ∈ inUse s st, b ∈ held ++ waiting worker s ∨ st.job b = .idle) :
    Inv s { st with worker := worker, held := held } :=
  ⟨hgoes.order, hgoes.listed, hplaces, h.counts, h.unread,
    fun b hb => (h.acquired b (hold b hb)).frame rfl rfl rfl,
    fun b hb => (hleft b (h.busy b hb)).resolve_right hb, h.started, hgoes.fences,
    hgoes.finishing⟩

omit [DecidableEq Client] in
theorem Inv.enqueued {worker : WorkerThread.State Ws Buffer Client} (h : Inv s st)
    (hgoes : GoesOn s st worker) (hheld : b ∈ st.held)
    (hnext : waiting worker s = waiting st.worker s ++ [b]) :
    Inv s { st with worker := worker, held := st.held.erase b } := by
  have hperm : (st.held.erase b ++ waiting worker s).Perm (inUse s st) := by
    rw [hnext]
    have hback : (b :: st.held.erase b).Perm st.held := (List.perm_cons_erase hheld).symm
    have hlast : (st.held.erase b ++ (waiting st.worker s ++ [b])).Perm
        (b :: (st.held.erase b ++ waiting st.worker s)) := by
      rw [← List.append_assoc]
      exact List.perm_append_singleton _ _
    exact hlast.trans (hback.append_right _)
  refine h.goOn hgoes ?_ ?_ ?_
  · exact (hperm.append_left _).nodup_iff.mpr h.places
  · exact fun b' hb' => hperm.mem_iff.mp hb'
  · exact fun b' hb' => .inl (hperm.mem_iff.mpr hb')

omit [DecidableEq Client] in
theorem Inv.completed {worker : WorkerThread.State Ws Buffer Client} (h : Inv s st)
    (hgoes : GoesOn s st worker) (hbefore : waiting st.worker s = b :: waiting worker s)
    (hidle : st.job b = .idle) (hlast : st.syncTimestamp b ≠ BitVec.allOnes 32) :
    Inv s (State.commitBuffer { st with worker := worker, held := st.held } b) := by
  have hplaces := h.places
  unfold inUse at hplaces
  have hwrapped := (h.acquired b (List.mem_append_right _ (by
    rw [hbefore]
    exact List.mem_cons_self))).wrapped
  rw [hbefore, ← List.append_assoc, List.perm_middle.nodup_iff, List.append_assoc,
    List.nodup_cons] at hplaces
  obtain ⟨hgone, hrest⟩ := hplaces
  have hgoOn : Inv s { st with worker := worker, held := st.held } := by
    refine h.goOn hgoes hrest ?_ ?_
    · intro b' hb'
      unfold inUse
      rw [hbefore]
      rcases List.mem_append.mp hb' with hheld | hwaiting
      · exact List.mem_append_left _ hheld
      · exact List.mem_append_right _ (List.mem_cons_of_mem _ hwaiting)
    · intro b' hb'
      unfold inUse at hb'
      rw [hbefore] at hb'
      rcases List.mem_append.mp hb' with hheld | hwaiting
      · exact .inl (List.mem_append_left _ hheld)
      · rcases List.mem_cons.mp hwaiting with rfl | hlater
        · exact .inr hidle
        · exact .inl (List.mem_append_right _ hlater)
  exact hgoOn.commitBuffer hgone hwrapped hidle hlast

theorem Inv.idle_of_fenceDone {worker' : WorkerThread.State Ws Buffer Client}
    {l : WorkerThread.Label Ws Buffer Client} (h : Inv s st) (horder : WorkerOrder.Inv s worker')
    (hallowed : StaysListed s st.worker l) (hpermits : permits s st l)
    (hstep : WorkerThread.step st.worker l = some worker') (hb : b ∈ waiting worker' s)
    (hfence : FenceDone worker' b) : st.job b = .idle := by
  have hsplit := waiting_of_step h.order horder (ne_createSwapchain h.listed hallowed) hstep
  have hmem : b ∈ waiting st.worker s ++ (enqueues s l).toList.map Prod.fst := by
    rw [← hsplit]
    exact List.mem_append_right _ hb
  rcases List.mem_append.mp hmem with hwaiting | hnew
  · -- The fence is the one that the buffer has been waiting with.
    unfold FenceDone at hfence
    rw [hallowed.keeps worker' hstep b ⟨s, hwaiting⟩ ⟨s, hb⟩] at hfence
    rcases hfence with hnone | hsignalled
    · exact h.fences b hwaiting (.inl hnone)
    · rcases signalled_of_step hstep hsignalled with hbefore | rfl | ⟨c, t, b', signalled, rfl⟩
      · exact h.fences b hwaiting (.inr hbefore)
      · exact hpermits b hwaiting rfl
      · by_cases hnone : st.worker.waitSync b = -1
        · exact h.fences b hwaiting (.inl hnone)
        · exact absurd rfl (hpermits.1 hnone b hwaiting)
  · cases l with
    | enqueueBuffer c t b' syncFence signalled =>
        rw [enqueues] at hnew
        split at hnew
        · rename_i hts
          obtain rfl := List.mem_singleton.mp hnew
          have henqueue := hpermits.2 hts
          cases Fires.of_step hstep
          simp only [FenceDone, WorkerThread.State.enqueueBuffer, Function.update_self] at hfence
          exact henqueue.2 hfence
        · cases hnew
    | _ => cases hnew

omit [DecidableEq Buffer] [DecidableEq Client] in
theorem finishing_of_completes {worker : WorkerThread.State Ws Buffer Client}
    {l : WorkerThread.Label Ws Buffer Client} (h : completes s worker l = some b) :
    finishing s worker = some b ∧ enqueues s l = none := by
  unfold completes at h
  split at h
  · exact ⟨h, rfl⟩
  · exact ⟨h, rfl⟩
  · cases h

omit [DecidableEq Buffer] [DecidableEq Client] in
theorem mem_held_of_enqueues {l : WorkerThread.Label Ws Buffer Client} {fd : Fd}
    (hpermits : permits s st l) (h : enqueues s l = some (b, fd)) : b ∈ st.held := by
  unfold enqueues at h
  split at h
  · split at h
    · rename_i hts
      cases h
      exact (hpermits.2 hts).1
    · cases h
  · cases h

theorem Inv.goesOn {worker' : WorkerThread.State Ws Buffer Client}
    {l : WorkerThread.Label Ws Buffer Client} (h : Inv s st)
    (hallowed : StaysListed s st.worker l) (hpolls : PollsFence s st.worker l)
    (hpermits : permits s st l) (hstep : WorkerThread.step st.worker l = some worker') :
    GoesOn s st worker' := by
  have horder := WorkerOrder.inv_step h.order hallowed hstep
  refine ⟨horder, swapchain_of_step h.order h.listed hallowed hstep,
    fun b hb => h.idle_of_fenceDone horder hallowed hpermits hstep hb, fun b hb => ?_⟩
  rcases finishing_of_step h.order h.listed hallowed hpolls hstep hb with
    hbefore | ⟨hwaiting, hfence⟩
  · exact h.finishing b hbefore
  · exact h.fences b hwaiting hfence

theorem Inv.workerStep {st' : State Ws Buffer Client} {l : WorkerThread.Label Ws Buffer Client}
    (h : Inv s st) (hfenced : Fenced s st (.worker l)) (hstep : workerStep s st l = some st') :
    Inv s st' := by
  obtain ⟨hallowed, hpolls, hlast⟩ := hfenced
  unfold BufferAccess.workerStep at hstep
  split at hstep
  · rename_i hpermits
    obtain ⟨worker', hworker, hst'⟩ := Option.map_eq_some_iff.mp hstep
    have hgoes := h.goesOn hallowed hpolls hpermits hworker
    have hsplit := waiting_of_step h.order hgoes.order (ne_createSwapchain h.listed hallowed)
      hworker
    cases hcommit : completes s st.worker l with
    | none =>
        simp only [hcommit] at hst' hsplit
        subst hst'
        rw [Option.toList_none, List.nil_append] at hsplit
        cases henqueue : enqueues s l with
        | none =>
            rw [henqueue] at hsplit
            have hsame : waiting worker' s = waiting st.worker s := by
              rw [hsplit]
              exact List.append_nil _
            refine h.goOn hgoes ?_ ?_ ?_
            · rw [hsame]
              exact h.places
            · rw [hsame]
              exact fun _ => id
            · rw [hsame]
              exact fun _ => .inl
        | some e =>
            obtain ⟨b, fd⟩ := e
            rw [henqueue] at hsplit
            exact h.enqueued hgoes (mem_held_of_enqueues hpermits henqueue) hsplit
    | some b =>
        obtain ⟨hfinish, hnone⟩ := finishing_of_completes hcommit
        simp only [hcommit, hnone] at hst' hsplit
        subst hst'
        have hbefore : waiting st.worker s = b :: waiting worker' s := by
          rw [← List.append_nil (waiting st.worker s)]
          exact hsplit.symm
        exact h.completed hgoes hbefore (h.finishing b hfinish) (hlast b hcommit)
  · cases hstep

theorem inv_step {st' : State Ws Buffer Client} {l : Label Ws Buffer Client} (h : Inv s st)
    (hfenced : Fenced s st l) (hstep : step s st l = some st') : Inv s st' := by
  have hdisjoint : ∀ b ∈ st.held, b ∉ waiting st.worker s := by
    intro b hheld hwaiting
    have hinUse := h.places.of_append_right
    exact (List.nodup_append.mp hinUse).2.2 b hheld b hwaiting rfl
  cases l with
  | dequeueBuffer out => exact h.dequeueBuffer hfenced hstep
  | getSwapchainBuffers count =>
      obtain rfl := Option.some.inj hstep
      exact h.getSwapchainBuffers count
  | submit b =>
      simp only [step] at hstep
      split at hstep
      · rename_i hguard
        obtain rfl := Option.some.inj hstep
        have hheld : b ∈ st.held := hguard.1
        refine h.setJob (fun _ => List.mem_append_left _ hheld) nofun ?_ ?_
        · exact fun hwaiting => absurd hwaiting (hdisjoint b hheld)
        · exact fun hfinish => absurd (mem_waiting_of_finishing hfinish) (hdisjoint b hheld)
      · cases hstep
  | startWriting b =>
      simp only [step] at hstep
      split at hstep
      · rename_i hguard
        obtain rfl := Option.some.inj hstep
        obtain ⟨hsubmitted, hmay⟩ := hguard
        have hbusy : st.job b ≠ .idle := by
          rw [hsubmitted]
          decide
        have hb := h.busy b hbusy
        refine h.setJob (fun _ => hb) (fun _ => (h.mayWrite_iff hb).mp hmay) ?_ ?_
        · exact fun hwaiting hfence => absurd (h.fences b hwaiting hfence) hbusy
        · exact fun hfinish => absurd (h.finishing b hfinish) hbusy
      · cases hstep
  | finishWriting b =>
      simp only [step] at hstep
      split at hstep
      · obtain rfl := Option.some.inj hstep
        exact h.setJob (fun hne => absurd rfl hne) nofun (fun _ _ => rfl) fun _ => rfl
      · cases hstep
  | release b =>
      simp only [step] at hstep
      split at hstep
      · cases hstep
      · rename_i hreading
        obtain rfl := Option.some.inj hstep
        exact h.release hreading
  | worker l => exact h.workerStep hfenced hstep

theorem waiting_of_createSwapchain {before worker : WorkerThread.State Ws Buffer Client}
    (hcreate : WorkerThread.step before (.createSwapchain s) = some worker) :
    (worker.surface s).swapchain = true ∧ waiting worker s = [] ∧
      worker.waitSync = before.waitSync := by
  cases Fires.of_step hcreate with
  | createSwapchain _ hmutex =>
      have hhand : before.worker.hand = none := by
        cases hpc : before.worker with
        | popped _ _ _ | rejecting _ _ _ =>
            rw [hpc] at hmutex
            cases hmutex
        | _ => rfl
      refine ⟨?_, ?_, rfl⟩
      · simp [WorkerThread.State.surfaceListInsert, WorkerThread.State.setSurface]
      · simp [waiting, inHand, hhand, WorkerThread.State.surfaceListInsert,
          WorkerThread.State.setSurface]

theorem inv_initial (h : (accessSystem s).Initial st) : Inv s st := by
  obtain ⟨before, worker, buffers, hbefore, hswap, hcreate, hnodup, rfl⟩ := h
  obtain ⟨hlisted, hwaiting, hsync⟩ := waiting_of_createSwapchain hcreate
  have hallowed : StaysListed s before (.createSwapchain s) := by
    refine ⟨nofun, fun _ => hswap, fun worker' hworker' b _ _ => ?_⟩
    obtain rfl := Option.some.inj (hcreate.symm.trans hworker')
    rw [hsync]
  have horder := WorkerOrder.inv_step (WorkerOrder.inv_reachable hbefore) hallowed hcreate
  have hunused : inUse s (newSwapchain worker buffers) = [] := hwaiting
  refine ⟨horder, hlisted, ?_, fun _ => nofun, fun _ _ => rfl, ?_, fun _ hb => absurd rfl hb,
    fun _ _ => rfl, fun _ _ _ => rfl, fun _ _ => rfl⟩
  · rw [hunused, List.append_nil]
    exact hnodup
  · rw [hunused]
    exact nofun

theorem inv_reachable (h : (accessSystem s).ReachableWhen (Fenced s) st) : Inv s st :=
  h.invariant (fun _ => inv_initial) fun _ _ _ hinv hfenced hstep => inv_step hinv hfenced hstep

/-- The GPU and the server are never at one buffer: the GPU writes to a buffer in use
that the server does not read. For a buffer that the client holds, the fence of the
dequeue lets it write exactly when the server is done, and no buffer is in two places. -/
theorem access_exclusive (h : (accessSystem s).ReachableWhen (Fenced s) st) :
    (∀ b, st.job b = .writing → b ∈ inUse s st ∧ st.reading b = 0) ∧
    (∀ b ∈ st.held, st.mayWrite b = true ↔ st.reading b = 0) ∧
    (st.freeQueue ++ inUse s st).Nodup := by
  have hinv := inv_reachable h
  refine ⟨fun b hwriting => ⟨hinv.busy b ?_, hinv.started b hwriting⟩, fun b hheld => ?_,
    hinv.places⟩
  · rw [hwriting]
    decide
  · exact hinv.mayWrite_iff (List.mem_append_left _ hheld)

section

variable [Fintype Ws] [Fintype Buffer]

instance (s : Ws) (worker : WorkerThread.State Ws Buffer Client) :
    ∀ l, Decidable (PollsFence s worker l)
  | .pollFence added =>
      match h : worker.worker with
      | .popped t b _ =>
          decidable_of_iff (added = true ∨ (t = s → worker.waitSync b = -1)) (by
            unfold PollsFence
            rw [h])
      | .start | .loopTop | .scan _ | .prepare _ _ | .rejecting _ _ _ | .epollWait | .handle _
      | .fenceWait _ _ | .finish _ _ _ _ | .clear _ _ | .exited =>
          isTrue (.inr (by
            rw [h]
            trivial))
  | .createSurface _ _ | .createSwapchain _ | .destroySwapchain _ | .destroySurface _
  | .enqueueBuffer _ _ _ _ _ | .newBufferNotify _ | .fenceSignal _ | .workerFini
  | .prepareEventFd _ | .loopStart | .scanNext | .popBuffer | .drawDoneRejected | .epollWait _
  | .handleEvent | .fenceWait _ | .drawDone | .clearDrawWaitBuffer =>
      inferInstanceAs (Decidable True)

instance (s : Ws) (st : State Ws Buffer Client) : ∀ l, Decidable (Fenced s st l)
  | .dequeueBuffer _ => inferInstanceAs (Decidable (∀ b ∈ st.freeQueue.head?, _))
  | .worker l => inferInstanceAs (Decidable (StaysListed s st.worker l ∧
      PollsFence s st.worker l ∧ ∀ b ∈ completes s st.worker l, _))
  | .getSwapchainBuffers _ | .submit _ | .startWriting _ | .finishWriting _ | .release _ =>
      inferInstanceAs (Decidable True)

end

def oneSurface : WorkerThread.State Unit Bool Unit :=
  { (WorkerThread.workerInit (fun _ => -1) fun _ => false).setSurface () (.zero false true) with
    eventFd := .opened 0
    worker := .loopTop }

def drawTwice : List (Label Unit Bool Unit) :=
  [.dequeueBuffer ⟨true, true, true⟩, .submit false, .startWriting false,
    .worker (.enqueueBuffer () () false 3 false), .worker (.newBufferNotify ()),
    .worker .loopStart, .worker .scanNext, .worker .popBuffer, .worker (.pollFence true),
    .worker .scanNext, .finishWriting false, .worker (.fenceSignal 3),
    .worker (.epollWait [.surface () true]), .worker .handleEvent, .worker (.fenceWait 1),
    .worker .drawDone, .worker .clearDrawWaitBuffer, .dequeueBuffer ⟨true, true, true⟩,
    .dequeueBuffer ⟨true, true, true⟩, .submit false, .release false, .startWriting false]

theorem initial_oneSurface : (accessSystem ()).Initial
    (newSwapchain (oneSurface.surfaceListInsert ()) [false, true]) := by
  have hrun : workerSystem.runWhen (StaysListed ())
      (WorkerThread.workerInit (fun _ => -1) fun _ => false)
      [.createSurface () false, .prepareEventFd true] = some oneSurface := rfl
  exact ⟨oneSurface, _, [false, true], .of_runWhen (.initial ⟨_, _, rfl⟩) hrun, rfl, rfl,
    by decide, rfl⟩

theorem access_exclusive_drawTwice :
    ∃ st, (accessSystem ()).runWhen (Fenced ())
        (newSwapchain (oneSurface.surfaceListInsert ()) [false, true]) drawTwice = some st ∧
      st.job false = .writing ∧ st.acquireFence false = some 1 ∧
      (∀ b, st.job b = .writing → b ∈ inUse () st ∧ st.reading b = 0) ∧
      (∀ b ∈ st.held, st.mayWrite b = true ↔ st.reading b = 0) := by
  obtain ⟨st, hrun, hjob, hfence⟩ := (accessSystem ()).exists_of_runWhen (Fenced ())
    (fun st => st.job false = .writing ∧ st.acquireFence false = some 1)
    (newSwapchain (oneSurface.surfaceListInsert ()) [false, true]) drawTwice (by decide)
  obtain ⟨hwriting, hheld, -⟩ :=
    access_exclusive (.of_runWhen (.initial initial_oneSurface) hrun)
  exact ⟨st, hrun, hjob, hfence, hwriting, hheld⟩

end

end LibtplEgl.BufferAccess
