import LibtplEgl.LabelledSystem
import LibtplEgl.TplTypes

namespace LibtplEgl.WorkerThread

open LibtplEgl.LabelledSystem
open LibtplEgl.TplTypes

universe u v w

abbrev Fd := Int

/-- A `tpl_worker_surface_t` with the state of the surface it is embedded in:
`queue` is the `draw_waiting_queue` of a tbm surface, which sets
`draw_wait_buffer_get`, and the acquire side of `tbm_queue` of a wayland-vulkan
surface, which leaves it NULL. -/
structure WorkerSurface (Buffer : Type v) where
  hasDrawWaitBufferGet : Bool
  drawWaitBuffer : Option Buffer
  queue : List Buffer
  swapchain : Bool
  allocated : Bool

namespace WorkerSurface

variable {Buffer : Type v}

def zero (hasDrawWaitBufferGet allocated : Bool) : WorkerSurface Buffer :=
  ⟨hasDrawWaitBufferGet, none, [], false, allocated⟩

def drawWaitBufferGet (ws : WorkerSurface Buffer) : Option Buffer × List Buffer :=
  (ws.queue.head?, ws.queue.tail)

def tbmSurfaceQueueCanAcquire (ws : WorkerSurface Buffer) : Bool := !ws.queue.isEmpty

def tbmSurfaceQueueAcquire (ws : WorkerSurface Buffer) : Option Buffer × List Buffer :=
  (ws.queue.head?, ws.queue.tail)

/-- The condition of the two loops of `__tpl_worker_prepare_draw_wait_buffer`:
the buffer to prepare next and the queue without it. -/
def nextBuffer (ws : WorkerSurface Buffer) : Option Buffer × List Buffer :=
  if ws.hasDrawWaitBufferGet then ws.drawWaitBufferGet
  else if ws.tbmSurfaceQueueCanAcquire then ws.tbmSurfaceQueueAcquire
  else (none, ws.queue)

theorem nextBuffer_eq (ws : WorkerSurface Buffer) :
    ws.nextBuffer = (ws.queue.head?, ws.queue.tail) := by
  unfold nextBuffer drawWaitBufferGet tbmSurfaceQueueAcquire tbmSurfaceQueueCanAcquire
  cases ws.queue with
  | nil => simp
  | cons => simp

end WorkerSurface

/-- The worker's eventfd: `event_fd` is 0 in the static initialisation of
`tpl_worker_thread` and -1 once its creation failed or the loop has ended. -/
inductive EventFd
  | unset
  | opened (counter : Nat)
  | closed
  deriving DecidableEq, Repr

/-- `__tpl_worker_event_send`. -/
def EventFd.eventSend : EventFd → EventFd
  | .opened counter => .opened (counter + 1)
  | fd => fd

/-- An entry of `ev_list`: `data.ptr` is the worker itself or a worker surface. -/
inductive EpollEvent (Ws : Type u)
  | worker
  | surface (s : Ws) (epollin : Bool)
  deriving DecidableEq, Repr

/-- Where the worker is in `__tpl_worker_thread_loop`. -/
inductive WorkerPc (Ws : Type u) (Buffer : Type v)
  | start
  | loopTop
  | scan (rest : List Ws)
  | prepare (s : Ws) (rest : List Ws)
  | popped (s : Ws) (b : Buffer) (rest : List Ws)
  | rejecting (s : Ws) (b : Buffer) (rest : List Ws)
  | epollWait
  | handle (evs : List (EpollEvent Ws))
  | fenceWait (s : Ws) (evs : List (EpollEvent Ws))
  | finish (s : Ws) (result : TplResult) (report : Option Fd) (evs : List (EpollEvent Ws))
  | clear (s : Ws) (evs : List (EpollEvent Ws))
  | exited
  deriving DecidableEq, Repr

namespace WorkerPc

variable {Ws : Type u} {Buffer : Type v}

/-- The scan of `surface_list` runs under `surface_mutex`. -/
def holdsSurfaceMutex : WorkerPc Ws Buffer → Bool
  | .scan _ | .prepare _ _ | .popped _ _ _ | .rejecting _ _ _ => true
  | _ => false

/-- The surfaces that the current scan has not finished. -/
def unscanned : WorkerPc Ws Buffer → List Ws
  | .scan rest => rest
  | .prepare s rest | .popped s _ rest | .rejecting s _ rest => s :: rest
  | _ => []

/-- The buffer that the scan has taken out of a queue and not placed yet. -/
def hand : WorkerPc Ws Buffer → Option (Ws × Buffer)
  | .popped s b _ | .rejecting s b _ => some (s, b)
  | _ => none

/-- The events of the current batch that are not handled yet, the one being
handled first. -/
def pendingEvents : WorkerPc Ws Buffer → List (EpollEvent Ws)
  | .handle evs => evs
  | .fenceWait s evs | .finish s _ _ evs | .clear s evs => .surface s true :: evs
  | _ => []

/-- The worker surface of an event's `data.ptr` that the next step dereferences. -/
def dereferences : WorkerPc Ws Buffer → Option Ws
  | .handle (.surface s true :: _) => some s
  | .fenceWait s _ | .finish s _ _ _ | .clear s _ => some s
  | _ => none

end WorkerPc

/-- A call of `draw_done`, with the fence that `tbm_sync_fence_wait` reported as
signalled in the handling of the same event. -/
structure Completion (Buffer : Type v) where
  buffer : Buffer
  result : TplResult
  report : Option Fd
  deriving DecidableEq, Repr

/-- `tpl_worker_thread`, the worker surfaces, the buffers and the threads. The
last three fields record the run: the surfaces in `surface_list` since the
current scan began, and what was enqueued on and completed for each swapchain. -/
structure State (Ws : Type u) (Buffer : Type v) (Client : Type w) where
  running : Bool
  eventFd : EventFd
  epoll : List (Fd × Ws)
  surfaceList : List Ws
  surface : Ws → WorkerSurface Buffer
  waitSync : Buffer → Fd
  signalled : Fd → Bool
  worker : WorkerPc Ws Buffer
  notifying : Client → Option Ws
  listedSince : List Ws
  enqueued : Ws → List (Buffer × Fd)
  done : Ws → List (Completion Buffer)

inductive Label (Ws : Type u) (Buffer : Type v) (Client : Type w)
  | createSurface (s : Ws) (hasDrawWaitBufferGet : Bool)
  | createSwapchain (s : Ws)
  | destroySwapchain (s : Ws)
  | destroySurface (s : Ws)
  | enqueueBuffer (c : Client) (s : Ws) (b : Buffer) (syncFence : Fd) (signalled : Bool)
  | newBufferNotify (c : Client)
  | fenceSignal (fd : Fd)
  | workerFini
  | prepareEventFd (ok : Bool)
  | loopStart
  | scanNext
  | popBuffer
  | pollFence (added : Bool)
  | drawDoneRejected
  | epollWait (evs : List (EpollEvent Ws))
  | handleEvent
  | fenceWait (result : Int)
  | drawDone
  | clearDrawWaitBuffer
  deriving DecidableEq, Repr

def Label.destroyed {Ws : Type u} {Buffer : Type v} {Client : Type w} :
    Label Ws Buffer Client → Option Ws
  | .destroySwapchain s | .destroySurface s => some s
  | _ => none

section

variable {Ws : Type u} {Buffer : Type v} {Client : Type w}
variable [DecidableEq Ws] [DecidableEq Buffer] [DecidableEq Client]

namespace State

def setSurface (st : State Ws Buffer Client) (s : Ws) (ws : WorkerSurface Buffer) :
    State Ws Buffer Client :=
  { st with surface := Function.update st.surface s ws }

def goto (st : State Ws Buffer Client) (pc : WorkerPc Ws Buffer) : State Ws Buffer Client :=
  { st with worker := pc }

/-- `create_swapchain` up to `__tpl_worker_surface_list_insert`: the queue is
new and `draw_wait_buffer` is reset. -/
def surfaceListInsert (st : State Ws Buffer Client) (s : Ws) : State Ws Buffer Client :=
  { st.setSurface s { st.surface s with drawWaitBuffer := none, queue := [], swapchain := true } with
    surfaceList := st.surfaceList ++ [s]
    enqueued := Function.update st.enqueued s []
    done := Function.update st.done s [] }

/-- `destroy_swapchain`: `__tpl_worker_surface_list_remove`, then the queue goes.
The epoll set stays as it is. -/
def surfaceListRemove (st : State Ws Buffer Client) (s : Ws) : State Ws Buffer Client :=
  { st.setSurface s { st.surface s with queue := [], swapchain := false } with
    surfaceList := st.surfaceList.erase s
    listedSince := st.listedSince.erase s }

/-- `enqueue_buffer` up to the notification: the fence is stored with the buffer
and the buffer is appended to the waiting queue, whose push is assumed to find the
memory for its node. -/
def enqueueBuffer (st : State Ws Buffer Client) (c : Client) (s : Ws) (b : Buffer)
    (syncFence : Fd) (signalled : Bool) : State Ws Buffer Client :=
  { st.setSurface s { st.surface s with queue := (st.surface s).queue ++ [b] } with
    waitSync := Function.update st.waitSync b syncFence
    signalled := Function.update st.signalled syncFence signalled
    notifying := Function.update st.notifying c (some s)
    enqueued := Function.update st.enqueued s (st.enqueued s ++ [(b, syncFence)]) }

/-- `draw_done` of both backends, as the worker sees it: the fence is closed. -/
def drawDone (st : State Ws Buffer Client) (s : Ws) (b : Buffer) (result : TplResult)
    (report : Option Fd) : State Ws Buffer Client :=
  { st with
    waitSync := Function.update st.waitSync b (-1)
    done := Function.update st.done s (st.done s ++ [⟨b, result, report⟩]) }

/-- `EPOLL_CTL_DEL`. -/
def epollDel (st : State Ws Buffer Client) (fd : Fd) : State Ws Buffer Client :=
  { st with epoll := st.epoll.filter fun r => r.1 ≠ fd }

/-- What `epoll_wait` may report: the eventfd when its counter is positive, a
registered descriptor, with `EPOLLIN` only when its fence is signalled. -/
def Ready (st : State Ws Buffer Client) : EpollEvent Ws → Prop
  | .worker => ∃ counter, st.eventFd = .opened (counter + 1)
  | .surface s epollin =>
      ∃ r ∈ st.epoll, r.2 = s ∧ (epollin = true → st.signalled r.1 = true)

instance (st : State Ws Buffer Client) (ev : EpollEvent Ws) : Decidable (st.Ready ev) :=
  match ev with
  | .worker =>
      match h : st.eventFd with
      | .opened (counter + 1) => isTrue ⟨counter, h⟩
      | .opened 0 => isFalse (by rintro ⟨n, hn⟩; rw [h] at hn; cases hn)
      | .unset => isFalse (by rintro ⟨n, hn⟩; rw [h] at hn; cases hn)
      | .closed => isFalse (by rintro ⟨n, hn⟩; rw [h] at hn; cases hn)
  | .surface s epollin =>
      inferInstanceAs (Decidable (∃ r ∈ st.epoll, r.2 = s ∧
        (epollin = true → st.signalled r.1 = true)))

end State

def epollMaxSize : Nat := 100

/-- One step. A worker step on a worker surface whose memory was freed is not a
step of the model. -/
def step (st : State Ws Buffer Client) : Label Ws Buffer Client → Option (State Ws Buffer Client)
  | .createSurface s hasGet =>
      if (st.surface s).allocated then none else some (st.setSurface s (.zero hasGet true))
  | .createSwapchain s =>
      if (st.surface s).allocated ∧ ¬ st.worker.holdsSurfaceMutex then
        some (st.surfaceListInsert s)
      else none
  | .destroySwapchain s =>
      if (st.surface s).allocated ∧ (st.surface s).swapchain ∧
          ¬ st.worker.holdsSurfaceMutex then
        some (st.surfaceListRemove s)
      else none
  | .destroySurface s =>
      if (st.surface s).allocated ∧ ¬ st.worker.holdsSurfaceMutex then
        let st₁ := if (st.surface s).swapchain then st.surfaceListRemove s else st
        some (st₁.setSurface s { st₁.surface s with allocated := false })
      else none
  | .enqueueBuffer c s b syncFence signalled =>
      if st.notifying c = none ∧ (st.surface s).allocated ∧ (st.surface s).swapchain then
        some (st.enqueueBuffer c s b syncFence signalled)
      else none
  | .newBufferNotify c =>
      match st.notifying c with
      | some _ => some { st with
          notifying := Function.update st.notifying c none
          eventFd := st.eventFd.eventSend }
      | none => none
  | .fenceSignal fd => some { st with signalled := Function.update st.signalled fd true }
  | .workerFini => some { st with running := false, eventFd := st.eventFd.eventSend }
  | .prepareEventFd ok =>
      match st.worker with
      | .start =>
          if ok then some { st with eventFd := .opened 0, worker := .loopTop }
          else some { st with eventFd := .closed, worker := .exited }
      | _ => none
  | .loopStart =>
      match st.worker with
      | .loopTop =>
          if st.running then
            some { st with worker := .scan st.surfaceList, listedSince := st.surfaceList }
          else some { st with eventFd := .closed, epoll := [], worker := .exited }
      | _ => none
  | .scanNext =>
      match st.worker with
      | .scan [] => some (st.goto .epollWait)
      | .scan (s :: rest) =>
          if (st.surface s).allocated then
            match (st.surface s).drawWaitBuffer with
            | some _ => some (st.goto (.scan rest))
            | none => some (st.goto (.prepare s rest))
          else none
      | _ => none
  | .popBuffer =>
      match st.worker with
      | .prepare s rest =>
          if (st.surface s).allocated then
            match (st.surface s).nextBuffer with
            | (some b, queue) =>
                some ((st.setSurface s { st.surface s with queue := queue }).goto
                  (.popped s b rest))
            | (none, _) => some (st.goto (.scan rest))
          else none
      | _ => none
  | .pollFence added =>
      match st.worker with
      | .popped s b rest =>
          if (st.surface s).allocated then
            if st.waitSync b ≠ -1 ∧ added = true then
              if st.waitSync b ∈ st.epoll.map Prod.fst then none
              else some (({ st with epoll := (st.waitSync b, s) :: st.epoll }.setSurface s
                { st.surface s with drawWaitBuffer := some b }).goto (.scan rest))
            else some (st.goto (.rejecting s b rest))
          else none
      | _ => none
  | .drawDoneRejected =>
      match st.worker with
      | .rejecting s b rest =>
          if (st.surface s).allocated then
            some ((st.drawDone s b .errorInvalidOperation none).goto (.prepare s rest))
          else none
      | _ => none
  | .epollWait evs =>
      match st.worker with
      | .epollWait =>
          if evs ≠ [] ∧ evs.length ≤ epollMaxSize ∧ evs.count .worker ≤ 1 ∧
              ∀ ev ∈ evs, st.Ready ev then
            some (st.goto (.handle evs))
          else none
      | _ => none
  | .handleEvent =>
      match st.worker with
      | .handle [] => some (st.goto .loopTop)
      | .handle (.worker :: evs) =>
          match st.eventFd with
          | .opened (_ + 1) => some { st with eventFd := .opened 0, worker := .handle evs }
          | _ => none
      | .handle (.surface _ false :: evs) => some (st.goto (.handle evs))
      | .handle (.surface s true :: evs) =>
          if (st.surface s).allocated then
            match (st.surface s).drawWaitBuffer with
            | some _ => some (st.goto (.fenceWait s evs))
            | none => some (st.goto (.handle evs))
          else none
      | _ => none
  | .fenceWait result =>
      match st.worker with
      | .fenceWait s evs =>
          if (st.surface s).allocated then
            match (st.surface s).drawWaitBuffer with
            | some b =>
                if st.waitSync b = -1 then
                  some (st.goto (.finish s .errorInvalidOperation none evs))
                else if result = 1 then
                  if st.signalled (st.waitSync b) then
                    some ((st.epollDel (st.waitSync b)).goto
                      (.finish s .errorNone (some (st.waitSync b)) evs))
                  else none
                else some (st.goto (.handle evs))
            | none => none
          else none
      | _ => none
  | .drawDone =>
      match st.worker with
      | .finish s result report evs =>
          if (st.surface s).allocated then
            match (st.surface s).drawWaitBuffer with
            | some b => some ((st.drawDone s b result report).goto (.clear s evs))
            | none => none
          else none
      | _ => none
  | .clearDrawWaitBuffer =>
      match st.worker with
      | .clear s evs =>
          if (st.surface s).allocated then
            some ((st.setSurface s { st.surface s with drawWaitBuffer := none }).goto
              (.handle evs))
          else none
      | _ => none

/-- What a step can do: one case for each branch that it can take. -/
inductive Fires : State Ws Buffer Client → Label Ws Buffer Client → State Ws Buffer Client → Prop
  | createSurface {st s hasGet} : (st.surface s).allocated = false →
      Fires st (.createSurface s hasGet) (st.setSurface s (.zero hasGet true))
  | createSwapchain {st s} : (st.surface s).allocated = true →
      st.worker.holdsSurfaceMutex = false →
      Fires st (.createSwapchain s) (st.surfaceListInsert s)
  | destroySwapchain {st s} : st.worker.holdsSurfaceMutex = false →
      Fires st (.destroySwapchain s) (st.surfaceListRemove s)
  | destroySurface {st s} : st.worker.holdsSurfaceMutex = false →
      (st.surface s).swapchain = false →
      Fires st (.destroySurface s)
        (st.setSurface s { st.surface s with allocated := false })
  | destroySurfaceSwapchain {st s} : st.worker.holdsSurfaceMutex = false →
      Fires st (.destroySurface s)
        ((st.surfaceListRemove s).setSurface s
          { (st.surfaceListRemove s).surface s with allocated := false })
  | enqueueBuffer {st c s b syncFence signalled} : st.notifying c = none →
      (st.surface s).swapchain = true →
      Fires st (.enqueueBuffer c s b syncFence signalled)
        (st.enqueueBuffer c s b syncFence signalled)
  | newBufferNotify {st c s} : st.notifying c = some s →
      Fires st (.newBufferNotify c)
        { st with
          notifying := Function.update st.notifying c none
          eventFd := st.eventFd.eventSend }
  | fenceSignal {st fd} :
      Fires st (.fenceSignal fd) { st with signalled := Function.update st.signalled fd true }
  | workerFini {st} :
      Fires st .workerFini { st with running := false, eventFd := st.eventFd.eventSend }
  | eventFdCreated {st} : st.worker = .start →
      Fires st (.prepareEventFd true) { st with eventFd := .opened 0, worker := .loopTop }
  | eventFdFailed {st} : st.worker = .start →
      Fires st (.prepareEventFd false) { st with eventFd := .closed, worker := .exited }
  | scanStart {st} : st.worker = .loopTop →
      Fires st .loopStart
        { st with worker := .scan st.surfaceList, listedSince := st.surfaceList }
  | loopEnd {st} : st.worker = .loopTop →
      Fires st .loopStart { st with eventFd := .closed, epoll := [], worker := .exited }
  | scanEnd {st} : st.worker = .scan [] → Fires st .scanNext (st.goto .epollWait)
  | scanWaiting {st s rest b} : st.worker = .scan (s :: rest) →
      (st.surface s).drawWaitBuffer = some b → Fires st .scanNext (st.goto (.scan rest))
  | scanPrepare {st s rest} : st.worker = .scan (s :: rest) →
      (st.surface s).drawWaitBuffer = none → Fires st .scanNext (st.goto (.prepare s rest))
  | popEmpty {st s rest} : st.worker = .prepare s rest → (st.surface s).queue = [] →
      Fires st .popBuffer (st.goto (.scan rest))
  | popBuffer {st s rest b queue} : st.worker = .prepare s rest →
      (st.surface s).queue = b :: queue →
      Fires st .popBuffer
        ((st.setSurface s { st.surface s with queue := queue }).goto (.popped s b rest))
  | fenceAdded {st s b rest} : st.worker = .popped s b rest → st.waitSync b ≠ -1 →
      st.waitSync b ∉ st.epoll.map Prod.fst →
      Fires st (.pollFence true)
        (({ st with epoll := (st.waitSync b, s) :: st.epoll }.setSurface s
          { st.surface s with drawWaitBuffer := some b }).goto (.scan rest))
  | fenceNotAdded {st s b rest added} : st.worker = .popped s b rest →
      Fires st (.pollFence added) (st.goto (.rejecting s b rest))
  | drawDoneRejected {st s b rest} : st.worker = .rejecting s b rest →
      Fires st .drawDoneRejected
        ((st.drawDone s b .errorInvalidOperation none).goto (.prepare s rest))
  | epollWait {st evs} : st.worker = .epollWait → (∀ ev ∈ evs, st.Ready ev) →
      Fires st (.epollWait evs) (st.goto (.handle evs))
  | batchEnd {st} : st.worker = .handle [] → Fires st .handleEvent (st.goto .loopTop)
  | readEventFd {st evs} : st.worker = .handle (.worker :: evs) →
      Fires st .handleEvent { st with eventFd := .opened 0, worker := .handle evs }
  | noEpollin {st s evs} : st.worker = .handle (.surface s false :: evs) →
      Fires st .handleEvent (st.goto (.handle evs))
  | drawWaiting {st s evs b} : st.worker = .handle (.surface s true :: evs) →
      (st.surface s).drawWaitBuffer = some b →
      Fires st .handleEvent (st.goto (.fenceWait s evs))
  | alreadySignalled {st s evs} : st.worker = .handle (.surface s true :: evs) →
      Fires st .handleEvent (st.goto (.handle evs))
  | noFence {st s evs b result} : st.worker = .fenceWait s evs →
      (st.surface s).drawWaitBuffer = some b → st.waitSync b = -1 →
      Fires st (.fenceWait result)
        (st.goto (.finish s .errorInvalidOperation none evs))
  | fenceSignalled {st s evs b} : st.worker = .fenceWait s evs →
      (st.surface s).drawWaitBuffer = some b →
      Fires st (.fenceWait 1)
        ((st.epollDel (st.waitSync b)).goto
          (.finish s .errorNone (some (st.waitSync b)) evs))
  | fenceNotSignalled {st s evs result} : st.worker = .fenceWait s evs →
      Fires st (.fenceWait result) (st.goto (.handle evs))
  | drawDone {st s result report evs b} : st.worker = .finish s result report evs →
      (st.surface s).drawWaitBuffer = some b →
      Fires st .drawDone ((st.drawDone s b result report).goto (.clear s evs))
  | clearDrawWaitBuffer {st s evs} : st.worker = .clear s evs →
      Fires st .clearDrawWaitBuffer
        ((st.setSurface s { st.surface s with drawWaitBuffer := none }).goto (.handle evs))

theorem Fires.of_step {st st' : State Ws Buffer Client} {l : Label Ws Buffer Client}
    (h : step st l = some st') : Fires st l st' := by
  cases l with
  | createSurface s hasGet =>
      simp only [step] at h
      split at h
      · cases h
      · rename_i hfree
        cases h
        exact .createSurface (by simpa using hfree)
  | createSwapchain s =>
      simp only [step] at h
      split at h
      · rename_i hguard
        cases h
        exact .createSwapchain hguard.1 (by simpa using hguard.2)
      · cases h
  | destroySwapchain s =>
      simp only [step] at h
      split at h
      · rename_i hguard
        cases h
        exact .destroySwapchain (by simpa using hguard.2.2)
      · cases h
  | destroySurface s =>
      simp only [step] at h
      split at h
      · rename_i hguard
        have hmutex : st.worker.holdsSurfaceMutex = false := by simpa using hguard.2
        split at h
        · cases h
          exact .destroySurfaceSwapchain hmutex
        · rename_i hswap
          cases h
          exact .destroySurface hmutex (by simpa using hswap)
      · cases h
  | enqueueBuffer c s b syncFence signalled =>
      simp only [step] at h
      split at h
      · rename_i hguard
        cases h
        exact .enqueueBuffer hguard.1 hguard.2.2
      · cases h
  | newBufferNotify c =>
      simp only [step] at h
      split at h
      · rename_i s hc
        cases h
        exact .newBufferNotify hc
      · cases h
  | fenceSignal fd =>
      cases h
      exact .fenceSignal
  | workerFini =>
      cases h
      exact .workerFini
  | prepareEventFd ok =>
      simp only [step] at h
      split at h
      · rename_i hpc
        cases ok with
        | true =>
            cases h
            exact .eventFdCreated hpc
        | false =>
            cases h
            exact .eventFdFailed hpc
      · cases h
  | loopStart =>
      simp only [step] at h
      split at h
      · rename_i hpc
        split at h
        · cases h
          exact .scanStart hpc
        · cases h
          exact .loopEnd hpc
      · cases h
  | scanNext =>
      simp only [step] at h
      split at h
      · rename_i hpc
        cases h
        exact .scanEnd hpc
      · rename_i s rest hpc
        split at h
        · split at h
          · rename_i b hwait
            cases h
            exact .scanWaiting hpc hwait
          · rename_i hwait
            cases h
            exact .scanPrepare hpc hwait
        · cases h
      · cases h
  | popBuffer =>
      simp only [step] at h
      split at h
      · rename_i s rest hpc
        split at h
        · rw [WorkerSurface.nextBuffer_eq] at h
          cases hqueue : (st.surface s).queue with
          | nil =>
              simp only [hqueue, List.head?_nil] at h
              cases h
              exact .popEmpty hpc hqueue
          | cons b queue =>
              simp only [hqueue, List.head?_cons, List.tail_cons] at h
              cases h
              exact .popBuffer hpc hqueue
        · cases h
      · cases h
  | pollFence added =>
      simp only [step] at h
      split at h
      · rename_i s b rest hpc
        split at h
        · split at h
          · rename_i hadd
            obtain ⟨hfence, rfl⟩ := hadd
            split at h
            · cases h
            · rename_i hnew
              cases h
              exact .fenceAdded hpc hfence hnew
          · cases h
            exact .fenceNotAdded hpc
        · cases h
      · cases h
  | drawDoneRejected =>
      simp only [step] at h
      split at h
      · rename_i s b rest hpc
        split at h
        · cases h
          exact .drawDoneRejected hpc
        · cases h
      · cases h
  | epollWait evs =>
      simp only [step] at h
      split at h
      · rename_i hpc
        split at h
        · rename_i hguard
          cases h
          exact .epollWait hpc hguard.2.2.2
        · cases h
      · cases h
  | handleEvent =>
      simp only [step] at h
      split at h
      · rename_i hpc
        cases h
        exact .batchEnd hpc
      · rename_i evs hpc
        split at h
        · cases h
          exact .readEventFd hpc
        · cases h
      · rename_i s evs hpc
        cases h
        exact .noEpollin hpc
      · rename_i s evs hpc
        split at h
        · split at h
          · rename_i b hwait
            cases h
            exact .drawWaiting hpc hwait
          · cases h
            exact .alreadySignalled hpc
        · cases h
      · cases h
  | fenceWait result =>
      simp only [step] at h
      split at h
      · rename_i s evs hpc
        split at h
        · split at h
          · rename_i b hwait
            split at h
            · rename_i hnone
              cases h
              exact .noFence hpc hwait hnone
            · split at h
              · rename_i hone
                subst hone
                split at h
                · cases h
                  exact .fenceSignalled hpc hwait
                · cases h
              · cases h
                exact .fenceNotSignalled hpc
          · cases h
        · cases h
      · cases h
  | drawDone =>
      simp only [step] at h
      split at h
      · rename_i s result report evs hpc
        split at h
        · split at h
          · rename_i b hwait
            cases h
            exact .drawDone hpc hwait
          · cases h
        · cases h
      · cases h
  | clearDrawWaitBuffer =>
      simp only [step] at h
      split at h
      · rename_i s evs hpc
        split at h
        · cases h
          exact .clearDrawWaitBuffer hpc
        · cases h
      · cases h

/-- `__tpl_worker_init`: the state that the library's constructor leaves. -/
def workerInit (waitSync : Buffer → Fd) (signalled : Fd → Bool) : State Ws Buffer Client where
  running := true
  eventFd := .unset
  epoll := []
  surfaceList := []
  surface := fun _ => .zero false false
  waitSync := waitSync
  signalled := signalled
  worker := .start
  notifying := fun _ => none
  listedSince := []
  enqueued := fun _ => []
  done := fun _ => []

def workerSystem : System (State Ws Buffer Client) (Label Ws Buffer Client) where
  Initial st := ∃ waitSync signalled, st = workerInit waitSync signalled
  step := step

end

end LibtplEgl.WorkerThread
