import LibtplEgl.RankedLocks
import LibtplEgl.TplTypes
import Mathlib.Data.Fintype.Order
import Mathlib.Order.Fin.Basic

namespace LibtplEgl.LockOrder

open LibtplEgl.LabelledSystem
open LibtplEgl.RankedLocks
open LibtplEgl.RankedLocks.Code (block lock unlock init skip either any loop optional locked)
open LibtplEgl.TplTypes

universe u v

/-- The mutexes: of an object, of the `tpl_wayland_egl_surface_t` behind a surface, of the
worker's `surface_list`, of the queues of a swapchain, and of the runtime. -/
inductive Lock (Object : Type u)
  | object (o : Object)
  | base (o : Object)
  | surfaceMutex
  | freeQueueMutex (o : Object)
  | vblankListMutex (o : Object)
  | drawWaitingMutex (o : Object)
  | runtimeMutex
  deriving DecidableEq, Repr

/-- The objects come first, the worker's list after them. -/
def Lock.rank {Object : Type u} : Lock Object → Fin 3
  | .object _ => 0
  | .surfaceMutex => 1
  | .base _ | .freeQueueMutex _ | .vblankListMutex _ | .drawWaitingMutex _ | .runtimeMutex => 2

abbrev LockCode (Object : Type u) := Code (Lock Object) Object

section

variable {Object : Type u}

/-- A callback of the client, which is taken to make no call of TPL: a `reset_cb`, or the
`free_func` of user data that is replaced. -/
def clientCallback : LockCode Object := skip

/-! The wayland-egl backend. -/

def trackBuffers (o : Object) : LockCode Object := optional (locked (.base o) skip)

/-- `__cb_tbm_surface_queue_reset_callback`. -/
def queueResetCallback (o : Object) : LockCode Object :=
  block [locked (.base o) skip, optional clientCallback]

/-- `__cb_client_buffer_release_callback`. -/
def bufferReleaseCallback (o : Object) : LockCode Object := optional (trackBuffers o)

/-- The events of `wl_tbm_event_queue`, of all surfaces of the display. -/
def dispatchQueue : LockCode Object :=
  loop (any fun o => either (bufferReleaseCallback o) (queueResetCallback o))

/-- `__cb_tizen_surface_shm_flusher_flush_callback`. -/
def flushCallback (o : Object) : LockCode Object :=
  optional (block [dispatchQueue, optional (queueResetCallback o), trackBuffers o])

/-- The events of the default queue. Those of the wayland-vulkan backend take no lock. -/
def dispatch : LockCode Object := loop (any fun o => optional (flushCallback o))

/-- The vblank callback takes no lock. -/
def eglWaitVblank (o : Object) : LockCode Object :=
  block [unlock (.object o), skip, lock (.object o)]

def eglCommit (o : Object) : LockCode Object := trackBuffers o

def eglEnqueueBuffer (o : Object) : LockCode Object :=
  optional (block [optional (eglWaitVblank o), trackBuffers o, optional (eglCommit o)])

def eglWaitDequeuable (o : Object) : LockCode Object :=
  block [dispatchQueue,
    optional (block [unlock (.object o), dispatchQueue, lock (.object o)])]

def eglDequeueBuffer (o : Object) : LockCode Object :=
  block [optional (queueResetCallback o), eglWaitDequeuable o, optional (trackBuffers o)]

def eglSurfaceFini (o : Object) : LockCode Object :=
  optional (block [optional dispatchQueue, trackBuffers o, trackBuffers o])

/-! The worker's list. -/

def workerSurfaceListInsert : LockCode Object := locked .surfaceMutex skip

def workerSurfaceListRemove : LockCode Object := locked .surfaceMutex skip

/-! The wayland-vulkan backend. -/

def vkCommitBuffer (o : Object) : LockCode Object := locked (.freeQueueMutex o) skip

def vkEnqueueBuffer : LockCode Object := optional dispatch

/-- `pthread_cond_wait` gives the mutex up while it waits. -/
def vkDequeueBuffer (o : Object) : LockCode Object :=
  locked (.freeQueueMutex o)
    (loop (block [unlock (.freeQueueMutex o), skip, lock (.freeQueueMutex o)]))

def vkProcessDrawDone (o : Object) : LockCode Object :=
  either (vkCommitBuffer o) (locked (.vblankListMutex o) skip)

def vkCreateSwapchain (o : Object) : LockCode Object :=
  optional (block [init (.freeQueueMutex o), optional (init (.vblankListMutex o)),
    workerSurfaceListInsert])

def vkDestroySwapchain (o : Object) : LockCode Object :=
  block [workerSurfaceListRemove, optional dispatch, optional (locked (.vblankListMutex o) skip)]

def vkSurfaceFini (o : Object) : LockCode Object := optional (vkDestroySwapchain o)

/-! The TBM backends. -/

/-- The draw waiting queue is changed after `pthread_mutex_init`, not after a lock. -/
def tbmEnqueueBuffer (o : Object) : LockCode Object :=
  optional (block [init (.drawWaitingMutex o), unlock (.drawWaitingMutex o)])

def tbmDrawWaitBufferGet (o : Object) : LockCode Object := locked (.drawWaitingMutex o) skip

def tbmDrawDone (o : Object) : LockCode Object := optional (locked (.vblankListMutex o) skip)

def tbmCreateSwapchain (o : Object) : LockCode Object :=
  block [init (.vblankListMutex o), init (.drawWaitingMutex o), workerSurfaceListInsert]

def tbmDestroySwapchain (o : Object) : LockCode Object :=
  block [workerSurfaceListRemove, locked (.vblankListMutex o) skip,
    locked (.drawWaitingMutex o) skip]

def tbmSurfaceFini (o : Object) : LockCode Object := optional (tbmDestroySwapchain o)

/-! The functions of a backend. -/

def dequeueBuffer (o : Object) : TplBackend → LockCode Object
  | .wayland => eglDequeueBuffer o
  | .waylandVulkanWsi => vkDequeueBuffer o
  | .gbm | .tbm | .tbmVulkanWsi | .x11Dri2 | .x11Dri3 => skip

def enqueueBuffer (o : Object) : TplBackend → LockCode Object
  | .wayland => eglEnqueueBuffer o
  | .waylandVulkanWsi => vkEnqueueBuffer
  | .tbmVulkanWsi => tbmEnqueueBuffer o
  | .gbm | .tbm | .x11Dri2 | .x11Dri3 => skip

def createSwapchain (o : Object) : TplBackend → LockCode Object
  | .waylandVulkanWsi => vkCreateSwapchain o
  | .tbm | .tbmVulkanWsi => tbmCreateSwapchain o
  | .wayland | .gbm | .x11Dri2 | .x11Dri3 => skip

def destroySwapchain (o : Object) : TplBackend → LockCode Object
  | .waylandVulkanWsi => vkDestroySwapchain o
  | .tbmVulkanWsi => tbmDestroySwapchain o
  | .wayland | .gbm | .tbm | .x11Dri2 | .x11Dri3 => skip

def surfaceFini (o : Object) : TplBackend → LockCode Object
  | .wayland => eglSurfaceFini o
  | .waylandVulkanWsi => vkSurfaceFini o
  | .tbm | .tbmVulkanWsi => tbmSurfaceFini o
  | .gbm | .x11Dri2 | .x11Dri3 => skip

def drawWaitBufferGet (o : Object) : TplBackend → LockCode Object
  | .tbm | .tbmVulkanWsi => tbmDrawWaitBufferGet o
  | .waylandVulkanWsi | .wayland | .gbm | .x11Dri2 | .x11Dri3 => skip

def drawDone (o : Object) : TplBackend → LockCode Object
  | .waylandVulkanWsi => vkProcessDrawDone o
  | .tbm | .tbmVulkanWsi => tbmDrawDone o
  | .wayland | .gbm | .x11Dri2 | .x11Dri3 => skip

/-- A display is initialised: the wayland-vulkan backend dispatches events meanwhile. -/
def displayInit : TplBackend → LockCode Object
  | .waylandVulkanWsi => dispatch
  | .wayland | .gbm | .tbm | .tbmVulkanWsi | .x11Dri2 | .x11Dri3 => skip

def runtimeFindDisplay : LockCode Object := optional (locked .runtimeMutex skip)

def runtimeAddDisplay : LockCode Object := locked .runtimeMutex skip

def runtimeRemoveDisplay : LockCode Object := locked .runtimeMutex skip

section

variable (backend : Object → TplBackend)

def workerPrepareDrawWaitBuffer (o : Object) : LockCode Object :=
  optional (loop (block [drawWaitBufferGet o (backend o), optional (drawDone o (backend o))]))

def workerHandleEvent (o : Object) : LockCode Object := optional (drawDone o (backend o))

def workerThreadLoop : LockCode Object :=
  loop (block [locked .surfaceMutex (loop (any (workerPrepareDrawWaitBuffer backend))),
    loop (any (workerHandleEvent backend))])

/-- What a thread runs: a function of the frontend, the worker's loop, or the dispatch of
wayland events by the application. -/
inductive Call (Object : Type u)
  | displayCreate (type : TplBackend)
  | displayGet
  | displayUnreference
  | surfaceUnreference (o : Object)
  | setUserData (o : Object)
  | getUserData (o : Object)
  | validate (o : Object)
  | setPostInterval (o : Object)
  | getPostInterval (o : Object)
  | dequeueBuffer (o : Object)
  | enqueueBuffer (o : Object)
  | getSwapchainBuffers (o : Object)
  | createSwapchain (o : Object)
  | destroySwapchain (o : Object)
  | setFrontbufferMode (o : Object)
  | setResetCb (o : Object)
  | setRotationCapability (o : Object)
  | workerThreadLoop
  | dispatchEvents
  deriving DecidableEq, Repr

def Call.body : Call Object → LockCode Object
  | .displayCreate type =>
      block [runtimeFindDisplay,
        optional (block [displayInit type,
          either runtimeRemoveDisplay (block [runtimeAddDisplay, optional runtimeRemoveDisplay])])]
  | .displayGet => runtimeFindDisplay
  | .displayUnreference => optional runtimeRemoveDisplay
  | .surfaceUnreference o => optional (surfaceFini o (backend o))
  | .setUserData o => optional (locked (.object o) (optional clientCallback))
  | .getUserData o | .validate o | .setPostInterval o | .getPostInterval o | .setResetCb o
  | .setRotationCapability o | .getSwapchainBuffers o =>
      optional (locked (.object o) skip)
  | .dequeueBuffer o =>
      optional (locked (.object o) (optional (LockOrder.dequeueBuffer o (backend o))))
  | .enqueueBuffer o =>
      optional (block [lock (.object o),
        -- the front buffer is posted already
        either (unlock (.object o))
          (block [LockOrder.enqueueBuffer o (backend o), unlock (.object o)])])
  | .createSwapchain o => optional (locked (.object o) (LockOrder.createSwapchain o (backend o)))
  | .destroySwapchain o =>
      optional (locked (.object o) (LockOrder.destroySwapchain o (backend o)))
  | .setFrontbufferMode o =>
      optional (block [lock (.object o), either (unlock (.object o)) (unlock (.object o))])
  | .workerThreadLoop => LockOrder.workerThreadLoop backend
  | .dispatchEvents => either dispatch dispatchQueue

end

def Outer (held : List (Lock Object)) : Prop := ∀ l ∈ held, l.rank < 2

theorem outer_nil : Outer ([] : List (Lock Object)) := nofun

theorem outer_singleton {m : Lock Object} (hm : m.rank < 2) : Outer [m] := by
  intro l hl
  obtain rfl := List.mem_singleton.mp hl
  exact hm

theorem outer_object (o : Object) : Outer [Lock.object o] :=
  outer_singleton (show (0 : Fin 3) < 2 by decide)

theorem outer_surfaceMutex : Outer [(.surfaceMutex : Lock Object)] :=
  outer_singleton (show (1 : Fin 3) < 2 by decide)

theorem rank_object (o : Object) : ∀ l ∈ [Lock.object o], l.rank = 0 := by
  intro l hl
  obtain rfl := List.mem_singleton.mp hl
  rfl

theorem Outer.of_rank_zero {held : List (Lock Object)} (h : ∀ l ∈ held, l.rank = 0) :
    Outer held :=
  fun l hl => (h l hl).symm ▸ show (0 : Fin 3) < 2 by decide

variable [DecidableEq Object] {held : List (Lock Object)}

/-- The code takes locks in the order of the ranks, and releases what it took. -/
abbrev InOrder (code : LockCode Object) (held : List (Lock Object)) : Prop :=
  code.Neutral Lock.rank held

theorem inOrder_leaf (h : Outer held) {m : Lock Object} (hm : m.rank = 2) :
    InOrder (locked m skip) held :=
  Code.neutral_skip.locked fun l hl => hm ▸ h l hl

theorem inOrder_trackBuffers (h : Outer held) (o : Object) : InOrder (trackBuffers o) held :=
  (inOrder_leaf h rfl).optional

theorem inOrder_queueResetCallback (h : Outer held) (o : Object) :
    InOrder (queueResetCallback o) held := by
  refine Code.neutral_block ?_
  simp only [List.forall_mem_cons]
  exact ⟨inOrder_leaf h rfl, Code.neutral_skip.optional, nofun⟩

theorem inOrder_dispatchQueue (h : Outer held) : InOrder dispatchQueue held := by
  refine Code.Neutral.loop (Code.neutral_any fun o => ?_)
  exact (inOrder_trackBuffers h o).optional.either (inOrder_queueResetCallback h o)

theorem inOrder_dispatch (h : Outer held) : InOrder dispatch held := by
  refine Code.Neutral.loop (Code.neutral_any fun o => ?_)
  refine Code.Neutral.optional (Code.Neutral.optional (Code.neutral_block ?_))
  simp only [List.forall_mem_cons]
  exact ⟨inOrder_dispatchQueue h, (inOrder_queueResetCallback h o).optional,
    inOrder_trackBuffers h o, nofun⟩

theorem inOrder_eglEnqueueBuffer (o : Object) : InOrder (eglEnqueueBuffer o) [.object o] := by
  refine Code.Neutral.optional (Code.neutral_block ?_)
  simp only [List.forall_mem_cons]
  exact ⟨(Code.neutral_skip.unlocked nofun).optional, inOrder_trackBuffers (outer_object o) o,
    (inOrder_trackBuffers (outer_object o) o).optional, nofun⟩

theorem inOrder_eglDequeueBuffer (o : Object) : InOrder (eglDequeueBuffer o) [.object o] := by
  have hwait : InOrder (eglWaitDequeuable o) [.object o] := by
    refine Code.neutral_block ?_
    simp only [List.forall_mem_cons]
    exact ⟨inOrder_dispatchQueue (outer_object o),
      ((inOrder_dispatchQueue outer_nil).unlocked nofun).optional, nofun⟩
  refine Code.neutral_block ?_
  simp only [List.forall_mem_cons]
  exact ⟨(inOrder_queueResetCallback (outer_object o) o).optional, hwait,
    (inOrder_trackBuffers (outer_object o) o).optional, nofun⟩

theorem inOrder_eglSurfaceFini (o : Object) : InOrder (eglSurfaceFini o) [] := by
  refine Code.Neutral.optional (Code.neutral_block ?_)
  simp only [List.forall_mem_cons]
  exact ⟨(inOrder_dispatchQueue outer_nil).optional, inOrder_trackBuffers outer_nil o,
    inOrder_trackBuffers outer_nil o, nofun⟩

theorem inOrder_surfaceList (h : ∀ l ∈ held, l.rank = 0) :
    InOrder (locked .surfaceMutex skip) held :=
  Code.neutral_skip.locked fun l hl => (h l hl).symm ▸ show (0 : Fin 3) < 1 by decide

/-- Code that is called with at most an object's mutex. -/
abbrev FromFrontend (code : LockCode Object) : Prop :=
  ∀ held : List (Lock Object), (∀ l ∈ held, l.rank = 0) → InOrder code held

theorem inOrder_vkDequeueBuffer (o : Object) : FromFrontend (vkDequeueBuffer o) := by
  intro held h
  have hlt : ∀ l ∈ held, l.rank < (Lock.freeQueueMutex o).rank := Outer.of_rank_zero h
  exact (Code.Neutral.loop (Code.neutral_skip.unlocked hlt)).locked hlt

theorem inOrder_vkCreateSwapchain (o : Object) : FromFrontend (vkCreateSwapchain o) := by
  intro held h
  refine Code.Neutral.optional (Code.neutral_block ?_)
  simp only [List.forall_mem_cons]
  exact ⟨Code.neutral_init _, (Code.neutral_init _).optional, inOrder_surfaceList h, nofun⟩

theorem inOrder_vkDestroySwapchain (o : Object) : FromFrontend (vkDestroySwapchain o) := by
  intro held h
  refine Code.neutral_block ?_
  simp only [List.forall_mem_cons]
  exact ⟨inOrder_surfaceList h, (inOrder_dispatch (.of_rank_zero h)).optional,
    (inOrder_leaf (.of_rank_zero h) rfl).optional, nofun⟩

theorem inOrder_tbmEnqueueBuffer (o : Object) : FromFrontend (tbmEnqueueBuffer o) := by
  intro held h
  have hnot : Lock.drawWaitingMutex o ∉ held := fun hmem => by cases h _ hmem
  refine Code.Neutral.optional (Code.neutral_block ?_)
  simp only [List.forall_mem_cons]
  exact ⟨Code.neutral_init _, Code.neutral_unlock hnot, nofun⟩

theorem inOrder_tbmCreateSwapchain (o : Object) : FromFrontend (tbmCreateSwapchain o) := by
  intro held h
  refine Code.neutral_block ?_
  simp only [List.forall_mem_cons]
  exact ⟨Code.neutral_init _, Code.neutral_init _, inOrder_surfaceList h, nofun⟩

theorem inOrder_tbmDestroySwapchain (o : Object) : FromFrontend (tbmDestroySwapchain o) := by
  intro held h
  refine Code.neutral_block ?_
  simp only [List.forall_mem_cons]
  exact ⟨inOrder_surfaceList h, inOrder_leaf (.of_rank_zero h) rfl,
    inOrder_leaf (.of_rank_zero h) rfl, nofun⟩

theorem inOrder_drawDone (h : Outer held) (o : Object) (type : TplBackend) :
    InOrder (drawDone o type) held := by
  cases type with
  | waylandVulkanWsi => exact (inOrder_leaf h rfl).either (inOrder_leaf h rfl)
  | tbm | tbmVulkanWsi => exact (inOrder_leaf h rfl).optional
  | wayland | gbm | x11Dri2 | x11Dri3 => exact Code.neutral_skip

theorem inOrder_drawWaitBufferGet (h : Outer held) (o : Object) (type : TplBackend) :
    InOrder (drawWaitBufferGet o type) held := by
  cases type with
  | tbm | tbmVulkanWsi => exact inOrder_leaf h rfl
  | waylandVulkanWsi | wayland | gbm | x11Dri2 | x11Dri3 => exact Code.neutral_skip

theorem inOrder_dequeueBuffer (o : Object) (type : TplBackend) :
    InOrder (dequeueBuffer o type) [.object o] := by
  cases type with
  | wayland => exact inOrder_eglDequeueBuffer o
  | waylandVulkanWsi => exact inOrder_vkDequeueBuffer o _ (rank_object o)
  | gbm | tbm | tbmVulkanWsi | x11Dri2 | x11Dri3 => exact Code.neutral_skip

theorem inOrder_enqueueBuffer (o : Object) (type : TplBackend) :
    InOrder (enqueueBuffer o type) [.object o] := by
  cases type with
  | wayland => exact inOrder_eglEnqueueBuffer o
  | waylandVulkanWsi => exact (inOrder_dispatch (outer_object o)).optional
  | tbmVulkanWsi => exact inOrder_tbmEnqueueBuffer o _ (rank_object o)
  | gbm | tbm | x11Dri2 | x11Dri3 => exact Code.neutral_skip

theorem inOrder_createSwapchain (o : Object) (type : TplBackend) :
    InOrder (createSwapchain o type) [.object o] := by
  cases type with
  | waylandVulkanWsi => exact inOrder_vkCreateSwapchain o _ (rank_object o)
  | tbm | tbmVulkanWsi => exact inOrder_tbmCreateSwapchain o _ (rank_object o)
  | wayland | gbm | x11Dri2 | x11Dri3 => exact Code.neutral_skip

theorem inOrder_destroySwapchain (o : Object) (type : TplBackend) :
    InOrder (destroySwapchain o type) [.object o] := by
  cases type with
  | waylandVulkanWsi => exact inOrder_vkDestroySwapchain o _ (rank_object o)
  | tbmVulkanWsi => exact inOrder_tbmDestroySwapchain o _ (rank_object o)
  | wayland | gbm | tbm | x11Dri2 | x11Dri3 => exact Code.neutral_skip

theorem inOrder_surfaceFini (o : Object) (type : TplBackend) : InOrder (surfaceFini o type) [] := by
  cases type with
  | wayland => exact inOrder_eglSurfaceFini o
  | waylandVulkanWsi => exact (inOrder_vkDestroySwapchain o [] nofun).optional
  | tbm | tbmVulkanWsi => exact (inOrder_tbmDestroySwapchain o [] nofun).optional
  | gbm | x11Dri2 | x11Dri3 => exact Code.neutral_skip

theorem inOrder_displayInit (type : TplBackend) :
    InOrder (displayInit type : LockCode Object) [] := by
  cases type with
  | waylandVulkanWsi => exact inOrder_dispatch outer_nil
  | wayland | gbm | tbm | tbmVulkanWsi | x11Dri2 | x11Dri3 => exact Code.neutral_skip

variable (backend : Object → TplBackend)

theorem inOrder_workerThreadLoop : InOrder (workerThreadLoop backend) [] := by
  have hprepare : ∀ o, InOrder (workerPrepareDrawWaitBuffer backend o) [.surfaceMutex] := by
    intro o
    refine Code.Neutral.optional (Code.Neutral.loop (Code.neutral_block ?_))
    simp only [List.forall_mem_cons]
    exact ⟨inOrder_drawWaitBufferGet outer_surfaceMutex o _,
      (inOrder_drawDone outer_surfaceMutex o _).optional, nofun⟩
  refine Code.Neutral.loop (Code.neutral_block ?_)
  simp only [List.forall_mem_cons]
  refine ⟨(Code.Neutral.loop (Code.neutral_any hprepare)).locked nofun, ?_, nofun⟩
  exact Code.Neutral.loop (Code.neutral_any fun o => (inOrder_drawDone outer_nil o _).optional)

/-- Every call takes locks in order and returns without one. -/
theorem inOrder_body (c : Call Object) : InOrder (c.body backend) [] := by
  have hruntime : InOrder (locked .runtimeMutex skip : LockCode Object) [] :=
    inOrder_leaf outer_nil rfl
  cases c with
  | displayCreate type =>
      have hadd : InOrder (block [runtimeAddDisplay, optional runtimeRemoveDisplay] :
          LockCode Object) [] := by
        refine Code.neutral_block ?_
        simp only [List.forall_mem_cons]
        exact ⟨hruntime, hruntime.optional, nofun⟩
      have hnew : InOrder (block [displayInit type, either runtimeRemoveDisplay
          (block [runtimeAddDisplay, optional runtimeRemoveDisplay])] : LockCode Object) [] := by
        refine Code.neutral_block ?_
        simp only [List.forall_mem_cons]
        exact ⟨inOrder_displayInit type, hruntime.either hadd, nofun⟩
      refine Code.neutral_block ?_
      simp only [List.forall_mem_cons]
      exact ⟨hruntime.optional, hnew.optional, nofun⟩
  | displayGet | displayUnreference => exact hruntime.optional
  | surfaceUnreference o => exact (inOrder_surfaceFini o (backend o)).optional
  | setUserData o => exact (Code.neutral_skip.optional.locked nofun).optional
  | getUserData o | validate o | setPostInterval o | getPostInterval o
  | setResetCb o | setRotationCapability o | getSwapchainBuffers o =>
      exact (Code.neutral_skip.locked nofun).optional
  | dequeueBuffer o =>
      exact ((inOrder_dequeueBuffer o (backend o)).optional.locked nofun).optional
  | enqueueBuffer o =>
      have hunlock : ((.object o : Lock Object) :: []).erase (.object o) = [] :=
        List.erase_cons_head _ _
      refine Code.Neutral.optional ⟨nofun, ?_⟩
      exact ⟨hunlock, (inOrder_enqueueBuffer o (backend o)).then hunlock⟩
  | createSwapchain o =>
      exact ((inOrder_createSwapchain o (backend o)).locked nofun).optional
  | destroySwapchain o =>
      exact ((inOrder_destroySwapchain o (backend o)).locked nofun).optional
  | setFrontbufferMode o =>
      have hunlock : ((.object o : Lock Object) :: []).erase (.object o) = [] :=
        List.erase_cons_head _ _
      exact Code.Neutral.optional ⟨nofun, hunlock, hunlock⟩
  | workerThreadLoop => exact inOrder_workerThreadLoop backend
  | dispatchEvents => exact (inOrder_dispatch outer_nil).either (inOrder_dispatchQueue outer_nil)

section

variable {Thread : Type v} [DecidableEq Thread]

def threadSystem (backend : Object → TplBackend) :
    System (State Thread (Lock Object) Object) (Label Thread (Call Object) Object) :=
  lockSystem (Call.body backend)

/-- No thread waits for a mutex that it has itself, or that threads have which wait for
it; and a thread that waits does so for one which is in a call and waits for none. -/
structure DeadlockFree (st : State Thread (Lock Object) Object) : Prop where
  acyclic : ∀ t, ¬ Relation.TransGen st.WaitsFor t t
  unblocked : ∀ t s, st.WaitsFor t s → ∃ r, Relation.TransGen st.WaitsFor t r ∧
    st.left r ≠ [] ∧ ∀ q, ¬ st.WaitsFor r q

theorem deadlockFree (st : State Thread (Lock Object) Object)
    (hst : (threadSystem backend).Reachable st) : DeadlockFree st := by
  have h : Inv Lock.rank st := inv_reachable (inOrder_body backend) hst
  exact ⟨h.acyclic, fun _ _ hwaits => h.exists_unblocked hwaits⟩

end

end

def twoCalls : List (Label Nat (Call Nat) Nat) :=
  [.call 0 (.setPostInterval 5), .branch 0 true, .step 0, .step 0,
    .call 1 (.validate 5), .branch 1 true, .step 1]

theorem deadlockFree_twoCalls :
    ∃ st : State Nat (Lock Nat) Nat, (threadSystem fun _ => .wayland).Reachable st ∧
      st.WaitsFor 1 0 ∧ DeadlockFree st := by
  obtain ⟨st, hrun, hwanted, howner⟩ := (threadSystem fun _ : Nat => .wayland).exists_of_run
    (fun st => wanted (st.left (1 : Nat)) = some (.object 5) ∧ st.owner (.object 5) = some 0)
    quiet twoCalls (by decide)
  have hst := System.Reachable.of_run (.initial rfl) hrun
  obtain ⟨rest, hleft⟩ := wanted_eq_some hwanted
  exact ⟨st, hst, ⟨.object 5, rest, hleft, howner⟩, deadlockFree _ st hst⟩

section

variable {Object : Type u} [DecidableEq Object] {Thread : Type v} [DecidableEq Thread]

/-- A thread that is out of its call has no mutex. -/
theorem mutexes_released (backend : Object → TplBackend)
    (st : State Thread (Lock Object) Object) (hst : (threadSystem backend).Reachable st)
    (t : Thread) (hdone : st.left t = []) (m : Lock Object) : st.owner m ≠ some t :=
  (inv_reachable (inOrder_body backend) hst).released hdone m

end

def firstCall : List (Label Nat (Call Nat) Nat) :=
  twoCalls ++ [.step 0, .step 0, .step 0, .step 0, .step 0]

theorem mutexes_released_firstCall :
    ∃ st, (threadSystem fun _ => .wayland).Reachable st ∧ st.left (0 : Nat) = [] ∧
      ∀ m : Lock Nat, st.owner m ≠ some 0 := by
  obtain ⟨st, hrun, hempty⟩ := (threadSystem fun _ : Nat => .wayland).exists_of_run
    (fun st => (st.left (0 : Nat)).isEmpty = true) quiet firstCall (by decide)
  have hst := System.Reachable.of_run (.initial rfl) hrun
  have hdone := List.isEmpty_iff.mp hempty
  exact ⟨st, hst, hdone, mutexes_released _ st hst 0 hdone⟩

end LibtplEgl.LockOrder
