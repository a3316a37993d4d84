import LibtplEgl.LabelledSystem
import LibtplEgl.ScopedUse
import LibtplEgl.TplTypes

namespace LibtplEgl.SwapchainLifecycle

open LibtplEgl.LabelledSystem
open LibtplEgl.ScopedUse
open LibtplEgl.TplTypes

universe u v

/-- The backends that set `create_swapchain`; only the last two set
`destroy_swapchain`. -/
inductive SwapchainBackend
  | tbm
  | tbmVulkanWsi
  | waylandVulkanWsi
  deriving DecidableEq, Repr

/-- What `create_swapchain` initialises and `destroy_swapchain` destroys in the
backend data of a surface. -/
inductive SyncObject
  | vblankList
  | vblankListMutex
  | drawWaitingQueue
  | drawWaitingMutex
  | freeQueueMutex
  | freeQueueCond
  deriving DecidableEq, Repr

/-- `TPL_DISPLAY_PRESENT_MODE_MAILBOX` and the two modes that wait for vblank. -/
def mailbox : Nat := 1
def fifo : Nat := 2
def fifoRelaxed : Nat := 8

/-- `surface_capabilities` of a wayland-vulkan display. -/
structure SurfaceCapabilities where
  minBuffer : Int
  maxBuffer : Int
  presentModes : Nat
  deriving DecidableEq, Repr

/-- The backend data of a surface with its `worker_surface`. `waiting` is the
`draw_waiting_queue` of a tbm surface and the acquire side of `tbm_queue` of a
wayland-vulkan surface; `dequeued` are the buffers that the client has. `live`
records the run: a swapchain was created, and neither destroyed nor finalized
with its surface since. -/
structure SwapchainSurface (Buffer : Type v) where
  backend : SwapchainBackend
  type : TplSurfaceType
  capabilities : SurfaceCapabilities
  scopes : Scopes SyncObject
  presentMode : Nat
  vblankDone : Bool
  needWorkerClear : Bool
  tbmQueue : Bool
  drawWaitBuffer : Option Buffer
  waiting : List Buffer
  dequeued : List Buffer
  live : Bool
  allocated : Bool

/-- `tpl_worker_thread.surface_list` and the surfaces whose `worker_surface` it can
hold. -/
structure State (Ws : Type u) (Buffer : Type v) where
  surfaceList : List Ws
  surface : Ws → Option (SwapchainSurface Buffer)

/-- The parameters of `tpl_surface_create_swapchain`, the result of
`tbm_surface_queue_create` and that of the allocation in `__tpl_list_push_back`. -/
structure CreateCall where
  width : Int
  height : Int
  bufferCount : Int
  presentMode : Int
  queueCreated : Bool
  nodeAllocated : Bool
  deriving DecidableEq, Repr

/-- A call of the client on a surface, or a step of the worker. `waits` says that
the free queue is empty, `added` that the buffer has a fence and that epoll takes it. -/
inductive Call (Buffer : Type v)
  | createSwapchain (args : CreateCall)
  | destroySwapchain
  | dequeueBuffer (waits : Bool) (result : Option Buffer)
  | enqueueBuffer (b : Buffer) (queueOk : Bool)
  | unreference
  | prepareDrawWaitBuffer (added : Bool)
  | fenceEvent
  deriving DecidableEq, Repr

inductive Label (Ws : Type u) (Buffer : Type v)
  | surfaceInit (s : Ws) (backend : SwapchainBackend) (type : TplSurfaceType)
      (capabilities : SurfaceCapabilities)
  | call (s : Ws) (c : Call Buffer)
  deriving DecidableEq, Repr

/-- What a call does to `surface_list`. -/
inductive ListEdit
  | keep
  | insert
  | remove
  deriving DecidableEq, Repr

/-- `__tpl_worker_surface_list_insert` and `__tpl_worker_surface_list_remove`, which
removes the first occurrence. -/
def ListEdit.apply {Ws : Type u} [DecidableEq Ws] (s : Ws) (surfaceList : List Ws) :
    ListEdit → List Ws
  | .keep => surfaceList
  | .insert => surfaceList ++ [s]
  | .remove => surfaceList.erase s

namespace SwapchainSurface

variable {Buffer : Type v}

def perform (x : SwapchainSurface Buffer) (ops : List (Op SyncObject)) :
    SwapchainSurface Buffer :=
  { x with scopes := x.scopes.performAll ops }

/-- `__tpl_list_fini` and the destruction of the mutex of the list. -/
def finiOps (list mutex : SyncObject) : List (Op SyncObject) :=
  [.use mutex, .destroy list, .use mutex, .destroy mutex]

def use (x : SwapchainSurface Buffer) (objects : List SyncObject) : SwapchainSurface Buffer :=
  x.perform (objects.map .use)

/-- `__tpl_list_push_back` or `__tpl_list_pop_front` under the mutex of the list. -/
def locked (list mutex : SyncObject) : List SyncObject := [mutex, list, mutex]

def waitsForVblank (presentMode : Nat) : Bool := presentMode &&& (fifo ||| fifoRelaxed) != 0

/-- `__tpl_worker_surface_list_insert` resets `draw_wait_buffer`; without memory for
the node it inserts nothing. -/
def listInsert (x : SwapchainSurface Buffer) (nodeAllocated : Bool) :
    SwapchainSurface Buffer × ListEdit :=
  ({ x with drawWaitBuffer := none }, if nodeAllocated then .insert else .keep)

/-- `__tpl_tbm_surface_create_swapchain`, which replaces every present mode by
MAILBOX. -/
def tbmCreateSwapchain (x : SwapchainSurface Buffer) (args : CreateCall) :
    TplResult × SwapchainSurface Buffer × ListEdit :=
  let x := { x with presentMode := mailbox }
  let x := x.perform [.init .vblankList, .init .drawWaitingQueue, .init .vblankListMutex,
    .init .drawWaitingMutex]
  let (x, edit) := { x with waiting := [] }.listInsert args.nodeAllocated
  (.errorNone, { x with needWorkerClear := true }, edit)

/-- `__tpl_tbm_surface_destroy_swapchain`. -/
def tbmDestroySwapchain (x : SwapchainSurface Buffer) : SwapchainSurface Buffer :=
  { x.perform (finiOps .vblankList .vblankListMutex ++
      finiOps .drawWaitingQueue .drawWaitingMutex) with
    waiting := []
    needWorkerClear := false }

/-- `__tpl_wayland_vk_wsi_surface_create_swapchain`, which replaces every present
mode by MAILBOX. -/
def vkCreateSwapchain (x : SwapchainSurface Buffer) (args : CreateCall) :
    TplResult × SwapchainSurface Buffer × ListEdit :=
  if args.bufferCount < x.capabilities.minBuffer ∨ args.bufferCount > x.capabilities.maxBuffer then
    (.errorInvalidParameter, x, .keep)
  else
    let x := { x with presentMode := mailbox, tbmQueue := args.queueCreated }
    if x.tbmQueue = false then (.errorOutOfMemory, x, .keep)
    else
      let x := x.perform ([.init .freeQueueMutex, .init .freeQueueCond] ++
        if waitsForVblank x.presentMode then [.init .vblankListMutex, .init .vblankList] else [])
      (.errorNone, { x with waiting := [] }.listInsert args.nodeAllocated)

/-- `__tpl_wayland_vk_wsi_surface_destroy_swapchain`. -/
def vkDestroySwapchain (x : SwapchainSurface Buffer) : SwapchainSurface Buffer :=
  { x.perform ((if waitsForVblank x.presentMode then finiOps .vblankList .vblankListMutex else []) ++
      [.destroy .freeQueueCond, .destroy .freeQueueMutex]) with
    tbmQueue := false
    waiting := [] }

/-- `tpl_surface_create_swapchain`. -/
def createSwapchain (x : SwapchainSurface Buffer) (args : CreateCall) :
    TplResult × SwapchainSurface Buffer × ListEdit :=
  if args.width ≤ 0 ∨ args.height ≤ 0 then (.errorInvalidParameter, x, .keep)
  else match x.backend with
    | .tbm | .tbmVulkanWsi => x.tbmCreateSwapchain args
    | .waylandVulkanWsi => x.vkCreateSwapchain args

/-- `tpl_surface_destroy_swapchain`. -/
def destroySwapchain (x : SwapchainSurface Buffer) :
    TplResult × SwapchainSurface Buffer × ListEdit :=
  match x.backend with
  | .tbm => (.errorInvalidOperation, x, .keep)
  | .tbmVulkanWsi => (.errorNone, x.tbmDestroySwapchain, .remove)
  | .waylandVulkanWsi => (.errorNone, x.vkDestroySwapchain, .remove)

/-- The `fini` of the backend. -/
def fini (x : SwapchainSurface Buffer) : SwapchainSurface Buffer × ListEdit :=
  match x.backend with
  | .tbm | .tbmVulkanWsi =>
      if x.needWorkerClear then (x.tbmDestroySwapchain, .remove) else (x, .keep)
  | .waylandVulkanWsi => if x.tbmQueue then (x.vkDestroySwapchain, .remove) else (x, .keep)

/-- The wait for a free buffer in `__tpl_wayland_vk_wsi_surface_dequeue_buffer`. -/
def freeQueueUses (waits : Bool) : List SyncObject :=
  [.freeQueueMutex] ++ (if waits then [.freeQueueCond, .freeQueueMutex] else []) ++
    [.freeQueueMutex]

/-- `__tpl_wayland_vk_wsi_surface_commit_buffer`. -/
def commitUses : List SyncObject := [.freeQueueMutex, .freeQueueMutex, .freeQueueCond]

/-- The objects that `backend.dequeue_buffer` uses; a queue that is NULL gives no
buffer. -/
def dequeueBuffer (x : SwapchainSurface Buffer) (waits : Bool) (result : Option Buffer) :
    SwapchainSurface Buffer :=
  match x.backend with
  | .tbm | .tbmVulkanWsi => { x with dequeued := result.toList ++ x.dequeued }
  | .waylandVulkanWsi =>
      { x.use (freeQueueUses waits) with
        dequeued := if x.tbmQueue then result.toList ++ x.dequeued else x.dequeued }

/-- `__tpl_tbm_surface_enqueue_buffer` and `__tpl_wayland_vk_wsi_surface_enqueue_buffer`
on a buffer that is valid. The former initialises the mutex that it then unlocks. -/
def backendEnqueueBuffer (x : SwapchainSurface Buffer) (b : Buffer) (queueOk : Bool) :
    TplResult × SwapchainSurface Buffer :=
  match x.backend with
  | .tbm => (if queueOk then .errorNone else .errorInvalidOperation, x)
  | .tbmVulkanWsi =>
      let x := (x.perform [.init .drawWaitingMutex]).use [.drawWaitingQueue, .drawWaitingMutex]
      (.errorNone, { x with waiting := x.waiting ++ [b] })
  | .waylandVulkanWsi =>
      if x.tbmQueue && queueOk then (.errorNone, { x with waiting := x.waiting ++ [b] })
      else (.errorInvalidOperation, x)

/-- `tpl_surface_enqueue_buffer`. -/
def enqueueBuffer (x : SwapchainSurface Buffer) (b : Buffer) (queueOk : Bool) :
    TplResult × SwapchainSurface Buffer :=
  if x.type ≠ .window then (.errorInvalidParameter, x) else x.backendEnqueueBuffer b queueOk

/-- The objects that `draw_done` uses: `__tpl_tbm_draw_done` and
`__tpl_wayland_vk_wsi_process_draw_done`. -/
def drawDone (x : SwapchainSurface Buffer) : SwapchainSurface Buffer :=
  let vblank := locked .vblankList .vblankListMutex
  let send := match x.backend with
    | .tbm | .tbmVulkanWsi => []
    | .waylandVulkanWsi => commitUses
  if x.backend = .waylandVulkanWsi ∧ x.presentMode &&& x.capabilities.presentModes ≠ 0 then
    x.use commitUses
  else if x.presentMode = fifo then x.use vblank
  else if x.presentMode = fifoRelaxed ∧ x.vblankDone = false then
    { x.use vblank with vblankDone := true }
  else x.use send

/-- The objects that taking a buffer out of `waiting` uses. -/
def waitingUses (x : SwapchainSurface Buffer) : List SyncObject :=
  match x.backend with
  | .tbm | .tbmVulkanWsi => locked .drawWaitingQueue .drawWaitingMutex
  | .waylandVulkanWsi => []

/-- One round of the loop in `__tpl_worker_prepare_draw_wait_buffer`. -/
def prepareDrawWaitBuffer (x : SwapchainSurface Buffer) (added : Bool) :
    SwapchainSurface Buffer :=
  let x := x.use x.waitingUses
  match x.waiting with
  | [] => x
  | b :: rest =>
      if added then { x with waiting := rest, drawWaitBuffer := some b }
      else drawDone { x with waiting := rest }

variable [DecidableEq Buffer]

/-- A call on an allocated surface, or a step of the worker: a scan comes to the
surfaces in `surface_list`, an event to any that has a `draw_wait_buffer`. -/
def call (x : SwapchainSurface Buffer) (listed : Bool) :
    Call Buffer → Option (SwapchainSurface Buffer × ListEdit)
  | .createSwapchain args =>
      if x.allocated then
        let (result, x', edit) := x.createSwapchain args
        some ({ x' with live := x.live || result = .errorNone }, edit)
      else none
  | .destroySwapchain =>
      if x.allocated then
        let (result, x', edit) := x.destroySwapchain
        some ({ x' with live := x.live && result ≠ .errorNone }, edit)
      else none
  | .dequeueBuffer waits result =>
      if x.allocated then some (x.dequeueBuffer waits result, .keep) else none
  | .enqueueBuffer b queueOk =>
      if x.allocated ∧ b ∈ x.dequeued then
        some ({ x with dequeued := x.dequeued.erase b }.enqueueBuffer b queueOk |>.2, .keep)
      else none
  | .unreference =>
      if x.allocated then
        let (x', edit) := x.fini
        some ({ x' with live := false, allocated := false }, edit)
      else none
  | .prepareDrawWaitBuffer added =>
      if listed ∧ x.drawWaitBuffer = none then some (x.prepareDrawWaitBuffer added, .keep)
      else none
  | .fenceEvent =>
      if x.drawWaitBuffer.isSome then some ({ x.drawDone with drawWaitBuffer := none }, .keep)
      else none

/-- A surface after the `init` of its backend. -/
def new (backend : SwapchainBackend) (type : TplSurfaceType) (capabilities : SurfaceCapabilities) :
    SwapchainSurface Buffer where
  backend := backend
  type := type
  capabilities := capabilities
  scopes := .zero
  presentMode := 0
  vblankDone := false
  needWorkerClear := false
  tbmQueue := false
  drawWaitBuffer := none
  waiting := []
  dequeued := []
  live := false
  allocated := true

end SwapchainSurface

section

variable {Ws : Type u} {Buffer : Type v} [DecidableEq Ws] [DecidableEq Buffer]

def State.update (st : State Ws Buffer) (s : Ws) (r : SwapchainSurface Buffer × ListEdit) :
    State Ws Buffer where
  surfaceList := r.2.apply s st.surfaceList
  surface := Function.update st.surface s (some r.1)

/-- `__tpl_wayland_vk_wsi_surface_init` asserts the type of the surface. -/
def step (st : State Ws Buffer) : Label Ws Buffer → Option (State Ws Buffer)
  | .surfaceInit s backend type capabilities =>
      if st.surface s = none ∧ (backend = .waylandVulkanWsi → type = .window) then
        some (st.update s (.new backend type capabilities, .keep))
      else none
  | .call s c =>
      match st.surface s with
      | some x => (x.call (s ∈ st.surfaceList) c).map (st.update s)
      | none => none

def noSurfaces : State Ws Buffer := ⟨[], fun _ => none⟩

def swapchainSystem : System (State Ws Buffer) (Label Ws Buffer) where
  Initial st := st = noSurfaces
  step := step

/-- The surface is in `surface_list` once if its swapchain is live and not at all
otherwise, and no object of its swapchain was used outside its scope. -/
structure Orderly (x : SwapchainSurface Buffer) (count : Nat) : Prop where
  listed : count = x.live.toNat
  inScope : x.scopes.outside = false

def Lifecycle (s : Ws) (st : State Ws Buffer) : Prop :=
  ∀ x ∈ st.surface s, Orderly x (st.surfaceList.count s)

end

/-- How often a surface is in `surface_list` after an edit for it. -/
def ListEdit.count (n : Nat) : ListEdit → Nat
  | .keep => n
  | .insert => n + 1
  | .remove => n - 1

/-- The objects of the swapchains of a backend, whose present mode is MAILBOX. -/
def SwapchainBackend.owns : SwapchainBackend → SyncObject → Bool
  | .waylandVulkanWsi, .freeQueueMutex | .waylandVulkanWsi, .freeQueueCond => true
  | .waylandVulkanWsi, _ => false
  | _, .freeQueueMutex | _, .freeQueueCond => false
  | _, _ => true

namespace SwapchainSurface

variable {Buffer : Type v}

/-- `create_swapchain` gets to the initialisations. -/
def Creates (x : SwapchainSurface Buffer) (args : CreateCall) : Prop :=
  0 < args.width ∧ 0 < args.height ∧ (x.backend = .waylandVulkanWsi →
    x.capabilities.minBuffer ≤ args.bufferCount ∧ args.bufferCount ≤ x.capabilities.maxBuffer ∧
      args.queueCreated = true)

/-- The swapchain calls alternate: a swapchain is created when none is live, and
destroyed and used while one is. -/
def InOrder (x : SwapchainSurface Buffer) : Call Buffer → Prop
  | .createSwapchain args => x.Creates args → args.nodeAllocated = !x.live
  | .destroySwapchain => x.backend ≠ .tbm → x.live = true
  | .dequeueBuffer _ _ | .fenceEvent => x.backend = .waylandVulkanWsi → x.live = true
  | .enqueueBuffer _ _ => x.backend = .tbmVulkanWsi → x.type = .window → x.live = true
  | .unreference => x.backend = .waylandVulkanWsi → x.live = true → x.tbmQueue = true
  | .prepareDrawWaitBuffer _ => True

/-- What the calls in order keep: the objects are initialised while the swapchain is
live, and `fini` can tell from its fields whether it is. -/
structure Inv (x : SwapchainSurface Buffer) (count : Nat) : Prop where
  orderly : Orderly x count
  initialised : ∀ o, x.scopes.initialised o = (x.live && x.backend.owns o)
  clear : x.backend ≠ .waylandVulkanWsi → x.needWorkerClear = x.live
  queue : x.backend = .waylandVulkanWsi → x.tbmQueue = true → x.live = true
  mode : x.presentMode = 0 ∨ x.presentMode = mailbox
  freed : x.allocated = false → x.live = false

variable {x : SwapchainSurface Buffer} {count : Nat}

theorem waitsForVblank_eq_false {presentMode : Nat}
    (h : presentMode = 0 ∨ presentMode = mailbox) : waitsForVblank presentMode = false := by
  rcases h with rfl | rfl <;> rfl

theorem scopes_tbmCreateSwapchain (hbackend : x.backend ≠ .waylandVulkanWsi)
    (hinit : ∀ o, x.scopes.initialised o = (x.live && x.backend.owns o)) (args : CreateCall) :
    (x.tbmCreateSwapchain args).2.1.scopes.outside = x.scopes.outside ∧
      ∀ o, (x.tbmCreateSwapchain args).2.1.scopes.initialised o = x.backend.owns o := by
  constructor
  · simp [tbmCreateSwapchain, listInsert, perform]
  · intro o
    cases o <;> simp [tbmCreateSwapchain, listInsert, perform, hinit, SwapchainBackend.owns]

theorem scopes_tbmDestroySwapchain (hbackend : x.backend ≠ .waylandVulkanWsi)
    (hinit : ∀ o, x.scopes.initialised o = (x.live && x.backend.owns o))
    (hscope : x.scopes.outside = false) :
    x.tbmDestroySwapchain.scopes.outside = !x.live ∧
      ∀ o, x.tbmDestroySwapchain.scopes.initialised o = false := by
  constructor
  · simp [tbmDestroySwapchain, perform, finiOps, hinit, hscope, SwapchainBackend.owns]
  · intro o
    cases o <;> simp [tbmDestroySwapchain, perform, finiOps, hinit, SwapchainBackend.owns]

theorem scopes_vkDestroySwapchain (hbackend : x.backend = .waylandVulkanWsi)
    (hmode : x.presentMode = 0 ∨ x.presentMode = mailbox)
    (hinit : ∀ o, x.scopes.initialised o = (x.live && x.backend.owns o))
    (hscope : x.scopes.outside = false) :
    x.vkDestroySwapchain.scopes.outside = !x.live ∧
      ∀ o, x.vkDestroySwapchain.scopes.initialised o = false := by
  have hvblank := waitsForVblank_eq_false hmode
  constructor
  · simp [vkDestroySwapchain, perform, hvblank, hinit, hscope, hbackend, SwapchainBackend.owns]
  · intro o
    cases o <;> simp [vkDestroySwapchain, perform, hvblank, hinit, hbackend, SwapchainBackend.owns]

theorem scopes_vkCreated (hbackend : x.backend = .waylandVulkanWsi)
    (hinit : ∀ o, x.scopes.initialised o = (x.live && x.backend.owns o)) :
    (x.scopes.performAll [.init .freeQueueMutex, .init .freeQueueCond]).outside =
        x.scopes.outside ∧
      ∀ o, (x.scopes.performAll [.init .freeQueueMutex, .init .freeQueueCond]).initialised o =
        x.backend.owns o := by
  constructor
  · simp
  · intro o
    cases o <;> simp [hinit, hbackend, SwapchainBackend.owns]

theorem vkCreateSwapchain_created {args : CreateCall}
    (hcount : ¬ (args.bufferCount < x.capabilities.minBuffer ∨
      args.bufferCount > x.capabilities.maxBuffer)) (hqueue : args.queueCreated = true) :
    x.vkCreateSwapchain args = (.errorNone, listInsert { x with
      presentMode := mailbox
      tbmQueue := true
      scopes := x.scopes.performAll [.init .freeQueueMutex, .init .freeQueueCond]
      waiting := [] } args.nodeAllocated) := by
  have hvblank : waitsForVblank mailbox = false := rfl
  simp [vkCreateSwapchain, hcount, hqueue, hvblank, perform]

/-- What `tpl_surface_create_swapchain` does: nothing, or it loses the queue, or it
creates a swapchain. -/
inductive CreateEffect (x : SwapchainSurface Buffer) (args : CreateCall) :
    TplResult → SwapchainSurface Buffer → ListEdit → Prop
  | rejected {result : TplResult} (hcreates : ¬ x.Creates args) (hresult : result ≠ .errorNone) :
      CreateEffect x args result x .keep
  | queueFailed (hcreates : ¬ x.Creates args) :
      CreateEffect x args .errorOutOfMemory
        { x with presentMode := mailbox, tbmQueue := false } .keep
  | created {x' : SwapchainSurface Buffer} (hcreates : x.Creates args)
      (hscope : x'.scopes.outside = x.scopes.outside)
      (hinit : ∀ o, x'.scopes.initialised o = x.backend.owns o)
      (hbackend : x'.backend = x.backend) (hallocated : x'.allocated = x.allocated)
      (hmode : x'.presentMode = mailbox)
      (hclear : x.backend ≠ .waylandVulkanWsi → x'.needWorkerClear = true) :
      CreateEffect x args .errorNone x' (if args.nodeAllocated then .insert else .keep)

theorem createSwapchain_effect
    (hinit : ∀ o, x.scopes.initialised o = (x.live && x.backend.owns o)) (args : CreateCall) :
    CreateEffect x args (x.createSwapchain args).1 (x.createSwapchain args).2.1
      (x.createSwapchain args).2.2 := by
  unfold createSwapchain
  split
  · rename_i hsize
    exact .rejected (fun h => by have := h.1; have := h.2.1; omega) nofun
  · rename_i hsize
    have hwidth : 0 < args.width := by omega
    have hheight : 0 < args.height := by omega
    split
    · rename_i hb
      have hbackend : x.backend ≠ .waylandVulkanWsi := by rw [hb]; nofun
      obtain ⟨hscope, hnew⟩ := scopes_tbmCreateSwapchain hbackend hinit args
      exact .created ⟨hwidth, hheight, fun h => (hbackend h).elim⟩ hscope hnew rfl rfl rfl
        fun _ => rfl
    · rename_i hb
      have hbackend : x.backend ≠ .waylandVulkanWsi := by rw [hb]; nofun
      obtain ⟨hscope, hnew⟩ := scopes_tbmCreateSwapchain hbackend hinit args
      exact .created ⟨hwidth, hheight, fun h => (hbackend h).elim⟩ hscope hnew rfl rfl rfl
        fun _ => rfl
    · rename_i hb
      by_cases hcount : args.bufferCount < x.capabilities.minBuffer ∨
          args.bufferCount > x.capabilities.maxBuffer
      · rw [vkCreateSwapchain, if_pos hcount]
        exact .rejected (fun h => by have := h.2.2 hb; omega) nofun
      · cases hqueue : args.queueCreated with
        | false =>
            simp only [vkCreateSwapchain, if_neg hcount, hqueue, if_true]
            exact .queueFailed fun h => by
              have := (h.2.2 hb).2.2
              rw [hqueue] at this
              cases this
        | true =>
            rw [vkCreateSwapchain_created hcount hqueue]
            obtain ⟨hscope, hnew⟩ := scopes_vkCreated hb hinit
            exact .created ⟨hwidth, hheight, fun _ => ⟨by omega, by omega, hqueue⟩⟩ hscope hnew
              rfl rfl rfl fun h => (h hb).elim

@[simp] theorem use_nil : x.use [] = x := rfl

theorem use_live (hinit : ∀ o, x.scopes.initialised o = (x.live && x.backend.owns o))
    (hlive : x.live = true) {objects : List SyncObject}
    (howns : ∀ o ∈ objects, x.backend.owns o = true) : x.use objects = x := by
  have hscopes : x.scopes.performAll (objects.map .use) = x.scopes :=
    Scopes.performAll_use fun o ho => by rw [hinit, hlive, howns o ho, Bool.and_self]
  rw [use, perform, hscopes]

theorem outside_use_of_dead (hinit : ∀ o, x.scopes.initialised o = (x.live && x.backend.owns o))
    (hlive : x.live = false) {o : SyncObject} {objects : List SyncObject} (ho : o ∈ objects) :
    (x.use objects).scopes.outside = true :=
  Scopes.outside_performAll_use ho (by rw [hinit, hlive, Bool.false_and])

theorem drawDone_tbm (hbackend : x.backend ≠ .waylandVulkanWsi)
    (hmode : x.presentMode = 0 ∨ x.presentMode = mailbox) : x.drawDone = x := by
  have hfifo : x.presentMode ≠ fifo := by rcases hmode with h | h <;> rw [h] <;> decide
  have hrelaxed : x.presentMode ≠ fifoRelaxed := by rcases hmode with h | h <;> rw [h] <;> decide
  cases hb : x.backend with
  | waylandVulkanWsi => exact (hbackend hb).elim
  | _ => simp [drawDone, hb, hfifo, hrelaxed]

theorem drawDone_vk (hbackend : x.backend = .waylandVulkanWsi)
    (hmode : x.presentMode = 0 ∨ x.presentMode = mailbox) : x.drawDone = x.use commitUses := by
  have hfifo : x.presentMode ≠ fifo := by rcases hmode with h | h <;> rw [h] <;> decide
  have hrelaxed : x.presentMode ≠ fifoRelaxed := by rcases hmode with h | h <;> rw [h] <;> decide
  simp [drawDone, hbackend, hfifo, hrelaxed]

theorem Inv.queues (h : x.Inv count) (drawWaitBuffer : Option Buffer)
    (waiting dequeued : List Buffer) :
    Inv { x with drawWaitBuffer := drawWaitBuffer, waiting := waiting, dequeued := dequeued }
      count :=
  ⟨⟨h.orderly.listed, h.orderly.inScope⟩, h.initialised, h.clear, h.queue, h.mode, h.freed⟩

theorem owns_locked (hbackend : x.backend ≠ .waylandVulkanWsi) {o : SyncObject}
    (ho : o ∈ locked .drawWaitingQueue .drawWaitingMutex) : x.backend.owns o = true := by
  simp only [locked, List.mem_cons, List.not_mem_nil, or_false] at ho
  rcases ho with rfl | rfl | rfl <;> simp [SwapchainBackend.owns]

theorem owns_commitUses (hbackend : x.backend = .waylandVulkanWsi) {o : SyncObject}
    (ho : o ∈ commitUses) : x.backend.owns o = true := by
  simp only [commitUses, List.mem_cons, List.not_mem_nil, or_false] at ho
  rcases ho with rfl | rfl | rfl <;> simp [hbackend, SwapchainBackend.owns]

theorem owns_freeQueueUses (hbackend : x.backend = .waylandVulkanWsi) {waits : Bool}
    {o : SyncObject} (ho : o ∈ freeQueueUses waits) : x.backend.owns o = true := by
  have hcases : o = .freeQueueMutex ∨ o = .freeQueueCond := by
    cases waits with
    | false => exact .inl (by simpa [freeQueueUses] using ho)
    | true =>
        simp only [freeQueueUses, if_true, List.cons_append, List.nil_append, List.mem_cons,
          List.not_mem_nil, or_false] at ho
        rcases ho with h | h | h | h
        · exact .inl h
        · exact .inr h
        · exact .inl h
        · exact .inl h
  rcases hcases with rfl | rfl <;> simp [hbackend, SwapchainBackend.owns]

theorem Inv.drawDone_live (h : x.Inv count) (hlive : x.live = true) : x.drawDone = x := by
  by_cases hb : x.backend = .waylandVulkanWsi
  · rw [drawDone_vk hb h.mode]
    exact use_live h.initialised hlive fun o ho => owns_commitUses hb ho
  · exact drawDone_tbm hb h.mode

theorem Inv.prepareDrawWaitBuffer (h : x.Inv count) (hlive : x.live = true) (added : Bool) :
    (x.prepareDrawWaitBuffer added).Inv count := by
  have huse : x.use x.waitingUses = x := by
    refine use_live h.initialised hlive fun o ho => ?_
    by_cases hb : x.backend = .waylandVulkanWsi
    · simp [waitingUses, hb] at ho
    · cases hbackend : x.backend with
      | waylandVulkanWsi => exact (hb hbackend).elim
      | _ =>
          simp only [waitingUses, hbackend] at ho
          rw [← hbackend]
          exact owns_locked hb ho
  rw [SwapchainSurface.prepareDrawWaitBuffer, huse]
  cases hwaiting : x.waiting with
  | nil => simpa only [hwaiting] using h
  | cons b rest =>
      dsimp only
      split
      · exact h.queues _ _ _
      · have hrest := h.queues x.drawWaitBuffer rest x.dequeued
        rw [hrest.drawDone_live hlive]
        exact hrest

theorem Inv.createSwapchain (h : x.Inv count) (halloc : x.allocated = true) {args : CreateCall}
    {result : TplResult} {x' : SwapchainSurface Buffer} {edit : ListEdit}
    (heffect : CreateEffect x args result x' edit)
    (hallowed : x.Creates args → args.nodeAllocated = !x.live) :
    Inv { x' with live := x.live || result = .errorNone } (edit.count count) := by
  cases heffect with
  | rejected hcreates hresult =>
      have hlive : (x.live || decide (result = .errorNone)) = x.live := by simp [hresult]
      rw [hlive]
      exact h
  | queueFailed hcreates =>
      have hlive : (x.live || decide (TplResult.errorOutOfMemory = .errorNone)) = x.live := by simp
      rw [hlive]
      exact ⟨⟨h.orderly.listed, h.orderly.inScope⟩, h.initialised, h.clear, fun _ => nofun,
        .inr rfl, h.freed⟩
  | created hcreates hscope hinit hbackend hallocated hmode hclear =>
      have hnode := hallowed hcreates
      refine ⟨⟨?_, hscope.trans h.orderly.inScope⟩, ?_, ?_, ?_, .inr hmode, ?_⟩
      · have hlisted := h.orderly.listed
        rw [hnode]
        cases hlive : x.live with
        | false => simpa [hlive, ListEdit.count] using hlisted
        | true => simpa [hlive, ListEdit.count] using hlisted
      · intro o
        simp [hinit, hbackend]
      · intro hb
        rw [hbackend] at hb
        simp [hclear hb]
      · intro _ _
        simp
      · intro hfreed
        rw [hallocated, halloc] at hfreed
        cases hfreed

theorem createSwapchain_inOrder (h : x.Inv count) {args : CreateCall}
    {result : TplResult} {x' : SwapchainSurface Buffer} {edit : ListEdit}
    (heffect : CreateEffect x args result x' edit)
    (hlisted : edit.count count = (x.live || decide (result = .errorNone)).toNat)
    (hcreates : x.Creates args) : args.nodeAllocated = !x.live := by
  cases heffect with
  | rejected hrejected _ => exact (hrejected hcreates).elim
  | queueFailed hrejected => exact (hrejected hcreates).elim
  | created _ _ _ _ _ _ _ =>
      have hcount := h.orderly.listed
      cases hlive : x.live <;> cases hnode : args.nodeAllocated <;>
        simp [hlive, hnode, ListEdit.count] at hcount hlisted <;> simp <;> omega

theorem Inv.live_of_listed (h : x.Inv count) (hpos : 0 < count) : x.live = true := by
  cases hlive : x.live with
  | true => rfl
  | false =>
      have hcount := h.orderly.listed
      rw [hlive, Bool.toNat_false] at hcount
      omega

theorem Inv.destroyed (h : x.Inv count) {x' : SwapchainSurface Buffer}
    (hlive : x.live = true) (hscope : x'.scopes.outside = !x.live)
    (hinit : ∀ o, x'.scopes.initialised o = false) (hmode : x'.presentMode = x.presentMode)
    (hclear : x.backend ≠ .waylandVulkanWsi → x'.needWorkerClear = false)
    (hqueue : x.backend = .waylandVulkanWsi → x'.tbmQueue = false)
    (hbackend : x'.backend = x.backend) (allocated : Bool) :
    Inv { x' with live := false, allocated := allocated } (ListEdit.remove.count count) := by
  refine ⟨⟨?_, ?_⟩, ?_, ?_, ?_, ?_, fun _ => rfl⟩
  · have hcount := h.orderly.listed
    rw [hlive] at hcount
    rw [hcount]
    rfl
  · rw [hscope, hlive]
    rfl
  · intro o
    rw [hinit]
    rfl
  · intro hb
    rw [hbackend] at hb
    exact hclear hb
  · intro hb hqueue'
    rw [hbackend] at hb
    cases (hqueue hb).symm.trans hqueue'
  · rw [hmode]
    exact h.mode

theorem Inv.fini (h : x.Inv count)
    (hallowed : x.backend = .waylandVulkanWsi → x.live = true → x.tbmQueue = true) :
    Inv { x.fini.1 with live := false, allocated := false } (x.fini.2.count count) := by
  have hkeep : x.live = false → Inv { x with live := false, allocated := false } count := by
    intro hdead
    have hinit : ∀ o, x.scopes.initialised o = false := fun o => by
      rw [h.initialised, hdead, Bool.false_and]
    have hlisted := h.orderly.listed
    rw [hdead] at hlisted
    exact ⟨⟨hlisted, h.orderly.inScope⟩, fun o => hinit o,
      fun hb => (h.clear hb).trans hdead, fun hb hq => hdead.symm.trans (h.queue hb hq), h.mode,
      fun _ => rfl⟩
  by_cases hb : x.backend = .waylandVulkanWsi
  · simp only [SwapchainSurface.fini, hb]
    split
    · rename_i hqueue
      obtain ⟨hscope, hinit⟩ :=
        scopes_vkDestroySwapchain hb h.mode h.initialised h.orderly.inScope
      exact h.destroyed (h.queue hb hqueue) hscope hinit rfl (fun hne => (hne hb).elim)
        (fun _ => rfl) rfl false
    · rename_i hqueue
      refine hkeep ?_
      cases hlive : x.live with
      | false => rfl
      | true => exact (hqueue (hallowed hb hlive)).elim
  · have hfini : x.fini =
        if x.needWorkerClear then (x.tbmDestroySwapchain, .remove) else (x, .keep) := by
      cases hbackend : x.backend with
      | waylandVulkanWsi => exact (hb hbackend).elim
      | _ => simp [SwapchainSurface.fini, hbackend]
    rw [hfini]
    split
    · rename_i hclear
      obtain ⟨hscope, hinit⟩ := scopes_tbmDestroySwapchain hb h.initialised h.orderly.inScope
      exact h.destroyed ((h.clear hb).symm.trans hclear) hscope hinit rfl (fun _ => rfl)
        (fun hvk => (hb hvk).elim) rfl false
    · rename_i hclear
      exact hkeep ((h.clear hb).symm.trans (Bool.eq_false_iff.mpr hclear))

theorem Inv.perform_init (h : x.Inv count) (hlive : x.live = true) {o : SyncObject}
    (howns : x.backend.owns o = true) : (x.perform [.init o]).Inv count := by
  refine ⟨⟨h.orderly.listed, h.orderly.inScope⟩, fun p => ?_, h.clear, h.queue, h.mode, h.freed⟩
  by_cases hp : p = o
  · simp [perform, hp, hlive, howns]
  · simp [perform, hp, h.initialised]

theorem Inv.enqueueBuffer (h : x.Inv count) {b : Buffer} {queueOk : Bool}
    (hallowed : x.backend = .tbmVulkanWsi → x.type = .window → x.live = true) :
    (x.enqueueBuffer b queueOk).2.Inv count := by
  rw [SwapchainSurface.enqueueBuffer]
  split
  · exact h
  · rename_i hwindow
    unfold backendEnqueueBuffer
    split
    · exact h
    · rename_i hb
      have hlive := hallowed hb (not_not.mp hwindow)
      have hmutex := h.perform_init hlive (o := .drawWaitingMutex) (by rw [hb]; rfl)
      have huse : (x.perform [.init .drawWaitingMutex]).use [.drawWaitingQueue, .drawWaitingMutex] =
          x.perform [.init .drawWaitingMutex] := by
        refine use_live hmutex.initialised hlive fun o ho => ?_
        refine owns_locked (by rw [show (x.perform _).backend = x.backend from rfl, hb]; nofun) ?_
        exact List.mem_cons_of_mem _ ho
      simp only [huse]
      exact hmutex.queues x.drawWaitBuffer (x.waiting ++ [b]) x.dequeued
    · split
      · exact h.queues x.drawWaitBuffer (x.waiting ++ [b]) x.dequeued
      · exact h

theorem Inv.destroySwapchain (h : x.Inv count) (hallowed : x.backend ≠ .tbm → x.live = true) :
    Inv { x.destroySwapchain.2.1 with
      live := x.live && x.destroySwapchain.1 ≠ .errorNone } (x.destroySwapchain.2.2.count count) := by
  cases hb : x.backend with
  | tbm =>
      have hlive : (x.live && decide (TplResult.errorInvalidOperation ≠ .errorNone)) = x.live := by
        simp
      have hdestroy : x.destroySwapchain = (.errorInvalidOperation, x, .keep) := by
        simp [SwapchainSurface.destroySwapchain, hb]
      rw [hdestroy]
      simp only [hlive]
      exact h
  | tbmVulkanWsi =>
      have hne : x.backend ≠ .waylandVulkanWsi := by rw [hb]; nofun
      obtain ⟨hscope, hinit⟩ := scopes_tbmDestroySwapchain hne h.initialised h.orderly.inScope
      have hdead : (x.live && decide (TplResult.errorNone ≠ .errorNone)) = false := by simp
      simp only [SwapchainSurface.destroySwapchain, hb, hdead]
      exact h.destroyed (hallowed (by rw [hb]; nofun)) hscope hinit rfl (fun _ => rfl)
        (fun hvk => (hne hvk).elim) rfl x.allocated
  | waylandVulkanWsi =>
      obtain ⟨hscope, hinit⟩ := scopes_vkDestroySwapchain hb h.mode h.initialised h.orderly.inScope
      have hdead : (x.live && decide (TplResult.errorNone ≠ .errorNone)) = false := by simp
      simp only [SwapchainSurface.destroySwapchain, hb, hdead]
      exact h.destroyed (hallowed (by rw [hb]; nofun)) hscope hinit rfl (fun hne => (hne hb).elim)
        (fun _ => rfl) rfl x.allocated

theorem Inv.dequeueBuffer (h : x.Inv count) {waits : Bool} {result : Option Buffer}
    (hallowed : x.backend = .waylandVulkanWsi → x.live = true) :
    (x.dequeueBuffer waits result).Inv count := by
  unfold SwapchainSurface.dequeueBuffer
  split
  · exact h.queues x.drawWaitBuffer x.waiting _
  · exact h.queues x.drawWaitBuffer x.waiting _
  · rename_i hb
    rw [use_live h.initialised (hallowed hb) fun o ho => owns_freeQueueUses hb ho]
    exact h.queues x.drawWaitBuffer x.waiting _

theorem Inv.fenceEvent (h : x.Inv count)
    (hallowed : x.backend = .waylandVulkanWsi → x.live = true) :
    Inv { x.drawDone with drawWaitBuffer := none } count := by
  have hdone : x.drawDone = x := by
    by_cases hb : x.backend = .waylandVulkanWsi
    · exact h.drawDone_live (hallowed hb)
    · exact drawDone_tbm hb h.mode
  rw [hdone]
  exact h.queues none x.waiting x.dequeued

theorem destroySwapchain_inOrder (h : x.Inv count)
    (hscope : x.destroySwapchain.2.1.scopes.outside = false) (hne : x.backend ≠ .tbm) :
    x.live = true := by
  cases hb : x.backend with
  | tbm => exact (hne hb).elim
  | tbmVulkanWsi =>
      have hvk : x.backend ≠ .waylandVulkanWsi := by rw [hb]; nofun
      simp only [SwapchainSurface.destroySwapchain, hb,
        (scopes_tbmDestroySwapchain hvk h.initialised h.orderly.inScope).1] at hscope
      simpa using hscope
  | waylandVulkanWsi =>
      simp only [SwapchainSurface.destroySwapchain, hb,
        (scopes_vkDestroySwapchain hb h.mode h.initialised h.orderly.inScope).1] at hscope
      simpa using hscope

theorem dequeueBuffer_inOrder (h : x.Inv count) {waits : Bool} {result : Option Buffer}
    (hscope : (x.dequeueBuffer waits result).scopes.outside = false)
    (hb : x.backend = .waylandVulkanWsi) : x.live = true := by
  by_contra hdead
  simp only [SwapchainSurface.dequeueBuffer, hb] at hscope
  have hmutex : .freeQueueMutex ∈ freeQueueUses waits := by simp [freeQueueUses]
  have hout := outside_use_of_dead h.initialised (Bool.eq_false_iff.mpr hdead) hmutex
  cases hscope.symm.trans hout

theorem enqueueBuffer_inOrder (h : x.Inv count) {b : Buffer} {queueOk : Bool}
    (hscope : (x.enqueueBuffer b queueOk).2.scopes.outside = false)
    (hb : x.backend = .tbmVulkanWsi) (hwindow : x.type = .window) : x.live = true := by
  by_contra hdead
  have hqueue : (x.scopes.perform (.init .drawWaitingMutex)).initialised
      .drawWaitingQueue = false := by
    simp [h.initialised, Bool.eq_false_iff.mpr hdead]
  have hout : ((x.scopes.perform (.init .drawWaitingMutex)).performAll
      ([SyncObject.drawWaitingQueue, .drawWaitingMutex].map .use)).outside = true :=
    Scopes.outside_performAll_use List.mem_cons_self hqueue
  simp only [SwapchainSurface.enqueueBuffer, hwindow, ne_eq, not_true_eq_false, if_false,
    backendEnqueueBuffer, hb] at hscope
  cases hscope.symm.trans hout

theorem fini_inOrder (h : x.Inv count) (hlisted : x.fini.2.count count = 0)
    (hb : x.backend = .waylandVulkanWsi) (hlive : x.live = true) : x.tbmQueue = true := by
  by_contra hqueue
  simp only [SwapchainSurface.fini, hb, if_neg hqueue, ListEdit.count, h.orderly.listed,
    hlive] at hlisted
  cases hlisted

theorem fenceEvent_inOrder (h : x.Inv count) (hscope : x.drawDone.scopes.outside = false)
    (hb : x.backend = .waylandVulkanWsi) : x.live = true := by
  by_contra hdead
  simp only [drawDone_vk hb h.mode] at hscope
  have hmutex : .freeQueueMutex ∈ commitUses := by simp [commitUses]
  have hout := outside_use_of_dead h.initialised (Bool.eq_false_iff.mpr hdead) hmutex
  cases hscope.symm.trans hout

/-- What a call of the client or a step of the worker returns. -/
inductive Returns [DecidableEq Buffer] (x : SwapchainSurface Buffer) (listed : Bool) :
    Call Buffer → SwapchainSurface Buffer → ListEdit → Prop
  | createSwapchain {args : CreateCall} (halloc : x.allocated = true) :
      Returns x listed (.createSwapchain args)
        { (x.createSwapchain args).2.1 with
          live := x.live || (x.createSwapchain args).1 = .errorNone }
        (x.createSwapchain args).2.2
  | destroySwapchain :
      Returns x listed .destroySwapchain
        { x.destroySwapchain.2.1 with live := x.live && x.destroySwapchain.1 ≠ .errorNone }
        x.destroySwapchain.2.2
  | dequeueBuffer {waits : Bool} {result : Option Buffer} :
      Returns x listed (.dequeueBuffer waits result) (x.dequeueBuffer waits result) .keep
  | enqueueBuffer {b : Buffer} {queueOk : Bool} :
      Returns x listed (.enqueueBuffer b queueOk)
        ({ x with dequeued := x.dequeued.erase b }.enqueueBuffer b queueOk).2 .keep
  | unreference :
      Returns x listed .unreference { x.fini.1 with live := false, allocated := false } x.fini.2
  | prepareDrawWaitBuffer {added : Bool} (hscan : listed = true) :
      Returns x listed (.prepareDrawWaitBuffer added) (x.prepareDrawWaitBuffer added) .keep
  | fenceEvent : Returns x listed .fenceEvent { x.drawDone with drawWaitBuffer := none } .keep

variable [DecidableEq Buffer] {listed : Bool} {c : Call Buffer} {x' : SwapchainSurface Buffer}
  {edit : ListEdit}

theorem Returns.of_call (h : x.call listed c = some (x', edit)) : x.Returns listed c x' edit := by
  cases c with
  | createSwapchain args =>
      simp only [call] at h
      split at h
      · rename_i halloc
        cases h
        exact .createSwapchain halloc
      · cases h
  | destroySwapchain =>
      simp only [call] at h
      split at h
      · cases h
        exact .destroySwapchain
      · cases h
  | dequeueBuffer waits result =>
      simp only [call] at h
      split at h
      · cases h
        exact .dequeueBuffer
      · cases h
  | enqueueBuffer b queueOk =>
      simp only [call] at h
      split at h
      · cases h
        exact .enqueueBuffer
      · cases h
  | unreference =>
      simp only [call] at h
      split at h
      · cases h
        exact .unreference
      · cases h
  | prepareDrawWaitBuffer added =>
      simp only [call] at h
      split at h
      · rename_i hscan
        cases h
        exact .prepareDrawWaitBuffer hscan.1
      · cases h
  | fenceEvent =>
      simp only [call] at h
      split at h
      · cases h
        exact .fenceEvent
      · cases h

theorem inv_call (h : x.Inv count) (hlisted : listed = true → 0 < count)
    (hallowed : x.InOrder c) (hcall : x.call listed c = some (x', edit)) :
    x'.Inv (edit.count count) := by
  cases Returns.of_call hcall with
  | createSwapchain halloc =>
      exact h.createSwapchain halloc (createSwapchain_effect h.initialised _) hallowed
  | destroySwapchain => exact h.destroySwapchain hallowed
  | dequeueBuffer => exact h.dequeueBuffer hallowed
  | enqueueBuffer => exact (h.queues x.drawWaitBuffer x.waiting _).enqueueBuffer hallowed
  | unreference => exact h.fini hallowed
  | prepareDrawWaitBuffer hscan =>
      exact h.prepareDrawWaitBuffer (h.live_of_listed (hlisted hscan)) _
  | fenceEvent => exact h.fenceEvent hallowed

theorem inOrder_of_orderly (h : x.Inv count) (hcall : x.call listed c = some (x', edit))
    (horderly : Orderly x' (edit.count count)) : x.InOrder c := by
  cases Returns.of_call hcall with
  | createSwapchain halloc =>
      exact createSwapchain_inOrder h (createSwapchain_effect h.initialised _) horderly.listed
  | destroySwapchain => exact destroySwapchain_inOrder h horderly.inScope
  | dequeueBuffer => exact dequeueBuffer_inOrder h horderly.inScope
  | @enqueueBuffer b queueOk =>
      intro hb hwindow
      have herased := h.queues x.drawWaitBuffer x.waiting (x.dequeued.erase b)
      have hlive := enqueueBuffer_inOrder herased horderly.inScope hb hwindow
      exact hlive
  | unreference => exact fini_inOrder h horderly.listed
  | prepareDrawWaitBuffer hscan => trivial
  | fenceEvent => exact fenceEvent_inOrder h horderly.inScope

instance (x : SwapchainSurface Buffer) (args : CreateCall) : Decidable (x.Creates args) :=
  inferInstanceAs (Decidable (_ ∧ _ ∧ (_ → _)))

instance (x : SwapchainSurface Buffer) (c : Call Buffer) : Decidable (x.InOrder c) :=
  match c with
  | .createSwapchain _ | .destroySwapchain | .dequeueBuffer _ _ | .fenceEvent =>
      inferInstanceAs (Decidable (_ → _))
  | .enqueueBuffer _ _ | .unreference => inferInstanceAs (Decidable (_ → _ → _))
  | .prepareDrawWaitBuffer _ => isTrue trivial

end SwapchainSurface

section

variable {Ws : Type u} {Buffer : Type v}

/-- The calls on a surface, and the fence events of the worker for it, are in order. -/
def CallsInOrder (s : Ws) (st : State Ws Buffer) : Label Ws Buffer → Prop
  | .surfaceInit _ _ _ _ => True
  | .call t c => t = s → ∀ x ∈ st.surface s, x.InOrder c

variable [DecidableEq Ws]

theorem ListEdit.count_apply_self (s : Ws) (surfaceList : List Ws) (edit : ListEdit) :
    (edit.apply s surfaceList).count s = edit.count (surfaceList.count s) := by
  cases edit with
  | keep => rfl
  | insert => simp [ListEdit.apply, ListEdit.count]
  | remove => exact List.count_erase_self

theorem ListEdit.count_apply_of_ne {s t : Ws} (hne : t ≠ s) (surfaceList : List Ws)
    (edit : ListEdit) : (edit.apply t surfaceList).count s = surfaceList.count s := by
  cases edit with
  | keep => rfl
  | insert => simp [ListEdit.apply, hne]
  | remove => exact List.count_erase_of_ne (Ne.symm hne)

structure Inv (s : Ws) (st : State Ws Buffer) : Prop where
  absent : st.surface s = none → st.surfaceList.count s = 0
  present : ∀ x ∈ st.surface s, x.Inv (st.surfaceList.count s)

theorem Inv.lifecycle {s : Ws} {st : State Ws Buffer} (h : Inv s st) : Lifecycle s st :=
  fun x hx => (h.present x hx).orderly

theorem SwapchainSurface.inv_new {backend : SwapchainBackend} {type : TplSurfaceType}
    {capabilities : SurfaceCapabilities} :
    (new backend type capabilities : SwapchainSurface Buffer).Inv 0 :=
  ⟨⟨rfl, rfl⟩, fun _ => rfl, fun _ => rfl, fun _ => nofun, .inl rfl, nofun⟩

theorem Inv.update_self {s : Ws} {st : State Ws Buffer}
    {r : SwapchainSurface Buffer × ListEdit}
    (h : r.1.Inv (r.2.count (st.surfaceList.count s))) : Inv s (st.update s r) := by
  have hsurface : (st.update s r).surface s = some r.1 := Function.update_self _ _ _
  constructor
  · rw [hsurface]
    nofun
  · rw [hsurface]
    rintro _ ⟨⟩
    rw [State.update, ListEdit.count_apply_self]
    exact h

theorem Inv.update_of_ne {s t : Ws} {st : State Ws Buffer} (h : Inv s st) (hne : t ≠ s)
    (r : SwapchainSurface Buffer × ListEdit) : Inv s (st.update t r) := by
  have hcount : (st.update t r).surfaceList.count s = st.surfaceList.count s :=
    ListEdit.count_apply_of_ne hne _ _
  have hsurface : (st.update t r).surface s = st.surface s :=
    Function.update_of_ne (Ne.symm hne) _ _
  constructor
  · rw [hcount, hsurface]
    exact h.absent
  · rw [hcount, hsurface]
    exact h.present

variable [DecidableEq Buffer]

theorem inv_step {s : Ws} {st st' : State Ws Buffer} {l : Label Ws Buffer} (h : Inv s st)
    (hallowed : CallsInOrder s st l) (hstep : step st l = some st') : Inv s st' := by
  cases l with
  | surfaceInit t backend type capabilities =>
      simp only [step] at hstep
      split at hstep
      · rename_i hfresh
        cases hstep
        by_cases hts : t = s
        · subst hts
          refine .update_self ?_
          rw [ListEdit.count, h.absent hfresh.1]
          exact SwapchainSurface.inv_new
        · exact h.update_of_ne hts _
      · cases hstep
  | call t c =>
      simp only [step] at hstep
      split at hstep
      · rename_i x hx
        obtain ⟨⟨x', edit⟩, hcall, rfl⟩ := Option.map_eq_some_iff.mp hstep
        by_cases hts : t = s
        · subst hts
          refine .update_self (SwapchainSurface.inv_call (h.present x hx) (fun hlisted => ?_)
            (hallowed rfl x hx) hcall)
          exact List.count_pos_iff.mpr (of_decide_eq_true hlisted)
        · exact h.update_of_ne hts _
      · cases hstep

theorem callsInOrder_of_lifecycle {s : Ws} {st st' : State Ws Buffer} {l : Label Ws Buffer}
    (h : Inv s st) (hstep : step st l = some st') (hlifecycle : Lifecycle s st') :
    CallsInOrder s st l := by
  cases l with
  | surfaceInit t backend type capabilities => trivial
  | call t c =>
      rintro rfl x hx
      have hx' : st.surface t = some x := hx
      simp only [step, hx'] at hstep
      obtain ⟨⟨x', edit⟩, hcall, rfl⟩ := Option.map_eq_some_iff.mp hstep
      have hsurface : (st.update t (x', edit)).surface t = some x' := Function.update_self _ _ _
      have horderly := hlifecycle x' hsurface
      rw [State.update, ListEdit.count_apply_self] at horderly
      exact SwapchainSurface.inOrder_of_orderly (h.present x hx) hcall horderly

omit [DecidableEq Buffer] in
theorem inv_noSurfaces (s : Ws) : Inv s (noSurfaces : State Ws Buffer) :=
  ⟨fun _ => rfl, fun x hx => (Option.not_mem_none x hx).elim⟩

/-- The swapchain of a surface keeps its lifecycle in exactly the runs whose calls on
that surface are in order. -/
theorem lifecycle_iff {s : Ws} {ls : List (Label Ws Buffer)} {st : State Ws Buffer}
    (hrun : swapchainSystem.run noSurfaces ls = some st) :
    swapchainSystem.Always (Lifecycle s) noSurfaces ls ↔
      swapchainSystem.EveryStep (CallsInOrder s) noSurfaces ls := by
  refine System.always_iff_everyStep (inv_noSurfaces s) hrun ?_ ?_ ?_
  · intro _ _ _ h hallowed hstep
    exact inv_step h hallowed hstep
  · intro _ h
    exact h.lifecycle
  · intro _ _ _ h hstep hlifecycle
    exact callsInOrder_of_lifecycle h hstep hlifecycle

omit [DecidableEq Buffer] in
instance (s : Ws) (st : State Ws Buffer) (l : Label Ws Buffer) :
    Decidable (CallsInOrder s st l) :=
  match l with
  | .surfaceInit _ _ _ _ => isTrue trivial
  | .call t c => inferInstanceAs (Decidable (t = s → ∀ x ∈ st.surface s, x.InOrder c))

end

def twoBuffers : CreateCall := ⟨64, 64, 2, 4, true, true⟩

def presentAndDestroy : List (Label Bool Nat) :=
  [.surfaceInit true .waylandVulkanWsi .window ⟨2, 3, 5⟩] ++
    ([.createSwapchain twoBuffers, .dequeueBuffer false (some 7), .enqueueBuffer 7 true,
      .prepareDrawWaitBuffer true, .fenceEvent, .destroySwapchain, .createSwapchain twoBuffers,
      .unreference] : List (Call Nat)).map (.call true)

theorem lifecycle_presentAndDestroy :
    ∃ st, swapchainSystem.run noSurfaces presentAndDestroy = some st ∧ st.surfaceList = [] ∧
      swapchainSystem.Always (Lifecycle true) noSurfaces presentAndDestroy := by
  obtain ⟨st, hrun, hlist⟩ := swapchainSystem.exists_of_runWhen (CallsInOrder true)
    (fun st => st.surfaceList = []) noSurfaces presentAndDestroy (by decide)
  have hrun' := System.run_of_runWhen hrun
  exact ⟨st, hrun', hlist, (lifecycle_iff hrun').mpr (.of_runWhen hrun)⟩

/-- A swapchain is created twice, as `tpl_surface_create_swapchain` accepts. -/
def createTwice : List (Label Bool Nat) :=
  [.surfaceInit true .tbmVulkanWsi .window ⟨0, 0, 0⟩, .call true (.createSwapchain twoBuffers),
    .call true (.createSwapchain twoBuffers)]

theorem not_lifecycle :
    ¬ ∀ (s : Bool) (st : State Bool Nat), swapchainSystem.Reachable st → Lifecycle s st := by
  intro hall
  obtain ⟨st, hrun, hcount, hsurface⟩ := swapchainSystem.exists_of_run
    (fun st => st.surfaceList.count true = 2 ∧ (st.surface true).isSome) noSurfaces createTwice
    (by decide)
  obtain ⟨x, hx⟩ := Option.isSome_iff_exists.mp hsurface
  have hlisted := (hall true st (.of_run (.initial rfl) hrun) x hx).listed
  rw [hcount] at hlisted
  have hle := Bool.toNat_le x.live
  omega

end LibtplEgl.SwapchainLifecycle
