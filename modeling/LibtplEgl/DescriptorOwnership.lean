import LibtplEgl.HeldTokens
import LibtplEgl.LabelledSystem
import LibtplEgl.TplTypes

namespace LibtplEgl.DescriptorOwnership

open LibtplEgl.HeldTokens
open LibtplEgl.LabelledSystem
open LibtplEgl.TplTypes

universe u v w

/-- The backends whose code is in `tpl_gbm.c` and `tpl_tbm.c`. -/
inductive Backend
  | gbm
  | tbm
  | tbmVulkanWsi
  deriving DecidableEq, Repr

/-- A `tpl_display_t`; the flags say that the pointers are not NULL. -/
structure TplDisplay where
  backend : Backend
  nativeHandle : Bool
  bufmgrFd : Int
  backendData : Bool
  deriving DecidableEq, Repr

/-- `enqueued` records that `wait_sync` has been written since the record was made. -/
structure TplTbmBuffer where
  waitSync : Int
  enqueued : Bool
  deriving DecidableEq, Repr

/-- A tbm_surface with what the backends attach to it. It stays invalid once it is
destroyed: a tbm_surface that is created later is another one. -/
structure TbmSurface where
  valid : Bool
  tplTbmBuffer : Option TplTbmBuffer
  gbmBuffer : Bool
  deriving DecidableEq, Repr

/-- `waiting` is the `draw_waiting_queue`, and `listed` says that the worker knows the
surface. -/
structure TplSurface (Buffer : Type u) where
  backend : Backend
  type : TplSurfaceType
  tbmQueue : Bool
  waiting : List Buffer
  drawWaitBuffer : Option Buffer
  listed : Bool
  deriving DecidableEq, Repr

/-- What the environment decides in `tpl_display_create`: what the runtime finds, the
backend for an unknown type, whether memory and locks are there, what `dup` returns. -/
structure CreateOutcome (Display : Type v) where
  found : Option Display
  chosen : Option Backend
  display : Option Display
  objectInit : Bool
  backendData : Bool
  dupFd : Int
  bufmgr : Bool
  added : Bool
  deriving DecidableEq, Repr

/-- The file descriptors that TPL owns, one entry for every time that it has obtained one
and not closed it, and every `close` so far with whether TPL owned what it closed. -/
structure State (Buffer : Type u) (Display : Type v) (Surface : Type w) where
  displays : Display → Option TplDisplay
  surfaces : Surface → Option (TplSurface Buffer)
  buffers : Buffer → TbmSurface
  owned : Multiset Int
  closes : List (Int × Bool)

inductive Label (Buffer : Type u) (Display : Type v) (Surface : Type w)
  | displayCreate (type : Option Backend) (nativeDpy : Bool) (out : CreateOutcome Display)
  | displayRelease (d : Display)
  | surfaceCreate (s : Surface) (d : Display) (type : TplSurfaceType) (tbmQueue : Bool)
  | surfaceDestroy (s : Surface)
  | createSwapchain (s : Surface)
  | destroySwapchain (s : Surface)
  | dequeueBuffer (s : Surface) (b : Buffer) (allocated : Bool)
  | enqueueBuffer (s : Surface) (b : Buffer) (syncFence : Int) (allocated : Bool)
  | prepareDrawWaitBuffer (s : Surface) (added : Bool)
  | fenceEvent (s : Surface)
  | destroyTbmSurface (b : Buffer)
  deriving DecidableEq, Repr

/-- `__tpl_tbm_get_tbm_buffer_from_tbm_surface`. -/
def TbmSurface.getTbmBuffer (b : TbmSurface) : Option TplTbmBuffer :=
  if b.valid then b.tplTbmBuffer else none

section

variable {Buffer : Type u} {Display : Type v} {Surface : Type w}

namespace State

/-- `dup`, or a `sync_fence` that an enqueue takes over. -/
def obtain (st : State Buffer Display Surface) (fd : Int) : State Buffer Display Surface :=
  if 0 ≤ fd then { st with owned := fd ::ₘ st.owned } else st

/-- `close`, which fails for a negative fd. -/
def close (st : State Buffer Display Surface) (fd : Int) : State Buffer Display Surface :=
  if 0 ≤ fd then
    { st with
      owned := st.owned.erase fd
      closes := (fd, decide (fd ∈ st.owned)) :: st.closes }
  else st

/-- `__tpl_gbm_display_init`. -/
def gbmDisplayInit (st : State Buffer Display Surface) (display : TplDisplay)
    (out : CreateOutcome Display) : TplResult × TplDisplay × State Buffer Display Surface :=
  if display.nativeHandle = false then (.errorInvalidParameter, display, st)
  else if out.backendData = false then (.errorOutOfMemory, display, st)
  else
    (.errorNone, { display with bufmgrFd := out.dupFd, backendData := true },
      st.obtain out.dupFd)

/-- `__tpl_tbm_display_init`. -/
def tbmDisplayInit (st : State Buffer Display Surface) (display : TplDisplay)
    (out : CreateOutcome Display) : TplResult × TplDisplay × State Buffer Display Surface :=
  if out.backendData = false then (.errorOutOfMemory, display, st)
  else
    (.errorNone,
      { display with
        nativeHandle := display.nativeHandle || out.bufmgr
        backendData := true
        bufmgrFd := -1 },
      st)

/-- `backend.init`. -/
def displayInit (st : State Buffer Display Surface) (display : TplDisplay)
    (out : CreateOutcome Display) : TplResult × TplDisplay × State Buffer Display Surface :=
  match display.backend with
  | .gbm => st.gbmDisplayInit display out
  | .tbm | .tbmVulkanWsi => st.tbmDisplayInit display out

/-- `__tpl_gbm_display_fini`, or `__tpl_tbm_display_fini`, which closes nothing. -/
def displayFini (st : State Buffer Display Surface) (display : TplDisplay) :
    State Buffer Display Surface :=
  match display.backend with
  | .gbm => st.close display.bufmgrFd
  | .tbm | .tbmVulkanWsi => st

variable [DecidableEq Buffer] [DecidableEq Display] [DecidableEq Surface]

def setDisplay (st : State Buffer Display Surface) (d : Display) (display : Option TplDisplay) :
    State Buffer Display Surface :=
  { st with displays := Function.update st.displays d display }

/-- `tpl_display_create`. The record comes from `calloc`, and a failure after
`__tpl_object_init` drops the only reference to it. -/
def displayCreate (st : State Buffer Display Surface) (type : Option Backend)
    (nativeDpy : Bool) (out : CreateOutcome Display) :
    Option Display × State Buffer Display Surface :=
  match out.found with
  | some d => (some d, st)
  | none =>
      match type.or out.chosen, out.display with
      | some backend, some d =>
          if out.objectInit = false then (none, st)
          else
            match st.displayInit ⟨backend, nativeDpy, 0, false⟩ out with
            | (.errorNone, display, st) =>
                if out.added = false then (none, st.displayFini display)
                else (some d, st.setDisplay d (some display))
            | (_, display, st) => (none, st.displayFini display)
      | _, _ => (none, st)

def setSurface (st : State Buffer Display Surface) (s : Surface)
    (surface : TplSurface Buffer) : State Buffer Display Surface :=
  { st with surfaces := Function.update st.surfaces s (some surface) }

def setBuffer (st : State Buffer Display Surface) (b : Buffer) (tbmSurface : TbmSurface) :
    State Buffer Display Surface :=
  { st with buffers := Function.update st.buffers b tbmSurface }

def setTbmBuffer (st : State Buffer Display Surface) (b : Buffer)
    (tplTbmBuffer : TplTbmBuffer) : State Buffer Display Surface :=
  st.setBuffer b { st.buffers b with tplTbmBuffer := some tplTbmBuffer }

/-- `tpl_surface_create_swapchain`, which gbm does not support. -/
def createSwapchain (st : State Buffer Display Surface) (s : Surface)
    (surface : TplSurface Buffer) : State Buffer Display Surface :=
  match surface.backend with
  | .gbm => st
  | .tbm | .tbmVulkanWsi =>
      st.setSurface s { surface with waiting := [], drawWaitBuffer := none, listed := true }

/-- `tpl_surface_destroy_swapchain`, which only a Vulkan WSI supports. -/
def destroySwapchain (st : State Buffer Display Surface) (s : Surface)
    (surface : TplSurface Buffer) : State Buffer Display Surface :=
  match surface.backend with
  | .gbm | .tbm => st
  | .tbmVulkanWsi => st.setSurface s { surface with waiting := [], listed := false }

/-- `backend.dequeue_buffer` when the tbm queue gives out `b`. -/
def dequeueBuffer (st : State Buffer Display Surface) (surface : TplSurface Buffer)
    (b : Buffer) (allocated : Bool) : State Buffer Display Surface :=
  match surface.backend with
  | .gbm => if allocated then st.setBuffer b { st.buffers b with gbmBuffer := true } else st
  | .tbm => st
  | .tbmVulkanWsi =>
      match (st.buffers b).getTbmBuffer with
      | some _ => st
      | none => if allocated then st.setTbmBuffer b ⟨0, false⟩ else st

/-- The end of `__tpl_gbm_surface_enqueue_buffer`, and of
`__tpl_tbm_surface_enqueue_buffer` without a Vulkan WSI. -/
def waitSyncFence (st : State Buffer Display Surface) (surface : TplSurface Buffer)
    (syncFence : Int) : State Buffer Display Surface :=
  if surface.tbmQueue = false then st
  else if syncFence = -1 then st
  else (st.obtain syncFence).close syncFence

/-- `backend.enqueue_buffer`, as far as the fence goes; `none` is a read of a NULL
record. The push may find no memory for a node. -/
def enqueueBuffer (st : State Buffer Display Surface) (s : Surface)
    (surface : TplSurface Buffer) (b : Buffer) (syncFence : Int) (allocated : Bool) :
    Option (State Buffer Display Surface) :=
  match surface.backend with
  | .gbm =>
      if (st.buffers b).valid = false ∨ (st.buffers b).gbmBuffer = false then some st
      else some (st.waitSyncFence surface syncFence)
  | .tbm =>
      if (st.buffers b).valid = false ∨ surface.type = .pixmap then some st
      else some (st.waitSyncFence surface syncFence)
  | .tbmVulkanWsi =>
      if (st.buffers b).valid = false ∨ surface.type = .pixmap then some st
      else
        match (st.buffers b).getTbmBuffer with
        | none => none
        | some _ =>
            let st := (st.obtain syncFence).setTbmBuffer b ⟨syncFence, true⟩
            some (if allocated then
              st.setSurface s { surface with waiting := surface.waiting ++ [b] } else st)

/-- `__tpl_tbm_draw_done`; `none` is a failed assertion. -/
def drawDone (st : State Buffer Display Surface) (b : Buffer) :
    Option (State Buffer Display Surface) :=
  (st.buffers b).getTbmBuffer.map fun tplTbmBuffer =>
    (st.close tplTbmBuffer.waitSync).setTbmBuffer b { tplTbmBuffer with waitSync := -1 }

/-- One round of the loop in `__tpl_worker_prepare_draw_wait_buffer`; `added` says that
epoll takes the fence. -/
def prepareDrawWaitBuffer (st : State Buffer Display Surface) (s : Surface)
    (surface : TplSurface Buffer) (added : Bool) : Option (State Buffer Display Surface) :=
  match surface.waiting with
  | [] => some st
  | b :: rest =>
      match (st.buffers b).getTbmBuffer with
      | none => none
      | some tplTbmBuffer =>
          let surface := { surface with waiting := rest }
          if tplTbmBuffer.waitSync ≠ -1 ∧ added = true then
            some (st.setSurface s { surface with drawWaitBuffer := some b })
          else (st.setSurface s surface).drawDone b

/-- The destruction of a tbm_surface calls `__tpl_tbm_buffer_free`. -/
def destroyTbmSurface (st : State Buffer Display Surface) (b : Buffer) :
    State Buffer Display Surface :=
  let destroyed : TbmSurface := ⟨false, none, false⟩
  match (st.buffers b).tplTbmBuffer with
  | none => st.setBuffer b destroyed
  | some tplTbmBuffer =>
      if tplTbmBuffer.waitSync = -1 then st.setBuffer b destroyed
      else (st.close tplTbmBuffer.waitSync).setBuffer b destroyed

end State

variable [DecidableEq Buffer] [DecidableEq Display] [DecidableEq Surface]

/-- One step. A display that is created is a new one, and the tbm queue gives out
tbm_surfaces that are not destroyed. -/
def step (st : State Buffer Display Surface) :
    Label Buffer Display Surface → Option (State Buffer Display Surface)
  | .displayCreate type nativeDpy out =>
      if ∀ d ∈ out.display, st.displays d = none then
        some (st.displayCreate type nativeDpy out).2
      else none
  | .displayRelease d =>
      (st.displays d).map fun display => (st.displayFini display).setDisplay d none
  | .surfaceCreate s d type tbmQueue =>
      match st.surfaces s, st.displays d with
      | none, some display =>
          some (st.setSurface s ⟨display.backend, type, tbmQueue, [], none, false⟩)
      | _, _ => none
  | .surfaceDestroy s =>
      some { st with surfaces := Function.update st.surfaces s none }
  | .createSwapchain s =>
      (st.surfaces s).map fun surface => st.createSwapchain s surface
  | .destroySwapchain s =>
      (st.surfaces s).map fun surface => st.destroySwapchain s surface
  | .dequeueBuffer s b allocated =>
      if (st.buffers b).valid then
        (st.surfaces s).map fun surface => st.dequeueBuffer surface b allocated
      else none
  | .enqueueBuffer s b syncFence allocated =>
      (st.surfaces s).bind fun surface => st.enqueueBuffer s surface b syncFence allocated
  | .prepareDrawWaitBuffer s added =>
      (st.surfaces s).bind fun surface =>
        if surface.listed = true ∧ surface.drawWaitBuffer = none then
          st.prepareDrawWaitBuffer s surface added
        else none
  | .fenceEvent s =>
      (st.surfaces s).bind fun surface =>
        surface.drawWaitBuffer.bind fun b =>
          (st.drawDone b).map fun st' => st'.setSurface s { surface with drawWaitBuffer := none }
  | .destroyTbmSurface b =>
      if (st.buffers b).valid then some (st.destroyTbmSurface b) else none

end

def newProcess {Buffer : Type u} {Display : Type v} {Surface : Type w} :
    State Buffer Display Surface where
  displays := fun _ => none
  surfaces := fun _ => none
  buffers := fun _ => ⟨true, none, false⟩
  owned := 0
  closes := []

def descriptorSystem (Buffer : Type u) (Display : Type v) (Surface : Type w)
    [DecidableEq Buffer] [DecidableEq Display] [DecidableEq Surface] :
    System (State Buffer Display Surface) (Label Buffer Display Surface) where
  Initial st := st = newProcess
  step := step

section

variable {Buffer : Type u} {Display : Type v} {Surface : Type w}

/-- Every file descriptor that was closed was one that TPL had obtained and not closed
before. -/
def ClosesOwned (st : State Buffer Display Surface) : Prop :=
  ∀ c ∈ st.closes, c.2 = true

instance (st : State Buffer Display Surface) : Decidable (ClosesOwned st) :=
  inferInstanceAs (Decidable (∀ _ ∈ _, _))

def CreateOutcome.ReachesInit (out : CreateOutcome Display) : Prop :=
  out.found = none ∧ out.display.isSome = true ∧ out.objectInit = true

/-- `__tpl_gbm_display_init` does not fail, and a tbm_surface with a record is not
destroyed before it was enqueued. -/
def FillsRecords (st : State Buffer Display Surface) : Label Buffer Display Surface → Prop
  | .displayCreate type nativeDpy out =>
      out.ReachesInit → type.or out.chosen = some .gbm →
        nativeDpy = true ∧ out.backendData = true
  | .destroyTbmSurface b =>
      ∀ tplTbmBuffer ∈ (st.buffers b).tplTbmBuffer, tplTbmBuffer.enqueued = true
  | _ => True

instance (st : State Buffer Display Surface) : ∀ l, Decidable (FillsRecords st l)
  | .displayCreate _ _ out =>
      inferInstanceAs (Decidable ((out.found = none ∧ _ ∧ _) → _ → _ ∧ _))
  | .destroyTbmSurface _ => inferInstanceAs (Decidable (∀ _ ∈ _, _))
  | .displayRelease _ | .surfaceCreate _ _ _ _ | .surfaceDestroy _ | .createSwapchain _
  | .destroySwapchain _ | .dequeueBuffer _ _ _ | .enqueueBuffer _ _ _ _
  | .prepareDrawWaitBuffer _ _ | .fenceEvent _ => inferInstanceAs (Decidable True)

def fdOf (fd : Int) : Option Int := if 0 ≤ fd then some fd else none

def TplDisplay.held (display : TplDisplay) : Option Int :=
  if display.backend = .gbm then fdOf display.bufmgrFd else none

def TplTbmBuffer.held (tplTbmBuffer : TplTbmBuffer) : Option Int :=
  if tplTbmBuffer.enqueued then fdOf tplTbmBuffer.waitSync else none

def State.held (st : State Buffer Display Surface) : Display ⊕ Buffer → Option Int
  | .inl d => (st.displays d).bind TplDisplay.held
  | .inr b => (st.buffers b).tplTbmBuffer.bind TplTbmBuffer.held

/-- A tbm_surface that is to be drawn has been enqueued. -/
def TbmSurface.Drawable (b : TbmSurface) : Prop :=
  b.valid = true → ∃ tplTbmBuffer, b.tplTbmBuffer = some tplTbmBuffer ∧
    tplTbmBuffer.enqueued = true

def TplSurface.places (surface : TplSurface Buffer) : List Buffer :=
  surface.waiting ++ surface.drawWaitBuffer.toList

structure Owns {Slot : Type*} (held : Slot → Option Int) (st : State Buffer Display Surface) :
    Prop where
  backed : Backed held st.owned
  closes : ClosesOwned st

structure Inv (st : State Buffer Display Surface) : Prop where
  owns : Owns st.held st
  drawable : ∀ s surface, st.surfaces s = some surface → ∀ b ∈ surface.places,
    (st.buffers b).Drawable

end

section

variable {Buffer : Type u} {Display : Type v} {Surface : Type w} {Slot : Type*}
  {st : State Buffer Display Surface} {held held' : Slot → Option Int}

@[simp] theorem displays_obtain (fd : Int) : (st.obtain fd).displays = st.displays := by
  unfold State.obtain
  split <;> rfl

@[simp] theorem surfaces_obtain (fd : Int) : (st.obtain fd).surfaces = st.surfaces := by
  unfold State.obtain
  split <;> rfl

@[simp] theorem buffers_obtain (fd : Int) : (st.obtain fd).buffers = st.buffers := by
  unfold State.obtain
  split <;> rfl

@[simp] theorem displays_close (fd : Int) : (st.close fd).displays = st.displays := by
  unfold State.close
  split <;> rfl

@[simp] theorem surfaces_close (fd : Int) : (st.close fd).surfaces = st.surfaces := by
  unfold State.close
  split <;> rfl

@[simp] theorem buffers_close (fd : Int) : (st.close fd).buffers = st.buffers := by
  unfold State.close
  split <;> rfl

theorem Owns.mono (h : Owns held st) (hheld : ∀ s, held' s = held s ∨ held' s = none) :
    Owns held' st :=
  ⟨h.backed.mono le_rfl hheld, h.closes⟩

theorem Owns.obtain (h : Owns held st) {s : Slot} {fd : Int}
    (hother : ∀ s', s' ≠ s → held' s' = held s') (hs : held' s = fdOf fd) :
    Owns held' (st.obtain fd) := by
  classical
  unfold fdOf at hs
  unfold State.obtain
  by_cases hfd : 0 ≤ fd
  · rw [if_pos hfd] at hs
    rw [if_pos hfd]
    exact ⟨h.backed.put hother hs, h.closes⟩
  · rw [if_neg hfd] at hs
    rw [if_neg hfd]
    refine h.mono fun s' => ?_
    by_cases hs' : s' = s
    · exact .inr (hs' ▸ hs)
    · exact .inl (hother s' hs')

theorem Owns.close (h : Owns held st) {s : Slot} {fd : Int} (hs : held s = fdOf fd)
    (hother : ∀ s', s' ≠ s → held' s' = held s') (hnone : held' s = none) :
    Owns held' (st.close fd) := by
  classical
  unfold fdOf at hs
  unfold State.close
  by_cases hfd : 0 ≤ fd
  · rw [if_pos hfd] at hs
    rw [if_pos hfd]
    refine ⟨h.backed.take hs hother hnone, fun c hc => ?_⟩
    rcases List.mem_cons.mp hc with rfl | hc
    · exact decide_eq_true (h.backed.mem hs)
    · exact h.closes c hc
  · rw [if_neg hfd]
    refine h.mono fun s' => ?_
    by_cases hs' : s' = s
    · exact .inr (hs' ▸ hnone)
    · exact .inl (hother s' hs')

theorem Owns.obtain_close (h : Owns held st) (fd : Int) :
    Owns held ((st.obtain fd).close fd) := by
  unfold State.obtain State.close
  by_cases hfd : 0 ≤ fd
  · simp only [if_pos hfd, Multiset.erase_cons_head, Multiset.mem_cons_self, decide_true]
    refine ⟨h.backed, fun c hc => ?_⟩
    rcases List.mem_cons.mp hc with rfl | hc
    · rfl
    · exact h.closes c hc
  · simp only [if_neg hfd]
    exact h

end

section

variable {Buffer : Type u} {Display : Type v} {Surface : Type w}
  {st : State Buffer Display Surface}

theorem held_obtain (fd : Int) : (st.obtain fd).held = st.held := by
  funext x
  cases x with
  | inl d => simp only [State.held, displays_obtain]
  | inr b => simp only [State.held, buffers_obtain]

theorem held_close (fd : Int) : (st.close fd).held = st.held := by
  funext x
  cases x with
  | inl d => simp only [State.held, displays_close]
  | inr b => simp only [State.held, buffers_close]

theorem held_setDisplay_ne [DecidableEq Display] {d : Display} {x : Display ⊕ Buffer}
    (display : Option TplDisplay) (hx : x ≠ .inl d) :
    (st.setDisplay d display).held x = st.held x := by
  cases x with
  | inl d' =>
      have hne : d' ≠ d := fun heq => hx (heq ▸ rfl)
      simp only [State.held, State.setDisplay, Function.update_of_ne hne]
  | inr b => rfl

theorem held_setDisplay_self [DecidableEq Display] (d : Display) (display : Option TplDisplay) :
    (st.setDisplay d display).held (.inl d) = display.bind TplDisplay.held := by
  simp only [State.held, State.setDisplay, Function.update_self]

section

variable [DecidableEq Buffer]

theorem held_setBuffer_ne {b : Buffer} {x : Display ⊕ Buffer} (tbmSurface : TbmSurface)
    (hx : x ≠ .inr b) : (st.setBuffer b tbmSurface).held x = st.held x := by
  cases x with
  | inl d => rfl
  | inr b' =>
      have hne : b' ≠ b := fun heq => hx (heq ▸ rfl)
      simp only [State.held, State.setBuffer, Function.update_of_ne hne]

theorem held_setBuffer_self (b : Buffer) (tbmSurface : TbmSurface) :
    (st.setBuffer b tbmSurface).held (.inr b) =
      tbmSurface.tplTbmBuffer.bind TplTbmBuffer.held := by
  simp only [State.held, State.setBuffer, Function.update_self]

theorem drawable_setBuffer {b x : Buffer} {tbmSurface : TbmSurface}
    (hb : (st.buffers b).Drawable → tbmSurface.Drawable) (hx : (st.buffers x).Drawable) :
    ((st.setBuffer b tbmSurface).buffers x).Drawable := by
  show (Function.update st.buffers b tbmSurface x).Drawable
  by_cases hxb : x = b
  · subst hxb
    rw [Function.update_self]
    exact hb hx
  · rw [Function.update_of_ne hxb]
    exact hx

theorem Inv.setBuffer (h : Inv st) {b : Buffer} {tbmSurface : TbmSurface}
    (hheld : tbmSurface.tplTbmBuffer = (st.buffers b).tplTbmBuffer ∨
      tbmSurface.tplTbmBuffer.bind TplTbmBuffer.held = none)
    (hb : (st.buffers b).Drawable → tbmSurface.Drawable) : Inv (st.setBuffer b tbmSurface) := by
  refine ⟨?_, fun s surface hs x hx => drawable_setBuffer hb (h.drawable s surface hs x hx)⟩
  have howns : Owns (st.setBuffer b tbmSurface).held st := by
    refine h.owns.mono fun x => ?_
    by_cases hx : x = .inr b
    · subst hx
      rw [held_setBuffer_self]
      exact hheld.imp_left (congrArg (Option.bind · TplTbmBuffer.held))
    · exact .inl (held_setBuffer_ne tbmSurface hx)
  exact ⟨howns.backed, howns.closes⟩

theorem Inv.close_setBuffer (h : Inv st) {b : Buffer} {tplTbmBuffer : TplTbmBuffer}
    {tbmSurface : TbmSurface} (hrecord : (st.buffers b).tplTbmBuffer = some tplTbmBuffer)
    (henqueued : tplTbmBuffer.enqueued = true)
    (hheld : tbmSurface.tplTbmBuffer.bind TplTbmBuffer.held = none)
    (hb : (st.buffers b).Drawable → tbmSurface.Drawable) :
    Inv ((st.close tplTbmBuffer.waitSync).setBuffer b tbmSurface) := by
  have hold : st.held (.inr b : Display ⊕ Buffer) = fdOf tplTbmBuffer.waitSync := by
    show (st.buffers b).tplTbmBuffer.bind TplTbmBuffer.held = _
    rw [hrecord, Option.bind_some, TplTbmBuffer.held, if_pos henqueued]
  have howns : Owns ((st.close tplTbmBuffer.waitSync).setBuffer b tbmSurface).held
      (st.close tplTbmBuffer.waitSync) :=
    h.owns.close hold
      (fun x hx => (held_setBuffer_ne tbmSurface hx).trans (congrFun (held_close _) x))
      ((held_setBuffer_self b tbmSurface).trans hheld)
  refine ⟨⟨howns.backed, howns.closes⟩, fun s surface hs x hx => ?_⟩
  have hs' : st.surfaces s = some surface := (congrFun (surfaces_close _) s).symm.trans hs
  refine drawable_setBuffer ?_ ?_
  · rw [buffers_close]
    exact hb
  · rw [buffers_close]
    exact h.drawable s surface hs' x hx

end

theorem Inv.setSurface [DecidableEq Surface] (h : Inv st) {s : Surface}
    {surface : TplSurface Buffer} (hplaces : ∀ b ∈ surface.places, (st.buffers b).Drawable) :
    Inv (st.setSurface s surface) := by
  refine ⟨⟨h.owns.backed, h.owns.closes⟩, fun s' surface' hs' b hb => ?_⟩
  by_cases hss : s' = s
  · subst hss
    obtain rfl := Option.some.inj ((Function.update_self s' _ _).symm.trans hs')
    exact hplaces b hb
  · exact h.drawable s' surface' ((Function.update_of_ne hss _ _).symm.trans hs') b hb

theorem Inv.emptyWaiting [DecidableEq Surface] (h : Inv st) {s : Surface}
    {surface surface' : TplSurface Buffer} (hs : st.surfaces s = some surface)
    (hwaiting : surface'.waiting = [])
    (hdraw : ∀ b ∈ surface'.drawWaitBuffer, b ∈ surface.drawWaitBuffer) :
    Inv (st.setSurface s surface') := by
  refine h.setSurface fun b hb => h.drawable s surface hs b (List.mem_append_right _ ?_)
  rw [TplSurface.places, hwaiting, List.nil_append] at hb
  exact Option.mem_toList.mpr (hdraw b (Option.mem_toList.mp hb))

theorem Inv.obtain_close (h : Inv st) (fd : Int) : Inv ((st.obtain fd).close fd) := by
  refine ⟨?_, by simpa using h.drawable⟩
  rw [held_close, held_obtain]
  exact h.owns.obtain_close fd

theorem Inv.waitSyncFence (h : Inv st) (surface : TplSurface Buffer) (syncFence : Int) :
    Inv (st.waitSyncFence surface syncFence) := by
  unfold State.waitSyncFence
  split
  · exact h
  · split
    · exact h
    · exact h.obtain_close syncFence

section

variable [DecidableEq Display]

theorem Inv.setDisplay (h : Inv st) (d : Display) {display : Option TplDisplay}
    (hnone : display.bind TplDisplay.held = none) : Inv (st.setDisplay d display) := by
  have howns : Owns (st.setDisplay d display).held st := by
    refine h.owns.mono fun x => ?_
    by_cases hx : x = .inl d
    · subst hx
      rw [held_setDisplay_self]
      exact .inr hnone
    · exact .inl (held_setDisplay_ne display hx)
  exact ⟨⟨howns.backed, howns.closes⟩, h.drawable⟩

theorem Inv.obtain_setDisplay (h : Inv st) (d : Display) {display : TplDisplay} {fd : Int}
    (hheld : display.held = fdOf fd) : Inv ((st.obtain fd).setDisplay d (some display)) := by
  have howns : Owns ((st.obtain fd).setDisplay d (some display)).held (st.obtain fd) :=
    h.owns.obtain (fun x hx => (held_setDisplay_ne _ hx).trans (congrFun (held_obtain _) x))
      ((held_setDisplay_self d _).trans hheld)
  exact ⟨⟨howns.backed, howns.closes⟩, by simpa [State.setDisplay] using h.drawable⟩

theorem Inv.close_setDisplay (h : Inv st) {d : Display} {fd : Int}
    (hheld : st.held (.inl d) = fdOf fd) : Inv ((st.close fd).setDisplay d none) := by
  have howns : Owns ((st.close fd).setDisplay d none).held (st.close fd) :=
    h.owns.close hheld (fun x hx => (held_setDisplay_ne _ hx).trans (congrFun (held_close _) x))
      (held_setDisplay_self d none)
  exact ⟨⟨howns.backed, howns.closes⟩, by simpa [State.setDisplay] using h.drawable⟩

theorem Inv.displayInit (h : Inv st) {display display' : TplDisplay}
    {out : CreateOutcome Display} {st' : State Buffer Display Surface} (d : Display)
    (hinit : st.displayInit display out = (.errorNone, display', st')) :
    Inv (st'.setDisplay d (some display')) ∧ Inv (st'.displayFini display') := by
  unfold State.displayInit at hinit
  cases hbackend : display.backend with
  | gbm =>
      simp only [hbackend, State.gbmDisplayInit] at hinit
      split at hinit
      · cases hinit
      · split at hinit
        · cases hinit
        · cases hinit
          exact ⟨h.obtain_setDisplay d rfl, h.obtain_close out.dupFd⟩
  | tbm | tbmVulkanWsi =>
      simp only [hbackend, State.tbmDisplayInit] at hinit
      split at hinit
      · cases hinit
      · cases hinit
        exact ⟨h.setDisplay d rfl, h⟩

omit [DecidableEq Display] in
theorem displayInit_failed {display display' : TplDisplay} {out : CreateOutcome Display}
    {result : TplResult} {st' : State Buffer Display Surface}
    (hinit : st.displayInit display out = (result, display', st')) (hresult : result ≠ .errorNone)
    (hgbm : display.backend = .gbm → display.nativeHandle = true ∧ out.backendData = true) :
    st'.displayFini display' = st := by
  unfold State.displayInit at hinit
  cases hbackend : display.backend with
  | gbm =>
      obtain ⟨hnative, hdata⟩ := hgbm hbackend
      simp only [hbackend, State.gbmDisplayInit, hnative, hdata] at hinit
      cases hinit
      exact (hresult rfl).elim
  | tbm | tbmVulkanWsi =>
      simp only [hbackend, State.tbmDisplayInit] at hinit
      split at hinit
      · cases hinit
        simp only [State.displayFini, hbackend]
      · cases hinit
        exact (hresult rfl).elim

theorem Inv.displayCreate (h : Inv st) {type : Option Backend} {nativeDpy : Bool}
    {out : CreateOutcome Display} (hfills : out.ReachesInit → type.or out.chosen = some .gbm →
      nativeDpy = true ∧ out.backendData = true) :
    Inv (st.displayCreate type nativeDpy out).2 := by
  unfold State.displayCreate
  cases hfound : out.found with
  | some d => exact h
  | none =>
      dsimp only
      split
      · rename_i backend d hbackend hd
        by_cases hobject : out.objectInit = false
        · rw [if_pos hobject]
          exact h
        · rw [if_neg hobject]
          split
          · rename_i display st' hinit
            obtain ⟨hkept, hfini⟩ := h.displayInit d hinit
            split
            · exact hfini
            · exact hkept
          · rename_i result display st' hresult hinit
            have hreaches : out.ReachesInit := by
              refine ⟨hfound, ?_, Bool.eq_true_of_not_eq_false hobject⟩
              rw [hd]
              rfl
            have hsame := displayInit_failed hinit hresult
              fun hgbm => hfills hreaches (hbackend.trans (congrArg some hgbm))
            rw [hsame]
            exact h
      · exact h

theorem Inv.displayRelease (h : Inv st) {d : Display} {display : TplDisplay}
    (hd : st.displays d = some display) : Inv ((st.displayFini display).setDisplay d none) := by
  unfold State.displayFini
  cases hbackend : display.backend with
  | gbm =>
      refine h.close_setDisplay ?_
      simp only [State.held, hd, Option.bind_some, TplDisplay.held, hbackend, if_true]
  | tbm | tbmVulkanWsi => exact h.setDisplay d rfl

end

section

variable [DecidableEq Buffer]

theorem drawable_setTbmBuffer (b : Buffer) (syncFence : Int) {x : Buffer}
    (hx : x = b ∨ (st.buffers x).Drawable) :
    ((st.setTbmBuffer b ⟨syncFence, true⟩).buffers x).Drawable := by
  rcases hx with rfl | hx
  · show (Function.update st.buffers x _ x).Drawable
    rw [Function.update_self]
    exact fun _ => ⟨_, rfl, rfl⟩
  · exact drawable_setBuffer (fun _ _ => ⟨_, rfl, rfl⟩) hx

theorem Inv.obtain_setTbmBuffer (h : Inv st) (b : Buffer) (syncFence : Int) :
    Inv ((st.obtain syncFence).setTbmBuffer b ⟨syncFence, true⟩) := by
  have howns : Owns ((st.obtain syncFence).setTbmBuffer b ⟨syncFence, true⟩).held
      (st.obtain syncFence) :=
    h.owns.obtain (fun x hx => (held_setBuffer_ne _ hx).trans (congrFun (held_obtain _) x))
      (held_setBuffer_self b _)
  refine ⟨⟨howns.backed, howns.closes⟩, fun s surface hs x hx => ?_⟩
  have hs' : st.surfaces s = some surface := (congrFun (surfaces_obtain _) s).symm.trans hs
  refine drawable_setTbmBuffer b syncFence (.inr ?_)
  rw [buffers_obtain]
  exact h.drawable s surface hs' x hx

theorem Inv.dequeueBuffer (h : Inv st) (surface : TplSurface Buffer) {b : Buffer}
    (hvalid : (st.buffers b).valid = true) (allocated : Bool) :
    Inv (st.dequeueBuffer surface b allocated) := by
  unfold State.dequeueBuffer
  cases surface.backend with
  | gbm =>
      dsimp only
      split
      · exact h.setBuffer (.inl rfl) id
      · exact h
  | tbm => exact h
  | tbmVulkanWsi =>
      cases hrecord : (st.buffers b).getTbmBuffer with
      | some _ => exact h
      | none =>
          rw [TbmSurface.getTbmBuffer, if_pos hvalid] at hrecord
          dsimp only
          split
          · refine h.setBuffer (.inr rfl) fun hb => ?_
            obtain ⟨tplTbmBuffer, hsome, -⟩ := hb hvalid
            cases hrecord.symm.trans hsome
          · exact h

theorem Inv.drawDone (h : Inv st) {b : Buffer} (hb : (st.buffers b).Drawable)
    {st' : State Buffer Display Surface} (hst' : st.drawDone b = some st') :
    Inv st' ∧ ∀ x, (st.buffers x).Drawable → (st'.buffers x).Drawable := by
  obtain ⟨tplTbmBuffer, hrecord, rfl⟩ := Option.map_eq_some_iff.mp hst'
  rw [TbmSurface.getTbmBuffer] at hrecord
  split at hrecord
  · rename_i hvalid
    obtain ⟨tplTbmBuffer', hrecord', henqueued⟩ := hb hvalid
    obtain rfl := Option.some.inj (hrecord.symm.trans hrecord')
    have hdrawn : (st.buffers b).Drawable → TbmSurface.Drawable { st.buffers b with
        tplTbmBuffer := some { tplTbmBuffer with waitSync := -1 } } := fun _ _ =>
      ⟨_, rfl, henqueued⟩
    rw [State.setTbmBuffer, buffers_close]
    refine ⟨h.close_setBuffer hrecord henqueued ?_ hdrawn, fun x hx => ?_⟩
    · rw [Option.bind_some, TplTbmBuffer.held]
      split <;> rfl
    · refine drawable_setBuffer ?_ ?_
      · rwa [buffers_close]
      · rwa [buffers_close]
  · cases hrecord

theorem Inv.destroyTbmSurface (h : Inv st) {b : Buffer}
    (hfills : ∀ tplTbmBuffer ∈ (st.buffers b).tplTbmBuffer, tplTbmBuffer.enqueued = true) :
    Inv (st.destroyTbmSurface b) := by
  have hdestroyed : (st.buffers b).Drawable → TbmSurface.Drawable ⟨false, none, false⟩ :=
    fun _ hvalid => (Bool.false_ne_true hvalid).elim
  unfold State.destroyTbmSurface
  cases hrecord : (st.buffers b).tplTbmBuffer with
  | none => exact h.setBuffer (.inr rfl) hdestroyed
  | some tplTbmBuffer =>
      dsimp only
      split
      · exact h.setBuffer (.inr rfl) hdestroyed
      · exact h.close_setBuffer hrecord (hfills _ hrecord) rfl hdestroyed

variable [DecidableEq Surface]

theorem Inv.enqueueBuffer (h : Inv st) {s : Surface} {surface : TplSurface Buffer} {b : Buffer}
    {syncFence : Int} {allocated : Bool} {st' : State Buffer Display Surface}
    (hs : st.surfaces s = some surface)
    (hst' : st.enqueueBuffer s surface b syncFence allocated = some st') : Inv st' := by
  unfold State.enqueueBuffer at hst'
  cases hbackend : surface.backend with
  | gbm | tbm =>
      simp only [hbackend] at hst'
      split at hst'
      · obtain rfl := Option.some.inj hst'
        exact h
      · obtain rfl := Option.some.inj hst'
        exact h.waitSyncFence surface syncFence
  | tbmVulkanWsi =>
      simp only [hbackend] at hst'
      split at hst'
      · obtain rfl := Option.some.inj hst'
        exact h
      · split at hst'
        · cases hst'
        · have hstored := h.obtain_setTbmBuffer b syncFence
          obtain rfl := Option.some.inj hst'
          split
          · refine hstored.setSurface fun x hx => drawable_setTbmBuffer b syncFence ?_
            rw [buffers_obtain]
            simp only [TplSurface.places, List.mem_append, List.mem_singleton] at hx
            rcases hx with (hx | rfl) | hx
            · exact .inr (h.drawable s surface hs x (List.mem_append_left _ hx))
            · exact .inl rfl
            · exact .inr (h.drawable s surface hs x (List.mem_append_right _ hx))
          · exact hstored

theorem Inv.prepareDrawWaitBuffer (h : Inv st) {s : Surface} {surface : TplSurface Buffer}
    {added : Bool} {st' : State Buffer Display Surface} (hs : st.surfaces s = some surface)
    (hst' : st.prepareDrawWaitBuffer s surface added = some st') : Inv st' := by
  have hplaces := h.drawable s surface hs
  unfold State.prepareDrawWaitBuffer at hst'
  cases hwaiting : surface.waiting with
  | nil =>
      rw [hwaiting] at hst'
      obtain rfl := Option.some.inj hst'
      exact h
  | cons b rest =>
      rw [TplSurface.places, hwaiting] at hplaces
      have hb := hplaces b (List.mem_append_left _ List.mem_cons_self)
      simp only [hwaiting] at hst'
      split at hst'
      · cases hst'
      · split at hst'
        · obtain rfl := Option.some.inj hst'
          refine h.setSurface fun x hx => ?_
          rcases List.mem_append.mp hx with hx | hx
          · exact hplaces x (List.mem_append_left _ (List.mem_cons_of_mem b hx))
          · obtain rfl : x = b := by simpa using hx
            exact hb
        · have hpopped : Inv (st.setSurface s { surface with waiting := rest }) := by
            refine h.setSurface fun x hx => hplaces x ?_
            rcases List.mem_append.mp hx with hx | hx
            · exact List.mem_append_left _ (List.mem_cons_of_mem b hx)
            · exact List.mem_append_right _ hx
          exact (hpopped.drawDone hb hst').1

variable [DecidableEq Display]

omit [DecidableEq Buffer] [DecidableEq Surface] [DecidableEq Display] in
theorem inv_newProcess : Inv (newProcess : State Buffer Display Surface) := by
  refine ⟨⟨backed_of_none fun x => ?_, fun c hc => ?_⟩, fun s surface hs => ?_⟩
  · cases x <;> rfl
  · cases hc
  · cases hs

theorem Inv.step (h : Inv st) {l : Label Buffer Display Surface}
    {st' : State Buffer Display Surface} (hfills : FillsRecords st l)
    (hst' : step st l = some st') : Inv st' := by
  cases l with
  | displayCreate type nativeDpy out =>
      simp only [DescriptorOwnership.step] at hst'
      split at hst'
      · obtain rfl := Option.some.inj hst'
        exact h.displayCreate hfills
      · cases hst'
  | displayRelease d =>
      obtain ⟨display, hd, rfl⟩ := Option.map_eq_some_iff.mp hst'
      exact h.displayRelease hd
  | surfaceCreate s d type tbmQueue =>
      simp only [DescriptorOwnership.step] at hst'
      split at hst'
      · obtain rfl := Option.some.inj hst'
        exact h.setSurface fun b hb => by cases hb
      · cases hst'
  | surfaceDestroy s =>
      obtain rfl := Option.some.inj hst'
      refine ⟨⟨h.owns.backed, h.owns.closes⟩, fun s' surface hs' => ?_⟩
      by_cases hss : s' = s
      · subst hss
        cases (Function.update_self s' _ _).symm.trans hs'
      · exact h.drawable s' surface ((Function.update_of_ne hss _ _).symm.trans hs')
  | createSwapchain s =>
      obtain ⟨surface, hs, rfl⟩ := Option.map_eq_some_iff.mp hst'
      unfold State.createSwapchain
      cases surface.backend with
      | gbm => exact h
      | tbm | tbmVulkanWsi => exact h.emptyWaiting hs rfl nofun
  | destroySwapchain s =>
      obtain ⟨surface, hs, rfl⟩ := Option.map_eq_some_iff.mp hst'
      unfold State.destroySwapchain
      cases surface.backend with
      | gbm | tbm => exact h
      | tbmVulkanWsi => exact h.emptyWaiting hs rfl fun _ => id
  | dequeueBuffer s b allocated =>
      simp only [DescriptorOwnership.step] at hst'
      split at hst'
      · rename_i hvalid
        obtain ⟨surface, -, rfl⟩ := Option.map_eq_some_iff.mp hst'
        exact h.dequeueBuffer surface hvalid allocated
      · cases hst'
  | enqueueBuffer s b syncFence allocated =>
      obtain ⟨surface, hs, henqueue⟩ := Option.bind_eq_some_iff.mp hst'
      exact h.enqueueBuffer hs henqueue
  | prepareDrawWaitBuffer s added =>
      obtain ⟨surface, hs, hprepare⟩ := Option.bind_eq_some_iff.mp hst'
      split at hprepare
      · exact h.prepareDrawWaitBuffer hs hprepare
      · cases hprepare
  | fenceEvent s =>
      obtain ⟨surface, hs, hfence⟩ := Option.bind_eq_some_iff.mp hst'
      obtain ⟨b, hb, hdrawn⟩ := Option.bind_eq_some_iff.mp hfence
      obtain ⟨st'', hdone, rfl⟩ := Option.map_eq_some_iff.mp hdrawn
      have hplaces := h.drawable s surface hs
      have hbplace : b ∈ surface.places := List.mem_append_right _ (by simp [hb])
      obtain ⟨hinv, hkept⟩ := h.drawDone (hplaces b hbplace) hdone
      refine hinv.setSurface fun x hx => hkept x (hplaces x ?_)
      rcases List.mem_append.mp hx with hx | hx
      · exact List.mem_append_left _ hx
      · cases hx
  | destroyTbmSurface b =>
      simp only [DescriptorOwnership.step] at hst'
      split at hst'
      · obtain rfl := Option.some.inj hst'
        exact h.destroyTbmSurface hfills
      · cases hst'

end

end

/-- While no `__tpl_gbm_display_init` fails and no tbm_surface is destroyed between the making
of its record and an enqueue, TPL closes only what it owns. -/
theorem closesOwned_of_reachable {Buffer : Type u} {Display : Type v} {Surface : Type w}
    [DecidableEq Buffer] [DecidableEq Display] [DecidableEq Surface]
    {st : State Buffer Display Surface}
    (hst : (descriptorSystem Buffer Display Surface).ReachableWhen FillsRecords st) :
    ClosesOwned st := by
  have hinv : Inv st := hst.invariant
    (fun st hst => by
      obtain rfl : st = newProcess := hst
      exact inv_newProcess)
    (fun _ _ _ h hfills hstep => h.step hfills hstep)
  exact hinv.owns.closes

/-- A display is created with the next free descriptor, `dupFd`, if it is a gbm one. -/
def newDisplay (d : Nat) (dupFd : Int) : CreateOutcome Nat :=
  ⟨none, none, some d, true, true, dupFd, true, true⟩

def displayAndFrames : List (Label Nat Nat Nat) :=
  [.displayCreate (some .gbm) true (newDisplay 0 7),
    .displayCreate (some .tbmVulkanWsi) true (newDisplay 1 8), .surfaceCreate 0 1 .window true,
    .createSwapchain 0, .dequeueBuffer 0 1 true, .enqueueBuffer 0 1 5 true,
    .prepareDrawWaitBuffer 0 true, .fenceEvent 0, .displayRelease 0, .dequeueBuffer 0 1 true,
    .enqueueBuffer 0 1 7 true, .destroySwapchain 0, .destroyTbmSurface 1]

theorem closesOwned_displayAndFrames :
    ∃ st, (descriptorSystem Nat Nat Nat).runWhen FillsRecords newProcess displayAndFrames =
        some st ∧ st.closes.map Prod.fst = [7, 7, 5] ∧ ClosesOwned st := by
  obtain ⟨st, hrun, hcloses⟩ := (descriptorSystem Nat Nat Nat).exists_of_runWhen FillsRecords
    (fun st => st.closes.map Prod.fst = [7, 7, 5]) newProcess displayAndFrames (by decide)
  exact ⟨st, hrun, hcloses, closesOwned_of_reachable (.of_runWhen (.initial rfl) hrun)⟩

/-- Without a native handle there is no gbm display, but its `bufmgr_fd` of 0 is closed. -/
theorem not_closesOwned_failedInit :
    ¬ ∀ st : State Nat Nat Nat, (descriptorSystem Nat Nat Nat).Reachable st →
      ClosesOwned st := by
  intro hall
  obtain ⟨st, hrun, hcloses⟩ := (descriptorSystem Nat Nat Nat).exists_of_run
    (fun st => st.closes = [(0, false)]) newProcess
    [.displayCreate (some .gbm) false (newDisplay 0 7)] (by decide)
  have hmem : (0, false) ∈ st.closes := hcloses ▸ List.mem_singleton_self _
  have howned := hall st (.of_run (.initial rfl) hrun) (0, false) hmem
  cases howned

/-- So is the `wait_sync` of 0 of a record that no enqueue has filled. -/
example : ((descriptorSystem Nat Nat Nat).run newProcess
    [.displayCreate (some .tbmVulkanWsi) true (newDisplay 0 7), .surfaceCreate 0 0 .window true,
      .dequeueBuffer 0 1 true, .destroyTbmSurface 1]).map State.closes = some [(0, false)] := by
  decide

end LibtplEgl.DescriptorOwnership
