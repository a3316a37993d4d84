import Mathlib.Data.List.Count
import LibtplEgl.TplTypes

namespace LibtplEgl.SurfaceCreation

open LibtplEgl.TplTypes

universe u v

inductive Resource
  | surface
  | surfaceMutex
  | backendSurface
  | backendMutex
  | attachedBuffers
  | dequeuedBuffers
  | tbmQueue
  | resetCb
  | vblank
  | shmFlusher
  | destroyCb
  | pixmapReference
  deriving DecidableEq, Repr

inductive Event
  | acquired (r : Resource)
  | released (r : Resource)
  deriving DecidableEq, Repr

/-- The calls that may fail, in the order in which they are made. -/
inductive FallibleCall
  | surfaceCalloc
  | surfaceObjectInit
  | backendCalloc
  | backendObjectInit
  | allocAttachedBuffers
  | allocDequeuedBuffers
  | queueCreate
  | addResetCb
  | getOutput
  | createVblank
  deriving DecidableEq, Repr

/-- A `tpl_surface_t`; `Data` is what its `backend.data` points to. -/
structure TplSurface (Data : Type v) where
  reference : Nat
  surfaceType : TplSurfaceType
  format : Nat
  postInterval : Int
  width : Int
  height : Int
  rotation : Int
  rotationCapability : Bool
  backendData : Option Data
  deriving DecidableEq, Repr

/-- The native object of the surface, the surface, and what was acquired and released. -/
structure World (Native : Type u) (Data : Type v) where
  native : Native
  surface : TplSurface Data
  log : List Event
  deriving DecidableEq, Repr

/-- The functions of a backend: `none` is a failed assertion. -/
structure SurfaceBackend (Native : Type u) (Data : Type v) where
  init : World Native Data → Option (TplResult × World Native Data)
  fini : World Native Data → Option (World Native Data)

section

variable {Native : Type u} {Data : Type v}

def World.acquire (w : World Native Data) (r : Resource) : World Native Data :=
  { w with log := w.log ++ [.acquired r] }

def World.release (w : World Native Data) (r : Resource) : World Native Data :=
  { w with log := w.log ++ [.released r] }

def World.setData (w : World Native Data) (data : Option Data) : World Native Data :=
  { w with surface := { w.surface with backendData := data } }

/-- `tpl_object_unreference` of a surface with one reference: `__tpl_object_fini`, the
`fini` of the backend and `free`. -/
def unreference (fini : World Native Data → Option (World Native Data)) (w : World Native Data) :
    Option (World Native Data) :=
  (fini (w.release .surfaceMutex)).map fun w => w.release .surface

/-- The surface that `calloc` and `__tpl_object_init` leave, with the arguments of
`tpl_surface_create`. -/
def newSurface (surfaceType : TplSurfaceType) (format : Nat) : TplSurface Data where
  reference := 1
  surfaceType := surfaceType
  format := format
  postInterval := 1
  width := 0
  height := 0
  rotation := 0
  rotationCapability := false
  backendData := none

/-- `tpl_surface_create` on a display with this backend. -/
def tplSurfaceCreate (backend : SurfaceBackend Native Data) (fails : FallibleCall → Bool)
    (native : Native) (surfaceType : TplSurfaceType) (format : Nat) :
    Option (Option (TplSurface Data) × World Native Data) :=
  let w : World Native Data := ⟨native, newSurface surfaceType format, []⟩
  if fails .surfaceCalloc then some (none, w)
  else
    let w := w.acquire .surface
    if fails .surfaceObjectInit then some (none, w.release .surface)
    else
      (backend.init (w.acquire .surfaceMutex)).bind fun result =>
        if result.1 ≠ .errorNone then
          (unreference backend.fini result.2).map fun w => (none, w)
        else some (some result.2.surface, result.2)

end

section

variable {Address : Type u}

structure WlEglWindow (Address : Type u) where
  surface : Option Address
  width : Int
  height : Int
  rotation : Int
  privateData : Option Address
  resizeCallback : Option Address
  rotateCallback : Option Address
  getRotationCapability : Option Address
  deriving DecidableEq, Repr

structure TplWaylandEglDisplay where
  tdmClient : Bool
  tizenSurfaceShm : Bool
  deriving DecidableEq, Repr

/-- A `tpl_wayland_egl_surface_t`; a list is `NULL` or has elements. -/
structure TplWaylandEglSurface (Address : Type u) where
  tbmQueue : Bool
  resized : Bool
  reset : Bool
  vblankDone : Bool
  currentBuffer : Option Address
  attachedBuffers : Option (List Address)
  dequeuedBuffers : Option (List Address)
  tdmVblank : Bool
  tizenSurfaceShmFlusher : Bool
  deriving DecidableEq, Repr

/-- The functions of the backend that a window calls. -/
structure ClientCallbacks (Address : Type u) where
  resize : Address
  rotate : Address
  getRotationCapability : Address
  deriving DecidableEq, Repr

abbrev WaylandWorld (Address : Type u) :=
  World (WlEglWindow Address) (TplWaylandEglSurface Address)

/-- `__tpl_list_free`, whose assertion fails for `NULL`. -/
def listFree (list : Option (List Address)) (r : Resource) (w : WaylandWorld Address) :
    Option (WaylandWorld Address) :=
  match list with
  | none => none
  | some _ => some (w.release r)

/-- The labels of `__tpl_wayland_egl_surface_init`, each of which falls through to the
one before it. -/
def tplObjectInitFail (w : WaylandWorld Address) : Option (TplResult × WaylandWorld Address) :=
  some (.errorInvalidOperation, (w.release .backendSurface).setData none)

def allocAttachedBuffersFail (w : WaylandWorld Address) :
    Option (TplResult × WaylandWorld Address) :=
  tplObjectInitFail (w.release .backendMutex)

def allocDequeueBuffersFail (x : TplWaylandEglSurface Address) (w : WaylandWorld Address) :
    Option (TplResult × WaylandWorld Address) :=
  (listFree x.dequeuedBuffers .dequeuedBuffers w).bind allocAttachedBuffersFail

def queueCreateFail (x : TplWaylandEglSurface Address) (w : WaylandWorld Address) :
    Option (TplResult × WaylandWorld Address) :=
  (listFree x.attachedBuffers .attachedBuffers w).bind (allocDequeueBuffersFail x)

def addResetCbFail (x : TplWaylandEglSurface Address) (w : WaylandWorld Address) :
    Option (TplResult × WaylandWorld Address) :=
  queueCreateFail x (w.release .tbmQueue)

def createVblankFail (x : TplWaylandEglSurface Address) (w : WaylandWorld Address) :
    Option (TplResult × WaylandWorld Address) :=
  addResetCbFail x (w.release .resetCb)

def WlEglWindow.install (window : WlEglWindow Address) (callbacks : ClientCallbacks Address)
    (self : Address) : WlEglWindow Address :=
  { window with
    privateData := some self
    resizeCallback := some callbacks.resize
    rotateCallback := some callbacks.rotate
    getRotationCapability := some callbacks.getRotationCapability }

/-- `surface->width` to `wl_egl_window->get_rotation_capability`. -/
def World.installWindow (w : WaylandWorld Address) (callbacks : ClientCallbacks Address)
    (self : Address) : WaylandWorld Address :=
  { w with
    native := w.native.install callbacks self
    surface := { w.surface with
      width := w.native.width
      height := w.native.height
      rotation := w.native.rotation
      rotationCapability := false } }

def bufferFlusherInit (display : TplWaylandEglDisplay) (x : TplWaylandEglSurface Address)
    (w : WaylandWorld Address) : WaylandWorld Address :=
  if display.tizenSurfaceShm then
    (w.acquire .shmFlusher).setData (some { x with tizenSurfaceShmFlusher := true })
  else w.setData (some x)

def createVblank (fails : FallibleCall → Bool) : TplResult :=
  if fails .getOutput then .errorInvalidOperation
  else if fails .createVblank then .errorInvalidOperation
  else .errorNone

/-- `__tpl_wayland_egl_surface_init` of the surface at `self`. -/
def waylandEglSurfaceInit (callbacks : ClientCallbacks Address) (self : Address)
    (display : TplWaylandEglDisplay) (fails : FallibleCall → Bool) (w : WaylandWorld Address) :
    Option (TplResult × WaylandWorld Address) :=
  if w.surface.surfaceType ≠ .window then none
  else if fails .backendCalloc then some (.errorOutOfMemory, w)
  else
    let w := w.acquire .backendSurface
    if fails .backendObjectInit then tplObjectInitFail w
    else
      let x : TplWaylandEglSurface Address :=
        ⟨false, false, false, true, none, none, none, false, false⟩
      let w := (w.acquire .backendMutex).setData (some x)
      if fails .allocAttachedBuffers then allocAttachedBuffersFail w
      else
        let x := { x with attachedBuffers := some [] }
        let w := w.acquire .attachedBuffers
        if fails .allocDequeuedBuffers then allocDequeueBuffersFail x w
        else
          let x := { x with dequeuedBuffers := some [] }
          let w := w.acquire .dequeuedBuffers
          -- With and without a `wl_surface` the queue is made by a different function.
          if fails .queueCreate then queueCreateFail x w
          else
            let x := { x with tbmQueue := true }
            let w := w.acquire .tbmQueue
            if fails .addResetCb then addResetCbFail x w
            else
              let w := (w.acquire .resetCb).installWindow callbacks self
              if display.tdmClient then
                if createVblank fails ≠ .errorNone then createVblankFail x w
                else
                  some (.errorNone, bufferFlusherInit display { x with tdmVblank := true }
                    (w.acquire .vblank))
              else some (.errorNone, bufferFlusherInit display x w)

def World.releaseIf (w : WaylandWorld Address) (condition : Bool) (r : Resource) :
    WaylandWorld Address :=
  if condition then w.release r else w

/-- `__tpl_wayland_egl_surface_fini` of a window surface. The callback that the queue
was given goes with the queue. -/
def waylandEglSurfaceFini (w : WaylandWorld Address) : Option (WaylandWorld Address) :=
  match w.surface.backendData with
  | none => some w
  | some x =>
      let w := { w with native := { w.native with privateData := none } }
      let w := w.releaseIf x.tdmVblank .vblank
      let w := (w.release .resetCb).release .tbmQueue
      let w := w.releaseIf x.tizenSurfaceShmFlusher .shmFlusher
      let w := w.releaseIf x.attachedBuffers.isSome .attachedBuffers
      let w := w.releaseIf x.dequeuedBuffers.isSome .dequeuedBuffers
      some (((w.release .backendMutex).release .backendSurface).setData none)

def waylandEgl (callbacks : ClientCallbacks Address) (self : Address)
    (display : TplWaylandEglDisplay) (fails : FallibleCall → Bool) :
    SurfaceBackend (WlEglWindow Address) (TplWaylandEglSurface Address) where
  init := waylandEglSurfaceInit callbacks self display fails
  fini := waylandEglSurfaceFini

end

section

/-- A `tbm_surface_queue_h` or a `tbm_surface_h`. -/
structure TbmNative where
  width : Int
  height : Int
  deriving DecidableEq, Repr

/-- The `tpl_tbm_surface_t` is there or not; nothing here reads it. -/
abbrev TbmWorld := World TbmNative Unit

/-- `__tpl_tbm_display_get_window_info` and `__tpl_tbm_display_get_pixmap_info` of a
handle that is not `NULL`. -/
def getNativeInfo (w : TbmWorld) : TplResult × TbmWorld :=
  (.errorNone,
    { w with surface := { w.surface with width := w.native.width, height := w.native.height } })

/-- The value of a `tpl_result_t`; that of `TPL_TRUE` is 1. -/
def resultValue : TplResult → Nat
  | .errorNone => 0
  | .errorInvalidParameter => 1
  | .errorInvalidOperation => 2
  | .errorOutOfMemory => 3

def tbmInitError (w : TbmWorld) : Option (TplResult × TbmWorld) :=
  some (.errorInvalidOperation, (w.release .backendSurface).setData none)

def tbmSurfaceInit (fails : FallibleCall → Bool) (w : TbmWorld) : Option (TplResult × TbmWorld) :=
  if fails .backendCalloc then some (.errorOutOfMemory, w)
  else
    let w := (w.acquire .backendSurface).setData (some ())
    match w.surface.surfaceType with
    | .window =>
        let info := getNativeInfo w
        if info.1 ≠ .errorNone then tbmInitError info.2
        else some (.errorNone, info.2.acquire .destroyCb)
    | .pixmap =>
        let info := getNativeInfo w
        -- The result is compared with `TPL_TRUE`.
        if resultValue info.1 ≠ 1 then tbmInitError info.2
        else some (.errorNone, info.2.acquire .pixmapReference)
    | .error => tbmInitError w

/-- `__tpl_tbm_surface_fini` of a surface whose swapchain has been destroyed. -/
def tbmSurfaceFini (w : TbmWorld) : Option TbmWorld :=
  match w.surface.backendData with
  | none => none
  | some _ =>
      let w := match w.surface.surfaceType with
        | .pixmap => w.release .pixmapReference
        | .window => w.release .destroyCb
        | .error => w
      some ((w.release .backendSurface).setData none)

def tbm (fails : FallibleCall → Bool) : SurfaceBackend TbmNative Unit where
  init := tbmSurfaceInit fails
  fini := tbmSurfaceFini

end

section

/-- Everything was acquired at most once, and released as often. -/
def Balanced (log : List Event) : Prop :=
  ∀ r, log.count (.acquired r) ≤ 1 ∧ log.count (.released r) = log.count (.acquired r)

/-- The creation makes a surface with one reference if nothing fails; otherwise it
returns `NULL`, releases what it has acquired and leaves the native object as it was. -/
def AllOrNothing {Native : Type u} {Data : Type v} (native : Native) (failed : Bool)
    (outcome : Option (Option (TplSurface Data) × World Native Data)) : Prop :=
  ∃ surface w, outcome = some (surface, w) ∧
    if failed then surface = none ∧ Balanced w.log ∧ w.native = native
    else ∃ x, surface = some x ∧ x.reference = 1

def waylandCalls (display : TplWaylandEglDisplay) : List FallibleCall :=
  [.surfaceCalloc, .surfaceObjectInit, .backendCalloc, .backendObjectInit,
    .allocAttachedBuffers, .allocDequeuedBuffers, .queueCreate, .addResetCb] ++
    if display.tdmClient then [.getOutput, .createVblank] else []

def tbmCalls : List FallibleCall :=
  [.surfaceCalloc, .surfaceObjectInit, .backendCalloc]

variable {Address : Type u}

/-- The first call that fails is not the allocation of the second list, and not one for
the vblank, unless the window has been set up for the surface before. -/
def WaylandClean (callbacks : ClientCallbacks Address) (self : Address)
    (display : TplWaylandEglDisplay) (fails : FallibleCall → Bool)
    (window : WlEglWindow Address) : Prop :=
  match (waylandCalls display).find? fails with
  | some .allocDequeuedBuffers => False
  | some .getOutput | some .createVblank => window.install callbacks self = window
  | _ => True

/-- The first call that fails is one of the frontend, or none does and the surface is
that of a window. -/
def TbmClean (fails : FallibleCall → Bool) (surfaceType : TplSurfaceType) : Prop :=
  match tbmCalls.find? fails with
  | some .backendCalloc => False
  | none => surfaceType = .window
  | _ => True

theorem allOrNothing_aborted {Native : Type u} {Data : Type v} (native : Native)
    (failed : Bool) : ¬ @AllOrNothing Native Data native failed none := by
  rintro ⟨_, _, ⟨⟩, _⟩

theorem allOrNothing_failed {Native : Type u} {Data : Type v} (native : Native)
    (w : World Native Data) :
    AllOrNothing native true (some (none, w)) ↔ Balanced w.log ∧ w.native = native := by
  constructor
  · rintro ⟨_, _, ⟨⟩, -, h⟩
    exact h
  · intro h
    exact ⟨none, w, rfl, rfl, h⟩

theorem allOrNothing_created {Native : Type u} {Data : Type v} (native : Native)
    (w : World Native Data) (x : TplSurface Data) (h : x.reference = 1) :
    AllOrNothing native false (some (some x, w)) :=
  ⟨some x, w, rfl, x, rfl, h⟩

/-- What a failed creation has acquired and released, by the call that fails. -/
def failureLog : FallibleCall → List Event
  | .surfaceCalloc => []
  | .surfaceObjectInit => [.acquired .surface, .released .surface]
  | .backendCalloc =>
      [.acquired .surface, .acquired .surfaceMutex, .released .surfaceMutex, .released .surface]
  | .backendObjectInit =>
      [.acquired .surface, .acquired .surfaceMutex, .acquired .backendSurface,
        .released .backendSurface, .released .surfaceMutex, .released .surface]
  | .allocAttachedBuffers | .allocDequeuedBuffers =>
      [.acquired .surface, .acquired .surfaceMutex, .acquired .backendSurface,
        .acquired .backendMutex, .released .backendMutex, .released .backendSurface,
        .released .surfaceMutex, .released .surface]
  | .queueCreate =>
      [.acquired .surface, .acquired .surfaceMutex, .acquired .backendSurface,
        .acquired .backendMutex, .acquired .attachedBuffers, .acquired .dequeuedBuffers,
        .released .attachedBuffers, .released .dequeuedBuffers, .released .backendMutex,
        .released .backendSurface, .released .surfaceMutex, .released .surface]
  | .addResetCb =>
      [.acquired .surface, .acquired .surfaceMutex, .acquired .backendSurface,
        .acquired .backendMutex, .acquired .attachedBuffers, .acquired .dequeuedBuffers,
        .acquired .tbmQueue, .released .tbmQueue, .released .attachedBuffers,
        .released .dequeuedBuffers, .released .backendMutex, .released .backendSurface,
        .released .surfaceMutex, .released .surface]
  | .getOutput | .createVblank =>
      [.acquired .surface, .acquired .surfaceMutex, .acquired .backendSurface,
        .acquired .backendMutex, .acquired .attachedBuffers, .acquired .dequeuedBuffers,
        .acquired .tbmQueue, .acquired .resetCb, .released .resetCb, .released .tbmQueue,
        .released .attachedBuffers, .released .dequeuedBuffers, .released .backendMutex,
        .released .backendSurface, .released .surfaceMutex, .released .surface]

theorem balanced_failureLog (c : FallibleCall) : Balanced (failureLog c) := by
  intro r
  cases c with
  | _ =>
      cases r with
      | _ => decide

def creationLog (display : TplWaylandEglDisplay) : List Event :=
  [.acquired .surface, .acquired .surfaceMutex, .acquired .backendSurface,
    .acquired .backendMutex, .acquired .attachedBuffers, .acquired .dequeuedBuffers,
    .acquired .tbmQueue, .acquired .resetCb] ++
  (if display.tdmClient then [.acquired .vblank] else []) ++
  (if display.tizenSurfaceShm then [.acquired .shmFlusher] else [])

def destructionLog (display : TplWaylandEglDisplay) : List Event :=
  [.released .surfaceMutex] ++
  (if display.tdmClient then [.released .vblank] else []) ++
  [.released .resetCb, .released .tbmQueue] ++
  (if display.tizenSurfaceShm then [.released .shmFlusher] else []) ++
  [.released .attachedBuffers, .released .dequeuedBuffers, .released .backendMutex,
    .released .backendSurface, .released .surface]

theorem balanced_lifetime (display : TplWaylandEglDisplay) :
    Balanced (creationLog display ++ destructionLog display) := by
  obtain ⟨tdmClient, tizenSurfaceShm⟩ := display
  intro r
  cases tdmClient with
  | true | false =>
      cases tizenSurfaceShm with
      | true | false =>
          cases r with
          | _ => decide

/-- What `tpl_surface_create` hands to the `init` of the backend. -/
def allocated {Native : Type u} {Data : Type v} (native : Native)
    (surfaceType : TplSurfaceType) (format : Nat) : World Native Data :=
  ⟨native, newSurface surfaceType format, [.acquired .surface, .acquired .surfaceMutex]⟩

theorem tplSurfaceCreate_of_init {Native : Type u} {Data : Type v}
    {backend : SurfaceBackend Native Data} {fails : FallibleCall → Bool} {native : Native}
    {surfaceType : TplSurfaceType} {format : Nat} {w : World Native Data}
    (hcalloc : fails .surfaceCalloc = false) (hobject : fails .surfaceObjectInit = false)
    (hinit : backend.init (allocated native surfaceType format) = some (.errorNone, w)) :
    tplSurfaceCreate backend fails native surfaceType format = some (some w.surface, w) := by
  have hinit' : backend.init ((World.acquire ⟨native, newSurface surfaceType format, []⟩
      .surface).acquire .surfaceMutex) = some (.errorNone, w) := hinit
  simp [tplSurfaceCreate, hcalloc, hobject, hinit']

theorem tplSurfaceCreate_of_initFailed {Native : Type u} {Data : Type v}
    {backend : SurfaceBackend Native Data} {fails : FallibleCall → Bool} {native : Native}
    {surfaceType : TplSurfaceType} {format : Nat} {r : TplResult} {w : World Native Data}
    (hcalloc : fails .surfaceCalloc = false) (hobject : fails .surfaceObjectInit = false)
    (hinit : backend.init (allocated native surfaceType format) = some (r, w))
    (hr : r ≠ .errorNone) :
    tplSurfaceCreate backend fails native surfaceType format =
      (unreference backend.fini w).map fun w => (none, w) := by
  have hinit' : backend.init ((World.acquire ⟨native, newSurface surfaceType format, []⟩
      .surface).acquire .surfaceMutex) = some (r, w) := hinit
  simp [tplSurfaceCreate, hcalloc, hobject, hinit', hr]

theorem tplSurfaceCreate_of_initAborted {Native : Type u} {Data : Type v}
    {backend : SurfaceBackend Native Data} {fails : FallibleCall → Bool} {native : Native}
    {surfaceType : TplSurfaceType} {format : Nat}
    (hcalloc : fails .surfaceCalloc = false) (hobject : fails .surfaceObjectInit = false)
    (hinit : backend.init (allocated native surfaceType format) = none) :
    tplSurfaceCreate backend fails native surfaceType format = none := by
  have hinit' : backend.init ((World.acquire ⟨native, newSurface surfaceType format, []⟩
      .surface).acquire .surfaceMutex) = none := hinit
  simp [tplSurfaceCreate, hcalloc, hobject, hinit']

theorem allOrNothing_frontendFailed {Native : Type u} {Data : Type v}
    {backend : SurfaceBackend Native Data} {fails : FallibleCall → Bool} (native : Native)
    (surfaceType : TplSurfaceType) (format : Nat)
    (hfrontend : (fails .surfaceCalloc || fails .surfaceObjectInit) = true) :
    AllOrNothing native true (tplSurfaceCreate backend fails native surfaceType format) := by
  cases hcalloc : fails .surfaceCalloc with
  | true =>
      have hcreate : tplSurfaceCreate backend fails native surfaceType format =
          some (none, ⟨native, newSurface surfaceType format, []⟩) := by
        simp [tplSurfaceCreate, hcalloc]
      rw [hcreate]
      exact (allOrNothing_failed _ _).mpr ⟨balanced_failureLog .surfaceCalloc, rfl⟩
  | false =>
      have hobject : fails .surfaceObjectInit = true := by
        rw [hcalloc, Bool.false_or] at hfrontend
        exact hfrontend
      have hcreate : tplSurfaceCreate backend fails native surfaceType format =
          some (none, ⟨native, newSurface surfaceType format,
            [.acquired .surface, .released .surface]⟩) := by
        simp [tplSurfaceCreate, hcalloc, hobject, World.acquire, World.release]
      rw [hcreate]
      exact (allOrNothing_failed _ _).mpr ⟨balanced_failureLog .surfaceObjectInit, rfl⟩

theorem find?_frontendFailed {fails : FallibleCall → Bool} (calls : List FallibleCall)
    (hfrontend : (fails .surfaceCalloc || fails .surfaceObjectInit) = true) :
    ∃ c, (c = .surfaceCalloc ∨ c = .surfaceObjectInit) ∧
      (.surfaceCalloc :: .surfaceObjectInit :: calls).find? fails = some c := by
  cases hcalloc : fails .surfaceCalloc with
  | true => exact ⟨.surfaceCalloc, .inl rfl, by simp [hcalloc]⟩
  | false =>
      rw [hcalloc, Bool.false_or] at hfrontend
      exact ⟨.surfaceObjectInit, .inr rfl, by simp [hcalloc, hfrontend]⟩

def waylandInitCalls (display : TplWaylandEglDisplay) : List FallibleCall :=
  [.backendCalloc, .backendObjectInit, .allocAttachedBuffers, .allocDequeuedBuffers,
    .queueCreate, .addResetCb] ++
    if display.tdmClient then [.getOutput, .createVblank] else []

/-- What `__tpl_wayland_egl_surface_init` returns, by the first call that fails: the
world's log is then that of a failed creation, short of its end. -/
inductive InitOutcome (callbacks : ClientCallbacks Address) (self : Address)
    (display : TplWaylandEglDisplay) (window : WlEglWindow Address) :
    Option FallibleCall → Option (TplResult × WaylandWorld Address) → Prop
  | aborted : InitOutcome callbacks self display window (some .allocDequeuedBuffers) none
  | failed {c : FallibleCall} {r : TplResult} {w : WaylandWorld Address} :
      c ≠ .allocDequeuedBuffers → c ≠ .getOutput → c ≠ .createVblank → r ≠ .errorNone →
      w.surface.backendData = none → w.native = window →
      w.log ++ [.released .surfaceMutex, .released .surface] = failureLog c →
      InitOutcome callbacks self display window (some c) (some (r, w))
  | failedVblank {c : FallibleCall} {r : TplResult} {w : WaylandWorld Address} :
      c = .getOutput ∨ c = .createVblank → r ≠ .errorNone → w.surface.backendData = none →
      w.native = window.install callbacks self →
      w.log ++ [.released .surfaceMutex, .released .surface] = failureLog c →
      InitOutcome callbacks self display window (some c) (some (r, w))
  | created {w : WaylandWorld Address} : w.surface.reference = 1 →
      w.surface.backendData = some ⟨true, false, false, true, none, some [], some [],
        display.tdmClient, display.tizenSurfaceShm⟩ →
      w.log = creationLog display →
      InitOutcome callbacks self display window none (some (.errorNone, w))

theorem initOutcome (callbacks : ClientCallbacks Address) (self : Address)
    (display : TplWaylandEglDisplay) (fails : FallibleCall → Bool)
    (window : WlEglWindow Address) (format : Nat) :
    InitOutcome callbacks self display window ((waylandInitCalls display).find? fails)
      (waylandEglSurfaceInit callbacks self display fails (allocated window .window format)) := by
  have hwindow : ¬ (allocated window .window format : WaylandWorld Address).surface.surfaceType ≠
      .window := fun h => h rfl
  rw [waylandEglSurfaceInit, if_neg hwindow]
  simp only [waylandInitCalls, List.cons_append, List.nil_append, List.find?_cons]
  cases h3 : fails .backendCalloc with
  | true => exact .failed (by decide) (by decide) (by decide) (by decide) rfl rfl rfl
  | false =>
  cases h4 : fails .backendObjectInit with
  | true => exact .failed (by decide) (by decide) (by decide) (by decide) rfl rfl rfl
  | false =>
  cases h5 : fails .allocAttachedBuffers with
  | true => exact .failed (by decide) (by decide) (by decide) (by decide) rfl rfl rfl
  | false =>
  cases h6 : fails .allocDequeuedBuffers with
  | true => exact .aborted
  | false =>
  cases h7 : fails .queueCreate with
  | true => exact .failed (by decide) (by decide) (by decide) (by decide) rfl rfl rfl
  | false =>
  cases h8 : fails .addResetCb with
  | true => exact .failed (by decide) (by decide) (by decide) (by decide) rfl rfl rfl
  | false =>
  -- from here on the window has been written
  simp only [Bool.false_eq_true, if_false]
  obtain ⟨tdmClient, tizenSurfaceShm⟩ := display
  cases tdmClient with
  | false =>
      cases tizenSurfaceShm with
      | true | false => exact .created rfl rfl rfl
  | true =>
      simp only [if_true, List.find?_cons, List.find?_nil]
      by_cases h9 : fails .getOutput = true
      · have hvblank : createVblank fails = .errorInvalidOperation := if_pos h9
        simp only [h9, hvblank]
        exact .failedVblank (.inl rfl) (by decide) rfl rfl rfl
      · by_cases h10 : fails .createVblank = true
        · have hvblank : createVblank fails = .errorInvalidOperation := by
            rw [createVblank, if_neg h9, if_pos h10]
          simp only [h9, h10, hvblank]
          exact .failedVblank (.inr rfl) (by decide) rfl rfl rfl
        · have hvblank : createVblank fails = .errorNone := by
            rw [createVblank, if_neg h9, if_neg h10]
          simp only [h9, h10, hvblank, ne_eq, not_true_eq_false, if_false]
          cases tizenSurfaceShm with
          | true | false => exact .created rfl rfl rfl

theorem unreference_of_noData {w : WaylandWorld Address} (hdata : w.surface.backendData = none) :
    unreference waylandEglSurfaceFini w =
      some ⟨w.native, w.surface, w.log ++ [.released .surfaceMutex, .released .surface]⟩ := by
  have hfini : waylandEglSurfaceFini (w.release .surfaceMutex) = some (w.release .surfaceMutex) := by
    have hdata' : (w.release .surfaceMutex).surface.backendData = none := hdata
    simp [waylandEglSurfaceFini, hdata']
  rw [unreference, hfini]
  simp [World.release]

theorem unreference_of_created {w : WaylandWorld Address} {display : TplWaylandEglDisplay}
    (hdata : w.surface.backendData = some ⟨true, false, false, true, none, some [], some [],
      display.tdmClient, display.tizenSurfaceShm⟩) :
    ∃ w', unreference waylandEglSurfaceFini w = some w' ∧
      w'.log = w.log ++ destructionLog display ∧ w'.native.privateData = none := by
  have hdata' : (w.release .surfaceMutex).surface.backendData = some ⟨true, false, false, true,
      none, some [], some [], display.tdmClient, display.tizenSurfaceShm⟩ := hdata
  obtain ⟨tdmClient, tizenSurfaceShm⟩ := display
  rw [unreference, waylandEglSurfaceFini, hdata']
  refine ⟨_, rfl, ?_, ?_⟩
  · cases tdmClient with
    | true | false =>
        cases tizenSurfaceShm with
        | true | false => simp [World.release, World.releaseIf, World.setData, destructionLog]
  · cases tdmClient with
    | true | false =>
        cases tizenSurfaceShm with
        | true | false => rfl

theorem any_eq_isSome_find? (fails : FallibleCall → Bool) (calls : List FallibleCall) :
    calls.any fails = (calls.find? fails).isSome := by
  rw [Bool.eq_iff_iff, List.any_eq_true, List.find?_isSome]

/-- The creation of a wayland-egl surface is all or nothing unless the first call that
fails is the allocation of the second list or a call for the vblank. -/
theorem wayland_iff (callbacks : ClientCallbacks Address) (self : Address)
    (display : TplWaylandEglDisplay) (fails : FallibleCall → Bool)
    (window : WlEglWindow Address) (format : Nat) :
    AllOrNothing window ((waylandCalls display).any fails)
        (tplSurfaceCreate (waylandEgl callbacks self display fails) fails window .window format) ↔
      WaylandClean callbacks self display fails window := by
  rw [any_eq_isSome_find?]
  unfold WaylandClean
  cases hfrontend : (fails .surfaceCalloc || fails .surfaceObjectInit) with
  | true =>
      obtain ⟨c, hc, hfirst⟩ := find?_frontendFailed (waylandInitCalls display) hfrontend
      have hcalls : (waylandCalls display).find? fails = some c := hfirst
      rw [hcalls]
      refine iff_of_true (allOrNothing_frontendFailed _ _ _ hfrontend) ?_
      rcases hc with rfl | rfl
      · trivial
      · trivial
  | false =>
      obtain ⟨h1, h2⟩ := Bool.or_eq_false_iff.mp hfrontend
      have hfirst : (waylandCalls display).find? fails =
          (waylandInitCalls display).find? fails := by
        simp [waylandCalls, waylandInitCalls, h1, h2]
      rw [hfirst]
      have houtcome := initOutcome callbacks self display fails window format
      generalize hinit : waylandEglSurfaceInit callbacks self display fails
        (allocated window .window format) = outcome at houtcome
      generalize (waylandInitCalls display).find? fails = first at houtcome ⊢
      cases houtcome with
      | aborted =>
          rw [tplSurfaceCreate_of_initAborted h1 h2 hinit]
          exact iff_of_false (allOrNothing_aborted _ _) id
      | @failed c r w hlist houtput hvblank hr hdata hnative hlog =>
          have hfini : unreference (waylandEgl callbacks self display fails).fini w = _ :=
            unreference_of_noData hdata
          rw [tplSurfaceCreate_of_initFailed h1 h2 hinit hr, hfini, hlog]
          refine iff_of_true ((allOrNothing_failed _ _).mpr ⟨balanced_failureLog c, hnative⟩) ?_
          cases c with
          | allocDequeuedBuffers => exact hlist rfl
          | getOutput => exact absurd rfl houtput
          | createVblank => exact absurd rfl hvblank
          | _ => trivial
      | @failedVblank c r w hc hr hdata hnative hlog =>
          have hfini : unreference (waylandEgl callbacks self display fails).fini w = _ :=
            unreference_of_noData hdata
          rw [tplSurfaceCreate_of_initFailed h1 h2 hinit hr, hfini, hlog, hnative]
          have hiff : AllOrNothing window true
              (some (none, ⟨window.install callbacks self, w.surface, failureLog c⟩)) ↔
              window.install callbacks self = window := by
            rw [allOrNothing_failed]
            exact and_iff_right (balanced_failureLog c)
          rcases hc with rfl | rfl
          · exact hiff
          · exact hiff
      | created hreference _ _ =>
          rw [tplSurfaceCreate_of_init h1 h2 hinit]
          exact iff_of_true (allOrNothing_created _ _ _ hreference) trivial

/-- A surface that was created is destroyed without a trace, but for the callbacks. -/
theorem destroy_balanced {callbacks : ClientCallbacks Address} {self : Address}
    {display : TplWaylandEglDisplay} {fails : FallibleCall → Bool}
    {window : WlEglWindow Address} {format : Nat} {x : TplSurface (TplWaylandEglSurface Address)}
    {w : WaylandWorld Address}
    (hcreate : tplSurfaceCreate (waylandEgl callbacks self display fails) fails window .window
      format = some (some x, w)) :
    ∃ w', unreference waylandEglSurfaceFini w = some w' ∧ Balanced w'.log ∧
      w'.native.privateData = none := by
  cases hfrontend : (fails .surfaceCalloc || fails .surfaceObjectInit) with
  | true =>
      have hfailed : AllOrNothing window true (tplSurfaceCreate
          (waylandEgl callbacks self display fails) fails window .window format) :=
        allOrNothing_frontendFailed window .window format hfrontend
      obtain ⟨_, _, houtcome, rfl, -⟩ := hfailed
      cases houtcome.symm.trans hcreate
  | false =>
      obtain ⟨h1, h2⟩ := Bool.or_eq_false_iff.mp hfrontend
      have houtcome := initOutcome callbacks self display fails window format
      generalize hinit : waylandEglSurfaceInit callbacks self display fails
        (allocated window .window format) = outcome at houtcome
      generalize (waylandInitCalls display).find? fails = first at houtcome
      cases houtcome with
      | aborted =>
          rw [tplSurfaceCreate_of_initAborted h1 h2 hinit] at hcreate
          cases hcreate
      | failed _ _ _ hr hdata _ _ | failedVblank _ hr hdata _ _ =>
          have hfini : unreference (waylandEgl callbacks self display fails).fini _ = _ :=
            unreference_of_noData hdata
          rw [tplSurfaceCreate_of_initFailed h1 h2 hinit hr, hfini] at hcreate
          cases hcreate
      | created _ hdata hlog =>
          rw [tplSurfaceCreate_of_init h1 h2 hinit] at hcreate
          cases hcreate
          obtain ⟨w', hdestroy, hlog', hprivate⟩ := unreference_of_created hdata
          refine ⟨w', hdestroy, ?_, hprivate⟩
          rw [hlog', hlog]
          exact balanced_lifetime display

theorem tbm_iff (fails : FallibleCall → Bool) (native : TbmNative) (surfaceType : TplSurfaceType)
    (format : Nat) :
    AllOrNothing native (tbmCalls.any fails)
        (tplSurfaceCreate (tbm fails) fails native surfaceType format) ↔
      TbmClean fails surfaceType := by
  rw [any_eq_isSome_find?]
  unfold TbmClean
  cases hfrontend : (fails .surfaceCalloc || fails .surfaceObjectInit) with
  | true =>
      obtain ⟨c, hc, hfirst⟩ := find?_frontendFailed [.backendCalloc] hfrontend
      have hcalls : tbmCalls.find? fails = some c := hfirst
      rw [hcalls]
      refine iff_of_true (allOrNothing_frontendFailed _ _ _ hfrontend) ?_
      rcases hc with rfl | rfl
      · trivial
      · trivial
  | false =>
      obtain ⟨h1, h2⟩ := Bool.or_eq_false_iff.mp hfrontend
      cases h3 : fails .backendCalloc with
      | true =>
          have hfirst : tbmCalls.find? fails = some .backendCalloc := by
            simp [tbmCalls, h1, h2, h3]
          have hinit : (tbm fails).init (allocated native surfaceType format) =
              some (.errorOutOfMemory, allocated native surfaceType format) := by
            simp [tbm, tbmSurfaceInit, h3]
          rw [hfirst, tplSurfaceCreate_of_initFailed h1 h2 hinit (by decide)]
          exact iff_of_false (allOrNothing_aborted _ _) id
      | false =>
          have hfirst : tbmCalls.find? fails = none := by
            simp [tbmCalls, h1, h2, h3]
          rw [hfirst]
          have hinit : (tbm fails).init (allocated native surfaceType format) = _ :=
            if_neg (Bool.eq_false_iff.mp h3)
          cases surfaceType with
          | window =>
              rw [tplSurfaceCreate_of_init h1 h2 hinit]
              exact iff_of_true (allOrNothing_created _ _ _ rfl) rfl
          | pixmap =>
              rw [tplSurfaceCreate_of_initFailed h1 h2 hinit (by decide)]
              exact iff_of_false (allOrNothing_aborted _ _) TplSurfaceType.noConfusion
          | error =>
              rw [tplSurfaceCreate_of_initFailed h1 h2 hinit (by decide)]
              exact iff_of_false (allOrNothing_aborted _ _) TplSurfaceType.noConfusion

/-- The creation of a surface is all or nothing, exactly where the clean up of the backend
undoes what its first failing call leaves. -/
theorem allOrNothing_iff (callbacks : ClientCallbacks Address) (self : Address)
    (display : TplWaylandEglDisplay) (fails : FallibleCall → Bool)
    (window : WlEglWindow Address) (native : TbmNative) (surfaceType : TplSurfaceType)
    (format : Nat) :
    (AllOrNothing window ((waylandCalls display).any fails)
        (tplSurfaceCreate (waylandEgl callbacks self display fails) fails window .window format) ↔
      WaylandClean callbacks self display fails window) ∧
    (AllOrNothing native (tbmCalls.any fails)
        (tplSurfaceCreate (tbm fails) fails native surfaceType format) ↔
      TbmClean fails surfaceType) :=
  ⟨wayland_iff callbacks self display fails window format,
    tbm_iff fails native surfaceType format⟩

def freshWindow : WlEglWindow Nat :=
  ⟨some 1, 60, 30, 0, none, none, none, none⟩

/-- A failed assertion where the second list is not allocated, a window that is left with
the callbacks of a freed surface where the vblank is not created, and failed assertions where
the TBM backend has no memory or is given a pixmap. -/
theorem not_allOrNothing :
    ¬ AllOrNothing freshWindow true (tplSurfaceCreate
      (waylandEgl ⟨2, 3, 4⟩ 5 ⟨true, true⟩ (· == .allocDequeuedBuffers)) (· == .allocDequeuedBuffers)
      freshWindow .window 0) ∧
    ¬ AllOrNothing freshWindow true (tplSurfaceCreate
      (waylandEgl ⟨2, 3, 4⟩ 5 ⟨true, true⟩ (· == .createVblank)) (· == .createVblank)
      freshWindow .window 0) ∧
    ¬ AllOrNothing ⟨60, 30⟩ true (tplSurfaceCreate (tbm (· == .backendCalloc)) (· == .backendCalloc)
      ⟨60, 30⟩ .window 0) ∧
    ¬ AllOrNothing ⟨60, 30⟩ false (tplSurfaceCreate (tbm fun _ => false) (fun _ => false)
      ⟨60, 30⟩ .pixmap 0) := by
  refine ⟨?_, ?_, ?_, ?_⟩
  · intro h
    exact (wayland_iff ⟨2, 3, 4⟩ 5 ⟨true, true⟩ (· == .allocDequeuedBuffers) freshWindow 0).mp h
  · intro h
    have hsame : freshWindow.install ⟨2, 3, 4⟩ 5 = freshWindow :=
      (wayland_iff ⟨2, 3, 4⟩ 5 ⟨true, true⟩ (· == .createVblank) freshWindow 0).mp h
    exact absurd hsame (by decide)
  · intro h
    exact (tbm_iff (· == .backendCalloc) ⟨60, 30⟩ .window 0).mp h
  · intro h
    have hwindow : TplSurfaceType.pixmap = .window :=
      (tbm_iff (fun _ => false) ⟨60, 30⟩ .pixmap 0).mp h
    cases hwindow

end

end LibtplEgl.SurfaceCreation
