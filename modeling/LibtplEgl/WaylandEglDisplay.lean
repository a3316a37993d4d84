import LibtplEgl.DisplayCreation

namespace LibtplEgl.WaylandEglDisplay

open LibtplEgl.DisplayCreation
open LibtplEgl.ProxyQueues
open LibtplEgl.TplTypes

/-- A `tpl_wayland_egl_display_t`. -/
structure TplWaylandEglDisplay where
  wlTbmClient : Bool
  wlTbm : Bool
  wlTbmEventQueue : Bool
  tdmClient : Bool
  tizenSurfaceShm : Option Nat
  deriving DecidableEq, Repr

structure EglOutcomes where
  native : Option Native
  calloc : Bool
  tbmClientInit : Bool
  getWlTbm : Bool
  createQueue : Bool
  waitVblank : Option Int
  tdmClientCreate : Bool
  createFlusherQueue : Bool
  getRegistry : Bool
  addListener : Bool
  globals : List Global
  roundtrip : Bool
  deriving DecidableEq, Repr

abbrev EglWorld := World TplWaylandEglDisplay

def EglWorld.tizenSurfaceShm (w : EglWorld) : Option Nat :=
  w.backendData.bind TplWaylandEglDisplay.tizenSurfaceShm

def shmSlot : Slot TplWaylandEglDisplay where
  get := TplWaylandEglDisplay.tizenSurfaceShm
  set := fun shm d => { d with tizenSurfaceShm := shm }
  get_set := fun _ _ => rfl
  set_get := fun _ => rfl
  set_set := fun _ _ _ => rfl

/-- `__cb_resistry_global_callback`. -/
def registryGlobalCallback (w : EglWorld) (g : Global) : Option EglWorld :=
  globalCallback shmSlot "tizen_surface_shm" w g

/-- The globals that `wl_display_roundtrip_queue` dispatches. -/
def dispatchGlobals (w : EglWorld) : List Global → Option EglWorld
  | [] => some w
  | g :: gs => (registryGlobalCallback w g).bind fun w => dispatchGlobals w gs

/-- The end of `__tpl_wayland_egl_display_buffer_flusher_init`. -/
def flusherInitFini (w : EglWorld) : Option EglWorld :=
  (w.onConnection (·.destroyQueue .registry)).bind (·.onConnection (·.destroy .registry))

/-- `__tpl_wayland_egl_display_buffer_flusher_init`. -/
def bufferFlusherInit (o : EglOutcomes) (w : EglWorld) : Option EglWorld :=
  if o.createFlusherQueue = false then some w
  else
    (w.onConnection (·.createQueue .registry)).bind fun w =>
      if o.getRegistry = false then w.onConnection (·.destroyQueue .registry)
      else
        (w.onConnection (·.create .registry)).bind fun w =>
          (w.onConnection (·.setQueue .registry (some .registry))).bind fun w =>
            if o.addListener = false then flusherInitFini w
            else
              (dispatchGlobals w o.globals).bind fun w =>
                if o.roundtrip = false then flusherInitFini w
                else
                  match w.tizenSurfaceShm with
                  | some n =>
                      (w.onConnection (·.setQueue (.global n) none)).bind flusherInitFini
                  | none => flusherInitFini w

/-- `__tpl_wayland_egl_display_buffer_flusher_fini`. -/
def bufferFlusherFini (w : EglWorld) : Option EglWorld :=
  match w.tizenSurfaceShm with
  | some n =>
      (w.onConnection (·.destroy (.global n))).map
        (·.modifyData fun d => { d with tizenSurfaceShm := none })
  | none => some w

/-- What the failed `init` and the `fini` of a display release. -/
def releaseDisplay (w : EglWorld) : Option EglWorld :=
  (if w.field (·.tdmClient) then w.closeHandle .tdmClient else some w).bind fun w =>
    (if w.field (·.wlTbm) && w.field (·.wlTbmEventQueue) then
      w.onConnection (·.setQueue .wlTbm none) else some w).bind fun w =>
        (if w.field (·.wlTbmEventQueue) then w.onConnection (·.destroyQueue .wlTbm)
          else some w).bind fun w =>
            (if w.field (·.wlTbmClient) then w.tbmClientDeinit else some w).bind fun w =>
              (w.closeHandle .backendData).map (·.setData none)

/-- `free_wl_display` of `__tpl_wayland_egl_display_init`. -/
def freeWlDisplay (w : EglWorld) : Option (TplResult × EglWorld) :=
  (releaseDisplay w).map (.errorInvalidOperation, ·)

/-- The end of `__tpl_wayland_egl_display_init`. -/
def initFlusher (o : EglOutcomes) (w : EglWorld) : Option (TplResult × EglWorld) :=
  (bufferFlusherInit o w).map (.errorNone, ·)

/-- `__tpl_wayland_egl_display_init`. -/
def waylandEglDisplayInit (o : EglOutcomes) (w : EglWorld) : Option (TplResult × EglWorld) :=
  match o.native with
  | none => some (.errorInvalidParameter, w)
  | some native =>
      if o.calloc = false then some (.errorOutOfMemory, w)
      else
        (w.openHandle .backendData).bind fun w =>
          let w := w.setData (some ⟨false, false, false, false, none⟩)
          if isWlDisplay native = false then freeWlDisplay w
          else if o.tbmClientInit = false then freeWlDisplay w
          else
            w.tbmClientInit.bind fun w =>
              let w := w.modifyData fun d => { d with wlTbmClient := true }
              if o.getWlTbm = false then freeWlDisplay w
              else
                let w := w.modifyData fun d => { d with wlTbm := true }
                if o.createQueue = false then freeWlDisplay w
                else
                  (w.onConnection (·.createQueue .wlTbm)).bind fun w =>
                    let w := w.modifyData fun d => { d with wlTbmEventQueue := true }
                    (w.onConnection (·.setQueue .wlTbm (some .wlTbm))).bind fun w =>
                      if o.waitVblank.all (· ≠ 0) then
                        if o.tdmClientCreate = false then freeWlDisplay w
                        else
                          (w.openHandle .tdmClient).bind fun w =>
                            initFlusher o (w.modifyData fun d => { d with tdmClient := true })
                      else initFlusher o w

/-- `__tpl_wayland_egl_display_fini`. -/
def waylandEglDisplayFini (w : EglWorld) : Option EglWorld :=
  match w.backendData with
  | some _ => (bufferFlusherFini w).bind releaseDisplay
  | none => some w

def waylandEgl (o : EglOutcomes) : DisplayBackend TplWaylandEglDisplay where
  init := waylandEglDisplayInit o
  fini := waylandEglDisplayFini

/-- Whether each `tizen_surface_shm` that the registry announces is bound, in their order. -/
def EglOutcomes.announced (o : EglOutcomes) : List Bool :=
  if o.createFlusherQueue && o.getRegistry && o.addListener then
    binds "tizen_surface_shm" o.globals
  else []

theorem dispatchGlobals_eq (w : EglWorld) (h : Listening (some .registry) w) (gs : List Global) :
    dispatchGlobals w gs =
      some (w.bindAll shmSlot (some .registry) (binds "tizen_surface_shm" gs)) := by
  induction gs generalizing w with
  | nil => exact congrArg some (World.bindAll_nil _ _).symm
  | cons g gs ih =>
      rw [dispatchGlobals, registryGlobalCallback, globalCallback_eq _ _ h, Option.bind_some,
        ih _ (h.bindAll _ _), World.bindAll_append, ← binds_cons]

/-- The objects that are left of those that were bound. -/
def EglOutcomes.globalAt (o : EglOutcomes) (n : Nat) : Option (Option EventQueue) :=
  if n < o.announced.count true then
    some (if keptFrom 0 none o.announced = some n ∧ o.roundtrip = true then none
      else some .registry)
  else none

/-- Before `__tpl_wayland_egl_display_buffer_flusher_init`. -/
structure Unflushed (w : EglWorld) : Prop where
  registry : w.connection.proxies .registry = none
  globals : ∀ n, w.connection.proxies (.global n) = none
  queue : w.connection.queues .registry = false
  bound : w.bound = 0
  shm : ∀ d ∈ w.backendData, d.tizenSurfaceShm = none

/-- What `__tpl_wayland_egl_display_buffer_flusher_init` makes of `w`. -/
structure Flushed (o : EglOutcomes) (w w' : EglWorld) : Prop where
  handles : w'.handles = w.handles
  registered : w'.registered = w.registered
  queues : w'.connection.queues = w.connection.queues
  data : w'.backendData =
    w.backendData.map fun d => { d with tizenSurfaceShm := keptFrom 0 none o.announced }
  wlTbm : w'.connection.proxies .wlTbm = w.connection.proxies .wlTbm
  registry : w'.connection.proxies .registry = none
  globals : ∀ n, w'.connection.proxies (.global n) = o.globalAt n

theorem flusherInitFini_eq {w : EglWorld} (hqueue : w.connection.queues .registry = true)
    (hregistry : w.connection.proxies .registry ≠ none) :
    flusherInitFini w = some { w with
      connection := ⟨Function.update w.connection.proxies .registry none,
        Function.update w.connection.queues .registry false⟩ } := by
  have hregistry' : (⟨w.connection.proxies, Function.update w.connection.queues .registry false⟩ :
      Connection Proxy EventQueue).proxies .registry ≠ none := hregistry
  simp only [flusherInitFini, World.onConnection, Connection.destroyQueue_eq hqueue,
    Option.map_some, Option.bind_some, Connection.destroy_eq hregistry']

theorem reset_queue {w : EglWorld} (h : w.connection.queues .registry = false) :
    Function.update (Function.update w.connection.queues .registry true) .registry false =
      w.connection.queues := by
  rw [Function.update_idem, ← h, Function.update_eq_self]

theorem Flushed.of_nothing {o : EglOutcomes} {w : EglWorld} (h : Unflushed w)
    (hannounced : o.announced = []) {c : Connection Proxy EventQueue}
    (hproxies : c.proxies = w.connection.proxies) (hqueues : c.queues = w.connection.queues) :
    Flushed o w { w with connection := c } := by
  refine ⟨rfl, rfl, hqueues, ?_, congrFun hproxies _, ?_, fun n => ?_⟩
  · rw [hannounced]
    cases hdata : w.backendData with
    | none => rfl
    | some d =>
        have hshm := h.shm d hdata
        obtain ⟨_, _, _, _, _⟩ := d
        obtain rfl := hshm
        rfl
  · rw [hproxies]
    exact h.registry
  · rw [hproxies, h.globals]
    simp [EglOutcomes.globalAt, hannounced]

structure Dispatched (o : EglOutcomes) (w x : EglWorld) : Prop where
  handles : x.handles = w.handles
  registered : x.registered = w.registered
  queues : x.connection.queues = Function.update w.connection.queues .registry true
  data : x.backendData =
    w.backendData.map fun d => { d with tizenSurfaceShm := keptFrom 0 none o.announced }
  wlTbm : x.connection.proxies .wlTbm = w.connection.proxies .wlTbm
  registry : x.connection.proxies .registry = some (some .registry)
  globals : ∀ n, x.connection.proxies (.global n) =
    if n < o.announced.count true then some (some .registry) else none

theorem dispatched_dispatchGlobals {o : EglOutcomes} {w : EglWorld} (h : Unflushed w)
    (hannounced : o.announced = binds "tizen_surface_shm" o.globals) :
    ∃ x, dispatchGlobals { w with
        connection := ⟨Function.update w.connection.proxies .registry (some (some .registry)),
          Function.update w.connection.queues .registry true⟩ } o.globals = some x ∧
      Dispatched o w x := by
  rw [dispatchGlobals_eq]
  · refine ⟨_, rfl, rfl, rfl, rfl, ?_, ?_, ?_, fun n => ?_⟩
    · rw [hannounced, h.bound]
      cases hdata : w.backendData with
      | none => rfl
      | some d =>
          simp [World.bindAll, shmSlot, h.shm d hdata]
    · simp [World.bindAll, addGlobals]
    · simp [World.bindAll, addGlobals]
    · rw [hannounced]
      simp [World.bindAll, addGlobals, h.globals, h.bound]
  · refine ⟨?_, fun n _ => ?_⟩
    · simp
    · simpa using h.globals n

/-- The registry and its queue go. -/
theorem flushed_fini {o : EglOutcomes} {w x y : EglWorld} (h : Unflushed w)
    (hx : Dispatched o w x) (hdata : y.backendData = x.backendData)
    (hhandles : y.handles = x.handles) (hregistered : y.registered = x.registered)
    (hqueues : y.connection.queues = x.connection.queues)
    (hwlTbm : y.connection.proxies .wlTbm = x.connection.proxies .wlTbm)
    (hregistry : y.connection.proxies .registry = x.connection.proxies .registry)
    (hglobals : ∀ n, y.connection.proxies (.global n) = o.globalAt n) :
    ∃ w', flusherInitFini y = some w' ∧ Flushed o w w' := by
  rw [flusherInitFini_eq (by rw [hqueues, hx.queues, Function.update_self])
    (by simp [hregistry, hx.registry])]
  refine ⟨_, rfl, ⟨hhandles.trans hx.handles, hregistered.trans hx.registered, ?_,
    hdata.trans hx.data, ?_, ?_, fun n => ?_⟩⟩
  · show Function.update y.connection.queues .registry false = _
    rw [hqueues, hx.queues]
    exact reset_queue h.queue
  · show Function.update y.connection.proxies .registry none .wlTbm = _
    rw [Function.update_of_ne (by decide), hwlTbm, hx.wlTbm]
  · simp
  · show Function.update y.connection.proxies .registry none (.global n) = _
    rw [Function.update_of_ne (by simp), hglobals]

theorem flushed_dispatched {o : EglOutcomes} {w x : EglWorld} (h : Unflushed w)
    (hdata : w.backendData.isSome = true) (hx : Dispatched o w x) :
    ∃ w', (if o.roundtrip = false then flusherInitFini x
        else
          match x.tizenSurfaceShm with
          | some n => (x.onConnection (·.setQueue (.global n) none)).bind flusherInitFini
          | none => flusherInitFini x) = some w' ∧ Flushed o w w' := by
  have hshm : x.tizenSurfaceShm = keptFrom 0 none o.announced := by
    obtain ⟨d, hd⟩ := Option.isSome_iff_exists.mp hdata
    rw [EglWorld.tizenSurfaceShm, hx.data, hd]
    rfl
  cases hroundtrip : o.roundtrip with
  | false =>
      refine flushed_fini h hx rfl rfl rfl rfl rfl rfl fun n => ?_
      rw [hx.globals, EglOutcomes.globalAt, hroundtrip]
      simp
  | true =>
      rw [if_neg (by decide), hshm]
      cases hkept : keptFrom 0 none o.announced with
      | none =>
          refine flushed_fini h hx rfl rfl rfl rfl rfl rfl fun n => ?_
          rw [hx.globals, EglOutcomes.globalAt, hkept]
          simp
      | some m =>
          have hm := keptFrom_lt hkept
          have hglobal : x.connection.proxies (.global m) ≠ none := by simp [hx.globals, hm]
          simp only [World.onConnection, Connection.setQueue_eq hglobal (Option.all_none),
            Option.map_some, Option.bind_some]
          refine flushed_fini h hx rfl rfl rfl rfl ?_ ?_ fun n => ?_
          · simp
          · simp
          · rw [EglOutcomes.globalAt, hkept, hroundtrip]
            by_cases hnm : n = m
            · subst hnm
              simp [hm]
            · simp [hnm, Ne.symm hnm, hx.globals]

theorem bufferFlusherInit_flushed (o : EglOutcomes) {w : EglWorld} (h : Unflushed w)
    (hdata : w.backendData.isSome = true) :
    ∃ w', bufferFlusherInit o w = some w' ∧ Flushed o w w' := by
  unfold bufferFlusherInit
  cases hcreate : o.createFlusherQueue with
  | false =>
      have hannounced : o.announced = [] := by simp [EglOutcomes.announced, hcreate]
      exact ⟨w, if_pos rfl, .of_nothing h hannounced rfl rfl⟩
  | true =>
      simp only [Bool.true_eq_false, if_false, World.onConnection,
        Connection.createQueue_eq h.queue, Option.map_some, Option.bind_some]
      cases hregistry : o.getRegistry with
      | false =>
          have hannounced : o.announced = [] := by simp [EglOutcomes.announced, hregistry]
          rw [if_pos rfl, Connection.destroyQueue_eq (by simp)]
          exact ⟨_, rfl, .of_nothing h hannounced rfl (reset_queue h.queue)⟩
      | true =>
          have hfree : (⟨w.connection.proxies, Function.update w.connection.queues .registry true⟩ :
              Connection Proxy EventQueue).proxies .registry = none := h.registry
          simp only [Bool.true_eq_false, if_false, Connection.create_eq hfree, Option.map_some,
            Option.bind_some]
          rw [Connection.setQueue_eq (by simp) (by simp)]
          simp only [Option.map_some, Option.bind_some, Function.update_idem]
          cases hlistener : o.addListener with
          | false =>
              have hannounced : o.announced = [] := by simp [EglOutcomes.announced, hlistener]
              rw [if_pos rfl, flusherInitFini_eq (by simp) (by simp)]
              refine ⟨_, rfl, .of_nothing h hannounced ?_ (reset_queue h.queue)⟩
              show Function.update (Function.update w.connection.proxies _ _) _ _ = _
              rw [Function.update_idem, ← h.registry, Function.update_eq_self]
          | true =>
              have hannounced : o.announced = binds "tizen_surface_shm" o.globals := by
                simp [EglOutcomes.announced, hcreate, hregistry, hlistener]
              simp only [Bool.true_eq_false, if_false]
              obtain ⟨x, hx, hdispatched⟩ := dispatched_dispatchGlobals h hannounced
              rw [hx, Option.bind_some]
              exact flushed_dispatched h hdata hdispatched

/-- `__tpl_wayland_egl_display_init` between its calls. -/
def initializing (wlTbmClient wlTbm wlTbmEventQueue tdmClient : Bool) : EglWorld where
  connection := {
    proxies := fun
      | .wlTbm => if wlTbmClient then some (if wlTbmEventQueue then some .wlTbm else none) else none
      | _ => none
    queues := fun | .wlTbm => wlTbmEventQueue | .registry => false }
  handles := fun
    | .tbmClient => wlTbmClient
    | .tdmClient => tdmClient
    | _ => true
  registered := false
  backendData := some ⟨wlTbmClient, wlTbm, wlTbmEventQueue, tdmClient, none⟩
  bound := 0

theorem eq_initializing {w : EglWorld} {wlTbmClient wlTbm wlTbmEventQueue tdmClient : Bool}
    (hproxies : ∀ p, w.connection.proxies p = (initializing wlTbmClient wlTbm wlTbmEventQueue
      tdmClient).connection.proxies p)
    (hqueues : ∀ q, w.connection.queues q = (initializing wlTbmClient wlTbm wlTbmEventQueue
      tdmClient).connection.queues q)
    (hhandles : ∀ h, w.handles h = (initializing wlTbmClient wlTbm wlTbmEventQueue
      tdmClient).handles h)
    (hregistered : w.registered = false)
    (hdata : w.backendData = some ⟨wlTbmClient, wlTbm, wlTbmEventQueue, tdmClient, none⟩)
    (hbound : w.bound = 0) : w = initializing wlTbmClient wlTbm wlTbmEventQueue tdmClient := by
  have hconnection : w.connection =
      (initializing wlTbmClient wlTbm wlTbmEventQueue tdmClient).connection :=
    Connection.ext (funext hproxies) (funext hqueues)
  exact World.ext hconnection (funext hhandles) hregistered hdata hbound

theorem openHandle_backendData : ∃ w, opened.openHandle .backendData = some w ∧
    w.setData (some ⟨false, false, false, false, none⟩) = initializing false false false false := by
  refine ⟨_, rfl, eq_initializing ?_ ?_ ?_ rfl rfl rfl⟩
  · rintro (_ | _ | n) <;> rfl
  · rintro (_ | _) <;> rfl
  · rintro (_ | _ | _ | _ | _) <;> rfl

theorem tbmClientInit_initializing :
    ∃ w, (initializing false false false false).tbmClientInit = some w ∧
      (w.modifyData fun d => { d with wlTbmClient := true }) =
        initializing true false false false := by
  refine ⟨_, rfl, eq_initializing ?_ ?_ ?_ rfl rfl rfl⟩
  · rintro (_ | _ | n) <;> rfl
  · rintro (_ | _) <;> rfl
  · rintro (_ | _ | _ | _ | _) <;> rfl

theorem createQueue_initializing :
    ∃ w, (initializing true true false false).onConnection (·.createQueue .wlTbm) = some w ∧
      (w.modifyData fun d => { d with wlTbmEventQueue := true }).onConnection
        (·.setQueue .wlTbm (some .wlTbm)) = some (initializing true true true false) := by
  refine ⟨_, rfl, congrArg some (eq_initializing ?_ ?_ ?_ rfl rfl rfl)⟩
  · rintro (_ | _ | n) <;> rfl
  · rintro (_ | _) <;> rfl
  · rintro (_ | _ | _ | _ | _) <;> rfl

theorem openHandle_tdmClient :
    ∃ w, (initializing true true true false).openHandle .tdmClient = some w ∧
      (w.modifyData fun d => { d with tdmClient := true }) = initializing true true true true := by
  refine ⟨_, rfl, eq_initializing ?_ ?_ ?_ rfl rfl rfl⟩
  · rintro (_ | _ | n) <;> rfl
  · rintro (_ | _) <;> rfl
  · rintro (_ | _ | _ | _ | _) <;> rfl

theorem freeWlDisplay_initializing (wlTbmClient wlTbm wlTbmEventQueue : Bool)
    (hwlTbm : wlTbm = true → wlTbmClient = true)
    (hqueue : wlTbmEventQueue = true → wlTbm = true) :
    freeWlDisplay (initializing wlTbmClient wlTbm wlTbmEventQueue false) =
      some (.errorInvalidOperation, opened) := by
  have hopened : ∀ {w : EglWorld}, w = opened →
      some (TplResult.errorInvalidOperation, w) = some (.errorInvalidOperation, opened) :=
    fun hw => by rw [hw]
  cases wlTbmEventQueue with
  | true =>
      obtain rfl := hqueue rfl
      obtain rfl := hwlTbm rfl
      refine hopened (eq_opened ?_ ?_ ?_ rfl rfl rfl)
      · rintro (_ | _ | n) <;> rfl
      · rintro (_ | _) <;> rfl
      · rintro (_ | _ | _ | _ | _) <;> rfl
  | false =>
      cases wlTbmClient with
      | true =>
          cases wlTbm with
          | true | false =>
              refine hopened (eq_opened ?_ ?_ ?_ rfl rfl rfl)
              · rintro (_ | _ | n) <;> rfl
              · rintro (_ | _) <;> rfl
              · rintro (_ | _ | _ | _ | _) <;> rfl
      | false =>
          have hfalse : wlTbm = false := Bool.eq_false_iff.mpr fun h => by cases hwlTbm h
          subst hfalse
          refine hopened (eq_opened ?_ ?_ ?_ rfl rfl rfl)
          · rintro (_ | _ | n) <;> rfl
          · rintro (_ | _) <;> rfl
          · rintro (_ | _ | _ | _ | _) <;> rfl

def EglOutcomes.reachesFlusher (o : EglOutcomes) : Bool :=
  o.native.any isWlDisplay && o.calloc && o.tbmClientInit && o.getWlTbm && o.createQueue &&
    (!o.waitVblank.all (· ≠ 0) || o.tdmClientCreate)

theorem unflushed_initializing (tdmClient : Bool) :
    Unflushed (initializing true true true tdmClient) :=
  ⟨rfl, fun _ => rfl, rfl, rfl, by rintro _ ⟨⟩; rfl⟩

theorem initializing_cases (o : EglOutcomes) (tdmClient : Bool) :
    ∃ w, initFlusher o (initializing true true true tdmClient) = some (.errorNone, w) ∧
      Flushed o (initializing true true true tdmClient) w := by
  obtain ⟨w, hw, hflushed⟩ :=
    bufferFlusherInit_flushed o (unflushed_initializing tdmClient) rfl
  exact ⟨w, by rw [initFlusher, hw, Option.map_some], hflushed⟩

theorem waylandEglDisplayInit_cases (o : EglOutcomes) :
    (o.reachesFlusher = false ∧ ∃ r, r ≠ .errorNone ∧
      waylandEglDisplayInit o opened = some (r, opened)) ∨
    (o.reachesFlusher = true ∧ ∃ w,
      waylandEglDisplayInit o opened = some (.errorNone, w) ∧
        Flushed o (initializing true true true (o.waitVblank.all (· ≠ 0))) w) := by
  unfold waylandEglDisplayInit EglOutcomes.reachesFlusher
  cases o.native with
  | none => exact Or.inl ⟨rfl, .errorInvalidParameter, by decide, rfl⟩
  | some native =>
  cases o.calloc with
  | false => exact Or.inl ⟨by simp, .errorOutOfMemory, by decide, rfl⟩
  | true =>
  obtain ⟨w, hw, hdata⟩ := openHandle_backendData
  simp only [Bool.true_eq_false, if_false, hw, Option.bind_some, hdata, Option.any_some]
  cases isWlDisplay native with
  | false =>
      refine Or.inl ⟨rfl, .errorInvalidOperation, by decide, ?_⟩
      exact freeWlDisplay_initializing false false false id id
  | true =>
  cases o.tbmClientInit with
  | false =>
      refine Or.inl ⟨rfl, .errorInvalidOperation, by decide, ?_⟩
      exact freeWlDisplay_initializing false false false id id
  | true =>
  obtain ⟨w, hw, hclient⟩ := tbmClientInit_initializing
  simp only [Bool.true_eq_false, if_false, hw, Option.bind_some, hclient]
  cases o.getWlTbm with
  | false =>
      refine Or.inl ⟨rfl, .errorInvalidOperation, by decide, ?_⟩
      exact freeWlDisplay_initializing true false false nofun id
  | true =>
  have hwlTbm : ((initializing true false false false).modifyData fun d =>
      { d with wlTbm := true }) = initializing true true false false := rfl
  simp only [Bool.true_eq_false, if_false, hwlTbm]
  cases o.createQueue with
  | false =>
      refine Or.inl ⟨rfl, .errorInvalidOperation, by decide, ?_⟩
      exact freeWlDisplay_initializing true true false id nofun
  | true =>
  obtain ⟨w, hw, hqueue⟩ := createQueue_initializing
  simp only [Bool.true_eq_false, if_false, hw, Option.bind_some, hqueue]
  cases o.waitVblank.all (· ≠ 0) with
  | false => exact Or.inr ⟨rfl, initializing_cases o false⟩
  | true =>
  cases o.tdmClientCreate with
  | false =>
      refine Or.inl ⟨rfl, .errorInvalidOperation, by decide, ?_⟩
      exact freeWlDisplay_initializing true true true id id
  | true =>
      obtain ⟨w, hw, htdm⟩ := openHandle_tdmClient
      simp only [Bool.true_eq_false, if_false, if_true, hw, Option.bind_some, htdm]
      exact Or.inr ⟨rfl, initializing_cases o true⟩

/-- A display between its `init` and its `fini`. -/
structure Created (o : EglOutcomes) (w : EglWorld) : Prop where
  data : w.backendData = some ⟨true, true, true, o.waitVblank.all (· ≠ 0),
    keptFrom 0 none o.announced⟩
  backendData : w.handles .backendData = true
  tbmClient : w.handles .tbmClient = true
  tdmClient : w.handles .tdmClient = o.waitVblank.all (· ≠ 0)
  queue : w.connection.queues .wlTbm = true
  registryQueue : w.connection.queues .registry = false
  wlTbm : w.connection.proxies .wlTbm = some (some .wlTbm)
  registry : w.connection.proxies .registry = none
  globals : ∀ n, w.connection.proxies (.global n) = o.globalAt n

/-- After the `fini`. -/
structure Finished (o : EglOutcomes) (w w' : EglWorld) : Prop where
  data : w'.backendData = none
  registered : w'.registered = w.registered
  display : w'.handles .display = w.handles .display
  mutex : w'.handles .mutex = w.handles .mutex
  backendData : w'.handles .backendData = false
  tbmClient : w'.handles .tbmClient = false
  tdmClient : w'.handles .tdmClient = false
  queues : ∀ q, w'.connection.queues q = false
  wlTbm : w'.connection.proxies .wlTbm = none
  registry : w'.connection.proxies .registry = none
  globals : ∀ n, w'.connection.proxies (.global n) =
    if keptFrom 0 none o.announced = some n then none else o.globalAt n

theorem Created.of_flushed {o : EglOutcomes} {w : EglWorld}
    (h : Flushed o (initializing true true true (o.waitVblank.all (· ≠ 0))) w) : Created o w where
  data := h.data
  backendData := by rw [h.handles]; rfl
  tbmClient := by rw [h.handles]; rfl
  tdmClient := by rw [h.handles]; rfl
  queue := by rw [h.queues]; rfl
  registryQueue := by rw [h.queues]; rfl
  wlTbm := h.wlTbm
  registry := h.registry
  globals := h.globals

theorem releaseDisplay_eq {w : EglWorld} {vblank : Bool} {shm : Option Nat}
    (hdata : w.backendData = some ⟨true, true, true, vblank, shm⟩)
    (hbackendData : w.handles .backendData = true) (htbmClient : w.handles .tbmClient = true)
    (htdmClient : w.handles .tdmClient = vblank) (hqueue : w.connection.queues .wlTbm = true)
    (hwlTbm : w.connection.proxies .wlTbm = some (some .wlTbm)) :
    releaseDisplay w = some { w with
      connection := ⟨Function.update w.connection.proxies .wlTbm none,
        Function.update w.connection.queues .wlTbm false⟩
      handles := fun
        | .backendData | .tbmClient | .tdmClient => false
        | h => w.handles h
      backendData := none } := by
  have hhandles : Function.update (Function.update (Function.update w.handles .tdmClient false)
      .tbmClient false) .backendData false = fun
        | .backendData | .tbmClient | .tdmClient => false
        | h => w.handles h := by
    funext h
    cases h <;> rfl
  cases vblank with
  | true =>
      simp [releaseDisplay, World.field, World.closeHandle, World.onConnection,
        Connection.setQueue_eq, Connection.destroyQueue_eq, Connection.destroy_eq,
        World.tbmClientDeinit,
        World.setData, hdata, hbackendData, htbmClient, htdmClient, hqueue, hwlTbm, hhandles]
  | false =>
      have hsame : Function.update w.handles .tdmClient false = w.handles := by
        rw [← htdmClient, Function.update_eq_self]
      rw [hsame] at hhandles
      simp [releaseDisplay, World.field, World.closeHandle, World.onConnection,
        Connection.setQueue_eq, Connection.destroyQueue_eq, Connection.destroy_eq,
        World.tbmClientDeinit,
        World.setData, hdata, hbackendData, htbmClient, hqueue, hwlTbm, hhandles]

theorem bufferFlusherFini_created {o : EglOutcomes} {w : EglWorld} (h : Created o w) :
    ∃ c, bufferFlusherFini w = some { w with
        connection := c
        backendData :=
          some ⟨true, true, true, o.waitVblank.all (· ≠ 0), none⟩ } ∧
      c.queues = w.connection.queues ∧ c.proxies .wlTbm = some (some .wlTbm) ∧
      c.proxies .registry = none ∧ ∀ n, c.proxies (.global n) =
        if keptFrom 0 none o.announced = some n then none else o.globalAt n := by
  have hshm : w.tizenSurfaceShm = keptFrom 0 none o.announced := by
    rw [EglWorld.tizenSurfaceShm, h.data]
    rfl
  unfold bufferFlusherFini
  rw [hshm]
  cases hkept : keptFrom 0 none o.announced with
  | none =>
      have hdata := h.data
      rw [hkept] at hdata
      refine ⟨w.connection, ?_, rfl, h.wlTbm, h.registry, fun n => ?_⟩
      · rw [← hdata]
      · rw [if_neg (by simp), h.globals]
  | some m =>
      have hm : w.connection.proxies (.global m) ≠ none := by
        rw [h.globals, EglOutcomes.globalAt, if_pos (keptFrom_lt hkept)]
        simp
      simp only [World.onConnection, Connection.destroy_eq hm, Option.map_some,
        World.modifyData, h.data]
      refine ⟨_, rfl, rfl, ?_, ?_, fun n => ?_⟩
      · simp [h.wlTbm]
      · simp [h.registry]
      · by_cases hnm : n = m
        · subst hnm
          simp
        · simp [hnm, Ne.symm hnm, h.globals]

theorem waylandEglDisplayFini_created {o : EglOutcomes} {w : EglWorld} (h : Created o w) :
    ∃ w', waylandEglDisplayFini w = some w' ∧ Finished o w w' := by
  obtain ⟨c, hflusher, hqueues, hwlTbm, hregistry, hglobals⟩ := bufferFlusherFini_created h
  rw [waylandEglDisplayFini, h.data]
  simp only [hflusher, Option.bind_some]
  refine ⟨_, releaseDisplay_eq rfl h.backendData h.tbmClient h.tdmClient
    ((congrFun hqueues _).trans h.queue) hwlTbm,
    ⟨rfl, rfl, rfl, rfl, rfl, rfl, rfl, ?_, ?_, ?_, fun n => ?_⟩⟩
  · rintro (_ | _)
    · simp
    · simp [hqueues, h.registryQueue]
  · simp
  · simp [hregistry]
  · simp [hglobals]

theorem Created.of_handles {o : EglOutcomes} {w w' : EglWorld} (h : Created o w)
    (hconnection : w'.connection = w.connection) (hdata : w'.backendData = w.backendData)
    (hhandles : ∀ x, x ≠ .mutex → w'.handles x = w.handles x) : Created o w' where
  data := hdata.trans h.data
  backendData := (hhandles _ (by decide)).trans h.backendData
  tbmClient := (hhandles _ (by decide)).trans h.tbmClient
  tdmClient := (hhandles _ (by decide)).trans h.tdmClient
  queue := by rw [hconnection, h.queue]
  registryQueue := by rw [hconnection, h.registryQueue]
  wlTbm := by rw [hconnection, h.wlTbm]
  registry := by rw [hconnection, h.registry]
  globals := fun n => by rw [hconnection, h.globals]

theorem unreference_created {o : EglOutcomes} {w : EglWorld} (h : Created o w)
    (hdisplay : w.handles .display = true) (hmutex : w.handles .mutex = true) :
    ∃ w', unreference (waylandEgl o) w = some w' ∧
      (NothingLeft w' ↔ true ∉ o.announced.dropLast) := by
  have hcreated : Created o { w with handles := Function.update w.handles .mutex false } :=
    h.of_handles rfl rfl fun x hx => Function.update_of_ne hx _ _
  obtain ⟨y, hfini, hfinished⟩ := waylandEglDisplayFini_created hcreated
  have hy : y.handles .display = true := by rw [hfinished.display]; exact hdisplay
  refine ⟨{ y with registered := false, handles := Function.update y.handles .display false },
    ?_, ?_⟩
  · simp only [unreference, World.closeHandle, hmutex, if_true, Option.bind_some]
    rw [show (waylandEgl o).fini = waylandEglDisplayFini from rfl, hfini]
    simp only [Option.bind_some, hy, if_true]
  · rw [← allKept_iff]
    constructor
    · intro hnothing n hn
      by_contra hkept
      have hgone := hnothing.proxies (.global n)
      have hleft := hfinished.globals n
      rw [if_neg hkept, EglOutcomes.globalAt, if_pos hn] at hleft
      rw [show y.connection.proxies (.global n) = none from hgone] at hleft
      cases hleft
    · intro hkept
      refine ⟨?_, hfinished.queues, ?_, rfl, hfinished.data⟩
      · rintro (_ | _ | n)
        · exact hfinished.wlTbm
        · exact hfinished.registry
        · rw [show World.connection _ = y.connection from rfl, hfinished.globals,
            EglOutcomes.globalAt]
          split
          · rfl
          · rename_i hne
            exact if_neg fun hn => hne (hkept n hn)
      · rintro (_ | _ | _ | _ | _)
        · rfl
        · show Function.update y.handles .display false .mutex = false
          rw [Function.update_of_ne (by decide), hfinished.mutex]
          rfl
        · exact hfinished.backendData
        · exact hfinished.tbmClient
        · exact hfinished.tdmClient

theorem attached_created {o : EglOutcomes} {w : EglWorld} (h : Created o w)
    (hkept : true ∉ o.announced.dropLast) :
    w.connection.Attached ↔ (true ∈ o.announced → o.roundtrip = true) := by
  rw [← allKept_iff] at hkept
  constructor
  · intro hattached hmem
    have hcount : 0 < o.announced.count true := List.count_pos_iff.mpr hmem
    by_contra hroundtrip
    have hglobal := h.globals 0
    rw [EglOutcomes.globalAt, if_pos hcount, if_neg fun hboth => hroundtrip hboth.2] at hglobal
    have hqueue := hattached _ _ hglobal
    rw [h.registryQueue] at hqueue
    cases hqueue
  · rintro hroundtrip (_ | _ | n) q hq
    · rw [h.wlTbm] at hq
      cases hq
      exact h.queue
    · rw [h.registry] at hq
      cases hq
    · rw [h.globals, EglOutcomes.globalAt] at hq
      split at hq
      · rename_i hn
        have hmem : true ∈ o.announced := List.count_pos_iff.mp (Nat.zero_lt_of_lt hn)
        rw [if_pos ⟨hkept n hn, hroundtrip hmem⟩] at hq
        cases hq
      · cases hq

/-- The registry announces no `tizen_surface_shm` after one that was bound, and the roundtrip
that has bound one for a display that is created does not fail. -/
def OneShm (f : FrontendOutcomes) (o : EglOutcomes) : Prop :=
  f.calloc = true ∧ f.objectInit = true ∧ o.reachesFlusher = true →
    true ∉ o.announced.dropLast ∧
      (f.addDisplay = true → true ∈ o.announced → o.roundtrip = true)

theorem waylandEglDisplayFini_none {w : EglWorld} (h : w.backendData = none) :
    waylandEglDisplayFini w = some w := by
  rw [waylandEglDisplayFini, h]

/-- Whatever fails, a display of the wayland-egl backend is created and destroyed cleanly
exactly when the registry announces no `tizen_surface_shm` after one that was bound, and the
roundtrip that binds it succeeds. -/
theorem creation_clean_iff (f : FrontendOutcomes) (o : EglOutcomes) :
    Clean (waylandEgl o) (tplDisplayCreate (waylandEgl o) f nothingOpen) ↔ OneShm f o := by
  by_cases hopened : f.calloc = true ∧ f.objectInit = true
  · obtain ⟨hcalloc, hobjectInit⟩ := hopened
    rcases waylandEglDisplayInit_cases o with
      ⟨hreaches, r, hr, hinit⟩ | ⟨hreaches, w, hinit, hflushed⟩
    · have hclean : Clean (waylandEgl o) (tplDisplayCreate (waylandEgl o) f nothingOpen) :=
        clean_of_failed_init (fun _ => waylandEglDisplayFini_none) hcalloc hobjectInit hr hinit
      refine iff_of_true hclean fun h => ?_
      rw [hreaches] at h
      exact absurd h.2.2 (by decide)
    · have hcreated : Created o w := .of_flushed hflushed
      have hregistered : ∀ registered, Created o { w with registered := registered } :=
        fun _ => hcreated.of_handles rfl rfl fun _ _ => rfl
      rw [clean_of_init hcalloc hobjectInit hinit fun registered =>
        unreference_created (hregistered registered) (by rw [hflushed.handles]; rfl)
          (by rw [hflushed.handles]; rfl)]
      constructor
      · rintro ⟨hattached, hone⟩ -
        exact ⟨hone, fun hadd => (attached_created hcreated hone).mp (hattached hadd)⟩
      · intro h
        obtain ⟨hone, hroundtrip⟩ := h ⟨hcalloc, hobjectInit, hreaches⟩
        exact ⟨fun hadd => (attached_created hcreated hone).mpr (hroundtrip hadd), hone⟩
  · exact iff_of_true (clean_of_not_opened hopened) fun h => absurd ⟨h.1, h.2.1⟩ hopened

end LibtplEgl.WaylandEglDisplay
