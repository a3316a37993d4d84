import LibtplEgl.DisplayCreation
import LibtplEgl.PresentationOrder

namespace LibtplEgl.WaylandVkWsiDisplay

open LibtplEgl.DisplayCreation
open LibtplEgl.ProxyQueues
open LibtplEgl.TplTypes

/-- A `tpl_wayland_vk_wsi_display_t`, and the object that its `wayland_vulkan` listener is
on. -/
structure TplWaylandVkWsiDisplay where
  wlTbmClient : Bool
  minBuffer : Nat
  maxBuffer : Nat
  presentModes : Nat
  wlVkClient : Option Nat
  listened : Option Nat
  deriving DecidableEq, Repr

/-- The events of the registry and of the objects that it binds. -/
inductive Event
  | global (g : Global)
  | globalRemove
  | supportedPresentMode (n mode : Nat)
  deriving DecidableEq, Repr

structure VkOutcomes where
  native : Option Native
  calloc : Bool
  tbmClientInit : Bool
  getRegistry : Bool
  firstRoundtrip : List Event
  secondRoundtrip : List Event
  deriving DecidableEq, Repr

abbrev VkWorld := World TplWaylandVkWsiDisplay

/-- `CLIENT_QUEUE_SIZE`. -/
def clientQueueSize : Nat := 3

/-- The modes that the server may announce. -/
def presentModeOfType : Nat → Option TplDisplayPresentMode
  | 1 => some .immediate
  | 2 => some .mailbox
  | 3 => some .fifo
  | 4 => some .fifoRelaxed
  | _ => none

/-- `__tpl_wayland_vk_wsi_support_present_mode_listener`. -/
def supportPresentModeListener (d : TplWaylandVkWsiDisplay) (mode : Nat) :
    TplWaylandVkWsiDisplay :=
  match presentModeOfType mode with
  | some m => { d with presentModes := d.presentModes ||| m.bit }
  | none => d

/-- An event of an object: without the listener it is dropped. -/
def supportedPresentMode (n mode : Nat) (d : TplWaylandVkWsiDisplay) : TplWaylandVkWsiDisplay :=
  if d.listened = some n then supportPresentModeListener d mode else d

def vkSlot : Slot TplWaylandVkWsiDisplay where
  get := TplWaylandVkWsiDisplay.wlVkClient
  set := fun client d => { d with wlVkClient := client }
  get_set := fun _ _ => rfl
  set_get := fun _ => rfl
  set_set := fun _ _ _ => rfl

/-- `__tpl_wayland_vk_wsi_registry_handle_global`. -/
def registryHandleGlobal (w : VkWorld) (g : Global) : Option VkWorld :=
  globalCallback vkSlot "wayland_vulkan" w g

/-- The listener of the registry has no callback for a global that goes. -/
def dispatchEvent (w : VkWorld) : Event → Option VkWorld
  | .global g => registryHandleGlobal w g
  | .globalRemove => none
  | .supportedPresentMode n mode => some (w.modifyData (supportedPresentMode n mode))

def dispatchEvents (w : VkWorld) : List Event → Option VkWorld
  | [] => some w
  | e :: es => (dispatchEvent w e).bind fun w => dispatchEvents w es

/-- The `free` of a display. -/
def freeDisplay (w : VkWorld) : Option VkWorld :=
  (w.closeHandle .backendData).map (·.setData none)

/-- `free_wl_display` of `__tpl_wayland_vk_wsi_display_init`. -/
def freeWlDisplay (w : VkWorld) : Option (TplResult × VkWorld) :=
  (freeDisplay w).map (.errorInvalidOperation, ·)

/-- `wayland_vulkan_add_listener`. -/
def addVulkanListener (d : TplWaylandVkWsiDisplay) : TplWaylandVkWsiDisplay :=
  { d with listened := d.wlVkClient }

/-- `__tpl_wayland_vk_wsi_display_init`. The registry is not checked. -/
def waylandVkWsiDisplayInit (o : VkOutcomes) (w : VkWorld) : Option (TplResult × VkWorld) :=
  match o.native with
  | none => some (.errorInvalidParameter, w)
  | some native =>
      if o.calloc = false then some (.errorOutOfMemory, w)
      else
        (w.openHandle .backendData).bind fun w =>
          let w := w.setData (some
            ⟨false, 2, clientQueueSize, TplDisplayPresentMode.mailbox.bit, none, none⟩)
          if isWlDisplay native = false then freeWlDisplay w
          else if o.tbmClientInit = false then freeWlDisplay w
          else
            w.tbmClientInit.bind fun w =>
              let w := w.modifyData fun d => { d with wlTbmClient := true }
              if o.getRegistry = false then none
              else
                (w.onConnection (·.create .registry)).bind fun w =>
                  (dispatchEvents w o.firstRoundtrip).bind fun w =>
                    (dispatchEvents (w.modifyData addVulkanListener) o.secondRoundtrip).bind
                      fun w => (w.onConnection (·.destroy .registry)).map (.errorNone, ·)

/-- `wayland_vulkan_destroy`. -/
def destroyVkClient (w : VkWorld) : Option Nat → Option VkWorld
  | some n => w.onConnection (·.destroy (.global n))
  | none => some w

/-- `__tpl_wayland_vk_wsi_display_fini`. -/
def waylandVkWsiDisplayFini (w : VkWorld) : Option VkWorld :=
  match w.backendData with
  | some d =>
      w.tbmClientDeinit.bind fun w => (destroyVkClient w d.wlVkClient).bind freeDisplay
  | none => some w

def waylandVkWsi (o : VkOutcomes) : DisplayBackend TplWaylandVkWsiDisplay where
  init := waylandVkWsiDisplayInit o
  fini := waylandVkWsiDisplayFini

/-- `__tpl_wayland_vk_wsi_display_query_window_supported_present_modes`, where the flag is
what `__tpl_worker_support_vblank` returns. -/
def queryWindowSupportedPresentModes (supportVblank : Bool) (w : VkWorld) : Option Nat :=
  w.backendData.map fun d =>
    let modes := TplDisplayPresentMode.mailbox.bit ||| TplDisplayPresentMode.immediate.bit |||
      d.presentModes
    if supportVblank then
      modes ||| (TplDisplayPresentMode.fifo.bit ||| TplDisplayPresentMode.fifoRelaxed.bit)
    else modes

def globals (es : List Event) : List Global :=
  es.filterMap fun
    | .global g => some g
    | _ => none

/-- Whether each `wayland_vulkan` that the registry announces is bound, in their order. -/
def vulkanBinds (es : List Event) : List Bool := binds "wayland_vulkan" (globals es)

theorem vulkanBinds_global (g : Global) (es : List Event) :
    vulkanBinds (.global g :: es) = binds "wayland_vulkan" [g] ++ vulkanBinds es :=
  binds_cons _ _ _

theorem vulkanBinds_append (es fs : List Event) :
    vulkanBinds (es ++ fs) = vulkanBinds es ++ vulkanBinds fs := by
  simp only [vulkanBinds, globals, binds, List.filterMap_append, List.filter_append,
    List.map_append]

/-- What a list of events makes of the modes of a display that listens to `listened`. -/
def announce (d : TplWaylandVkWsiDisplay) : List Event → TplWaylandVkWsiDisplay
  | [] => d
  | .supportedPresentMode n mode :: es => announce (supportedPresentMode n mode d) es
  | _ :: es => announce d es

theorem supportedPresentMode_eq (n mode : Nat) (d : TplWaylandVkWsiDisplay) :
    ∃ modes, supportedPresentMode n mode d = { d with presentModes := modes } := by
  unfold supportedPresentMode supportPresentModeListener
  split
  · split
    · exact ⟨_, rfl⟩
    · exact ⟨d.presentModes, rfl⟩
  · exact ⟨d.presentModes, rfl⟩

theorem supportedPresentMode_set (n mode : Nat) (client : Option Nat)
    (d : TplWaylandVkWsiDisplay) :
    supportedPresentMode n mode { d with wlVkClient := client } =
      { supportedPresentMode n mode d with wlVkClient := client } := by
  unfold supportedPresentMode supportPresentModeListener
  obtain ⟨_, _, _, _, _, listened⟩ := d
  by_cases hlistened : listened = some n
  · subst hlistened
    cases presentModeOfType mode with
    | none | some m => simp only [if_true]
  · simp only [hlistened, if_false]

theorem announce_set (client : Option Nat) (d : TplWaylandVkWsiDisplay) (es : List Event) :
    announce { d with wlVkClient := client } es = { announce d es with wlVkClient := client } := by
  induction es generalizing d with
  | nil => rfl
  | cons e es ih =>
      cases e with
      | global g => exact ih d
      | globalRemove => exact ih d
      | supportedPresentMode n mode => rw [announce, announce, supportedPresentMode_set, ih]

theorem announce_eq (d : TplWaylandVkWsiDisplay) (es : List Event) :
    ∃ modes, announce d es = { d with presentModes := modes } := by
  induction es generalizing d with
  | nil => exact ⟨d.presentModes, rfl⟩
  | cons e es ih =>
      cases e with
      | global g => exact ih d
      | globalRemove => exact ih d
      | supportedPresentMode n mode =>
          obtain ⟨modes, hmodes⟩ := supportedPresentMode_eq n mode d
          rw [announce, hmodes]
          exact ih _

theorem announce_of_not_listened {d : TplWaylandVkWsiDisplay} (h : d.listened = none)
    (es : List Event) : announce d es = d := by
  induction es with
  | nil => rfl
  | cons e es ih =>
      cases e with
      | global g => exact ih
      | globalRemove => exact ih
      | supportedPresentMode n mode =>
          rw [announce, supportedPresentMode, if_neg (by simp [h]), ih]

theorem dispatchEvents_eq {w : VkWorld} (h : Listening none w) {es : List Event}
    (hremove : .globalRemove ∉ es) :
    dispatchEvents w es =
      some ((w.bindAll vkSlot none (vulkanBinds es)).modifyData (announce · es)) := by
  induction es generalizing w with
  | nil =>
      have hdata : (w.modifyData fun d => announce d []) = w := by
        simp [World.modifyData, announce]
      rw [show vulkanBinds [] = [] from rfl, World.bindAll_nil, hdata, dispatchEvents]
  | cons e es ih =>
      have htail : .globalRemove ∉ es := fun hmem => hremove (List.mem_cons_of_mem _ hmem)
      cases e with
      | global g =>
          rw [dispatchEvents, dispatchEvent, registryHandleGlobal, globalCallback_eq _ _ h,
            Option.bind_some, ih (h.bindAll _ _) htail, World.bindAll_append, ← vulkanBinds_global]
          rfl
      | globalRemove => exact absurd List.mem_cons_self hremove
      | supportedPresentMode n mode =>
          have hlistening : Listening none (w.modifyData (supportedPresentMode n mode)) :=
            ⟨h.registry, h.unbound⟩
          rw [dispatchEvents, dispatchEvent, Option.bind_some, ih hlistening htail,
            World.bindAll_modifyData, World.modifyData_modifyData]
          · rfl
          · intro d
            obtain ⟨modes, hmodes⟩ := supportedPresentMode_eq n mode d
            rw [hmodes]
            rfl
          · exact fun kept d => (supportedPresentMode_set n mode kept d).symm

theorem dispatchEvents_globalRemove {w : VkWorld} (h : Listening none w) {es : List Event}
    (hremove : .globalRemove ∈ es) : dispatchEvents w es = none := by
  induction es generalizing w with
  | nil => cases hremove
  | cons e es ih =>
      rcases List.mem_cons.mp hremove with rfl | hmem
      · rfl
      · cases e with
        | global g =>
            rw [dispatchEvents, dispatchEvent, registryHandleGlobal, globalCallback_eq _ _ h,
              Option.bind_some, ih (h.bindAll _ _) hmem]
        | globalRemove => rfl
        | supportedPresentMode n mode =>
            have hlistening : Listening none (w.modifyData (supportedPresentMode n mode)) :=
              ⟨h.registry, h.unbound⟩
            rw [dispatchEvents, dispatchEvent, Option.bind_some, ih hlistening hmem]

/-- Whether each `wayland_vulkan` is bound while the display is made. -/
def VkOutcomes.announced (o : VkOutcomes) : List Bool :=
  vulkanBinds (o.firstRoundtrip ++ o.secondRoundtrip)

def VkOutcomes.listened (o : VkOutcomes) : Option Nat :=
  keptFrom 0 none (vulkanBinds o.firstRoundtrip)

def connected : VkWorld where
  connection := {
    proxies := fun | .wlTbm | .registry => some none | .global _ => none
    queues := fun _ => false }
  handles := fun | .tdmClient => false | _ => true
  registered := false
  backendData := some
    ⟨true, 2, clientQueueSize, TplDisplayPresentMode.mailbox.bit, none, none⟩
  bound := 0

/-- A display between its `init` and its `fini`. -/
structure Created (o : VkOutcomes) (w : VkWorld) : Prop where
  data : w.backendData = some (announce ⟨true, 2, clientQueueSize,
    TplDisplayPresentMode.mailbox.bit, keptFrom 0 none o.announced, o.listened⟩ o.secondRoundtrip)
  handles : w.handles = connected.handles
  queues : ∀ q, w.connection.queues q = false
  wlTbm : w.connection.proxies .wlTbm = some none
  registry : w.connection.proxies .registry = none
  globals : ∀ n, w.connection.proxies (.global n) =
    if n < o.announced.count true then some none else none

theorem listening_connected : Listening none connected := ⟨rfl, fun _ _ => rfl⟩

theorem openHandle_backendData : ∃ w, (opened : VkWorld).openHandle .backendData = some w ∧
    freeWlDisplay (w.setData (some
      ⟨false, 2, clientQueueSize, TplDisplayPresentMode.mailbox.bit, none, none⟩)) =
        some (.errorInvalidOperation, opened) ∧
    ∃ w', (w.setData (some ⟨false, 2, clientQueueSize, TplDisplayPresentMode.mailbox.bit, none,
        none⟩)).tbmClientInit = some w' ∧
      (w'.modifyData fun d => { d with wlTbmClient := true }).onConnection (·.create .registry) =
        some connected := by
  refine ⟨_, rfl, ?_, _, rfl, ?_⟩
  · refine congrArg (fun w => some (TplResult.errorInvalidOperation, w))
      (eq_opened ?_ ?_ ?_ rfl rfl rfl)
    · rintro (_ | _ | n) <;> rfl
    · rintro (_ | _) <;> rfl
    · rintro (_ | _ | _ | _ | _) <;> rfl
  · refine congrArg some (World.ext (Connection.ext (funext ?_) (funext ?_)) (funext ?_) rfl rfl rfl)
    · rintro (_ | _ | n) <;> rfl
    · rintro (_ | _) <;> rfl
    · rintro (_ | _ | _ | _ | _) <;> rfl

theorem created_dispatched {o : VkOutcomes}
    (hremove : .globalRemove ∉ o.firstRoundtrip ++ o.secondRoundtrip) :
    ∃ w, ((dispatchEvents connected o.firstRoundtrip).bind fun w =>
        (dispatchEvents (w.modifyData addVulkanListener) o.secondRoundtrip).bind fun w =>
          (w.onConnection (·.destroy .registry)).map (.errorNone, ·)) =
        some (TplResult.errorNone, w) ∧ Created o w := by
  rw [List.mem_append, not_or] at hremove
  obtain ⟨hfirst, hsecond⟩ := hremove
  rw [dispatchEvents_eq listening_connected hfirst, Option.bind_some]
  have hlistening : Listening none (((connected.bindAll vkSlot none
      (vulkanBinds o.firstRoundtrip)).modifyData (announce · o.firstRoundtrip)).modifyData
        addVulkanListener) := by
    have hbound := listening_connected.bindAll vkSlot (vulkanBinds o.firstRoundtrip)
    exact ⟨hbound.registry, hbound.unbound⟩
  rw [dispatchEvents_eq hlistening hsecond, Option.bind_some]
  simp only [World.onConnection]
  rw [Connection.destroy_eq]
  · refine ⟨_, rfl, ⟨?_, rfl, fun _ => rfl, ?_, ?_, fun n => ?_⟩⟩
    · have hnothing : announce ⟨true, 2, clientQueueSize, TplDisplayPresentMode.mailbox.bit,
          o.listened, none⟩ o.firstRoundtrip = ⟨true, 2, clientQueueSize,
            TplDisplayPresentMode.mailbox.bit, o.listened, none⟩ := announce_of_not_listened rfl _
      rw [VkOutcomes.listened] at hnothing
      simp only [World.modifyData, World.bindAll, connected, Option.map_some, vkSlot, hnothing,
        addVulkanListener, VkOutcomes.announced, VkOutcomes.listened, vulkanBinds_append,
        keptFrom_append]
    · rfl
    · simp
    · have hcount : o.announced.count true = (vulkanBinds o.firstRoundtrip).count true +
          (vulkanBinds o.secondRoundtrip).count true := by
        rw [VkOutcomes.announced, vulkanBinds_append, List.count_append]
      simp only [World.modifyData, World.bindAll, addGlobals_add, hcount]
      simp [addGlobals, connected]
  · exact (Option.some_ne_none _)

def VkOutcomes.reachesRegistry (o : VkOutcomes) : Bool :=
  o.native.any isWlDisplay && o.calloc && o.tbmClientInit

/-- There is a registry, and none of its globals goes. -/
def VkOutcomes.Survives (o : VkOutcomes) : Prop :=
  o.getRegistry = true ∧ .globalRemove ∉ o.firstRoundtrip ++ o.secondRoundtrip

theorem dispatched_none {o : VkOutcomes}
    (hremove : .globalRemove ∈ o.firstRoundtrip ++ o.secondRoundtrip) :
    ((dispatchEvents connected o.firstRoundtrip).bind fun w =>
      (dispatchEvents (w.modifyData addVulkanListener) o.secondRoundtrip).bind fun w =>
        (w.onConnection (·.destroy .registry)).map (TplResult.errorNone, ·)) = none := by
  by_cases hfirst : .globalRemove ∈ o.firstRoundtrip
  · rw [dispatchEvents_globalRemove listening_connected hfirst]
    rfl
  · have hsecond := (List.mem_append.mp hremove).resolve_left hfirst
    rw [dispatchEvents_eq listening_connected hfirst, Option.bind_some,
      dispatchEvents_globalRemove _ hsecond]
    · rfl
    · have hbound := listening_connected.bindAll vkSlot (vulkanBinds o.firstRoundtrip)
      exact ⟨hbound.registry, hbound.unbound⟩

theorem waylandVkWsiDisplayInit_cases (o : VkOutcomes) :
    (o.reachesRegistry = false ∧ ∃ r, r ≠ .errorNone ∧
      waylandVkWsiDisplayInit o opened = some (r, opened)) ∨
    (o.reachesRegistry = true ∧ ¬o.Survives ∧ waylandVkWsiDisplayInit o opened = none) ∨
    (o.reachesRegistry = true ∧ o.Survives ∧ ∃ w,
      waylandVkWsiDisplayInit o opened = some (.errorNone, w) ∧ Created o w) := by
  unfold waylandVkWsiDisplayInit VkOutcomes.reachesRegistry VkOutcomes.Survives
  cases o.native with
  | none => exact Or.inl ⟨rfl, .errorInvalidParameter, by decide, rfl⟩
  | some native =>
  cases o.calloc with
  | false => exact Or.inl ⟨by simp, .errorOutOfMemory, by decide, rfl⟩
  | true =>
  obtain ⟨w, hw, hfree, w', hclient, hconnected⟩ := openHandle_backendData
  simp only [Bool.true_eq_false, if_false, hw, Option.bind_some, Option.any_some]
  cases isWlDisplay native with
  | false => exact Or.inl ⟨rfl, .errorInvalidOperation, by decide, hfree⟩
  | true =>
  cases o.tbmClientInit with
  | false => exact Or.inl ⟨rfl, .errorInvalidOperation, by decide, hfree⟩
  | true =>
  simp only [Bool.true_eq_false, if_false, hclient, Option.bind_some]
  cases o.getRegistry with
  | false => exact Or.inr (Or.inl ⟨rfl, fun h => absurd h.1 (by decide), rfl⟩)
  | true =>
  simp only [Bool.true_eq_false, if_false, hconnected, Option.bind_some]
  by_cases hremove : .globalRemove ∈ o.firstRoundtrip ++ o.secondRoundtrip
  · exact Or.inr (Or.inl ⟨rfl, fun h => h.2 hremove, dispatched_none hremove⟩)
  · exact Or.inr (Or.inr ⟨rfl, ⟨trivial, hremove⟩, created_dispatched hremove⟩)

theorem Created.data_eq {o : VkOutcomes} {w : VkWorld} (h : Created o w) :
    ∃ modes, w.backendData = some
      ⟨true, 2, clientQueueSize, modes, keptFrom 0 none o.announced, o.listened⟩ := by
  obtain ⟨modes, hmodes⟩ := announce_eq ⟨true, 2, clientQueueSize,
    TplDisplayPresentMode.mailbox.bit, keptFrom 0 none o.announced, o.listened⟩ o.secondRoundtrip
  exact ⟨modes, h.data.trans (congrArg some hmodes)⟩

theorem destroyVkClient_eq {w : VkWorld} {client : Option Nat}
    (hkept : ∀ n, client = some n → w.connection.proxies (.global n) ≠ none) :
    destroyVkClient w client = some { w with
      connection := ⟨fun
          | .global n => if client = some n then none else w.connection.proxies (.global n)
          | p => w.connection.proxies p,
        w.connection.queues⟩ } := by
  cases client with
  | none =>
      refine congrArg some (World.ext (Connection.ext (funext ?_) rfl) rfl rfl rfl rfl)
      rintro (_ | _ | n) <;> rfl
  | some m =>
      rw [destroyVkClient, World.onConnection, Connection.destroy_eq (hkept m rfl),
        Option.map_some]
      refine congrArg some (World.ext (Connection.ext (funext ?_) rfl) rfl rfl rfl rfl)
      rintro (_ | _ | n)
      · rfl
      · rfl
      · by_cases hnm : m = n
        · subst hnm
          simp
        · simp [hnm, Ne.symm hnm]

theorem waylandVkWsiDisplayFini_eq {w : VkWorld} {d : TplWaylandVkWsiDisplay}
    (hdata : w.backendData = some d) (hwlTbm : w.connection.proxies .wlTbm ≠ none)
    (htbmClient : w.handles .tbmClient = true) (hbackendData : w.handles .backendData = true)
    (hkept : ∀ n, d.wlVkClient = some n → w.connection.proxies (.global n) ≠ none) :
    waylandVkWsiDisplayFini w = some { w with
      connection := ⟨fun
          | .wlTbm => none
          | .registry => w.connection.proxies .registry
          | .global n => if d.wlVkClient = some n then none else w.connection.proxies (.global n),
        w.connection.queues⟩
      handles := fun
        | .tbmClient | .backendData => false
        | h => w.handles h
      backendData := none } := by
  have hhandles : Function.update (Function.update w.handles .tbmClient false) .backendData false =
      fun | .tbmClient | .backendData => false | h => w.handles h := by
    funext h
    cases h <;> rfl
  have hfree : Function.update w.handles .tbmClient false .backendData = true := by
    simpa using hbackendData
  have hkept' : ∀ n, d.wlVkClient = some n →
      Function.update w.connection.proxies .wlTbm none (.global n) ≠ none := by
    simpa using hkept
  simp only [waylandVkWsiDisplayFini, hdata, World.tbmClientDeinit_eq hwlTbm htbmClient,
    Option.bind_some]
  rw [destroyVkClient_eq, Option.bind_some, freeDisplay, World.closeHandle_eq, Option.map_some]
  · refine congrArg some (World.ext (Connection.ext (funext ?_) rfl) hhandles rfl rfl rfl)
    rintro (_ | _ | n) <;> rfl
  · exact hfree
  · exact hkept'

theorem unreference_created {o : VkOutcomes} {w : VkWorld} (h : Created o w)
    (registered : Bool) :
    ∃ w', unreference (waylandVkWsi o) { w with registered := registered } = some w' ∧
      (NothingLeft w' ↔ true ∉ o.announced.dropLast) := by
  obtain ⟨modes, hdata⟩ := h.data_eq
  have hkept : ∀ n, keptFrom 0 none o.announced = some n →
      w.connection.proxies (.global n) ≠ none := fun n hn => by
    rw [h.globals, if_pos (keptFrom_lt hn)]
    exact Option.some_ne_none _
  have hmutex : ({ w with registered := registered } : VkWorld).closeHandle .mutex =
      some { w with registered := registered, handles := Function.update w.handles .mutex false } := by
    simp [World.closeHandle, h.handles, connected]
  have hfini := waylandVkWsiDisplayFini_eq
    (w := { w with registered := registered, handles := Function.update w.handles .mutex false })
    hdata (by simp [h.wlTbm]) (by simp [h.handles, connected]) (by simp [h.handles, connected]) hkept
  rw [unreference, hmutex, Option.bind_some,
    show (waylandVkWsi o).fini = waylandVkWsiDisplayFini from rfl, hfini, Option.bind_some]
  have hdisplay : w.handles .display = true := by rw [h.handles]; rfl
  rw [World.closeHandle, if_pos (by simpa using hdisplay)]
  refine ⟨_, rfl, ?_⟩
  rw [← allKept_iff]
  constructor
  · intro hnothing n hn
    by_contra hleft
    have hgone := hnothing.proxies (.global n)
    simp only [h.globals, if_neg hleft, if_pos hn] at hgone
    cases hgone
  · intro hall
    refine ⟨?_, h.queues, ?_, rfl, rfl⟩
    · rintro (_ | _ | n)
      · rfl
      · exact h.registry
      · show (if keptFrom 0 none o.announced = some n then none
          else w.connection.proxies (.global n)) = none
        rw [h.globals]
        split
        · rfl
        · rename_i hne
          exact if_neg fun hn => hne (hall n hn)
    · rintro (_ | _ | _ | _ | _)
      · rfl
      · rfl
      · rfl
      · rfl
      · simp [h.handles, connected]

theorem attached_created {o : VkOutcomes} {w : VkWorld} (h : Created o w) :
    w.connection.Attached := by
  rintro (_ | _ | n) q hq
  · rw [h.wlTbm] at hq
    cases hq
  · rw [h.registry] at hq
    cases hq
  · rw [h.globals] at hq
    split at hq
    · cases hq
    · cases hq

theorem waylandVkWsiDisplayFini_none {w : VkWorld} (h : w.backendData = none) :
    waylandVkWsiDisplayFini w = some w := by
  rw [waylandVkWsiDisplayFini, h]

/-- Whatever fails, a display of the wayland-vulkan backend is created and destroyed cleanly
exactly when there is a registry, no global goes in the two roundtrips and no
`wayland_vulkan` is announced after one that was bound. -/
theorem vulkan_creation_clean_iff (f : FrontendOutcomes) (o : VkOutcomes) :
    Clean (waylandVkWsi o) (tplDisplayCreate (waylandVkWsi o) f nothingOpen) ↔
      (f.calloc = true ∧ f.objectInit = true ∧ o.reachesRegistry = true →
        o.Survives ∧ true ∉ o.announced.dropLast) := by
  by_cases hopened : f.calloc = true ∧ f.objectInit = true
  · obtain ⟨hcalloc, hobjectInit⟩ := hopened
    rcases waylandVkWsiDisplayInit_cases o with
      ⟨hreaches, r, hr, hinit⟩ | ⟨hreaches, hdies, hinit⟩ | ⟨hreaches, hsurvives, w, hinit, hcreated⟩
    · have hclean : Clean (waylandVkWsi o) (tplDisplayCreate (waylandVkWsi o) f nothingOpen) :=
        clean_of_failed_init (fun _ => waylandVkWsiDisplayFini_none) hcalloc hobjectInit hr hinit
      refine iff_of_true hclean fun h => ?_
      rw [hreaches] at h
      exact absurd h.2.2 (by decide)
    · refine iff_of_false ?_ fun h => hdies (h ⟨hcalloc, hobjectInit, hreaches⟩).1
      rw [tplDisplayCreate_of_opened hcalloc hobjectInit,
        show (waylandVkWsi o).init = waylandVkWsiDisplayInit o from rfl, hinit]
      exact id
    · rw [clean_of_init hcalloc hobjectInit hinit (unreference_created hcreated)]
      exact ⟨fun h _ => ⟨hsurvives, h.2⟩,
        fun h => ⟨fun _ => attached_created hcreated, (h ⟨hcalloc, hobjectInit, hreaches⟩).2⟩⟩
  · exact iff_of_true (clean_of_not_opened hopened) fun h => absurd ⟨h.1, h.2.1⟩ hopened

section

variable {m : TplDisplayPresentMode}

theorem bit_and_bit (m m' : TplDisplayPresentMode) : m.bit &&& m'.bit ≠ 0 ↔ m = m' := by
  cases m <;> cases m' <;> decide

theorem bit_and_or (a b : Nat) : m.bit &&& (a ||| b) ≠ 0 ↔ m.bit &&& a ≠ 0 ∨ m.bit &&& b ≠ 0 := by
  rw [Nat.and_or_distrib_left, Ne, Nat.or_eq_zero_iff, not_and_or]

theorem supportedPresentMode_bit (n mode : Nat) (d : TplWaylandVkWsiDisplay) :
    m.bit &&& (supportedPresentMode n mode d).presentModes ≠ 0 ↔
      m.bit &&& d.presentModes ≠ 0 ∨ (d.listened = some n ∧ presentModeOfType mode = some m) := by
  by_cases hlistened : d.listened = some n
  · rw [supportedPresentMode, if_pos hlistened, supportPresentModeListener]
    cases hmode : presentModeOfType mode with
    | none => simp
    | some m' =>
        show m.bit &&& (d.presentModes ||| m'.bit) ≠ 0 ↔ _
        rw [bit_and_or, bit_and_bit]
        simp [hlistened, eq_comm]
  · rw [supportedPresentMode, if_neg hlistened]
    simp [hlistened]

theorem announce_bit (d : TplWaylandVkWsiDisplay) (es : List Event) :
    m.bit &&& (announce d es).presentModes ≠ 0 ↔
      m.bit &&& d.presentModes ≠ 0 ∨ ∃ n mode, d.listened = some n ∧
        .supportedPresentMode n mode ∈ es ∧ presentModeOfType mode = some m := by
  induction es generalizing d with
  | nil => simp [announce]
  | cons e es ih =>
      cases e with
      | global g => simp [announce, ih]
      | globalRemove => simp [announce, ih]
      | supportedPresentMode n mode =>
          have hlistened : (supportedPresentMode n mode d).listened = d.listened := by
            obtain ⟨modes, hmodes⟩ := supportedPresentMode_eq n mode d
            rw [hmodes]
          rw [announce, ih, supportedPresentMode_bit, hlistened, or_assoc]
          refine or_congr_right ?_
          constructor
          · rintro (⟨hn, hm⟩ | ⟨n', mode', hn, hmem, hm⟩)
            · exact ⟨n, mode, hn, List.mem_cons_self, hm⟩
            · exact ⟨n', mode', hn, List.mem_cons_of_mem _ hmem, hm⟩
          · rintro ⟨n', mode', hn, hmem, hm⟩
            rcases List.mem_cons.mp hmem with heq | hmem
            · obtain ⟨rfl, rfl⟩ := Event.supportedPresentMode.inj heq
              exact Or.inl ⟨hn, hm⟩
            · exact Or.inr ⟨n', mode', hn, hmem, hm⟩

theorem announce_append (d : TplWaylandVkWsiDisplay) (es fs : List Event) :
    announce d (es ++ fs) = announce (announce d es) fs := by
  induction es generalizing d with
  | nil => rfl
  | cons e es ih =>
      cases e with
      | global g => exact ih d
      | globalRemove => exact ih d
      | supportedPresentMode n mode => exact ih _

end

theorem registryHandleGlobal_data {w w' : VkWorld} {g : Global} {d : TplWaylandVkWsiDisplay}
    (h : registryHandleGlobal w g = some w') (hdata : w.backendData = some d) :
    ∃ client, w'.backendData = some { d with wlVkClient := client } := by
  unfold registryHandleGlobal globalCallback at h
  split at h
  · split at h
    · obtain ⟨x, hx, rfl⟩ := Option.map_eq_some_iff.mp h
      obtain ⟨y, hy, rfl⟩ := Option.map_eq_some_iff.mp hx
      obtain ⟨c, -, rfl⟩ := Option.map_eq_some_iff.mp hy
      exact ⟨some w.bound, by simp [World.modifyData, hdata, vkSlot]⟩
    · obtain rfl := Option.some.inj h
      exact ⟨none, by simp [World.modifyData, hdata, vkSlot]⟩
  · obtain rfl := Option.some.inj h
    exact ⟨d.wlVkClient, hdata⟩

theorem dispatchEvents_data {w w' : VkWorld} {es : List Event} {d : TplWaylandVkWsiDisplay}
    (h : dispatchEvents w es = some w') (hdata : w.backendData = some d) :
    ∃ client, w'.backendData = some { announce d es with wlVkClient := client } := by
  induction es generalizing w d with
  | nil =>
      obtain rfl := Option.some.inj h
      exact ⟨d.wlVkClient, hdata⟩
  | cons e es ih =>
      obtain ⟨x, hx, htail⟩ := Option.bind_eq_some_iff.mp h
      cases e with
      | global g =>
          obtain ⟨client, hclient⟩ := registryHandleGlobal_data hx hdata
          obtain ⟨client', hclient'⟩ := ih htail hclient
          rw [announce_set] at hclient'
          exact ⟨client', hclient'⟩
      | globalRemove => cases hx
      | supportedPresentMode n mode =>
          obtain rfl := Option.some.inj hx
          exact ih htail (by rw [World.modifyData, hdata, Option.map_some])

/-- The mode that `__tpl_wayland_vk_wsi_surface_create_swapchain` puts in place of every other
is one that the display has from its `init` on. -/
theorem supports_mailbox {o : VkOutcomes} {w w' : VkWorld} {later : List Event}
    (h : Created o w) (hlater : dispatchEvents w later = some w') :
    ∃ d, w'.backendData = some d ∧
      (PresentationOrder.Backend.waylandVulkanWsi d.presentModes).supports .mailbox = true := by
  obtain ⟨client, hclient⟩ := dispatchEvents_data hlater h.data
  refine ⟨_, hclient, bne_iff_ne.mpr ?_⟩
  rw [announce_bit, announce_bit]
  exact Or.inl (Or.inl ((bit_and_bit _ _).mpr rfl))

/-- The modes that a display reports after its `init` and any events that come later: those
that the client does itself, and those that the server announces after the first roundtrip
to the `wayland_vulkan` that this roundtrip has left. -/
theorem supported_present_modes_iff {o : VkOutcomes} {w w' : VkWorld} {later : List Event}
    (hinit : waylandVkWsiDisplayInit o opened = some (.errorNone, w))
    (hlater : dispatchEvents w later = some w') (supportVblank : Bool)
    (m : TplDisplayPresentMode) :
    ∃ modes, queryWindowSupportedPresentModes supportVblank w' = some modes ∧
      (m.bit &&& modes ≠ 0 ↔
        m = .mailbox ∨ m = .immediate ∨
        (supportVblank = true ∧ (m = .fifo ∨ m = .fifoRelaxed)) ∨
        ∃ n mode, o.listened = some n ∧
          .supportedPresentMode n mode ∈ o.secondRoundtrip ++ later ∧
          presentModeOfType mode = some m) := by
  rcases waylandVkWsiDisplayInit_cases o with
    ⟨-, r, hr, hfailed⟩ | ⟨-, -, hfailed⟩ | ⟨-, -, x, hx, hcreated⟩
  · rw [hfailed] at hinit
    cases hinit
    exact absurd rfl hr
  · rw [hfailed] at hinit
    cases hinit
  · rw [hx] at hinit
    cases hinit
    obtain ⟨client, hclient⟩ := dispatchEvents_data hlater hcreated.data
    rw [queryWindowSupportedPresentModes, hclient]
    refine ⟨_, rfl, ?_⟩
    simp only [← announce_append]
    cases supportVblank with
    | true =>
        simp only [if_true, bit_and_or, announce_bit, bit_and_bit, true_and]
        constructor
        · rintro (((hm | hm) | hm | hm) | hm)
          · exact Or.inl hm
          · exact Or.inr (Or.inl hm)
          · exact Or.inl hm
          · exact Or.inr (Or.inr (Or.inr hm))
          · exact Or.inr (Or.inr (Or.inl hm))
        · rintro (hm | hm | hm | hm)
          · exact Or.inl (Or.inl (Or.inl hm))
          · exact Or.inl (Or.inl (Or.inr hm))
          · exact Or.inr hm
          · exact Or.inl (Or.inr (Or.inr hm))
    | false =>
        simp only [Bool.false_eq_true, if_false, bit_and_or, announce_bit, bit_and_bit,
          false_and, false_or]
        constructor
        · rintro ((hm | hm) | hm | hm)
          · exact Or.inl hm
          · exact Or.inr (Or.inl hm)
          · exact Or.inl hm
          · exact Or.inr (Or.inr hm)
        · rintro (hm | hm | hm)
          · exact Or.inl (Or.inl hm)
          · exact Or.inl (Or.inr hm)
          · exact Or.inr (Or.inr hm)

/-- The server announces FIFO before anything listens, and FIFO_RELAXED once the display is
made. -/
def lateFifoRelaxed : VkOutcomes where
  native := some ⟨true, ""⟩
  calloc := true
  tbmClientInit := true
  getRegistry := true
  firstRoundtrip := [.global ⟨"wayland_vulkan", true⟩, .supportedPresentMode 0 3]
  secondRoundtrip := []

theorem supported_present_modes_lateFifoRelaxed :
    ∃ w w', waylandVkWsiDisplayInit lateFifoRelaxed opened = some (.errorNone, w) ∧
      dispatchEvents w [.supportedPresentMode 0 4] = some w' ∧
      ∃ modes, queryWindowSupportedPresentModes false w' = some modes ∧
        (TplDisplayPresentMode.fifo.bit &&& modes = 0) ∧
        TplDisplayPresentMode.fifoRelaxed.bit &&& modes ≠ 0 := by
  obtain ⟨w, hinit⟩ : ∃ w, waylandVkWsiDisplayInit lateFifoRelaxed opened = some (.errorNone, w) :=
    ⟨_, rfl⟩
  have hlater : dispatchEvents w [.supportedPresentMode 0 4] =
    some (w.modifyData (supportedPresentMode 0 4)) := rfl
  obtain ⟨modes, hmodes, hfifo⟩ := supported_present_modes_iff hinit hlater false .fifo
  obtain ⟨modes', hmodes', hrelaxed⟩ := supported_present_modes_iff hinit hlater false .fifoRelaxed
  obtain rfl := Option.some.inj (hmodes.symm.trans hmodes')
  have hunheard : ¬∃ n mode, lateFifoRelaxed.listened = some n ∧ .supportedPresentMode n mode ∈
      lateFifoRelaxed.secondRoundtrip ++ [.supportedPresentMode 0 4] ∧
        presentModeOfType mode = some .fifo := by
    rintro ⟨n, mode, -, hmem, hmode⟩
    obtain ⟨-, rfl⟩ := Event.supportedPresentMode.inj (List.mem_singleton.mp hmem)
    cases hmode
  refine ⟨w, _, hinit, hlater, modes, hmodes, ?_, hrelaxed.mpr ?_⟩
  · by_contra hne
    rcases hfifo.mp hne with hm | hm | ⟨hm, -⟩ | hm
    · cases hm
    · cases hm
    · cases hm
    · exact hunheard hm
  · exact Or.inr (Or.inr (Or.inr ⟨0, 4, by decide, by decide, rfl⟩))

end LibtplEgl.WaylandVkWsiDisplay
