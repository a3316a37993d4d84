import LibtplEgl.ProxyQueues
import LibtplEgl.TplTypes

namespace LibtplEgl.DisplayCreation

open LibtplEgl.ProxyQueues
open LibtplEgl.TplTypes

universe u

/-- The objects of the connection that a display makes; the globals are numbered as they are
bound. -/
inductive Proxy
  | wlTbm
  | registry
  | global (n : Nat)
  deriving DecidableEq, Repr

inductive EventQueue
  | wlTbm
  | registry
  deriving DecidableEq, Repr

/-- What is opened besides. -/
inductive Handle
  | display
  | mutex
  | backendData
  | tbmClient
  | tdmClient
  deriving DecidableEq, Repr

/-- A `tpl_display_t` and what is open for it. `Data` is what its `backend.data` points
to. -/
@[ext]
structure World (Data : Type u) where
  connection : Connection Proxy EventQueue
  handles : Handle → Bool
  registered : Bool
  backendData : Option Data
  bound : Nat

/-- The functions of a backend: `none` is a call on something that is not open. -/
structure DisplayBackend (Data : Type u) where
  init : World Data → Option (TplResult × World Data)
  fini : World Data → Option (World Data)

/-- The pointer that a native display starts with. -/
structure Native where
  isWlDisplayInterface : Bool
  name : String
  deriving DecidableEq, Repr

section

variable {Data : Type u}

def nothingOpen : World Data where
  connection := .empty
  handles := fun _ => false
  registered := false
  backendData := none
  bound := 0

namespace World

def openHandle (w : World Data) (h : Handle) : Option (World Data) :=
  if w.handles h then none else some { w with handles := Function.update w.handles h true }

def closeHandle (w : World Data) (h : Handle) : Option (World Data) :=
  if w.handles h then some { w with handles := Function.update w.handles h false } else none

def setData (w : World Data) (data : Option Data) : World Data := { w with backendData := data }

def modifyData (w : World Data) (f : Data → Data) : World Data :=
  { w with backendData := w.backendData.map f }

def field (w : World Data) (f : Data → Bool) : Bool := w.backendData.any f

def onConnection (w : World Data)
    (f : Connection Proxy EventQueue → Option (Connection Proxy EventQueue)) :
    Option (World Data) :=
  (f w.connection).map fun c => { w with connection := c }

/-- `wl_registry_bind`. -/
def registryBind (w : World Data) : Option (World Data) :=
  (w.onConnection (·.createFrom .registry (.global w.bound))).map fun w' =>
    { w' with bound := w.bound + 1 }

/-- `wayland_tbm_client_init`: the client has a `wl_tbm`. -/
def tbmClientInit (w : World Data) : Option (World Data) :=
  (w.openHandle .tbmClient).bind fun w => w.onConnection (·.create .wlTbm)

/-- `wayland_tbm_client_deinit`. -/
def tbmClientDeinit (w : World Data) : Option (World Data) :=
  (w.onConnection (·.destroy .wlTbm)).bind fun w => w.closeHandle .tbmClient

end World

/-- `__tpl_wayland_egl_display_is_wl_display` and `__tpl_wayland_vk_wsi_display_is_wl_display`. -/
def isWlDisplay (native : Native) : Bool :=
  native.isWlDisplayInterface || "wl_display".isPrefixOf native.name

/-- `tpl_object_unreference` of a display with one reference: `__tpl_object_fini`, the `fini`
of the backend, `__tpl_runtime_remove_display` and `free`. -/
def unreference (backend : DisplayBackend Data) (w : World Data) : Option (World Data) :=
  (w.closeHandle .mutex).bind fun w =>
    (backend.fini w).bind fun w => { w with registered := false }.closeHandle .display

/-- The outcomes of what `tpl_display_create` calls itself. -/
structure FrontendOutcomes where
  calloc : Bool
  objectInit : Bool
  addDisplay : Bool
  deriving DecidableEq, Repr

/-- `tpl_display_create` when it finds no display and has chosen a backend; the flag is
whether it returns a display. -/
def tplDisplayCreate (backend : DisplayBackend Data) (o : FrontendOutcomes) (w : World Data) :
    Option (Bool × World Data) :=
  if o.calloc = false then some (false, w)
  else
    (w.openHandle .display).bind fun w =>
      if o.objectInit = false then (w.closeHandle .display).map (false, ·)
      else
        (w.openHandle .mutex).bind fun w =>
          (backend.init w).bind fun result =>
            if result.1 ≠ .errorNone then (unreference backend result.2).map (false, ·)
            else if o.addDisplay = false then (unreference backend result.2).map (false, ·)
            else some (true, { result.2 with registered := true })

end

structure NothingLeft {Data : Type u} (w : World Data) : Prop where
  proxies : ∀ p, w.connection.proxies p = none
  queues : ∀ q, w.connection.queues q = false
  handles : ∀ h, w.handles h = false
  registered : w.registered = false
  backendData : w.backendData = none

/-- A creation that fails leaves nothing open. One that succeeds leaves no object on a queue
that is gone, and the last `tpl_object_unreference` of its display leaves nothing open. Every
call is made on what is open. -/
def Clean {Data : Type u} (backend : DisplayBackend Data) :
    Option (Bool × World Data) → Prop
  | none => False
  | some (false, w) => NothingLeft w
  | some (true, w) =>
      w.connection.Attached ∧ ∃ w', unreference backend w = some w' ∧ NothingLeft w'

/-- A global that the registry announces, and whether `wl_registry_bind` succeeds. -/
structure Global where
  interface : String
  binds : Bool
  deriving DecidableEq, Repr

structure Slot (Data : Type u) where
  get : Data → Option Nat
  set : Option Nat → Data → Data
  get_set : ∀ kept d, get (set kept d) = kept
  set_get : ∀ d, set (get d) d = d
  set_set : ∀ kept old d, set kept (set old d) = set kept d

section

variable {Data : Type u}

/-- A callback that binds the globals of one interface. -/
def globalCallback (slot : Slot Data) (interface : String) (w : World Data) (g : Global) :
    Option (World Data) :=
  if g.interface = interface then
    if g.binds then w.registryBind.map (·.modifyData (slot.set (some w.bound)))
    else some (w.modifyData (slot.set none))
  else some w

end

/-- Whether each global of `interface` is bound, in their order. -/
def binds (interface : String) (globals : List Global) : List Bool :=
  (globals.filter (·.interface = interface)).map Global.binds

theorem binds_cons (interface : String) (g : Global) (gs : List Global) :
    binds interface (g :: gs) = binds interface [g] ++ binds interface gs := by
  rw [← List.singleton_append, binds, List.filter_append, List.map_append]
  rfl

/-- The number of the object that is left in a field that held `old`. -/
def keptFrom (bound : Nat) (old : Option Nat) : List Bool → Option Nat
  | [] => old
  | true :: bs => keptFrom (bound + 1) (some bound) bs
  | false :: bs => keptFrom bound none bs

theorem keptFrom_append (bound : Nat) (old : Option Nat) (bs cs : List Bool) :
    keptFrom bound old (bs ++ cs) =
      keptFrom (bound + bs.count true) (keptFrom bound old bs) cs := by
  induction bs generalizing bound old with
  | nil => rfl
  | cons b bs ih =>
      cases b with
      | true =>
          have hcount : (true :: bs).count true = bs.count true + 1 := List.count_cons_self
          rw [List.cons_append, keptFrom, keptFrom, ih, hcount, Nat.add_assoc, Nat.add_comm 1]
      | false =>
          rw [List.cons_append, keptFrom, keptFrom, ih, List.count_cons_of_ne (by decide)]

theorem keptFrom_concat (bound : Nat) (old : Option Nat) (bs : List Bool) (b : Bool) :
    keptFrom bound old (bs ++ [b]) = if b then some (bound + bs.count true) else none := by
  rw [keptFrom_append]
  cases b with
  | true | false => rfl

theorem keptFrom_lt {bs : List Bool} {n : Nat} (h : keptFrom 0 none bs = some n) :
    n < bs.count true := by
  rcases List.eq_nil_or_concat bs with rfl | ⟨init, b, rfl⟩
  · cases h
  · rw [List.concat_eq_append, keptFrom_concat] at h
    cases b with
    | true =>
        obtain rfl := Option.some.inj h
        simp
    | false => cases h

theorem allKept_iff (bs : List Bool) :
    (∀ n < bs.count true, keptFrom 0 none bs = some n) ↔ true ∉ bs.dropLast := by
  rcases List.eq_nil_or_concat bs with rfl | ⟨init, b, rfl⟩
  · exact ⟨fun _ => List.not_mem_nil, fun _ n hn => absurd hn (Nat.not_lt_zero n)⟩
  · rw [List.concat_eq_append, List.dropLast_concat, keptFrom_concat, ← List.count_eq_zero,
      List.count_append]
    cases b with
    | true =>
        constructor
        · intro h
          simpa using h 0 (by simp)
        · intro h n hn
          have hlast : [true].count true = 1 := rfl
          simp only [if_true, Option.some.injEq]
          omega
    | false =>
        constructor
        · intro h
          by_contra hne
          cases h 0 (by omega)
        · intro h n hn
          have hlast : [false].count true = 0 := rfl
          omega

section

variable {Data : Type u} {queue : Option EventQueue} {w : World Data}

/-- The registry is on `queue`, and nothing has been bound beyond `bound`. -/
structure Listening (queue : Option EventQueue) (w : World Data) : Prop where
  registry : w.connection.proxies .registry = some queue
  unbound : ∀ n, w.bound ≤ n → w.connection.proxies (.global n) = none

/-- The objects that `k` binds add. -/
def addGlobals (queue : Option EventQueue) (proxies : Proxy → Option (Option EventQueue))
    (bound k : Nat) : Proxy → Option (Option EventQueue)
  | .global n => if bound ≤ n ∧ n < bound + k then some queue else proxies (.global n)
  | p => proxies p

theorem addGlobals_zero (proxies : Proxy → Option (Option EventQueue)) (bound : Nat) :
    addGlobals queue proxies bound 0 = proxies := by
  funext p
  cases p with
  | global n => exact if_neg (by omega)
  | wlTbm | registry => rfl

theorem addGlobals_one (proxies : Proxy → Option (Option EventQueue)) (bound : Nat) :
    addGlobals queue proxies bound 1 = Function.update proxies (.global bound) (some queue) := by
  funext p
  cases p with
  | global n =>
      by_cases hn : n = bound
      · subst hn
        simp [addGlobals]
      · rw [Function.update_of_ne (by simpa using hn)]
        exact if_neg (by omega)
  | wlTbm | registry => simp [addGlobals]

theorem addGlobals_add (proxies : Proxy → Option (Option EventQueue)) (bound k l : Nat) :
    addGlobals queue (addGlobals queue proxies bound k) (bound + k) l =
      addGlobals queue proxies bound (k + l) := by
  funext p
  cases p with
  | global n =>
      by_cases hk : bound ≤ n ∧ n < bound + k
      · have hkl : bound ≤ n ∧ n < bound + (k + l) := by omega
        simp [addGlobals, hk, hkl]
      · have hkl : (bound + k ≤ n ∧ n < bound + k + l) ↔ bound ≤ n ∧ n < bound + (k + l) := by
          omega
        simp [addGlobals, hk, hkl]
  | wlTbm | registry => rfl

/-- The state after the globals that `bs` are the binds of. -/
def World.bindAll (slot : Slot Data) (queue : Option EventQueue) (w : World Data)
    (bs : List Bool) : World Data :=
  { w with
    connection :=
      ⟨addGlobals queue w.connection.proxies w.bound (bs.count true), w.connection.queues⟩
    backendData := w.backendData.map fun d => slot.set (keptFrom w.bound (slot.get d) bs) d
    bound := w.bound + bs.count true }

theorem World.bindAll_append (slot : Slot Data) (w : World Data) (bs cs : List Bool) :
    (w.bindAll slot queue bs).bindAll slot queue cs = w.bindAll slot queue (bs ++ cs) := by
  have hdata : ∀ d, slot.set (keptFrom (w.bound + bs.count true)
      (slot.get (slot.set (keptFrom w.bound (slot.get d) bs) d)) cs)
        (slot.set (keptFrom w.bound (slot.get d) bs) d) =
      slot.set (keptFrom w.bound (slot.get d) (bs ++ cs)) d := fun d => by
    rw [slot.get_set, slot.set_set, keptFrom_append]
  simp only [bindAll, addGlobals_add, List.count_append, Option.map_map, Function.comp_def, hdata,
    Nat.add_assoc]

theorem World.bindAll_modifyData (slot : Slot Data) (w : World Data) (bs : List Bool)
    {change : Data → Data} (hget : ∀ d, slot.get (change d) = slot.get d)
    (hset : ∀ kept d, slot.set kept (change d) = change (slot.set kept d)) :
    (w.modifyData change).bindAll slot queue bs = (w.bindAll slot queue bs).modifyData change := by
  simp only [bindAll, modifyData, Option.map_map, Function.comp_def, hget, hset]

theorem World.closeHandle_eq {h : Handle} (hopen : w.handles h = true) :
    w.closeHandle h = some { w with handles := Function.update w.handles h false } := if_pos hopen

theorem World.tbmClientDeinit_eq (hwlTbm : w.connection.proxies .wlTbm ≠ none)
    (htbmClient : w.handles .tbmClient = true) :
    w.tbmClientDeinit = some { w with
      connection :=
        ⟨Function.update w.connection.proxies .wlTbm none, w.connection.queues⟩
      handles := Function.update w.handles .tbmClient false } := by
  rw [tbmClientDeinit, onConnection, Connection.destroy_eq hwlTbm, Option.map_some,
    Option.bind_some]
  exact closeHandle_eq htbmClient

theorem World.modifyData_modifyData (w : World Data) (f g : Data → Data) :
    (w.modifyData f).modifyData g = w.modifyData fun d => g (f d) := by
  simp only [modifyData, Option.map_map, Function.comp_def]

theorem World.bindAll_nil (slot : Slot Data) (w : World Data) :
    w.bindAll slot queue [] = w := by
  simp [bindAll, keptFrom, slot.set_get, addGlobals_zero]

theorem Listening.bindAll (slot : Slot Data) (h : Listening queue w) (bs : List Bool) :
    Listening queue (w.bindAll slot queue bs) where
  registry := h.registry
  unbound := fun n hn => by
    have hn' : w.bound + bs.count true ≤ n := hn
    have hout : ¬(w.bound ≤ n ∧ n < w.bound + bs.count true) := by omega
    simpa [World.bindAll, addGlobals, hout] using h.unbound n (by omega)

theorem registryBind_eq (h : Listening queue w) :
    w.registryBind = some { w with
      connection := ⟨Function.update w.connection.proxies (.global w.bound) (some queue),
        w.connection.queues⟩
      bound := w.bound + 1 } := by
  have hfree := h.unbound w.bound (Nat.le_refl _)
  rw [World.registryBind, World.onConnection, Connection.createFrom_eq h.registry hfree]
  rfl

theorem globalCallback_eq (slot : Slot Data) (interface : String) (h : Listening queue w)
    (g : Global) :
    globalCallback slot interface w g = some (w.bindAll slot queue (binds interface [g])) := by
  by_cases hinterface : g.interface = interface
  · have hbinds : binds interface [g] = [g.binds] := by simp [binds, hinterface]
    rw [globalCallback, if_pos hinterface, hbinds]
    cases g.binds with
    | true =>
        rw [if_pos rfl, registryBind_eq h]
        simp [World.bindAll, World.modifyData, keptFrom, addGlobals_one]
    | false =>
        rw [if_neg (by decide)]
        simp [World.bindAll, World.modifyData, keptFrom, addGlobals_zero]
  · have hbinds : binds interface [g] = [] := by simp [binds, hinterface]
    rw [globalCallback, if_neg hinterface, hbinds, World.bindAll_nil]

end

section

variable {Data : Type u}

/-- `tpl_display_create` has opened what it opens itself. -/
def opened : World Data where
  connection := .empty
  handles := fun | .display | .mutex => true | _ => false
  registered := false
  backendData := none
  bound := 0

theorem eq_opened {w : World Data} (hproxies : ∀ p, w.connection.proxies p = none)
    (hqueues : ∀ q, w.connection.queues q = false)
    (hhandles : ∀ h, w.handles h = (opened : World Data).handles h)
    (hregistered : w.registered = false) (hdata : w.backendData = none) (hbound : w.bound = 0) :
    w = opened := by
  have hconnection : w.connection = .empty := Connection.ext (funext hproxies) (funext hqueues)
  exact World.ext hconnection (funext hhandles) hregistered hdata hbound

theorem nothingLeft_nothingOpen : NothingLeft (nothingOpen : World Data) :=
  ⟨fun _ => rfl, fun _ => rfl, fun _ => rfl, rfl, rfl⟩

theorem openHandle_mutex :
    ∃ w, (nothingOpen : World Data).openHandle .display = some w ∧
      w.openHandle .mutex = some opened := by
  refine ⟨_, rfl, congrArg some (eq_opened ?_ ?_ ?_ rfl rfl rfl)⟩
  · rintro (_ | _ | n) <;> rfl
  · rintro (_ | _) <;> rfl
  · rintro (_ | _ | _ | _ | _) <;> rfl

theorem closeHandle_display :
    ∃ w, ((nothingOpen : World Data).openHandle .display).bind (fun w =>
        (w.closeHandle .display).map (false, ·)) = some (false, w) ∧ NothingLeft w := by
  refine ⟨_, rfl, ⟨fun _ => rfl, fun _ => rfl, ?_, rfl, rfl⟩⟩
  rintro (_ | _ | _ | _ | _) <;> rfl

variable {backend : DisplayBackend Data} {f : FrontendOutcomes}

theorem unreference_opened (hfini : ∀ w, w.backendData = none → backend.fini w = some w) :
    ∃ w, unreference backend opened = some w ∧ NothingLeft w := by
  have hmutex : (opened : World Data).closeHandle .mutex = some { (opened : World Data) with
      handles := Function.update (opened : World Data).handles .mutex false } := rfl
  rw [unreference, hmutex, Option.bind_some, hfini _ rfl]
  refine ⟨_, rfl, ⟨fun _ => rfl, fun _ => rfl, ?_, rfl, rfl⟩⟩
  rintro (_ | _ | _ | _ | _) <;> rfl

theorem tplDisplayCreate_of_opened (hcalloc : f.calloc = true) (hobjectInit : f.objectInit = true) :
    tplDisplayCreate backend f nothingOpen =
      (backend.init opened).bind fun result =>
        if result.1 ≠ .errorNone then (unreference backend result.2).map (false, ·)
        else if f.addDisplay = false then (unreference backend result.2).map (false, ·)
        else some (true, { result.2 with registered := true }) := by
  obtain ⟨w, hdisplay, hmutex⟩ := @openHandle_mutex Data
  rw [tplDisplayCreate, if_neg (by simp [hcalloc]), hdisplay, Option.bind_some,
    if_neg (by simp [hobjectInit]), hmutex, Option.bind_some]

theorem clean_of_not_opened (h : ¬(f.calloc = true ∧ f.objectInit = true)) :
    Clean backend (tplDisplayCreate backend f nothingOpen) := by
  cases hcalloc : f.calloc with
  | false =>
      rw [tplDisplayCreate, if_pos hcalloc]
      exact nothingLeft_nothingOpen
  | true =>
      have hobjectInit : f.objectInit = false := by
        cases hobject : f.objectInit with
        | false => rfl
        | true => exact absurd ⟨hcalloc, hobject⟩ h
      obtain ⟨w, hw, hnothing⟩ := @closeHandle_display Data
      rw [tplDisplayCreate, if_neg (by simp [hcalloc])]
      simp only [hobjectInit, if_true, hw]
      exact hnothing

theorem clean_of_failed_init (hfini : ∀ w, w.backendData = none → backend.fini w = some w)
    (hcalloc : f.calloc = true) (hobjectInit : f.objectInit = true) {r : TplResult}
    (hr : r ≠ .errorNone) (hinit : backend.init opened = some (r, opened)) :
    Clean backend (tplDisplayCreate backend f nothingOpen) := by
  obtain ⟨w, hunreference, hnothing⟩ := unreference_opened hfini
  rw [tplDisplayCreate_of_opened hcalloc hobjectInit, hinit, Option.bind_some, if_pos hr,
    hunreference]
  exact hnothing

theorem clean_of_init {w : World Data} {P : Prop} (hcalloc : f.calloc = true)
    (hobjectInit : f.objectInit = true) (hinit : backend.init opened = some (.errorNone, w))
    (hunreference : ∀ registered, ∃ w', unreference backend { w with registered := registered } =
      some w' ∧ (NothingLeft w' ↔ P)) :
    Clean backend (tplDisplayCreate backend f nothingOpen) ↔
      (f.addDisplay = true → w.connection.Attached) ∧ P := by
  rw [tplDisplayCreate_of_opened hcalloc hobjectInit, hinit, Option.bind_some, if_neg (by simp)]
  cases hadd : f.addDisplay with
  | false =>
      obtain ⟨w', hw', hnothing⟩ := hunreference w.registered
      rw [if_pos rfl, show unreference backend w = some w' from hw']
      show NothingLeft w' ↔ _
      rw [hnothing]
      exact ⟨fun h => ⟨fun hfalse => absurd hfalse (by decide), h⟩, fun h => h.2⟩
  | true =>
      obtain ⟨w', hw', hnothing⟩ := hunreference true
      rw [if_neg (by decide)]
      constructor
      · rintro ⟨hattached, w'', hw'', hleft⟩
        obtain rfl := Option.some.inj (hw'.symm.trans hw'')
        exact ⟨fun _ => hattached, hnothing.mp hleft⟩
      · rintro ⟨hattached, h⟩
        exact ⟨hattached rfl, w', hw', hnothing.mpr h⟩

end

end LibtplEgl.DisplayCreation
