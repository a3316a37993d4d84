import LibtplEgl.LabelledSystem
import LibtplEgl.TplTypes

namespace LibtplEgl.WindowCallbacks

open LibtplEgl.LabelledSystem
open LibtplEgl.TplTypes

universe u

/-- `wl_egl_window_rotation`; a caller may pass any other value. -/
inductive WlEglWindowRotation
  | rotation0
  | rotation90
  | rotation180
  | rotation270
  | other (value : Int)
  deriving DecidableEq, Repr

/-- `ROTATION_90` and `ROTATION_270`, which exchange width and height. -/
def WlEglWindowRotation.sideways : WlEglWindowRotation → Bool
  | .rotation90 | .rotation270 => true
  | .rotation0 | .rotation180 | .other _ => false

/-- `ROTATION_0` and `ROTATION_180`. -/
def WlEglWindowRotation.upright : WlEglWindowRotation → Bool
  | .rotation0 | .rotation180 => true
  | .rotation90 | .rotation270 | .other _ => false

/-- The value of `resize` in `wl_egl_window_set_rotation`. -/
def exchanges (prevRotation rotation : WlEglWindowRotation) : Bool :=
  if rotation.upright then prevRotation.sideways else prevRotation.upright

inductive WlEglWindowCapability
  | none
  | rotationUnsupported
  | rotationSupported
  | rotationUnknown
  deriving DecidableEq, Repr

/-- `struct wl_egl_window`: each callback is `NULL` or the function of that name
which the wayland-egl backend installs. -/
structure WlEglWindow (Surface : Type u) where
  width : Int
  height : Int
  dx : Int
  dy : Int
  rotation : WlEglWindowRotation
  privateSurface : Option Surface
  resizeCallback : Bool
  rotateCallback : Bool
  getRotationCapability : Bool
  deriving DecidableEq, Repr

/-- What the callbacks use of a `tpl_surface_t` and of the queue in its backend. -/
structure TplSurface where
  width : Int
  height : Int
  rotation : WlEglWindowRotation
  rotationCapability : Bool
  queueWidth : Int
  queueHeight : Int
  resized : Bool
  deriving DecidableEq, Repr

inductive Callback
  | resize
  | rotate
  | getRotationCapability
  deriving DecidableEq, Repr

/-- A callback was called with a private pointer, while a surface was alive. -/
structure Invocation (Surface : Type u) where
  callback : Callback
  privateSurface : Option Surface
  live : Option Surface
  deriving DecidableEq, Repr

/-- One window and the surface that is alive on it. `installed` tells whether a
surface init has ever got as far as writing the callbacks; `crashed` that an
assertion has failed or a dead surface was used. -/
structure State (Surface : Type u) where
  window : WlEglWindow Surface
  live : Option (Surface × TplSurface)
  installed : Bool
  invocations : List (Invocation Surface)
  crashed : Bool
  deriving DecidableEq, Repr

/-- The first call that fails in `__tpl_wayland_egl_surface_init`. -/
inductive InitFault
  | calloc
  | objectInit
  | allocAttachedBuffers
  | allocDequeuedBuffers
  | queueCreate
  | addResetCb
  | createVblank
  deriving DecidableEq, Repr

inductive CreateOutcome
  | surfaceAllocFailed
  | surfaceObjectInitFailed
  | backendInit (fault : Option InitFault)
  deriving DecidableEq, Repr

inductive Label (Surface : Type u)
  | resize (width height dx dy : Int)
  | setRotation (rotation : WlEglWindowRotation)
  | getCapabilities
  | surfaceCreate (s : Surface) (outcome : CreateOutcome)
  | setRotationCapability (set : Bool)
  | surfaceDestroy
  deriving DecidableEq, Repr

def Callback.body {Surface : Type u} (window : WlEglWindow Surface) (x : TplSurface) :
    Callback → TplSurface
  | .resize =>
      if window.width ≠ x.queueWidth ∨ window.height ≠ x.queueHeight then
        { x with resized := true }
      else x
  | .rotate => { x with rotation := window.rotation }
  | .getRotationCapability => x

section

variable {Surface : Type u}

def State.setWindow (st : State Surface) (window : WlEglWindow Surface) : State Surface :=
  { st with window := window }

/-- `wl_egl_window->private = surface`, and the callbacks. -/
def State.install (st : State Surface) (s : Surface) : State Surface :=
  { st.setWindow { st.window with
      privateSurface := some s
      resizeCallback := true
      rotateCallback := true
      getRotationCapability := true } with
    installed := true }

/-- `__tpl_wayland_egl_surface_init`. After `allocDequeuedBuffers` the cleanup
frees the list that is not there, and its assertion fails; after `createVblank`
it leaves the window as it is. -/
def State.surfaceInit (st : State Surface) (s : Surface) :
    Option InitFault → Option TplResult × State Surface
  | some .calloc => (some .errorOutOfMemory, st)
  | some .objectInit | some .allocAttachedBuffers | some .queueCreate | some .addResetCb =>
      (some .errorInvalidOperation, st)
  | some .allocDequeuedBuffers => (none, st)
  | some .createVblank => (some .errorInvalidOperation, st.install s)
  | none =>
      let window := st.window
      (some .errorNone, { st.install s with
        live := some (s, {
          width := window.width
          height := window.height
          rotation := window.rotation
          rotationCapability := false
          queueWidth := window.width
          queueHeight := window.height
          resized := false }) })

/-- `__tpl_wayland_egl_surface_fini`, which returns early where the init failed. -/
def State.surfaceFini (st : State Surface) (backendData : Bool) : State Surface :=
  if backendData then st.setWindow { st.window with privateSurface := none } else st

/-- `tpl_surface_create`. -/
def State.surfaceCreate (st : State Surface) (s : Surface) : CreateOutcome → State Surface
  | .surfaceAllocFailed | .surfaceObjectInitFailed => st
  | .backendInit fault =>
      match st.surfaceInit s fault with
      | (none, st) => { st with crashed := true }
      | (some .errorNone, st) => st
      | (some _, st) => st.surfaceFini false

/-- The last `tpl_object_unreference` of the surface. -/
def State.surfaceDestroy (st : State Surface) : State Surface :=
  { st.surfaceFini true with live := none }

def WlEglWindow.size (window : WlEglWindow Surface) : Int × Int :=
  if window.rotation.sideways then (window.height, window.width)
  else (window.width, window.height)

def WlEglWindow.setSize (window : WlEglWindow Surface) (width height : Int) :
    WlEglWindow Surface :=
  if window.rotation.sideways then { window with width := height, height := width }
  else { window with width := width, height := height }

variable [DecidableEq Surface]

def State.invoke (st : State Surface) (callback : Callback) : State Surface :=
  let st' := { st with
    invocations :=
      ⟨callback, st.window.privateSurface, st.live.map Prod.fst⟩ :: st.invocations }
  match st.live with
  | some (s, x) =>
      if st.window.privateSurface = some s then
        { st' with live := some (s, callback.body st.window x) }
      else { st' with crashed := true }
  | none => { st' with crashed := true }

/-- `if (egl_window->callback) egl_window->callback(egl_window, egl_window->private)`. -/
def State.call (st : State Surface) (present : Bool) (callback : Callback) : State Surface :=
  if present then st.invoke callback else st

def State.setOffset (st : State Surface) (dx dy : Int) : State Surface :=
  st.setWindow { st.window with dx := dx, dy := dy }

def State.rotate (st : State Surface) (rotation : WlEglWindowRotation) : State Surface :=
  st.setWindow { st.window with rotation := rotation }

def State.swapSize (st : State Surface) : State Surface :=
  st.setWindow { st.window with width := st.window.height, height := st.window.width }

/-- `wl_egl_window_resize`. -/
def State.resize (st : State Surface) (width height dx dy : Int) : State Surface :=
  let st := st.setOffset dx dy
  if st.window.size = (width, height) then st
  else (st.setWindow (st.window.setSize width height)).call st.window.resizeCallback .resize

/-- `wl_egl_window_set_rotation`. -/
def State.setRotation (st : State Surface) (rotation : WlEglWindowRotation) : State Surface :=
  let prevRotation := st.window.rotation
  if prevRotation = rotation then st
  else if rotation.upright = false ∧ rotation.sideways = false then st
  else
    let st := (st.rotate rotation).call st.window.rotateCallback .rotate
    -- A failed assertion in the callback does not return here.
    if st.crashed = false ∧ exchanges prevRotation rotation = true ∧
        st.window.resizeCallback = true then
      st.swapSize.invoke .resize
    else st

/-- `wl_egl_window_get_capabilities`. -/
def State.getCapabilities (st : State Surface) : WlEglWindowCapability × State Surface :=
  let st' := st.call st.window.getRotationCapability .getRotationCapability
  if st.window.getRotationCapability then
    match st'.live with
    | some (_, x) =>
        (if x.rotationCapability then .rotationSupported else .rotationUnsupported, st')
    | none => (.none, st')
  else (.rotationUnknown, st')

def step (st : State Surface) (l : Label Surface) : Option (State Surface) :=
  if st.crashed then none
  else match l with
    | .resize width height dx dy => some (st.resize width height dx dy)
    | .setRotation rotation => some (st.setRotation rotation)
    | .getCapabilities => some st.getCapabilities.2
    | .surfaceCreate s outcome =>
        match st.live with
        | none => some (st.surfaceCreate s outcome)
        | some _ => none
    | .setRotationCapability set =>
        match st.live with
        | some (s, x) => some { st with live := some (s, { x with rotationCapability := set }) }
        | none => none
    | .surfaceDestroy =>
        match st.live with
        | some _ => some st.surfaceDestroy
        | none => none

/-- What `wl_egl_window_create` leaves. -/
def newWindow (width height : Int) : State Surface where
  window := ⟨width, height, 0, 0, .rotation0, none, false, false, false⟩
  live := none
  installed := false
  invocations := []
  crashed := false

def windowSystem : System (State Surface) (Label Surface) where
  Initial st := ∃ width height, st = newWindow width height
  step := step

end

section

variable {Surface : Type u}

/-- Every callback was called with the surface that was alive then. -/
def Sound (st : State Surface) : Prop :=
  ∀ i ∈ st.invocations, ∃ s, i.privateSurface = some s ∧ i.live = some s

/-- The window operations that call back: a resize to another size, a change to
another rotation and every query. -/
def Label.CallsBack (window : WlEglWindow Surface) : Label Surface → Prop
  | .resize width height _ _ => window.size ≠ (width, height)
  | .setRotation rotation =>
      window.rotation ≠ rotation ∧ (rotation.upright = true ∨ rotation.sideways = true)
  | .getCapabilities => True
  | .surfaceCreate _ _ | .setRotationCapability _ | .surfaceDestroy => False

/-- A window operation that calls back comes before any surface init has written
the callbacks, or while a surface is alive. -/
def WhileLive (st : State Surface) (l : Label Surface) : Prop :=
  l.CallsBack st.window → st.installed = false ∨ st.live ≠ none

structure Inv (st : State Surface) : Prop where
  resizeCallback : st.window.resizeCallback = st.installed
  rotateCallback : st.window.rotateCallback = st.installed
  getRotationCapability : st.window.getRotationCapability = st.installed
  live : ∀ s x, st.live = some (s, x) → st.window.privateSurface = some s
  sound : Sound st

theorem inv_newWindow (width height : Int) : Inv (newWindow width height : State Surface) :=
  ⟨rfl, rfl, rfl, nofun, nofun⟩

theorem Inv.reshape {st : State Surface} (h : Inv st) {window : WlEglWindow Surface}
    (hresize : window.resizeCallback = st.window.resizeCallback)
    (hrotate : window.rotateCallback = st.window.rotateCallback)
    (hcapability : window.getRotationCapability = st.window.getRotationCapability)
    (hprivate : window.privateSurface = st.window.privateSurface) :
    Inv (st.setWindow window) :=
  ⟨hresize.trans h.resizeCallback, hrotate.trans h.rotateCallback,
    hcapability.trans h.getRotationCapability,
    fun s x hlive => hprivate.trans (h.live s x hlive), h.sound⟩

theorem Inv.install {st : State Surface} (h : Inv st) (hlive : st.live = none) (s : Surface) :
    Inv (st.install s) := by
  refine ⟨rfl, rfl, rfl, fun s' x hs' => ?_, h.sound⟩
  have hnone : st.live = some (s', x) := hs'
  rw [hlive] at hnone
  cases hnone

theorem Inv.surfaceCreate {st : State Surface} (h : Inv st) (hlive : st.live = none)
    (s : Surface) (outcome : CreateOutcome) : Inv (st.surfaceCreate s outcome) := by
  cases outcome with
  | surfaceAllocFailed | surfaceObjectInitFailed => exact h
  | backendInit fault =>
      cases fault with
      | none =>
          have hinstall := h.install hlive s
          refine ⟨rfl, rfl, rfl, ?_, h.sound⟩
          rintro s' x ⟨⟩
          rfl
      | some fault =>
          cases fault with
          | calloc | objectInit | allocAttachedBuffers | queueCreate | addResetCb => exact h
          | allocDequeuedBuffers =>
              exact ⟨h.resizeCallback, h.rotateCallback, h.getRotationCapability, h.live, h.sound⟩
          | createVblank => exact h.install hlive s

theorem Inv.surfaceDestroy {st : State Surface} (h : Inv st) : Inv st.surfaceDestroy :=
  ⟨h.resizeCallback, h.rotateCallback, h.getRotationCapability, nofun, h.sound⟩

section

variable [DecidableEq Surface]

theorem Inv.invoke {st : State Surface} (h : Inv st) (hlive : st.live ≠ none)
    (callback : Callback) :
    Inv (st.invoke callback) ∧ (st.invoke callback).live ≠ none := by
  cases hs : st.live with
  | none => exact absurd hs hlive
  | some sx =>
      obtain ⟨s, x⟩ := sx
      have hprivate := h.live s x hs
      simp only [State.invoke, hs, hprivate, if_true, Option.map_some]
      refine ⟨⟨h.resizeCallback, h.rotateCallback, h.getRotationCapability, ?_, ?_⟩, nofun⟩
      · rintro s' x' ⟨⟩
        exact hprivate
      · rintro i (_ | ⟨_, hi⟩)
        · exact ⟨s, rfl, rfl⟩
        · exact h.sound i hi

theorem not_sound_call {st : State Surface} (hlive : st.live = none) {present : Bool}
    (hpresent : present = true) (callback : Callback) :
    ¬ Sound (st.call present callback) ∧ (st.call present callback).crashed = true := by
  subst hpresent
  have hcrashed : st.invoke callback = { st with
      invocations := ⟨callback, st.window.privateSurface, none⟩ :: st.invocations
      crashed := true } := by
    simp only [State.invoke, hlive, Option.map_none]
  refine ⟨fun hsound => ?_, ?_⟩
  · have hcalled : Sound (st.invoke callback) := hsound
    rw [hcrashed] at hcalled
    obtain ⟨s, -, ⟨⟩⟩ := hcalled _ (List.mem_cons_self ..)
  · exact congrArg State.crashed hcrashed

theorem Inv.call {st : State Surface} (h : Inv st)
    (hallowed : st.installed = false ∨ st.live ≠ none) {present : Bool}
    (hpresent : present = st.installed) (callback : Callback) :
    Inv (st.call present callback) ∧ ((st.call present callback).installed = false ∨
      (st.call present callback).live ≠ none) := by
  cases present with
  | false => exact ⟨h, hallowed⟩
  | true =>
      have hlive : st.live ≠ none := by
        refine hallowed.resolve_left fun hinstalled => ?_
        rw [← hpresent] at hinstalled
        cases hinstalled
      have hcalled := h.invoke hlive callback
      exact ⟨hcalled.1, .inr hcalled.2⟩

theorem Inv.resize {st : State Surface} (h : Inv st) (width height dx dy : Int)
    (hallowed : st.window.size ≠ (width, height) → st.installed = false ∨ st.live ≠ none) :
    Inv (st.resize width height dx dy) := by
  have hmoved : Inv (st.setOffset dx dy) := h.reshape rfl rfl rfl rfl
  simp only [State.resize]
  split
  · exact hmoved
  · rename_i hsize
    have hsized : Inv ((st.setOffset dx dy).setWindow
        ((st.setOffset dx dy).window.setSize width height)) := by
      rw [WlEglWindow.setSize]
      split
      · exact hmoved.reshape rfl rfl rfl rfl
      · exact hmoved.reshape rfl rfl rfl rfl
    exact (hsized.call (hallowed hsize) h.resizeCallback .resize).1

theorem Inv.setRotation {st : State Surface} (h : Inv st) (rotation : WlEglWindowRotation)
    (hallowed : st.window.rotation ≠ rotation ∧
      (rotation.upright = true ∨ rotation.sideways = true) →
        st.installed = false ∨ st.live ≠ none) : Inv (st.setRotation rotation) := by
  simp only [State.setRotation]
  split
  · exact h
  · rename_i hne
    split
    · exact h
    · rename_i hvalid
      have hlive := hallowed ⟨hne, by
        by_contra hother
        exact hvalid (by simpa using hother)⟩
      have hturned : Inv (st.rotate rotation) := h.reshape rfl rfl rfl rfl
      obtain ⟨hrotated, hlive'⟩ := hturned.call hlive h.rotateCallback .rotate
      split
      · rename_i hresize
        have hpresent := hrotated.resizeCallback
        rw [hresize.2.2] at hpresent
        have hsurface := hlive'.resolve_left (by rw [← hpresent]; exact nofun)
        have hswapped : Inv ((st.rotate rotation).call st.window.rotateCallback .rotate).swapSize :=
          hrotated.reshape rfl rfl rfl rfl
        exact (hswapped.invoke hsurface .resize).1
      · exact hrotated

theorem getCapabilities_state (st : State Surface) : st.getCapabilities.2 =
    st.call st.window.getRotationCapability .getRotationCapability := by
  simp only [State.getCapabilities]
  split
  · split
    · rfl
    · rfl
  · rfl

theorem inv_step {st st' : State Surface} {l : Label Surface} (h : Inv st)
    (hallowed : WhileLive st l) (hstep : step st l = some st') : Inv st' := by
  simp only [step] at hstep
  split at hstep
  · cases hstep
  · cases l with
    | resize width height dx dy =>
        cases hstep
        exact h.resize width height dx dy hallowed
    | setRotation rotation =>
        cases hstep
        exact h.setRotation rotation hallowed
    | getCapabilities =>
        cases hstep
        rw [getCapabilities_state]
        exact (h.call (hallowed trivial) h.getRotationCapability .getRotationCapability).1
    | surfaceCreate s outcome =>
        dsimp only at hstep
        split at hstep
        · rename_i hlive
          cases hstep
          exact h.surfaceCreate hlive s outcome
        · cases hstep
    | setRotationCapability set =>
        dsimp only at hstep
        split at hstep
        · rename_i s x hlive
          cases hstep
          refine ⟨h.resizeCallback, h.rotateCallback, h.getRotationCapability, ?_, h.sound⟩
          rintro s' x' ⟨⟩
          exact h.live s x hlive
        · cases hstep
    | surfaceDestroy =>
        dsimp only at hstep
        split at hstep
        · cases hstep
          exact h.surfaceDestroy
        · cases hstep

theorem whileLive_of_sound {st st' : State Surface} {l : Label Surface} (h : Inv st)
    (hstep : step st l = some st') (hsound : Sound st') : WhileLive st l := by
  intro hcalls
  by_contra hdead
  have hinstalled : st.installed = true := by
    by_contra hne
    exact hdead (.inl (by simpa using hne))
  have hlive : st.live = none := by
    by_contra hne
    exact hdead (.inr hne)
  simp only [step] at hstep
  split at hstep
  · cases hstep
  · cases l with
    | resize width height dx dy =>
        cases hstep
        have hsize : (st.setOffset dx dy).window.size ≠ (width, height) := hcalls
        have hsized : ((st.setOffset dx dy).setWindow
            ((st.setOffset dx dy).window.setSize width height)).live = none := hlive
        simp only [State.resize, if_neg hsize] at hsound
        exact (not_sound_call hsized (h.resizeCallback.trans hinstalled) .resize).1 hsound
    | setRotation rotation =>
        cases hstep
        have hvalid : ¬ (rotation.upright = false ∧ rotation.sideways = false) := by
          rintro ⟨hupright, hsideways⟩
          have hother := hcalls.2
          rw [hupright, hsideways] at hother
          exact hother.elim nofun nofun
        have hturned : (st.rotate rotation).live = none := hlive
        have hrotated := not_sound_call hturned (h.rotateCallback.trans hinstalled) .rotate
        simp only [State.setRotation, if_neg hcalls.1, if_neg hvalid, hrotated.2, reduceCtorEq,
          false_and, if_false] at hsound
        exact hrotated.1 hsound
    | getCapabilities =>
        cases hstep
        rw [getCapabilities_state] at hsound
        exact (not_sound_call hlive (h.getRotationCapability.trans hinstalled) _).1 hsound
    | surfaceCreate _ _ | setRotationCapability _ | surfaceDestroy => exact hcalls

/-- The callbacks get a live surface in exactly the runs in which no window
operation calls back between the end of an installed surface and the next one. -/
theorem sound_iff (width height : Int) (ls : List (Label Surface)) (st : State Surface)
    (hrun : windowSystem.run (newWindow width height) ls = some st) :
    windowSystem.Always Sound (newWindow width height) ls ↔
      windowSystem.EveryStep WhileLive (newWindow width height) ls := by
  refine System.always_iff_everyStep (inv_newWindow width height) hrun ?_ ?_ ?_
  · intro _ _ _ hinv hallowed hstep
    exact inv_step hinv hallowed hstep
  · intro _ hinv
    exact hinv.sound
  · intro _ _ _ hinv hstep hsound
    exact whileLive_of_sound hinv hstep hsound

def resizeAround : List (Label Nat) :=
  [.resize 20 10 0 0, .surfaceCreate 1 (.backendInit none), .resize 30 10 0 0, .surfaceDestroy,
    .resize 30 10 5 5, .surfaceCreate 2 (.backendInit none), .setRotation .rotation90,
    .getCapabilities]

theorem sound_resize_around :
    ∃ st, windowSystem.run (newWindow 10 10) resizeAround = some st ∧
      (windowSystem.Always Sound (newWindow 10 10) resizeAround ↔
        windowSystem.EveryStep WhileLive (newWindow 10 10) resizeAround) := by
  obtain ⟨st, hrun, -⟩ := windowSystem.exists_of_run
    (fun st => st.invocations.length = 4 ∧ st.crashed = false) (newWindow 10 10) resizeAround
    (by decide)
  exact ⟨st, hrun, sound_iff _ _ _ st hrun⟩

/-- The surface of the window is destroyed before the window is resized. -/
def resizeAfterDestroy : List (Label Nat) :=
  [.surfaceCreate 1 (.backendInit none), .surfaceDestroy, .resize 20 10 0 0]

/-- The resize callback, still there, is then called with `NULL`. -/
theorem not_sound :
    ¬ ∀ st : State Nat, windowSystem.Reachable st → Sound st := by
  intro hall
  obtain ⟨st, hrun, hinvocations⟩ := windowSystem.exists_of_run
    (fun st => st.invocations = [⟨.resize, none, none⟩]) (newWindow 10 10) resizeAfterDestroy
    (by decide)
  obtain ⟨s, ⟨⟩, -⟩ := hall st (.of_run (.initial ⟨_, _, rfl⟩) hrun) ⟨.resize, none, none⟩
    (by rw [hinvocations]; exact List.mem_cons_self ..)

end

end

end LibtplEgl.WindowCallbacks
