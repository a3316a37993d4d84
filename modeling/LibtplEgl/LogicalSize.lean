import LibtplEgl.WindowCallbacks

namespace LibtplEgl.LogicalSize

open LibtplEgl.LabelledSystem
open LibtplEgl.WindowCallbacks (Callback WlEglWindow WlEglWindowRotation exchanges)

universe u

section

variable {Surface : Type u}

/-- `wl_egl_window_resize`: the window it leaves, and the callbacks it calls. -/
def wlEglWindowResize (eglWindow : WlEglWindow Surface) (width height dx dy : Int) :
    WlEglWindow Surface × List Callback :=
  let moved := { eglWindow with dx := dx, dy := dy }
  if moved.size = (width, height) then (moved, [])
  else
    (moved.setSize width height, if eglWindow.resizeCallback then [.resize] else [])

/-- `wl_egl_window_set_rotation`: the window it leaves, and the callbacks it calls. -/
def wlEglWindowSetRotation (eglWindow : WlEglWindow Surface) (rotation : WlEglWindowRotation) :
    WlEglWindow Surface × List Callback :=
  if eglWindow.rotation = rotation then (eglWindow, [])
  else if rotation.upright = false ∧ rotation.sideways = false then (eglWindow, [])
  else
    let turned := { eglWindow with rotation := rotation }
    let calls : List Callback := if eglWindow.rotateCallback then [.rotate] else []
    -- Width and height are exchanged for the callback only.
    if exchanges eglWindow.rotation rotation = true ∧ eglWindow.resizeCallback = true then
      ({ turned with width := eglWindow.height, height := eglWindow.width }, calls ++ [.resize])
    else (turned, calls)

/-- A window, the size that was last asked for, and the callbacks that were called. -/
structure State (Surface : Type u) where
  eglWindow : WlEglWindow Surface
  latestSize : Int × Int
  calls : List Callback
  deriving DecidableEq, Repr

/-- The callbacks of a window are written by its users at any time. -/
inductive Label
  | resize (width height dx dy : Int)
  | setRotation (rotation : WlEglWindowRotation)
  | setCallbacks (resizeCallback rotateCallback getRotationCapability : Bool)
  deriving DecidableEq, Repr

def step (st : State Surface) : Label → Option (State Surface)
  | .resize width height dx dy =>
      let result := wlEglWindowResize st.eglWindow width height dx dy
      some ⟨result.1, (width, height), st.calls ++ result.2⟩
  | .setRotation rotation =>
      let result := wlEglWindowSetRotation st.eglWindow rotation
      some ⟨result.1, st.latestSize, st.calls ++ result.2⟩
  | .setCallbacks resizeCallback rotateCallback getRotationCapability =>
      some { st with
        eglWindow := { st.eglWindow with
          resizeCallback := resizeCallback
          rotateCallback := rotateCallback
          getRotationCapability := getRotationCapability } }

def initialState (eglWindow : WlEglWindow Surface) : State Surface where
  eglWindow := { eglWindow with rotation := .rotation0 }
  latestSize := (eglWindow.width, eglWindow.height)
  calls := []

def logicalSystem : System (State Surface) Label where
  Initial st := ∃ eglWindow, st = initialState eglWindow
  step := step

def SizeKept (st : State Surface) : Prop :=
  st.eglWindow.size = st.latestSize

/-- A rotation that exchanges width and height finds a resize callback, or a
window for which the exchange makes no difference. -/
def TurnsWithCallback (st : State Surface) : Label → Prop
  | .setRotation rotation =>
      st.eglWindow.rotation ≠ rotation → exchanges st.eglWindow.rotation rotation = true →
        rotation.upright = true ∨ rotation.sideways = true →
        st.eglWindow.resizeCallback = true ∨ st.eglWindow.width = st.eglWindow.height
  | .resize _ _ _ _ | .setCallbacks _ _ _ => True

/-- A rotation of the window is one of the four. -/
structure Inv (st : State Surface) : Prop where
  rotation : st.eglWindow.rotation.upright = true ∨ st.eglWindow.rotation.sideways = true
  kept : SizeKept st

theorem inv_initialState (eglWindow : WlEglWindow Surface) : Inv (initialState eglWindow) :=
  ⟨.inl rfl, rfl⟩

theorem size_setSize (eglWindow : WlEglWindow Surface) (width height : Int) :
    (eglWindow.setSize width height).size = (width, height) := by
  cases h : eglWindow.rotation.sideways with
  | false => simp [WlEglWindow.size, WlEglWindow.setSize, h]
  | true => simp [WlEglWindow.size, WlEglWindow.setSize, h]

theorem setSize_rotation (eglWindow : WlEglWindow Surface) (width height : Int) :
    (eglWindow.setSize width height).rotation = eglWindow.rotation := by
  unfold WlEglWindow.setSize
  split
  · rfl
  · rfl

theorem wlEglWindowResize_rotation (eglWindow : WlEglWindow Surface) (width height dx dy : Int) :
    (wlEglWindowResize eglWindow width height dx dy).1.rotation = eglWindow.rotation := by
  unfold wlEglWindowResize
  dsimp only
  split
  · rfl
  · exact setSize_rotation _ _ _

/-- A resize gives the logical size that it is called with, in every rotation. -/
theorem wlEglWindowResize_size (eglWindow : WlEglWindow Surface) (width height dx dy : Int) :
    (wlEglWindowResize eglWindow width height dx dy).1.size = (width, height) := by
  unfold wlEglWindowResize
  dsimp only
  split
  · rename_i hsame
    exact hsame
  · exact size_setSize _ _ _

theorem exchanges_iff {prevRotation rotation : WlEglWindowRotation}
    (hprev : prevRotation.upright = true ∨ prevRotation.sideways = true)
    (hvalid : rotation.upright = true ∨ rotation.sideways = true) :
    exchanges prevRotation rotation = true ↔ prevRotation.sideways ≠ rotation.sideways := by
  cases prevRotation with
  | rotation0 | rotation90 | rotation180 | rotation270 =>
      cases rotation with
      | rotation0 | rotation90 | rotation180 | rotation270 => decide
      | other value => rcases hvalid with h | h <;> cases h
  | other value => rcases hprev with h | h <;> cases h

/-- What a call of `wl_egl_window_set_rotation` does to the window. -/
inductive Rotates (eglWindow : WlEglWindow Surface) (rotation : WlEglWindowRotation) :
    WlEglWindow Surface → Prop
  | same : eglWindow.rotation = rotation → Rotates eglWindow rotation eglWindow
  | invalid : rotation.upright = false → rotation.sideways = false →
      Rotates eglWindow rotation eglWindow
  | exchanged : eglWindow.rotation ≠ rotation →
      rotation.upright = true ∨ rotation.sideways = true →
      exchanges eglWindow.rotation rotation = true → eglWindow.resizeCallback = true →
      Rotates eglWindow rotation
        { eglWindow with
          rotation := rotation, width := eglWindow.height, height := eglWindow.width }
  | turned : eglWindow.rotation ≠ rotation →
      rotation.upright = true ∨ rotation.sideways = true →
      (exchanges eglWindow.rotation rotation = true → eglWindow.resizeCallback = false) →
      Rotates eglWindow rotation { eglWindow with rotation := rotation }

theorem rotates_wlEglWindowSetRotation (eglWindow : WlEglWindow Surface)
    (rotation : WlEglWindowRotation) :
    Rotates eglWindow rotation (wlEglWindowSetRotation eglWindow rotation).1 := by
  unfold wlEglWindowSetRotation
  dsimp only
  split
  · rename_i hsame
    exact .same hsame
  · rename_i hother
    split
    · rename_i hinvalid
      exact .invalid hinvalid.1 hinvalid.2
    · rename_i hvalid
      have hvalid' : rotation.upright = true ∨ rotation.sideways = true := by
        cases hup : rotation.upright with
        | true => exact .inl rfl
        | false =>
            refine .inr ?_
            cases hside : rotation.sideways with
            | true => rfl
            | false => exact absurd ⟨hup, hside⟩ hvalid
      split
      · rename_i hexchange
        exact .exchanged hother hvalid' hexchange.1 hexchange.2
      · rename_i hexchange
        refine .turned hother hvalid' fun h => ?_
        cases hcallback : eglWindow.resizeCallback with
        | false => rfl
        | true => exact absurd ⟨h, hcallback⟩ hexchange

theorem size_turned_iff {eglWindow : WlEglWindow Surface} {rotation : WlEglWindowRotation}
    (hprev : eglWindow.rotation.upright = true ∨ eglWindow.rotation.sideways = true)
    (hvalid : rotation.upright = true ∨ rotation.sideways = true) :
    WlEglWindow.size { eglWindow with rotation := rotation } = eglWindow.size ↔
      (exchanges eglWindow.rotation rotation = true → eglWindow.width = eglWindow.height) := by
  rw [exchanges_iff hprev hvalid]
  cases hold : eglWindow.rotation.sideways with
  | false =>
      cases hnew : rotation.sideways with
      | false => simp [WlEglWindow.size, hold, hnew]
      | true =>
          simp only [WlEglWindow.size, hold, hnew]
          constructor
          · intro h _
            exact (Prod.mk.inj h).2
          · intro h
            have hsides : eglWindow.width = eglWindow.height := h Bool.false_ne_true
            exact Prod.ext hsides.symm hsides
  | true =>
      cases hnew : rotation.sideways with
      | true => simp [WlEglWindow.size, hold, hnew]
      | false =>
          simp only [WlEglWindow.size, hold, hnew]
          constructor
          · intro h _
            exact (Prod.mk.inj h).1
          · intro h
            have hsides : eglWindow.width = eglWindow.height := h Bool.false_ne_true.symm
            exact Prod.ext hsides hsides.symm

theorem size_exchanged {eglWindow : WlEglWindow Surface} {rotation : WlEglWindowRotation}
    (hprev : eglWindow.rotation.upright = true ∨ eglWindow.rotation.sideways = true)
    (hvalid : rotation.upright = true ∨ rotation.sideways = true)
    (hexchange : exchanges eglWindow.rotation rotation = true) :
    WlEglWindow.size { eglWindow with
      rotation := rotation, width := eglWindow.height, height := eglWindow.width } =
      eglWindow.size := by
  have hne := (exchanges_iff hprev hvalid).mp hexchange
  cases hold : eglWindow.rotation.sideways with
  | false =>
      cases hnew : rotation.sideways with
      | false => exact absurd (hold.trans hnew.symm) hne
      | true => simp [WlEglWindow.size, hold, hnew]
  | true =>
      cases hnew : rotation.sideways with
      | true => exact absurd (hold.trans hnew.symm) hne
      | false => simp [WlEglWindow.size, hold, hnew]

theorem wlEglWindowSetRotation_size_iff {eglWindow : WlEglWindow Surface}
    (hprev : eglWindow.rotation.upright = true ∨ eglWindow.rotation.sideways = true)
    (rotation : WlEglWindowRotation) :
    (wlEglWindowSetRotation eglWindow rotation).1.size = eglWindow.size ↔
      (eglWindow.rotation ≠ rotation → exchanges eglWindow.rotation rotation = true →
        rotation.upright = true ∨ rotation.sideways = true →
        eglWindow.resizeCallback = true ∨ eglWindow.width = eglWindow.height) := by
  have hrotates := rotates_wlEglWindowSetRotation eglWindow rotation
  generalize (wlEglWindowSetRotation eglWindow rotation).1 = result at hrotates ⊢
  cases hrotates with
  | same hsame => exact ⟨fun _ hne => absurd hsame hne, fun _ => rfl⟩
  | invalid hup hside =>
      refine ⟨fun _ _ _ hvalid => ?_, fun _ => rfl⟩
      rcases hvalid with h | h
      · cases hup.symm.trans h
      · cases hside.symm.trans h
  | exchanged hne hvalid hexchange hcallback =>
      exact ⟨fun _ _ _ _ => .inl hcallback, fun _ => size_exchanged hprev hvalid hexchange⟩
  | turned hne hvalid hcallback =>
      rw [size_turned_iff hprev hvalid]
      constructor
      · intro h _ hexchange _
        exact .inr (h hexchange)
      · intro h hexchange
        rcases h hne hexchange hvalid with hpresent | hsides
        · cases (hcallback hexchange).symm.trans hpresent
        · exact hsides

theorem wlEglWindowSetRotation_rotation {eglWindow : WlEglWindow Surface}
    (hprev : eglWindow.rotation.upright = true ∨ eglWindow.rotation.sideways = true)
    (rotation : WlEglWindowRotation) :
    (wlEglWindowSetRotation eglWindow rotation).1.rotation.upright = true ∨
      (wlEglWindowSetRotation eglWindow rotation).1.rotation.sideways = true := by
  have hrotates := rotates_wlEglWindowSetRotation eglWindow rotation
  generalize (wlEglWindowSetRotation eglWindow rotation).1 = result at hrotates ⊢
  cases hrotates with
  | same _ | invalid _ _ => exact hprev
  | exchanged _ hvalid _ _ | turned _ hvalid _ => exact hvalid

theorem inv_step {st st' : State Surface} {l : Label} (h : Inv st)
    (hallowed : TurnsWithCallback st l) (hstep : step st l = some st') : Inv st' := by
  cases l with
  | resize width height dx dy =>
      obtain rfl := Option.some.inj hstep
      refine ⟨?_, wlEglWindowResize_size _ _ _ _ _⟩
      dsimp only
      rw [wlEglWindowResize_rotation]
      exact h.rotation
  | setRotation rotation =>
      obtain rfl := Option.some.inj hstep
      exact ⟨wlEglWindowSetRotation_rotation h.rotation rotation,
        ((wlEglWindowSetRotation_size_iff h.rotation rotation).mpr hallowed).trans h.kept⟩
  | setCallbacks resizeCallback rotateCallback getRotationCapability =>
      obtain rfl := Option.some.inj hstep
      exact ⟨h.rotation, h.kept⟩

theorem turnsWithCallback_of_kept {st st' : State Surface} {l : Label} (h : Inv st)
    (hstep : step st l = some st') (hkept : SizeKept st') : TurnsWithCallback st l := by
  cases l with
  | resize _ _ _ _ | setCallbacks _ _ _ => trivial
  | setRotation rotation =>
      obtain rfl := Option.some.inj hstep
      exact (wlEglWindowSetRotation_size_iff h.rotation rotation).mp (hkept.trans h.kept.symm)

/-- The logical size is the one last asked for in exactly the runs in which no
rotation turns a window that has no resize callback. -/
theorem sizeKept_iff (eglWindow : WlEglWindow Surface) (ls : List Label) (st : State Surface)
    (hrun : logicalSystem.run (initialState eglWindow) ls = some st) :
    logicalSystem.Always SizeKept (initialState eglWindow) ls ↔
      logicalSystem.EveryStep TurnsWithCallback (initialState eglWindow) ls := by
  refine System.always_iff_everyStep (inv_initialState eglWindow) hrun ?_ ?_ ?_
  · intro _ _ _ h hallowed hstep
    exact inv_step h hallowed hstep
  · intro _ h
    exact h.kept
  · intro _ _ _ h hstep hkept
    exact turnsWithCallback_of_kept h hstep hkept

end

def bareWindow : WlEglWindow Nat :=
  ⟨60, 30, 0, 0, .rotation0, none, false, false, false⟩

def turnWithCallback : List Label :=
  [.setCallbacks true true true, .setRotation .rotation90, .resize 80 40 0 0,
    .setRotation .rotation180]

theorem sizeKept_turnWithCallback :
    ∃ st, logicalSystem.run (initialState bareWindow) turnWithCallback = some st ∧
      (logicalSystem.Always SizeKept (initialState bareWindow) turnWithCallback ↔
        logicalSystem.EveryStep TurnsWithCallback (initialState bareWindow)
          turnWithCallback) := by
  obtain ⟨st, hrun, -⟩ := logicalSystem.exists_of_run
    (fun st => st.eglWindow.size = (80, 40)) (initialState bareWindow) turnWithCallback
    (by decide)
  exact ⟨st, hrun, sizeKept_iff bareWindow turnWithCallback st hrun⟩

theorem not_sizeKept :
    ¬ ∀ st : State Nat, logicalSystem.Reachable st → SizeKept st := by
  intro hall
  obtain ⟨st, hrun, hsize⟩ := logicalSystem.exists_of_run
    (fun st => st.eglWindow.size = (30, 60) ∧ st.latestSize = (60, 30))
    (initialState bareWindow) [.setRotation .rotation90] (by decide)
  have hkept : st.eglWindow.size = st.latestSize := hall st (.of_run (.initial ⟨_, rfl⟩) hrun)
  rw [hsize.1, hsize.2] at hkept
  exact absurd hkept (by decide)

section

variable {Surface : Type u} [DecidableEq Surface]

theorem invoke_window (st : WindowCallbacks.State Surface) (callback : Callback) :
    (st.invoke callback).window = st.window := by
  unfold WindowCallbacks.State.invoke
  dsimp only
  split
  · split
    · rfl
    · rfl
  · rfl

theorem call_window (st : WindowCallbacks.State Surface) (present : Bool) (callback : Callback) :
    (st.call present callback).window = st.window := by
  cases present with
  | false => rfl
  | true => exact invoke_window st callback

/-- With the callbacks of the backend, a resize leaves the same window. -/
theorem resize_window (st : WindowCallbacks.State Surface) (width height dx dy : Int) :
    (st.resize width height dx dy).window =
      (wlEglWindowResize st.window width height dx dy).1 := by
  unfold WindowCallbacks.State.resize wlEglWindowResize
  dsimp only [WindowCallbacks.State.setOffset, WindowCallbacks.State.setWindow]
  split
  · rfl
  · exact call_window _ _ _

/-- With the callbacks of the backend, a rotation leaves the same window. -/
theorem setRotation_window {st : WindowCallbacks.State Surface} {rotation : WlEglWindowRotation}
    (hcrashed : (st.setRotation rotation).crashed = false) :
    (st.setRotation rotation).window = (wlEglWindowSetRotation st.window rotation).1 := by
  unfold WindowCallbacks.State.setRotation wlEglWindowSetRotation at *
  dsimp only at *
  split at hcrashed
  · rename_i hsame
    rw [if_pos hsame, if_pos hsame]
  · rename_i hother
    rw [if_neg hother, if_neg hother]
    split at hcrashed
    · rename_i hinvalid
      rw [if_pos hinvalid, if_pos hinvalid]
    · rename_i hvalid
      rw [if_neg hvalid, if_neg hvalid]
      have hturned := call_window (st.rotate rotation) st.window.rotateCallback .rotate
      split at hcrashed
      · rename_i hswap
        have hcallback : st.window.resizeCallback = true := by
          have h := hswap.2.2
          rw [hturned] at h
          exact h
        rw [if_pos hswap, if_pos ⟨hswap.2.1, hcallback⟩, invoke_window]
        dsimp only [WindowCallbacks.State.swapSize, WindowCallbacks.State.setWindow]
        rw [hturned]
        rfl
      · rename_i hswap
        have hkeep : ¬ (exchanges st.window.rotation rotation = true ∧
            st.window.resizeCallback = true) := by
          rintro ⟨hexchange, hcallback⟩
          refine hswap ⟨hcrashed, hexchange, ?_⟩
          rw [hturned]
          exact hcallback
        rw [if_neg hswap, if_neg hkeep, hturned]
        rfl

end

end LibtplEgl.LogicalSize
