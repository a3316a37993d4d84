import LibtplEgl.LabelledSystem

namespace LibtplEgl.SurfaceInvalidation

open LibtplEgl.LabelledSystem

/-- The steps of `__tpl_wayland_egl_surface_dequeue_buffer`. `readSize` up to
`clearResetAfterResize` are its branch for a resized window, `waitDequeuable` up to
`trackBuffer` are run by every call that does not fail. -/
inductive Pc
  | idle
  | testResized
  | readSize
  | resetQueue (width height : Int)
  | setSize (width height : Int)
  | clearResized
  | clearResetAfterResize
  | waitDequeuable
  | takeBuffer
  | getBufferRecord
  | clearReset
  | trackBuffer
  deriving DecidableEq, Repr

namespace Pc

/-- Between the read of the window size and the store that clears `resized`. -/
def sizeRead : Pc → Bool
  | .resetQueue _ _ | .setSize _ _ | .clearResized => true
  | _ => false

def beforeSize : Pc → Bool
  | .testResized | .readSize => true
  | _ => false

/-- Between the take from the queue and the store that clears `reset`. -/
def bufferTaken : Pc → Bool
  | .getBufferRecord | .clearReset => true
  | _ => false

def beforeTake : Pc → Bool
  | .testResized | .readSize | .resetQueue _ _ | .setSize _ _ | .clearResized
  | .clearResetAfterResize | .waitDequeuable | .takeBuffer => true
  | _ => false

end Pc

/-- A window, the tbm queue of its surface and the flags of the backend. The last
two fields record whether a resize to a size other than the queue's was reported
after the latest dequeue read the window size, and whether a queue reset was
reported after it took its buffer. -/
structure State where
  window : Int × Int
  queue : Int × Int
  surface : Int × Int
  resized : Bool
  reset : Bool
  pc : Pc
  resizeReported : Bool
  resetReported : Bool
  deriving DecidableEq, Repr

/-- `advance` is the next step of the dequeue, with the outcome of what it calls:
whether `tbm_surface_queue_reset` runs the reset callback, whether the wait and the
take succeed, and whether there is a buffer record or one can be made. The other
labels are other threads. -/
inductive Label
  | dequeueBuffer
  | advance (outcome : Bool)
  | windowSize (width height : Int)
  | resizeCallback
  | queueReset (width height : Int)
  | flush (resets : Bool)
  deriving DecidableEq, Repr

namespace State

/-- `__tpl_wayland_egl_surface_validate`. -/
def validate (st : State) : Bool := !(st.resized || st.reset)

/-- `__cb_tbm_surface_queue_reset_callback`. -/
def resetCallback (st : State) : State := { st with reset := true }

/-- The reset callback in a thread other than the one that dequeues. -/
def reportReset (st : State) : State :=
  { st.resetCallback with resetReported := st.resetReported || !st.pc.beforeTake }

/-- `__cb_client_window_resize_callback`. -/
def resizeCallback (st : State) : State :=
  if st.window.1 ≠ st.queue.1 ∨ st.window.2 ≠ st.queue.2 then
    { st with resized := true, resizeReported := st.resizeReported || !st.pc.beforeSize }
  else st

def advance (st : State) (outcome : Bool) : Option State :=
  match st.pc with
  | .idle => none
  | .testResized => some { st with pc := if st.resized then .readSize else .waitDequeuable }
  | .readSize => some { st with pc := .resetQueue st.window.1 st.window.2 }
  | .resetQueue width height =>
      let st₁ := if outcome then st.resetCallback else st
      some { st₁ with queue := (width, height), pc := .setSize width height }
  | .setSize width height => some { st with surface := (width, height), pc := .clearResized }
  | .clearResized => some { st with resized := false, pc := .clearResetAfterResize }
  | .clearResetAfterResize => some { st with reset := false, pc := .waitDequeuable }
  | .waitDequeuable => some { st with pc := if outcome then .takeBuffer else .idle }
  | .takeBuffer => some { st with pc := if outcome then .getBufferRecord else .idle }
  | .getBufferRecord => some { st with pc := if outcome then .clearReset else .idle }
  | .clearReset => some { st with reset := false, pc := .trackBuffer }
  | .trackBuffer => some { st with pc := .idle }

end State

def step (st : State) : Label → Option State
  | .dequeueBuffer =>
      match st.pc with
      | .idle =>
          some { st with pc := .testResized, resizeReported := false, resetReported := false }
      | _ => none
  | .advance outcome => st.advance outcome
  | .windowSize width height => some { st with window := (width, height) }
  | .resizeCallback => some st.resizeCallback
  | .queueReset width height => some { st.reportReset with queue := (width, height) }
  | .flush resets => some (if resets then st.reportReset else st)

/-- The surface after `__tpl_wayland_egl_surface_init`. -/
def newSurface (width height : Int) : State where
  window := (width, height)
  queue := (width, height)
  surface := (width, height)
  resized := false
  reset := false
  pc := .idle
  resizeReported := false
  resetReported := false

def surfaceSystem : System State Label where
  Initial st := ∃ width height, st = newSurface width height
  step := step

/-- What was reported after the dequeue looked shows in `tpl_surface_validate`. -/
def Invalidated (st : State) : Prop :=
  st.resizeReported = true ∨ st.resetReported = true → st.validate = false

/-- No resize is reported between the read of the window size and the store that
clears `resized`, and no reset between the take and the store that clears `reset`. -/
def ReportsApart (st : State) : Label → Prop
  | .resizeCallback => st.pc.sizeRead = false ∨ st.window = st.queue
  | .queueReset _ _ | .flush true => st.pc.bufferTaken = false
  | _ => True

/-- A recorded report still has its flag, and where the dequeue is going to clear
a flag nothing has been reported. -/
structure Inv (st : State) : Prop where
  resized : st.resizeReported = true → st.resized = true
  reset : st.resetReported = true → st.reset = true
  resizeClear : st.pc.beforeSize = true ∨ st.pc.sizeRead = true → st.resizeReported = false
  resetClear : st.pc.beforeTake = true ∨ st.pc.bufferTaken = true → st.resetReported = false

theorem Inv.toInvalidated {st : State} (h : Inv st) : Invalidated st := by
  rintro (hresize | hreset)
  · rw [State.validate, h.resized hresize, Bool.true_or, Bool.not_true]
  · rw [State.validate, h.reset hreset, Bool.or_true, Bool.not_true]

theorem Inv.reportReset {st : State} (h : Inv st) (hpc : st.pc.bufferTaken = false) :
    Inv st.reportReset := by
  refine ⟨h.resized, fun _ => rfl, h.resizeClear, ?_⟩
  rintro (hbefore | htaken)
  · have hquiet := h.resetClear (.inl hbefore)
    have hbefore' : st.pc.beforeTake = true := hbefore
    simp [State.reportReset, hquiet, hbefore']
  · exact absurd (hpc.symm.trans htaken) nofun

theorem Inv.resizeCallback {st : State} (h : Inv st)
    (hpc : st.pc.sizeRead = false ∨ st.window = st.queue) : Inv st.resizeCallback := by
  unfold State.resizeCallback
  split
  · rename_i hdiffers
    refine ⟨fun _ => rfl, h.reset, ?_, h.resetClear⟩
    rintro (hbefore | hread)
    · have hquiet := h.resizeClear (.inl hbefore)
      have hbefore' : st.pc.beforeSize = true := hbefore
      simp [hquiet, hbefore']
    · rcases hpc with hpc | hsame
      · exact absurd (hpc.symm.trans hread) nofun
      · rw [hsame] at hdiffers
        exact absurd hdiffers (by simp)
  · exact h

theorem Inv.goto {st st' : State} (h : Inv st) (hresized : st'.resized = st.resized)
    (hreset : st.reset = true → st'.reset = true)
    (hresizeReported : st'.resizeReported = st.resizeReported)
    (hresetReported : st'.resetReported = st.resetReported)
    (hsize : st'.pc.beforeSize = true ∨ st'.pc.sizeRead = true →
      st.pc.beforeSize = true ∨ st.pc.sizeRead = true)
    (htake : st'.pc.beforeTake = true ∨ st'.pc.bufferTaken = true →
      st.pc.beforeTake = true ∨ st.pc.bufferTaken = true) : Inv st' := by
  constructor
  · rw [hresized, hresizeReported]
    exact h.resized
  · rw [hresetReported]
    exact fun hreported => hreset (h.reset hreported)
  · rw [hresizeReported]
    exact fun hpc => h.resizeClear (hsize hpc)
  · rw [hresetReported]
    exact fun hpc => h.resetClear (htake hpc)

theorem inv_advance {st st' : State} {outcome : Bool} (h : Inv st)
    (hstep : st.advance outcome = some st') : Inv st' := by
  cases hpc : st.pc with
  | idle => simp [State.advance, hpc] at hstep
  | testResized =>
      simp only [State.advance, hpc] at hstep
      cases hstep
      exact h.goto rfl id rfl rfl (by simp [hpc, Pc.beforeSize]) (by simp [hpc, Pc.beforeTake])
  | readSize =>
      simp only [State.advance, hpc] at hstep
      cases hstep
      exact h.goto rfl id rfl rfl (by simp [hpc, Pc.beforeSize]) (by simp [hpc, Pc.beforeTake])
  | resetQueue width height =>
      simp only [State.advance, hpc] at hstep
      cases hstep
      split
      · exact h.goto rfl (fun _ => rfl) rfl rfl (by simp [hpc, Pc.sizeRead])
          (by simp [hpc, Pc.beforeTake])
      · exact h.goto rfl id rfl rfl (by simp [hpc, Pc.sizeRead]) (by simp [hpc, Pc.beforeTake])
  | setSize width height =>
      simp only [State.advance, hpc] at hstep
      cases hstep
      exact h.goto rfl id rfl rfl (by simp [hpc, Pc.sizeRead]) (by simp [hpc, Pc.beforeTake])
  | clearResized =>
      have hresize := h.resizeClear (by rw [hpc]; exact .inr rfl)
      have hreset := h.resetClear (by rw [hpc]; exact .inl rfl)
      simp only [State.advance, hpc] at hstep
      cases hstep
      refine ⟨fun hreported => ?_, h.reset, fun _ => hresize, fun _ => hreset⟩
      exact absurd (hresize.symm.trans hreported) nofun
  | clearResetAfterResize =>
      have hreset := h.resetClear (by rw [hpc]; exact .inl rfl)
      simp only [State.advance, hpc] at hstep
      cases hstep
      refine ⟨h.resized, fun hreported => ?_, nofun, fun _ => hreset⟩
      exact absurd (hreset.symm.trans hreported) nofun
  | waitDequeuable =>
      simp only [State.advance, hpc] at hstep
      cases hstep
      exact h.goto rfl id rfl rfl (by split <;> nofun) (by simp [hpc, Pc.beforeTake])
  | takeBuffer =>
      simp only [State.advance, hpc] at hstep
      cases hstep
      exact h.goto rfl id rfl rfl (by split <;> nofun) (by simp [hpc, Pc.beforeTake])
  | getBufferRecord =>
      simp only [State.advance, hpc] at hstep
      cases hstep
      exact h.goto rfl id rfl rfl (by split <;> nofun) (by simp [hpc, Pc.bufferTaken])
  | clearReset =>
      have hreset := h.resetClear (by rw [hpc]; exact .inr rfl)
      simp only [State.advance, hpc] at hstep
      cases hstep
      refine ⟨h.resized, fun hreported => ?_, nofun, nofun⟩
      exact absurd (hreset.symm.trans hreported) nofun
  | trackBuffer =>
      simp only [State.advance, hpc] at hstep
      cases hstep
      exact h.goto rfl id rfl rfl nofun nofun

theorem inv_step {st st' : State} {l : Label} (h : Inv st) (hallowed : ReportsApart st l)
    (hstep : step st l = some st') : Inv st' := by
  cases l with
  | dequeueBuffer =>
      simp only [step] at hstep
      split at hstep
      · cases hstep
        exact ⟨nofun, nofun, fun _ => rfl, fun _ => rfl⟩
      · cases hstep
  | advance outcome => exact inv_advance h hstep
  | windowSize width height =>
      cases hstep
      exact ⟨h.resized, h.reset, h.resizeClear, h.resetClear⟩
  | resizeCallback =>
      cases hstep
      exact h.resizeCallback hallowed
  | queueReset width height =>
      cases hstep
      have hreset := h.reportReset hallowed
      exact ⟨hreset.resized, hreset.reset, hreset.resizeClear, hreset.resetClear⟩
  | flush resets =>
      cases hstep
      cases resets with
      | true => exact h.reportReset hallowed
      | false => exact h

/-- Every report that does not come between a look of a dequeue and the store that
clears its flag makes `tpl_surface_validate` fail until a later dequeue. -/
theorem invalidated {st : State} (h : surfaceSystem.ReachableWhen ReportsApart st) :
    Invalidated st := by
  have hinv : Inv st := by
    refine h.invariant ?_ fun _ _ _ hinv hallowed hstep => inv_step hinv hallowed hstep
    rintro _ ⟨width, height, rfl⟩
    exact ⟨nofun, nofun, nofun, nofun⟩
  exact hinv.toInvalidated

instance (st : State) (l : Label) : Decidable (ReportsApart st l) :=
  match l with
  | .resizeCallback => inferInstanceAs (Decidable (st.pc.sizeRead = false ∨ st.window = st.queue))
  | .queueReset _ _ | .flush true => inferInstanceAs (Decidable (st.pc.bufferTaken = false))
  | .dequeueBuffer | .advance _ | .windowSize _ _ | .flush false => isTrue trivial

def advances (n : Nat) : List Label := List.replicate n (.advance true)

def reportsApart : List Label :=
  .dequeueBuffer :: advances 1 ++ [.windowSize 20 30, .resizeCallback] ++ advances 5 ++
    [.queueReset 10 10]

theorem invalidated_reports_apart :
    ∃ st, surfaceSystem.runWhen ReportsApart (newSurface 10 10) reportsApart = some st ∧
      (st.pc = .idle ∧ st.resizeReported = true ∧ st.resetReported = true) ∧ Invalidated st := by
  obtain ⟨st, hrun, hfacts⟩ := surfaceSystem.exists_of_runWhen ReportsApart
    (fun st => st.pc = .idle ∧ st.resizeReported = true ∧ st.resetReported = true)
    (newSurface 10 10) reportsApart (by decide)
  exact ⟨st, hrun, hfacts, invalidated (.of_runWhen (.initial ⟨10, 10, rfl⟩) hrun)⟩

/-- The window is resized once more after the dequeue has read its size. -/
def resizedWhileDequeuing : List Label :=
  [.windowSize 20 30, .resizeCallback, .dequeueBuffer] ++ advances 2 ++
    [.windowSize 40 50, .resizeCallback] ++ advances 9

/-- The queue is reset after the dequeue has taken its buffer. -/
def resetWhileDequeuing : List Label :=
  .dequeueBuffer :: advances 3 ++ [.queueReset 10 10] ++ advances 3

theorem reports_lost :
    (¬ ∀ st, surfaceSystem.Reachable st → st.resizeReported = true → st.validate = false) ∧
    (¬ ∀ st, surfaceSystem.Reachable st → st.resetReported = true → st.validate = false) := by
  constructor
  · intro hall
    obtain ⟨st, hrun, hreported, hvalid, -⟩ := surfaceSystem.exists_of_run
      (fun st => st.resizeReported = true ∧ st.validate = true ∧ st.pc = .idle)
      (newSurface 10 10) resizedWhileDequeuing (by decide)
    have hinvalid := hall st (.of_run (.initial ⟨10, 10, rfl⟩) hrun) hreported
    rw [hvalid] at hinvalid
    cases hinvalid
  · intro hall
    obtain ⟨st, hrun, hreported, hvalid, -⟩ := surfaceSystem.exists_of_run
      (fun st => st.resetReported = true ∧ st.validate = true ∧ st.pc = .idle)
      (newSurface 10 10) resetWhileDequeuing (by decide)
    have hinvalid := hall st (.of_run (.initial ⟨10, 10, rfl⟩) hrun) hreported
    rw [hvalid] at hinvalid
    cases hinvalid

end LibtplEgl.SurfaceInvalidation
