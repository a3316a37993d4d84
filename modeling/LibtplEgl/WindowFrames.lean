import LibtplEgl.PixelRegion
import LibtplEgl.WaylandEglSurface
import LibtplEgl.WindowCallbacks

namespace LibtplEgl.WindowFrames

open LibtplEgl.LabelledSystem
open LibtplEgl.PixelRegion
open LibtplEgl.TplTypes
open LibtplEgl.WaylandEglSurface (DequeueOutcome EnqueueOutcome)
open LibtplEgl.WindowCallbacks (WlEglWindow WlEglWindowRotation)

universe u v

structure TbmSize where
  width : Int
  height : Int
  width_pos : 0 < width
  height_pos : 0 < height
  deriving DecidableEq

def TbmSize.rect (size : TbmSize) : Rect := ⟨0, 0, size.width, size.height⟩

/-- A buffer that a dequeue returned, with its size and that of the window then. -/
structure DequeueRecord (Buffer : Type v) where
  buffer : Buffer
  size : TbmSize
  windowSize : Int × Int
  deriving DecidableEq

/-- What `__tpl_wayland_egl_surface_commit` was called with and passed on, and what
`wl_egl_window_get_attached_size` reports after it. -/
structure CommitRecord (Buffer : Type v) where
  buffer : Buffer
  size : TbmSize
  numRects : Int
  rects : Option (List Rect)
  offset : Int × Int
  damage : List Rect
  attachedSize : Int × Int
  deriving DecidableEq

inductive Event (Buffer : Type v)
  | resize (dx dy : Int)
  | commit (record : CommitRecord Buffer)
  deriving DecidableEq

/-- A window, the surface on it, its tbm queue and the tbm_surfaces; the surface's
`resized` flag is the one in `window`. The last two fields record the run, the latest
dequeue and the latest event first. -/
structure State (Surface : Type u) (Buffer : Type v) where
  window : WindowCallbacks.State Surface
  egl : WaylandEglSurface.State Buffer
  queued : List Buffer
  bufferSize : Buffer → TbmSize
  attachedSize : Int × Int
  dequeues : List (DequeueRecord Buffer)
  history : List (Event Buffer)

inductive Label (Surface : Type u) (Buffer : Type v)
  | resize (width height dx dy : Int)
  | setRotation (rotation : WlEglWindowRotation)
  | surfaceCreate (s : Surface)
  | queueReset
  | dequeueBuffer (waited : Bool) (allocated : Option Buffer) (out : DequeueOutcome Buffer)
  | enqueueBuffer (b : Buffer) (numRects : Int) (rects : Option (List Rect))
      (out : EnqueueOutcome Buffer)
  | release (b : Buffer)

section

variable {Surface : Type u} {Buffer : Type v}

/-- The rectangles of an array of at least `num_rects` ones; `none` stands for the whole
buffer. -/
def givenRects (numRects : Int) : Option (List Rect) → Option (List Rect)
  | none => none
  | some rects => if numRects < 1 then none else some (rects.take numRects.toNat)

/-- The `wl_surface_damage` calls of `__tpl_wayland_egl_surface_commit`. -/
def damage (window : WlEglWindow Surface) (numRects : Int) (rects : Option (List Rect)) :
    List Rect :=
  match givenRects numRects rects with
  | none => [⟨window.dx, window.dy, window.width, window.height⟩]
  | some rects =>
      rects.map fun r =>
        let invertedY := window.height - (r.y + r.height)
        ⟨r.x, invertedY, r.width, r.height⟩

namespace State

def setWindow (st : State Surface Buffer) (window : WindowCallbacks.State Surface) :
    State Surface Buffer :=
  { st with window := window }

def setEgl (st : State Surface Buffer) (egl : WaylandEglSurface.State Buffer) :
    State Surface Buffer :=
  { st with egl := egl }

def resize [DecidableEq Surface] (st : State Surface Buffer) (width height dx dy : Int) :
    State Surface Buffer :=
  { st.setWindow (st.window.resize width height dx dy) with
    history := .resize dx dy :: st.history }

variable [DecidableEq Buffer]

/-- The start of `__tpl_wayland_egl_surface_dequeue_buffer`; a reset queue has lost its
buffers. -/
def applyResize (st : State Surface Buffer) : State Surface Buffer :=
  match st.window.live with
  | none => st
  | some (s, x) =>
      if x.resized then
        let width := st.window.window.width
        let height := st.window.window.height
        { st with
          window := { st.window with
            live := some (s, { x with
              width := width
              height := height
              queueWidth := width
              queueHeight := height
              resized := false }) }
          egl := { st.egl.resetCallback with reset := false }
          queued := [] }
      else st

def allocate (st : State Surface Buffer) (b : Buffer) : Option (State Surface Buffer) :=
  match st.window.live with
  | none => none
  | some (_, x) =>
      if h : 0 < x.queueWidth ∧ 0 < x.queueHeight then
        (WaylandEglSurface.step st.egl (.createTbmSurface b)).map fun egl =>
          { st with
            egl := egl
            queued := st.queued ++ [b]
            bufferSize :=
              Function.update st.bufferSize b ⟨x.queueWidth, x.queueHeight, h.1, h.2⟩ }
      else none

/-- `__tpl_wayland_egl_surface_dequeue_buffer` after its wait. -/
def takeBuffer (st : State Surface Buffer) (out : DequeueOutcome Buffer) :
    State Surface Buffer :=
  let (result, egl) := st.egl.dequeueBuffer out
  let windowSize := (st.window.window.width, st.window.window.height)
  { st with
    egl := egl
    dequeues := result.toList.map (fun b => ⟨b, st.bufferSize b, windowSize⟩) ++ st.dequeues }

/-- `__tpl_wayland_egl_surface_dequeue_buffer`, whose wait may fail. -/
def dequeueBuffer (st : State Surface Buffer) (waited : Bool) (allocated : Option Buffer)
    (out : DequeueOutcome Buffer) : Option (State Surface Buffer) :=
  let st := st.applyResize
  let ready := match allocated with
    | none => some st
    | some b => st.allocate b
  ready.bind fun st =>
    if waited = false then some st
    else if ∀ b ∈ out.dequeue, b ∈ st.queued then some (st.takeBuffer out)
    else none

/-- What `__tpl_wayland_egl_surface_commit` passes to the compositor. -/
def commitRecord (st : State Surface Buffer) (b : Buffer) (numRects : Int)
    (rects : Option (List Rect)) : CommitRecord Buffer :=
  let window := st.window.window
  { buffer := b
    size := st.bufferSize b
    numRects := numRects
    rects := rects
    offset := (window.dx, window.dy)
    damage := damage window numRects rects
    attachedSize := (window.width, window.height) }

/-- `__tpl_wayland_egl_surface_commit`; `none` is its failed assertion. -/
def commit (st : State Surface Buffer) (b : Buffer) (numRects : Int)
    (rects : Option (List Rect)) (pushed : Bool) : Option (State Surface Buffer) :=
  let record := st.commitRecord b numRects rects
  (st.egl.commit b pushed).map fun egl =>
    { st with
      egl := egl
      attachedSize := record.attachedSize
      history := .commit record :: st.history }

/-- `__tpl_wayland_egl_surface_enqueue_buffer` after its waits. -/
def enqueueBuffer (st : State Surface Buffer) (b : Buffer) (numRects : Int)
    (rects : Option (List Rect)) (out : EnqueueOutcome Buffer) :
    Option (TplResult × State Surface Buffer) :=
  let st := st.setEgl { st.egl with dequeuedBuffers := st.egl.dequeuedBuffers.erase b }
  match st.egl.getBuffer b with
  | none => some (.errorInvalidParameter, st)
  | some true => (st.commit b numRects rects out.pushed).map fun st => (.errorNone, st)
  | some false =>
      let st := st.setEgl (st.egl.callQueue b)
      match out.enqueue with
      | .errorNone =>
          let st := st.setEgl (st.egl.unref b)
          match out.acquire with
          | some acquired =>
              ((st.setEgl (st.egl.ref acquired)).commit acquired numRects rects out.pushed).map
                fun st => (.errorNone, st)
          | none => some (.errorInvalidOperation, st)
      | .unknownSurface => (st.commit b numRects rects out.pushed).map fun st => (.errorNone, st)
      | .other => some (.errorInvalidOperation, st)

/-- The buffer that `enqueue_buffer` commits, which may be another one of the queue. -/
def toCommit (st : State Surface Buffer) (b : Buffer) (out : EnqueueOutcome Buffer) :
    Option Buffer :=
  match st.egl.getBuffer b with
  | none => none
  | some true => some b
  | some false =>
      match out.enqueue with
      | .errorNone => out.acquire
      | .unknownSurface => some b
      | .other => none

end State

variable [DecidableEq Buffer]

/-- The backend's part of an enqueue is that of the surface alone. -/
theorem egl_enqueueBuffer (st : State Surface Buffer) (b : Buffer) (numRects : Int)
    (rects : Option (List Rect)) (out : EnqueueOutcome Buffer) :
    (st.enqueueBuffer b numRects rects out).map (fun after => (after.1, after.2.egl)) =
      st.egl.enqueueBuffer b out := by
  have hbuffer : WaylandEglSurface.State.getBuffer
      { st.egl with dequeuedBuffers := st.egl.dequeuedBuffers.erase b } b = st.egl.getBuffer b :=
    rfl
  unfold State.enqueueBuffer WaylandEglSurface.State.enqueueBuffer
  simp only [State.setEgl, State.commit, hbuffer]
  cases st.egl.getBuffer b with
  | none => rfl
  | some reset =>
      cases reset with
      | true =>
          simp only [Option.map_map]
          rfl
      | false =>
          cases out.enqueue with
          | errorNone =>
              cases out.acquire with
              | none => rfl
              | some acquired =>
                  simp only [Option.map_map]
                  rfl
          | unknownSurface =>
              simp only [Option.map_map]
              rfl
          | other => rfl

omit [DecidableEq Buffer] in
theorem commit_effect {st st' : State Surface Buffer} {b : Buffer} {numRects : Int}
    {rects : Option (List Rect)} {pushed : Bool}
    (h : st.commit b numRects rects pushed = some st') :
    ∃ egl, st' = { st with
      egl := egl
      attachedSize := (st.commitRecord b numRects rects).attachedSize
      history := .commit (st.commitRecord b numRects rects) :: st.history } := by
  obtain ⟨egl, -, rfl⟩ := Option.map_eq_some_iff.mp h
  exact ⟨egl, rfl⟩

theorem enqueueBuffer_effect {st st' : State Surface Buffer} {b : Buffer} {numRects : Int}
    {rects : Option (List Rect)} {out : EnqueueOutcome Buffer} {result : TplResult}
    (h : st.enqueueBuffer b numRects rects out = some (result, st')) :
    (st.toCommit b out = none ∧ ∃ egl, st' = st.setEgl egl) ∨
      ∃ committed egl, st.toCommit b out = some committed ∧ st' = { st with
        egl := egl
        attachedSize := (st.commitRecord committed numRects rects).attachedSize
        history := .commit (st.commitRecord committed numRects rects) :: st.history } := by
  have hbuffer : WaylandEglSurface.State.getBuffer
      { st.egl with dequeuedBuffers := st.egl.dequeuedBuffers.erase b } b = st.egl.getBuffer b :=
    rfl
  unfold State.enqueueBuffer at h
  simp only [State.setEgl, hbuffer] at h
  unfold State.toCommit
  cases hreset : st.egl.getBuffer b with
  | none =>
      simp only [hreset] at h
      cases h
      exact .inl ⟨rfl, _, rfl⟩
  | some reset =>
      cases reset with
      | true =>
          simp only [hreset] at h
          obtain ⟨after, hcommit, heq⟩ := Option.map_eq_some_iff.mp h
          cases heq
          obtain ⟨egl, rfl⟩ := commit_effect hcommit
          exact .inr ⟨b, egl, rfl, rfl⟩
      | false =>
          simp only [hreset] at h
          cases henqueue : out.enqueue with
          | errorNone =>
              simp only [henqueue] at h
              cases hacquire : out.acquire with
              | none =>
                  simp only [hacquire] at h
                  cases h
                  exact .inl ⟨rfl, _, rfl⟩
              | some acquired =>
                  simp only [hacquire] at h
                  obtain ⟨after, hcommit, heq⟩ := Option.map_eq_some_iff.mp h
                  cases heq
                  obtain ⟨egl, rfl⟩ := commit_effect hcommit
                  exact .inr ⟨acquired, egl, rfl, rfl⟩
          | unknownSurface =>
              simp only [henqueue] at h
              obtain ⟨after, hcommit, heq⟩ := Option.map_eq_some_iff.mp h
              cases heq
              obtain ⟨egl, rfl⟩ := commit_effect hcommit
              exact .inr ⟨b, egl, rfl, rfl⟩
          | other =>
              simp only [henqueue] at h
              cases h
              exact .inl ⟨rfl, _, rfl⟩

variable [DecidableEq Surface]

/-- One call, run to its end. A surface is created on the window once. -/
def step (st : State Surface Buffer) : Label Surface Buffer → Option (State Surface Buffer)
  | .resize width height dx dy => some (st.resize width height dx dy)
  | .setRotation rotation => some (st.setWindow (st.window.setRotation rotation))
  | .surfaceCreate s =>
      match st.window.live with
      | none => some (st.setWindow (st.window.surfaceCreate s (.backendInit none)))
      | some _ => none
  | .queueReset => some { st.setEgl st.egl.resetCallback with queued := [] }
  | .dequeueBuffer waited allocated out =>
      match st.window.live with
      | none => none
      | some _ => st.dequeueBuffer waited allocated out
  | .enqueueBuffer b numRects rects out =>
      match st.window.live with
      | none => none
      | some _ =>
          if st.egl.isValid b = false then some st
          else (st.enqueueBuffer b numRects rects out).map Prod.snd
  | .release b => (WaylandEglSurface.step st.egl (.release b)).map st.setEgl

/-- What `wl_egl_window_create` leaves. -/
def newWindow (width height : Int) (bufferSize : Buffer → TbmSize) : State Surface Buffer where
  window := WindowCallbacks.newWindow width height
  egl := WaylandEglSurface.newSurface (fun _ => false) fun _ => none
  queued := []
  bufferSize := bufferSize
  attachedSize := (0, 0)
  dequeues := []
  history := []

def unitSize (_ : Nat) : TbmSize := ⟨1, 1, by decide, by decide⟩

def newPair : State Nat Nat := newWindow 60 30 unitSize

def frameSystem : System (State Surface Buffer) (Label Surface Buffer) where
  Initial st := ∃ width height bufferSize, st = newWindow width height bufferSize
  step := step

def offset (w : WindowCallbacks.State Surface) : Int × Int := (w.window.dx, w.window.dy)

theorem offset_invoke (w : WindowCallbacks.State Surface) (callback : WindowCallbacks.Callback) :
    offset (w.invoke callback) = offset w := by
  unfold WindowCallbacks.State.invoke
  dsimp only
  split
  · split
    · rfl
    · rfl
  · rfl

theorem offset_call (w : WindowCallbacks.State Surface) (present : Bool)
    (callback : WindowCallbacks.Callback) : offset (w.call present callback) = offset w := by
  cases present with
  | true => exact offset_invoke w callback
  | false => rfl

theorem offset_resize (w : WindowCallbacks.State Surface) (width height dx dy : Int) :
    offset (w.resize width height dx dy) = (dx, dy) := by
  unfold WindowCallbacks.State.resize
  dsimp only
  split
  · rfl
  · rw [offset_call]
    unfold WlEglWindow.setSize
    split
    · rfl
    · rfl

theorem offset_setRotation (w : WindowCallbacks.State Surface) (rotation : WlEglWindowRotation) :
    offset (w.setRotation rotation) = offset w := by
  unfold WindowCallbacks.State.setRotation
  dsimp only
  split
  · rfl
  · split
    · rfl
    · have hrotated : offset ((w.rotate rotation).call w.window.rotateCallback .rotate) =
          offset w := offset_call _ _ _
      split
      · exact (offset_invoke _ _).trans hrotated
      · exact hrotated

/-- What a step does to the offset of the window and to the history. -/
inductive Records (st : State Surface Buffer) : Label Surface Buffer → State Surface Buffer → Prop
  | resize {width height dx dy : Int} {st' : State Surface Buffer}
      (hoffset : offset st'.window = (dx, dy))
      (hhistory : st'.history = .resize dx dy :: st.history) :
      Records st (.resize width height dx dy) st'
  | commit {b committed : Buffer} {numRects : Int} {rects : Option (List Rect)}
      {out : EnqueueOutcome Buffer} {st' : State Surface Buffer}
      (hcommit : st.toCommit b out = some committed)
      (hoffset : offset st'.window = offset st.window)
      (hhistory : st'.history = .commit (st.commitRecord committed numRects rects) :: st.history) :
      Records st (.enqueueBuffer b numRects rects out) st'
  | quiet {l : Label Surface Buffer} {st' : State Surface Buffer}
      (hcommit : ∀ b numRects rects out, l = .enqueueBuffer b numRects rects out →
        st.toCommit b out = none)
      (hoffset : offset st'.window = offset st.window) (hhistory : st'.history = st.history) :
      Records st l st'

omit [DecidableEq Surface] in
theorem applyResize_same (st : State Surface Buffer) :
    offset st.applyResize.window = offset st.window ∧ st.applyResize.history = st.history := by
  unfold State.applyResize
  split
  · exact ⟨rfl, rfl⟩
  · split
    · exact ⟨rfl, rfl⟩
    · exact ⟨rfl, rfl⟩

omit [DecidableEq Surface] in
theorem dequeueBuffer_same {st st' : State Surface Buffer} {waited : Bool}
    {allocated : Option Buffer} {out : DequeueOutcome Buffer}
    (h : st.dequeueBuffer waited allocated out = some st') :
    offset st'.window = offset st.window ∧ st'.history = st.history := by
  obtain ⟨hoffset, hhistory⟩ := applyResize_same st
  obtain ⟨ready, hready, hrest⟩ := Option.bind_eq_some_iff.mp h
  have hsame : ready.window = st.applyResize.window ∧ ready.history = st.applyResize.history := by
    cases allocated with
    | none =>
        cases hready
        exact ⟨rfl, rfl⟩
    | some b =>
        simp only [State.allocate] at hready
        split at hready
        · cases hready
        · split at hready
          · obtain ⟨egl, -, rfl⟩ := Option.map_eq_some_iff.mp hready
            exact ⟨rfl, rfl⟩
          · cases hready
  rw [← hoffset, ← hhistory, ← hsame.1, ← hsame.2]
  split at hrest
  · cases hrest
    exact ⟨rfl, rfl⟩
  · split at hrest
    · cases hrest
      exact ⟨rfl, rfl⟩
    · cases hrest

theorem Records.of_step {st st' : State Surface Buffer} {l : Label Surface Buffer}
    (hstep : step st l = some st') : Records st l st' := by
  cases l with
  | resize width height dx dy =>
      cases hstep
      exact .resize (offset_resize _ _ _ _ _) rfl
  | setRotation rotation =>
      cases hstep
      exact .quiet (fun _ _ _ _ hl => by cases hl) (offset_setRotation _ _) rfl
  | surfaceCreate s =>
      simp only [step] at hstep
      split at hstep
      · cases hstep
        exact .quiet (fun _ _ _ _ hl => by cases hl) rfl rfl
      · cases hstep
  | queueReset =>
      cases hstep
      exact .quiet (fun _ _ _ _ hl => by cases hl) rfl rfl
  | dequeueBuffer waited allocated out =>
      simp only [step] at hstep
      split at hstep
      · cases hstep
      · obtain ⟨hoffset, hhistory⟩ := dequeueBuffer_same hstep
        exact .quiet (fun _ _ _ _ hl => by cases hl) hoffset hhistory
  | enqueueBuffer b numRects rects out =>
      simp only [step] at hstep
      split at hstep
      · cases hstep
      · split at hstep
        · rename_i hvalid
          cases hstep
          refine .quiet ?_ rfl rfl
          rintro b _ _ out ⟨⟩
          simp [State.toCommit, WaylandEglSurface.State.getBuffer, hvalid]
        · obtain ⟨⟨result, after⟩, hafter, rfl⟩ := Option.map_eq_some_iff.mp hstep
          rcases enqueueBuffer_effect hafter with ⟨hnone, egl, rfl⟩ | ⟨committed, egl, hcommit, rfl⟩
          · refine .quiet ?_ rfl rfl
            rintro b _ _ out ⟨⟩
            exact hnone
          · exact .commit hcommit rfl rfl
  | release b =>
      obtain ⟨egl, -, rfl⟩ := Option.map_eq_some_iff.mp hstep
      exact .quiet (fun _ _ _ _ hl => by cases hl) rfl rfl

end

end LibtplEgl.WindowFrames
