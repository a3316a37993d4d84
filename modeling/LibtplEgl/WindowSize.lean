import LibtplEgl.WindowFrames

namespace LibtplEgl.WindowSize

open LibtplEgl.LabelledSystem
open LibtplEgl.TplTypes
open LibtplEgl.WaylandEglSurface (DequeueOutcome)
open LibtplEgl.WindowCallbacks (Callback TplSurface WlEglWindow WlEglWindowRotation)
open LibtplEgl.WindowFrames

universe u v

section

variable {Surface : Type u} {Buffer : Type v}

/-- A queue of a window that `resized` does not name has the window's size, the surface
has its rotation, and every dequeue returned a buffer of its size. -/
structure SizeCoherent (st : State Surface Buffer) : Prop where
  size : ∀ s x, st.window.live = some (s, x) → x.resized = false →
    x.queueWidth = st.window.window.width ∧ x.queueHeight = st.window.window.height
  rotation : ∀ s x, st.window.live = some (s, x) → x.rotation = st.window.window.rotation
  dequeues : ∀ record ∈ st.dequeues,
    (record.size.width, record.size.height) = record.windowSize

/-- The callbacks are there, and called with the surface, from its creation on. -/
structure Linked (w : WindowCallbacks.State Surface) : Prop where
  resizeCallback : w.window.resizeCallback = w.live.isSome
  rotateCallback : w.window.rotateCallback = w.live.isSome
  privateSurface : ∀ s x, w.live = some (s, x) → w.window.privateSurface = some s
  crashed : w.crashed = false

/-- The surface knows the size and the rotation of its window. -/
structure Follows (w : WindowCallbacks.State Surface) : Prop where
  linked : Linked w
  size : ∀ s x, w.live = some (s, x) → x.resized = false →
    x.queueWidth = w.window.width ∧ x.queueHeight = w.window.height
  rotation : ∀ s x, w.live = some (s, x) → x.rotation = w.window.rotation

theorem follows_newWindow (width height : Int) :
    Follows (WindowCallbacks.newWindow width height : WindowCallbacks.State Surface) := by
  refine ⟨⟨rfl, rfl, ?_, rfl⟩, ?_, ?_⟩
  all_goals
    intro s x hlive
    cases hlive

theorem Follows.setWindow_of_none {w : WindowCallbacks.State Surface} (h : Follows w)
    (hlive : w.live = none) {window : WlEglWindow Surface}
    (hresize : window.resizeCallback = w.window.resizeCallback)
    (hrotate : window.rotateCallback = w.window.rotateCallback) : Follows (w.setWindow window) := by
  have hnone : ∀ s x, (w.setWindow window).live ≠ some (s, x) := by
    intro s x hsome
    cases hlive.symm.trans hsome
  exact ⟨⟨hresize.trans h.linked.resizeCallback, hrotate.trans h.linked.rotateCallback,
    fun s x hsome => (hnone s x hsome).elim, h.linked.crashed⟩,
    fun s x hsome => (hnone s x hsome).elim, fun s x hsome => (hnone s x hsome).elim⟩

theorem Follows.surfaceCreate {w : WindowCallbacks.State Surface} (h : Follows w) (s : Surface) :
    Follows (w.surfaceCreate s (.backendInit none)) := by
  refine ⟨⟨rfl, rfl, ?_, h.linked.crashed⟩, ?_, ?_⟩
  · intro s' x hlive
    cases hlive
    rfl
  · intro s' x hlive _
    cases hlive
    exact ⟨rfl, rfl⟩
  · intro s' x hlive
    cases hlive
    rfl

variable [DecidableEq Surface]

theorem invoke_live {w : WindowCallbacks.State Surface} {s : Surface} {x : TplSurface}
    (hlive : w.live = some (s, x)) (hprivate : w.window.privateSurface = some s)
    (callback : Callback) : ∃ invocations,
      w.invoke callback = { w with
        live := some (s, callback.body w.window x)
        invocations := invocations } := by
  simp only [WindowCallbacks.State.invoke, hlive, hprivate, if_true]
  exact ⟨_, rfl⟩

theorem follows_invoke_resize {w : WindowCallbacks.State Surface} (h : Linked w) {s : Surface}
    {x : TplSurface} (hlive : w.live = some (s, x)) (hrotation : x.rotation = w.window.rotation) :
    Follows (w.invoke .resize) := by
  obtain ⟨invocations, hinvoke⟩ := invoke_live hlive (h.privateSurface s x hlive) .resize
  rw [hinvoke]
  refine ⟨⟨?_, ?_, ?_, h.crashed⟩, ?_, ?_⟩
  · show w.window.resizeCallback = true
    rw [h.resizeCallback, hlive]
    rfl
  · show w.window.rotateCallback = true
    rw [h.rotateCallback, hlive]
    rfl
  · intro s' x' hlive'
    cases hlive'
    exact h.privateSurface s x hlive
  · intro s' x' hlive' hresized
    cases hlive'
    simp only [Callback.body] at hresized ⊢
    split at hresized
    · cases hresized
    · rename_i hsame
      rw [if_neg hsame]
      show x.queueWidth = w.window.width ∧ x.queueHeight = w.window.height
      omega
  · intro s' x' hlive'
    cases hlive'
    simp only [Callback.body]
    split
    · exact hrotation
    · exact hrotation

omit [DecidableEq Surface] in
theorem Linked.setWindow {w : WindowCallbacks.State Surface} (h : Linked w)
    {window : WlEglWindow Surface} (hresize : window.resizeCallback = w.window.resizeCallback)
    (hrotate : window.rotateCallback = w.window.rotateCallback)
    (hprivate : window.privateSurface = w.window.privateSurface) : Linked (w.setWindow window) :=
  ⟨hresize.trans h.resizeCallback, hrotate.trans h.rotateCallback,
    fun s x hlive => hprivate.trans (h.privateSurface s x hlive), h.crashed⟩

omit [DecidableEq Surface] in
theorem setSize_same (window : WlEglWindow Surface) (width height : Int) :
    (window.setSize width height).resizeCallback = window.resizeCallback ∧
      (window.setSize width height).rotateCallback = window.rotateCallback ∧
      (window.setSize width height).privateSurface = window.privateSurface ∧
      (window.setSize width height).rotation = window.rotation := by
  unfold WlEglWindow.setSize
  split
  · exact ⟨rfl, rfl, rfl, rfl⟩
  · exact ⟨rfl, rfl, rfl, rfl⟩

theorem Follows.resize {w : WindowCallbacks.State Surface} (h : Follows w)
    (width height dx dy : Int) : Follows (w.resize width height dx dy) := by
  have hoffset : Follows (w.setOffset dx dy) :=
    ⟨h.linked.setWindow rfl rfl rfl, h.size, h.rotation⟩
  unfold WindowCallbacks.State.resize
  dsimp only
  split
  · exact hoffset
  · obtain ⟨hresize, hrotate, hprivate, hrotation⟩ :=
      setSize_same (w.setOffset dx dy).window width height
    cases hlive : w.live with
    | none =>
        have hcallback : (w.setOffset dx dy).window.resizeCallback = false := by
          rw [hoffset.linked.resizeCallback]
          exact congrArg Option.isSome hlive
        rw [WindowCallbacks.State.call, hcallback]
        exact hoffset.setWindow_of_none hlive hresize hrotate
    | some live =>
        obtain ⟨s, x⟩ := live
        have hcallback : (w.setOffset dx dy).window.resizeCallback = true := by
          rw [hoffset.linked.resizeCallback]
          exact congrArg Option.isSome hlive
        rw [WindowCallbacks.State.call, hcallback]
        exact follows_invoke_resize (hoffset.linked.setWindow hresize hrotate hprivate) hlive
          ((h.rotation s x hlive).trans hrotation.symm)

theorem follows_invoke_rotate {w : WindowCallbacks.State Surface} (h : Linked w) {s : Surface}
    {x : TplSurface} (hlive : w.live = some (s, x))
    (hsize : x.resized = false → x.queueWidth = w.window.width ∧ x.queueHeight = w.window.height) :
    Follows (w.invoke .rotate) := by
  obtain ⟨invocations, hinvoke⟩ := invoke_live hlive (h.privateSurface s x hlive) .rotate
  rw [hinvoke]
  refine ⟨⟨?_, ?_, ?_, h.crashed⟩, ?_, ?_⟩
  · show w.window.resizeCallback = true
    rw [h.resizeCallback, hlive]
    rfl
  · show w.window.rotateCallback = true
    rw [h.rotateCallback, hlive]
    rfl
  · intro s' x' hlive'
    cases hlive'
    exact h.privateSurface s x hlive
  · intro s' x' hlive' hresized
    cases hlive'
    exact hsize hresized
  · intro s' x' hlive'
    cases hlive'
    rfl

theorem Follows.setRotation {w : WindowCallbacks.State Surface} (h : Follows w)
    (rotation : WlEglWindowRotation) : Follows (w.setRotation rotation) := by
  unfold WindowCallbacks.State.setRotation
  dsimp only
  split
  · exact h
  · split
    · exact h
    · have hlinked : Linked (w.rotate rotation) := h.linked.setWindow rfl rfl rfl
      have hrotated : Follows ((w.rotate rotation).call w.window.rotateCallback .rotate) := by
        cases hlive : w.live with
        | none =>
            have hcallback : w.window.rotateCallback = false := by
              rw [h.linked.rotateCallback, hlive]
              rfl
            rw [WindowCallbacks.State.call, hcallback]
            exact h.setWindow_of_none hlive rfl rfl
        | some live =>
            obtain ⟨s, x⟩ := live
            have hcallback : w.window.rotateCallback = true := by
              rw [h.linked.rotateCallback, hlive]
              rfl
            rw [WindowCallbacks.State.call, hcallback]
            exact follows_invoke_rotate hlinked hlive (h.size s x hlive)
      generalize (w.rotate rotation).call w.window.rotateCallback .rotate = rotated at hrotated ⊢
      split
      · rename_i hswap
        cases hlive : rotated.live with
        | none =>
            have hcallback := hrotated.linked.resizeCallback
            rw [hswap.2.2, hlive] at hcallback
            cases hcallback
        | some live =>
            obtain ⟨s, x⟩ := live
            exact follows_invoke_resize (hrotated.linked.setWindow rfl rfl rfl) hlive
              (hrotated.rotation s x hlive)
      · exact hrotated

def queueSize (w : WindowCallbacks.State Surface) : Option (Int × Int) :=
  w.live.map fun live => (live.2.queueWidth, live.2.queueHeight)

theorem queueSize_invoke (w : WindowCallbacks.State Surface) (callback : Callback) :
    queueSize (w.invoke callback) = queueSize w := by
  unfold WindowCallbacks.State.invoke queueSize
  cases hlive : w.live with
  | none => rfl
  | some live =>
      obtain ⟨s, x⟩ := live
      dsimp only
      split
      · cases callback with
        | resize =>
            simp only [Callback.body]
            split
            · rfl
            · rfl
        | rotate => rfl
        | getRotationCapability => rfl
      · rfl

theorem queueSize_call (w : WindowCallbacks.State Surface) (present : Bool)
    (callback : Callback) : queueSize (w.call present callback) = queueSize w := by
  cases present with
  | true => exact queueSize_invoke w callback
  | false => rfl

theorem queueSize_resize (w : WindowCallbacks.State Surface) (width height dx dy : Int) :
    queueSize (w.resize width height dx dy) = queueSize w := by
  unfold WindowCallbacks.State.resize
  dsimp only
  split
  · rfl
  · rw [queueSize_call]
    rfl

theorem queueSize_setRotation (w : WindowCallbacks.State Surface)
    (rotation : WlEglWindowRotation) : queueSize (w.setRotation rotation) = queueSize w := by
  unfold WindowCallbacks.State.setRotation
  dsimp only
  split
  · rfl
  · split
    · rfl
    · have hrotated : queueSize ((w.rotate rotation).call w.window.rotateCallback .rotate) =
          queueSize w := queueSize_call _ _ _
      split
      · exact (queueSize_invoke _ _).trans hrotated
      · exact hrotated

structure Inv (st : State Surface Buffer) : Prop where
  follows : Follows st.window
  queued : ∀ b ∈ st.queued,
    queueSize st.window = some ((st.bufferSize b).width, (st.bufferSize b).height)
  dequeues : ∀ record ∈ st.dequeues,
    (record.size.width, record.size.height) = record.windowSize

omit [DecidableEq Surface] in
theorem Inv.sizeCoherent {st : State Surface Buffer} (h : Inv st) : SizeCoherent st :=
  ⟨h.follows.size, h.follows.rotation, h.dequeues⟩

omit [DecidableEq Surface] in
theorem inv_newWindow (width height : Int) (bufferSize : Buffer → TbmSize) :
    Inv (newWindow width height bufferSize : State Surface Buffer) := by
  refine ⟨follows_newWindow width height, ?_, ?_⟩
  · rintro b ⟨⟩
  · rintro record ⟨⟩

omit [DecidableEq Surface] in
theorem Inv.setWindow {st : State Surface Buffer} (h : Inv st)
    {w : WindowCallbacks.State Surface} (hfollows : Follows w)
    (hqueue : queueSize w = queueSize st.window) : Inv (st.setWindow w) :=
  ⟨hfollows, fun b hb => hqueue.trans (h.queued b hb), h.dequeues⟩

variable [DecidableEq Buffer]

omit [DecidableEq Surface] in
theorem Inv.applyResize {st : State Surface Buffer} (h : Inv st) :
    Inv st.applyResize ∧ ∀ s x, st.applyResize.window.live = some (s, x) → x.resized = false := by
  unfold State.applyResize
  cases hlive : st.window.live with
  | none =>
      refine ⟨h, ?_⟩
      intro s x hsome
      cases hlive.symm.trans hsome
  | some live =>
      obtain ⟨s, x⟩ := live
      dsimp only
      split
      · refine ⟨⟨⟨⟨?_, ?_, ?_, h.follows.linked.crashed⟩, ?_, ?_⟩, ?_, h.dequeues⟩, ?_⟩
        · show st.window.window.resizeCallback = true
          rw [h.follows.linked.resizeCallback, hlive]
          rfl
        · show st.window.window.rotateCallback = true
          rw [h.follows.linked.rotateCallback, hlive]
          rfl
        · intro s' x' hsome
          cases hsome
          exact h.follows.linked.privateSurface s x hlive
        · intro s' x' hsome _
          cases hsome
          exact ⟨rfl, rfl⟩
        · intro s' x' hsome
          cases hsome
          exact h.follows.rotation s x hlive
        · rintro b ⟨⟩
        · intro s' x' hsome
          cases hsome
          rfl
      · rename_i hresized
        refine ⟨h, ?_⟩
        intro s' x' hsome
        cases hlive.symm.trans hsome
        exact Bool.of_not_eq_true hresized

omit [DecidableEq Surface] in
theorem Inv.allocate {st st' : State Surface Buffer} (h : Inv st) {b : Buffer}
    (hout : st.allocate b = some st') : Inv st' ∧ st'.window = st.window := by
  unfold State.allocate at hout
  cases hlive : st.window.live with
  | none =>
      rw [hlive] at hout
      cases hout
  | some live =>
      obtain ⟨s, x⟩ := live
      simp only [hlive] at hout
      split at hout
      · obtain ⟨egl, -, rfl⟩ := Option.map_eq_some_iff.mp hout
        refine ⟨⟨h.follows, fun c hc => ?_, h.dequeues⟩, rfl⟩
        have hqueue : queueSize st.window = some (x.queueWidth, x.queueHeight) := by
          rw [queueSize, hlive]
          rfl
        by_cases hcb : c = b
        · subst hcb
          simp only [Function.update_self]
          exact hqueue
        · simp only [Function.update_of_ne hcb]
          refine h.queued c ?_
          rcases List.mem_append.mp hc with hold | hnew
          · exact hold
          · exact (hcb (List.mem_singleton.mp hnew)).elim
      · cases hout

omit [DecidableEq Surface] in
theorem Inv.takeBuffer {st : State Surface Buffer} (h : Inv st)
    (hresized : ∀ s x, st.window.live = some (s, x) → x.resized = false)
    {out : DequeueOutcome Buffer} (hqueued : ∀ b ∈ out.dequeue, b ∈ st.queued) :
    Inv (st.takeBuffer out) := by
  have hdequeues : (st.takeBuffer out).dequeues =
      (st.egl.dequeueBuffer out).1.toList.map (fun b =>
        ⟨b, st.bufferSize b, (st.window.window.width, st.window.window.height)⟩) ++
        st.dequeues := rfl
  refine ⟨h.follows, h.queued, fun record hrecord => ?_⟩
  rw [hdequeues] at hrecord
  rcases List.mem_append.mp hrecord with hnew | hold
  · obtain ⟨b, hb, rfl⟩ := List.mem_map.mp hnew
    rcases WaylandEglSurface.dequeueBuffer_cases st.egl out with hfailed | ⟨c, hc, hreturned⟩
    · rw [hfailed] at hb
      cases hb
    · rw [hreturned] at hb
      obtain rfl := List.mem_singleton.mp hb
      have hqueue := h.queued b (hqueued b hc)
      unfold queueSize at hqueue
      obtain ⟨⟨s, x⟩, hlive, hsize⟩ := Option.map_eq_some_iff.mp hqueue
      have hwindow := h.follows.size s x hlive (hresized s x hlive)
      rw [← hsize, hwindow.1, hwindow.2]
  · exact h.dequeues record hold

omit [DecidableEq Surface] in
theorem Inv.dequeueBuffer {st st' : State Surface Buffer} (h : Inv st) {waited : Bool}
    {allocated : Option Buffer} {out : DequeueOutcome Buffer}
    (hout : st.dequeueBuffer waited allocated out = some st') : Inv st' := by
  obtain ⟨hreset, hresized⟩ := h.applyResize
  obtain ⟨ready, hready, hrest⟩ := Option.bind_eq_some_iff.mp hout
  have hinv : Inv ready ∧ ready.window = st.applyResize.window := by
    cases allocated with
    | none =>
        cases hready
        exact ⟨hreset, rfl⟩
    | some b => exact hreset.allocate hready
  split at hrest
  · cases hrest
    exact hinv.1
  · split at hrest
    · rename_i hqueued
      cases hrest
      refine hinv.1.takeBuffer ?_ hqueued
      rw [hinv.2]
      exact hresized
    · cases hrest

theorem inv_step {st st' : State Surface Buffer} {l : Label Surface Buffer} (h : Inv st)
    (hstep : step st l = some st') : Inv st' := by
  cases l with
  | resize width height dx dy =>
      cases hstep
      have hinv := h.setWindow (h.follows.resize width height dx dy) (queueSize_resize _ _ _ _ _)
      exact ⟨hinv.follows, hinv.queued, hinv.dequeues⟩
  | setRotation rotation =>
      cases hstep
      exact h.setWindow (h.follows.setRotation rotation) (queueSize_setRotation _ _)
  | surfaceCreate s =>
      cases hlive : st.window.live with
      | some live =>
          simp only [step, hlive] at hstep
          cases hstep
      | none =>
          simp only [step, hlive] at hstep
          cases hstep
          refine ⟨h.follows.surfaceCreate s, fun b hb => ?_, h.dequeues⟩
          have hqueue := h.queued b hb
          rw [queueSize, hlive] at hqueue
          cases hqueue
  | queueReset =>
      cases hstep
      refine ⟨h.follows, ?_, h.dequeues⟩
      rintro b ⟨⟩
  | dequeueBuffer waited allocated out =>
      simp only [step] at hstep
      split at hstep
      · cases hstep
      · exact h.dequeueBuffer hstep
  | enqueueBuffer b numRects rects out =>
      simp only [step] at hstep
      split at hstep
      · cases hstep
      · split at hstep
        · cases hstep
          exact h
        · obtain ⟨⟨result, after⟩, hafter, rfl⟩ := Option.map_eq_some_iff.mp hstep
          rcases enqueueBuffer_effect hafter with ⟨-, egl, rfl⟩ | ⟨committed, egl, -, rfl⟩
          · exact ⟨h.follows, h.queued, h.dequeues⟩
          · exact ⟨h.follows, h.queued, h.dequeues⟩
  | release b =>
      obtain ⟨egl, -, rfl⟩ := Option.map_eq_some_iff.mp hstep
      exact ⟨h.follows, h.queued, h.dequeues⟩

/-- The surface, its queue and its buffers follow the size and the rotation of the
window. -/
theorem size_coherent {st : State Surface Buffer} (h : frameSystem.Reachable st) :
    SizeCoherent st := by
  refine (h.invariant (I := Inv) ?_ fun _ _ _ hinv _ hstep => inv_step hinv hstep).sizeCoherent
  rintro _ ⟨width, height, bufferSize, rfl⟩
  exact inv_newWindow width height bufferSize

def turned : List (Label Nat Nat) :=
  [.surfaceCreate 0, .dequeueBuffer true (some 1) ⟨some 1, true, true, true⟩,
    .enqueueBuffer 1 0 none ⟨.errorNone, some 1, true⟩, .setRotation .rotation90, .resize 90 40 0 0,
    .dequeueBuffer true (some 2) ⟨some 2, true, true, true⟩]

theorem size_coherent_turned :
    ∃ st, frameSystem.run newPair turned = some st ∧
      st.dequeues.map DequeueRecord.windowSize = [(40, 90), (60, 30)] ∧ SizeCoherent st := by
  obtain ⟨st, hrun, hsizes⟩ := frameSystem.exists_of_run
    (fun st => st.dequeues.map DequeueRecord.windowSize = [(40, 90), (60, 30)])
    newPair turned (by decide)
  exact ⟨st, hrun, hsizes, size_coherent (.of_run (.initial ⟨_, _, _, rfl⟩) hrun)⟩

end

end LibtplEgl.WindowSize
