import LibtplEgl.BufferReferences
import LibtplEgl.TbmSurfaceQueue

namespace LibtplEgl.EglBufferOwnership

open LibtplEgl.BufferQueue (Queue)
open LibtplEgl.BufferReferences
open LibtplEgl.LabelledSystem
open LibtplEgl.TplTypes
open LibtplEgl.WaylandEglSurface (EnqueueOutcome TsqError releaseCallback_recorded)

universe u v w

/-- A `tpl_wayland_egl_surface_t` with its `tbm_queue`. `submitted` and `presented` record
the run: the buffers that an enqueue has put into the queue or committed, and the commits. -/
structure State (Q : Type v) (Buffer : Type u) where
  surface : WaylandEglSurface.State Buffer
  tbmQueue : Q
  submitted : List Buffer
  presented : List Buffer

/-- The steps of the surface, with a choice for each call of the queue that they may make. -/
inductive Label (Choice : Type w) (Buffer : Type u)
  | newBuffer (b : Buffer)
  | destroyTbmSurface (b : Buffer)
  | resize
  | queueReset
  | release (b : Buffer) (release : Choice)
  | dequeueBegin
  | dequeueWaitFailed
  | dequeueEnd (dequeue : Choice) (calloc createBuffer pushed : Bool)
  | enqueueBegin (b : Buffer)
  | enqueueEnd (enqueue acquire : Choice) (pushed : Bool)
  deriving DecidableEq, Repr

section

variable {Q : Type v} {Choice : Type w} {Buffer : Type u}
variable (tbm : TbmSurfaceQueue Q Choice Buffer)

/-- The queue operations of an enqueue, in their order. -/
def enqueueAcquire (q : Q) (b : Buffer) (enqueue acquire : Choice) (pushed : Bool) :
    EnqueueOutcome Buffer × Q :=
  match tbm.enqueue q b enqueue with
  | (.errorNone, q₁) =>
      (⟨.errorNone, (tbm.acquire q₁ acquire).1, pushed⟩, (tbm.acquire q₁ acquire).2)
  | (error, q₁) => (⟨error, none, pushed⟩, q₁)

variable [DecidableEq Buffer]

/-- The queue after a step of the surface, which may not have called it. -/
def State.queueAfter (st : State Q Buffer) (surface : WaylandEglSurface.State Buffer) (q : Q) : Q :=
  if surface.queueCalls = st.surface.queueCalls then st.tbmQueue else q

/-- The state that an enqueue of `b` leaves: what it committed is at the end of `committed`. -/
def afterEnqueue (st : State Q Buffer) (b : Buffer) (out : EnqueueOutcome Buffer × Q)
    (surface : WaylandEglSurface.State Buffer) : State Q Buffer :=
  { surface := surface
    tbmQueue := st.queueAfter surface out.2
    submitted := st.submitted ++
      if surface.queueCalls ≠ st.surface.queueCalls ∧ out.1.enqueue = .errorNone ∨
        surface.committed.drop st.surface.committed.length ≠ [] then [b] else []
    presented := st.presented ++ surface.committed.drop st.surface.committed.length }

def State.setSurface (st : State Q Buffer) (surface : WaylandEglSurface.State Buffer) :
    State Q Buffer :=
  { st with surface := surface }

def step (st : State Q Buffer) : Label Choice Buffer → Option (State Q Buffer)
  | .newBuffer b =>
      if b ∈ (tbm.view st.tbmQueue).known then none
      else
        (WaylandEglSurface.step st.surface (.createTbmSurface b)).map fun surface =>
          { st with surface := surface, tbmQueue := tbm.attach st.tbmQueue b }
  | .destroyTbmSurface b =>
      if b ∈ (tbm.view st.tbmQueue).known then none
      else (WaylandEglSurface.step st.surface (.destroyTbmSurface b)).map st.setSurface
  | .resize => (WaylandEglSurface.step st.surface .resize).map st.setSurface
  | .queueReset =>
      (WaylandEglSurface.step st.surface .queueReset).map fun surface =>
        { st with surface := surface, tbmQueue := tbm.reset st.tbmQueue }
  | .release b release =>
      (WaylandEglSurface.step st.surface (.release b)).map fun surface =>
        { st with
          surface := surface
          tbmQueue := st.queueAfter surface (tbm.release st.tbmQueue b release).2 }
  | .dequeueBegin =>
      (WaylandEglSurface.step st.surface .dequeueBegin).map fun surface =>
        { st with
          surface := surface
          tbmQueue := if st.surface.resized then tbm.reset st.tbmQueue else st.tbmQueue }
  | .dequeueWaitFailed =>
      (WaylandEglSurface.step st.surface .dequeueWaitFailed).map st.setSurface
  | .dequeueEnd dequeue calloc createBuffer pushed =>
      (WaylandEglSurface.step st.surface
        (.dequeueEnd ⟨(tbm.dequeue st.tbmQueue dequeue).1, calloc, createBuffer, pushed⟩)).map
          fun surface =>
            { st with surface := surface, tbmQueue := (tbm.dequeue st.tbmQueue dequeue).2 }
  | .enqueueBegin b =>
      (WaylandEglSurface.step st.surface (.enqueueBegin b)).map st.setSurface
  | .enqueueEnd enqueue acquire pushed =>
      match st.surface.call with
      | .enqueueBuffer b =>
          (WaylandEglSurface.step st.surface
            (.enqueueEnd (enqueueAcquire tbm st.tbmQueue b enqueue acquire pushed).1)).map
              (afterEnqueue st b (enqueueAcquire tbm st.tbmQueue b enqueue acquire pushed))
      | _ => none

def newSurface : State Q Buffer where
  surface := WaylandEglSurface.newSurface (fun _ => false) fun _ => none
  tbmQueue := tbm.create
  submitted := []
  presented := []

def ownershipSystem : System (State Q Buffer) (Label Choice Buffer) where
  Initial st := st = newSurface tbm
  step := step tbm

/-- The state with what is seen of its queue. -/
def State.view (st : State Q Buffer) : State (Queue Buffer) Buffer where
  surface := st.surface
  tbmQueue := tbm.view st.tbmQueue
  submitted := st.submitted
  presented := st.presented

/-- The surface after an enqueue of `b` has ended in `surface`. -/
def returned (surface : WaylandEglSurface.State Buffer) (b : Buffer) :
    WaylandEglSurface.State Buffer :=
  { surface with call := .none, held := surface.held.erase b }

/-- The ways out of an enqueue of `b`: it is committed past the queue, it goes into the
queue and the oldest buffer there is committed, the acquire fails, or nothing happens. -/
inductive Enqueued (st : State (Queue Buffer) Buffer) (b : Buffer) (out : EnqueueOutcome Buffer) :
    State (Queue Buffer) Buffer → Prop
  | direct (hqueue : st.surface.getBuffer b = some false → out.enqueue = .unknownSurface) :
      Enqueued st b out
        { surface := returned ((st.surface.called b).committedAfter b b out.pushed) b
          tbmQueue := st.tbmQueue
          submitted := st.submitted ++ [b]
          presented := st.presented ++ [b] }
  | acquired {acquired : Buffer} {q : Queue Buffer} (hqueue : out.enqueue = .errorNone)
      (hsome : out.acquire = some acquired) (hout : st.tbmQueue.Outside b)
      (hacquire : (st.tbmQueue.enqueue b hout).acquire = some (acquired, q)) :
      Enqueued st b out
        { surface := returned ((((st.surface.called b).unref b).ref acquired).committedAfter
            b acquired out.pushed) b
          tbmQueue := q
          submitted := st.submitted ++ [b]
          presented := st.presented ++ [acquired] }
  | notAcquired (hrecord : st.surface.getBuffer b = some false)
      (hqueue : out.enqueue = .errorNone) (hnone : out.acquire = none)
      (hout : st.tbmQueue.Outside b) :
      Enqueued st b out
        { surface := returned { (st.surface.called b).unref b with
            dequeuedBuffers := st.surface.dequeuedBuffers.erase b } b
          tbmQueue := st.tbmQueue.enqueue b hout
          submitted := st.submitted ++ [b]
          presented := st.presented }
  | refused (hqueue : st.surface.getBuffer b = none ∨
      st.surface.getBuffer b = some false ∧ out.enqueue = .other) :
      Enqueued st b out
        { st with surface := returned { st.surface.called b with
            dequeuedBuffers := st.surface.dequeuedBuffers.erase b } b }

omit [DecidableEq Buffer] in
theorem enqueueAcquire_cases (q : Q) (b : Buffer) (enqueue acquire : Choice) (pushed : Bool) :
    (∃ error, error ≠ TsqError.errorNone ∧
      (enqueueAcquire tbm q b enqueue acquire pushed).1 = ⟨error, none, pushed⟩ ∧
      tbm.view (enqueueAcquire tbm q b enqueue acquire pushed).2 = tbm.view q) ∨
    ∃ hout : (tbm.view q).Outside b, ∃ acquired,
      (enqueueAcquire tbm q b enqueue acquire pushed).1 = ⟨.errorNone, acquired, pushed⟩ ∧
      TbmSurfaceQueue.Acquired ((tbm.view q).enqueue b hout) acquired
        (tbm.view (enqueueAcquire tbm q b enqueue acquire pushed).2) := by
  have henqueued := tbm.enqueued q b enqueue
  unfold enqueueAcquire
  generalize tbm.enqueue q b enqueue = result at henqueued ⊢
  obtain ⟨error, q₁⟩ := result
  generalize hview : tbm.view q₁ = view at henqueued
  cases henqueued with
  | failed herror =>
      refine Or.inl ⟨error, herror, ?_⟩
      cases error with
      | errorNone => exact absurd rfl herror
      | unknownSurface => exact ⟨rfl, hview⟩
      | other => exact ⟨rfl, hview⟩
  | taken hout =>
      refine Or.inr ⟨hout, (tbm.acquire q₁ acquire).1, rfl, ?_⟩
      rw [← hview]
      exact tbm.acquired q₁ acquire

omit [DecidableEq Buffer] in
theorem enqueueAcquire_enqueue (q : Q) (b : Buffer) (enqueue acquire : Choice) (pushed : Bool) :
    (enqueueAcquire tbm q b enqueue acquire pushed).1.enqueue = (tbm.enqueue q b enqueue).1 := by
  unfold enqueueAcquire
  split <;> rename_i h
  · rw [h]
  · rw [h]

omit [DecidableEq Buffer] in
theorem queueCalls_called (surface : WaylandEglSurface.State Buffer) (b : Buffer) :
    (surface.called b).queueCalls = surface.queueCalls ↔ surface.getBuffer b ≠ some false := by
  unfold WaylandEglSurface.State.called
  split
  · rename_i hrecord
    simp [hrecord]
  · rename_i hrecord
    simp [hrecord]

theorem queueAfter_called {st : State Q Buffer} {surface : WaylandEglSurface.State Buffer}
    {b : Buffer} (hcalls : surface.queueCalls = (st.surface.called b).queueCalls) (q : Q) :
    st.queueAfter surface q = if st.surface.getBuffer b = some false then q else st.tbmQueue := by
  have hcalled := queueCalls_called st.surface b
  rw [← hcalls] at hcalled
  unfold State.queueAfter
  by_cases hrecord : st.surface.getBuffer b = some false
  · rw [if_pos hrecord, if_neg fun hsame => hcalled.mp hsame hrecord]
  · rw [if_neg hrecord, if_pos (hcalled.mpr hrecord)]

theorem afterEnqueue_view (st : State Q Buffer) (b : Buffer) (out : EnqueueOutcome Buffer × Q)
    (surface : WaylandEglSurface.State Buffer) (committed : List Buffer)
    (hcalls : surface.queueCalls = (st.surface.called b).queueCalls)
    (hcommitted : surface.committed = st.surface.committed ++ committed) :
    (afterEnqueue st b out surface).view tbm =
      { surface := surface
        tbmQueue := if st.surface.getBuffer b = some false then tbm.view out.2
          else tbm.view st.tbmQueue
        submitted := st.submitted ++
          if st.surface.getBuffer b = some false ∧ out.1.enqueue = .errorNone ∨ committed ≠ []
          then [b] else []
        presented := st.presented ++ committed } := by
  have hcalled : surface.queueCalls ≠ st.surface.queueCalls ↔
      st.surface.getBuffer b = some false := by
    rw [hcalls, Ne, queueCalls_called, not_not]
  simp only [afterEnqueue, State.view, queueAfter_called hcalls, hcommitted, List.drop_left,
    hcalled, apply_ite tbm.view]

theorem Enqueued.of_enqueueBuffer {st : State Q Buffer} {b : Buffer}
    {enqueue acquire : Choice} {pushed : Bool} {result : TplResult}
    {surface : WaylandEglSurface.State Buffer}
    (h : st.surface.enqueueBuffer b (enqueueAcquire tbm st.tbmQueue b enqueue acquire pushed).1 =
      some (result, surface)) :
    Enqueued (st.view tbm) b (enqueueAcquire tbm st.tbmQueue b enqueue acquire pushed).1
      ((afterEnqueue st b (enqueueAcquire tbm st.tbmQueue b enqueue acquire pushed)
        (returned surface b)).view tbm) := by
  have hcases := enqueueAcquire_cases tbm st.tbmQueue b enqueue acquire pushed
  generalize enqueueAcquire tbm st.tbmQueue b enqueue acquire pushed = out at h hcases ⊢
  cases WaylandEglSurface.Enqueues.of_enqueueBuffer h with
  | unrecorded hrecord =>
      rw [afterEnqueue_view tbm st b out _ []]
      · simp only [hrecord, reduceCtorEq, if_false, false_and, ne_eq, not_true_eq_false, or_self,
          List.append_nil]
        exact .refused (Or.inl hrecord)
      · rfl
      · exact (List.append_nil _).symm
  | direct hrecord hunknown =>
      have hview : (if st.surface.getBuffer b = some false then tbm.view out.2
          else tbm.view st.tbmQueue) = tbm.view st.tbmQueue := by
        split
        · rename_i hcalled
          rcases hcases with ⟨error, -, -, hview⟩ | ⟨-, acquired, hout, -⟩
          · exact hview
          · rw [hout] at hunknown
            cases hunknown hcalled
        · rfl
      rw [afterEnqueue_view tbm st b out _ [b], if_pos (Or.inr (List.cons_ne_nil b [])), hview]
      · exact .direct hunknown
      · rfl
      · rfl
  | @acquired x hrecord henqueue hacquire =>
      rw [afterEnqueue_view tbm st b out _ [x], if_pos hrecord,
        if_pos (Or.inl ⟨hrecord, henqueue⟩)]
      · rcases hcases with ⟨error, herror, hout, -⟩ | ⟨hout, acquired, hresult, hacquired⟩
        · rw [hout] at henqueue
          exact absurd henqueue herror
        · obtain rfl : acquired = some x := by
            rw [hresult] at hacquire
            exact hacquire
          generalize tbm.view out.2 = q at hacquired ⊢
          cases hacquired with
          | taken htaken => exact .acquired henqueue hacquire hout htaken
      · rfl
      · rfl
  | notAcquired hrecord henqueue hacquire =>
      rw [afterEnqueue_view tbm st b out _ [], if_pos hrecord,
        if_pos (Or.inl ⟨hrecord, henqueue⟩), List.append_nil]
      · rcases hcases with ⟨error, herror, hout, -⟩ | ⟨hout, acquired, hresult, hacquired⟩
        · rw [hout] at henqueue
          exact absurd henqueue herror
        · obtain rfl : acquired = none := by
            rw [hresult] at hacquire
            exact hacquire
          generalize tbm.view out.2 = q at hacquired ⊢
          cases hacquired with
          | failed => exact .notAcquired hrecord henqueue hacquire hout
      · rfl
      · exact (List.append_nil _).symm
  | refused hrecord henqueue =>
      rw [afterEnqueue_view tbm st b out _ [], if_pos hrecord, if_neg (by simp [henqueue]),
        List.append_nil, List.append_nil]
      · rcases hcases with ⟨error, -, -, hview⟩ | ⟨-, acquired, hresult, -⟩
        · rw [hview]
          exact .refused (Or.inr ⟨hrecord, henqueue⟩)
        · rw [hresult] at henqueue
          cases henqueue
      · rfl
      · exact (List.append_nil _).symm

theorem dequeueBuffer_eq (surface : WaylandEglSurface.State Buffer) (b : Buffer)
    (calloc createBuffer pushed : Bool) :
    surface.dequeueBuffer ⟨some b, calloc, createBuffer, pushed⟩ =
      if (surface.getBuffer b).isSome = true ∨ calloc = true ∧ createBuffer = true then
        (some b, (surface.ref b).trackDequeued b pushed)
      else (none, surface) := by
  have hsame : (surface.ref b).getBuffer b = surface.getBuffer b := rfl
  simp only [WaylandEglSurface.State.dequeueBuffer, hsame]
  cases hrecord : surface.getBuffer b with
  | some reset => simp
  | none =>
      cases calloc <;> cases createBuffer <;>
        simp [WaylandEglSurface.unref_ref]

/-- What a step can do, with what is seen of the queue: one case for each branch. -/
inductive Moves (st : State Q Buffer) : Label Choice Buffer → State (Queue Buffer) Buffer → Prop
  | newBuffer {b : Buffer} (hb : b ∉ (tbm.view st.tbmQueue).known)
      (hnew : st.surface.isValid b = false) :
      Moves st (.newBuffer b)
        { st.view tbm with
          surface := { st.surface with
            isValid := Function.update st.surface.isValid b true
            buffer := Function.update st.surface.buffer b none }
          tbmQueue := (tbm.view st.tbmQueue).attach b hb }
  | destroyTbmSurface {b : Buffer} (hb : b ∉ (tbm.view st.tbmQueue).known)
      (hunref : st.surface.refs b ≤ 0) :
      Moves st (.destroyTbmSurface b)
        ((st.view tbm).setSurface { st.surface with
          isValid := Function.update st.surface.isValid b false
          buffer := Function.update st.surface.buffer b none })
  | resize : Moves st .resize ((st.view tbm).setSurface { st.surface with resized := true })
  | queueReset :
      Moves st .queueReset
        { st.view tbm with surface := st.surface.resetCallback, tbmQueue := .empty }
  | notReleased {b : Buffer} {release : Choice} (hb : b ∈ st.surface.committed)
      (hqueue : st.surface.getBuffer b = some false →
        (tbm.release st.tbmQueue b release).1 = false) :
      Moves st (.release b release)
        ((st.view tbm).setSurface (WaylandEglSurface.State.releaseCallback
          { st.surface with committed := st.surface.committed.erase b } b))
  | released {b : Buffer} {release : Choice} (hb : b ∈ st.surface.committed)
      (hqueue : (tbm.release st.tbmQueue b release).1 = true)
      (hout : (tbm.view st.tbmQueue).Outside b) :
      Moves st (.release b release)
        { st.view tbm with
          surface := WaylandEglSurface.State.releaseCallback
            { st.surface with committed := st.surface.committed.erase b } b
          tbmQueue := (tbm.view st.tbmQueue).giveBack b hout }
  | dequeueBegin (hresized : st.surface.resized = false) :
      Moves st .dequeueBegin ((st.view tbm).setSurface { st.surface with call := .dequeueBuffer })
  | dequeueBeginResized :
      Moves st .dequeueBegin
        { st.view tbm with
          surface := { st.surface.applyResize with call := .dequeueBuffer }
          tbmQueue := .empty }
  | dequeueWaitFailed :
      Moves st .dequeueWaitFailed ((st.view tbm).setSurface { st.surface with call := .none })
  | dequeueNothing {dequeue : Choice} {calloc createBuffer pushed : Bool}
      (hnone : (tbm.dequeue st.tbmQueue dequeue).1 = none) :
      Moves st (.dequeueEnd dequeue calloc createBuffer pushed)
        ((st.view tbm).setSurface { st.surface with call := .none })
  | dequeueLost {dequeue : Choice} {calloc createBuffer pushed : Bool} {b : Buffer}
      {q : Queue Buffer} (hsome : (tbm.dequeue st.tbmQueue dequeue).1 = some b)
      (hq : (tbm.view st.tbmQueue).dequeue = some (b, q))
      (hrecord : ¬ ((st.surface.getBuffer b).isSome = true ∨
        calloc = true ∧ createBuffer = true)) :
      Moves st (.dequeueEnd dequeue calloc createBuffer pushed)
        { st.view tbm with surface := { st.surface with call := .none }, tbmQueue := q }
  | dequeued {dequeue : Choice} {calloc createBuffer pushed : Bool} {b : Buffer}
      {q : Queue Buffer} (hsome : (tbm.dequeue st.tbmQueue dequeue).1 = some b)
      (hq : (tbm.view st.tbmQueue).dequeue = some (b, q))
      (hrecord : (st.surface.getBuffer b).isSome = true ∨ calloc = true ∧ createBuffer = true)
      (hvalid : st.surface.isValid b = true) :
      Moves st (.dequeueEnd dequeue calloc createBuffer pushed)
        { st.view tbm with
          surface := { (st.surface.ref b).trackDequeued b pushed with
            call := .none, held := st.surface.held ++ [b] }
          tbmQueue := q }
  | enqueueBegin {b : Buffer} :
      Moves st (.enqueueBegin b)
        ((st.view tbm).setSurface { st.surface with call := .enqueueBuffer b })
  | enqueueInvalid {b : Buffer} : Moves st (.enqueueBegin b) (st.view tbm)
  | enqueueEnd {enqueue acquire : Choice} {pushed : Bool} {b : Buffer}
      {st' : State (Queue Buffer) Buffer} (hcall : st.surface.call = .enqueueBuffer b)
      (henqueued : Enqueued (st.view tbm) b
        (enqueueAcquire tbm st.tbmQueue b enqueue acquire pushed).1 st') :
      Moves st (.enqueueEnd enqueue acquire pushed) st'

theorem releaseCallback_queueCalls (surface : WaylandEglSurface.State Buffer) (b : Buffer) :
    (WaylandEglSurface.State.releaseCallback
      { surface with committed := surface.committed.erase b } b).queueCalls =
        (surface.called b).queueCalls := by
  cases hrecord : surface.getBuffer b with
  | some reset =>
      rw [releaseCallback_recorded (by simp [hrecord])]
      rfl
  | none =>
      rw [WaylandEglSurface.called_eq_self (by simp [hrecord])]
      have hrecord' : WaylandEglSurface.State.getBuffer
          { surface with committed := surface.committed.erase b } b = none := hrecord
      simp only [WaylandEglSurface.State.releaseCallback, hrecord']
      split <;> rfl

theorem Moves.of_release {st : State Q Buffer} {b : Buffer} (release : Choice)
    (hb : b ∈ st.surface.committed) {surface : WaylandEglSurface.State Buffer}
    (hsurface : surface = WaylandEglSurface.State.releaseCallback
      { st.surface with committed := st.surface.committed.erase b } b) :
    Moves tbm st (.release b release)
      (State.view tbm { st with
        surface := surface
        tbmQueue := st.queueAfter surface (tbm.release st.tbmQueue b release).2 }) := by
  have hcalls : surface.queueCalls = (st.surface.called b).queueCalls := by
    rw [hsurface, releaseCallback_queueCalls]
  rw [queueAfter_called hcalls, hsurface]
  by_cases hrecord : st.surface.getBuffer b = some false
  · rw [if_pos hrecord]
    have hreleased := tbm.released st.tbmQueue b release
    unfold State.view
    generalize hsuccess : (tbm.release st.tbmQueue b release).1 = success at hreleased
    generalize tbm.view (tbm.release st.tbmQueue b release).2 = q at hreleased ⊢
    cases hreleased with
    | failed => exact .notReleased hb fun _ => hsuccess
    | taken hout => exact .released hb hsuccess hout
  · rw [if_neg hrecord]
    exact .notReleased hb fun hcalled => absurd hcalled hrecord

theorem Moves.of_dequeue {st : State Q Buffer} (dequeue : Choice)
    {calloc createBuffer pushed : Bool} {surface : WaylandEglSurface.State Buffer}
    (h : WaylandEglSurface.Fires st.surface (.dequeueEnd
      ⟨(tbm.dequeue st.tbmQueue dequeue).1, calloc, createBuffer, pushed⟩) surface) :
    Moves tbm st (.dequeueEnd dequeue calloc createBuffer pushed)
      (State.view tbm { st with
        surface := surface, tbmQueue := (tbm.dequeue st.tbmQueue dequeue).2 }) := by
  have hdequeued := tbm.dequeued st.tbmQueue dequeue
  unfold State.view
  generalize hresult : (tbm.dequeue st.tbmQueue dequeue).1 = result at h hdequeued
  generalize tbm.view (tbm.dequeue st.tbmQueue dequeue).2 = q at hdequeued ⊢
  cases hdequeued with
  | failed =>
      cases h with
      | dequeueFailed => exact .dequeueNothing hresult
      | dequeued hvalid hgiven => cases hgiven
  | @taken b q hq =>
      cases h with
      | dequeueFailed hgiven =>
          rw [dequeueBuffer_eq] at hgiven
          split at hgiven
          · cases hgiven
          · rename_i hrecord
            exact .dequeueLost hresult hq hrecord
      | dequeued hvalid hgiven =>
          rw [dequeueBuffer_eq] at hgiven
          split at hgiven
          · rename_i hrecord
            obtain rfl := Option.some.inj (congrArg Prod.fst hgiven)
            exact .dequeued hresult hq hrecord hvalid
          · cases hgiven

theorem Moves.of_enqueue {st st' : State Q Buffer} {enqueue acquire : Choice} {pushed : Bool}
    (h : step tbm st (.enqueueEnd enqueue acquire pushed) = some st') :
    Moves tbm st (.enqueueEnd enqueue acquire pushed) (st'.view tbm) := by
  simp only [step] at h
  split at h
  · rename_i b hcall
    obtain ⟨surface, hsurface, rfl⟩ := Option.map_eq_some_iff.mp h
    simp only [WaylandEglSurface.step, hcall] at hsurface
    split at hsurface
    · split at hsurface
      · rename_i result surface' hresult
        obtain rfl := Option.some.inj hsurface
        refine .enqueueEnd hcall ?_
        have hheld : surface'.held = st.surface.held := by
          cases WaylandEglSurface.Enqueues.of_enqueueBuffer hresult <;> rfl
        rw [← hheld]
        exact .of_enqueueBuffer tbm hresult
      · cases hsurface
    · cases hsurface
  · cases h

theorem Moves.of_step {st st' : State Q Buffer} {l : Label Choice Buffer}
    (h : step tbm st l = some st') : Moves tbm st l (st'.view tbm) := by
  cases l with
  | newBuffer b =>
      simp only [step] at h
      split at h
      · cases h
      · rename_i hb
        obtain ⟨surface, hsurface, rfl⟩ := Option.map_eq_some_iff.mp h
        cases WaylandEglSurface.Fires.of_step hsurface with
        | createTbmSurface hnew =>
            unfold State.view
            rw [tbm.view_attach st.tbmQueue b hb]
            exact .newBuffer hb hnew
  | destroyTbmSurface b =>
      simp only [step] at h
      split at h
      · cases h
      · rename_i hb
        obtain ⟨surface, hsurface, rfl⟩ := Option.map_eq_some_iff.mp h
        cases WaylandEglSurface.Fires.of_step hsurface with
        | destroyTbmSurface hunref => exact .destroyTbmSurface hb hunref
  | resize =>
      rw [step] at h
      obtain ⟨surface, hsurface, rfl⟩ := Option.map_eq_some_iff.mp h
      cases WaylandEglSurface.Fires.of_step hsurface with
      | resize => exact .resize
  | queueReset =>
      rw [step] at h
      obtain ⟨surface, hsurface, rfl⟩ := Option.map_eq_some_iff.mp h
      cases WaylandEglSurface.Fires.of_step hsurface with
      | queueReset =>
          unfold State.view
          rw [tbm.view_reset]
          exact .queueReset
  | release b release =>
      obtain ⟨surface, hsurface, rfl⟩ := Option.map_eq_some_iff.mp h
      cases WaylandEglSurface.Fires.of_step hsurface with
      | release hb => exact .of_release tbm release hb rfl
  | dequeueBegin =>
      obtain ⟨surface, hsurface, rfl⟩ := Option.map_eq_some_iff.mp h
      cases WaylandEglSurface.Fires.of_step hsurface with
      | dequeueBegin =>
          unfold State.view
          by_cases hresized : st.surface.resized = true
          · rw [if_pos hresized, tbm.view_reset]
            exact .dequeueBeginResized
          · have happly : st.surface.applyResize = st.surface := if_neg hresized
            rw [if_neg hresized, happly]
            exact .dequeueBegin (Bool.eq_false_iff.mpr hresized)
  | dequeueWaitFailed =>
      obtain ⟨surface, hsurface, rfl⟩ := Option.map_eq_some_iff.mp h
      cases WaylandEglSurface.Fires.of_step hsurface with
      | dequeueWaitFailed => exact .dequeueWaitFailed
  | dequeueEnd dequeue calloc createBuffer pushed =>
      obtain ⟨surface, hsurface, rfl⟩ := Option.map_eq_some_iff.mp h
      exact .of_dequeue tbm dequeue (WaylandEglSurface.Fires.of_step hsurface)
  | enqueueBegin b =>
      obtain ⟨surface, hsurface, rfl⟩ := Option.map_eq_some_iff.mp h
      cases WaylandEglSurface.Fires.of_step hsurface with
      | enqueueBegin => exact .enqueueBegin
      | enqueueInvalid => exact .enqueueInvalid
  | enqueueEnd enqueue acquire pushed => exact .of_enqueue tbm h

def State.outside (st : State Q Buffer) : Multiset Buffer :=
  ↑st.surface.held + ↑st.surface.committed

omit [DecidableEq Buffer] in
theorem mem_outside_of_held {st : State Q Buffer} {b : Buffer} (hb : b ∈ st.surface.held) :
    b ∈ st.outside :=
  Multiset.mem_add.mpr (Or.inl (Multiset.mem_coe.mpr hb))

omit [DecidableEq Buffer] in
theorem mem_outside_of_committed {st : State Q Buffer} {b : Buffer}
    (hb : b ∈ st.surface.committed) : b ∈ st.outside :=
  Multiset.mem_add.mpr (Or.inr (Multiset.mem_coe.mpr hb))

omit [DecidableEq Buffer] in
theorem outside_congr {st st' : State Q Buffer} (hheld : st'.surface.held = st.surface.held)
    (hcommitted : st'.surface.committed = st.surface.committed) : st'.outside = st.outside := by
  unfold State.outside
  rw [hheld, hcommitted]

theorem outside_erase_held {st : State Q Buffer} {b : Buffer} (hb : b ∈ st.surface.held) :
    st.outside.erase b = ↑(st.surface.held.erase b) + ↑st.surface.committed := by
  unfold State.outside
  rw [Multiset.erase_add_left_pos _ (Multiset.mem_coe.mpr hb), Multiset.coe_erase]

theorem outside_release {st st' : State Q Buffer} {b : Buffer} (hb : b ∈ st.surface.committed)
    (hheld : st'.surface.held = st.surface.held)
    (hcommitted : st'.surface.committed = st.surface.committed.erase b) :
    st'.outside = st.outside.erase b := by
  unfold State.outside
  rw [hheld, hcommitted, Multiset.erase_add_right_pos _ (Multiset.mem_coe.mpr hb),
    Multiset.coe_erase]

omit [DecidableEq Buffer] in
theorem outside_dequeue {st st' : State Q Buffer} {b : Buffer}
    (hheld : st'.surface.held = st.surface.held ++ [b])
    (hcommitted : st'.surface.committed = st.surface.committed) :
    st'.outside = b ::ₘ st.outside := by
  unfold State.outside
  rw [hheld, hcommitted, Multiset.coe_eq_coe.mpr (List.perm_append_singleton b st.surface.held),
    ← Multiset.cons_coe, Multiset.cons_add]

theorem outside_commit {st : State Q Buffer} {b : Buffer} (hb : b ∈ st.surface.held)
    (x : Buffer) : (st.surface.held.erase b : Multiset Buffer) +
      ((st.surface.committed ++ [x] : List Buffer) : Multiset Buffer) =
        x ::ₘ st.outside.erase b := by
  rw [Multiset.coe_eq_coe.mpr (List.perm_append_singleton x st.surface.committed),
    ← Multiset.cons_coe, Multiset.add_cons, outside_erase_held hb]

def EnqueuesHeld (st : State Q Buffer) : Label Choice Buffer → Prop
  | .enqueueBegin b => b ∈ st.surface.held
  | _ => True

instance (st : State Q Buffer) (l : Label Choice Buffer) : Decidable (EnqueuesHeld st l) :=
  match l with
  | .enqueueBegin b => inferInstanceAs (Decidable (b ∈ st.surface.held))
  | .newBuffer _ | .destroyTbmSurface _ | .resize | .queueReset | .release _ _ | .dequeueBegin
  | .dequeueWaitFailed | .dequeueEnd _ _ _ _ | .enqueueEnd _ _ _ => isTrue trivial

/-- Every buffer is in one place, and what is outside of the queue is referenced. -/
structure Inv (st : State (Queue Buffer) Buffer) : Prop where
  exclusive : st.tbmQueue.Exclusive st.outside
  valid : ∀ b, b ∈ st.outside ∨ b ∈ st.tbmQueue.known → st.surface.isValid b = true
  counted : ∀ b, (st.surface.held.count b + st.surface.committed.count b : Int) ≤
    st.surface.refs b
  calling : ∀ b, st.surface.call = .enqueueBuffer b → b ∈ st.surface.held

theorem setResetFlag_isValid (surface : WaylandEglSurface.State Buffer) (bs : List Buffer) :
    (surface.setResetFlag bs).isValid = surface.isValid := by
  induction bs generalizing surface with
  | nil => rfl
  | cons b bs ih =>
      rw [WaylandEglSurface.State.setResetFlag, ih]
      split <;> rfl

theorem resetCallback_isValid (surface : WaylandEglSurface.State Buffer) :
    surface.resetCallback.isValid = surface.isValid := by
  rw [WaylandEglSurface.State.resetCallback, setResetFlag_isValid, setResetFlag_isValid]

theorem releaseCallback_valid {surface : WaylandEglSurface.State Buffer} {b : Buffer}
    (hvalid : surface.isValid b = true) :
    let surface' := WaylandEglSurface.State.releaseCallback
      { surface with committed := surface.committed.erase b } b
    surface'.held = surface.held ∧ surface'.committed = surface.committed.erase b ∧
      surface'.refs = (surface.unref b).refs ∧ surface'.call = surface.call ∧
      surface'.isValid = surface.isValid := by
  simp only [WaylandEglSurface.State.releaseCallback, hvalid, if_true]
  split
  · split
    · exact ⟨rfl, rfl, rfl, rfl, rfl⟩
    · exact ⟨rfl, rfl, rfl, rfl, rfl⟩
  · exact ⟨rfl, rfl, rfl, rfl, rfl⟩

namespace Inv

variable {st st' : State (Queue Buffer) Buffer}

theorem count_le_refs (h : Inv st) {b : Buffer} (hb : b ∈ st.outside) : 0 < st.surface.refs b := by
  have hcounted := h.counted b
  rcases Multiset.mem_add.mp hb with hb | hb
  · have := List.count_pos_iff.mpr (Multiset.mem_coe.mp hb)
    omega
  · have := List.count_pos_iff.mpr (Multiset.mem_coe.mp hb)
    omega

theorem not_outside_of_invalid (h : Inv st) {b : Buffer} (hb : st.surface.isValid b = false) :
    b ∉ st.outside := by
  intro hmem
  have hvalid := h.valid b (Or.inl hmem)
  rw [hb] at hvalid
  cases hvalid

theorem not_outside_of_unreferenced (h : Inv st) {b : Buffer} (hb : st.surface.refs b ≤ 0) :
    b ∉ st.outside := by
  intro hmem
  have hpos := h.count_le_refs hmem
  omega

theorem frame (h : Inv st) (hheld : st'.surface.held = st.surface.held)
    (hcommitted : st'.surface.committed = st.surface.committed)
    (hrefs : st'.surface.refs = st.surface.refs)
    (hvalid : st'.surface.isValid = st.surface.isValid) (hqueue : st'.tbmQueue = st.tbmQueue)
    (hcall : ∀ b, st'.surface.call = .enqueueBuffer b → b ∈ st.surface.held) : Inv st' := by
  have houtside := outside_congr hheld hcommitted
  constructor
  · rw [hqueue, houtside]
    exact h.exclusive
  · rw [houtside, hqueue, hvalid]
    exact h.valid
  · rw [hheld, hcommitted, hrefs]
    exact h.counted
  · rw [hheld]
    exact hcall

theorem reset (h : Inv st) (hheld : st'.surface.held = st.surface.held)
    (hcommitted : st'.surface.committed = st.surface.committed)
    (hrefs : st'.surface.refs = st.surface.refs)
    (hvalid : st'.surface.isValid = st.surface.isValid) (hqueue : st'.tbmQueue = .empty)
    (hcall : ∀ b, st'.surface.call = .enqueueBuffer b → b ∈ st.surface.held) : Inv st' := by
  have houtside := outside_congr hheld hcommitted
  constructor
  · rw [hqueue, houtside]
    exact h.exclusive.empty
  · rw [houtside, hqueue, hvalid]
    exact fun b hb => h.valid b (Or.inl (hb.resolve_right List.not_mem_nil))
  · rw [hheld, hcommitted, hrefs]
    exact h.counted
  · rw [hheld]
    exact hcall

theorem newBuffer (h : Inv st) {b : Buffer} (hb : b ∉ st.tbmQueue.known)
    (hnew : st.surface.isValid b = false) :
    Inv { st with
      surface := { st.surface with
        isValid := Function.update st.surface.isValid b true
        buffer := Function.update st.surface.buffer b none }
      tbmQueue := st.tbmQueue.attach b hb } := by
  constructor
  · exact h.exclusive.attach (h.not_outside_of_invalid hnew) hb
  · intro x hx
    show Function.update st.surface.isValid b true x = true
    by_cases hxb : x = b
    · rw [hxb, Function.update_self]
    · rw [Function.update_of_ne hxb]
      exact h.valid x (hx.imp_right fun hx => (List.mem_cons.mp hx).resolve_left hxb)
  · exact h.counted
  · exact h.calling

theorem destroy (h : Inv st) {b : Buffer} (hb : b ∉ st.tbmQueue.known)
    (hunref : st.surface.refs b ≤ 0) :
    Inv (st.setSurface { st.surface with
      isValid := Function.update st.surface.isValid b false
      buffer := Function.update st.surface.buffer b none }) := by
  constructor
  · exact h.exclusive
  · intro x hx
    have hxb : x ≠ b := by
      rintro rfl
      exact hx.elim (h.not_outside_of_unreferenced hunref) hb
    show Function.update st.surface.isValid b false x = true
    rw [Function.update_of_ne hxb]
    exact h.valid x hx
  · exact h.counted
  · exact h.calling

theorem release (h : Inv st) {b : Buffer} (hb : b ∈ st.surface.committed) {q : Queue Buffer}
    (hq : q = st.tbmQueue ∨ ∃ hout, q = st.tbmQueue.giveBack b hout) :
    Inv { st with
      surface := WaylandEglSurface.State.releaseCallback
        { st.surface with committed := st.surface.committed.erase b } b
      tbmQueue := q } := by
  have hmem : b ∈ st.outside := mem_outside_of_committed hb
  obtain ⟨hheld, hcommitted, hrefs, hcall, hvalid⟩ :=
    releaseCallback_valid (h.valid b (Or.inl hmem))
  have houtside : State.outside { st with
      surface := WaylandEglSurface.State.releaseCallback
        { st.surface with committed := st.surface.committed.erase b } b
      tbmQueue := q } = st.outside.erase b := outside_release hb hheld hcommitted
  have hkept : st.tbmQueue.Exclusive (st.outside.erase b) :=
    h.exclusive.mono (Multiset.erase_le b st.outside)
  have hqueue : q.Exclusive (st.outside.erase b) ∧ q.known = st.tbmQueue.known := by
    rcases hq with rfl | ⟨hout, rfl⟩
    · exact ⟨hkept, rfl⟩
    · exact ⟨h.exclusive.giveBack hmem hout, rfl⟩
  constructor
  · rw [houtside]
    exact hqueue.1
  · rw [houtside, hqueue.2, hvalid]
    exact fun x hx => h.valid x (hx.imp_left Multiset.mem_of_mem_erase)
  · intro x
    have hcounted := h.counted x
    have herase := count_erase_add hb x
    have hunref := refs_unref st.surface b x
    rw [hheld, hcommitted, hrefs]
    omega
  · rw [hheld, hcall]
    exact h.calling

theorem dequeueLost (h : Inv st) {q : Queue Buffer} {b : Buffer}
    (hq : st.tbmQueue.dequeue = some (b, q)) :
    Inv { st with surface := { st.surface with call := .none }, tbmQueue := q } := by
  constructor
  · exact (h.exclusive.dequeue hq).mono (Multiset.le_cons_self _ b)
  · rw [(Queue.dequeue_eq_some hq).2.2]
    exact h.valid
  · exact h.counted
  · rintro _ ⟨⟩

theorem dequeued (h : Inv st) {q : Queue Buffer} {b : Buffer} (pushed : Bool)
    (hq : st.tbmQueue.dequeue = some (b, q)) :
    Inv { st with
      surface := { (st.surface.ref b).trackDequeued b pushed with
        call := .none, held := st.surface.held ++ [b] }
      tbmQueue := q } := by
  obtain ⟨hfree, -, hknown⟩ := Queue.dequeue_eq_some hq
  have houtside : State.outside { st with
      surface := { (st.surface.ref b).trackDequeued b pushed with
        call := .none, held := st.surface.held ++ [b] }
      tbmQueue := q } = b ::ₘ st.outside := outside_dequeue rfl rfl
  constructor
  · rw [houtside]
    exact h.exclusive.dequeue hq
  · rw [houtside, hknown]
    rintro x (hx | hx)
    · rcases Multiset.mem_cons.mp hx with rfl | hx
      · refine h.valid x (Or.inr (st.tbmQueue.known_of_mem x ?_))
        rw [hfree]
        exact List.mem_cons_self
      · exact h.valid x (Or.inl hx)
    · exact h.valid x (Or.inr hx)
  · intro x
    have hcounted := h.counted x
    have hcount := count_append_singleton st.surface.held b x
    have href := refs_ref st.surface b x
    show ((st.surface.held ++ [b]).count x + st.surface.committed.count x : Int) ≤
      (st.surface.ref b).refs x
    omega
  · rintro _ ⟨⟩

theorem handedOver (h : Inv st) {b : Buffer} {surface : WaylandEglSurface.State Buffer}
    {q : Queue Buffer} {submitted presented : List Buffer}
    (hexclusive : q.Exclusive (↑(st.surface.held.erase b) + ↑surface.committed))
    (hknown : q.known = st.tbmQueue.known)
    (hcommitted : ∀ x ∈ surface.committed, x ∈ st.outside ∨ x ∈ st.tbmQueue.known)
    (hvalid : surface.isValid = st.surface.isValid)
    (hcounted : ∀ x, ((st.surface.held.erase b).count x + surface.committed.count x : Int) ≤
      surface.refs x) (hheld : surface.held = st.surface.held) :
    Inv ⟨returned surface b, q, submitted, presented⟩ := by
  have houtside : State.outside ⟨returned surface b, q, submitted, presented⟩ =
      ↑(st.surface.held.erase b) + ↑surface.committed := by
    unfold State.outside returned
    rw [hheld]
  constructor
  · rw [houtside]
    exact hexclusive
  · rw [houtside, hknown]
    show ∀ x, _ → surface.isValid x = true
    rw [hvalid]
    rintro x (hx | hx)
    · rcases Multiset.mem_add.mp hx with hx | hx
      · exact h.valid x (Or.inl (mem_outside_of_held
          (List.mem_of_mem_erase (Multiset.mem_coe.mp hx))))
      · exact h.valid x (hcommitted x (Multiset.mem_coe.mp hx))
    · exact h.valid x (Or.inr hx)
  · show ∀ x, ((surface.held.erase b).count x + surface.committed.count x : Int) ≤ surface.refs x
    rw [hheld]
    exact hcounted
  · rintro _ ⟨⟩

theorem enqueued (h : Inv st) {b : Buffer} {out : EnqueueOutcome Buffer}
    (hb : b ∈ st.surface.held) (henqueued : Enqueued st b out st') : Inv st' := by
  have hmem : b ∈ st.outside := mem_outside_of_held hb
  have herase := outside_erase_held hb
  have hcommitted : ∀ x ∈ st.surface.committed, x ∈ st.outside ∨ x ∈ st.tbmQueue.known :=
    fun x hx => Or.inl (mem_outside_of_committed hx)
  have happend := outside_commit hb
  cases henqueued with
  | direct =>
      refine h.handedOver ?_ rfl ?_ rfl (fun x => ?_) rfl
      · show st.tbmQueue.Exclusive (↑(st.surface.held.erase b) + ↑(st.surface.committed ++ [b]))
        rw [happend, Multiset.cons_erase hmem]
        exact h.exclusive
      · intro x hx
        rcases List.mem_append.mp hx with hx | hx
        · exact hcommitted x hx
        · rw [List.mem_singleton.mp hx]
          exact Or.inl hmem
      · have hcounted := h.counted x
        have hheld := count_erase_add hb x
        have hcount := count_append_singleton st.surface.committed b x
        show ((st.surface.held.erase b).count x + (st.surface.committed ++ [b]).count x : Int) ≤
          st.surface.refs x
        omega
  | @acquired acquired q hqueue hsome hout hacquire =>
      obtain ⟨hdirty, -, hknown⟩ := Queue.acquire_eq_some hacquire
      refine h.handedOver ?_ hknown ?_ rfl (fun x => ?_) rfl
      · show q.Exclusive (↑(st.surface.held.erase b) + ↑(st.surface.committed ++ [acquired]))
        rw [happend]
        exact (h.exclusive.enqueue hmem hout).acquire hacquire
      · intro x hx
        rcases List.mem_append.mp hx with hx | hx
        · exact hcommitted x hx
        · rw [List.mem_singleton.mp hx]
          refine Or.inr ((st.tbmQueue.enqueue b hout).known_of_mem acquired ?_)
          rw [hdirty]
          exact List.mem_append_right _ List.mem_cons_self
      · have hcounted := h.counted x
        have hheld := count_erase_add hb x
        have hcount := count_append_singleton st.surface.committed acquired x
        have href := refs_ref (st.surface.unref b) acquired x
        have hunref := refs_unref st.surface b x
        show ((st.surface.held.erase b).count x +
            (st.surface.committed ++ [acquired]).count x : Int) ≤
          ((st.surface.unref b).ref acquired).refs x
        omega
  | notAcquired hrecord hqueue hnone hout =>
      refine h.handedOver ?_ rfl hcommitted rfl (fun x => ?_) rfl
      · show (st.tbmQueue.enqueue b hout).Exclusive
          (↑(st.surface.held.erase b) + ↑st.surface.committed)
        rw [← herase]
        exact h.exclusive.enqueue hmem hout
      · have hcounted := h.counted x
        have hheld := count_erase_add hb x
        have hunref := refs_unref st.surface b x
        show ((st.surface.held.erase b).count x + st.surface.committed.count x : Int) ≤
          (st.surface.unref b).refs x
        omega
  | refused =>
      refine h.handedOver ?_ rfl hcommitted rfl (fun x => ?_) rfl
      · show st.tbmQueue.Exclusive (↑(st.surface.held.erase b) + ↑st.surface.committed)
        rw [← herase]
        exact h.exclusive.mono (Multiset.erase_le b st.outside)
      · have hcounted := h.counted x
        have hheld := count_erase_add hb x
        show ((st.surface.held.erase b).count x + st.surface.committed.count x : Int) ≤
          st.surface.refs x
        omega

end Inv


variable {tbm}

theorem inv_step {st : State Q Buffer} {l : Label Choice Buffer}
    {st' : State (Queue Buffer) Buffer} (h : Inv (st.view tbm)) (hallowed : EnqueuesHeld st l)
    (hmoves : Moves tbm st l st') : Inv st' := by
  cases hmoves with
  | newBuffer hb hnew => exact h.newBuffer hb hnew
  | destroyTbmSurface hb hunref => exact h.destroy hb hunref
  | resize => exact h.frame rfl rfl rfl rfl rfl h.calling
  | queueReset =>
      have hsame := sameTracking_resetCallback st.surface
      refine h.reset hsame.held hsame.committed hsame.refs (resetCallback_isValid _) rfl ?_
      show ∀ b, st.surface.resetCallback.call = .enqueueBuffer b → _
      rw [resetCallback_call]
      exact h.calling
  | notReleased hb => exact h.release hb (Or.inl rfl)
  | released hb hqueue hout => exact h.release hb (Or.inr ⟨hout, rfl⟩)
  | dequeueBegin => exact h.frame rfl rfl rfl rfl rfl nofun
  | dequeueBeginResized =>
      have hsame := sameTracking_applyResize st.surface
      refine h.reset hsame.held hsame.committed hsame.refs ?_ rfl nofun
      show st.surface.applyResize.isValid = _
      unfold WaylandEglSurface.State.applyResize
      split
      · exact resetCallback_isValid _
      · rfl
  | dequeueWaitFailed | dequeueNothing => exact h.frame rfl rfl rfl rfl rfl nofun
  | dequeueLost hsome hq => exact h.dequeueLost hq
  | dequeued hsome hq => exact h.dequeued _ hq
  | enqueueBegin =>
      refine h.frame rfl rfl rfl rfl rfl ?_
      rintro x ⟨⟩
      exact hallowed
  | enqueueInvalid => exact h
  | enqueueEnd hcall henqueued => exact h.enqueued (h.calling _ hcall) henqueued

theorem inv_newSurface : Inv ((newSurface tbm).view tbm) := by
  have hqueue : ((newSurface tbm).view tbm).tbmQueue = .empty := tbm.view_create
  constructor
  · rw [hqueue]
    exact List.nodup_nil
  · rw [hqueue]
    exact fun b hb => hb.elim nofun nofun
  · exact fun b => le_rfl
  · exact nofun

theorem inv_reachable {st : State Q Buffer}
    (h : (ownershipSystem tbm).ReachableWhen EnqueuesHeld st) : Inv (st.view tbm) := by
  refine h.invariant (I := fun st => Inv (st.view tbm)) ?_ fun _ _ _ hinv hallowed hstep =>
    inv_step hinv hallowed (Moves.of_step tbm hstep)
  rintro _ rfl
  exact inv_newSurface

/-- Every buffer is in one place: held by the client, shown by the compositor, free or
waiting in the queue; and what is held or shown is alive. -/
theorem ownership_exclusive {st : State Q Buffer}
    (h : (ownershipSystem tbm).ReachableWhen EnqueuesHeld st) :
    (st.surface.held ++ st.surface.committed ++
        ((tbm.view st.tbmQueue).free ++ (tbm.view st.tbmQueue).dirty)).Nodup ∧
      ∀ b, b ∈ st.surface.held ∨ b ∈ st.surface.committed → st.surface.isValid b = true := by
  have hinv := inv_reachable h
  refine ⟨?_, fun b hb => hinv.valid b (Or.inl (Multiset.mem_add.mpr ?_))⟩
  · have hexclusive := hinv.exclusive
    unfold Queue.Exclusive Queue.contents State.outside at hexclusive
    rwa [Multiset.coe_add, Multiset.coe_add, Multiset.coe_nodup] at hexclusive
  · exact hb.imp Multiset.mem_coe.mpr Multiset.mem_coe.mpr

def twoBuffers : List (Label Bool Bool) :=
  [.newBuffer true, .newBuffer false, .dequeueBegin, .dequeueEnd false true true true,
    .enqueueBegin true, .enqueueEnd false false true, .dequeueBegin,
    .dequeueEnd false true true true, .release true false, .dequeueBegin]

theorem ownership_exclusive_twoBuffers :
    ∃ st, (ownershipSystem TbmSurfaceQueue.ofQueue).runWhen EnqueuesHeld
        (newSurface TbmSurfaceQueue.ofQueue) twoBuffers = some st ∧
      st.surface.held = [false] ∧
      (st.surface.held ++ st.surface.committed ++
        (st.tbmQueue.free ++ st.tbmQueue.dirty)).Nodup := by
  obtain ⟨st, hrun, hheld⟩ := (ownershipSystem TbmSurfaceQueue.ofQueue).exists_of_runWhen
    EnqueuesHeld (fun st => st.surface.held = [false]) (newSurface TbmSurfaceQueue.ofQueue)
    twoBuffers (by decide)
  exact ⟨st, hrun, hheld, (ownership_exclusive (.of_runWhen (.initial rfl) hrun)).1⟩

/-- No acquire fails once the queue has taken the buffer. -/
def Acquires (tbm : TbmSurfaceQueue Q Choice Buffer) (st : State Q Buffer) :
    Label Choice Buffer → Prop
  | .enqueueEnd enqueue acquire pushed =>
      ∀ b ∈ st.surface.call.enqueuing, st.surface.getBuffer b = some false →
        (enqueueAcquire tbm st.tbmQueue b enqueue acquire pushed).1.enqueue = .errorNone →
          (enqueueAcquire tbm st.tbmQueue b enqueue acquire pushed).1.acquire.isSome = true
  | _ => True

instance (tbm : TbmSurfaceQueue Q Choice Buffer) (st : State Q Buffer)
    (l : Label Choice Buffer) : Decidable (Acquires tbm st l) :=
  match l with
  | .enqueueEnd enqueue acquire pushed =>
      inferInstanceAs (Decidable (∀ b ∈ st.surface.call.enqueuing,
        st.surface.getBuffer b = some false →
        (enqueueAcquire tbm st.tbmQueue b enqueue acquire pushed).1.enqueue = .errorNone →
          (enqueueAcquire tbm st.tbmQueue b enqueue acquire pushed).1.acquire.isSome = true))
  | .newBuffer _ | .destroyTbmSurface _ | .resize | .queueReset | .release _ _ | .dequeueBegin
  | .dequeueWaitFailed | .dequeueEnd _ _ _ _ | .enqueueBegin _ => isTrue trivial

/-- Nothing waits in the queue, and what was submitted was presented. -/
structure UpToDate (st : State (Queue Buffer) Buffer) : Prop where
  dirty : st.tbmQueue.dirty = []
  presented : st.presented = st.submitted

omit [DecidableEq Buffer] in
theorem acquire_enqueue {q q' : Queue Buffer} {b acquired : Buffer} (hempty : q.dirty = [])
    (hout : q.Outside b) (h : (q.enqueue b hout).acquire = some (acquired, q')) :
    acquired = b ∧ q'.dirty = [] := by
  have hdirty : q.dirty ++ [b] = acquired :: q'.dirty := (Queue.acquire_eq_some h).1
  rw [hempty, List.nil_append, List.cons.injEq] at hdirty
  exact ⟨hdirty.1.symm, hdirty.2.symm⟩

theorem UpToDate.step {st : State Q Buffer} {l : Label Choice Buffer}
    {st' : State (Queue Buffer) Buffer} (h : UpToDate (st.view tbm))
    (hallowed : Acquires tbm st l) (hmoves : Moves tbm st l st') : UpToDate st' := by
  cases hmoves with
  | queueReset | dequeueBeginResized => exact ⟨rfl, h.presented⟩
  | dequeueLost hsome hq | dequeued hsome hq =>
      exact ⟨(Queue.dequeue_eq_some hq).2.1.trans h.dirty, h.presented⟩
  | enqueueEnd hcall henqueued =>
      cases henqueued with
      | direct => exact ⟨h.dirty, congrArg (· ++ _) h.presented⟩
      | acquired hqueue hsome hout hacquire =>
          obtain ⟨rfl, hempty⟩ := acquire_enqueue h.dirty hout hacquire
          exact ⟨hempty, congrArg (· ++ _) h.presented⟩
      | notAcquired hrecord hqueue hnone =>
          have hsome := hallowed _ (by rw [hcall]; rfl) hrecord hqueue
          rw [hnone] at hsome
          cases hsome
      | refused => exact ⟨h.dirty, h.presented⟩
  | _ => exact ⟨h.dirty, h.presented⟩

theorem acquires_of_upToDate {st : State Q Buffer} {l : Label Choice Buffer}
    {st' : State (Queue Buffer) Buffer} (h : UpToDate (st.view tbm))
    (hmoves : Moves tbm st l st') (hpresented : st'.presented = st'.submitted) :
    Acquires tbm st l := by
  cases hmoves with
  | enqueueEnd hcall henqueued =>
      intro b hb hrecord hqueue
      rw [hcall] at hb
      obtain rfl := Option.some.inj hb
      cases henqueued with
      | direct hunknown =>
          rw [hunknown hrecord] at hqueue
          cases hqueue
      | acquired _ hsome => exact Option.isSome_iff_exists.mpr ⟨_, hsome⟩
      | notAcquired =>
          -- the buffer is submitted and stays in the queue
          have hlength := congrArg List.length hpresented
          have hbefore := congrArg List.length h.presented
          rw [List.length_append] at hlength
          simp [hbefore] at hlength
      | refused hrefused =>
          rcases hrefused with hnone | ⟨-, hother⟩
          · cases hrecord.symm.trans hnone
          · cases hqueue.symm.trans hother
  | _ => trivial

/-- The buffers are presented in the order in which they were enqueued, each at the end of
its own enqueue, exactly in the runs in which no acquire fails after its enqueue. -/
theorem commits_inOrder_iff {st : State Q Buffer} {ls : List (Label Choice Buffer)}
    (hrun : (ownershipSystem tbm).run (newSurface tbm) ls = some st) :
    (ownershipSystem tbm).Always (fun st => st.presented = st.submitted) (newSurface tbm) ls ↔
      (ownershipSystem tbm).EveryStep (Acquires tbm) (newSurface tbm) ls := by
  refine System.always_iff_everyStep (I := fun st => UpToDate (st.view tbm)) ?_ hrun
    (fun _ _ _ h hallowed hstep => h.step hallowed (Moves.of_step tbm hstep))
    (fun _ => UpToDate.presented)
    (fun _ _ _ h hstep => acquires_of_upToDate h (Moves.of_step tbm hstep))
  exact ⟨congrArg Queue.dirty tbm.view_create, rfl⟩

def heldAcrossReset : List (Label Bool Bool) :=
  [.newBuffer true, .dequeueBegin, .dequeueEnd false true true true, .queueReset,
    .newBuffer false, .enqueueBegin true, .enqueueEnd false false true, .dequeueBegin,
    .dequeueEnd false true true true, .enqueueBegin false, .enqueueEnd false false true]

theorem commits_inOrder_heldAcrossReset :
    ∃ st, (ownershipSystem TbmSurfaceQueue.ofQueue).run (newSurface TbmSurfaceQueue.ofQueue)
        heldAcrossReset = some st ∧
      st.presented = [true, false] ∧
      (ownershipSystem TbmSurfaceQueue.ofQueue).Always (fun st => st.presented = st.submitted)
        (newSurface TbmSurfaceQueue.ofQueue) heldAcrossReset := by
  obtain ⟨st, hrun, hpresented⟩ := (ownershipSystem TbmSurfaceQueue.ofQueue).exists_of_runWhen
    (Acquires TbmSurfaceQueue.ofQueue) (fun st => st.presented = [true, false])
    (newSurface TbmSurfaceQueue.ofQueue) heldAcrossReset (by decide)
  have hrun' := (ownershipSystem TbmSurfaceQueue.ofQueue).run_of_runWhen hrun
  exact ⟨st, hrun', hpresented, (commits_inOrder_iff hrun').mpr (.of_runWhen hrun)⟩

end

end LibtplEgl.EglBufferOwnership
