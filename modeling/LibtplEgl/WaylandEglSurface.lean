import LibtplEgl.LabelledSystem
import LibtplEgl.TplTypes

namespace LibtplEgl.WaylandEglSurface

open LibtplEgl.LabelledSystem
open LibtplEgl.TplTypes

universe u

/-- The results of `tbm_surface_queue_enqueue` that the backend tells apart. -/
inductive TsqError
  | errorNone
  | unknownSurface
  | other
  deriving DecidableEq, Repr

/-- The call that runs on the surface: a dequeue before it takes a buffer, or an
enqueue before it leaves the vblank wait. Events are dispatched at both points. -/
inductive Call (Buffer : Type u)
  | none
  | dequeueBuffer
  | enqueueBuffer (b : Buffer)
  deriving DecidableEq, Repr

def Call.enqueuing {Buffer : Type u} : Call Buffer → Option Buffer
  | .enqueueBuffer b => some b
  | _ => Option.none

/-- A `tpl_wayland_egl_surface_t` and the tbm_surfaces. `buffer` is the `reset`
flag of the `tpl_wayland_egl_buffer_t` in a tbm_surface's user data, `refs` counts
the references that TPL took less those it dropped. The last three fields record
the run: what the client holds, the commits without a release event, and what
`tbm_surface_queue_enqueue` and `tbm_surface_queue_release` were called with. -/
structure State (Buffer : Type u) where
  resized : Bool
  reset : Bool
  dequeuedBuffers : List Buffer
  attachedBuffers : List Buffer
  isValid : Buffer → Bool
  buffer : Buffer → Option Bool
  refs : Buffer → Int
  call : Call Buffer
  held : List Buffer
  committed : List Buffer
  queueCalls : List Buffer

/-- The outcomes of what `dequeue_buffer` calls once it can dequeue; `pushed` says that
`__tpl_list_push_back` finds memory for its node. -/
structure DequeueOutcome (Buffer : Type u) where
  dequeue : Option Buffer
  calloc : Bool
  createBuffer : Bool
  pushed : Bool
  deriving DecidableEq, Repr

/-- The outcomes of the queue operations and of the push of `enqueue_buffer`. -/
structure EnqueueOutcome (Buffer : Type u) where
  enqueue : TsqError
  acquire : Option Buffer
  pushed : Bool
  deriving DecidableEq, Repr

inductive Label (Buffer : Type u)
  | createTbmSurface (b : Buffer)
  | destroyTbmSurface (b : Buffer)
  | resize
  | queueReset
  | release (b : Buffer)
  | dequeueBegin
  | dequeueWaitFailed
  | dequeueEnd (out : DequeueOutcome Buffer)
  | enqueueBegin (b : Buffer)
  | enqueueEnd (out : EnqueueOutcome Buffer)
  deriving DecidableEq, Repr

/-- `__tpl_list_push_back`, whose result no caller looks at. -/
def pushBack {Buffer : Type u} (list : List Buffer) (b : Buffer) (pushed : Bool) : List Buffer :=
  if pushed then list ++ [b] else list

section

variable {Buffer : Type u} [DecidableEq Buffer]

omit [DecidableEq Buffer] in
theorem pushBack_eq (list : List Buffer) (b : Buffer) (pushed : Bool) :
    pushBack list b pushed = list ++ if pushed then [b] else [] := by
  cases pushed with
  | true => rfl
  | false => exact (List.append_nil list).symm

theorem count_pushBack_le (list : List Buffer) (b : Buffer) (pushed : Bool) (x : Buffer) :
    (pushBack list b pushed).count x ≤ list.count x + [b].count x := by
  cases pushed with
  | true => exact Nat.le_of_eq List.count_append
  | false => exact Nat.le_add_right _ _

namespace State

/-- `__tpl_wayland_egl_get_wayland_buffer_from_tbm_surface`. -/
def getBuffer (st : State Buffer) (b : Buffer) : Option Bool :=
  if st.isValid b then st.buffer b else none

def setBufferReset (st : State Buffer) (b : Buffer) (reset : Bool) : State Buffer :=
  { st with buffer := Function.update st.buffer b (some reset) }

/-- `tbm_surface_internal_ref`. -/
def ref (st : State Buffer) (b : Buffer) : State Buffer :=
  { st with refs := Function.update st.refs b (st.refs b + 1) }

/-- `tbm_surface_internal_unref`. -/
def unref (st : State Buffer) (b : Buffer) : State Buffer :=
  { st with refs := Function.update st.refs b (st.refs b - 1) }

/-- `__tpl_wayland_egl_buffer_set_reset_flag`. -/
def setResetFlag (st : State Buffer) : List Buffer → State Buffer
  | [] => st
  | b :: bs =>
      setResetFlag (if (st.getBuffer b).isSome then st.setBufferReset b true else st) bs

/-- `__cb_tbm_surface_queue_reset_callback`. -/
def resetCallback (st : State Buffer) : State Buffer :=
  ({ st with reset := true }.setResetFlag st.attachedBuffers).setResetFlag st.dequeuedBuffers

/-- The start of `__tpl_wayland_egl_surface_dequeue_buffer`: a resized window
resets the queue, which runs the reset callback. -/
def applyResize (st : State Buffer) : State Buffer :=
  if st.resized then { st.resetCallback with resized := false, reset := false } else st

def trackDequeued (st : State Buffer) (b : Buffer) (pushed : Bool) : State Buffer :=
  { st.setBufferReset b false with
    reset := false
    dequeuedBuffers := pushBack st.dequeuedBuffers b pushed }

/-- `__tpl_wayland_egl_surface_dequeue_buffer` after its wait. -/
def dequeueBuffer (st : State Buffer) (out : DequeueOutcome Buffer) :
    Option Buffer × State Buffer :=
  match out.dequeue with
  | none => (none, st)
  | some b =>
      let st₁ := st.ref b
      match st₁.getBuffer b with
      | some _ => (some b, st₁.trackDequeued b out.pushed)
      | none =>
          if out.calloc = false then (none, st₁.unref b)
          else if out.createBuffer = false then (none, st₁.unref b)
          else (some b, st₁.trackDequeued b out.pushed)

/-- `__tpl_wayland_egl_surface_commit`; `none` is its failed assertion. -/
def commit (st : State Buffer) (b : Buffer) (pushed : Bool) : Option (State Buffer) :=
  match st.getBuffer b with
  | none => none
  | some _ =>
      some { st with
        attachedBuffers := pushBack st.attachedBuffers b pushed
        committed := st.committed ++ [b] }

/-- A call of `tbm_surface_queue_enqueue` or `tbm_surface_queue_release`. -/
def callQueue (st : State Buffer) (b : Buffer) : State Buffer :=
  { st with queueCalls := st.queueCalls ++ [b] }

/-- `__tpl_wayland_egl_surface_enqueue_buffer` after its waits. -/
def enqueueBuffer (st : State Buffer) (b : Buffer) (out : EnqueueOutcome Buffer) :
    Option (TplResult × State Buffer) :=
  let st₁ := { st with dequeuedBuffers := st.dequeuedBuffers.erase b }
  match st₁.getBuffer b with
  | none => some (.errorInvalidParameter, st₁)
  | some true => (st₁.commit b out.pushed).map fun st₂ => (.errorNone, st₂)
  | some false =>
      let st₁ := st₁.callQueue b
      match out.enqueue with
      | .errorNone =>
          match out.acquire with
          | some acquired =>
              (((st₁.unref b).ref acquired).commit acquired out.pushed).map fun st₂ =>
                (.errorNone, st₂)
          | none => some (.errorInvalidOperation, st₁.unref b)
      | .unknownSurface => (st₁.commit b out.pushed).map fun st₂ => (.errorNone, st₂)
      | .other => some (.errorInvalidOperation, st₁)

/-- `__cb_client_buffer_release_callback`. -/
def releaseCallback (st : State Buffer) (b : Buffer) : State Buffer :=
  if st.isValid b then
    match st.getBuffer b with
    | some reset =>
        let st₁ := { st with attachedBuffers := st.attachedBuffers.erase b }
        if reset then st₁.unref b else (st₁.callQueue b).unref b
    | none => st.unref b
  else st

end State

/-- One step. A tbm_surface is destroyed only when TPL holds no reference to it,
and its user data goes with it; the queue hands out living ones. -/
def step (st : State Buffer) : Label Buffer → Option (State Buffer)
  | .createTbmSurface b =>
      if st.isValid b then none
      else some { st with
        isValid := Function.update st.isValid b true
        buffer := Function.update st.buffer b none }
  | .destroyTbmSurface b =>
      if st.isValid b ∧ st.refs b ≤ 0 then
        some { st with
          isValid := Function.update st.isValid b false
          buffer := Function.update st.buffer b none }
      else none
  | .resize => some { st with resized := true }
  | .queueReset => some st.resetCallback
  | .release b =>
      if b ∈ st.committed then
        some (State.releaseCallback { st with committed := st.committed.erase b } b)
      else none
  | .dequeueBegin =>
      match st.call with
      | .none => some { st.applyResize with call := .dequeueBuffer }
      | _ => none
  | .dequeueWaitFailed =>
      match st.call with
      | .dequeueBuffer => some { st with call := .none }
      | _ => none
  | .dequeueEnd out =>
      match st.call with
      | .dequeueBuffer =>
          if ∀ b ∈ out.dequeue, st.isValid b then
            match st.dequeueBuffer out with
            | (some b, st₁) => some { st₁ with call := .none, held := st.held ++ [b] }
            | (none, st₁) => some { st₁ with call := .none }
          else none
      | _ => none
  | .enqueueBegin b =>
      match st.call with
      -- an invalid buffer returns an error before anything changes
      | .none => if st.isValid b then some { st with call := .enqueueBuffer b } else some st
      | _ => none
  | .enqueueEnd out =>
      match st.call with
      | .enqueueBuffer b =>
          if ∀ acquired ∈ out.acquire, st.isValid acquired then
            match st.enqueueBuffer b out with
            | some (_, st₁) => some { st₁ with call := .none, held := st.held.erase b }
            | none => none
          else none
      | _ => none

@[simp] theorem getBuffer_erase (st : State Buffer) (b c : Buffer) :
    State.getBuffer { st with dequeuedBuffers := st.dequeuedBuffers.erase b } c =
      st.getBuffer c := rfl

omit [DecidableEq Buffer] in
@[simp] theorem getBuffer_callQueue (st : State Buffer) (b c : Buffer) :
    (st.callQueue b).getBuffer c = st.getBuffer c := rfl

theorem unref_ref (st : State Buffer) (b : Buffer) : (st.ref b).unref b = st := by
  simp [State.ref, State.unref]

theorem dequeueBuffer_cases (st : State Buffer) (out : DequeueOutcome Buffer) :
    st.dequeueBuffer out = (none, st) ∨
      ∃ b, out.dequeue = some b ∧
        st.dequeueBuffer out = (some b, (st.ref b).trackDequeued b out.pushed) := by
  cases hout : out.dequeue with
  | none => exact .inl (by simp only [State.dequeueBuffer, hout])
  | some b =>
      simp only [State.dequeueBuffer, hout]
      split
      · exact .inr ⟨b, rfl, rfl⟩
      · split
        · rw [unref_ref]
          exact .inl rfl
        · split
          · rw [unref_ref]
            exact .inl rfl
          · exact .inr ⟨b, rfl, rfl⟩

/-- The state after a commit of `acquired` that follows the enqueue of `b`. -/
def State.committedAfter (st : State Buffer) (b acquired : Buffer) (pushed : Bool) :
    State Buffer :=
  { st with
    dequeuedBuffers := st.dequeuedBuffers.erase b
    attachedBuffers := pushBack st.attachedBuffers acquired pushed
    committed := st.committed ++ [acquired] }

@[simp] theorem committedAfter_refs (st : State Buffer) (b acquired : Buffer) (pushed : Bool) :
    (st.committedAfter b acquired pushed).refs = st.refs := rfl

/-- The state after the call that the tbm queue gets for a buffer without the reset flag. -/
def State.called (st : State Buffer) (b : Buffer) : State Buffer :=
  { st with
    queueCalls := st.queueCalls ++ if st.getBuffer b = some false then [b] else [] }

omit [DecidableEq Buffer] in
theorem called_eq_self {st : State Buffer} {b : Buffer} (h : st.getBuffer b ≠ some false) :
    st.called b = st := by
  simp [State.called, h]

omit [DecidableEq Buffer] in
theorem called_eq_callQueue {st : State Buffer} {b : Buffer} (h : st.getBuffer b = some false) :
    st.called b = st.callQueue b := by
  simp [State.called, State.callQueue, h]

/-- The ways out of `enqueue_buffer`: the buffer has no record, it is committed itself, the
one that was acquired is committed, the acquire fails, or the queue refuses the buffer. -/
inductive Enqueues (st : State Buffer) (b : Buffer) (out : EnqueueOutcome Buffer) :
    TplResult → State Buffer → Prop
  | unrecorded (hrecord : st.getBuffer b = none) :
      Enqueues st b out .errorInvalidParameter
        { st.called b with dequeuedBuffers := st.dequeuedBuffers.erase b }
  | direct (hrecord : (st.getBuffer b).isSome = true)
      (henqueue : st.getBuffer b = some false → out.enqueue = .unknownSurface) :
      Enqueues st b out .errorNone ((st.called b).committedAfter b b out.pushed)
  | acquired {acquired : Buffer} (hrecord : st.getBuffer b = some false)
      (henqueue : out.enqueue = .errorNone) (hacquire : out.acquire = some acquired)
      (hsome : (st.getBuffer acquired).isSome = true) :
      Enqueues st b out .errorNone
        ((((st.called b).unref b).ref acquired).committedAfter b acquired out.pushed)
  | notAcquired (hrecord : st.getBuffer b = some false) (henqueue : out.enqueue = .errorNone)
      (hacquire : out.acquire = none) :
      Enqueues st b out .errorInvalidOperation
        { (st.called b).unref b with dequeuedBuffers := st.dequeuedBuffers.erase b }
  | refused (hrecord : st.getBuffer b = some false) (henqueue : out.enqueue = .other) :
      Enqueues st b out .errorInvalidOperation
        { st.called b with dequeuedBuffers := st.dequeuedBuffers.erase b }

theorem Enqueues.of_enqueueBuffer {st st' : State Buffer} {b : Buffer}
    {out : EnqueueOutcome Buffer} {result : TplResult}
    (h : st.enqueueBuffer b out = some (result, st')) : Enqueues st b out result st' := by
  cases hbuffer : st.getBuffer b with
  | none =>
      have hexit : Enqueues st b out _ _ := .unrecorded hbuffer
      rw [called_eq_self (by simp [hbuffer])] at hexit
      simp only [State.enqueueBuffer, getBuffer_erase, hbuffer] at h
      cases h
      exact hexit
  | some reset =>
      simp only [State.enqueueBuffer, getBuffer_erase, hbuffer] at h
      cases reset with
      | true =>
          have hexit : Enqueues st b out _ _ := .direct (by simp [hbuffer]) (by simp [hbuffer])
          rw [called_eq_self (by simp [hbuffer])] at hexit
          simp only [State.commit, getBuffer_erase, hbuffer, Option.map_some] at h
          cases h
          exact hexit
      | false =>
          have hcalled := called_eq_callQueue hbuffer
          simp only at h
          split at h
          · rename_i henqueue
            split at h
            · rename_i acquired hacquire
              obtain ⟨st₂, hcommit, hst₂⟩ := Option.map_eq_some_iff.mp h
              cases hst₂
              simp only [State.commit] at hcommit
              split at hcommit
              · cases hcommit
              · rename_i record hsome
                have hexit : Enqueues st b out _ _ := .acquired hbuffer henqueue hacquire
                  (Option.isSome_iff_exists.mpr ⟨record, hsome⟩)
                rw [hcalled] at hexit
                cases hcommit
                exact hexit
            · rename_i hacquire
              have hexit : Enqueues st b out _ _ := .notAcquired hbuffer henqueue hacquire
              rw [hcalled] at hexit
              cases h
              exact hexit
          · rename_i henqueue
            have hexit : Enqueues st b out _ _ := .direct (by simp [hbuffer]) fun _ => henqueue
            rw [hcalled] at hexit
            simp only [State.commit, getBuffer_callQueue, getBuffer_erase, hbuffer,
              Option.map_some] at h
            cases h
            exact hexit
          · rename_i henqueue
            have hexit : Enqueues st b out _ _ := .refused hbuffer henqueue
            rw [hcalled] at hexit
            cases h
            exact hexit

theorem enqueueBuffer_cases {st st' : State Buffer} {b : Buffer} {out : EnqueueOutcome Buffer}
    {result : TplResult} (h : st.enqueueBuffer b out = some (result, st')) :
    (result = .errorNone ∧ (st.getBuffer b).isSome = true ∧
      st' = (st.called b).committedAfter b b out.pushed) ∨
    (result = .errorNone ∧ ∃ acquired, out.acquire = some acquired ∧
      (st.getBuffer acquired).isSome = true ∧
      st' = (((st.called b).unref b).ref acquired).committedAfter b acquired out.pushed) ∨
    (result ≠ .errorNone ∧
      st' = { (st.called b).unref b with dequeuedBuffers := st.dequeuedBuffers.erase b }) ∨
    (result ≠ .errorNone ∧
      st' = { st.called b with dequeuedBuffers := st.dequeuedBuffers.erase b }) := by
  cases Enqueues.of_enqueueBuffer h with
  | unrecorded => exact .inr (.inr (.inr ⟨nofun, rfl⟩))
  | direct hrecord => exact .inl ⟨rfl, hrecord, rfl⟩
  | acquired _ _ hacquire hsome => exact .inr (.inl ⟨rfl, _, hacquire, hsome, rfl⟩)
  | notAcquired => exact .inr (.inr (.inl ⟨nofun, rfl⟩))
  | refused => exact .inr (.inr (.inr ⟨nofun, rfl⟩))

omit [DecidableEq Buffer] in
theorem isValid_of_recorded {st : State Buffer} {b : Buffer}
    (h : (st.getBuffer b).isSome = true) : st.isValid b = true := by
  by_contra hnot
  simp [State.getBuffer, hnot] at h

theorem releaseCallback_recorded {st : State Buffer} {b : Buffer}
    (h : (st.getBuffer b).isSome = true) :
    State.releaseCallback { st with committed := st.committed.erase b } b =
      { st.called b with
        committed := st.committed.erase b
        attachedBuffers := st.attachedBuffers.erase b }.unref b := by
  obtain ⟨reset, hreset⟩ := Option.isSome_iff_exists.mp h
  have hreset' : State.getBuffer { st with committed := st.committed.erase b } b = some reset :=
    hreset
  simp only [State.releaseCallback, isValid_of_recorded h, if_true, hreset']
  cases reset with
  | true =>
      rw [called_eq_self (by simp [hreset])]
      rfl
  | false =>
      rw [called_eq_callQueue hreset]
      rfl

inductive Fires : State Buffer → Label Buffer → State Buffer → Prop
  | createTbmSurface {st b} (hvalid : st.isValid b = false) :
      Fires st (.createTbmSurface b)
        { st with
          isValid := Function.update st.isValid b true
          buffer := Function.update st.buffer b none }
  | destroyTbmSurface {st b} (hrefs : st.refs b ≤ 0) :
      Fires st (.destroyTbmSurface b)
        { st with
          isValid := Function.update st.isValid b false
          buffer := Function.update st.buffer b none }
  | resize {st} : Fires st .resize { st with resized := true }
  | queueReset {st} : Fires st .queueReset st.resetCallback
  | release {st b} (hcommitted : b ∈ st.committed) :
      Fires st (.release b)
        (State.releaseCallback { st with committed := st.committed.erase b } b)
  | dequeueBegin {st} : Fires st .dequeueBegin { st.applyResize with call := .dequeueBuffer }
  | dequeueWaitFailed {st} : Fires st .dequeueWaitFailed { st with call := .none }
  | dequeueFailed {st out} (hresult : st.dequeueBuffer out = (none, st)) :
      Fires st (.dequeueEnd out) { st with call := .none }
  | dequeued {st out b} (hvalid : st.isValid b = true)
      (hresult : st.dequeueBuffer out = (some b, (st.ref b).trackDequeued b out.pushed)) :
      Fires st (.dequeueEnd out)
        { (st.ref b).trackDequeued b out.pushed with call := .none, held := st.held ++ [b] }
  | enqueueBegin {st b} : Fires st (.enqueueBegin b) { st with call := .enqueueBuffer b }
  | enqueueInvalid {st b} : Fires st (.enqueueBegin b) st
  | enqueueEnd {st st₁ out b result} (hcall : st.call = .enqueueBuffer b)
      (hresult : st.enqueueBuffer b out = some (result, st₁)) :
      Fires st (.enqueueEnd out) { st₁ with call := .none, held := st.held.erase b }

theorem Fires.of_step {st st' : State Buffer} {l : Label Buffer} (h : step st l = some st') :
    Fires st l st' := by
  cases l with
  | createTbmSurface b =>
      simp only [step] at h
      split at h
      · cases h
      · rename_i hvalid
        cases h
        exact .createTbmSurface (Bool.eq_false_iff.mpr hvalid)
  | destroyTbmSurface b =>
      simp only [step] at h
      split at h
      · rename_i hguard
        cases h
        exact .destroyTbmSurface hguard.2
      · cases h
  | resize =>
      cases h
      exact .resize
  | queueReset =>
      cases h
      exact .queueReset
  | release b =>
      simp only [step] at h
      split at h
      · rename_i hcommitted
        cases h
        exact .release hcommitted
      · cases h
  | dequeueBegin =>
      simp only [step] at h
      split at h
      · cases h
        exact .dequeueBegin
      · cases h
  | dequeueWaitFailed =>
      simp only [step] at h
      split at h
      · cases h
        exact .dequeueWaitFailed
      · cases h
  | dequeueEnd out =>
      simp only [step] at h
      split at h
      · split at h
        · rename_i hvalid
          rcases dequeueBuffer_cases st out with hnone | ⟨b, hb, hsome⟩
          · simp only [hnone] at h
            cases h
            exact .dequeueFailed hnone
          · simp only [hsome] at h
            cases h
            exact .dequeued (hvalid b hb) hsome
        · cases h
      · cases h
  | enqueueBegin b =>
      simp only [step] at h
      split at h
      · split at h
        · cases h
          exact .enqueueBegin
        · cases h
          exact .enqueueInvalid
      · cases h
  | enqueueEnd out =>
      simp only [step] at h
      split at h
      · rename_i b hcall
        split at h
        · split at h
          · rename_i result st₁ hresult
            cases h
            exact .enqueueEnd hcall hresult
          · cases h
        · cases h
      · cases h

def newSurface (isValid : Buffer → Bool) (buffer : Buffer → Option Bool) : State Buffer where
  resized := false
  reset := false
  dequeuedBuffers := []
  attachedBuffers := []
  isValid := isValid
  buffer := buffer
  refs := fun _ => 0
  call := .none
  held := []
  committed := []
  queueCalls := []

def surfaceSystem : System (State Buffer) (Label Buffer) where
  Initial st := ∃ isValid buffer, st = newSurface isValid buffer
  step := step

end

end LibtplEgl.WaylandEglSurface
