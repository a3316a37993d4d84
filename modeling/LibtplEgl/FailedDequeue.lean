import LibtplEgl.BackendEnqueue
import LibtplEgl.ResetGeneration

namespace LibtplEgl.FailedDequeue

open LibtplEgl.BackendEnqueue (SurfaceBackend)
open LibtplEgl.BufferReferences
open LibtplEgl.FrontbufferMode (TplSurface)
open LibtplEgl.ResetGeneration
open LibtplEgl.TplTypes

universe u

/-- What the callbacks of the events that wayland-egl dispatches in its wait set. -/
inductive FlagEvent
  | queueReset
  | resize
  deriving DecidableEq, Repr

/-- The outcomes of what the `dequeue_buffer` of a backend calls. `dequeue` and
`dequeueAgain` are what the calls of `tbm_surface_queue_dequeue` leave in
`tbm_surface`, `waitOk` says that the wait for a free buffer succeeds, and `pushed`
that the list of wayland-egl gets its node. -/
structure DequeueOutcome (Buffer : Type u) where
  objectValid : Bool
  events : List FlagEvent
  waitOk : Bool
  dequeue : Option Buffer
  canDequeue : Bool
  dequeueAgain : Option Buffer
  getBo : Bool
  calloc : Bool
  createBuffer : Bool
  createTimeline : Bool
  pushed : Bool
  deriving DecidableEq, Repr

/-- A surface with its backend. `egl` are the tbm_surfaces with their records and the
references of TPL, and the flags of a wayland-egl surface; `taken` are the
tbm_surfaces that the queue has given out and not got back, and `nullRefs` counts the
references taken on NULL. -/
structure DequeueState (Buffer : Type u) where
  backend : SurfaceBackend
  surface : TplSurface Buffer
  windowSize : Int × Int
  bufferSize : Buffer → Int × Int
  egl : WaylandEglSurface.State Buffer
  taken : List Buffer
  nullRefs : Nat

section

variable {Buffer : Type u} [DecidableEq Buffer]

def handleEvent (egl : WaylandEglSurface.State Buffer) : FlagEvent → WaylandEglSurface.State Buffer
  | .queueReset => egl.resetCallback
  | .resize => { egl with resized := true }

namespace DequeueState

/-- `tbm_surface_internal_ref`. -/
def ref (st : DequeueState Buffer) : Option Buffer → DequeueState Buffer
  | some b => { st with egl := st.egl.ref b }
  | none => { st with nullRefs := st.nullRefs + 1 }

/-- `tbm_surface_internal_unref`, which ignores NULL. -/
def unref (st : DequeueState Buffer) : Option Buffer → DequeueState Buffer
  | some b => { st with egl := st.egl.unref b }
  | none => st

omit [DecidableEq Buffer] in
/-- The user data of a tbm_surface; NULL is not valid. -/
def getBuffer (st : DequeueState Buffer) (tbmSurface : Option Buffer) : Option Bool :=
  tbmSurface.bind st.egl.getBuffer

def setBuffer (st : DequeueState Buffer) : Option Buffer → DequeueState Buffer
  | some b => { st with egl := st.egl.setBufferReset b false }
  | none => st

omit [DecidableEq Buffer] in
def take (st : DequeueState Buffer) (tbmSurface : Option Buffer) : DequeueState Buffer :=
  { st with taken := tbmSurface.toList ++ st.taken }

omit [DecidableEq Buffer] in
@[simp] theorem backend_take (st : DequeueState Buffer) (tbmSurface : Option Buffer) :
    (st.take tbmSurface).backend = st.backend := rfl

omit [DecidableEq Buffer] in
@[simp] theorem getBuffer_take (st : DequeueState Buffer) (tbmSurface : Option Buffer) :
    (st.take tbmSurface).getBuffer = st.getBuffer := rfl

@[simp] theorem getBuffer_ref (st : DequeueState Buffer) (tbmSurface : Option Buffer) :
    (st.ref tbmSurface).getBuffer = st.getBuffer := by
  cases tbmSurface <;> rfl

/-- `__tpl_wayland_egl_surface_dequeue_buffer`. -/
def waylandEglDequeueBuffer (st : DequeueState Buffer) (out : DequeueOutcome Buffer) :
    Option Buffer × DequeueState Buffer :=
  if out.objectValid = false then (none, st)
  else
    let surface := if st.egl.resized then st.surface.setSize st.windowSize else st.surface
    let egl := out.events.foldl handleEvent st.egl.applyResize
    if out.waitOk = false then (none, { st with surface := surface, egl := egl })
    else
      let (result, egl) := egl.dequeueBuffer
        ⟨out.dequeue, out.calloc, out.createBuffer, out.pushed⟩
      (result, { st with surface := surface, egl := egl }.take out.dequeue)

/-- `__tpl_wayland_vk_wsi_surface_dequeue_buffer`. -/
def vkDequeueBuffer (st : DequeueState Buffer) (out : DequeueOutcome Buffer) :
    Option Buffer × DequeueState Buffer :=
  if out.waitOk = false then (none, st)
  else match out.dequeue with
    | none => (none, st)
    | some b =>
        let st := (st.take (some b)).ref (some b)
        match st.getBuffer (some b) with
        | some _ => (some b, st)
        | none =>
            if out.calloc = false then (none, st.unref (some b))
            else if out.createBuffer = false then (none, st.unref (some b))
            else if out.createTimeline = false then (none, st.unref (some b))
            else (some b, st.setBuffer (some b))

/-- The two calls of `tbm_surface_queue_dequeue` in the tbm and gbm backends: the
tbm_surface, or NULL, that the backend goes on with; `none` when it returns NULL. -/
def dequeueTwice (out : DequeueOutcome Buffer) : Option (Option Buffer) :=
  match out.dequeue with
  | some b => some (some b)
  | none =>
      if out.canDequeue = false then some none
      else match out.dequeueAgain with
        | some b => some (some b)
        | none => none

/-- `__tpl_tbm_surface_dequeue_buffer`. -/
def tbmDequeueBuffer (st : DequeueState Buffer) (out : DequeueOutcome Buffer) :
    Option Buffer × DequeueState Buffer :=
  match dequeueTwice out with
  | none => (none, st)
  | some tbmSurface =>
      let st := st.take tbmSurface
      if st.backend = .tbmVulkanWsi then
        match st.getBuffer tbmSurface with
        | some _ => (tbmSurface, st.ref tbmSurface)
        | none =>
            if out.calloc = false then (none, st)
            else (tbmSurface, (st.setBuffer tbmSurface).ref tbmSurface)
      else (tbmSurface, st.ref tbmSurface)

/-- `__tpl_gbm_surface_dequeue_buffer`; NULL has no bo. -/
def gbmDequeueBuffer (st : DequeueState Buffer) (out : DequeueOutcome Buffer) :
    Option Buffer × DequeueState Buffer :=
  match dequeueTwice out with
  | none => (none, st)
  | some tbmSurface =>
      let st := (st.take tbmSurface).ref tbmSurface
      match st.getBuffer tbmSurface with
      | some _ => (tbmSurface, st)
      | none =>
          if tbmSurface = none ∨ out.getBo = false then (none, st.unref tbmSurface)
          else if out.calloc = false then (none, st.unref tbmSurface)
          else (tbmSurface, st.setBuffer tbmSurface)

def backendDequeueBuffer (st : DequeueState Buffer) (out : DequeueOutcome Buffer) :
    Option Buffer × DequeueState Buffer :=
  match st.backend with
  | .waylandEgl => st.waylandEglDequeueBuffer out
  | .waylandVulkanWsi => st.vkDequeueBuffer out
  | .gbm => st.gbmDequeueBuffer out
  | .tbm | .tbmVulkanWsi => st.tbmDequeueBuffer out

omit [DecidableEq Buffer] in
/-- The `validate` of the backend. -/
def validate (st : DequeueState Buffer) : Bool :=
  match st.backend with
  | .waylandEgl => !(st.egl.resized || st.egl.reset)
  | .waylandVulkanWsi | .gbm | .tbm | .tbmVulkanWsi => true

/-- `tpl_surface_dequeue_buffer_with_sync`. -/
def dequeueBuffer (st : DequeueState Buffer) (out : DequeueOutcome Buffer) :
    Option Buffer × DequeueState Buffer :=
  match st.surface.takeFrontbuffer st.validate with
  | (some b, surface) => (some b, { st with surface := surface.setSize (st.bufferSize b) })
  | (none, surface) =>
      match { st with surface := surface }.backendDequeueBuffer out with
      | (some b, st) => (some b, { st with surface := st.surface.setSize (st.bufferSize b) })
      | (none, st) => (none, st)

end DequeueState

omit [DecidableEq Buffer] in
/-- The queue has its tbm_surfaces back, the references are as before, and a surface
that was not valid still is not. -/
structure Unchanged (st st' : DequeueState Buffer) : Prop where
  taken : st'.taken = st.taken
  refs : st'.egl.refs = st.egl.refs
  validate : st.validate = false → st'.validate = false

/-- The call returns a buffer or leaves everything as it was, and it takes no reference
on NULL. -/
def DequeueClean (st : DequeueState Buffer) (r : Option Buffer × DequeueState Buffer) : Prop :=
  (r.1 = none → Unchanged st r.2) ∧ r.2.nullRefs = st.nullRefs

/-- `tbm_surface` is NULL after the first dequeue and no buffer can be waited for. -/
def NoBuffer (out : DequeueOutcome Buffer) : Prop :=
  out.dequeue = none ∧ out.canDequeue = false

def Gives (out : DequeueOutcome Buffer) (b : Buffer) : Prop :=
  out.dequeue = some b ∨
    out.dequeue = none ∧ out.canDequeue = true ∧ out.dequeueAgain = some b

/-- Nothing fails once the queue has given out a buffer, and a resize that the call has
applied is followed by another change before the call fails. -/
def BackendSafe (st : DequeueState Buffer) (out : DequeueOutcome Buffer) : Prop :=
  match st.backend with
  | .waylandEgl => out.objectValid = true →
      (out.waitOk = false ∨ out.dequeue = none → st.egl.resized = true → out.events ≠ []) ∧
        (out.waitOk = true → ∀ b ∈ out.dequeue,
          (st.egl.getBuffer b).isSome = true ∨ out.calloc = true ∧ out.createBuffer = true)
  | .waylandVulkanWsi => out.waitOk = true → ∀ b ∈ out.dequeue,
      (st.egl.getBuffer b).isSome = true ∨
        out.calloc = true ∧ out.createBuffer = true ∧ out.createTimeline = true
  | .gbm => ¬ NoBuffer out ∧ ∀ b, Gives out b →
      (st.egl.getBuffer b).isSome = true ∨ out.getBo = true ∧ out.calloc = true
  | .tbm => ¬ NoBuffer out
  | .tbmVulkanWsi => (NoBuffer out → out.calloc = false) ∧ ∀ b, Gives out b →
      (st.egl.getBuffer b).isSome = true ∨ out.calloc = true

/-- The front buffer answers the call, or the backend is safe. -/
def DequeueSafe (st : DequeueState Buffer) (out : DequeueOutcome Buffer) : Prop :=
  ¬ (st.surface.isFrontbufferMode = true ∧ st.surface.frontbuffer.isSome = true ∧
    st.validate = true) → BackendSafe st out

end

section

variable {Buffer : Type u} [DecidableEq Buffer]

theorem setResetFlag_flags (egl : WaylandEglSurface.State Buffer) (bs : List Buffer) :
    (egl.setResetFlag bs).resized = egl.resized ∧ (egl.setResetFlag bs).reset = egl.reset := by
  induction bs generalizing egl with
  | nil => exact ⟨rfl, rfl⟩
  | cons b bs ih =>
      rw [WaylandEglSurface.State.setResetFlag]
      split
      · exact ih (egl.setBufferReset b true)
      · exact ih egl

theorem reset_resetCallback (egl : WaylandEglSurface.State Buffer) :
    egl.resetCallback.reset = true := by
  rw [WaylandEglSurface.State.resetCallback, (setResetFlag_flags _ _).2,
    (setResetFlag_flags _ _).2]

theorem flags_applyResize (egl : WaylandEglSurface.State Buffer) :
    (egl.applyResize.resized || egl.applyResize.reset) = (!egl.resized && egl.reset) := by
  unfold WaylandEglSurface.State.applyResize
  cases hresized : egl.resized <;> simp [hresized]

theorem flags_handleEvents (egl : WaylandEglSurface.State Buffer) (events : List FlagEvent) :
    ((events.foldl handleEvent egl).resized || (events.foldl handleEvent egl).reset) =
      (egl.resized || egl.reset || !events.isEmpty) := by
  induction events generalizing egl with
  | nil => simp
  | cons event events ih =>
      have hevent : ((handleEvent egl event).resized || (handleEvent egl event).reset) = true := by
        cases event with
        | queueReset => simp [handleEvent, reset_resetCallback]
        | resize => simp [handleEvent]
      rw [List.foldl_cons, ih, hevent]
      simp

theorem sameTracking_handleEvents (egl : WaylandEglSurface.State Buffer)
    (events : List FlagEvent) : SameTracking egl (events.foldl handleEvent egl) := by
  induction events generalizing egl with
  | nil => exact .refl egl
  | cons event events ih =>
      refine .trans ?_ (ih _)
      cases event with
      | queueReset => exact sameTracking_resetCallback egl
      | resize => exact ⟨rfl, rfl, rfl, rfl, rfl, rfl, fun _ => id⟩

theorem isSome_getBuffer_resetCallback (egl : WaylandEglSurface.State Buffer) (b : Buffer) :
    (egl.resetCallback.getBuffer b).isSome = (egl.getBuffer b).isSome := by
  rw [getBuffer_resetCallback]
  split
  · rw [Option.isSome_map]
  · rfl

theorem isSome_getBuffer_wait (egl : WaylandEglSurface.State Buffer) (events : List FlagEvent)
    (b : Buffer) : ((events.foldl handleEvent egl.applyResize).getBuffer b).isSome =
      (egl.getBuffer b).isSome := by
  have hevents : ∀ egl : WaylandEglSurface.State Buffer,
      ((events.foldl handleEvent egl).getBuffer b).isSome = (egl.getBuffer b).isSome := by
    induction events with
    | nil => exact fun _ => rfl
    | cons event events ih =>
        intro egl
        rw [List.foldl_cons, ih]
        cases event with
        | queueReset => exact isSome_getBuffer_resetCallback egl b
        | resize => rfl
  rw [hevents]
  unfold WaylandEglSurface.State.applyResize
  split
  · exact isSome_getBuffer_resetCallback egl b
  · rfl

variable {st st' : DequeueState Buffer} {out : DequeueOutcome Buffer} {b : Buffer}

omit [DecidableEq Buffer] in
theorem Unchanged.refl (st : DequeueState Buffer) : Unchanged st st := ⟨rfl, rfl, id⟩

omit [DecidableEq Buffer] in
theorem dequeueClean_some (h : st'.nullRefs = st.nullRefs) : DequeueClean st (some b, st') :=
  ⟨nofun, h⟩

omit [DecidableEq Buffer] in
theorem dequeueClean_none (h : Unchanged st st') (hnull : st'.nullRefs = st.nullRefs) :
    DequeueClean st (none, st') :=
  ⟨fun _ => h, hnull⟩

omit [DecidableEq Buffer] in
theorem not_dequeueClean_taken (h : st'.taken = b :: st.taken) :
    ¬ DequeueClean st (none, st') := by
  intro hclean
  have htaken := (hclean.1 rfl).taken
  rw [h] at htaken
  exact List.cons_ne_self b st.taken htaken

omit [DecidableEq Buffer] in
theorem not_dequeueClean_nullRef {result : Option Buffer} (h : st'.nullRefs = st.nullRefs + 1) :
    ¬ DequeueClean st (result, st') := by
  intro hclean
  have hnull : st'.nullRefs = st.nullRefs := hclean.2
  omega

theorem dequeueClean_wait (hbackend : st.backend = .waylandEgl) (surface : TplSurface Buffer) :
    DequeueClean st (none, { st with
      surface := surface
      egl := out.events.foldl handleEvent st.egl.applyResize }) ↔
      (st.egl.resized = true → out.events ≠ []) := by
  have hrefs : (out.events.foldl handleEvent st.egl.applyResize).refs = st.egl.refs :=
    (sameTracking_handleEvents _ _).refs.trans (sameTracking_applyResize _).refs
  have hflags : ∀ egl : WaylandEglSurface.State Buffer,
      DequeueState.validate { st with surface := surface, egl := egl } =
        !(egl.resized || egl.reset) := by
    intro egl
    simp [DequeueState.validate, hbackend]
  have hvalidate : st.validate = !(st.egl.resized || st.egl.reset) := by
    simp [DequeueState.validate, hbackend]
  have hafter := flags_handleEvents st.egl.applyResize out.events
  rw [flags_applyResize] at hafter
  constructor
  · intro hclean hresized hevents
    have hsame := (hclean.1 rfl).validate (by rw [hvalidate, hresized]; rfl)
    rw [hflags, hafter, hresized, hevents] at hsame
    cases hsame
  · intro hevents
    refine dequeueClean_none ⟨rfl, hrefs, fun hinvalid => ?_⟩ rfl
    rw [hflags, hafter]
    rw [hvalidate] at hinvalid
    cases hresized : st.egl.resized with
    | false =>
        rw [hresized, Bool.false_or, Bool.not_eq_false'] at hinvalid
        simp [hinvalid]
    | true => simp [hevents hresized]

theorem getBuffer_ref (egl : WaylandEglSurface.State Buffer) (b c : Buffer) :
    (egl.ref b).getBuffer c = egl.getBuffer c := rfl

theorem dequeueClean_waylandEgl (hbackend : st.backend = .waylandEgl) :
    DequeueClean st (st.waylandEglDequeueBuffer out) ↔ BackendSafe st out := by
  simp only [BackendSafe, hbackend]
  unfold DequeueState.waylandEglDequeueBuffer
  split
  · rename_i hobject
    refine ⟨fun _ hvalid => ?_, fun _ => dequeueClean_none (.refl st) rfl⟩
    cases hobject.symm.trans hvalid
  · rename_i hobject
    have hobject' : out.objectValid = true := Bool.of_not_eq_false hobject
    simp only [hobject', true_implies]
    cases hwait : out.waitOk with
    | false =>
        simp only [if_true, true_or, true_implies, Bool.false_eq_true, false_implies, and_true]
        exact dequeueClean_wait hbackend _
    | true =>
        simp only [Bool.true_eq_false, if_false, false_or, true_implies]
        cases hdequeue : out.dequeue with
        | none =>
            have hnone : _ ↔ (st.egl.resized = true → out.events ≠ []) :=
              dequeueClean_wait hbackend
                (if st.egl.resized then st.surface.setSize st.windowSize else st.surface)
            simpa [WaylandEglSurface.State.dequeueBuffer, DequeueState.take] using hnone
        | some b =>
            have hrecord := isSome_getBuffer_wait st.egl out.events b
            simp only [reduceCtorEq, false_implies, Option.mem_some_iff, forall_eq', true_and]
            rw [← hrecord]
            simp only [WaylandEglSurface.State.dequeueBuffer, getBuffer_ref]
            cases hbuffer : (out.events.foldl handleEvent st.egl.applyResize).getBuffer b with
            | some reset => exact ⟨fun _ => .inl rfl, fun _ => dequeueClean_some rfl⟩
            | none =>
                simp only [Option.isSome_none, Bool.false_eq_true, false_or]
                cases hcalloc : out.calloc with
                | false =>
                    refine ⟨fun hclean => (not_dequeueClean_taken rfl hclean).elim, ?_⟩
                    exact fun h => (Bool.false_ne_true h.1).elim
                | true =>
                    cases hcreate : out.createBuffer with
                    | false =>
                        refine ⟨fun hclean => (not_dequeueClean_taken rfl hclean).elim, ?_⟩
                        exact fun h => (Bool.false_ne_true h.2).elim
                    | true => exact ⟨fun _ => ⟨rfl, rfl⟩, fun _ => dequeueClean_some rfl⟩

theorem dequeueClean_vk (hbackend : st.backend = .waylandVulkanWsi) :
    DequeueClean st (st.vkDequeueBuffer out) ↔ BackendSafe st out := by
  simp only [BackendSafe, hbackend]
  unfold DequeueState.vkDequeueBuffer
  cases hwait : out.waitOk with
  | false => exact ⟨fun _ => nofun, fun _ => dequeueClean_none (.refl st) rfl⟩
  | true =>
      simp only [Bool.true_eq_false, if_false, true_implies]
      cases hdequeue : out.dequeue with
      | none => exact ⟨fun _ => nofun, fun _ => dequeueClean_none (.refl st) rfl⟩
      | some b =>
          simp only [Option.mem_some_iff, forall_eq']
          have hget : ((st.take (some b)).ref (some b)).getBuffer (some b) = st.egl.getBuffer b :=
            rfl
          rw [hget]
          cases hbuffer : st.egl.getBuffer b with
          | some reset => exact ⟨fun _ => .inl rfl, fun _ => dequeueClean_some rfl⟩
          | none =>
              simp only [Option.isSome_none, Bool.false_eq_true, false_or]
              cases hcalloc : out.calloc with
              | false =>
                  refine ⟨fun hclean => (not_dequeueClean_taken rfl hclean).elim, ?_⟩
                  exact fun h => (Bool.false_ne_true h.1).elim
              | true =>
                  cases hcreate : out.createBuffer with
                  | false =>
                      refine ⟨fun hclean => (not_dequeueClean_taken rfl hclean).elim, ?_⟩
                      exact fun h => (Bool.false_ne_true h.2.1).elim
                  | true =>
                      cases htimeline : out.createTimeline with
                      | false =>
                          refine ⟨fun hclean => (not_dequeueClean_taken rfl hclean).elim, ?_⟩
                          exact fun h => (Bool.false_ne_true h.2.2).elim
                      | true => exact ⟨fun _ => ⟨rfl, rfl, rfl⟩, fun _ => dequeueClean_some rfl⟩

omit [DecidableEq Buffer] in
theorem dequeueTwice_cases (out : DequeueOutcome Buffer) :
    (NoBuffer out ∧ (∀ b, ¬ Gives out b) ∧ DequeueState.dequeueTwice out = some none) ∨
    (¬ NoBuffer out ∧ (∀ b, ¬ Gives out b) ∧ DequeueState.dequeueTwice out = none) ∨
    ∃ b, ¬ NoBuffer out ∧ (∀ c, Gives out c ↔ c = b) ∧
      DequeueState.dequeueTwice out = some (some b) := by
  unfold DequeueState.dequeueTwice NoBuffer Gives
  cases hdequeue : out.dequeue with
  | some b => exact .inr (.inr ⟨b, by simp, by grind, rfl⟩)
  | none =>
      cases hcan : out.canDequeue with
      | false => exact .inl (by simp)
      | true =>
          cases hagain : out.dequeueAgain with
          | none => exact .inr (.inl (by simp))
          | some b => exact .inr (.inr ⟨b, by simp, by grind, rfl⟩)

theorem dequeueClean_tbm (hbackend : st.backend = .tbm) :
    DequeueClean st (st.tbmDequeueBuffer out) ↔ BackendSafe st out := by
  simp only [BackendSafe, hbackend]
  unfold DequeueState.tbmDequeueBuffer
  rcases dequeueTwice_cases out with
    ⟨hno, -, htwice⟩ | ⟨hno, -, htwice⟩ | ⟨b, hno, -, htwice⟩
  · simp only [htwice, DequeueState.backend_take, hbackend, reduceCtorEq, if_false]
    exact ⟨fun hclean => (not_dequeueClean_nullRef rfl hclean).elim, fun h => (h hno).elim⟩
  · simp only [htwice]
    exact ⟨fun _ => hno, fun _ => dequeueClean_none (.refl st) rfl⟩
  · simp only [htwice, DequeueState.backend_take, hbackend, reduceCtorEq, if_false]
    exact ⟨fun _ => hno, fun _ => dequeueClean_some rfl⟩

theorem dequeueClean_tbmVulkanWsi (hbackend : st.backend = .tbmVulkanWsi) :
    DequeueClean st (st.tbmDequeueBuffer out) ↔ BackendSafe st out := by
  simp only [BackendSafe, hbackend]
  unfold DequeueState.tbmDequeueBuffer
  rcases dequeueTwice_cases out with
    ⟨hno, hgives, htwice⟩ | ⟨hno, hgives, htwice⟩ | ⟨b, hno, hgives, htwice⟩
  · have hnull : st.getBuffer none = none := rfl
    simp only [htwice, DequeueState.backend_take, hbackend, if_true, DequeueState.getBuffer_take,
      hnull, hno, true_implies]
    cases hcalloc : out.calloc with
    | false =>
        exact ⟨fun _ => ⟨rfl, fun b hb => (hgives b hb).elim⟩,
          fun _ => dequeueClean_none ⟨rfl, rfl, id⟩ rfl⟩
    | true =>
        refine ⟨fun hclean => (not_dequeueClean_nullRef rfl hclean).elim, ?_⟩
        exact fun h => (Bool.false_ne_true h.1.symm).elim
  · simp only [htwice]
    refine ⟨fun _ => ⟨fun h => (hno h).elim, fun b hb => (hgives b hb).elim⟩, ?_⟩
    exact fun _ => dequeueClean_none (.refl st) rfl
  · have hget : st.getBuffer (some b) = st.egl.getBuffer b := rfl
    simp only [htwice, DequeueState.backend_take, hbackend, if_true, DequeueState.getBuffer_take,
      hget, hno, false_implies, true_and, hgives, forall_eq]
    cases hbuffer : st.egl.getBuffer b with
    | some reset => exact ⟨fun _ => .inl rfl, fun _ => dequeueClean_some rfl⟩
    | none =>
        simp only [Option.isSome_none, Bool.false_eq_true, false_or]
        cases hcalloc : out.calloc with
        | false =>
            exact ⟨fun hclean => (not_dequeueClean_taken rfl hclean).elim, nofun⟩
        | true => exact ⟨fun _ => rfl, fun _ => dequeueClean_some rfl⟩

theorem dequeueClean_gbm (hbackend : st.backend = .gbm) :
    DequeueClean st (st.gbmDequeueBuffer out) ↔ BackendSafe st out := by
  simp only [BackendSafe, hbackend]
  unfold DequeueState.gbmDequeueBuffer
  rcases dequeueTwice_cases out with
    ⟨hno, -, htwice⟩ | ⟨hno, hgives, htwice⟩ | ⟨b, hno, hgives, htwice⟩
  · have hnull : st.getBuffer none = none := rfl
    simp only [htwice, DequeueState.getBuffer_ref, DequeueState.getBuffer_take, hnull, true_or,
      if_true]
    exact ⟨fun hclean => (not_dequeueClean_nullRef rfl hclean).elim, fun h => (h.1 hno).elim⟩
  · simp only [htwice]
    exact ⟨fun _ => ⟨hno, fun b hb => (hgives b hb).elim⟩,
      fun _ => dequeueClean_none (.refl st) rfl⟩
  · have hget : st.getBuffer (some b) = st.egl.getBuffer b := rfl
    simp only [htwice, DequeueState.getBuffer_ref, DequeueState.getBuffer_take, hget,
      hno, not_false_eq_true, true_and, hgives, forall_eq, reduceCtorEq, false_or]
    cases hbuffer : st.egl.getBuffer b with
    | some reset => exact ⟨fun _ => .inl rfl, fun _ => dequeueClean_some rfl⟩
    | none =>
        simp only [Option.isSome_none, Bool.false_eq_true, false_or]
        cases hbo : out.getBo with
        | false =>
            refine ⟨fun hclean => (not_dequeueClean_taken rfl hclean).elim, ?_⟩
            exact fun h => (Bool.false_ne_true h.1).elim
        | true =>
            cases hcalloc : out.calloc with
            | false =>
                refine ⟨fun hclean => (not_dequeueClean_taken rfl hclean).elim, ?_⟩
                exact fun h => (Bool.false_ne_true h.2).elim
            | true => exact ⟨fun _ => ⟨rfl, rfl⟩, fun _ => dequeueClean_some rfl⟩

theorem dequeueClean_backend : DequeueClean st (st.backendDequeueBuffer out) ↔ BackendSafe st out := by
  unfold DequeueState.backendDequeueBuffer
  cases hbackend : st.backend with
  | waylandEgl => exact dequeueClean_waylandEgl hbackend
  | waylandVulkanWsi => exact dequeueClean_vk hbackend
  | gbm => exact dequeueClean_gbm hbackend
  | tbm => exact dequeueClean_tbm hbackend
  | tbmVulkanWsi => exact dequeueClean_tbmVulkanWsi hbackend

theorem dequeueClean_frontend (st : DequeueState Buffer) (out : DequeueOutcome Buffer)
    (surface : TplSurface Buffer) :
    DequeueClean st (match DequeueState.backendDequeueBuffer { st with surface := surface } out with
      | (some b, st) => (some b, { st with surface := st.surface.setSize (st.bufferSize b) })
      | (none, st) => (none, st)) ↔ BackendSafe st out := by
  have hbackend : DequeueClean { st with surface := surface }
      (DequeueState.backendDequeueBuffer { st with surface := surface } out) ↔ BackendSafe st out :=
    dequeueClean_backend
  rw [← hbackend]
  rcases DequeueState.backendDequeueBuffer { st with surface := surface } out with ⟨result, st'⟩
  cases result with
  | none =>
      constructor
      · rintro ⟨hunchanged, hnull⟩
        obtain ⟨htaken, hrefs, hvalidate⟩ := hunchanged rfl
        exact ⟨fun _ => ⟨htaken, hrefs, hvalidate⟩, hnull⟩
      · rintro ⟨hunchanged, hnull⟩
        obtain ⟨htaken, hrefs, hvalidate⟩ := hunchanged rfl
        exact ⟨fun _ => ⟨htaken, hrefs, hvalidate⟩, hnull⟩
  | some b => exact ⟨fun h => ⟨nofun, h.2⟩, fun h => ⟨nofun, h.2⟩⟩

/-- A dequeue that returns NULL leaves everything as it was, and no reference is taken on
NULL, in exactly the calls that the front buffer answers or whose backend is safe. -/
theorem dequeueClean_iff (st : DequeueState Buffer) (out : DequeueOutcome Buffer) :
    DequeueClean st (st.dequeueBuffer out) ↔ DequeueSafe st out := by
  unfold DequeueState.dequeueBuffer TplSurface.takeFrontbuffer DequeueSafe
  cases hmode : st.surface.isFrontbufferMode with
  | false =>
      simp only [Bool.false_eq_true, false_and, not_false_eq_true, true_implies]
      exact dequeueClean_frontend st out st.surface
  | true =>
      cases hfront : st.surface.frontbuffer with
      | none =>
          simp only [Option.isSome_none, Bool.false_eq_true, false_and, and_false,
            not_false_eq_true, true_implies]
          exact dequeueClean_frontend st out st.surface
      | some b =>
          cases hvalid : st.validate with
          | true =>
              simp only [if_true, Option.isSome_some, true_and, not_true_eq_false, false_implies,
                iff_true]
              exact dequeueClean_some rfl
          | false =>
              simp only [Bool.false_eq_true, if_false, and_false, not_false_eq_true, true_implies]
              exact dequeueClean_frontend st out _

end

def noFreeBuffer : DequeueState Nat where
  backend := .tbm
  surface := ⟨.window, false, none, 64, 64⟩
  windowSize := (64, 64)
  bufferSize := fun _ => (64, 64)
  egl := WaylandEglSurface.newSurface (fun _ => true) (fun _ => none)
  taken := []
  nullRefs := 0

/-- Neither dequeue gives a buffer, and `tbm_surface_queue_can_dequeue` fails. -/
def cannotDequeue : DequeueOutcome Nat :=
  ⟨true, [], true, none, false, none, true, true, true, true, true⟩

theorem not_dequeueClean :
    ¬ ∀ (st : DequeueState Nat) (out : DequeueOutcome Nat), DequeueClean st (st.dequeueBuffer out) := by
  intro hall
  have hnull := (hall noFreeBuffer cannotDequeue).2
  cases hnull

end LibtplEgl.FailedDequeue
