import LibtplEgl.BackendCalls
import LibtplEgl.PresentationOrder

namespace LibtplEgl.TbmVulkanReferences

open LibtplEgl.BackendCalls
open LibtplEgl.BackendEnqueue
open LibtplEgl.BufferReferences (count_append_singleton count_erase_add refs_ref refs_unref)
open LibtplEgl.FailedDequeue (DequeueOutcome)
open LibtplEgl.FrontbufferMode (TplSurface)
open LibtplEgl.LabelledSystem
open LibtplEgl.PresentationOrder (VblankQueue)
open LibtplEgl.TplTypes
open LibtplEgl.WaylandEglSurface (EnqueueOutcome pushBack)

universe u

/-- A `tpl_tbm_surface_t`: `waiting` is its `draw_waiting_queue`, and it is `listed` while
the worker knows it. The last two fields record the run: what the client has dequeued
and not enqueued, and what has been handed to `tbm_surface_queue_enqueue` or discarded
by `destroy_swapchain` since its latest dequeue. -/
structure State (Buffer : Type u) extends BackendSurface Buffer Unit where
  queue : VblankQueue Buffer
  drawWaitBuffer : Option Buffer
  listed : Bool
  held : List Buffer
  released : List Buffer

inductive Label (Buffer : Type u)
  | tbmSurface (event : TbmSurfaceEvent Buffer)
  | dequeueBuffer (out : DequeueOutcome Buffer)
  | enqueueBuffer (b : Buffer) (syncFence : Option Unit) (out : EnqueueOutcome Buffer)
  | prepareDrawWaitBuffer (added allocated : Bool)
  | fenceEvent (allocated : Bool)
  | vblank
  | destroySwapchain
  deriving DecidableEq, Repr

section

variable {Buffer : Type u}

def State.places (st : State Buffer) : List Buffer :=
  st.held ++ st.waiting ++ st.drawWaitBuffer.toList ++ st.queue.vblankList

/-- `__tpl_tbm_surface_destroy_swapchain`, which gives the lists no function to free
their buffers. -/
def State.destroySwapchain (st : State Buffer) : State Buffer :=
  { st with
    waiting := []
    queue := { st.queue with vblankList := [] }
    listed := false
    released := st.released ++ st.waiting ++ st.queue.vblankList }

variable [DecidableEq Buffer]

/-- `__tpl_tbm_surface_dequeue_buffer`; `none` when it returns NULL. -/
def State.dequeueBuffer (st : State Buffer) (out : DequeueOutcome Buffer) :
    Option (Buffer × State Buffer) :=
  let (result, after) := st.toBackendSurface.backendDequeue out
  result.map fun b =>
    (b, { st with
      toBackendSurface := after
      held := st.held ++ [b]
      released := st.released.erase b })

/-- `__tpl_tbm_surface_enqueue_buffer`; `none` when it returns an error. -/
def State.enqueueBuffer (st : State Buffer) (b : Buffer) (syncFence : Option Unit)
    (out : EnqueueOutcome Buffer) : Option (State Buffer) :=
  match st.toBackendSurface.backendEnqueue b syncFence out with
  | some (.errorNone, after) =>
      some { st with toBackendSurface := after, held := st.held.erase b }
  | _ => none

/-- `__tpl_tbm_draw_done`; `none` is a failed assertion. -/
def State.drawDone (st : State Buffer) (b : Buffer) (allocated : Bool) : Option (State Buffer) :=
  match st.egl.getBuffer b with
  | none => none
  | some _ =>
      let st := { st with
        closed := (st.waitSync b).toList ++ st.closed
        waitSync := Function.update st.waitSync b none }
      let (sent, queue) := st.queue.drawDone b allocated
      if sent then
        some { st with
          egl := st.egl.unref b
          queue := queue
          released := st.released ++ [b] }
      else some { st with egl := st.egl.ref b, queue := queue }

/-- `__tpl_tbm_vblank`; the list drops its reference to the buffer that it pops. -/
def State.vblank (st : State Buffer) : State Buffer :=
  let (popped, queue) := st.queue.vblank (st.queue.vblankList.head?.any st.egl.isValid)
  match popped with
  | none => { st with queue := queue }
  | some b =>
      { st with
        egl := st.egl.unref b
        queue := queue
        released := if st.egl.isValid b then st.released ++ [b] else st.released }

/-- One round of the loop in `__tpl_worker_prepare_draw_wait_buffer`; `added` says that
epoll takes the fence. -/
def State.prepareDrawWaitBuffer (st : State Buffer) (added allocated : Bool) :
    Option (State Buffer) :=
  match st.waiting with
  | [] => some st
  | b :: rest =>
      let st := { st with waiting := rest }
      if (st.waitSync b).isSome ∧ added = true then some { st with drawWaitBuffer := some b }
      else st.drawDone b allocated

/-- One step. The tbm queue gives out what it has, and the client enqueues what it has
dequeued and not enqueued. -/
def step (st : State Buffer) : Label Buffer → Option (State Buffer)
  | .tbmSurface event =>
      (st.toBackendSurface.tbmSurface event).map fun after => { st with toBackendSurface := after }
  | .dequeueBuffer out =>
      match st.dequeueBuffer out with
      | some (b, st') => if b ∈ st.places then none else some st'
      | none => none
  | .enqueueBuffer b syncFence out =>
      if b ∈ st.held then st.enqueueBuffer b syncFence out else none
  | .prepareDrawWaitBuffer added allocated =>
      if st.listed = true ∧ st.drawWaitBuffer = none then st.prepareDrawWaitBuffer added allocated
      else none
  | .fenceEvent allocated =>
      match st.drawWaitBuffer with
      | some b => (st.drawDone b allocated).map fun st' => { st' with drawWaitBuffer := none }
      | none => none
  | .vblank => if st.listed then some st.vblank else none
  | .destroySwapchain => if st.listed then some st.destroySwapchain else none

/-- After `create_swapchain`, before the first dequeue. -/
def newSwapchain (surface : TplSurface Buffer) (isValid : Buffer → Bool)
    (bufferSize : Buffer → Int × Int) (mode : TplDisplayPresentMode) (vblankDone : Bool) :
    State Buffer where
  backend := .tbmVulkanWsi
  surface := surface
  backendData := true
  tbmQueue := true
  egl := WaylandEglSurface.newSurface isValid fun _ => none
  waitSync := fun _ => none
  enqueued := fun _ => false
  waiting := []
  closed := []
  windowSize := (0, 0)
  bufferSize := bufferSize
  taken := []
  nullRefs := 0
  queue := ⟨mode, vblankDone, []⟩
  drawWaitBuffer := none
  listed := true
  held := []
  released := []

def tbmSystem : System (State Buffer) (Label Buffer) where
  Initial st := ∃ surface isValid bufferSize mode vblankDone,
    st = newSwapchain surface isValid bufferSize mode vblankDone
  step := step

/-- TPL's references to a tbm_surface are its places, and what has been handed over or
discarded has none. -/
structure Accounted (st : State Buffer) : Prop where
  refs : ∀ b, st.egl.refs b = st.held.count b + st.waiting.count b +
    st.drawWaitBuffer.toList.count b + st.queue.vblankList.count b
  released : ∀ b ∈ st.released, st.egl.refs b = 0

/-- An enqueue finds memory for its node, `draw_done` sends its buffer at once, and
`destroy_swapchain` comes while both lists are empty. -/
def KeepsAccount (st : State Buffer) : Label Buffer → Prop
  | .enqueueBuffer _ _ out => out.pushed = true
  | .prepareDrawWaitBuffer added _ => ∀ b ∈ st.waiting.head?,
      (st.waitSync b).isSome = true ∧ added = true ∨ st.queue.sends = true
  | .fenceEvent _ => st.queue.sends = true
  | .destroySwapchain => st.waiting = [] ∧ st.queue.vblankList = []
  | _ => True

/-- No buffer is at two places, or at one and released. -/
structure Inv (st : State Buffer) : Prop where
  backend : st.backend = .tbmVulkanWsi
  refs : ∀ b, st.egl.refs b = st.places.count b
  single : ∀ b, st.places.count b + st.released.count b ≤ 1

theorem count_places (st : State Buffer) (x : Buffer) :
    st.places.count x = st.held.count x + st.waiting.count x +
      st.drawWaitBuffer.toList.count x + st.queue.vblankList.count x := by
  simp only [State.places, List.count_append]

theorem Inv.accounted {st : State Buffer} (h : Inv st) : Accounted st := by
  refine ⟨fun b => ?_, fun b hb => ?_⟩
  · have hrefs := h.refs b
    rw [count_places] at hrefs
    omega
  · have hpos := List.count_pos_iff.mpr hb
    have hsingle := h.single b
    have hrefs := h.refs b
    omega

theorem Accounted.refs_places {st : State Buffer} (h : Accounted st) (x : Buffer) :
    st.egl.refs x = st.places.count x := by
  have hrefs := h.refs x
  rw [count_places]
  omega

theorem inv_newSwapchain (surface : TplSurface Buffer) (isValid : Buffer → Bool)
    (bufferSize : Buffer → Int × Int) (mode : TplDisplayPresentMode) (vblankDone : Bool) :
    Inv (newSwapchain surface isValid bufferSize mode vblankDone) :=
  ⟨rfl, fun _ => rfl, fun _ => Nat.zero_le 1⟩

theorem Inv.moved {st st' : State Buffer} (h : Inv st) (hbackend : st'.backend = st.backend)
    (hrefs : ∀ x, st'.egl.refs x = st.egl.refs x)
    (hplaces : ∀ x, st'.places.count x = st.places.count x)
    (hreleased : st'.released = st.released) : Inv st' := by
  refine ⟨hbackend.trans h.backend, fun x => ?_, fun x => ?_⟩
  · rw [hrefs x, hplaces x]
    exact h.refs x
  · rw [hplaces x, hreleased]
    exact h.single x

theorem Inv.sent {st st' : State Buffer} (h : Inv st) {b : Buffer}
    (hbackend : st'.backend = st.backend) (hrefs : st'.egl.refs = (st.egl.unref b).refs)
    (hplaces : ∀ x, st'.places.count x + (if x = b then 1 else 0) = st.places.count x)
    (hreleased : st'.released = st.released ++ [b] ∨ st'.released = st.released) : Inv st' := by
  refine ⟨hbackend.trans h.backend, fun x => ?_, fun x => ?_⟩
  · have hx := h.refs x
    have hplace := hplaces x
    rw [hrefs, refs_unref]
    omega
  · have hx := h.single x
    have hplace := hplaces x
    rcases hreleased with hreleased | hreleased
    · rw [hreleased, count_append_singleton]
      omega
    · rw [hreleased]
      omega

theorem tbmEnqueueBuffer_accepted {st st' : SurfaceState Buffer Unit} {b : Buffer}
    {syncFence : Option Unit} {out : EnqueueOutcome Buffer} (hbackend : st.backend = .tbmVulkanWsi)
    (h : st.tbmEnqueueBuffer b syncFence out = some (.errorNone, st')) :
    st' = { ((st.unref b).storeFence b syncFence).ref b with
      waiting := pushBack st.waiting b out.pushed } := by
  unfold SurfaceState.tbmEnqueueBuffer at h
  split at h
  · cases h
  · dsimp only at h
    split at h
    · cases h
    · split at h
      · split at h
        · cases h
        · cases h
          rfl
      · rename_i hother
        exact (hother hbackend).elim

theorem enqueueBuffer_effect {st st' : State Buffer} {b : Buffer} {syncFence : Option Unit}
    {out : EnqueueOutcome Buffer} (hbackend : st.backend = .tbmVulkanWsi)
    (h : st.enqueueBuffer b syncFence out = some st') :
    st' = { st with
      egl := (st.egl.unref b).ref b
      waitSync := Function.update st.waitSync b syncFence
      enqueued := Function.update st.enqueued b true
      waiting := pushBack st.waiting b out.pushed
      held := st.held.erase b } := by
  unfold State.enqueueBuffer at h
  split at h
  · rename_i after hcall
    cases h
    simp only [BackendSurface.backendEnqueue, SurfaceState.backendEnqueueBuffer,
      hbackend] at hcall
    obtain ⟨⟨result, surface⟩, hsurface, heq⟩ := Option.map_eq_some_iff.mp hcall
    cases heq
    rw [tbmEnqueueBuffer_accepted hbackend hsurface]
    rfl
  · cases h

theorem refs_unref_ref (egl : WaylandEglSurface.State Buffer) (b x : Buffer) :
    ((egl.unref b).ref b).refs x = egl.refs x := by
  rw [refs_ref, refs_unref]
  omega

theorem drawDone_effect {st st' : State Buffer} {b : Buffer} {allocated : Bool}
    (h : st.drawDone b allocated = some st') :
    st'.backend = st.backend ∧ st'.held = st.held ∧ st'.waiting = st.waiting ∧
      st'.drawWaitBuffer = st.drawWaitBuffer ∧
      (st.queue.sends = true ∧ st'.egl.refs = (st.egl.unref b).refs ∧ st'.queue = st.queue ∧
          st'.released = st.released ++ [b] ∨
        st.queue.sends = false ∧ st'.egl.refs = (st.egl.ref b).refs ∧
          st'.queue.vblankList = (st.queue.pushBack b allocated).vblankList) := by
  unfold State.drawDone at h
  split at h
  · cases h
  · cases hsends : st.queue.sends with
    | true =>
        simp only [VblankQueue.drawDone_of_sends hsends, if_true] at h
        cases h
        exact ⟨rfl, rfl, rfl, rfl, .inl ⟨rfl, rfl, rfl, rfl⟩⟩
    | false =>
        have hwaits := VblankQueue.drawDone_of_waits hsends b allocated
        simp only [hwaits.1, Bool.false_eq_true, if_false] at h
        cases h
        exact ⟨rfl, rfl, rfl, rfl, .inr ⟨rfl, rfl, hwaits.2⟩⟩

theorem vblank_effect (st : State Buffer) :
    st.vblank.backend = st.backend ∧ st.vblank.held = st.held ∧
      st.vblank.waiting = st.waiting ∧ st.vblank.drawWaitBuffer = st.drawWaitBuffer ∧
      (st.vblank.egl.refs = st.egl.refs ∧
          st.vblank.queue.vblankList = st.queue.vblankList ∧
          st.vblank.released = st.released ∨
        ∃ b, st.queue.vblankList = b :: st.vblank.queue.vblankList ∧
          st.vblank.egl.refs = (st.egl.unref b).refs ∧
          (st.vblank.released = st.released ++ [b] ∨ st.vblank.released = st.released)) := by
  unfold State.vblank VblankQueue.vblank
  cases hwaits : st.queue.waitsForVblank with
  | false => exact ⟨rfl, rfl, rfl, rfl, .inl ⟨rfl, rfl, rfl⟩⟩
  | true =>
      cases hlist : st.queue.vblankList with
      | nil => exact ⟨rfl, rfl, rfl, rfl, .inl ⟨rfl, rfl, rfl⟩⟩
      | cons b rest =>
          refine ⟨rfl, rfl, rfl, rfl, .inr ⟨b, rfl, rfl, ?_⟩⟩
          cases hvalid : st.egl.isValid b with
          | true => exact .inl (by simp [hvalid])
          | false => exact .inr (by simp [hvalid])

theorem Inv.dequeueBuffer {st st' : State Buffer} (h : Inv st) {out : DequeueOutcome Buffer}
    {b : Buffer} (hout : st.dequeueBuffer out = some (b, st')) (hplaces : b ∉ st.places) :
    Inv st' := by
  have hbackend : st.toBackendSurface.backend ≠ .waylandEgl := by
    rw [h.backend]
    nofun
  have hrefs := BackendSurface.refs_backendDequeue hbackend out
  have hsame : (st.toBackendSurface.backendDequeue out).2.backend = .tbmVulkanWsi := h.backend
  have hwaiting : (st.toBackendSurface.backendDequeue out).2.waiting = st.waiting := rfl
  unfold State.dequeueBuffer at hout
  generalize st.toBackendSurface.backendDequeue out = called at hrefs hsame hwaiting hout
  obtain ⟨result, after⟩ := called
  cases result with
  | none => cases hout
  | some c =>
      cases hout
      have hnowhere := List.count_eq_zero.mpr hplaces
      have hcount : ∀ x, (st.held ++ [b]).count x + after.waiting.count x +
          st.drawWaitBuffer.toList.count x + st.queue.vblankList.count x =
            st.places.count x + (if x = b then 1 else 0) := by
        intro x
        rw [count_append_singleton, hwaiting, count_places]
        omega
      refine ⟨hsame, fun x => ?_, fun x => ?_⟩
      · have hx := h.refs x
        rw [count_places, hcount x]
        show after.egl.refs x = _
        rw [hrefs x]
        simp only [Option.some_inj, @eq_comm _ b x]
        omega
      · have hx := h.single x
        rw [count_places, hcount x]
        show _ + (st.released.erase b).count x ≤ 1
        by_cases hxb : x = b
        · subst hxb
          rw [List.count_erase_self, if_pos rfl]
          omega
        · rw [List.count_erase_of_ne hxb, if_neg hxb]
          omega

theorem Inv.drawDone {st popped st' : State Buffer} (h : Inv st) {b : Buffer} {allocated : Bool}
    (hdone : popped.drawDone b allocated = some st') (hegl : popped.egl = st.egl)
    (hbackend : popped.backend = st.backend) (hreleased : popped.released = st.released)
    (hplaces : ∀ x, popped.places.count x + (if x = b then 1 else 0) = st.places.count x)
    (hsends : popped.queue.sends = true) : Inv st' := by
  obtain ⟨hbackend', hheld, hwaiting, hwait, heffect⟩ := drawDone_effect hdone
  rcases heffect with ⟨-, hrefs, hqueue, hreleased'⟩ | ⟨hwaits, -, -⟩
  · refine h.sent (b := b) (hbackend'.trans hbackend) (hrefs.trans (by rw [hegl])) (fun x => ?_)
      (.inl (hreleased'.trans (by rw [hreleased])))
    rw [count_places, hheld, hwaiting, hwait, hqueue, ← count_places]
    exact hplaces x
  · cases hsends.symm.trans hwaits

theorem count_waiting_cons {st : State Buffer} {b : Buffer} {rest : List Buffer}
    (hwaiting : st.waiting = b :: rest) (x : Buffer) :
    ({ st with waiting := rest } : State Buffer).places.count x + (if x = b then 1 else 0) =
      st.places.count x := by
  simp only [count_places, hwaiting, List.count_cons, beq_iff_eq, @eq_comm _ b x]
  omega

theorem count_drawWaitBuffer_some {st : State Buffer} {b : Buffer}
    (hwait : st.drawWaitBuffer = some b) (x : Buffer) :
    ({ st with drawWaitBuffer := none } : State Buffer).places.count x +
      (if x = b then 1 else 0) = st.places.count x := by
  simp only [count_places, hwait, Option.toList_some, Option.toList_none, List.count_nil,
    List.count_singleton, beq_iff_eq, @eq_comm _ b x]
  omega

theorem Inv.prepareDrawWaitBuffer {st st' : State Buffer} (h : Inv st) {added allocated : Bool}
    (hwait : st.drawWaitBuffer = none)
    (hallowed : KeepsAccount st (.prepareDrawWaitBuffer added allocated))
    (hout : st.prepareDrawWaitBuffer added allocated = some st') : Inv st' := by
  unfold State.prepareDrawWaitBuffer at hout
  split at hout
  · cases hout
    exact h
  · rename_i b rest hwaiting
    have hcount := count_waiting_cons hwaiting
    dsimp only at hout
    split at hout
    · cases hout
      refine h.moved rfl (fun _ => rfl) (fun x => ?_) rfl
      have hx := hcount x
      simp only [count_places, hwait, Option.toList_none, Option.toList_some, List.count_nil,
        List.count_singleton, beq_iff_eq, @eq_comm _ b x] at hx ⊢
      omega
    · rename_i hnot
      have hsends : st.queue.sends = true :=
        (hallowed b (by rw [hwaiting]; rfl)).resolve_left hnot
      exact h.drawDone hout rfl rfl rfl hcount hsends

theorem Inv.fenceEvent {st st' : State Buffer} (h : Inv st) {b : Buffer} {allocated : Bool}
    (hwait : st.drawWaitBuffer = some b) (hsends : st.queue.sends = true)
    (hout : st.drawDone b allocated = some st') : Inv { st' with drawWaitBuffer := none } := by
  obtain ⟨hbackend, hheld, hwaiting, hwait', heffect⟩ := drawDone_effect hout
  rcases heffect with ⟨-, hrefs, hqueue, hreleased⟩ | ⟨hwaits, -, -⟩
  · refine h.sent (b := b) hbackend hrefs (fun x => ?_) (.inl hreleased)
    have hx := count_drawWaitBuffer_some hwait x
    simp only [count_places, hheld, hwaiting, hqueue] at hx ⊢
    exact hx
  · cases hsends.symm.trans hwaits

theorem Inv.vblank {st : State Buffer} (h : Inv st) : Inv st.vblank := by
  obtain ⟨hbackend, hheld, hwaiting, hwait, heffect⟩ := vblank_effect st
  rcases heffect with ⟨hrefs, hlist, hreleased⟩ | ⟨b, hlist, hrefs, hreleased⟩
  · refine h.moved hbackend (congrFun hrefs) (fun x => ?_) hreleased
    simp only [count_places, hheld, hwaiting, hwait, hlist]
  · refine h.sent hbackend hrefs (fun x => ?_) hreleased
    simp only [count_places, hheld, hwaiting, hwait, hlist, List.count_cons, beq_iff_eq,
      @eq_comm _ b x]
    omega

theorem Inv.enqueueBuffer {st st' : State Buffer} (h : Inv st) {b : Buffer}
    {syncFence : Option Unit} {out : EnqueueOutcome Buffer} (hheld : b ∈ st.held)
    (hpushed : out.pushed = true) (hout : st.enqueueBuffer b syncFence out = some st') :
    Inv st' := by
  rw [enqueueBuffer_effect h.backend hout, hpushed]
  refine h.moved rfl (refs_unref_ref st.egl b) (fun x => ?_) rfl
  have herase := count_erase_add hheld x
  simp only [count_places, pushBack, if_true, count_append_singleton]
  omega

theorem inv_step {st st' : State Buffer} {l : Label Buffer} (h : Inv st)
    (hallowed : KeepsAccount st l) (hstep : step st l = some st') : Inv st' := by
  cases l with
  | tbmSurface event =>
      obtain ⟨after, hafter, rfl⟩ := Option.map_eq_some_iff.mp hstep
      obtain ⟨egl, rfl, hrefs⟩ := BackendSurface.refs_tbmSurface hafter
      exact h.moved rfl (congrFun hrefs) (fun _ => rfl) rfl
  | dequeueBuffer out =>
      simp only [step] at hstep
      split at hstep
      · rename_i b after hout
        split at hstep
        · cases hstep
        · rename_i hplaces
          cases hstep
          exact h.dequeueBuffer hout hplaces
      · cases hstep
  | enqueueBuffer b syncFence out =>
      simp only [step] at hstep
      split at hstep
      · rename_i hheld
        exact h.enqueueBuffer hheld hallowed hstep
      · cases hstep
  | prepareDrawWaitBuffer added allocated =>
      simp only [step] at hstep
      split at hstep
      · rename_i hlisted
        exact h.prepareDrawWaitBuffer hlisted.2 hallowed hstep
      · cases hstep
  | fenceEvent allocated =>
      simp only [step] at hstep
      split at hstep
      · rename_i b hwait
        obtain ⟨after, hafter, rfl⟩ := Option.map_eq_some_iff.mp hstep
        exact h.fenceEvent hwait hallowed hafter
      · cases hstep
  | vblank =>
      simp only [step] at hstep
      split at hstep
      · cases hstep
        exact h.vblank
      · cases hstep
  | destroySwapchain =>
      simp only [step] at hstep
      split at hstep
      · cases hstep
        obtain ⟨hwaiting, hlist⟩ := hallowed
        refine h.moved rfl (fun _ => rfl) (fun x => ?_) ?_
        · simp [count_places, State.destroySwapchain, hwaiting, hlist]
        · simp [State.destroySwapchain, hwaiting, hlist]
      · cases hstep

theorem count_pushBack_le (q : VblankQueue Buffer) (b : Buffer) (allocated : Bool) :
    (q.pushBack b allocated).vblankList.count b ≤ q.vblankList.count b + 1 := by
  cases allocated with
  | false => exact Nat.le_succ _
  | true =>
      show (q.vblankList ++ [b]).count b ≤ _
      exact Nat.le_of_eq ((count_append_singleton _ _ _).trans (by rw [if_pos rfl]))

theorem Inv.not_accounted {st st' : State Buffer} (h : Inv st) {b : Buffer}
    (hrefs : st'.egl.refs = (st.egl.ref b).refs)
    (hplaces : st'.places.count b ≤ st.places.count b) : ¬ Accounted st' := by
  intro hacc
  have hb := h.refs b
  have hb' := hacc.refs_places b
  rw [hrefs, refs_ref, if_pos rfl] at hb'
  omega

theorem sends_of_accounted {st st' : State Buffer} (h : Inv st) {b : Buffer}
    {added allocated : Bool} {rest : List Buffer} (hwaiting : st.waiting = b :: rest)
    (hnot : ¬ ((st.waitSync b).isSome = true ∧ added = true))
    (hout : st.prepareDrawWaitBuffer added allocated = some st') (hacc : Accounted st') :
    st.queue.sends = true := by
  have hcount := count_waiting_cons hwaiting b
  simp only [State.prepareDrawWaitBuffer, hwaiting, if_neg hnot] at hout
  obtain ⟨-, hheld, hwaiting', hwait, heffect⟩ := drawDone_effect hout
  rcases heffect with ⟨hsends, -⟩ | ⟨-, hrefs, hlist⟩
  · exact hsends
  · refine (h.not_accounted hrefs ?_ hacc).elim
    have hpush := count_pushBack_le st.queue b allocated
    simp only [count_places, hheld, hwaiting', hwait, hlist, if_true] at hcount ⊢
    omega

theorem Inv.sends_fenceEvent {st st' : State Buffer} (h : Inv st) {b : Buffer} {allocated : Bool}
    (hwait : st.drawWaitBuffer = some b) (hout : st.drawDone b allocated = some st')
    (hacc : Accounted { st' with drawWaitBuffer := none }) : st.queue.sends = true := by
  have hcount := count_drawWaitBuffer_some hwait b
  obtain ⟨-, hheld, hwaiting, -, heffect⟩ := drawDone_effect hout
  rcases heffect with ⟨hsends, -⟩ | ⟨-, hrefs, hlist⟩
  · exact hsends
  · have hplaces : ({ st' with drawWaitBuffer := none } : State Buffer).places.count b ≤
        st.places.count b := by
      have hpush := count_pushBack_le st.queue b allocated
      simp only [count_places, hheld, hwaiting, hlist, if_true] at hcount ⊢
      omega
    have hnot : ¬ Accounted ({ st' with drawWaitBuffer := none } : State Buffer) :=
      h.not_accounted hrefs hplaces
    exact (hnot hacc).elim

theorem Inv.pushed_enqueueBuffer {st st' : State Buffer} (h : Inv st) {b : Buffer}
    {syncFence : Option Unit} {out : EnqueueOutcome Buffer}
    (hheld : b ∈ st.held) (hout : st.enqueueBuffer b syncFence out = some st')
    (hacc : Accounted st') : out.pushed = true := by
  cases hpushed : out.pushed with
  | true => rfl
  | false =>
      have hb := h.refs b
      have hb' := hacc.refs_places b
      have herase := count_erase_add hheld b
      rw [enqueueBuffer_effect h.backend hout, hpushed] at hb'
      simp only [count_places, refs_unref_ref, pushBack, Bool.false_eq_true, if_false] at hb hb'
      rw [if_pos rfl] at herase
      omega

theorem Inv.empty_destroySwapchain {st : State Buffer} (h : Inv st)
    (hacc : Accounted st.destroySwapchain) : st.waiting = [] ∧ st.queue.vblankList = [] := by
  have hnone : ∀ x, st.waiting.count x = 0 ∧ st.queue.vblankList.count x = 0 := by
    intro x
    have hx := h.refs x
    have hx' := hacc.refs_places x
    have hsame : st.destroySwapchain.egl.refs x = st.egl.refs x := rfl
    rw [hsame, count_places] at hx'
    rw [count_places] at hx
    simp only [State.destroySwapchain, List.count_nil] at hx'
    omega
  constructor
  · exact List.eq_nil_iff_forall_not_mem.mpr fun x => List.count_eq_zero.mp (hnone x).1
  · exact List.eq_nil_iff_forall_not_mem.mpr fun x => List.count_eq_zero.mp (hnone x).2

theorem keepsAccount_of_accounted {st st' : State Buffer} {l : Label Buffer} (h : Inv st)
    (hstep : step st l = some st') (hacc : Accounted st') : KeepsAccount st l := by
  cases l with
  | tbmSurface _ | dequeueBuffer _ | vblank => trivial
  | enqueueBuffer b syncFence out =>
      simp only [step] at hstep
      split at hstep
      · rename_i hheld
        exact h.pushed_enqueueBuffer hheld hstep hacc
      · cases hstep
  | prepareDrawWaitBuffer added allocated =>
      intro b hb
      simp only [step] at hstep
      split at hstep
      · obtain ⟨rest, hwaiting⟩ := List.head?_eq_some_iff.mp hb
        by_cases hwaits : (st.waitSync b).isSome = true ∧ added = true
        · exact .inl hwaits
        · exact .inr (sends_of_accounted h hwaiting hwaits hstep hacc)
      · cases hstep
  | fenceEvent allocated =>
      simp only [step] at hstep
      split at hstep
      · rename_i b hwait
        obtain ⟨after, hafter, rfl⟩ := Option.map_eq_some_iff.mp hstep
        exact h.sends_fenceEvent hwait hafter hacc
      · cases hstep
  | destroySwapchain =>
      simp only [step] at hstep
      split at hstep
      · cases hstep
        exact h.empty_destroySwapchain hacc
      · cases hstep

/-- The references are accounted for in exactly the runs in which every node is
allocated, `draw_done` sends every buffer at once, and `destroy_swapchain` finds its
lists empty. -/
theorem accounted_iff (surface : TplSurface Buffer) (isValid : Buffer → Bool)
    (bufferSize : Buffer → Int × Int) (mode : TplDisplayPresentMode) (vblankDone : Bool)
    (ls : List (Label Buffer)) (st : State Buffer)
    (hrun : tbmSystem.run (newSwapchain surface isValid bufferSize mode vblankDone) ls = some st) :
    tbmSystem.Always Accounted (newSwapchain surface isValid bufferSize mode vblankDone) ls ↔
      tbmSystem.EveryStep KeepsAccount (newSwapchain surface isValid bufferSize mode vblankDone)
        ls := by
  have hinv := inv_newSwapchain surface isValid bufferSize mode vblankDone
  refine System.always_iff_everyStep hinv hrun ?_ ?_ ?_
  · intro _ _ _ h hallowed hstep
    exact inv_step h hallowed hstep
  · intro _ h
    exact h.accounted
  · intro _ _ _ h hstep hacc
    exact keepsAccount_of_accounted h hstep hacc

def newWindow (mode : TplDisplayPresentMode) : State Nat :=
  newSwapchain windowSurface (fun _ => false) (fun _ => (64, 64)) mode true

def oneFrame : List (Label Nat) :=
  [.tbmSurface (.create 1), .dequeueBuffer (gives 1),
    .enqueueBuffer 1 (some ()) ⟨.errorNone, none, true⟩, .prepareDrawWaitBuffer true true,
    .fenceEvent true, .vblank]

theorem accounted_oneFrame :
    ∃ st, tbmSystem.run (newWindow .mailbox) oneFrame = some st ∧
      (tbmSystem.Always Accounted (newWindow .mailbox) oneFrame ↔
        tbmSystem.EveryStep KeepsAccount (newWindow .mailbox) oneFrame) := by
  obtain ⟨st, hrun, -⟩ := tbmSystem.exists_of_run
    (fun st => st.egl.refs 1 = 0 ∧ st.released = [1]) (newWindow .mailbox) oneFrame (by decide)
  exact ⟨st, hrun, accounted_iff windowSurface _ _ .mailbox true oneFrame st hrun⟩

/-- A swapchain is destroyed before the worker pops its frame. -/
theorem not_accounted_destroySwapchain :
    ¬ ∀ st : State Nat, tbmSystem.Reachable st → Accounted st := by
  intro hall
  obtain ⟨st, hrun, hrefs, hreleased⟩ := tbmSystem.exists_of_run
    (fun st => st.egl.refs 1 = 1 ∧ st.released = [1]) (newWindow .mailbox)
    [.tbmSurface (.create 1), .dequeueBuffer (gives 1),
      .enqueueBuffer 1 (some ()) ⟨.errorNone, none, true⟩, .destroySwapchain] (by decide)
  have hzero := (hall st (.of_run (.initial ⟨_, _, _, _, _, rfl⟩) hrun)).released 1
    (by rw [hreleased]; exact List.mem_singleton.mpr rfl)
  rw [hrefs] at hzero
  exact absurd hzero (by decide)

end

end LibtplEgl.TbmVulkanReferences
