import LibtplEgl.BackendCalls
import LibtplEgl.PresentationOrder

namespace LibtplEgl.WaylandVulkanReferences

open LibtplEgl.BackendCalls
open LibtplEgl.BackendEnqueue
open LibtplEgl.BufferReferences (count_append_singleton refs_ref refs_unref)
open LibtplEgl.FailedDequeue (DequeueOutcome)
open LibtplEgl.FrontbufferMode (TplSurface)
open LibtplEgl.LabelledSystem
open LibtplEgl.PresentationOrder (Backend VblankQueue)
open LibtplEgl.TplTypes
open LibtplEgl.WaylandEglSurface (EnqueueOutcome)

universe u

/-- A `tpl_wayland_vk_wsi_surface_t` and the `present_modes` of its server. The last four
fields record the run: the buffers that dequeues returned, those of enqueues that got past
the validity check, the commits and the release events. -/
structure State (Buffer : Type u) extends BackendSurface Buffer Unit where
  presentModes : Nat
  queue : VblankQueue Buffer
  dequeued : List Buffer
  givenBack : List Buffer
  committed : List Buffer
  releaseEvents : List Buffer

inductive Label (Buffer : Type u)
  | tbmSurface (event : TbmSurfaceEvent Buffer)
  | dequeueBuffer (out : DequeueOutcome Buffer)
  | enqueueBuffer (b : Buffer) (syncFence : Option Unit) (out : EnqueueOutcome Buffer)
  | drawDone (b : Buffer) (allocated : Bool)
  | vblank
  | bufferRelease (b : Buffer)
  | destroySwapchain
  deriving DecidableEq, Repr

section

variable {Buffer : Type u}

/-- `draw_done` commits its buffer at once. -/
def State.sends (st : State Buffer) : Bool :=
  (Backend.waylandVulkanWsi st.presentModes).supports st.queue.presentMode || st.queue.sends

variable [DecidableEq Buffer]

/-- `__tpl_wayland_vk_wsi_surface_dequeue_buffer`. -/
def State.dequeueBuffer (st : State Buffer) (out : DequeueOutcome Buffer) : State Buffer :=
  let (result, after) := st.toBackendSurface.backendDequeue out
  { st with
    toBackendSurface := after
    dequeued := st.dequeued ++ result.toList }

/-- `__tpl_wayland_vk_wsi_surface_enqueue_buffer`; `none` is a failed assertion. -/
def State.enqueueBuffer (st : State Buffer) (b : Buffer) (syncFence : Option Unit)
    (out : EnqueueOutcome Buffer) : Option (State Buffer) :=
  (st.toBackendSurface.backendEnqueue b syncFence out).map fun (_, after) =>
    { st with
      toBackendSurface := after
      givenBack := if st.egl.isValid b then st.givenBack ++ [b] else st.givenBack }

/-- `__tpl_wayland_vk_wsi_surface_commit_buffer`; `none` is a failed assertion. -/
def State.commitBuffer (st : State Buffer) (b : Buffer) : Option (State Buffer) :=
  match st.egl.getBuffer b with
  | none => none
  | some _ => some { st with egl := st.egl.ref b, committed := st.committed ++ [b] }

/-- `__tpl_wayland_vk_wsi_process_draw_done`; `none` is a failed assertion. -/
def State.drawDone (st : State Buffer) (b : Buffer) (allocated : Bool) : Option (State Buffer) :=
  match st.egl.getBuffer b with
  | none => none
  | some _ =>
      let st := { st with
        closed := (st.waitSync b).toList ++ st.closed
        waitSync := Function.update st.waitSync b none }
      let (sent, queue) :=
        (Backend.waylandVulkanWsi st.presentModes).drawDone st.queue b allocated
      if sent then { st with queue := queue }.commitBuffer b
      else some { st with egl := st.egl.ref b, queue := queue }

/-- `__tpl_wayland_vk_wsi_vblank`; the list drops its reference to the buffer that it
pops. -/
def State.vblank (st : State Buffer) : Option (State Buffer) :=
  let (popped, queue) := st.queue.vblank (st.queue.vblankList.head?.any st.egl.isValid)
  match popped with
  | none => some { st with queue := queue }
  | some b =>
      let st := { st with egl := st.egl.unref b, queue := queue }
      if st.egl.isValid b then st.commitBuffer b else some st

/-- `__cb_client_buffer_release_callback`. -/
def State.bufferReleaseCallback (st : State Buffer) (b : Buffer) : State Buffer :=
  match st.egl.getBuffer b with
  | none => st
  | some _ => { st with egl := st.egl.unref b }

/-- `__tpl_wayland_vk_wsi_surface_destroy_swapchain`. -/
def State.destroySwapchain (st : State Buffer) : State Buffer :=
  if st.queue.waitsForVblank then
    { st with
      egl := st.queue.vblankList.foldl .unref st.egl
      queue := { st.queue with vblankList := [] } }
  else st

/-- One step. A buffer's `wl_buffer`, which release events are delivered to, is there as
long as its record. -/
def step (st : State Buffer) : Label Buffer → Option (State Buffer)
  | .tbmSurface event =>
      (st.toBackendSurface.tbmSurface event).map fun after => { st with toBackendSurface := after }
  | .dequeueBuffer out => some (st.dequeueBuffer out)
  | .enqueueBuffer b syncFence out => st.enqueueBuffer b syncFence out
  | .drawDone b allocated => st.drawDone b allocated
  | .vblank => st.vblank
  | .bufferRelease b =>
      if (st.egl.getBuffer b).isSome then
        some { st.bufferReleaseCallback b with releaseEvents := st.releaseEvents ++ [b] }
      else none
  | .destroySwapchain => some st.destroySwapchain

/-- After `create_swapchain`, before the first dequeue. -/
def newSwapchain (surface : TplSurface Buffer) (isValid : Buffer → Bool)
    (bufferSize : Buffer → Int × Int) (presentModes : Nat) (mode : TplDisplayPresentMode)
    (vblankDone : Bool) : State Buffer where
  backend := .waylandVulkanWsi
  surface := surface
  backendData := true
  tbmQueue := true
  egl := WaylandEglSurface.newSurface isValid fun _ => none
  waitSync := fun _ => none
  enqueued := fun _ => false
  waiting := []
  closed := []
  windowSize := (0, 0)
  bufferSize := bufferSize
  taken := []
  nullRefs := 0
  presentModes := presentModes
  queue := ⟨mode, vblankDone, []⟩
  dequeued := []
  givenBack := []
  committed := []
  releaseEvents := []

def vkSystem : System (State Buffer) (Label Buffer) where
  Initial st := ∃ surface isValid bufferSize presentModes mode vblankDone,
    st = newSwapchain surface isValid bufferSize presentModes mode vblankDone
  step := step

/-- TPL's references to a tbm_surface are those of the client, of `vblank_list` and of
the compositor. -/
def Balanced (st : State Buffer) : Prop :=
  ∀ b, st.egl.refs b = (st.dequeued.count b - st.givenBack.count b : Int) +
    st.queue.vblankList.count b + (st.committed.count b - st.releaseEvents.count b : Int)

/-- A buffer that has to wait for a vblank gets a node of the list. -/
def NodeAllocated (st : State Buffer) : Label Buffer → Prop
  | .drawDone _ allocated => st.sends = true ∨ allocated = true
  | _ => True

structure Inv (st : State Buffer) : Prop where
  backend : st.backend = .waylandVulkanWsi
  balanced : Balanced st

theorem inv_newSwapchain (surface : TplSurface Buffer) (isValid : Buffer → Bool)
    (bufferSize : Buffer → Int × Int) (presentModes : Nat) (mode : TplDisplayPresentMode)
    (vblankDone : Bool) :
    Inv (newSwapchain surface isValid bufferSize presentModes mode vblankDone) :=
  ⟨rfl, fun _ => rfl⟩

theorem refs_foldl_unref (egl : WaylandEglSurface.State Buffer) (bs : List Buffer) (x : Buffer) :
    (bs.foldl .unref egl).refs x = egl.refs x - bs.count x := by
  induction bs generalizing egl with
  | nil => simp
  | cons b bs ih =>
      rw [List.foldl_cons, ih, refs_unref, List.count_cons]
      simp only [beq_iff_eq, @eq_comm _ b x]
      omega

theorem enqueueBuffer_effect {st st' : State Buffer} {b : Buffer} {syncFence : Option Unit}
    {out : EnqueueOutcome Buffer} (hbackend : st.backend = .waylandVulkanWsi)
    (h : st.enqueueBuffer b syncFence out = some st') :
    st'.backend = .waylandVulkanWsi ∧ st'.queue = st.queue ∧ st'.dequeued = st.dequeued ∧
      st'.committed = st.committed ∧ st'.releaseEvents = st.releaseEvents ∧
      (st'.egl.refs = st.egl.refs ∧ st'.givenBack = st.givenBack ∨
        st'.egl.refs = (st.egl.unref b).refs ∧ st'.givenBack = st.givenBack ++ [b]) := by
  simp only [State.enqueueBuffer, BackendSurface.backendEnqueue,
    SurfaceState.backendEnqueueBuffer, hbackend] at h
  obtain ⟨⟨result, surface⟩, hsurface, rfl⟩ := Option.map_eq_some_iff.mp h
  obtain ⟨⟨result', inner⟩, hinner, heq⟩ := Option.map_eq_some_iff.mp hsurface
  cases heq
  have hexit := SurfaceState.Exits.of_vk hbackend hinner
  refine ⟨hexit.backend_eq.trans hbackend, rfl, rfl, rfl, rfl, ?_⟩
  cases hexit with
  | invalid hvalid => exact .inl ⟨rfl, by simp [hvalid]⟩
  | vkAccepted _ hvalid _ => exact .inr ⟨rfl, by simp [hvalid]⟩
  | vkRejected _ hvalid _ => exact .inr ⟨rfl, by simp [hvalid]⟩
  | noData hother => rcases hother with hother | hother <;> cases hbackend.symm.trans hother
  | waylandEgl hother | gbmNoRecord hother | gbmNoQueue hother | gbmAccepted hother
  | gbmRejected hother | tbmStored hother | tbmNoQueue hother | tbmAccepted hother
  | tbmRejected hother => cases hbackend.symm.trans hother

theorem commitBuffer_effect {st st' : State Buffer} {b : Buffer}
    (h : st.commitBuffer b = some st') :
    st' = { st with egl := st.egl.ref b, committed := st.committed ++ [b] } := by
  unfold State.commitBuffer at h
  split at h
  · cases h
  · cases h
    rfl

theorem drawDone_effect {st st' : State Buffer} {b : Buffer} {allocated : Bool}
    (h : st.drawDone b allocated = some st') :
    st'.backend = st.backend ∧ st'.egl.refs = (st.egl.ref b).refs ∧
      st'.dequeued = st.dequeued ∧ st'.givenBack = st.givenBack ∧
      st'.releaseEvents = st.releaseEvents ∧
      (st.sends = true ∧ st'.queue = st.queue ∧ st'.committed = st.committed ++ [b] ∨
        st.sends = false ∧ st'.committed = st.committed ∧
          st'.queue.vblankList = (st.queue.pushBack b allocated).vblankList) := by
  unfold State.drawDone at h
  split at h
  · cases h
  · dsimp only at h
    cases hsupports : (Backend.waylandVulkanWsi st.presentModes).supports st.queue.presentMode with
    | true =>
        simp only [Backend.drawDone, hsupports, if_true] at h
        rw [commitBuffer_effect h]
        exact ⟨rfl, rfl, rfl, rfl, rfl, .inl ⟨by simp [State.sends, hsupports], rfl, rfl⟩⟩
    | false =>
        simp only [Backend.drawDone, hsupports, Bool.false_eq_true, if_false] at h
        cases hsends : st.queue.sends with
        | true =>
            simp only [VblankQueue.drawDone_of_sends hsends, if_true] at h
            rw [commitBuffer_effect h]
            exact ⟨rfl, rfl, rfl, rfl, rfl, .inl ⟨by simp [State.sends, hsends], rfl, rfl⟩⟩
        | false =>
            have hwaits := VblankQueue.drawDone_of_waits hsends b allocated
            simp only [hwaits.1, Bool.false_eq_true, if_false] at h
            cases h
            exact ⟨rfl, rfl, rfl, rfl, rfl,
              .inr ⟨by simp [State.sends, hsupports, hsends], rfl, hwaits.2⟩⟩

theorem vblank_effect {st st' : State Buffer} (h : st.vblank = some st') :
    st'.backend = st.backend ∧ st'.dequeued = st.dequeued ∧ st'.givenBack = st.givenBack ∧
      st'.releaseEvents = st.releaseEvents ∧
      (st'.egl.refs = st.egl.refs ∧ st'.queue.vblankList = st.queue.vblankList ∧
          st'.committed = st.committed ∨
        ∃ b, st.queue.vblankList = b :: st'.queue.vblankList ∧
          (st'.egl.refs = ((st.egl.unref b).ref b).refs ∧ st'.committed = st.committed ++ [b] ∨
            st'.egl.refs = (st.egl.unref b).refs ∧ st'.committed = st.committed)) := by
  unfold State.vblank VblankQueue.vblank at h
  cases hwaits : st.queue.waitsForVblank with
  | false =>
      simp only [hwaits, if_true] at h
      cases h
      exact ⟨rfl, rfl, rfl, rfl, .inl ⟨rfl, rfl, rfl⟩⟩
  | true =>
      cases hlist : st.queue.vblankList with
      | nil =>
          simp only [hwaits, hlist, Bool.true_eq_false, if_false, List.head?_nil] at h
          cases h
          exact ⟨rfl, rfl, rfl, rfl, .inl ⟨rfl, rfl, rfl⟩⟩
      | cons b rest =>
          simp only [hwaits, hlist, Bool.true_eq_false, if_false, List.head?_cons] at h
          split at h
          · rw [commitBuffer_effect h]
            exact ⟨rfl, rfl, rfl, rfl, .inr ⟨b, rfl, .inl ⟨rfl, rfl⟩⟩⟩
          · cases h
            exact ⟨rfl, rfl, rfl, rfl, .inr ⟨b, rfl, .inr ⟨rfl, rfl⟩⟩⟩

theorem Inv.dequeueBuffer {st : State Buffer} (h : Inv st) (out : DequeueOutcome Buffer) :
    Inv (st.dequeueBuffer out) := by
  have hbackend : st.toBackendSurface.backend ≠ .waylandEgl := by
    rw [h.backend]
    nofun
  have hrefs := BackendSurface.refs_backendDequeue hbackend out
  refine ⟨h.backend, fun x => ?_⟩
  have hx := h.balanced x
  have hcount : (st.dequeued ++ (st.toBackendSurface.backendDequeue out).1.toList).count x =
      st.dequeued.count x +
        (if (st.toBackendSurface.backendDequeue out).1 = some x then 1 else 0) := by
    cases (st.toBackendSurface.backendDequeue out).1 with
    | none => simp
    | some b =>
        rw [Option.toList_some, count_append_singleton]
        simp only [Option.some_inj, @eq_comm _ b x]
  show (st.toBackendSurface.backendDequeue out).2.egl.refs x =
    ((st.dequeued ++ (st.toBackendSurface.backendDequeue out).1.toList).count x -
      st.givenBack.count x : Int) + st.queue.vblankList.count x +
      (st.committed.count x - st.releaseEvents.count x : Int)
  rw [hrefs x, hcount, hx]
  omega

theorem Inv.drawDone {st st' : State Buffer} (h : Inv st) {b : Buffer} {allocated : Bool}
    (hallowed : st.sends = true ∨ allocated = true) (hout : st.drawDone b allocated = some st') :
    Inv st' := by
  obtain ⟨hbackend, hrefs, hdequeued, hgiven, hreleased, heffect⟩ := drawDone_effect hout
  refine ⟨hbackend.trans h.backend, fun x => ?_⟩
  have hx := h.balanced x
  rw [hrefs, refs_ref, hdequeued, hgiven, hreleased, hx]
  rcases heffect with ⟨-, hqueue, hcommitted⟩ | ⟨hwaits, hcommitted, hlist⟩
  · rw [hqueue, hcommitted, count_append_singleton]
    omega
  · rcases hallowed with hsends | hallocated
    · cases hsends.symm.trans hwaits
    · have hpush : st'.queue.vblankList = st.queue.vblankList ++ [b] := by
        rw [hlist, hallocated]
        rfl
      rw [hcommitted, hpush, count_append_singleton]
      omega

theorem Inv.vblank {st st' : State Buffer} (h : Inv st) (hout : st.vblank = some st') :
    Inv st' := by
  obtain ⟨hbackend, hdequeued, hgiven, hreleased, heffect⟩ := vblank_effect hout
  refine ⟨hbackend.trans h.backend, fun x => ?_⟩
  have hx := h.balanced x
  rw [hdequeued, hgiven, hreleased]
  rcases heffect with ⟨hrefs, hlist, hcommitted⟩ | ⟨b, hlist, heffect⟩
  · rw [hrefs, hlist, hcommitted]
    exact hx
  · rw [hlist, List.count_cons] at hx
    simp only [beq_iff_eq, @eq_comm _ b x] at hx
    rcases heffect with ⟨hrefs, hcommitted⟩ | ⟨hrefs, hcommitted⟩
    · rw [hrefs, refs_ref, refs_unref, hcommitted, count_append_singleton]
      omega
    · rw [hrefs, refs_unref, hcommitted]
      omega

theorem Inv.bufferRelease {st : State Buffer} (h : Inv st) {b : Buffer}
    (hrecord : (st.egl.getBuffer b).isSome = true) :
    Inv { st.bufferReleaseCallback b with releaseEvents := st.releaseEvents ++ [b] } := by
  obtain ⟨reset, hreset⟩ := Option.isSome_iff_exists.mp hrecord
  have hcallback : st.bufferReleaseCallback b = { st with egl := st.egl.unref b } := by
    simp only [State.bufferReleaseCallback, hreset]
  rw [hcallback]
  refine ⟨h.backend, fun x => ?_⟩
  have hx := h.balanced x
  show (st.egl.unref b).refs x = (st.dequeued.count x - st.givenBack.count x : Int) +
    st.queue.vblankList.count x +
    (st.committed.count x - (st.releaseEvents ++ [b]).count x : Int)
  rw [refs_unref, count_append_singleton, hx]
  omega

theorem Inv.destroySwapchain {st : State Buffer} (h : Inv st) : Inv st.destroySwapchain := by
  unfold State.destroySwapchain
  split
  · refine ⟨h.backend, fun x => ?_⟩
    have hx := h.balanced x
    show (st.queue.vblankList.foldl .unref st.egl).refs x =
      (st.dequeued.count x - st.givenBack.count x : Int) + (([] : List Buffer).count x : Int) +
        (st.committed.count x - st.releaseEvents.count x : Int)
    rw [refs_foldl_unref, List.count_nil, hx]
    omega
  · exact h

theorem inv_step {st st' : State Buffer} {l : Label Buffer} (h : Inv st)
    (hallowed : NodeAllocated st l) (hstep : step st l = some st') : Inv st' := by
  cases l with
  | tbmSurface event =>
      obtain ⟨after, hafter, rfl⟩ := Option.map_eq_some_iff.mp hstep
      obtain ⟨egl, rfl, hrefs⟩ := BackendSurface.refs_tbmSurface hafter
      exact ⟨h.backend, fun x => (congrFun hrefs x).trans (h.balanced x)⟩
  | dequeueBuffer out =>
      cases hstep
      exact h.dequeueBuffer out
  | enqueueBuffer b syncFence out =>
      obtain ⟨hbackend, hqueue, hdequeued, hcommitted, hreleased, heffect⟩ :=
        enqueueBuffer_effect h.backend hstep
      refine ⟨hbackend, fun x => ?_⟩
      have hx := h.balanced x
      rw [hqueue, hdequeued, hcommitted, hreleased]
      rcases heffect with ⟨hrefs, hgiven⟩ | ⟨hrefs, hgiven⟩
      · rw [hrefs, hgiven]
        exact hx
      · rw [hrefs, hgiven, refs_unref, count_append_singleton, hx]
        omega
  | drawDone b allocated => exact h.drawDone hallowed hstep
  | vblank => exact h.vblank hstep
  | bufferRelease b =>
      simp only [step] at hstep
      split at hstep
      · rename_i hrecord
        cases hstep
        exact h.bufferRelease hrecord
      · cases hstep
  | destroySwapchain =>
      cases hstep
      exact h.destroySwapchain

theorem nodeAllocated_of_balanced {st st' : State Buffer} {l : Label Buffer} (h : Inv st)
    (hstep : step st l = some st') (hbalanced : Balanced st') : NodeAllocated st l := by
  cases l with
  | tbmSurface _ | dequeueBuffer _ | enqueueBuffer _ _ _ | vblank | bufferRelease _
  | destroySwapchain => trivial
  | drawDone b allocated =>
      obtain ⟨-, hrefs, hdequeued, hgiven, hreleased, heffect⟩ := drawDone_effect hstep
      rcases heffect with ⟨hsends, -⟩ | ⟨-, hcommitted, hlist⟩
      · exact .inl hsends
      · cases allocated with
        | true => exact .inr rfl
        | false =>
            have hb := h.balanced b
            have hb' := hbalanced b
            have hlost : st'.queue.vblankList = st.queue.vblankList := hlist
            rw [hrefs, refs_ref, if_pos rfl, hdequeued, hgiven, hreleased, hcommitted, hlost] at hb'
            omega

/-- The references are balanced in exactly the runs in which every buffer that has to
wait for a vblank gets its node. -/
theorem balanced_iff (surface : TplSurface Buffer) (isValid : Buffer → Bool)
    (bufferSize : Buffer → Int × Int) (presentModes : Nat) (mode : TplDisplayPresentMode)
    (vblankDone : Bool) (ls : List (Label Buffer)) (st : State Buffer)
    (hrun : vkSystem.run
      (newSwapchain surface isValid bufferSize presentModes mode vblankDone) ls = some st) :
    vkSystem.Always Balanced
        (newSwapchain surface isValid bufferSize presentModes mode vblankDone) ls ↔
      vkSystem.EveryStep NodeAllocated
        (newSwapchain surface isValid bufferSize presentModes mode vblankDone) ls := by
  have hinv := inv_newSwapchain surface isValid bufferSize presentModes mode vblankDone
  refine System.always_iff_everyStep hinv hrun ?_ ?_ ?_
  · intro _ _ _ h hallowed hstep
    exact inv_step h hallowed hstep
  · intro _ h
    exact h.balanced
  · intro _ _ _ h hstep hbalanced
    exact nodeAllocated_of_balanced h hstep hbalanced

def newWindow : State Nat :=
  newSwapchain windowSurface (fun _ => false) (fun _ => (64, 64)) 1 .fifo false

def twoFrames : List (Label Nat) :=
  [.tbmSurface (.create 1), .dequeueBuffer (gives 1),
    .enqueueBuffer 1 none ⟨.errorNone, none, true⟩, .drawDone 1 true, .vblank,
    .dequeueBuffer (gives 1), .enqueueBuffer 1 none ⟨.errorNone, none, true⟩,
    .bufferRelease 1, .drawDone 1 true, .destroySwapchain]

theorem balanced_twoFrames :
    ∃ st, vkSystem.run newWindow twoFrames = some st ∧
      (vkSystem.Always Balanced newWindow twoFrames ↔
        vkSystem.EveryStep NodeAllocated newWindow twoFrames) := by
  obtain ⟨st, hrun, -⟩ := vkSystem.exists_of_run
    (fun st => st.egl.refs 1 = 0 ∧ st.committed = [1]) newWindow twoFrames (by decide)
  exact ⟨st, hrun, balanced_iff windowSurface _ _ 1 .fifo false twoFrames st hrun⟩

/-- There is no memory for the node of a buffer that has to wait for a vblank. -/
theorem not_balanced_nodeLost :
    ¬ ∀ st : State Nat, vkSystem.Reachable st → Balanced st := by
  intro hall
  obtain ⟨st, hrun, hrefs, hdequeued, hgiven, hlist, hcommitted, hreleased⟩ :=
    vkSystem.exists_of_run
      (fun st => st.egl.refs 1 = 1 ∧ st.dequeued = [1] ∧ st.givenBack = [1] ∧
        st.queue.vblankList = [] ∧ st.committed = [] ∧ st.releaseEvents = []) newWindow
      [.tbmSurface (.create 1), .dequeueBuffer (gives 1),
        .enqueueBuffer 1 none ⟨.errorNone, none, true⟩, .drawDone 1 false] (by decide)
  have hbalanced := hall st (.of_run (.initial ⟨_, _, _, _, _, _, rfl⟩) hrun) 1
  rw [hrefs, hdequeued, hgiven, hlist, hcommitted, hreleased] at hbalanced
  exact absurd hbalanced (by decide)

end

end LibtplEgl.WaylandVulkanReferences
