import LibtplEgl.FailedEnqueue
import LibtplEgl.LabelledSystem
import LibtplEgl.ResourceLedger

namespace LibtplEgl.FenceOwnership

open LibtplEgl.BackendEnqueue
open LibtplEgl.FailedEnqueue (Accepts)
open LibtplEgl.FrontbufferMode (TplSurface)
open LibtplEgl.LabelledSystem
open LibtplEgl.ResourceLedger
open LibtplEgl.TplTypes
open LibtplEgl.WaylandEglSurface (EnqueueOutcome TsqError pushBack)

universe u v

/-- A surface with the `draw_wait_buffer` of its worker surface, which is `listed`
in `surface_list` while a swapchain is live. `passed` records the fences of the
calls that have returned, with whether the result was `TPL_ERROR_NONE`. -/
structure FenceState (Buffer : Type u) (Fence : Type v) extends SurfaceState Buffer Fence where
  listed : Bool
  drawWaitBuffer : Option Buffer
  passed : List (Fence × Bool)

/-- A call that passes a fence passes a new one, so that a retry is told apart from
the call that failed. A dequeue makes a record (`newBuffer`), and a destroyed
tbm_surface frees it, while `atZero` is the fence whose file descriptor is 0, if one
is. `change` stands for everything else that happens to what the enqueue reads. -/
inductive Label (Buffer : Type u) (Fence : Type v)
  | enqueueBuffer (tbmSurface : Option Buffer) (syncFence : Option Fence)
      (out : EnqueueOutcome Buffer)
  | change (surface : TplSurface Buffer) (backendData tbmQueue : Bool)
      (egl : WaylandEglSurface.State Buffer)
  | createSwapchain
  | destroySwapchain
  | unreference
  | newBuffer (b : Buffer)
  | freeBuffer (b : Buffer) (atZero : Option Fence)
  | prepareDrawWaitBuffer (added : Bool)
  | fenceEvent

namespace FenceState

variable {Buffer : Type u} {Fence : Type v}

/-- The buffers whose `draw_done` is going to be called. -/
def hands (st : FenceState Buffer Fence) : List Buffer :=
  (if st.listed then st.waiting else []) ++ st.drawWaitBuffer.toList

def ledger (st : FenceState Buffer Fence) : Ledger Buffer Fence :=
  ⟨st.closed, st.waitSync, st.hands, st.passed⟩

/-- `__tpl_worker_surface_list_insert` and the new queue of a swapchain, or the end of
the surface: the worker forgets its buffers. -/
def forget (st : FenceState Buffer Fence) (listed : Bool) : FenceState Buffer Fence :=
  { st with waiting := [], drawWaitBuffer := none, listed := listed }

def change (st : FenceState Buffer Fence) (surface : TplSurface Buffer)
    (backendData tbmQueue : Bool) (egl : WaylandEglSurface.State Buffer) :
    FenceState Buffer Fence :=
  { st with
    surface := surface
    backendData := backendData
    tbmQueue := tbmQueue
    egl := { egl with
      buffer := fun b => (st.egl.buffer b).map fun reset => (egl.buffer b).getD reset } }

def setSurface (st : FenceState Buffer Fence) (surface : TplSurface Buffer) :
    FenceState Buffer Fence :=
  { st with surface := surface }

def returned (st : FenceState Buffer Fence) (syncFence : Option Fence) (result : TplResult)
    (surface : SurfaceState Buffer Fence) : FenceState Buffer Fence :=
  { st with
    toSurfaceState := surface
    passed := (syncFence.map (·, decide (result = .errorNone))).toList ++ st.passed }

variable [DecidableEq Buffer]

/-- `tpl_surface_enqueue_buffer_with_damage_and_sync`. -/
def enqueueBuffer (st : FenceState Buffer Fence) (tbmSurface : Option Buffer)
    (syncFence : Option Fence) (out : EnqueueOutcome Buffer) : Option (FenceState Buffer Fence) :=
  (st.toSurfaceState.enqueueBuffer tbmSurface syncFence out).map fun (result, surface) =>
    st.returned syncFence result surface

/-- The fence of the record in `__tpl_tbm_draw_done` and
`__tpl_wayland_vk_wsi_process_draw_done`. -/
def drawDone (st : FenceState Buffer Fence) (b : Buffer) : FenceState Buffer Fence :=
  { st with
    toSurfaceState := { st.close (st.waitSync b) with
      waitSync := Function.update st.waitSync b none } }

def setRecord (st : FenceState Buffer Fence) (b : Buffer) (record : Option Bool) :
    FenceState Buffer Fence :=
  { st with egl := { st.egl with buffer := Function.update st.egl.buffer b record } }

/-- A dequeue makes the record of a tbm_surface with `calloc`. -/
def newBuffer (st : FenceState Buffer Fence) (b : Buffer) : FenceState Buffer Fence :=
  { st.setRecord b (some false) with enqueued := Function.update st.enqueued b false }

/-- What `__tpl_tbm_buffer_free` closes: the fence that is left in the record, or file
descriptor 0 for a record that no enqueue has written to. The other backends close
nothing. -/
def freedFence (st : FenceState Buffer Fence) (b : Buffer) (atZero : Option Fence) :
    Option Fence :=
  match st.backend with
  | .tbmVulkanWsi => if st.enqueued b then st.waitSync b else atZero
  | .waylandEgl | .waylandVulkanWsi | .gbm | .tbm => none

def freeBuffer (st : FenceState Buffer Fence) (b : Buffer) (atZero : Option Fence) :
    FenceState Buffer Fence :=
  { st.setRecord b none with
    closed := (st.freedFence b atZero).toList ++ st.closed
    waitSync := Function.update st.waitSync b none }

/-- One round of the loop in `__tpl_worker_prepare_draw_wait_buffer`; `added` says
that epoll takes the fence. -/
def prepareDrawWaitBuffer (st : FenceState Buffer Fence) (added : Bool) :
    FenceState Buffer Fence :=
  match st.waiting with
  | [] => st
  | b :: rest =>
      if (st.waitSync b).isSome ∧ added = true then
        { st with waiting := rest, drawWaitBuffer := some b }
      else { st with waiting := rest }.drawDone b

end FenceState

section

variable {Buffer : Type u} {Fence : Type v} [DecidableEq Buffer] [DecidableEq Fence]

/-- One step. A tbm_surface is not freed while it is in a queue of the worker, which
has a reference. -/
def step (st : FenceState Buffer Fence) : Label Buffer Fence → Option (FenceState Buffer Fence)
  | .enqueueBuffer tbmSurface syncFence out =>
      if ∀ f ∈ syncFence, f ∉ st.passed.map Prod.fst ∧ f ∉ st.closed then
        st.enqueueBuffer tbmSurface syncFence out
      else none
  | .change surface backendData tbmQueue egl => some (st.change surface backendData tbmQueue egl)
  | .createSwapchain => some (st.forget true)
  | .unreference => some (st.forget false)
  | .destroySwapchain => some { st with waiting := [], listed := false }
  | .newBuffer b => if st.egl.buffer b = none then some (st.newBuffer b) else none
  | .freeBuffer b atZero =>
      if b ∈ st.hands ∨ st.egl.buffer b = none ∨ ∃ f ∈ atZero, f ∈ st.closed then none
      else some (st.freeBuffer b atZero)
  | .prepareDrawWaitBuffer added =>
      if st.listed = true ∧ st.drawWaitBuffer = none then some (st.prepareDrawWaitBuffer added)
      else none
  | .fenceEvent =>
      match st.drawWaitBuffer with
      | some b => some { st.drawDone b with drawWaitBuffer := none }
      | none => none

end

section

variable {Buffer : Type u} {Fence : Type v}

/-- A fence that a record stores is closed by `draw_done` if the call accepts it, for
which its buffer is `pushed` for the worker or with it already, and the record did not
store another one that is going to be closed. -/
def StoreOk (st : FenceState Buffer Fence) (b : Buffer) (syncFence : Option Fence)
    (accepted pushed : Prop) : Prop :=
  (b ∈ st.hands → st.waitSync b = none) ∧
    (syncFence.isSome = true → (accepted → pushed ∧ st.listed = true ∨ b ∈ st.hands) ∧
      (¬ accepted → b ∉ st.hands))

/-- After the fence has been closed, or stored for the worker, the backend succeeds. -/
def BackendKeeps (st : FenceState Buffer Fence) (b : Buffer) (syncFence : Option Fence)
    (out : EnqueueOutcome Buffer) : Prop :=
  st.egl.isValid b = true → match st.backend with
  | .waylandEgl => syncFence = none ∨ st.backendData = false ∨ Accepts st.toSurfaceState b out
  | .gbm => syncFence = none ∨ st.backendData = false ∨ st.egl.getBuffer b = none ∨
      st.tbmQueue = false ∨ out.enqueue = .errorNone
  | .tbm => syncFence = none ∨ st.tbmQueue = false ∨ out.enqueue = .errorNone
  | .waylandVulkanWsi => StoreOk st b syncFence (out.enqueue = .errorNone) True
  | .tbmVulkanWsi => StoreOk st b syncFence True (out.pushed = true)

/-- The steps that leave every fence with its owner. -/
def FencesKept (st : FenceState Buffer Fence) : Label Buffer Fence → Prop
  | .enqueueBuffer tbmSurface syncFence out => st.surface.type = .window → ∀ b ∈ tbmSurface,
      (st.surface.isFrontbufferMode = true ∧ st.surface.frontbuffer = some b → syncFence = none) ∧
        (¬ (st.surface.isFrontbufferMode = true ∧ st.surface.frontbuffer = some b) →
          BackendKeeps st b syncFence out)
  | .createSwapchain | .unreference => ∀ b ∈ st.hands, st.waitSync b = none
  | .destroySwapchain => ∀ b ∈ st.hands, st.drawWaitBuffer ≠ some b → st.waitSync b = none
  | .freeBuffer b atZero => st.backend = .tbmVulkanWsi → st.enqueued b = false →
      ∀ f ∈ atZero, f ∉ st.passed.map Prod.fst
  | .change _ _ _ _ | .newBuffer _ | .prepareDrawWaitBuffer _ | .fenceEvent => True

variable [DecidableEq Buffer]

/-- What `backend.enqueue_buffer` does to the fences. -/
inductive FenceEffect (st : FenceState Buffer Fence) (b : Buffer) (syncFence : Option Fence)
    (out : EnqueueOutcome Buffer) (result : TplResult) (st' : SurfaceState Buffer Fence) : Prop
  | refused (hresult : result ≠ .errorNone) (hkeeps : BackendKeeps st b syncFence out)
      (hclosed : st'.closed = st.closed) (hwaitSync : st'.waitSync = st.waitSync)
      (hwaiting : st'.waiting = st.waiting)
  | closed (hkeeps : BackendKeeps st b syncFence out ↔ syncFence = none ∨ result = .errorNone)
      (hclosed : st'.closed = syncFence.toList ++ st.closed)
      (hwaitSync : st'.waitSync = st.waitSync) (hwaiting : st'.waiting = st.waiting)
  | stored (pushed : Bool) (hkeeps : BackendKeeps st b syncFence out ↔
        StoreOk st b syncFence (result = .errorNone) (pushed = true))
      (htbm : st.backend = .tbmVulkanWsi → result = .errorNone)
      (hclosed : st'.closed = st.closed)
      (hwaitSync : st'.waitSync = Function.update st.waitSync b syncFence)
      (hwaiting : st'.waiting =
        if result = .errorNone then pushBack st.waiting b pushed else st.waiting)

variable {st : FenceState Buffer Fence} {st' : SurfaceState Buffer Fence} {b : Buffer}
  {syncFence : Option Fence} {out : EnqueueOutcome Buffer} {result : TplResult}

theorem effect_backend (h : st.toSurfaceState.Exits b syncFence out result st') :
    FenceEffect st b syncFence out result st' := by
  cases h with
  | noData hbackend hdata =>
      rcases hbackend with hbackend | hbackend
      · exact .refused nofun (by simp [BackendKeeps, hbackend, hdata]) rfl rfl rfl
      · exact .refused nofun (by simp [BackendKeeps, hbackend, hdata]) rfl rfl rfl
  | invalid hvalid => exact .refused nofun (by simp [BackendKeeps, hvalid]) rfl rfl rfl
  | waylandEgl hbackend hdata hvalid hegl =>
      have heffect := FailedEnqueue.effect_waylandEgl syncFence hbackend hdata hvalid hegl
      refine .closed ?_ rfl rfl rfl
      rw [heffect.result_iff]
      simp [BackendKeeps, hbackend, hdata, hvalid]
  | vkAccepted hbackend hvalid henqueue =>
      exact .stored true (by simp [BackendKeeps, hbackend, hvalid, henqueue])
        (by simp [hbackend]) rfl rfl rfl
  | vkRejected hbackend hvalid henqueue =>
      exact .stored true (by simp [BackendKeeps, hbackend, hvalid, henqueue])
        (by simp [hbackend]) rfl rfl rfl
  | gbmNoRecord hbackend hbuffer =>
      exact .refused nofun (by simp [BackendKeeps, hbackend, hbuffer]) rfl rfl rfl
  | gbmNoQueue hbackend hdata hvalid hbuffer hqueue =>
      exact .refused nofun (by simp [BackendKeeps, hbackend, hqueue]) rfl rfl rfl
  | gbmAccepted hbackend hdata hvalid hbuffer hqueue henqueue =>
      exact .closed (by simp [BackendKeeps, hbackend, henqueue]) rfl rfl rfl
  | gbmRejected hbackend hdata hvalid hbuffer hqueue henqueue =>
      exact .closed (by
        simp [BackendKeeps, hbackend, hdata, hvalid, hbuffer, hqueue, henqueue]) rfl rfl rfl
  | tbmStored hbackend hvalid =>
      exact .stored out.pushed (by simp [BackendKeeps, hbackend, hvalid]) (fun _ => rfl)
        rfl rfl rfl
  | tbmNoQueue hbackend hvalid hqueue =>
      exact .refused nofun (by simp [BackendKeeps, hbackend, hqueue]) rfl rfl rfl
  | tbmAccepted hbackend hvalid hqueue henqueue =>
      exact .closed (by simp [BackendKeeps, hbackend, henqueue]) rfl rfl rfl
  | tbmRejected hbackend hvalid hqueue henqueue =>
      exact .closed (by simp [BackendKeeps, hbackend, hvalid, hqueue, henqueue]) rfl rfl rfl

end

section

variable {Buffer : Type u} {Fence : Type v} {st : FenceState Buffer Fence}
  {st' : SurfaceState Buffer Fence} {b : Buffer} {syncFence : Option Fence}
  {out : EnqueueOutcome Buffer} {result : TplResult}

theorem hands_returned (hwaiting : st'.waiting = st.waiting) :
    (st.returned syncFence result st').hands = st.hands := by
  simp [FenceState.hands, FenceState.returned, hwaiting]

theorem mem_hands_returned {pushed : Bool} (hwaiting : st'.waiting =
      if result = .errorNone then pushBack st.waiting b pushed else st.waiting)
    (c : Buffer) : c ∈ (st.returned syncFence result st').hands ↔
      c ∈ st.hands ∨ c = b ∧ result = .errorNone ∧ pushed = true ∧ st.listed = true := by
  by_cases hresult : result = .errorNone
  · rw [if_pos hresult] at hwaiting
    cases hlisted : st.listed <;> cases pushed <;>
      simp [FenceState.hands, FenceState.returned, hwaiting, pushBack, hlisted, hresult, or_comm,
        or_left_comm]
  · rw [if_neg hresult] at hwaiting
    rw [hands_returned hwaiting]
    simp [hresult]

theorem ledger_refused (hresult : result ≠ .errorNone) (hclosed : st'.closed = st.closed)
    (hwaitSync : st'.waitSync = st.waitSync) (hwaiting : st'.waiting = st.waiting) :
    (st.returned syncFence result st').ledger = st.ledger.pass syncFence false := by
  simp [FenceState.ledger, FenceState.returned, FenceState.hands, Ledger.pass, hresult, hclosed,
    hwaitSync, hwaiting]

theorem ledger_closed (hclosed : st'.closed = syncFence.toList ++ st.closed)
    (hwaitSync : st'.waitSync = st.waitSync) (hwaiting : st'.waiting = st.waiting) :
    (st.returned syncFence result st').ledger =
      (st.ledger.close syncFence).pass syncFence (decide (result = .errorNone)) := by
  simp [FenceState.ledger, FenceState.returned, FenceState.hands, Ledger.pass, Ledger.close,
    hclosed, hwaitSync, hwaiting]

variable [DecidableEq Buffer]

theorem ledger_stored (hclosed : st'.closed = st.closed)
    (hwaitSync : st'.waitSync = Function.update st.waitSync b syncFence) :
    (st.returned syncFence result st').ledger =
      ((st.ledger.store b syncFence).drop (st.returned syncFence result st').hands).pass syncFence
        (decide (result = .errorNone)) := by
  simp [FenceState.ledger, FenceState.returned, FenceState.hands, Ledger.pass, Ledger.store,
    Ledger.drop, hclosed, hwaitSync]

/-- The fence of a TBM-Vulkan record waits for `draw_done`. -/
structure Inv [DecidableEq Fence] (st : FenceState Buffer Fence) : Prop where
  kept : st.ledger.Kept
  waiting : st.backend = .tbmVulkanWsi → ∀ b f, st.waitSync b = some f → b ∈ st.hands

variable [DecidableEq Fence]

theorem Inv.returned (h : Inv st) (hfresh : ∀ f ∈ syncFence, st.ledger.Fresh f)
    (heffect : FenceEffect st b syncFence out result st') (hbackend : st'.backend = st.backend)
    (hkeeps : BackendKeeps st b syncFence out) : Inv (st.returned syncFence result st') := by
  have hbackend' : (st.returned syncFence result st').backend = st.backend := hbackend
  cases heffect with
  | refused hresult _ hclosed hwaitSync hwaiting =>
      constructor
      · rw [ledger_refused hresult hclosed hwaitSync hwaiting]
        exact h.kept.refuse hfresh
      · rw [hbackend', hands_returned hwaiting]
        intro htbm c f hc
        exact h.waiting htbm c f ((congrFun hwaitSync c).symm.trans hc)
  | closed hiff hclosed hwaitSync hwaiting =>
      constructor
      · rw [ledger_closed hclosed hwaitSync hwaiting]
        rcases hiff.mp hkeeps with rfl | hnone
        · exact h.kept
        · rw [decide_eq_true hnone]
          exact h.kept.closeAccepted hfresh
      · rw [hbackend', hands_returned hwaiting]
        intro htbm c f hc
        exact h.waiting htbm c f ((congrFun hwaitSync c).symm.trans hc)
  | stored pushed hiff htbmResult hclosed hwaitSync hwaiting =>
      obtain ⟨hslot, hstore⟩ := hiff.mp hkeeps
      have hmem : ∀ c, c ∈ (st.returned syncFence result st').hands ↔
          c ∈ st.hands ∨ c = b ∧ result = .errorNone ∧ pushed = true ∧ st.listed = true :=
        mem_hands_returned hwaiting
      have hself : ∀ f ∈ syncFence, b ∈ (st.returned syncFence result st').hands ↔
          result = .errorNone := by
        intro f hf
        obtain ⟨hyes, hno⟩ := hstore (Option.isSome_of_mem hf)
        rw [hmem]
        by_cases hresult : result = .errorNone
        · simpa [hresult] using (hyes hresult).symm
        · simpa [hresult] using hno hresult
      constructor
      · rw [ledger_stored hclosed hwaitSync]
        refine h.kept.replace hfresh hslot (fun c hc => ?_) fun f hf => ?_
        · rw [hmem]
          simp only [hc, false_and, or_false]
          exact Iff.rfl
        · rw [hself f hf, decide_eq_true_iff]
      · rw [hbackend']
        intro htbm c f hc
        have hc' : Function.update st.waitSync b syncFence c = some f :=
          (congrFun hwaitSync c).symm.trans hc
        by_cases hcb : c = b
        · rw [hcb, Function.update_self] at hc'
          rw [hcb, hself f hc']
          exact htbmResult htbm
        · rw [Function.update_of_ne hcb] at hc'
          exact (hmem c).mpr (.inl (h.waiting htbm c f hc'))

omit [DecidableEq Fence] in
theorem enqueueBuffer_cases {tbmSurface : Option Buffer}
    (h : st.toSurfaceState.enqueueBuffer tbmSurface syncFence out = some (result, st')) :
    (result ≠ .errorNone ∧ st' = st.toSurfaceState ∧
      FencesKept st (.enqueueBuffer tbmSurface syncFence out)) ∨
    (result = .errorNone ∧ st' = st.toSurfaceState ∧
      (FencesKept st (.enqueueBuffer tbmSurface syncFence out) ↔ syncFence = none)) ∨
    ∃ b surface, FenceEffect (st.setSurface surface) b syncFence out result st' ∧
      st'.backend = st.backend ∧
      (FencesKept st (.enqueueBuffer tbmSurface syncFence out) ↔
        BackendKeeps (st.setSurface surface) b syncFence out) := by
  unfold SurfaceState.enqueueBuffer at h
  split at h
  · rename_i htype
    cases h
    exact .inl ⟨nofun, rfl, fun hwindow => (htype hwindow).elim⟩
  · rename_i htype
    have hwindow : st.surface.type = .window := not_not.mp htype
    split at h
    · cases h
      exact .inl ⟨nofun, rfl, fun _ => nofun⟩
    · rename_i b
      split at h
      · rename_i hmode
        split at h
        · rename_i hfront
          cases h
          exact .inr (.inl ⟨rfl, rfl, by simp [FencesKept, hwindow, hmode, hfront]⟩)
        · rename_i hfront
          have hwindow' : (st.setSurface (st.setFrontbuffer b).surface).surface.type = .window :=
            hwindow
          have hexits := SurfaceState.Exits.of_backend hwindow' h
          refine .inr (.inr ⟨b, _, effect_backend hexits, hexits.backend_eq, ?_⟩)
          simp only [FencesKept, hwindow, hfront, Option.mem_some_iff, and_false, false_implies,
            not_false_eq_true, true_implies, true_and, forall_eq']
          exact Iff.rfl
      · rename_i hmode
        have hexits := SurfaceState.Exits.of_backend hwindow h
        refine .inr (.inr ⟨b, st.surface, effect_backend hexits, hexits.backend_eq, ?_⟩)
        simp only [FencesKept, hwindow, hmode, Bool.false_eq_true, Option.mem_some_iff, false_and,
          false_implies, not_false_eq_true, true_implies, true_and, forall_eq']
        exact Iff.rfl

omit [DecidableEq Buffer] in
theorem Inv.setSurface (h : Inv st) (surface : TplSurface Buffer) : Inv (st.setSurface surface) :=
  ⟨h.kept, h.waiting⟩

theorem inv_enqueueBuffer (h : Inv st) {tbmSurface : Option Buffer}
    (hfresh : ∀ f ∈ syncFence, st.ledger.Fresh f)
    (hcall : st.toSurfaceState.enqueueBuffer tbmSurface syncFence out = some (result, st'))
    (hkept : FencesKept st (.enqueueBuffer tbmSurface syncFence out)) :
    Inv (st.returned syncFence result st') := by
  rcases enqueueBuffer_cases hcall with
    ⟨hresult, rfl, -⟩ | ⟨hresult, rfl, hiff⟩ | ⟨b, surface, heffect, hbackend, hiff⟩
  · refine ⟨?_, h.waiting⟩
    rw [ledger_refused hresult rfl rfl rfl]
    exact h.kept.refuse hfresh
  · rw [hiff.mp hkept]
    exact h
  · exact (h.setSurface surface).returned hfresh heffect hbackend (hiff.mp hkept)

omit [DecidableEq Buffer] in
theorem Inv.drop (h : Inv st) {st₁ : FenceState Buffer Fence}
    (hledger : st₁.ledger = st.ledger.drop st₁.hands) (hsub : ∀ b ∈ st₁.hands, b ∈ st.hands)
    (hbackend : st₁.backend = st.backend)
    (hnone : ∀ b ∈ st.hands, b ∉ st₁.hands → st.waitSync b = none) : Inv st₁ := by
  constructor
  · rw [hledger]
    exact h.kept.drop hsub hnone
  · rw [hbackend]
    intro htbm b f hb
    have hb' : st.waitSync b = some f := by
      have hstored := congrArg Ledger.stored hledger
      exact (congrFun hstored b).symm.trans hb
    refine Classical.byContradiction fun hout => ?_
    cases (hnone b (h.waiting htbm b f hb') hout).symm.trans hb'

theorem Inv.drawDone (h : Inv st) {b : Buffer} {st₁ : FenceState Buffer Fence}
    (hledger : st₁.ledger = st.ledger.finish b st₁.hands)
    (hhands : ∀ c, c ∈ st.hands ↔ c = b ∨ c ∈ st₁.hands) (hbackend : st₁.backend = st.backend) :
    Inv st₁ := by
  constructor
  · rw [hledger]
    exact h.kept.finish hhands
  · rw [hbackend]
    intro htbm c f hc
    have hc' : Function.update st.waitSync b none c = some f := by
      have hstored := congrArg Ledger.stored hledger
      exact (congrFun hstored c).symm.trans hc
    by_cases hcb : c = b
    · rw [hcb, Function.update_self] at hc'
      cases hc'
    · rw [Function.update_of_ne hcb] at hc'
      rcases (hhands c).mp (h.waiting htbm c f hc') with heq | hmem
      · exact (hcb heq).elim
      · exact hmem

omit [DecidableEq Buffer] in
theorem Inv.waitSync_none (h : Inv st) (htbm : st.backend = .tbmVulkanWsi) {b : Buffer}
    (hb : b ∉ st.hands) : st.waitSync b = none := by
  cases hf : st.waitSync b with
  | none => rfl
  | some f => exact (hb (h.waiting htbm b f hf)).elim

omit [DecidableEq Buffer] in
theorem Inv.freedFence (h : Inv st) {b : Buffer} (hb : b ∉ st.hands) (atZero : Option Fence) :
    st.freedFence b atZero = none ∨ st.backend = .tbmVulkanWsi ∧ st.enqueued b = false ∧
      st.freedFence b atZero = atZero := by
  unfold FenceState.freedFence
  split
  · rename_i htbm
    cases henqueued : st.enqueued b with
    | true => exact .inl (h.waitSync_none htbm hb)
    | false => exact .inr ⟨htbm, rfl, rfl⟩
  all_goals exact .inl rfl

theorem Inv.freeBuffer (h : Inv st) {b : Buffer} {atZero : Option Fence} (hb : b ∉ st.hands)
    (hallowed : FencesKept st (.freeBuffer b atZero)) : Inv (st.freeBuffer b atZero) := by
  have hclosed : (st.ledger.close (st.freedFence b atZero)).Kept := by
    refine h.kept.closeStray fun f hf => ?_
    rcases h.freedFence hb atZero with hnone | ⟨htbm, henqueued, hzero⟩
    · rw [hnone] at hf
      cases hf
    · rw [hzero] at hf
      rintro ⟨accepted, hmem⟩
      exact hallowed htbm henqueued f hf (List.mem_map_of_mem hmem)
  refine ⟨hclosed.clear hb, fun htbm c f hc => ?_⟩
  have hc' : Function.update st.waitSync b none c = some f := hc
  by_cases hcb : c = b
  · rw [hcb, Function.update_self] at hc'
    cases hc'
  · rw [Function.update_of_ne hcb] at hc'
    exact h.waiting htbm c f hc'

theorem Inv.prepareDrawWaitBuffer (h : Inv st) (hlisted : st.listed = true)
    (hwait : st.drawWaitBuffer = none) (added : Bool) : Inv (st.prepareDrawWaitBuffer added) := by
  unfold FenceState.prepareDrawWaitBuffer
  split
  · exact h
  · rename_i b rest hwaiting
    split
    · refine h.drop rfl (fun c hc => ?_) rfl fun c hc hout => (hout ?_).elim
      · simpa [FenceState.hands, hlisted, hwait, hwaiting, or_comm] using hc
      · simpa [FenceState.hands, hlisted, hwait, hwaiting, or_comm] using hc
    · refine h.drawDone rfl (fun c => ?_) rfl
      simp [FenceState.hands, FenceState.drawDone, SurfaceState.close, hlisted, hwait, hwaiting]

theorem inv_step {st₁ : FenceState Buffer Fence} {l : Label Buffer Fence} (h : Inv st)
    (hallowed : FencesKept st l) (hstep : step st l = some st₁) : Inv st₁ := by
  cases l with
  | enqueueBuffer tbmSurface syncFence out =>
      simp only [step] at hstep
      split at hstep
      · rename_i hfresh
        obtain ⟨⟨result, surface⟩, hcall, rfl⟩ := Option.map_eq_some_iff.mp hstep
        refine inv_enqueueBuffer h (fun f hf => ⟨?_, (hfresh f hf).2⟩) hcall hallowed
        rintro ⟨accepted, hmem⟩
        exact (hfresh f hf).1 (List.mem_map_of_mem hmem)
      · cases hstep
  | change surface backendData tbmQueue egl =>
      cases hstep
      exact ⟨h.kept, h.waiting⟩
  | createSwapchain =>
      cases hstep
      exact h.drop rfl (fun _ => nofun) rfl fun b hb _ => hallowed b hb
  | unreference =>
      cases hstep
      exact h.drop rfl (fun _ => nofun) rfl fun b hb _ => hallowed b hb
  | destroySwapchain =>
      cases hstep
      refine h.drop rfl (fun b hb => ?_) rfl fun b hb hout => hallowed b hb fun hwait => hout ?_
      · exact List.mem_append_right _ hb
      · simp [FenceState.hands, hwait]
  | newBuffer b =>
      simp only [step] at hstep
      split at hstep
      · cases hstep
        exact ⟨h.kept, h.waiting⟩
      · cases hstep
  | freeBuffer b atZero =>
      simp only [step] at hstep
      split at hstep
      · cases hstep
      · rename_i hguard
        cases hstep
        exact h.freeBuffer (fun hb => hguard (.inl hb)) hallowed
  | prepareDrawWaitBuffer added =>
      simp only [step] at hstep
      split at hstep
      · rename_i hscan
        cases hstep
        exact h.prepareDrawWaitBuffer hscan.1 hscan.2 added
      · cases hstep
  | fenceEvent =>
      simp only [step] at hstep
      split at hstep
      · rename_i b hb
        cases hstep
        refine h.drawDone (b := b) rfl (fun c => ?_) rfl
        simp only [FenceState.hands, FenceState.drawDone, SurfaceState.close, hb,
          Option.toList_some, Option.toList_none, List.append_nil, List.mem_append,
          List.mem_singleton]
        exact or_comm
      · cases hstep

end

def window (backend : SurfaceBackend) (isFrontbufferMode : Bool) (frontbuffer : Option Nat) :
    SurfaceState Nat Nat where
  backend := backend
  surface := ⟨.window, isFrontbufferMode, frontbuffer, 64, 64⟩
  backendData := true
  tbmQueue := true
  egl := WaylandEglSurface.newSurface (fun _ => true) (fun _ => some false)
  waitSync := fun _ => none
  enqueued := fun _ => false
  waiting := []
  closed := []

end LibtplEgl.FenceOwnership
