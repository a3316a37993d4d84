import LibtplEgl.FrontbufferMode
import LibtplEgl.WaylandEglSurface

namespace LibtplEgl.BackendEnqueue

open LibtplEgl.FrontbufferMode (TplSurface)
open LibtplEgl.TplTypes
open LibtplEgl.WaylandEglSurface (EnqueueOutcome TsqError pushBack)

universe u v

/-- The backends that set `enqueue_buffer`. -/
inductive SurfaceBackend
  | waylandEgl
  | waylandVulkanWsi
  | gbm
  | tbm
  | tbmVulkanWsi
  deriving DecidableEq, Repr

/-- A surface with its backend. `backendData` and `tbmQueue` say that the pointers
the backend checks are not NULL. `egl` are the tbm_surfaces with their records and
the references of TPL, and the lists of a wayland-egl surface. A wayland-vulkan or
tbm record has its fence in `waitSync`; `enqueued` tells that it has been written since
the record was made, which a tbm record is with a 0 that is no fence. `waiting` is the
queue that the worker empties, and `closed` records the fences that TPL has closed. -/
structure SurfaceState (Buffer : Type u) (Fence : Type v) where
  backend : SurfaceBackend
  surface : TplSurface Buffer
  backendData : Bool
  tbmQueue : Bool
  egl : WaylandEglSurface.State Buffer
  waitSync : Buffer → Option Fence
  enqueued : Buffer → Bool
  waiting : List Buffer
  closed : List Fence

namespace SurfaceState

variable {Buffer : Type u} {Fence : Type v}

/-- `close`, which fails for -1. -/
def close (st : SurfaceState Buffer Fence) (fence : Option Fence) : SurfaceState Buffer Fence :=
  { st with closed := fence.toList ++ st.closed }

def setFrontbuffer (st : SurfaceState Buffer Fence) (b : Buffer) : SurfaceState Buffer Fence :=
  { st with surface := { st.surface with frontbuffer := some b } }

variable [DecidableEq Buffer]

def ref (st : SurfaceState Buffer Fence) (b : Buffer) : SurfaceState Buffer Fence :=
  { st with egl := st.egl.ref b }

def unref (st : SurfaceState Buffer Fence) (b : Buffer) : SurfaceState Buffer Fence :=
  { st with egl := st.egl.unref b }

def storeFence (st : SurfaceState Buffer Fence) (b : Buffer) (syncFence : Option Fence) :
    SurfaceState Buffer Fence :=
  { st with
    waitSync := Function.update st.waitSync b syncFence
    enqueued := Function.update st.enqueued b true }

@[simp] theorem surface_unref (st : SurfaceState Buffer Fence) (b : Buffer) :
    (st.unref b).surface = st.surface := rfl

/-- `__tpl_wayland_egl_surface_enqueue_buffer`; `none` is a failed assertion. -/
def waylandEglEnqueueBuffer (st : SurfaceState Buffer Fence) (b : Buffer)
    (syncFence : Option Fence) (out : EnqueueOutcome Buffer) :
    Option (TplResult × SurfaceState Buffer Fence) :=
  if st.backendData = false then some (.errorInvalidParameter, st)
  else if st.egl.isValid b = false then some (.errorInvalidParameter, st)
  else
    (st.egl.enqueueBuffer b out).map fun (result, egl) =>
      (result, { st.close syncFence with egl := egl })

/-- `__tpl_wayland_vk_wsi_surface_enqueue_buffer`; `none` is a failed assertion. -/
def vkEnqueueBuffer (st : SurfaceState Buffer Fence) (b : Buffer)
    (syncFence : Option Fence) (out : EnqueueOutcome Buffer) :
    Option (TplResult × SurfaceState Buffer Fence) :=
  if st.egl.isValid b = false then some (.errorInvalidParameter, st)
  else match st.egl.getBuffer b with
    | none => none
    | some _ =>
        let st := (st.unref b).storeFence b syncFence
        match out.enqueue with
        | .errorNone => some (.errorNone, { st with waiting := st.waiting ++ [b] })
        | _ => some (.errorInvalidOperation, st)

/-- `__tpl_gbm_surface_enqueue_buffer`. -/
def gbmEnqueueBuffer (st : SurfaceState Buffer Fence) (b : Buffer)
    (syncFence : Option Fence) (out : EnqueueOutcome Buffer) :
    Option (TplResult × SurfaceState Buffer Fence) :=
  if st.backendData = false then some (.errorInvalidParameter, st)
  else if st.egl.isValid b = false then some (.errorInvalidParameter, st)
  else match st.egl.getBuffer b with
    | none => some (.errorInvalidParameter, st)
    | some _ =>
        let st := st.unref b
        if st.tbmQueue = false then some (.errorInvalidParameter, st)
        else match out.enqueue with
          | .errorNone => some (.errorNone, st.close syncFence)
          | _ => some (.errorInvalidParameter, st.close syncFence)

/-- `__tpl_tbm_surface_enqueue_buffer`; `none` is the access to a missing record. -/
def tbmEnqueueBuffer (st : SurfaceState Buffer Fence) (b : Buffer)
    (syncFence : Option Fence) (out : EnqueueOutcome Buffer) :
    Option (TplResult × SurfaceState Buffer Fence) :=
  if st.egl.isValid b = false then some (.errorInvalidParameter, st)
  else
    let st := st.unref b
    if st.surface.type = .pixmap then some (.errorInvalidParameter, st)
    else if st.backend = .tbmVulkanWsi then
      match st.egl.getBuffer b with
      | none => none
      | some _ =>
          let st := (st.storeFence b syncFence).ref b
          some (.errorNone, { st with waiting := pushBack st.waiting b out.pushed })
    else if st.tbmQueue = false then some (.errorInvalidParameter, st)
    else match out.enqueue with
      | .errorNone => some (.errorNone, st.close syncFence)
      | _ => some (.errorInvalidOperation, st.close syncFence)

def backendEnqueueBuffer (st : SurfaceState Buffer Fence) (b : Buffer)
    (syncFence : Option Fence) (out : EnqueueOutcome Buffer) :
    Option (TplResult × SurfaceState Buffer Fence) :=
  match st.backend with
  | .waylandEgl => st.waylandEglEnqueueBuffer b syncFence out
  | .waylandVulkanWsi => st.vkEnqueueBuffer b syncFence out
  | .gbm => st.gbmEnqueueBuffer b syncFence out
  | .tbm | .tbmVulkanWsi => st.tbmEnqueueBuffer b syncFence out

/-- `tpl_surface_enqueue_buffer_with_damage_and_sync`; a `sync_fence` of -1 is
`none`. -/
def enqueueBuffer (st : SurfaceState Buffer Fence) (tbmSurface : Option Buffer)
    (syncFence : Option Fence) (out : EnqueueOutcome Buffer) :
    Option (TplResult × SurfaceState Buffer Fence) :=
  if st.surface.type ≠ .window then some (.errorInvalidParameter, st)
  else match tbmSurface with
    | none => some (.errorInvalidParameter, st)
    | some b =>
        if st.surface.isFrontbufferMode then
          if st.surface.frontbuffer = some b then some (.errorNone, st)
          else (st.setFrontbuffer b).backendEnqueueBuffer b syncFence out
        else st.backendEnqueueBuffer b syncFence out

/-- The exits of `backend.enqueue_buffer` for a window. -/
inductive Exits (st : SurfaceState Buffer Fence) (b : Buffer) (syncFence : Option Fence)
    (out : EnqueueOutcome Buffer) : TplResult → SurfaceState Buffer Fence → Prop
  | noData (hbackend : st.backend = .waylandEgl ∨ st.backend = .gbm)
      (hdata : st.backendData = false) : Exits st b syncFence out .errorInvalidParameter st
  | invalid (hvalid : st.egl.isValid b = false) :
      Exits st b syncFence out .errorInvalidParameter st
  | waylandEgl {result : TplResult} {egl : WaylandEglSurface.State Buffer}
      (hbackend : st.backend = .waylandEgl) (hdata : st.backendData = true)
      (hvalid : st.egl.isValid b = true) (hegl : st.egl.enqueueBuffer b out = some (result, egl)) :
      Exits st b syncFence out result { st.close syncFence with egl := egl }
  | vkAccepted (hbackend : st.backend = .waylandVulkanWsi) (hvalid : st.egl.isValid b = true)
      (henqueue : out.enqueue = .errorNone) :
      Exits st b syncFence out .errorNone
        { (st.unref b).storeFence b syncFence with waiting := st.waiting ++ [b] }
  | vkRejected (hbackend : st.backend = .waylandVulkanWsi) (hvalid : st.egl.isValid b = true)
      (henqueue : out.enqueue ≠ .errorNone) :
      Exits st b syncFence out .errorInvalidOperation
        ((st.unref b).storeFence b syncFence)
  | gbmNoRecord (hbackend : st.backend = .gbm) (hbuffer : st.egl.getBuffer b = none) :
      Exits st b syncFence out .errorInvalidParameter st
  | gbmNoQueue (hbackend : st.backend = .gbm) (hdata : st.backendData = true)
      (hvalid : st.egl.isValid b = true) (hbuffer : st.egl.getBuffer b ≠ none)
      (hqueue : st.tbmQueue = false) :
      Exits st b syncFence out .errorInvalidParameter (st.unref b)
  | gbmAccepted (hbackend : st.backend = .gbm) (hdata : st.backendData = true)
      (hvalid : st.egl.isValid b = true) (hbuffer : st.egl.getBuffer b ≠ none)
      (hqueue : st.tbmQueue = true) (henqueue : out.enqueue = .errorNone) :
      Exits st b syncFence out .errorNone ((st.unref b).close syncFence)
  | gbmRejected (hbackend : st.backend = .gbm) (hdata : st.backendData = true)
      (hvalid : st.egl.isValid b = true) (hbuffer : st.egl.getBuffer b ≠ none)
      (hqueue : st.tbmQueue = true) (henqueue : out.enqueue ≠ .errorNone) :
      Exits st b syncFence out .errorInvalidParameter ((st.unref b).close syncFence)
  | tbmStored (hbackend : st.backend = .tbmVulkanWsi) (hvalid : st.egl.isValid b = true) :
      Exits st b syncFence out .errorNone
        { ((st.unref b).storeFence b syncFence).ref b with
          waiting := pushBack st.waiting b out.pushed }
  | tbmNoQueue (hbackend : st.backend = .tbm) (hvalid : st.egl.isValid b = true)
      (hqueue : st.tbmQueue = false) :
      Exits st b syncFence out .errorInvalidParameter (st.unref b)
  | tbmAccepted (hbackend : st.backend = .tbm) (hvalid : st.egl.isValid b = true)
      (hqueue : st.tbmQueue = true) (henqueue : out.enqueue = .errorNone) :
      Exits st b syncFence out .errorNone ((st.unref b).close syncFence)
  | tbmRejected (hbackend : st.backend = .tbm) (hvalid : st.egl.isValid b = true)
      (hqueue : st.tbmQueue = true) (henqueue : out.enqueue ≠ .errorNone) :
      Exits st b syncFence out .errorInvalidOperation ((st.unref b).close syncFence)

variable {st st' : SurfaceState Buffer Fence} {b : Buffer} {syncFence : Option Fence}
  {out : EnqueueOutcome Buffer} {result : TplResult}

theorem Exits.of_waylandEgl (hbackend : st.backend = .waylandEgl)
    (h : st.waylandEglEnqueueBuffer b syncFence out = some (result, st')) :
    Exits st b syncFence out result st' := by
  unfold waylandEglEnqueueBuffer at h
  split at h
  · rename_i hdata
    cases h
    exact .noData (.inl hbackend) hdata
  · rename_i hdata
    split at h
    · rename_i hvalid
      cases h
      exact .invalid hvalid
    · rename_i hvalid
      obtain ⟨⟨r, egl⟩, hegl, heq⟩ := Option.map_eq_some_iff.mp h
      cases heq
      exact .waylandEgl hbackend (Bool.of_not_eq_false hdata) (Bool.of_not_eq_false hvalid) hegl

theorem Exits.of_vk (hbackend : st.backend = .waylandVulkanWsi)
    (h : st.vkEnqueueBuffer b syncFence out = some (result, st')) :
    Exits st b syncFence out result st' := by
  unfold vkEnqueueBuffer at h
  split at h
  · rename_i hvalid
    cases h
    exact .invalid hvalid
  · rename_i hvalid
    have hvalid' := Bool.of_not_eq_false hvalid
    split at h
    · cases h
    · split at h
      · rename_i henqueue
        cases h
        exact .vkAccepted hbackend hvalid' henqueue
      · rename_i henqueue
        cases h
        exact .vkRejected hbackend hvalid' henqueue

theorem Exits.of_gbm (hbackend : st.backend = .gbm)
    (h : st.gbmEnqueueBuffer b syncFence out = some (result, st')) :
    Exits st b syncFence out result st' := by
  unfold gbmEnqueueBuffer at h
  split at h
  · rename_i hdata
    cases h
    exact .noData (.inr hbackend) hdata
  · rename_i hdata
    have hdata' := Bool.of_not_eq_false hdata
    split at h
    · rename_i hvalid
      cases h
      exact .invalid hvalid
    · rename_i hvalid
      have hvalid' := Bool.of_not_eq_false hvalid
      split at h
      · rename_i hnone
        cases h
        exact .gbmNoRecord hbackend hnone
      · rename_i reset hsome
        have hbuffer : st.egl.getBuffer b ≠ none := by rw [hsome]; nofun
        dsimp only at h
        split at h
        · rename_i hqueue
          cases h
          exact .gbmNoQueue hbackend hdata' hvalid' hbuffer hqueue
        · rename_i hqueue
          have hqueue' := Bool.of_not_eq_false hqueue
          split at h
          · rename_i henqueue
            cases h
            exact .gbmAccepted hbackend hdata' hvalid' hbuffer hqueue' henqueue
          · rename_i henqueue
            cases h
            exact .gbmRejected hbackend hdata' hvalid' hbuffer hqueue' henqueue

theorem Exits.of_tbm (hbackend : st.backend = .tbm ∨ st.backend = .tbmVulkanWsi)
    (hwindow : st.surface.type = .window)
    (h : st.tbmEnqueueBuffer b syncFence out = some (result, st')) :
    Exits st b syncFence out result st' := by
  unfold tbmEnqueueBuffer at h
  split at h
  · rename_i hvalid
    cases h
    exact .invalid hvalid
  · rename_i hvalid
    have hvalid' := Bool.of_not_eq_false hvalid
    dsimp only at h
    rw [if_neg (by rw [surface_unref, hwindow]; nofun)] at h
    split at h
    · rename_i hvulkan
      split at h
      · cases h
      · cases h
        exact .tbmStored hvulkan hvalid'
    · rename_i hvulkan
      have htbm := hbackend.resolve_right hvulkan
      split at h
      · rename_i hqueue
        cases h
        exact .tbmNoQueue htbm hvalid' hqueue
      · rename_i hqueue
        have hqueue' := Bool.of_not_eq_false hqueue
        split at h
        · rename_i henqueue
          cases h
          exact .tbmAccepted htbm hvalid' hqueue' henqueue
        · rename_i henqueue
          cases h
          exact .tbmRejected htbm hvalid' hqueue' henqueue

theorem Exits.of_backend (hwindow : st.surface.type = .window)
    (h : st.backendEnqueueBuffer b syncFence out = some (result, st')) :
    Exits st b syncFence out result st' := by
  cases hbackend : st.backend with
  | waylandEgl =>
      simp only [backendEnqueueBuffer, hbackend] at h
      exact .of_waylandEgl hbackend h
  | waylandVulkanWsi =>
      simp only [backendEnqueueBuffer, hbackend] at h
      exact .of_vk hbackend h
  | gbm =>
      simp only [backendEnqueueBuffer, hbackend] at h
      exact .of_gbm hbackend h
  | tbm =>
      simp only [backendEnqueueBuffer, hbackend] at h
      exact .of_tbm (.inl hbackend) hwindow h
  | tbmVulkanWsi =>
      simp only [backendEnqueueBuffer, hbackend] at h
      exact .of_tbm (.inr hbackend) hwindow h

theorem Exits.backend_eq (h : Exits st b syncFence out result st') : st'.backend = st.backend := by
  cases h <;> rfl

end SurfaceState

end LibtplEgl.BackendEnqueue
