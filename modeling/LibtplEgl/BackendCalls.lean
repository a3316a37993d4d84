import LibtplEgl.BackendEnqueue
import LibtplEgl.FailedDequeue

namespace LibtplEgl.BackendCalls

open LibtplEgl.BackendEnqueue
open LibtplEgl.BufferReferences (refs_ref)
open LibtplEgl.FailedDequeue
open LibtplEgl.FrontbufferMode (TplSurface)
open LibtplEgl.TplTypes
open LibtplEgl.WaylandEglSurface (EnqueueOutcome)

universe u v

/-- A surface whose buffers are both dequeued and enqueued. -/
structure BackendSurface (Buffer : Type u) (Fence : Type v) extends
  SurfaceState Buffer Fence, DequeueState Buffer

/-- A tbm_surface is created, or destroyed when TPL has no reference to it. -/
inductive TbmSurfaceEvent (Buffer : Type u)
  | create (b : Buffer)
  | destroy (b : Buffer)
  deriving DecidableEq, Repr

def TbmSurfaceEvent.label {Buffer : Type u} : TbmSurfaceEvent Buffer → WaylandEglSurface.Label Buffer
  | .create b => .createTbmSurface b
  | .destroy b => .destroyTbmSurface b

namespace BackendSurface

variable {Buffer : Type u} {Fence : Type v} [DecidableEq Buffer]

/-- `backend.dequeue_buffer`. -/
def backendDequeue (st : BackendSurface Buffer Fence) (out : DequeueOutcome Buffer) :
    Option Buffer × BackendSurface Buffer Fence :=
  let (result, after) := st.toDequeueState.backendDequeueBuffer out
  (result, { st with
    surface := after.surface
    egl := after.egl
    taken := after.taken
    nullRefs := after.nullRefs })

/-- `backend.enqueue_buffer`. -/
def backendEnqueue (st : BackendSurface Buffer Fence) (b : Buffer) (syncFence : Option Fence)
    (out : EnqueueOutcome Buffer) : Option (TplResult × BackendSurface Buffer Fence) :=
  (st.toSurfaceState.backendEnqueueBuffer b syncFence out).map fun (result, after) =>
    (result, { st with toSurfaceState := after })

def tbmSurface (st : BackendSurface Buffer Fence) (event : TbmSurfaceEvent Buffer) :
    Option (BackendSurface Buffer Fence) :=
  (WaylandEglSurface.step st.egl event.label).map fun egl => { st with egl := egl }

/-- What a `dequeue_buffer` other than that of wayland-egl does to the tbm_surfaces. -/
inductive Dequeues (st : BackendSurface Buffer Fence) (out : DequeueOutcome Buffer) :
    Option Buffer → WaylandEglSurface.State Buffer → Prop
  | failed : Dequeues st out none st.egl
  | reused {b : Buffer} (hrecord : st.backend = .tbm ∨ (st.egl.getBuffer b).isSome = true) :
      Dequeues st out (some b) (st.egl.ref b)
  | recorded {b : Buffer} (hrecord : st.egl.getBuffer b = none) :
      Dequeues st out (some b) ((st.egl.ref b).setBufferReset b false)

variable {st : BackendSurface Buffer Fence} {out : DequeueOutcome Buffer}

theorem Dequeues.of_vk (st : BackendSurface Buffer Fence) (out : DequeueOutcome Buffer) :
    Dequeues st out (st.toDequeueState.vkDequeueBuffer out).1
      (st.toDequeueState.vkDequeueBuffer out).2.egl := by
  unfold DequeueState.vkDequeueBuffer
  split
  · exact .failed
  · cases hdequeue : out.dequeue with
    | none => exact .failed
    | some b =>
        have hafter : ((st.toDequeueState.take (some b)).ref (some b)).getBuffer (some b) =
            st.egl.getBuffer b := rfl
        simp only [hafter]
        cases hrecord : st.egl.getBuffer b with
        | some reset => exact .reused (.inr (by simp [hrecord]))
        | none =>
            simp only [DequeueState.unref, DequeueState.ref, DequeueState.take]
            rw [WaylandEglSurface.unref_ref]
            split
            · exact .failed
            · split
              · exact .failed
              · split
                · exact .failed
                · exact .recorded hrecord

theorem Dequeues.of_tbm (st : BackendSurface Buffer Fence) (out : DequeueOutcome Buffer)
    (hbackend : st.backend = .tbm ∨ st.backend = .tbmVulkanWsi) :
    Dequeues st out (st.toDequeueState.tbmDequeueBuffer out).1
      (st.toDequeueState.tbmDequeueBuffer out).2.egl := by
  unfold DequeueState.tbmDequeueBuffer
  cases htwice : DequeueState.dequeueTwice out with
  | none => exact .failed
  | some tbmSurface =>
      dsimp only
      split
      · cases tbmSurface with
        | none =>
            simp only [DequeueState.getBuffer, Option.bind_none]
            split
            · exact .failed
            · exact .failed
        | some b =>
            have hafter : (st.toDequeueState.take (some b)).getBuffer (some b) =
                st.egl.getBuffer b := rfl
            simp only [hafter]
            cases hrecord : st.egl.getBuffer b with
            | some reset => exact .reused (.inr (by simp [hrecord]))
            | none =>
                dsimp only
                split
                · exact .failed
                · exact .recorded hrecord
      · rename_i hvulkan
        have htbm : st.backend = .tbm := hbackend.resolve_right hvulkan
        cases tbmSurface with
        | none => exact .failed
        | some b => exact .reused (.inl htbm)

theorem Dequeues.of_gbm (st : BackendSurface Buffer Fence) (out : DequeueOutcome Buffer) :
    Dequeues st out (st.toDequeueState.gbmDequeueBuffer out).1
      (st.toDequeueState.gbmDequeueBuffer out).2.egl := by
  unfold DequeueState.gbmDequeueBuffer
  cases htwice : DequeueState.dequeueTwice out with
  | none => exact .failed
  | some tbmSurface =>
      cases tbmSurface with
      | none =>
          simp only [DequeueState.getBuffer, Option.bind_none, true_or, if_true]
          exact .failed
      | some b =>
          have hafter : ((st.toDequeueState.take (some b)).ref (some b)).getBuffer (some b) =
              st.egl.getBuffer b := rfl
          simp only [hafter]
          cases hrecord : st.egl.getBuffer b with
          | some reset => exact .reused (.inr (by simp [hrecord]))
          | none =>
              simp only [DequeueState.unref, DequeueState.ref, DequeueState.take]
              rw [WaylandEglSurface.unref_ref]
              split
              · exact .failed
              · split
                · exact .failed
                · exact .recorded hrecord

theorem Dequeues.of_backend (hbackend : st.backend ≠ .waylandEgl) (out : DequeueOutcome Buffer) :
    Dequeues st out (st.backendDequeue out).1 (st.backendDequeue out).2.egl := by
  show Dequeues st out (st.toDequeueState.backendDequeueBuffer out).1
    (st.toDequeueState.backendDequeueBuffer out).2.egl
  cases hb : st.backend with
  | waylandEgl => exact (hbackend hb).elim
  | waylandVulkanWsi =>
      simp only [DequeueState.backendDequeueBuffer, hb]
      exact .of_vk st out
  | gbm =>
      simp only [DequeueState.backendDequeueBuffer, hb]
      exact .of_gbm st out
  | tbm =>
      simp only [DequeueState.backendDequeueBuffer, hb]
      exact .of_tbm st out (.inl hb)
  | tbmVulkanWsi =>
      simp only [DequeueState.backendDequeueBuffer, hb]
      exact .of_tbm st out (.inr hb)

theorem refs_backendDequeue (hbackend : st.backend ≠ .waylandEgl) (out : DequeueOutcome Buffer)
    (x : Buffer) :
    (st.backendDequeue out).2.egl.refs x =
      st.egl.refs x + ((if (st.backendDequeue out).1 = some x then 1 else 0 : Nat) : Int) := by
  have hcases := Dequeues.of_backend hbackend out
  generalize (st.backendDequeue out).1 = result at hcases ⊢
  generalize (st.backendDequeue out).2.egl = egl at hcases ⊢
  cases hcases with
  | failed => simp
  | reused _ => simp only [refs_ref, Option.some_inj, eq_comm]
  | recorded _ =>
      show (st.egl.ref _).refs x = _
      simp only [refs_ref, Option.some_inj, eq_comm]

theorem refs_tbmSurface {st' : BackendSurface Buffer Fence} {event : TbmSurfaceEvent Buffer}
    (h : st.tbmSurface event = some st') :
    ∃ egl, st' = { st with egl := egl } ∧ egl.refs = st.egl.refs := by
  obtain ⟨egl, hegl, rfl⟩ := Option.map_eq_some_iff.mp h
  refine ⟨egl, rfl, ?_⟩
  cases event with
  | create b =>
      cases WaylandEglSurface.Fires.of_step hegl with
      | createTbmSurface => rfl
  | destroy b =>
      cases WaylandEglSurface.Fires.of_step hegl with
      | destroyTbmSurface => rfl

end BackendSurface

def windowSurface : TplSurface Nat := ⟨.window, false, none, 64, 64⟩

def gives (b : Nat) : DequeueOutcome Nat :=
  ⟨true, [], true, some b, true, none, true, true, true, true, true⟩

end LibtplEgl.BackendCalls
