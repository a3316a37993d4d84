import LibtplEgl.BackendEnqueue

namespace LibtplEgl.FailedEnqueue

open LibtplEgl.BackendEnqueue
open LibtplEgl.TplTypes
open LibtplEgl.WaylandEglSurface (EnqueueOutcome TsqError)

universe u v

section

variable {Buffer : Type u} {Fence : Type v}

/-- The references, the tracking of the buffers and the front buffer are as before. -/
structure Unchanged (st st' : SurfaceState Buffer Fence) : Prop where
  refs : st'.egl.refs = st.egl.refs
  dequeuedBuffers : st'.egl.dequeuedBuffers = st.egl.dequeuedBuffers
  attachedBuffers : st'.egl.attachedBuffers = st.egl.attachedBuffers
  frontbuffer : st'.surface.frontbuffer = st.surface.frontbuffer

theorem Unchanged.refl (st : SurfaceState Buffer Fence) : Unchanged st st := ⟨rfl, rfl, rfl, rfl⟩

/-- No check of the backend fails, nor a queue operation whose failure it reports. -/
def Accepts (st : SurfaceState Buffer Fence) (b : Buffer) (out : EnqueueOutcome Buffer) : Prop :=
  st.egl.isValid b = true ∧ match st.backend with
  | .waylandEgl => st.backendData = true ∧ (st.egl.getBuffer b = some true ∨
      st.egl.getBuffer b = some false ∧
        (out.enqueue = .unknownSurface ∨ out.enqueue = .errorNone ∧ out.acquire.isSome = true))
  | .waylandVulkanWsi => out.enqueue = .errorNone
  | .gbm => st.backendData = true ∧ st.egl.getBuffer b ≠ none ∧ st.tbmQueue = true ∧
      out.enqueue = .errorNone
  | .tbm => st.tbmQueue = true ∧ out.enqueue = .errorNone
  | .tbmVulkanWsi => True

/-- The backend fails before it has changed anything: wayland-egl stops tracking a
dequeued buffer before its later checks. -/
def RejectsEarly (st : SurfaceState Buffer Fence) (b : Buffer) (out : EnqueueOutcome Buffer) :
    Prop :=
  st.egl.isValid b = false ∨ match st.backend with
  | .waylandEgl => st.backendData = false ∨ b ∉ st.egl.dequeuedBuffers ∧
      (st.egl.getBuffer b = none ∨ st.egl.getBuffer b = some false ∧ out.enqueue = .other)
  | .gbm => st.backendData = false ∨ st.egl.getBuffer b = none
  | .waylandVulkanWsi | .tbm | .tbmVulkanWsi => False

/-- The call succeeds, or fails before it has changed anything; in front-buffer mode
the front buffer is set before the backend is called. -/
def FailsClean (st : SurfaceState Buffer Fence) (tbmSurface : Option Buffer)
    (out : EnqueueOutcome Buffer) : Prop :=
  st.surface.type = .window → ∀ b ∈ tbmSurface,
    (st.surface.isFrontbufferMode = true ∧ st.surface.frontbuffer = some b) ∨
      Accepts st b out ∨ (st.surface.isFrontbufferMode = false ∧ RejectsEarly st b out)

/-- The three ways out of `backend.enqueue_buffer`. -/
inductive BackendEffect (st : SurfaceState Buffer Fence) (b : Buffer)
    (out : EnqueueOutcome Buffer) : TplResult → SurfaceState Buffer Fence → Prop
  | accepted {st' : SurfaceState Buffer Fence} (haccepts : Accepts st b out) :
      BackendEffect st b out .errorNone st'
  | rejected {result : TplResult} {st' : SurfaceState Buffer Fence}
      (hresult : result ≠ .errorNone) (haccepts : ¬ Accepts st b out)
      (hearly : RejectsEarly st b out) (hegl : st'.egl.refs = st.egl.refs)
      (hdequeued : st'.egl.dequeuedBuffers = st.egl.dequeuedBuffers)
      (hattached : st'.egl.attachedBuffers = st.egl.attachedBuffers)
      (hsurface : st'.surface = st.surface) : BackendEffect st b out result st'
  | late {result : TplResult} {st' : SurfaceState Buffer Fence}
      (hresult : result ≠ .errorNone) (haccepts : ¬ Accepts st b out)
      (hearly : ¬ RejectsEarly st b out)
      (hchanged : st'.egl.refs ≠ st.egl.refs ∨
        st'.egl.dequeuedBuffers ≠ st.egl.dequeuedBuffers)
      (hsurface : st'.surface = st.surface) : BackendEffect st b out result st'

variable {st st' : SurfaceState Buffer Fence} {b : Buffer} {syncFence : Option Fence}
  {out : EnqueueOutcome Buffer} {result : TplResult}

theorem BackendEffect.result_iff (h : BackendEffect st b out result st') :
    result = .errorNone ↔ Accepts st b out := by
  cases h with
  | accepted haccepts => exact ⟨fun _ => haccepts, fun _ => rfl⟩
  | rejected hresult haccepts _ _ _ _ _ =>
      exact ⟨fun h => (hresult h).elim, fun h => (haccepts h).elim⟩
  | late hresult haccepts _ _ _ =>
      exact ⟨fun h => (hresult h).elim, fun h => (haccepts h).elim⟩

theorem BackendEffect.unchanged_iff (h : BackendEffect st b out result st') :
    (result ≠ .errorNone → Unchanged st st') ↔ Accepts st b out ∨ RejectsEarly st b out := by
  cases h with
  | accepted haccepts => exact ⟨fun _ => .inl haccepts, fun _ hne => (hne rfl).elim⟩
  | rejected hresult haccepts hearly hrefs hdequeued hattached hsurface =>
      refine ⟨fun _ => .inr hearly, fun _ _ => ?_⟩
      exact ⟨hrefs, hdequeued, hattached, by rw [hsurface]⟩
  | late hresult haccepts hearly hchanged hsurface =>
      constructor
      · intro hunchanged
        have hsame := hunchanged hresult
        rcases hchanged with hrefs | hdequeued
        · exact (hrefs hsame.refs).elim
        · exact (hdequeued hsame.dequeuedBuffers).elim
      · rintro (hyes | hyes)
        · exact (haccepts hyes).elim
        · exact (hearly hyes).elim

theorem BackendEffect.unchanged_setFrontbuffer_iff (hfront : st.surface.frontbuffer ≠ some b)
    (h : BackendEffect (st.setFrontbuffer b) b out result st') :
    (result ≠ .errorNone → Unchanged st st') ↔ Accepts st b out := by
  have hset : st'.surface = (st.setFrontbuffer b).surface → ¬ Unchanged st st' := by
    intro hsurface hunchanged
    have hfrontbuffer := hunchanged.frontbuffer
    rw [hsurface] at hfrontbuffer
    exact hfront hfrontbuffer.symm
  cases h with
  | accepted haccepts => exact ⟨fun _ => haccepts, fun _ hne => (hne rfl).elim⟩
  | rejected hresult haccepts _ _ _ _ hsurface =>
      exact ⟨fun hunchanged => (hset hsurface (hunchanged hresult)).elim,
        fun hyes => (haccepts hyes).elim⟩
  | late hresult haccepts _ _ hsurface =>
      exact ⟨fun hunchanged => (hset hsurface (hunchanged hresult)).elim,
        fun hyes => (haccepts hyes).elim⟩

theorem failsClean_some (hwindow : st.surface.type = .window) :
    FailsClean st (some b) out ↔
      (st.surface.isFrontbufferMode = true ∧ st.surface.frontbuffer = some b) ∨
        Accepts st b out ∨ (st.surface.isFrontbufferMode = false ∧ RejectsEarly st b out) := by
  simp [FailsClean, hwindow]

variable [DecidableEq Buffer]

theorem unref_refs_ne (egl : WaylandEglSurface.State Buffer) (b : Buffer) :
    (egl.unref b).refs ≠ egl.refs := by
  intro heq
  have hb := congrFun heq b
  simp only [WaylandEglSurface.State.unref, Function.update_self] at hb
  omega

theorem erase_ne {b : Buffer} {bs : List Buffer} (hmem : b ∈ bs) : bs.erase b ≠ bs := by
  intro heq
  have hlength := congrArg List.length heq
  have hpos := List.length_pos_of_mem hmem
  rw [List.length_erase_of_mem hmem] at hlength
  omega

theorem effect_erased (hbackend : st.backend = .waylandEgl) (hresult : result ≠ .errorNone)
    (haccepts : ¬ Accepts st b out) (hdata : st.backendData = true)
    (hvalid : st.egl.isValid b = true)
    (hreason : st.egl.getBuffer b = none ∨ st.egl.getBuffer b = some false ∧ out.enqueue = .other)
    (hrefs : st'.egl.refs = st.egl.refs)
    (hdequeued : st'.egl.dequeuedBuffers = st.egl.dequeuedBuffers.erase b)
    (hattached : st'.egl.attachedBuffers = st.egl.attachedBuffers)
    (hsurface : st'.surface = st.surface) : BackendEffect st b out result st' := by
  by_cases hmem : b ∈ st.egl.dequeuedBuffers
  · refine .late hresult haccepts ?_ (.inr ?_) hsurface
    · simp [RejectsEarly, hbackend, hdata, hvalid, hmem]
    · rw [hdequeued]
      exact erase_ne hmem
  · refine .rejected hresult haccepts (.inr ?_) hrefs ?_ hattached hsurface
    · simp only [hbackend]
      exact .inr ⟨hmem, hreason⟩
    · rw [hdequeued, List.erase_of_not_mem hmem]

theorem effect_waylandEgl (syncFence : Option Fence) {egl : WaylandEglSurface.State Buffer}
    (hbackend : st.backend = .waylandEgl) (hdata : st.backendData = true)
    (hvalid : st.egl.isValid b = true) (hegl : st.egl.enqueueBuffer b out = some (result, egl)) :
    BackendEffect st b out result { st.close syncFence with egl := egl } := by
  have hget : WaylandEglSurface.State.getBuffer
      { st.egl with dequeuedBuffers := st.egl.dequeuedBuffers.erase b } b =
        st.egl.getBuffer b := rfl
  cases hbuffer : st.egl.getBuffer b with
  | none =>
      simp only [WaylandEglSurface.State.enqueueBuffer, hget, hbuffer] at hegl
      cases hegl
      exact effect_erased hbackend (by decide) (by simp [Accepts, hbackend, hbuffer]) hdata hvalid
        (.inl hbuffer) rfl rfl rfl rfl
  | some reset =>
      cases reset with
      | true =>
          simp only [WaylandEglSurface.State.enqueueBuffer, hget, hbuffer,
            WaylandEglSurface.State.commit, Option.map_some] at hegl
          cases hegl
          exact .accepted (by simp [Accepts, hbackend, hbuffer, hdata, hvalid])
      | false =>
          cases henqueue : out.enqueue with
          | errorNone =>
              cases hacquire : out.acquire with
              | none =>
                  simp only [WaylandEglSurface.State.enqueueBuffer, hget, hbuffer, henqueue,
                    hacquire] at hegl
                  cases hegl
                  refine .late (by decide) ?_ ?_ (.inl (unref_refs_ne _ b)) rfl
                  · simp [Accepts, hbackend, hbuffer, henqueue, hacquire]
                  · simp [RejectsEarly, hbackend, hbuffer, henqueue, hdata, hvalid]
              | some acquired =>
                  simp only [WaylandEglSurface.State.enqueueBuffer, hget, hbuffer, henqueue,
                    hacquire] at hegl
                  obtain ⟨_, _, hst⟩ := Option.map_eq_some_iff.mp hegl
                  cases hst
                  exact .accepted (by
                    simp [Accepts, hbackend, hbuffer, henqueue, hacquire, hdata, hvalid])
          | unknownSurface =>
              simp only [WaylandEglSurface.State.enqueueBuffer, hget, hbuffer, henqueue,
                WaylandEglSurface.State.commit, WaylandEglSurface.getBuffer_callQueue,
                Option.map_some] at hegl
              cases hegl
              exact .accepted (by simp [Accepts, hbackend, hbuffer, henqueue, hdata, hvalid])
          | other =>
              simp only [WaylandEglSurface.State.enqueueBuffer, hget, hbuffer, henqueue] at hegl
              cases hegl
              exact effect_erased hbackend (by decide)
                (by simp [Accepts, hbackend, hbuffer, henqueue]) hdata hvalid
                (.inr ⟨hbuffer, henqueue⟩) rfl rfl rfl rfl

theorem effect_backend (h : st.Exits b syncFence out result st') :
    BackendEffect st b out result st' := by
  cases h with
  | noData hbackend hdata =>
      rcases hbackend with hbackend | hbackend
      · exact .rejected nofun (by simp [Accepts, hbackend, hdata])
          (by simp [RejectsEarly, hbackend, hdata]) rfl rfl rfl rfl
      · exact .rejected nofun (by simp [Accepts, hbackend, hdata])
          (by simp [RejectsEarly, hbackend, hdata]) rfl rfl rfl rfl
  | invalid hvalid =>
      exact .rejected nofun (by simp [Accepts, hvalid]) (.inl hvalid) rfl rfl rfl rfl
  | waylandEgl hbackend hdata hvalid hegl =>
      exact effect_waylandEgl syncFence hbackend hdata hvalid hegl
  | vkAccepted hbackend hvalid henqueue =>
      exact .accepted (by simp [Accepts, hbackend, hvalid, henqueue])
  | vkRejected hbackend hvalid henqueue =>
      exact .late nofun (by simp [Accepts, hbackend, henqueue])
        (by simp [RejectsEarly, hbackend, hvalid]) (.inl (unref_refs_ne _ b)) rfl
  | gbmNoRecord hbackend hbuffer =>
      exact .rejected nofun (by simp [Accepts, hbackend, hbuffer])
        (by simp [RejectsEarly, hbackend, hbuffer]) rfl rfl rfl rfl
  | gbmNoQueue hbackend hdata hvalid hbuffer hqueue =>
      exact .late nofun (by simp [Accepts, hbackend, hqueue])
        (by simp [RejectsEarly, hbackend, hdata, hvalid, hbuffer]) (.inl (unref_refs_ne _ b)) rfl
  | gbmAccepted hbackend hdata hvalid hbuffer hqueue henqueue =>
      exact .accepted (by simp [Accepts, hbackend, hdata, hvalid, hbuffer, hqueue, henqueue])
  | gbmRejected hbackend hdata hvalid hbuffer hqueue henqueue =>
      exact .late nofun (by simp [Accepts, hbackend, henqueue])
        (by simp [RejectsEarly, hbackend, hdata, hvalid, hbuffer]) (.inl (unref_refs_ne _ b)) rfl
  | tbmStored hbackend hvalid => exact .accepted (by simp [Accepts, hbackend, hvalid])
  | tbmNoQueue hbackend hvalid hqueue =>
      exact .late nofun (by simp [Accepts, hbackend, hqueue])
        (by simp [RejectsEarly, hbackend, hvalid]) (.inl (unref_refs_ne _ b)) rfl
  | tbmAccepted hbackend hvalid hqueue henqueue =>
      exact .accepted (by simp [Accepts, hbackend, hvalid, hqueue, henqueue])
  | tbmRejected hbackend hvalid hqueue henqueue =>
      exact .late nofun (by simp [Accepts, hbackend, henqueue])
        (by simp [RejectsEarly, hbackend, hvalid]) (.inl (unref_refs_ne _ b)) rfl

/-- An enqueue that returns an error leaves everything as it was in exactly the calls
that fail before the first change, if they fail. -/
theorem failedEnqueue_unchanged_iff {tbmSurface : Option Buffer}
    (h : st.enqueueBuffer tbmSurface syncFence out = some (result, st')) :
    (result ≠ .errorNone → Unchanged st st') ↔ FailsClean st tbmSurface out := by
  unfold SurfaceState.enqueueBuffer at h
  split at h
  · rename_i htype
    cases h
    exact ⟨fun _ hwindow => (htype hwindow).elim, fun _ _ => .refl st⟩
  · rename_i htype
    have hwindow : st.surface.type = .window := not_not.mp htype
    split at h
    · cases h
      exact ⟨fun _ _ => nofun, fun _ _ => .refl st⟩
    · rename_i b
      rw [failsClean_some hwindow]
      split at h
      · rename_i hmode
        split at h
        · rename_i hfront
          cases h
          exact ⟨fun _ => .inl ⟨hmode, hfront⟩, fun _ hne => (hne rfl).elim⟩
        · rename_i hfront
          have hfrontWindow : (st.setFrontbuffer b).surface.type = .window := hwindow
          have heffect := effect_backend (.of_backend hfrontWindow h)
          rw [heffect.unchanged_setFrontbuffer_iff hfront]
          simp [hmode, hfront]
      · rename_i hmode
        rw [(effect_backend (.of_backend hwindow h)).unchanged_iff]
        simp [hmode]

end

def dequeuedOne (isFrontbufferMode : Bool) : SurfaceState Nat Nat where
  backend := .waylandEgl
  surface := ⟨.window, isFrontbufferMode, none, 64, 64⟩
  backendData := true
  tbmQueue := true
  egl := { WaylandEglSurface.newSurface (fun b => b == 1) (fun _ => some false) with
    dequeuedBuffers := [1], refs := fun _ => 1 }
  waitSync := fun _ => none
  enqueued := fun _ => false
  waiting := []
  closed := []

/-- A tbm_surface that is not valid is rejected before the first change. -/
theorem failedEnqueue_unchanged_invalid :
    ∃ st', (dequeuedOne false).enqueueBuffer (some 2) none ⟨.errorNone, none, true⟩ =
      some (.errorInvalidParameter, st') ∧ Unchanged (dequeuedOne false) st' := by
  have h : (dequeuedOne false).enqueueBuffer (some 2) none ⟨.errorNone, none, true⟩ =
      some (.errorInvalidParameter, dequeuedOne false) := rfl
  have hclean : FailsClean (dequeuedOne false) (some 2) ⟨.errorNone, none, true⟩ := by
    rintro - _ ⟨⟩
    exact .inr (.inr ⟨rfl, .inl rfl⟩)
  exact ⟨_, h, (failedEnqueue_unchanged_iff h).mpr hclean nofun⟩

/-- The acquire after the enqueue fails. -/
theorem failedEnqueue_not_unchanged :
    ¬ ∀ (st st' : SurfaceState Nat Nat) (tbmSurface : Option Nat) (syncFence : Option Nat)
      (out : EnqueueOutcome Nat) (result : TplResult),
      st.enqueueBuffer tbmSurface syncFence out = some (result, st') → result ≠ .errorNone →
        Unchanged st st' := by
  intro hall
  have hdequeued := (hall (dequeuedOne false) _ (some 1) none ⟨.errorNone, none, true⟩ _ rfl
    nofun).dequeuedBuffers
  cases hdequeued

end LibtplEgl.FailedEnqueue
