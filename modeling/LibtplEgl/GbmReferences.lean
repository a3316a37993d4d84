import LibtplEgl.BackendCalls
import LibtplEgl.LabelledSystem

namespace LibtplEgl.GbmReferences

open LibtplEgl.BackendCalls
open LibtplEgl.BackendEnqueue
open LibtplEgl.BufferReferences (count_append_singleton count_erase_add refs_unref)
open LibtplEgl.FailedDequeue (DequeueOutcome)
open LibtplEgl.FrontbufferMode (TplSurface)
open LibtplEgl.LabelledSystem
open LibtplEgl.TplTypes
open LibtplEgl.WaylandEglSurface (EnqueueOutcome)

universe u

/-- A `tpl_gbm_surface_t`. The last two fields record the run: what the client has
dequeued and not enqueued since, and what it has dequeued and neither an enqueue that
got past its checks nor a fini has dropped since. -/
structure State (Buffer : Type u) extends BackendSurface Buffer Unit where
  currentBuffer : Option Buffer
  held : List Buffer
  lent : List Buffer

inductive InitOutcome
  | failed
  | window
  | pixmap
  deriving DecidableEq, Repr

inductive Label (Buffer : Type u)
  | tbmSurface (event : TbmSurfaceEvent Buffer)
  | surfaceInit (outcome : InitOutcome)
  | dequeueBuffer (out : DequeueOutcome Buffer)
  | enqueueBuffer (b : Buffer) (syncFence : Option Unit) (out : EnqueueOutcome Buffer)
  | surfaceFini
  deriving DecidableEq, Repr

section

variable {Buffer : Type u}

/-- `__tpl_gbm_surface_init`, for a surface without backend data. -/
def State.surfaceInit (st : State Buffer) : InitOutcome → State Buffer
  | .failed => st
  | .window => { st with backendData := true, tbmQueue := true, currentBuffer := none }
  | .pixmap => { st with backendData := true, tbmQueue := false, currentBuffer := none }

/-- The enqueue gets as far as `tbm_surface_internal_unref`. -/
def State.passesChecks (st : State Buffer) (b : Buffer) : Bool :=
  st.backendData && (st.egl.getBuffer b).isSome

variable [DecidableEq Buffer]

/-- `__tpl_gbm_surface_dequeue_buffer`, which keeps a buffer that it sees for the first
time in `current_buffer`. -/
def State.dequeueBuffer (st : State Buffer) (out : DequeueOutcome Buffer) : State Buffer :=
  let (result, after) := st.toBackendSurface.backendDequeue out
  match result with
  | none => { st with toBackendSurface := after }
  | some b =>
      { st with
        toBackendSurface := after
        currentBuffer := if st.egl.getBuffer b = none then some b else st.currentBuffer
        held := st.held ++ [b]
        lent := st.lent ++ [b] }

/-- `__tpl_gbm_surface_enqueue_buffer`. -/
def State.enqueueBuffer (st : State Buffer) (b : Buffer) (syncFence : Option Unit)
    (out : EnqueueOutcome Buffer) : Option (State Buffer) :=
  (st.toBackendSurface.backendEnqueue b syncFence out).map fun (_, after) =>
    { st with
      toBackendSurface := after
      held := st.held.erase b
      lent := if st.passesChecks b then st.lent.erase b else st.lent }

/-- `__tpl_gbm_surface_fini`. -/
def State.surfaceFini (st : State Buffer) : State Buffer :=
  if st.backendData = false then st
  else match st.currentBuffer with
    | none => { st with backendData := false }
    | some b =>
        { st with
          egl := st.egl.unref b
          backendData := false
          currentBuffer := none
          lent := st.lent.erase b }

/-- One step. The client enqueues what it has dequeued and not enqueued since. -/
def step (st : State Buffer) : Label Buffer → Option (State Buffer)
  | .tbmSurface event =>
      (st.toBackendSurface.tbmSurface event).map fun after => { st with toBackendSurface := after }
  | .surfaceInit outcome => if st.backendData then none else some (st.surfaceInit outcome)
  | .dequeueBuffer out => if st.backendData then some (st.dequeueBuffer out) else none
  | .enqueueBuffer b syncFence out =>
      if b ∈ st.held then st.enqueueBuffer b syncFence out else none
  | .surfaceFini => some st.surfaceFini

def newSurface (surface : TplSurface Buffer) (isValid : Buffer → Bool)
    (bufferSize : Buffer → Int × Int) : State Buffer where
  backend := .gbm
  surface := surface
  backendData := false
  tbmQueue := false
  egl := WaylandEglSurface.newSurface isValid fun _ => none
  waitSync := fun _ => none
  enqueued := fun _ => false
  waiting := []
  closed := []
  windowSize := (0, 0)
  bufferSize := bufferSize
  taken := []
  nullRefs := 0
  currentBuffer := none
  held := []
  lent := []

def gbmSystem : System (State Buffer) (Label Buffer) where
  Initial st := ∃ surface isValid bufferSize, st = newSurface surface isValid bufferSize
  step := step

/-- TPL has not dropped more references than it took. -/
def NotOverDropped (st : State Buffer) : Prop := ∀ b, 0 ≤ st.egl.refs b

/-- An enqueue that gets past its checks gives back a buffer that is lent, and a fini
comes while `current_buffer` is NULL or lent. -/
def DropsLent (st : State Buffer) : Label Buffer → Prop
  | .enqueueBuffer b _ _ => st.passesChecks b = true → b ∈ st.lent
  | .surfaceFini => st.backendData = true → ∀ b ∈ st.currentBuffer, b ∈ st.lent
  | _ => True

/-- The references that TPL has are those to the buffers that are lent. -/
structure Inv (st : State Buffer) : Prop where
  backend : st.backend = .gbm
  refs : ∀ b, st.egl.refs b = st.lent.count b

theorem Inv.notOverDropped {st : State Buffer} (h : Inv st) : NotOverDropped st := by
  intro b
  rw [h.refs b]
  exact Int.natCast_nonneg _

theorem inv_newSurface (surface : TplSurface Buffer) (isValid : Buffer → Bool)
    (bufferSize : Buffer → Int × Int) : Inv (newSurface surface isValid bufferSize) :=
  ⟨rfl, fun _ => rfl⟩

theorem Inv.dequeueBuffer {st : State Buffer} (h : Inv st) (out : DequeueOutcome Buffer) :
    Inv (st.dequeueBuffer out) := by
  have hbackend : st.toBackendSurface.backend ≠ .waylandEgl := by
    rw [h.backend]
    nofun
  have hrefs := BackendSurface.refs_backendDequeue hbackend out
  have hsame : (st.toBackendSurface.backendDequeue out).2.backend = .gbm := h.backend
  unfold State.dequeueBuffer
  generalize st.toBackendSurface.backendDequeue out = called at hrefs hsame
  obtain ⟨result, after⟩ := called
  cases result with
  | none =>
      refine ⟨hsame, fun x => ?_⟩
      show after.egl.refs x = st.lent.count x
      rw [hrefs x, h.refs x]
      simp
  | some b =>
      refine ⟨hsame, fun x => ?_⟩
      show after.egl.refs x = (st.lent ++ [b]).count x
      rw [hrefs x, h.refs x, count_append_singleton]
      simp only [Option.some_inj, eq_comm, Int.natCast_add]

theorem enqueueBuffer_effect {st st' : State Buffer} {b : Buffer} {syncFence : Option Unit}
    {out : EnqueueOutcome Buffer} (hbackend : st.backend = .gbm)
    (hstep : st.enqueueBuffer b syncFence out = some st') :
    st'.backend = .gbm ∧
      (st.passesChecks b = true ∧ st'.egl.refs = (st.egl.unref b).refs ∧
          st'.lent = st.lent.erase b ∨
        st.passesChecks b = false ∧ st'.egl.refs = st.egl.refs ∧ st'.lent = st.lent) := by
  simp only [State.enqueueBuffer, BackendSurface.backendEnqueue,
    SurfaceState.backendEnqueueBuffer, hbackend] at hstep
  obtain ⟨⟨result, surface⟩, hsurface, rfl⟩ := Option.map_eq_some_iff.mp hstep
  obtain ⟨⟨result', inner⟩, hinner, heq⟩ := Option.map_eq_some_iff.mp hsurface
  cases heq
  have hexit := SurfaceState.Exits.of_gbm hbackend hinner
  refine ⟨hexit.backend_eq.trans hbackend, ?_⟩
  have hrefused : st.passesChecks b = false → inner.egl.refs = st.egl.refs →
      _ ∧ _ ∧ (if st.passesChecks b then st.lent.erase b else st.lent) = st.lent :=
    fun hpasses hrefs => ⟨hpasses, hrefs, by rw [hpasses]; rfl⟩
  have haccepted : st.backendData = true → st.egl.getBuffer b ≠ none →
      inner.egl.refs = (st.egl.unref b).refs → st.passesChecks b = true ∧
        inner.egl.refs = (st.egl.unref b).refs ∧
        (if st.passesChecks b then st.lent.erase b else st.lent) = st.lent.erase b := by
    intro hdata hrecord hrefs
    have hpasses : st.passesChecks b = true := by
      simp [State.passesChecks, hdata, Option.isSome_iff_ne_none.mpr hrecord]
    exact ⟨hpasses, hrefs, by rw [hpasses]; rfl⟩
  cases hexit with
  | noData _ hdata => exact .inr (hrefused (by simp [State.passesChecks, hdata]) rfl)
  | invalid hvalid =>
      have hnone : st.egl.getBuffer b = none := by
        simp [WaylandEglSurface.State.getBuffer, hvalid]
      exact .inr (hrefused (by simp [State.passesChecks, hnone]) rfl)
  | gbmNoRecord _ hbuffer =>
      exact .inr (hrefused (by simp [State.passesChecks, hbuffer]) rfl)
  | gbmNoQueue _ hdata _ hbuffer _ => exact .inl (haccepted hdata hbuffer rfl)
  | gbmAccepted _ hdata _ hbuffer _ _ => exact .inl (haccepted hdata hbuffer rfl)
  | gbmRejected _ hdata _ hbuffer _ _ => exact .inl (haccepted hdata hbuffer rfl)
  | waylandEgl hother | vkAccepted hother | vkRejected hother | tbmStored hother
  | tbmNoQueue hother | tbmAccepted hother | tbmRejected hother => cases hbackend.symm.trans hother

theorem Inv.refs_unref_lent {st : State Buffer} (h : Inv st) {b : Buffer} (hlent : b ∈ st.lent)
    (x : Buffer) : (st.egl.unref b).refs x = (st.lent.erase b).count x := by
  have hcount := count_erase_add hlent x
  rw [refs_unref, h.refs x]
  omega

theorem Inv.mem_lent {st : State Buffer} (h : Inv st) {b : Buffer}
    (hrefs : 0 ≤ (st.egl.unref b).refs b) : b ∈ st.lent := by
  rw [refs_unref, h.refs b] at hrefs
  simp only [if_true] at hrefs
  exact List.count_pos_iff.mp (by omega)

theorem Inv.surfaceFini {st : State Buffer} (h : Inv st)
    (hallowed : st.backendData = true → ∀ b ∈ st.currentBuffer, b ∈ st.lent) :
    Inv st.surfaceFini := by
  unfold State.surfaceFini
  split
  · exact h
  · rename_i hdata
    cases hcurrent : st.currentBuffer with
    | none => exact ⟨h.backend, h.refs⟩
    | some b =>
        have hlent := hallowed (Bool.of_not_eq_false hdata) b hcurrent
        exact ⟨h.backend, h.refs_unref_lent hlent⟩

theorem inv_step {st st' : State Buffer} {l : Label Buffer} (h : Inv st)
    (hallowed : DropsLent st l) (hstep : step st l = some st') : Inv st' := by
  cases l with
  | tbmSurface event =>
      obtain ⟨after, hafter, rfl⟩ := Option.map_eq_some_iff.mp hstep
      obtain ⟨egl, rfl, hrefs⟩ := BackendSurface.refs_tbmSurface hafter
      exact ⟨h.backend, fun x => (congrFun hrefs x).trans (h.refs x)⟩
  | surfaceInit outcome =>
      simp only [step] at hstep
      split at hstep
      · cases hstep
      · cases hstep
        cases outcome with
        | failed | window | pixmap => exact ⟨h.backend, h.refs⟩
  | dequeueBuffer out =>
      simp only [step] at hstep
      split at hstep
      · cases hstep
        exact h.dequeueBuffer out
      · cases hstep
  | enqueueBuffer b syncFence out =>
      simp only [step] at hstep
      split at hstep
      · obtain ⟨hbackend, heffect⟩ := enqueueBuffer_effect h.backend hstep
        refine ⟨hbackend, fun x => ?_⟩
        rcases heffect with ⟨hpasses, hrefs, hlent⟩ | ⟨-, hrefs, hlent⟩
        · rw [hrefs, hlent]
          exact h.refs_unref_lent (hallowed hpasses) x
        · rw [hrefs, hlent]
          exact h.refs x
      · cases hstep
  | surfaceFini =>
      cases hstep
      exact h.surfaceFini hallowed

theorem dropsLent_of_notOverDropped {st st' : State Buffer} {l : Label Buffer} (h : Inv st)
    (hstep : step st l = some st') (hnot : NotOverDropped st') : DropsLent st l := by
  cases l with
  | tbmSurface _ | surfaceInit _ | dequeueBuffer _ => trivial
  | enqueueBuffer b syncFence out =>
      intro hpasses
      simp only [step] at hstep
      split at hstep
      · rcases (enqueueBuffer_effect h.backend hstep).2 with ⟨-, hrefs, -⟩ | ⟨hrefused, -, -⟩
        · have hb := hnot b
          rw [hrefs] at hb
          exact h.mem_lent hb
        · cases hpasses.symm.trans hrefused
      · cases hstep
  | surfaceFini =>
      intro hdata b hcurrent
      cases hstep
      have hb := hnot b
      simp only [State.surfaceFini, hdata, Bool.true_eq_false, if_false,
        Option.mem_def.mp hcurrent] at hb
      exact h.mem_lent hb

/-- TPL never drops more references than it took in exactly the runs in which enqueue
and fini drop references to buffers that are lent. -/
theorem notOverDropped_iff (surface : TplSurface Buffer) (isValid : Buffer → Bool)
    (bufferSize : Buffer → Int × Int) (ls : List (Label Buffer)) (st : State Buffer)
    (hrun : gbmSystem.run (newSurface surface isValid bufferSize) ls = some st) :
    gbmSystem.Always NotOverDropped (newSurface surface isValid bufferSize) ls ↔
      gbmSystem.EveryStep DropsLent (newSurface surface isValid bufferSize) ls := by
  refine System.always_iff_everyStep (inv_newSurface surface isValid bufferSize) hrun ?_ ?_ ?_
  · intro _ _ _ hinv hallowed hstep
    exact inv_step hinv hallowed hstep
  · intro _ hinv
    exact hinv.notOverDropped
  · intro _ _ _ hinv hstep hnot
    exact dropsLent_of_notOverDropped hinv hstep hnot

def newWindow : State Nat := newSurface windowSurface (fun _ => false) fun _ => (64, 64)

/-- The surface is finished while the client has `current_buffer`. -/
def finiWhileHeld : List (Label Nat) :=
  [.tbmSurface (.create 1), .surfaceInit .window, .dequeueBuffer (gives 1),
    .enqueueBuffer 1 none ⟨.errorNone, none, true⟩, .dequeueBuffer (gives 1), .surfaceFini]

theorem notOverDropped_finiWhileHeld :
    ∃ st, gbmSystem.run newWindow finiWhileHeld = some st ∧
      (gbmSystem.Always NotOverDropped newWindow finiWhileHeld ↔
        gbmSystem.EveryStep DropsLent newWindow finiWhileHeld) := by
  obtain ⟨st, hrun, -⟩ := gbmSystem.exists_of_run
    (fun st => st.egl.refs 1 = 0 ∧ st.held = [1] ∧ st.lent = []) newWindow finiWhileHeld
    (by decide)
  exact ⟨st, hrun, notOverDropped_iff windowSurface _ _ finiWhileHeld st hrun⟩

/-- The enqueue drops the reference of the first dequeue, and the fini drops another. -/
theorem overDropped :
    ¬ ∀ st : State Nat, gbmSystem.Reachable st → NotOverDropped st := by
  intro hall
  obtain ⟨st, hrun, hrefs⟩ := gbmSystem.exists_of_run (fun st => st.egl.refs 1 = -1) newWindow
    [.tbmSurface (.create 1), .surfaceInit .window, .dequeueBuffer (gives 1),
      .enqueueBuffer 1 none ⟨.errorNone, none, true⟩, .surfaceFini] (by decide)
  have hnot := hall st (.of_run (.initial ⟨_, _, _, rfl⟩) hrun) 1
  rw [hrefs] at hnot
  exact absurd hnot (by decide)

end

end LibtplEgl.GbmReferences
