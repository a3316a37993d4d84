import LibtplEgl.BufferReferences

namespace LibtplEgl.BufferRelease

open LibtplEgl.BufferReferences
open LibtplEgl.LabelledSystem
open LibtplEgl.TplTypes

universe u

/-- A surface up to and after its fini. `freed` tells that `wayland_egl_surface` is
freed, `readFreed` that a release callback has read it since. `commits` and `drops`
list the tbm_surfaces of the commits and of the unreferences of the release callback,
the flush callback and the fini, and `untracked` the commits that found no memory for
a node of `attached_buffers` and have not been released. -/
structure RunState (Buffer : Type u) where
  surface : WaylandEglSurface.State Buffer
  freed : Bool
  readFreed : Bool
  commits : List Buffer
  drops : List Buffer
  untracked : List Buffer

/-- The steps of the wayland-egl model, where a tbm_surface lives on without TPL's
references as long as code outside TPL holds one, and two more ways to drop them. -/
inductive Label (Buffer : Type u)
  | surface (l : WaylandEglSurface.Label Buffer)
  | flush (resets : Bool)
  | fini
  deriving DecidableEq, Repr

def pushed {Buffer : Type u} : WaylandEglSurface.Label Buffer → Bool
  | .enqueueEnd out => out.pushed
  | _ => true

section

variable {Buffer : Type u} [DecidableEq Buffer]

/-- Both loops over `attached_buffers`: pop the front and unreference it. -/
def unrefAttached (st : WaylandEglSurface.State Buffer) : WaylandEglSurface.State Buffer :=
  { st.attachedBuffers.foldl WaylandEglSurface.State.unref st with attachedBuffers := [] }

/-- `__cb_tizen_surface_shm_flusher_flush_callback` after its dispatch;
`tbm_surface_queue_flush` may run the reset callback. -/
def flushCallback (st : WaylandEglSurface.State Buffer) (resets : Bool) :
    WaylandEglSurface.State Buffer :=
  unrefAttached (if resets then st.resetCallback else st)

/-- `__tpl_wayland_egl_surface_fini` after its dispatch. -/
def surfaceFini (st : WaylandEglSurface.State Buffer) : WaylandEglSurface.State Buffer :=
  { unrefAttached st with dequeuedBuffers := [] }

/-- The release event of a commit. The wl_buffer and its events live as long as the
tbm_surface. -/
def RunState.release (st : RunState Buffer) (b : Buffer) : RunState Buffer :=
  { st with
    surface := WaylandEglSurface.State.releaseCallback
      { st.surface with committed := st.surface.committed.erase b } b
    readFreed := st.readFreed ||
      (st.freed && st.surface.isValid b && (st.surface.getBuffer b).isSome)
    drops := if st.surface.isValid b then b :: st.drops else st.drops
    untracked :=
      if b ∈ st.surface.attachedBuffers then st.untracked else st.untracked.erase b }

/-- A call, or a callback other than the release event. -/
def RunState.call (st : RunState Buffer) (l : WaylandEglSurface.Label Buffer)
    (surface : WaylandEglSurface.State Buffer) : RunState Buffer :=
  let new := surface.committed.drop st.surface.committed.length
  { st with
    surface := surface
    commits := st.commits ++ new
    untracked := if pushed l then st.untracked else st.untracked ++ new }

def RunState.step (st : RunState Buffer) : Label Buffer → Option (RunState Buffer)
  | .surface (.release b) =>
      if b ∈ st.surface.committed then some (st.release b) else none
  | .surface (.destroyTbmSurface b) =>
      (WaylandEglSurface.step st.surface (.destroyTbmSurface b)).map fun surface =>
        { st with surface := { surface with committed := surface.committed.filter (· ≠ b) } }
  | .surface (.createTbmSurface b) =>
      (WaylandEglSurface.step st.surface (.createTbmSurface b)).map fun surface =>
        { st with surface := surface }
  | .surface l =>
      if st.freed then none
      else (WaylandEglSurface.step st.surface l).map (st.call l)
  | .flush resets =>
      if st.freed then none
      else some { st with
        surface := flushCallback st.surface resets
        drops := st.surface.attachedBuffers ++ st.drops }
  | .fini =>
      match st.freed, st.surface.call with
      | false, .none => some { st with
          surface := surfaceFini st.surface
          freed := true
          drops := st.surface.attachedBuffers ++ st.drops }
      | _, _ => none

def runSystem : System (RunState Buffer) (Label Buffer) where
  Initial st := ∃ isValid buffer,
    st = ⟨WaylandEglSurface.newSurface isValid buffer, false, false, [], [], []⟩
  step := RunState.step

/-- No more commit references are dropped than were left, and freed memory is not read. -/
structure DroppedOnce (st : RunState Buffer) : Prop where
  drops_le : ∀ b, st.drops.count b ≤ st.commits.count b
  notRead : st.readFreed = false

omit [DecidableEq Buffer] in
/-- A release event comes while its tbm_surface is in `attached_buffers`, or before the
fini for a commit that was not tracked. -/
def ReleasesOwed (st : RunState Buffer) : Label Buffer → Prop
  | .surface (.release b) =>
      b ∈ st.surface.attachedBuffers ∨ b ∈ st.untracked ∧ st.freed = false
  | _ => True

/-- Every commit has its place in `attached_buffers`, was not tracked or was dropped, and
the tbm_surfaces with release events to come are alive and have their buffer records. -/
structure Inv (st : RunState Buffer) : Prop where
  counted : ∀ b, st.commits.count b =
    st.drops.count b + st.surface.attachedBuffers.count b + st.untracked.count b
  freed : st.freed = true → st.surface.attachedBuffers = []
  recorded : ∀ b ∈ st.surface.committed, (st.surface.getBuffer b).isSome = true
  notRead : st.readFreed = false

theorem Inv.droppedOnce {st : RunState Buffer} (h : Inv st) : DroppedOnce st :=
  ⟨fun b => by have hcounted := h.counted b; omega, h.notRead⟩

theorem foldl_unref (st : WaylandEglSurface.State Buffer) (bs : List Buffer) :
    ∃ refs, bs.foldl WaylandEglSurface.State.unref st = { st with refs := refs } := by
  induction bs generalizing st with
  | nil => exact ⟨st.refs, rfl⟩
  | cons b bs ih =>
      obtain ⟨refs, hrefs⟩ := ih (st.unref b)
      exact ⟨refs, hrefs⟩

theorem unrefAttached_same (st : WaylandEglSurface.State Buffer) :
    (unrefAttached st).attachedBuffers = [] ∧ (unrefAttached st).committed = st.committed ∧
      ∀ b, (unrefAttached st).getBuffer b = st.getBuffer b := by
  obtain ⟨refs, hrefs⟩ := foldl_unref st st.attachedBuffers
  rw [unrefAttached, hrefs]
  exact ⟨rfl, rfl, fun _ => rfl⟩

omit [DecidableEq Buffer] in
/-- A step of the surface commits `new`, tracks it if there is memory, and keeps every
buffer record. -/
structure Commits (st st' : WaylandEglSurface.State Buffer) (new : List Buffer)
    (pushed : Bool) : Prop where
  attached : st'.attachedBuffers = st.attachedBuffers ++ if pushed then new else []
  committed : st'.committed = st.committed ++ new
  recorded : ∀ b, (st.getBuffer b).isSome = true → (st'.getBuffer b).isSome = true
  newRecorded : ∀ b ∈ new, (st'.getBuffer b).isSome = true

omit [DecidableEq Buffer] in
theorem commits_nil {st st' : WaylandEglSurface.State Buffer} {pushed : Bool}
    (hattached : st'.attachedBuffers = st.attachedBuffers)
    (hcommitted : st'.committed = st.committed)
    (hrecorded : ∀ b, (st.getBuffer b).isSome = true → (st'.getBuffer b).isSome = true) :
    Commits st st' [] pushed :=
  ⟨by rw [hattached, ite_self, List.append_nil], by rw [hcommitted, List.append_nil], hrecorded,
    nofun⟩

theorem commits_enqueueBuffer {st st' : WaylandEglSurface.State Buffer} {b : Buffer}
    {out : WaylandEglSurface.EnqueueOutcome Buffer} {result : TplResult}
    (h : st.enqueueBuffer b out = some (result, st')) :
    ∃ new, Commits st st' new out.pushed := by
  rcases WaylandEglSurface.enqueueBuffer_cases h with
    ⟨-, hrecord, rfl⟩ | ⟨-, acquired, -, hrecord, rfl⟩ | ⟨-, rfl⟩ | ⟨-, rfl⟩
  · refine ⟨[b], WaylandEglSurface.pushBack_eq _ _ _, rfl, fun _ => id, fun c hc => ?_⟩
    obtain rfl := List.mem_singleton.mp hc
    exact hrecord
  · refine ⟨[acquired], WaylandEglSurface.pushBack_eq _ _ _, rfl, fun _ => id, fun c hc => ?_⟩
    obtain rfl := List.mem_singleton.mp hc
    exact hrecord
  · exact ⟨[], commits_nil rfl rfl fun _ => id⟩
  · exact ⟨[], commits_nil rfl rfl fun _ => id⟩

def callStep : WaylandEglSurface.Label Buffer → Bool
  | .release _ | .createTbmSurface _ | .destroyTbmSurface _ => false
  | _ => true

theorem commits_step {st st' : WaylandEglSurface.State Buffer}
    {l : WaylandEglSurface.Label Buffer} (hl : callStep l = true)
    (h : WaylandEglSurface.step st l = some st') : ∃ new, Commits st st' new (pushed l) := by
  cases WaylandEglSurface.Fires.of_step h with
  | createTbmSurface | destroyTbmSurface | release => cases hl
  | resize => exact ⟨[], commits_nil rfl rfl fun _ => id⟩
  | queueReset =>
      have hsame := sameTracking_resetCallback st
      exact ⟨[], commits_nil hsame.attached hsame.committed hsame.recorded⟩
  | dequeueBegin =>
      have hsame := sameTracking_applyResize st
      exact ⟨[], commits_nil hsame.attached hsame.committed hsame.recorded⟩
  | dequeueWaitFailed => exact ⟨[], commits_nil rfl rfl fun _ => id⟩
  | dequeueFailed hresult => exact ⟨[], commits_nil rfl rfl fun _ => id⟩
  | @dequeued out b hvalid hresult =>
      have hrecord : ∀ c, ((st.ref b).getBuffer c).isSome = true →
          (((st.ref b).setBufferReset b false).getBuffer c).isSome = true :=
        fun _ => getBuffer_setBufferReset
      exact ⟨[], commits_nil rfl rfl hrecord⟩
  | enqueueBegin => exact ⟨[], commits_nil rfl rfl fun _ => id⟩
  | enqueueInvalid => exact ⟨[], commits_nil rfl rfl fun _ => id⟩
  | enqueueEnd hcall hresult =>
      obtain ⟨new, hnew⟩ := commits_enqueueBuffer hresult
      exact ⟨new, hnew.attached, hnew.committed, hnew.recorded, hnew.newRecorded⟩

theorem Inv.call {st : RunState Buffer} {surface : WaylandEglSurface.State Buffer}
    {l : WaylandEglSurface.Label Buffer} {new : List Buffer} (h : Inv st)
    (hfreed : st.freed = false) (hnew : Commits st.surface surface new (pushed l)) :
    Inv (st.call l surface) := by
  have hdrop : surface.committed.drop st.surface.committed.length = new := by
    rw [hnew.committed, List.drop_left]
  constructor
  · intro b
    have hcounted := h.counted b
    cases hpushed : pushed l with
    | true =>
        simp only [RunState.call, hdrop, hnew.attached, hpushed, if_true, List.count_append]
        omega
    | false =>
        simp only [RunState.call, hdrop, hnew.attached, hpushed, Bool.false_eq_true, if_false,
          List.append_nil, List.count_append]
        omega
  · exact fun htrue => absurd (hfreed.symm.trans htrue) nofun
  · intro b hb
    rcases List.mem_append.mp (hnew.committed ▸ hb) with hb | hb
    · exact hnew.recorded b (h.recorded b hb)
    · exact hnew.newRecorded b hb
  · exact h.notRead

theorem Inv.dropAttached {st : RunState Buffer} {surface : WaylandEglSurface.State Buffer}
    (h : Inv st) (hattached : surface.attachedBuffers = [])
    (hcommitted : surface.committed = st.surface.committed)
    (hrecorded : ∀ b, (st.surface.getBuffer b).isSome = true → (surface.getBuffer b).isSome = true)
    (freed : Bool) :
    Inv { st with
      surface := surface
      freed := freed
      drops := st.surface.attachedBuffers ++ st.drops } := by
  constructor
  · intro b
    have hcounted := h.counted b
    simp only [hattached, List.count_append, List.count_nil]
    omega
  · exact fun _ => hattached
  · intro b hb
    exact hrecorded b (h.recorded b (hcommitted ▸ hb))
  · exact h.notRead

theorem count_release {st : RunState Buffer} {b : Buffer}
    (howed : b ∈ st.surface.attachedBuffers ∨ b ∈ st.untracked) (x : Buffer) :
    (st.surface.attachedBuffers.erase b).count x +
        (if b ∈ st.surface.attachedBuffers then st.untracked else st.untracked.erase b).count x +
        (if x = b then 1 else 0) =
      st.surface.attachedBuffers.count x + st.untracked.count x := by
  by_cases hattached : b ∈ st.surface.attachedBuffers
  · have herase := count_erase_add hattached x
    rw [if_pos hattached]
    omega
  · have herase := count_erase_add (howed.resolve_left hattached) x
    rw [if_neg hattached, List.erase_of_not_mem hattached]
    omega

theorem Inv.release {st : RunState Buffer} (h : Inv st) {b : Buffer}
    (hcommitted : b ∈ st.surface.committed)
    (howed : b ∈ st.surface.attachedBuffers ∨ b ∈ st.untracked ∧ st.freed = false) :
    Inv (st.release b) := by
  have hrecorded := h.recorded b hcommitted
  have hvalid := WaylandEglSurface.isValid_of_recorded hrecorded
  have hfreed : st.freed = false := by
    rcases howed with hattached | ⟨-, hfreed⟩
    · cases hfreed : st.freed with
      | false => rfl
      | true =>
          rw [h.freed hfreed] at hattached
          cases hattached
    · exact hfreed
  have hcallback := WaylandEglSurface.releaseCallback_recorded hrecorded
  constructor
  · intro x
    have hcounted := h.counted x
    have hrelease := count_release (howed.imp id And.left) x
    simp only [RunState.release, hcallback, hvalid, if_true, List.count_cons, beq_iff_eq,
      WaylandEglSurface.State.unref, @eq_comm _ b x]
    omega
  · intro htrue
    cases hfreed.symm.trans htrue
  · intro c hc
    simp only [RunState.release, hcallback] at hc ⊢
    exact h.recorded c (List.mem_of_mem_erase hc)
  · simp only [RunState.release, h.notRead, hfreed, Bool.false_and, Bool.or_false]

theorem inv_callStep {st st' : RunState Buffer} {l : WaylandEglSurface.Label Buffer} (h : Inv st)
    (hl : callStep l = true) (hstep : st.step (.surface l) = some st') : Inv st' := by
  have hcall : st.step (.surface l) = if st.freed then none
      else (WaylandEglSurface.step st.surface l).map (st.call l) := by
    cases l with
    | release | createTbmSurface | destroyTbmSurface => cases hl
    | _ => rfl
  rw [hcall] at hstep
  split at hstep
  · cases hstep
  · rename_i hfreed
    obtain ⟨surface, hsurface, rfl⟩ := Option.map_eq_some_iff.mp hstep
    obtain ⟨new, hnew⟩ := commits_step hl hsurface
    exact h.call (Bool.eq_false_iff.mpr hfreed) hnew

theorem inv_step {st st' : RunState Buffer} {l : Label Buffer} (h : Inv st)
    (hallowed : ReleasesOwed st l) (hstep : st.step l = some st') : Inv st' := by
  cases l with
  | surface l =>
      cases l with
      | release b =>
          simp only [RunState.step] at hstep
          split at hstep
          · rename_i hcommitted
            cases hstep
            exact h.release hcommitted hallowed
          · cases hstep
      | destroyTbmSurface b =>
          simp only [RunState.step, WaylandEglSurface.step] at hstep
          split at hstep
          · cases hstep
            refine ⟨h.counted, h.freed, ?_, h.notRead⟩
            intro c hc
            obtain ⟨hc, hcb⟩ := List.mem_filter.mp hc
            have hcb' : c ≠ b := by simpa using hcb
            simpa [WaylandEglSurface.State.getBuffer, hcb'] using h.recorded c hc
          · cases hstep
      | createTbmSurface b =>
          simp only [RunState.step, WaylandEglSurface.step] at hstep
          split at hstep
          · cases hstep
          · rename_i hnot
            cases hstep
            refine ⟨h.counted, h.freed, ?_, h.notRead⟩
            intro c hc
            have hcb : c ≠ b := by
              rintro rfl
              exact hnot (WaylandEglSurface.isValid_of_recorded (h.recorded c hc))
            simpa [WaylandEglSurface.State.getBuffer, hcb] using h.recorded c hc
      | _ => exact inv_callStep h rfl hstep
  | flush resets =>
      simp only [RunState.step] at hstep
      split at hstep
      · cases hstep
      · cases hstep
        unfold flushCallback
        split
        · have hreset := sameTracking_resetCallback st.surface
          obtain ⟨hattached, hcommitted, hbuffer⟩ := unrefAttached_same st.surface.resetCallback
          exact h.dropAttached hattached (hcommitted.trans hreset.committed)
            (fun b hb => by rw [hbuffer b]; exact hreset.recorded b hb) st.freed
        · obtain ⟨hattached, hcommitted, hbuffer⟩ := unrefAttached_same st.surface
          exact h.dropAttached hattached hcommitted (fun b hb => by rwa [hbuffer b]) st.freed
  | fini =>
      simp only [RunState.step] at hstep
      split at hstep
      · cases hstep
        obtain ⟨hattached, hcommitted, hbuffer⟩ := unrefAttached_same st.surface
        have hfini : ∀ b, (surfaceFini st.surface).getBuffer b = st.surface.getBuffer b := hbuffer
        refine h.dropAttached ?_ ?_ (fun b hb => ?_) true
        · exact hattached
        · exact hcommitted
        · rwa [hfini b]
      · cases hstep

theorem releasesOwed_of_droppedOnce {st st' : RunState Buffer} {l : Label Buffer}
    (h : Inv st) (hstep : st.step l = some st') (honce : DroppedOnce st') :
    ReleasesOwed st l := by
  cases l with
  | surface l =>
      cases l with
      | release b =>
          simp only [RunState.step] at hstep
          split at hstep
          · rename_i hcommitted
            cases hstep
            have hrecorded := h.recorded b hcommitted
            have hvalid := WaylandEglSurface.isValid_of_recorded hrecorded
            have hread := honce.notRead
            have hle := honce.drops_le b
            have hcounted := h.counted b
            simp only [RunState.release, hvalid, hrecorded, Bool.and_true, Bool.or_eq_false_iff]
              at hread
            simp only [RunState.release, hvalid, if_true, List.count_cons_self] at hle
            by_cases hattached : b ∈ st.surface.attachedBuffers
            · exact .inl hattached
            · have hzero := List.count_eq_zero.mpr hattached
              have hpos : 0 < st.untracked.count b := by omega
              exact .inr ⟨List.count_pos_iff.mp hpos, hread.2⟩
          · cases hstep
      | _ => trivial
  | _ => trivial

/-- Commit references are dropped once and freed memory is not read in exactly the
runs in which no release event comes after a flush or a fini took its tbm_surface
out of `attached_buffers`, or after the fini for a commit that was not tracked. -/
theorem droppedOnce_iff (isValid : Buffer → Bool) (buffer : Buffer → Option Bool)
    {ls : List (Label Buffer)} {st : RunState Buffer}
    (hrun : runSystem.run ⟨WaylandEglSurface.newSurface isValid buffer, false, false, [], [], []⟩ ls =
      some st) :
    runSystem.Always DroppedOnce
        ⟨WaylandEglSurface.newSurface isValid buffer, false, false, [], [], []⟩ ls ↔
      runSystem.EveryStep ReleasesOwed
        ⟨WaylandEglSurface.newSurface isValid buffer, false, false, [], [], []⟩ ls := by
  have hinv : Inv (⟨WaylandEglSurface.newSurface isValid buffer, false, false, [], [], []⟩ :
      RunState Buffer) := ⟨fun _ => rfl, nofun, nofun, rfl⟩
  refine System.always_iff_everyStep hinv hrun ?_ ?_ ?_
  · intro _ _ _ h hallowed hstep
    exact inv_step h hallowed hstep
  · intro _ h
    exact h.droppedOnce
  · intro _ _ _ h hstep honce
    exact releasesOwed_of_droppedOnce h hstep honce

instance (st : RunState Buffer) (l : Label Buffer) : Decidable (ReleasesOwed st l) :=
  match l with
  | .surface (.release b) =>
      inferInstanceAs (Decidable (b ∈ st.surface.attachedBuffers ∨
        b ∈ st.untracked ∧ st.freed = false))
  | .surface (.createTbmSurface _) | .surface (.destroyTbmSurface _) | .surface .resize
  | .surface .queueReset | .surface .dequeueBegin | .surface .dequeueWaitFailed
  | .surface (.dequeueEnd _) | .surface (.enqueueBegin _) | .surface (.enqueueEnd _)
  | .flush _ | .fini => isTrue trivial

end

def newRun : RunState Nat :=
  ⟨WaylandEglSurface.newSurface (fun _ => true) fun _ => none, false, false, [], [], []⟩

def dequeueAndCommit (b : Nat) : List (Label Nat) :=
  [.surface .dequeueBegin, .surface (.dequeueEnd ⟨some b, true, true, true⟩),
    .surface (.enqueueBegin b), .surface (.enqueueEnd ⟨.errorNone, some b, true⟩)]

def releasedOrFlushed : List (Label Nat) :=
  dequeueAndCommit 1 ++ .surface (.release 1) :: dequeueAndCommit 2 ++
    [.flush true, .surface (.destroyTbmSurface 2), .fini]

theorem droppedOnce_released_or_flushed :
    ∃ st, runSystem.run newRun releasedOrFlushed = some st ∧ st.drops = [2, 1] ∧
      runSystem.Always DroppedOnce newRun releasedOrFlushed := by
  obtain ⟨st, hrun, hdrops⟩ := runSystem.exists_of_runWhen ReleasesOwed
    (fun st => st.drops = [2, 1]) newRun releasedOrFlushed (by decide)
  have hrun' := System.run_of_runWhen hrun
  exact ⟨st, hrun', hdrops, (droppedOnce_iff _ _ hrun').mpr (.of_runWhen hrun)⟩

/-- A tbm_surface that code outside TPL keeps alive is released after a flush, or
after the surface is gone. -/
theorem not_droppedOnce :
    (¬ ∀ st : RunState Nat, runSystem.Reachable st →
      ∀ b, st.drops.count b ≤ st.commits.count b) ∧
    (¬ ∀ st : RunState Nat, runSystem.Reachable st → st.readFreed = false) := by
  constructor
  · intro hall
    obtain ⟨st, hrun, hdrops, hcommits⟩ := runSystem.exists_of_run
      (fun st => st.drops = [1, 1] ∧ st.commits = [1]) newRun
      (dequeueAndCommit 1 ++ [.flush false, .surface (.release 1)]) (by decide)
    have hle := hall st (.of_run (.initial ⟨_, _, rfl⟩) hrun) 1
    rw [hdrops, hcommits] at hle
    exact absurd hle (by decide)
  · intro hall
    obtain ⟨st, hrun, hread⟩ := runSystem.exists_of_run (fun st => st.readFreed = true) newRun
      (dequeueAndCommit 1 ++ [.fini, .surface (.release 1)]) (by decide)
    exact absurd (hall st (.of_run (.initial ⟨_, _, rfl⟩) hrun)) (by rw [hread]; nofun)

end LibtplEgl.BufferRelease
