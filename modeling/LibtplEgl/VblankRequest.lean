import LibtplEgl.LabelledSystem

namespace LibtplEgl.VblankRequest

open LibtplEgl.LabelledSystem

universe u

/-- Where the thread of a surface is in `__tpl_wayland_egl_surface_enqueue_buffer`:
before its test of `vblank_done`, in the two steps of the loop of
`__tpl_wayland_egl_surface_wait_vblank`, between the loop and the vblank request
of `__tpl_wayland_egl_surface_commit`, or between the request and the store. -/
inductive Pc
  | idle
  | testVblankDone
  | handleEvents
  | testLoop
  | commit
  | storeVblankDone
  deriving DecidableEq, Repr

/-- The surfaces on one `tdm_client`, each with the thread that uses it. `pending`
counts the vblank requests of a surface whose handler has not run. -/
structure State (Surface : Type u) where
  vblankDone : Surface → Bool
  pending : Surface → Nat
  pc : Surface → Pc

inductive Label (Surface : Type u)
  | enqueueBuffer (s : Surface)
  | testVblankDone (s : Surface)
  | vblankHandler (t s : Surface)
  | handleEventsReturns (t : Surface) (succeeded : Bool)
  | testLoop (t : Surface)
  | enqueueFails (s : Surface)
  | vblankWait (s : Surface) (succeeded : Bool)
  | storeVblankDone (s : Surface)
  deriving DecidableEq, Repr

section

variable {Surface : Type u} [DecidableEq Surface]

namespace State

def goto (st : State Surface) (s : Surface) (p : Pc) : State Surface :=
  { st with pc := Function.update st.pc s p }

/-- `__cb_tdm_client_wait_vblank` answers one request of the surface. -/
def vblankHandler (st : State Surface) (s : Surface) : State Surface :=
  { st with
    pending := Function.update st.pending s (st.pending s - 1)
    vblankDone := Function.update st.vblankDone s true }

/-- `tdm_client_vblank_wait` in `__tpl_wayland_egl_surface_commit`. -/
def vblankWait (st : State Surface) (s : Surface) (succeeded : Bool) : State Surface :=
  if succeeded then
    { st with pending := Function.update st.pending s (st.pending s + 1) }.goto s .storeVblankDone
  else st.goto s .idle

end State

/-- One step of a thread. `tdm_client_handle_events` in the thread of `t` may run
the handler of any surface. -/
def step (st : State Surface) : Label Surface → Option (State Surface)
  | .enqueueBuffer s =>
      if st.pc s = .idle then some (st.goto s .testVblankDone) else none
  | .testVblankDone s =>
      if st.pc s = .testVblankDone then
        some (st.goto s (if st.vblankDone s = false then .handleEvents else .commit))
      else none
  | .vblankHandler t s =>
      if st.pc t = .handleEvents ∧ 0 < st.pending s then some (st.vblankHandler s) else none
  | .handleEventsReturns t succeeded =>
      if st.pc t = .handleEvents then
        some (st.goto t (if succeeded then .testLoop else .commit))
      else none
  | .testLoop t =>
      if st.pc t = .testLoop then
        some (st.goto t (if st.vblankDone t = false then .handleEvents else .commit))
      else none
  | .enqueueFails s => if st.pc s = .commit then some (st.goto s .idle) else none
  | .vblankWait s succeeded =>
      if st.pc s = .commit then some (st.vblankWait s succeeded) else none
  | .storeVblankDone s =>
      if st.pc s = .storeVblankDone then
        some ({ st with vblankDone := Function.update st.vblankDone s false }.goto s .idle)
      else none

/-- Surfaces after `__tpl_wayland_egl_surface_init`. -/
def newSurfaces : State Surface where
  vblankDone := fun _ => true
  pending := fun _ => 0
  pc := fun _ => .idle

def vblankSystem : System (State Surface) (Label Surface) where
  Initial st := st = newSurfaces
  step := step

omit [DecidableEq Surface] in
/-- Who waits for a vblank has a request that will be answered. -/
def Awaited (st : State Surface) : Prop := ∀ s, st.vblankDone s = false → 0 < st.pending s

omit [DecidableEq Surface] in
/-- The last outstanding request of a surface is not answered between the request
and the store of its commit. -/
def AnswersStored (st : State Surface) : Label Surface → Prop
  | .vblankHandler _ s => st.pc s = .storeVblankDone → 1 < st.pending s
  | _ => True

/-- The request of a commit is outstanding up to its store. -/
structure Inv (st : State Surface) : Prop where
  awaited : Awaited st
  requested : ∀ s, st.pc s = .storeVblankDone → 0 < st.pending s

theorem Inv.goto {st : State Surface} (h : Inv st) {s : Surface} {p : Pc}
    (hp : p ≠ .storeVblankDone) : Inv (st.goto s p) :=
  ⟨h.awaited, (Function.forall_update_iff st.pc fun u q =>
    q = .storeVblankDone → 0 < st.pending u).mpr ⟨fun hs => absurd hs hp, fun u _ => h.requested u⟩⟩

theorem Inv.vblankHandler {st : State Surface} (h : Inv st) {s : Surface}
    (hs : st.pc s = .storeVblankDone → 1 < st.pending s) : Inv (st.vblankHandler s) := by
  constructor
  · intro u hu
    by_cases hus : u = s
    · subst hus
      simp [State.vblankHandler] at hu
    · simp only [State.vblankHandler, Function.update_of_ne hus] at hu ⊢
      exact h.awaited u hu
  · intro u hu
    by_cases hus : u = s
    · subst hus
      have hlt := hs hu
      simp only [State.vblankHandler, Function.update_self]
      omega
    · simp only [State.vblankHandler, Function.update_of_ne hus]
      exact h.requested u hu

theorem Inv.vblankWait {st : State Surface} (h : Inv st) (s : Surface) (succeeded : Bool) :
    Inv (st.vblankWait s succeeded) := by
  unfold State.vblankWait
  split
  · have hpositive : ∀ u, 0 < st.pending u →
        0 < Function.update st.pending s (st.pending s + 1) u := by
      intro u hu
      by_cases hus : u = s
      · subst hus
        simp
      · rwa [Function.update_of_ne hus]
    refine ⟨fun u hu => hpositive u (h.awaited u hu), fun u hu => ?_⟩
    by_cases hus : u = s
    · subst hus
      simp [State.goto]
    · simp only [State.goto, Function.update_of_ne hus] at hu
      exact hpositive u (h.requested u hu)
  · exact h.goto nofun

theorem Inv.storeVblankDone {st : State Surface} (h : Inv st) {s : Surface}
    (hpc : st.pc s = .storeVblankDone) :
    Inv ({ st with vblankDone := Function.update st.vblankDone s false }.goto s .idle) := by
  have hidle := h.goto (s := s) (p := .idle) nofun
  refine ⟨(Function.forall_update_iff st.vblankDone fun u done =>
    done = false → 0 < st.pending u).mpr ⟨fun _ => h.requested s hpc, fun u _ => h.awaited u⟩,
    hidle.requested⟩

theorem inv_step {st st' : State Surface} {l : Label Surface} (h : Inv st)
    (hallowed : AnswersStored st l) (hstep : step st l = some st') : Inv st' := by
  cases l with
  | enqueueBuffer s =>
      simp only [step] at hstep
      split at hstep
      · cases hstep
        exact h.goto nofun
      · cases hstep
  | testVblankDone s =>
      simp only [step] at hstep
      split at hstep
      · cases hstep
        exact h.goto (by split <;> nofun)
      · cases hstep
  | vblankHandler t s =>
      simp only [step] at hstep
      split at hstep
      · cases hstep
        exact h.vblankHandler hallowed
      · cases hstep
  | handleEventsReturns t succeeded =>
      simp only [step] at hstep
      split at hstep
      · cases hstep
        exact h.goto (by split <;> nofun)
      · cases hstep
  | testLoop t =>
      simp only [step] at hstep
      split at hstep
      · cases hstep
        exact h.goto (by split <;> nofun)
      · cases hstep
  | enqueueFails s =>
      simp only [step] at hstep
      split at hstep
      · cases hstep
        exact h.goto nofun
      · cases hstep
  | vblankWait s succeeded =>
      simp only [step] at hstep
      split at hstep
      · cases hstep
        exact h.vblankWait s succeeded
      · cases hstep
  | storeVblankDone s =>
      simp only [step] at hstep
      split at hstep
      · rename_i hpc
        cases hstep
        exact h.storeVblankDone hpc
      · cases hstep

omit [DecidableEq Surface] in
def AnsweredEarly (st : State Surface) (s : Surface) : Prop :=
  st.pc s = .storeVblankDone ∧ st.pending s = 0

theorem AnsweredEarly.step {st st' : State Surface} {l : Label Surface} {s : Surface}
    (h : AnsweredEarly st s) (hstep : step st l = some st') :
    AnsweredEarly st' s ∨ ¬ Awaited st' := by
  have hgoto : ∀ {t p}, st.pc t ≠ .storeVblankDone → AnsweredEarly (st.goto t p) s := by
    intro t p ht
    have hst : s ≠ t := by
      rintro rfl
      exact ht h.1
    simpa [AnsweredEarly, State.goto, Function.update_of_ne hst] using h
  cases l with
  | enqueueBuffer t | testVblankDone t | handleEventsReturns t _ | testLoop t | enqueueFails t =>
      simp only [VblankRequest.step] at hstep
      split at hstep
      · rename_i hpc
        cases hstep
        exact .inl (hgoto (by rw [hpc]; nofun))
      · cases hstep
  | vblankHandler t u =>
      simp only [VblankRequest.step] at hstep
      split at hstep
      · rename_i henabled
        cases hstep
        have hsu : s ≠ u := by
          rintro rfl
          exact Nat.lt_irrefl 0 (h.2 ▸ henabled.2)
        exact .inl (by simpa [AnsweredEarly, State.vblankHandler, hsu] using h)
      · cases hstep
  | vblankWait t succeeded =>
      simp only [VblankRequest.step] at hstep
      split at hstep
      · rename_i hpc
        cases hstep
        have hst : s ≠ t := by
          rintro rfl
          rw [h.1] at hpc
          cases hpc
        unfold State.vblankWait
        split
        · exact .inl (by simpa [AnsweredEarly, State.goto, hst] using h)
        · exact .inl (hgoto (by rw [hpc]; nofun))
      · cases hstep
  | storeVblankDone t =>
      simp only [VblankRequest.step] at hstep
      split at hstep
      · cases hstep
        by_cases hst : s = t
        · subst hst
          refine .inr fun hawaited => Nat.lt_irrefl 0 ?_
          have hpos : 0 < st.pending s := hawaited s (by simp [State.goto])
          rwa [h.2] at hpos
        · exact .inl (by simpa [AnsweredEarly, State.goto, hst] using h)
      · cases hstep

theorem AnsweredEarly.not_always {st st' : State Surface} {ls : List (Label Surface)}
    {s : Surface} (h : AnsweredEarly st s) (hrun : vblankSystem.run st ls = some st')
    (hend : st'.pc s ≠ .storeVblankDone) : ¬ vblankSystem.Always Awaited st ls := by
  induction ls generalizing st with
  | nil =>
      cases hrun
      exact absurd h.1 hend
  | cons l ls ih =>
      rw [System.run_cons, Option.bind_eq_some_iff] at hrun
      obtain ⟨t, ht, hrest⟩ := hrun
      intro halways
      have hnext := halways.2 t ht
      rcases h.step ht with hearly | hnot
      · exact ih hearly hrest hnext
      · exact hnot hnext.head

theorem everyStep_of_awaited {st st' : State Surface} {ls : List (Label Surface)} (h : Inv st)
    (hrun : vblankSystem.run st ls = some st') (hend : ∀ s, st'.pc s ≠ .storeVblankDone)
    (halways : vblankSystem.Always Awaited st ls) : vblankSystem.EveryStep AnswersStored st ls := by
  induction ls generalizing st with
  | nil => trivial
  | cons l ls ih =>
      rw [System.run_cons, Option.bind_eq_some_iff] at hrun
      obtain ⟨t, ht, hrest⟩ := hrun
      have hallowed : AnswersStored st l := by
        cases l with
        | vblankHandler u s =>
            intro hpc
            by_contra hlast
            have hpending : st.pending s - 1 = 0 := by omega
            have hearly : AnsweredEarly (st.vblankHandler s) s :=
              ⟨hpc, by simp [State.vblankHandler, hpending]⟩
            have hafter := halways.2 t ht
            simp only [vblankSystem, step] at ht
            split at ht
            · cases ht
              exact hearly.not_always hrest (hend s) hafter
            · cases ht
        | _ => trivial
      refine ⟨hallowed, fun u hu => ?_⟩
      obtain rfl : t = u := Option.some.inj (ht.symm.trans hu)
      exact ih (inv_step h hallowed ht) hrest (halways.2 t ht)

/-- Every surface without a vblank has a request in every state of a run in which
no handler comes between the last request of a commit and its store. The runs in
which one does lose the vblank once the commit is over. -/
theorem vblank_awaited_iff {ls : List (Label Surface)} {st : State Surface}
    (hrun : vblankSystem.run newSurfaces ls = some st) :
    (vblankSystem.EveryStep AnswersStored newSurfaces ls →
      vblankSystem.Always Awaited newSurfaces ls) ∧
    ((∀ s, st.pc s ≠ .storeVblankDone) → vblankSystem.Always Awaited newSurfaces ls →
      vblankSystem.EveryStep AnswersStored newSurfaces ls) := by
  have hinv : Inv (newSurfaces : State Surface) := ⟨nofun, nofun⟩
  constructor
  · intro hall
    exact System.always_of_invariant hinv hall
      (fun _ _ _ h hallowed hstep => inv_step h hallowed hstep) fun _ h => h.awaited
  · exact everyStep_of_awaited hinv hrun

instance (st : State Surface) (l : Label Surface) : Decidable (AnswersStored st l) :=
  match l with
  | .vblankHandler _ s =>
      inferInstanceAs (Decidable (st.pc s = .storeVblankDone → 1 < st.pending s))
  | .enqueueBuffer _ | .testVblankDone _ | .handleEventsReturns _ _ | .testLoop _
  | .enqueueFails _ | .vblankWait _ _ | .storeVblankDone _ => isTrue trivial

end

def answersAfterStore : List (Label Nat) :=
  [.enqueueBuffer 0, .testVblankDone 0, .vblankWait 0 true, .storeVblankDone 0,
    .enqueueBuffer 0, .testVblankDone 0, .enqueueBuffer 1, .testVblankDone 1,
    .vblankWait 1 true, .storeVblankDone 1, .vblankHandler 0 1, .vblankHandler 0 0,
    .handleEventsReturns 0 true, .testLoop 0]

theorem vblank_awaited_answers_after_store :
    ∃ st, vblankSystem.run newSurfaces answersAfterStore = some st ∧ st.pc 0 = .commit ∧
      vblankSystem.Always Awaited newSurfaces answersAfterStore := by
  obtain ⟨st, hrun, hpc⟩ := vblankSystem.exists_of_runWhen AnswersStored
    (fun st => st.pc 0 = .commit) newSurfaces answersAfterStore (by decide)
  have hrun' := System.run_of_runWhen hrun
  exact ⟨st, hrun', hpc, (vblank_awaited_iff hrun').1 (.of_runWhen hrun)⟩

/-- The thread of surface 0 answers the request of surface 1 before it is stored. -/
def answersBeforeStore : List (Label Nat) :=
  [.enqueueBuffer 0, .testVblankDone 0, .vblankWait 0 true, .storeVblankDone 0,
    .enqueueBuffer 0, .testVblankDone 0, .enqueueBuffer 1, .testVblankDone 1,
    .vblankWait 1 true, .vblankHandler 0 1, .storeVblankDone 1]

theorem vblank_not_awaited :
    ¬ ∀ st : State Nat, vblankSystem.Reachable st → Awaited st := by
  intro hall
  obtain ⟨st, hrun, hdone, hpending⟩ := vblankSystem.exists_of_run
    (fun st => st.vblankDone 1 = false ∧ st.pending 1 = 0) newSurfaces answersBeforeStore
    (by decide)
  have hpos := hall st (.of_run (.initial rfl) hrun) 1 hdone
  rw [hpending] at hpos
  exact Nat.lt_irrefl 0 hpos

end LibtplEgl.VblankRequest
