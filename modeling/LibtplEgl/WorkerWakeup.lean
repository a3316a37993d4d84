import LibtplEgl.WorkerThread

namespace LibtplEgl.WorkerWakeup

open LibtplEgl.LabelledSystem
open LibtplEgl.WorkerThread

universe u v w

section

variable {Ws : Type u} {Buffer : Type v} {Client : Type w}

def EventPending (st : State Ws Buffer Client) : Prop :=
  ∃ counter, st.eventFd = .opened (counter + 1)

/-- The worker is told about the queue of `s`, or will be by the client that
appended to it. -/
def Notified (st : State Ws Buffer Client) (s : Ws) : Prop :=
  EventPending st ∨ ∃ c, st.notifying c = some s

/-- Nothing of `s` waits for the worker, or the worker is told. -/
def Served (st : State Ws Buffer Client) (s : Ws) : Prop :=
  (st.surface s).queue = [] ∨ (st.surface s).drawWaitBuffer ≠ none ∨ Notified st s

def opensEventFd : WorkerPc Ws Buffer → Bool
  | .start | .exited => false
  | _ => true

def sinceScan : WorkerPc Ws Buffer → Bool
  | .scan _ | .prepare _ _ | .popped _ _ _ | .rejecting _ _ _ | .epollWait => true
  | _ => false

/-- Every surface that the scan is finished with is served until the worker
leaves `epoll_wait`. -/
structure Inv (st : State Ws Buffer Client) : Prop where
  opened : opensEventFd st.worker = true → ∃ counter, st.eventFd = .opened counter
  served : sinceScan st.worker = true → ∀ s ∈ st.listedSince, s ∉ st.worker.unscanned →
    Served st s

theorem Served.frame {st st' : State Ws Buffer Client} {s : Ws} (h : Served st s)
    (hsurface : st'.surface s = st.surface s) (hevent : st'.eventFd = st.eventFd)
    (hclient : st'.notifying = st.notifying) : Served st' s := by
  unfold Served Notified EventPending
  rw [hsurface, hevent, hclient]
  exact h

theorem sinceScan_opens {pc : WorkerPc Ws Buffer} (h : sinceScan pc = true) :
    opensEventFd pc = true := by
  cases pc <;> first | rfl | cases h

theorem eventSend_opened {fd : EventFd} (h : ∃ counter, fd = .opened counter) :
    ∃ counter, fd.eventSend = .opened (counter + 1) := by
  obtain ⟨counter, rfl⟩ := h
  exact ⟨counter, rfl⟩

theorem Inv.eventSend {st st' : State Ws Buffer Client} (h : Inv st)
    (hworker : st'.worker = st.worker) (hevent : st'.eventFd = st.eventFd.eventSend) :
    Inv st' := by
  have hpending : opensEventFd st'.worker = true → EventPending st' := by
    intro hopen
    rw [hworker] at hopen
    obtain ⟨counter, hcounter⟩ := eventSend_opened (h.opened hopen)
    exact ⟨counter, hevent.trans hcounter⟩
  constructor
  · intro hopen
    obtain ⟨counter, hcounter⟩ := hpending hopen
    exact ⟨counter + 1, hcounter⟩
  · intro hscan s _ _
    exact Or.inr (Or.inr (Or.inl (hpending (sinceScan_opens hscan))))

theorem Inv.leave {st st' : State Ws Buffer Client} (h : Inv st)
    (hopen : opensEventFd st.worker = true) (hscan : sinceScan st'.worker = false)
    (hevent : st'.eventFd = st.eventFd ∨ ∃ counter, st'.eventFd = .opened counter) :
    Inv st' := by
  constructor
  · intro _
    rcases hevent with heq | hopened
    · rw [heq]
      exact h.opened hopen
    · exact hopened
  · intro hscan'
    rw [hscan] at hscan'
    cases hscan'

theorem Inv.scan {st st' : State Ws Buffer Client} (h : Inv st) (t : Ws)
    (hscan : sinceScan st.worker = true)
    (hevent : st'.eventFd = st.eventFd) (hclient : st'.notifying = st.notifying)
    (hlisted : st'.listedSince = st.listedSince)
    (hothers : ∀ s, s ≠ t → st'.surface s = st.surface s)
    (hunscanned : ∀ s, s ≠ t → s ∉ st'.worker.unscanned → s ∉ st.worker.unscanned)
    (ht : t ∉ st'.worker.unscanned → Served st' t) : Inv st' := by
  constructor
  · intro _
    rw [hevent]
    exact h.opened (sinceScan_opens hscan)
  · intro _ s hs hdone
    by_cases hst : s = t
    · subst hst
      exact ht hdone
    · rw [hlisted] at hs
      exact (h.served hscan s hs (hunscanned s hst hdone)).frame (hothers s hst) hevent hclient

theorem Inv.client {st st' : State Ws Buffer Client} (h : Inv st)
    (hworker : st'.worker = st.worker) (hevent : st'.eventFd = st.eventFd)
    (hclient : st'.notifying = st.notifying)
    (hlisted : ∀ s ∈ st'.listedSince, s ∈ st.listedSince)
    (hsurface : ∀ s, st'.surface s = st.surface s ∨ (st'.surface s).queue = [] ∨
      ((st'.surface s).queue = (st.surface s).queue ∧
        (st'.surface s).drawWaitBuffer = (st.surface s).drawWaitBuffer)) : Inv st' := by
  constructor
  · intro hopen
    rw [hworker] at hopen
    rw [hevent]
    exact h.opened hopen
  · intro hscan s hs hdone
    rw [hworker] at hscan hdone
    have hserved := h.served hscan s (hlisted s hs) hdone
    rcases hsurface s with heq | hempty | ⟨hqueue, hwait⟩
    · exact hserved.frame heq hevent hclient
    · exact Or.inl hempty
    · unfold Served Notified EventPending
      rw [hqueue, hwait, hevent, hclient]
      exact hserved

end

section

variable {Ws : Type u} {Buffer : Type v} {Client : Type w}
variable [DecidableEq Ws] [DecidableEq Buffer] [DecidableEq Client]

theorem inv_step {st st' : State Ws Buffer Client} {l : Label Ws Buffer Client} (h : Inv st)
    (hstep : step st l = some st') : Inv st' := by
  cases Fires.of_step hstep with
  | @createSurface s hasGet hfree =>
      refine h.client rfl rfl rfl (fun _ hs => hs) fun t => ?_
      by_cases hts : t = s
      · subst hts
        right; left
        simp [State.setSurface, WorkerSurface.zero]
      · left
        simp [State.setSurface, hts]
  | @createSwapchain s halloc hmutex =>
      refine h.client rfl rfl rfl (fun _ hs => hs) fun t => ?_
      by_cases hts : t = s
      · subst hts
        right; left
        simp [State.surfaceListInsert, State.setSurface]
      · left
        simp [State.surfaceListInsert, State.setSurface, hts]
  | @destroySwapchain s hmutex =>
      refine h.client rfl rfl rfl (fun _ hs => List.mem_of_mem_erase hs) fun t => ?_
      by_cases hts : t = s
      · subst hts
        right; left
        simp [State.surfaceListRemove, State.setSurface]
      · left
        simp [State.surfaceListRemove, State.setSurface, hts]
  | @destroySurface s hmutex hswap =>
      refine h.client rfl rfl rfl (fun _ hs => hs) fun t => ?_
      by_cases hts : t = s
      · subst hts
        right; right
        simp [State.setSurface]
      · left
        simp [State.setSurface, hts]
  | @destroySurfaceSwapchain s hmutex =>
      refine h.client rfl rfl rfl (fun _ hs => List.mem_of_mem_erase hs) fun t => ?_
      by_cases hts : t = s
      · subst hts
        right; left
        simp [State.surfaceListRemove, State.setSurface]
      · left
        simp [State.surfaceListRemove, State.setSurface, hts]
  | @enqueueBuffer c s b fd sig hidle hswap =>
      constructor
      · exact h.opened
      · intro hscan t ht hdone
        by_cases hts : t = s
        · subst hts
          exact Or.inr (Or.inr (Or.inr ⟨c, Function.update_self _ _ _⟩))
        · rcases h.served hscan t ht hdone with hempty | hwait | hpending | ⟨d, hd⟩
          · exact Or.inl (by simpa [State.enqueueBuffer, State.setSurface, hts] using hempty)
          · exact Or.inr (Or.inl (by simpa [State.enqueueBuffer, State.setSurface, hts] using hwait))
          · exact Or.inr (Or.inr (Or.inl hpending))
          · -- the client that enqueues now was idle, so it is not `d`
            have hdc : d ≠ c := by
              rintro rfl
              rw [hidle] at hd
              cases hd
            exact Or.inr (Or.inr (Or.inr ⟨d, (Function.update_of_ne hdc _ _).trans hd⟩))
  | newBufferNotify hc => exact h.eventSend rfl rfl
  | fenceSignal => exact ⟨h.opened, h.served⟩
  | workerFini => exact h.eventSend rfl rfl
  | eventFdCreated hpc => exact ⟨fun _ => ⟨0, rfl⟩, nofun⟩
  | eventFdFailed hpc => exact ⟨nofun, nofun⟩
  | scanStart hpc =>
      constructor
      · intro _
        exact h.opened (by rw [hpc]; rfl)
      · intro _ s hs hdone
        exact absurd hs hdone
  | loopEnd hpc => exact ⟨nofun, nofun⟩
  | scanEnd hpc =>
      refine ⟨fun _ => h.opened (by rw [hpc]; rfl), fun _ s hs _ => ?_⟩
      exact h.served (by rw [hpc]; rfl) s hs (by rw [hpc]; simp [WorkerPc.unscanned])
  | @scanWaiting s rest b hpc hwait =>
      refine h.scan s (by rw [hpc]; rfl) rfl rfl rfl (fun _ _ => rfl) ?_ fun _ => ?_
      · intro t hts hdone
        rw [hpc]
        exact fun hmem => hdone (List.mem_of_ne_of_mem hts hmem)
      · exact Or.inr (Or.inl (by simp [State.goto, hwait]))
  | @scanPrepare s rest hpc hwait =>
      refine h.scan s (by rw [hpc]; rfl) rfl rfl rfl (fun _ _ => rfl) ?_ fun hdone => ?_
      · intro t _ hdone
        rw [hpc]
        exact hdone
      · exact absurd List.mem_cons_self hdone
  | @popEmpty s rest hpc hqueue =>
      refine h.scan s (by rw [hpc]; rfl) rfl rfl rfl (fun _ _ => rfl) ?_ fun _ => ?_
      · intro t hts hdone
        rw [hpc]
        exact fun hmem => hdone (List.mem_of_ne_of_mem hts hmem)
      · exact Or.inl hqueue
  | @popBuffer s rest b queue hpc hqueue =>
      refine h.scan s (by rw [hpc]; rfl) rfl rfl rfl (fun t hts => ?_) ?_ fun hdone => ?_
      · simp [State.setSurface, State.goto, hts]
      · intro t _ hdone
        rw [hpc]
        exact hdone
      · exact absurd List.mem_cons_self hdone
  | @fenceAdded s b rest hpc hfence hnew =>
      refine h.scan s (by rw [hpc]; rfl) rfl rfl rfl (fun t hts => ?_) ?_ fun _ => ?_
      · simp [State.setSurface, State.goto, hts]
      · intro t hts hdone
        rw [hpc]
        exact fun hmem => hdone (List.mem_of_ne_of_mem hts hmem)
      · exact Or.inr (Or.inl (by simp [State.setSurface, State.goto]))
  | @fenceNotAdded s b rest added hpc =>
      refine h.scan s (by rw [hpc]; rfl) rfl rfl rfl (fun _ _ => rfl) ?_ fun hdone => ?_
      · intro t _ hdone
        rw [hpc]
        exact hdone
      · exact absurd List.mem_cons_self hdone
  | @drawDoneRejected s b rest hpc =>
      refine h.scan s (by rw [hpc]; rfl) rfl rfl rfl (fun _ _ => rfl) ?_ fun hdone => ?_
      · intro t _ hdone
        rw [hpc]
        exact hdone
      · exact absurd List.mem_cons_self hdone
  | epollWait hpc hready => exact h.leave (by rw [hpc]; rfl) rfl (Or.inl rfl)
  | batchEnd hpc => exact h.leave (by rw [hpc]; rfl) rfl (Or.inl rfl)
  | readEventFd hpc => exact h.leave (by rw [hpc]; rfl) rfl (Or.inr ⟨0, rfl⟩)
  | noEpollin hpc => exact h.leave (by rw [hpc]; rfl) rfl (Or.inl rfl)
  | drawWaiting hpc hwait => exact h.leave (by rw [hpc]; rfl) rfl (Or.inl rfl)
  | alreadySignalled hpc => exact h.leave (by rw [hpc]; rfl) rfl (Or.inl rfl)
  | noFence hpc hwait hnone => exact h.leave (by rw [hpc]; rfl) rfl (Or.inl rfl)
  | fenceSignalled hpc hwait => exact h.leave (by rw [hpc]; rfl) rfl (Or.inl rfl)
  | fenceNotSignalled hpc => exact h.leave (by rw [hpc]; rfl) rfl (Or.inl rfl)
  | drawDone hpc hwait => exact h.leave (by rw [hpc]; rfl) rfl (Or.inl rfl)
  | clearDrawWaitBuffer hpc => exact h.leave (by rw [hpc]; rfl) rfl (Or.inl rfl)

theorem inv_initial {st : State Ws Buffer Client} (h : workerSystem.Initial st) : Inv st := by
  obtain ⟨waitSync, signalled, rfl⟩ := h
  exact ⟨nofun, nofun⟩

theorem inv_reachable {st : State Ws Buffer Client} (h : workerSystem.Reachable st) : Inv st :=
  h.invariant (fun _ => inv_initial) fun _ _ _ hinv _ hstep => inv_step hinv hstep

/-- No wake-up of the worker is lost. -/
theorem no_lost_wakeup {st : State Ws Buffer Client} (h : workerSystem.Reachable st)
    (hblocked : st.worker = .epollWait) {s : Ws} (hlisted : s ∈ st.listedSince)
    (hqueue : (st.surface s).queue ≠ []) (hwait : (st.surface s).drawWaitBuffer = none) :
    (∃ counter, st.eventFd = .opened (counter + 1)) ∨ ∃ c, st.notifying c = some s := by
  have hserved : Served st s := (inv_reachable h).served (by rw [hblocked]; rfl) s hlisted
    (by rw [hblocked]; simp [WorkerPc.unscanned])
  rcases hserved with hempty | hdraw | hnotified
  · exact absurd hempty hqueue
  · exact absurd hwait hdraw
  · exact hnotified

/-- A buffer is appended after the scan found the queue empty. -/
def appendAfterScan : List (Label Unit Nat Unit) :=
  [.createSurface () true, .createSwapchain (), .prepareEventFd true, .loopStart, .scanNext,
    .popBuffer, .scanNext, .enqueueBuffer () () 7 3 false]

theorem no_lost_wakeup_append_after_scan :
    ∃ st, workerSystem.run (workerInit (fun _ => -1) fun _ => false) appendAfterScan = some st ∧
      ((∃ counter, st.eventFd = .opened (counter + 1)) ∨ ∃ c, st.notifying c = some ()) := by
  obtain ⟨st, hrun, hblocked, hlisted, hqueue, hwait⟩ := workerSystem.exists_of_run
    (fun st => st.worker = .epollWait ∧ () ∈ st.listedSince ∧ (st.surface ()).queue ≠ [] ∧
      (st.surface ()).drawWaitBuffer = none)
    (workerInit (fun _ => -1) fun _ => false) appendAfterScan (by decide)
  exact ⟨st, hrun, no_lost_wakeup (.of_run (.initial ⟨_, _, rfl⟩) hrun) hblocked hlisted
    hqueue hwait⟩

end

end LibtplEgl.WorkerWakeup
