import LibtplEgl.WorkerThread

namespace LibtplEgl.WorkerPointers

open LibtplEgl.LabelledSystem
open LibtplEgl.WorkerThread

universe u v w

section

variable {Ws : Type u} {Buffer : Type v} {Client : Type w}

/-- The worker surface is in `surface_list` and its swapchain is not destroyed. -/
def Live (st : State Ws Buffer Client) (s : Ws) : Prop :=
  (st.surface s).swapchain = true ∧ s ∈ st.surfaceList

/-- A worker surface that the worker reads from `data.ptr` in the next step is live. -/
def PointersLive (st : State Ws Buffer Client) : Prop :=
  ∀ s, st.worker.dereferences = some s → Live st s

/-- Nothing of the surface is left in the epoll set or in the worker's batch. -/
def Quiet (st : State Ws Buffer Client) (s : Ws) : Prop :=
  s ∉ st.epoll.map Prod.snd ∧ .surface s true ∉ st.worker.pendingEvents

/-- A swapchain is destroyed only when no fence of it is registered and no event
of it is left to handle. -/
def DestroysQuiet (st : State Ws Buffer Client) (l : Label Ws Buffer Client) : Prop :=
  ∀ s ∈ l.destroyed, Quiet st s

/-- What the place of the worker says about the surfaces. -/
structure WorkerOk (st : State Ws Buffer Client) (pc : WorkerPc Ws Buffer) : Prop where
  scanned : ∀ s ∈ pc.unscanned, s ∈ st.surfaceList
  hand : ∀ r ∈ pc.hand, (st.surface r.1).swapchain = true
  pending : ∀ s, .surface s true ∈ pc.pendingEvents → Live st s

/-- Whatever can lead the worker to a surface belongs to a live swapchain. -/
structure Inv (st : State Ws Buffer Client) : Prop where
  allocated : ∀ s, (st.surface s).swapchain = true → (st.surface s).allocated = true
  queued : ∀ s, (st.surface s).queue ≠ [] → (st.surface s).swapchain = true
  registered : ∀ r ∈ st.epoll, Live st r.2
  worker : WorkerOk st st.worker

theorem WorkerOk.idle {st : State Ws Buffer Client} {pc : WorkerPc Ws Buffer}
    (hscan : pc.unscanned = []) (hhand : pc.hand = none) (hpending : pc.pendingEvents = []) :
    WorkerOk st pc := by
  constructor
  · rw [hscan]
    nofun
  · rw [hhand]
    nofun
  · rw [hpending]
    nofun

theorem WorkerOk.scan {st : State Ws Buffer Client} {pc : WorkerPc Ws Buffer}
    (hscan : ∀ s ∈ pc.unscanned, s ∈ st.surfaceList)
    (hhand : ∀ r ∈ pc.hand, (st.surface r.1).swapchain = true)
    (hpending : pc.pendingEvents = []) : WorkerOk st pc := by
  refine ⟨hscan, hhand, ?_⟩
  rw [hpending]
  nofun

theorem WorkerOk.batch {st : State Ws Buffer Client} {pc : WorkerPc Ws Buffer}
    (hscan : pc.unscanned = []) (hhand : pc.hand = none)
    (hpending : ∀ s, .surface s true ∈ pc.pendingEvents → Live st s) : WorkerOk st pc := by
  refine ⟨?_, ?_, hpending⟩
  · rw [hscan]
    nofun
  · rw [hhand]
    nofun

theorem Inv.goto {st : State Ws Buffer Client} {pc : WorkerPc Ws Buffer} (h : Inv st)
    (hpc : WorkerOk st pc) : Inv (st.goto pc) :=
  ⟨h.allocated, h.queued, h.registered, ⟨hpc.scanned, hpc.hand, hpc.pending⟩⟩

theorem unscanned_of_free {pc : WorkerPc Ws Buffer} (h : pc.holdsSurfaceMutex = false) :
    pc.unscanned = [] ∧ pc.hand = none := by
  cases pc <;> first | exact ⟨rfl, rfl⟩ | cases h

theorem mem_pendingEvents_of_dereferences {pc : WorkerPc Ws Buffer} {s : Ws}
    (h : pc.dereferences = some s) : .surface s true ∈ pc.pendingEvents := by
  unfold WorkerPc.dereferences at h
  split at h
  · obtain rfl := Option.some.inj h
    exact List.mem_cons_self
  · obtain rfl := Option.some.inj h
    exact List.mem_cons_self
  · obtain rfl := Option.some.inj h
    exact List.mem_cons_self
  · obtain rfl := Option.some.inj h
    exact List.mem_cons_self
  · cases h

theorem Inv.handled {st : State Ws Buffer Client} (h : Inv st) {ev : EpollEvent Ws}
    {evs : List (EpollEvent Ws)} (hevs : st.worker.pendingEvents = ev :: evs) :
    WorkerOk st (.handle evs) :=
  WorkerOk.batch rfl rfl fun s hs =>
    h.worker.pending s (by rw [hevs]; exact List.mem_cons_of_mem _ hs)

theorem Inv.handling {st : State Ws Buffer Client} (h : Inv st) {pc : WorkerPc Ws Buffer}
    (hscan : pc.unscanned = []) (hhand : pc.hand = none)
    (hevs : pc.pendingEvents = st.worker.pendingEvents) : WorkerOk st pc :=
  WorkerOk.batch hscan hhand fun s hs => h.worker.pending s (by rw [← hevs]; exact hs)

end

section

variable {Ws : Type u} {Buffer : Type v} {Client : Type w}
variable [DecidableEq Ws]

theorem Inv.setSurface {st : State Ws Buffer Client} (h : Inv st) (s : Ws)
    (ws : WorkerSurface Buffer) (halloc : ws.swapchain = true → ws.allocated = true)
    (hswap : (st.surface s).swapchain = true → ws.swapchain = true)
    (hqueue : ws.queue ≠ [] → ws.swapchain = true) : Inv (st.setSurface s ws) := by
  have hswaps : ∀ t, (st.surface t).swapchain = true →
      ((st.setSurface s ws).surface t).swapchain = true := by
    intro t ht
    by_cases hts : t = s
    · subst hts
      simpa [State.setSurface] using hswap ht
    · simpa [State.setSurface, hts] using ht
  constructor
  · intro t ht
    by_cases hts : t = s
    · subst hts
      simp only [State.setSurface, Function.update_self] at ht ⊢
      exact halloc ht
    · simp only [State.setSurface, Function.update_of_ne hts] at ht ⊢
      exact h.allocated t ht
  · intro t ht
    by_cases hts : t = s
    · subst hts
      simp only [State.setSurface, Function.update_self] at ht ⊢
      exact hqueue ht
    · simp only [State.setSurface, Function.update_of_ne hts] at ht ⊢
      exact h.queued t ht
  · intro r hr
    exact ⟨hswaps _ (h.registered r hr).1, (h.registered r hr).2⟩
  · exact ⟨h.worker.scanned, fun r hr => hswaps _ (h.worker.hand r hr),
      fun t ht => ⟨hswaps _ (h.worker.pending t ht).1, (h.worker.pending t ht).2⟩⟩

theorem Inv.surfaceListInsert {st : State Ws Buffer Client} (h : Inv st) {s : Ws}
    (halloc : (st.surface s).allocated = true) : Inv (st.surfaceListInsert s) := by
  have hset := h.setSurface s
    { st.surface s with drawWaitBuffer := none, queue := [], swapchain := true }
    (fun _ => halloc) (fun _ => rfl) (fun _ => rfl)
  have hlist : ∀ t ∈ st.surfaceList, t ∈ st.surfaceList ++ [s] :=
    fun _ => List.mem_append_left _
  constructor
  · exact hset.allocated
  · exact hset.queued
  · exact fun r hr => ⟨(hset.registered r hr).1, hlist _ (hset.registered r hr).2⟩
  · exact ⟨fun t ht => hlist _ (hset.worker.scanned t ht), hset.worker.hand,
      fun t ht => ⟨(hset.worker.pending t ht).1, hlist _ (hset.worker.pending t ht).2⟩⟩

theorem Inv.surfaceListRemove {st : State Ws Buffer Client} (h : Inv st) {s : Ws}
    (hquiet : Quiet st s) (hfree : st.worker.holdsSurfaceMutex = false) :
    Inv (st.surfaceListRemove s) := by
  have hlive : ∀ t, t ≠ s → Live st t → Live (st.surfaceListRemove s) t := by
    rintro t hts ⟨hswap, hlist⟩
    refine ⟨?_, (List.mem_erase_of_ne hts).mpr hlist⟩
    simpa [State.surfaceListRemove, State.setSurface, hts] using hswap
  obtain ⟨hscan, hhand⟩ := unscanned_of_free hfree
  constructor
  · intro t ht
    by_cases hts : t = s
    · subst hts
      simp [State.surfaceListRemove, State.setSurface] at ht
    · simp only [State.surfaceListRemove, State.setSurface, Function.update_of_ne hts] at ht ⊢
      exact h.allocated t ht
  · intro t ht
    by_cases hts : t = s
    · subst hts
      simp [State.surfaceListRemove, State.setSurface] at ht
    · simp only [State.surfaceListRemove, State.setSurface, Function.update_of_ne hts] at ht ⊢
      exact h.queued t ht
  · intro r hr
    have hrs : r.2 ≠ s := by
      rintro rfl
      exact hquiet.1 (List.mem_map_of_mem hr)
    exact hlive _ hrs (h.registered r hr)
  · refine WorkerOk.batch hscan hhand fun t ht => ?_
    have hts : t ≠ s := by
      rintro rfl
      exact hquiet.2 ht
    exact hlive _ hts (h.worker.pending t ht)

end

section

variable {Ws : Type u} {Buffer : Type v} {Client : Type w}
variable [DecidableEq Ws] [DecidableEq Buffer] [DecidableEq Client]

theorem inv_step {st st' : State Ws Buffer Client} {l : Label Ws Buffer Client} (h : Inv st)
    (hallowed : DestroysQuiet st l) (hstep : step st l = some st') : Inv st' := by
  cases Fires.of_step hstep with
  | @createSurface s hasGet hfree =>
      have hswap : (st.surface s).swapchain ≠ true := by
        intro hswap
        rw [h.allocated s hswap] at hfree
        cases hfree
      exact h.setSurface s _ nofun (fun hs => absurd hs hswap) (fun hq => absurd rfl hq)
  | createSwapchain halloc hfree => exact h.surfaceListInsert halloc
  | destroySwapchain hfree => exact h.surfaceListRemove (hallowed _ rfl) hfree
  | @destroySurface s hfree hswap =>
      have hnot : (st.surface s).swapchain ≠ true := by
        rw [hswap]
        nofun
      exact h.setSurface s _ (fun hs => absurd hs hnot) id (fun hq => h.queued s hq)
  | @destroySurfaceSwapchain s hfree =>
      have hremoved := h.surfaceListRemove (hallowed _ rfl) hfree
      have hnot : ((st.surfaceListRemove s).surface s).swapchain ≠ true := by
        simp [State.surfaceListRemove, State.setSurface]
      exact hremoved.setSurface s _ (fun hs => absurd hs hnot) id (fun hq => hremoved.queued s hq)
  | @enqueueBuffer c s b fd sig hidle hswap =>
      have hset := h.setSurface s
        { st.surface s with queue := (st.surface s).queue ++ [b] }
        (fun hs => h.allocated s hs) id (fun _ => hswap)
      exact ⟨hset.allocated, hset.queued, hset.registered,
        ⟨hset.worker.scanned, hset.worker.hand, hset.worker.pending⟩⟩
  | newBufferNotify hc =>
      exact ⟨h.allocated, h.queued, h.registered,
        ⟨h.worker.scanned, h.worker.hand, h.worker.pending⟩⟩
  | fenceSignal =>
      exact ⟨h.allocated, h.queued, h.registered,
        ⟨h.worker.scanned, h.worker.hand, h.worker.pending⟩⟩
  | workerFini =>
      exact ⟨h.allocated, h.queued, h.registered,
        ⟨h.worker.scanned, h.worker.hand, h.worker.pending⟩⟩
  | eventFdCreated hpc =>
      exact ⟨h.allocated, h.queued, h.registered, .idle rfl rfl rfl⟩
  | eventFdFailed hpc =>
      exact ⟨h.allocated, h.queued, h.registered, .idle rfl rfl rfl⟩
  | scanStart hpc =>
      exact ⟨h.allocated, h.queued, h.registered, .scan (fun _ hs => hs) nofun rfl⟩
  | loopEnd hpc => exact ⟨h.allocated, h.queued, nofun, .idle rfl rfl rfl⟩
  | scanEnd hpc => exact h.goto (.idle rfl rfl rfl)
  | @scanWaiting s rest b hpc hwait =>
      refine h.goto (.scan (fun t ht => h.worker.scanned t ?_) nofun rfl)
      rw [hpc]
      exact List.mem_cons_of_mem _ ht
  | scanPrepare hpc hwait =>
      refine h.goto (.scan (fun t ht => h.worker.scanned t ?_) nofun rfl)
      rw [hpc]
      exact ht
  | popEmpty hpc hqueue =>
      refine h.goto (.scan (fun t ht => h.worker.scanned t ?_) nofun rfl)
      rw [hpc]
      exact List.mem_cons_of_mem _ ht
  | @popBuffer s rest b queue hpc hqueue =>
      have hswap : (st.surface s).swapchain = true := h.queued s (by rw [hqueue]; nofun)
      have hset := h.setSurface s { st.surface s with queue := queue }
        (fun hs => h.allocated s hs) id fun _ => hswap
      refine hset.goto (.scan (fun t ht => h.worker.scanned t ?_) ?_ rfl)
      · rw [hpc]
        exact ht
      · rintro r ⟨⟩
        simpa [State.setSurface] using hswap
  | @fenceAdded s b rest hpc hfence hnew =>
      have hswap : (st.surface s).swapchain = true :=
        h.worker.hand (s, b) (by rw [hpc]; rfl)
      have hlist : s ∈ st.surfaceList := h.worker.scanned s (by rw [hpc]; exact List.mem_cons_self)
      have hadd : Inv { st with epoll := (st.waitSync b, s) :: st.epoll } := by
        refine ⟨h.allocated, h.queued, fun r hr => ?_,
          ⟨h.worker.scanned, h.worker.hand, h.worker.pending⟩⟩
        rcases List.mem_cons.mp hr with rfl | hold
        · exact ⟨hswap, hlist⟩
        · exact h.registered r hold
      have hset := hadd.setSurface s { st.surface s with drawWaitBuffer := some b }
        (fun hs => h.allocated s hs) id (fun hq => h.queued s hq)
      refine hset.goto (.scan (fun t ht => h.worker.scanned t ?_) nofun rfl)
      rw [hpc]
      exact List.mem_cons_of_mem _ ht
  | @fenceNotAdded s b rest added hpc =>
      refine h.goto (.scan (fun t ht => h.worker.scanned t ?_)
        (fun r hr => h.worker.hand r ?_) rfl)
      · rw [hpc]
        exact ht
      · rw [hpc]
        exact hr
  | drawDoneRejected hpc =>
      refine ⟨h.allocated, h.queued, h.registered,
        .scan (fun t ht => h.worker.scanned t ?_) (fun _ hr => nomatch hr) rfl⟩
      rw [hpc]
      exact ht
  | @epollWait evs hpc hready =>
      refine h.goto (.batch rfl rfl fun s hs => ?_)
      obtain ⟨r, hr, rfl, -⟩ := hready _ hs
      exact h.registered r hr
  | batchEnd hpc => exact h.goto (.idle rfl rfl rfl)
  | readEventFd hpc =>
      have hok := h.handled (by rw [hpc]; rfl)
      exact ⟨h.allocated, h.queued, h.registered, ⟨hok.scanned, hok.hand, hok.pending⟩⟩
  | noEpollin hpc => exact h.goto (h.handled (by rw [hpc]; rfl))
  | drawWaiting hpc hwait => exact h.goto (h.handling rfl rfl (by rw [hpc]; rfl))
  | alreadySignalled hpc => exact h.goto (h.handled (by rw [hpc]; rfl))
  | noFence hpc hwait hnone => exact h.goto (h.handling rfl rfl (by rw [hpc]; rfl))
  | @fenceSignalled s evs b hpc hwait =>
      have hok : WorkerOk st (.finish s .errorNone (some (st.waitSync b)) evs) :=
        h.handling rfl rfl (by rw [hpc]; rfl)
      refine ⟨h.allocated, h.queued, fun r hr => h.registered r ?_,
        ⟨hok.scanned, hok.hand, hok.pending⟩⟩
      exact (List.mem_filter.mp hr).1
  | fenceNotSignalled hpc => exact h.goto (h.handled (by rw [hpc]; rfl))
  | @drawDone s result report evs b hpc hwait =>
      have hok : WorkerOk st (.clear s evs) := h.handling rfl rfl (by rw [hpc]; rfl)
      exact ⟨h.allocated, h.queued, h.registered, ⟨hok.scanned, hok.hand, hok.pending⟩⟩
  | @clearDrawWaitBuffer s evs hpc =>
      have hset := h.setSurface s { st.surface s with drawWaitBuffer := none }
        (fun hs => h.allocated s hs) id (fun hq => h.queued s hq)
      have hevs : st.worker.pendingEvents = .surface s true :: evs := by
        rw [hpc]
        rfl
      exact hset.goto (hset.handled hevs)

theorem inv_reachable {st : State Ws Buffer Client}
    (h : workerSystem.ReachableWhen DestroysQuiet st) : Inv st := by
  refine h.invariant ?_ fun _ _ _ hinv hallowed hstep => inv_step hinv hallowed hstep
  rintro s ⟨waitSync, signalled, rfl⟩
  exact ⟨nofun, fun _ hq => absurd rfl hq, nofun, .idle rfl rfl rfl⟩

/-- The worker's pointers are live in every run that destroys only quiet swapchains. -/
theorem pointersLive {st : State Ws Buffer Client}
    (h : workerSystem.ReachableWhen DestroysQuiet st) : PointersLive st := fun s hs =>
  (inv_reachable h).worker.pending s (mem_pendingEvents_of_dereferences hs)

instance (st : State Ws Buffer Client) (s : Ws) : Decidable (Quiet st s) :=
  inferInstanceAs (Decidable (_ ∧ _))

instance (st : State Ws Buffer Client) (l : Label Ws Buffer Client) :
    Decidable (DestroysQuiet st l) :=
  inferInstanceAs (Decidable (∀ s ∈ l.destroyed, Quiet st s))

def destroyBesideFence : List (Label Bool Nat Unit) :=
  [.createSurface true true, .createSwapchain true, .createSurface false false,
    .createSwapchain false, .prepareEventFd true, .enqueueBuffer () true 7 3 true, .loopStart,
    .scanNext, .popBuffer, .pollFence true, .scanNext, .popBuffer, .scanNext,
    .epollWait [.surface true true], .handleEvent, .destroySwapchain false]

theorem pointersLive_destroy_beside_fence :
    ∃ st, workerSystem.runWhen DestroysQuiet (workerInit (fun _ => -1) fun _ => false)
        destroyBesideFence = some st ∧
      st.worker.dereferences = some true ∧ PointersLive st := by
  obtain ⟨st, hrun, hpc⟩ := workerSystem.exists_of_runWhen
    DestroysQuiet (fun st => st.worker.dereferences = some true)
    (workerInit (fun _ => -1) fun _ => false) destroyBesideFence (by decide)
  exact ⟨st, hrun, hpc, pointersLive (.of_runWhen (.initial ⟨_, _, rfl⟩) hrun)⟩

/-- The swapchain is destroyed while its fence is registered; the fence signals. -/
def destroyBeforeFence : List (Label Unit Nat Unit) :=
  [.createSurface () true, .createSwapchain (), .prepareEventFd true,
    .enqueueBuffer () () 7 3 false, .loopStart, .scanNext, .popBuffer, .pollFence true,
    .scanNext, .destroySwapchain (), .fenceSignal 3, .epollWait [.surface () true]]

/-- The worker then dereferences a worker surface that is not in `surface_list`. -/
theorem pointers_not_live :
    ¬ ∀ st : State Unit Nat Unit, workerSystem.Reachable st → PointersLive st := by
  intro hall
  obtain ⟨st, hrun, hpc, hlist⟩ := workerSystem.exists_of_run
    (fun st => st.worker.dereferences = some () ∧ st.surfaceList = [])
    (workerInit (fun _ => -1) fun _ => false) destroyBeforeFence (by decide)
  have hlive := hall st (.of_run (.initial ⟨_, _, rfl⟩) hrun) () hpc
  rw [Live, hlist] at hlive
  exact List.not_mem_nil hlive.2

end

end LibtplEgl.WorkerPointers
