import LibtplEgl.WorkerDescriptors
import Mathlib.Algebra.BigOperators.Group.Finset.Basic
import Mathlib.Algebra.BigOperators.Ring.Finset
import Mathlib.Algebra.Order.BigOperators.Group.Finset

namespace LibtplEgl.WorkerShutdown

open LibtplEgl.LabelledSystem
open LibtplEgl.WorkerThread (EpollEvent Fd epollMaxSize)
open LibtplEgl.WorkerLifecycle
open LibtplEgl.WorkerDescriptors

universe u v

section

variable {Ws : Type u} {Client : Type v}

def Woken (st : State Ws Client) : Prop := ∃ counter, st.reached = some (.event (counter + 1))

theorem Woken.update {st st' : State Ws Client} (h : Woken st) {fd : Fd} {d : Option Description}
    (hother : ∀ counter, st.table fd ≠ some (.event counter)) (hevent : st'.eventFd = st.eventFd)
    (htable : st'.table = Function.update st.table fd d) : Woken st' := by
  obtain ⟨counter, hcounter⟩ := h
  refine ⟨counter, ?_⟩
  have hne : st.eventFd ≠ fd := by
    rintro rfl
    exact hother _ hcounter
  rw [State.reached, htable, hevent, Function.update_of_ne hne]
  exact hcounter

theorem Woken.of_write (st : State Ws Client) {st' : State Ws Client} {n : Nat}
    (hevent : st'.eventFd = st.eventFd)
    (htable : st'.table = Function.update st.table st.eventFd (some (.event (n + 1)))) :
    Woken st' := by
  refine ⟨n, ?_⟩
  rw [State.reached, htable, hevent, Function.update_self]

theorem committed_loops {pc : WorkerPc Ws} (h : pc.committed = true) : pc.loops = true := by
  cases pc <;> first | rfl | cases h

end

section

variable {Ws : Type u} {Client : Type v} [DecidableEq Ws]

/-- The destructor and the worker: whoever comes second sees what the first has done. -/
structure Handshake (st : State Ws Client) : Prop where
  created : (st.init = .complete ∧ st.running = true) ∨ st.fini.begun = true →
    st.worker ≠ .absent
  stopped : st.fini.cleared = true → st.init = .complete ∧ st.running = false
  woken : st.fini = .join → st.worker.committed = true → Woken st
  batch : ∀ evs, st.worker = .handle evs →
    evs.count .worker ≤ 1 ∧ (EpollEvent.worker ∈ evs → Woken st)

namespace Handshake

variable {st st' : State Ws Client}

theorem frame (h : Handshake st) (hinit : st'.init = st.init)
    (hrunning : st'.running = st.running) (hfini : st'.fini = st.fini)
    (hworker : st'.worker = st.worker) (hwoken : Woken st → Woken st') : Handshake st' := by
  constructor
  · rw [hinit, hrunning, hfini, hworker]
    exact h.created
  · rw [hfini, hinit, hrunning]
    exact h.stopped
  · rw [hfini, hworker]
    exact fun hjoin hcommitted => hwoken (h.woken hjoin hcommitted)
  · rw [hworker]
    exact fun evs hevs => ⟨(h.batch evs hevs).1, fun hmem => hwoken ((h.batch evs hevs).2 hmem)⟩

theorem move (h : Handshake st) (hinit : st'.init = st.init)
    (hrunning : st'.running = st.running) (hfini : st'.fini = st.fini)
    (hworker : st'.worker ≠ .absent)
    (hwoken : st.fini = .join → st.running = false → st'.worker.committed = true → Woken st')
    (hbatch : ∀ evs, st'.worker = .handle evs →
      evs.count .worker ≤ 1 ∧ (EpollEvent.worker ∈ evs → Woken st')) : Handshake st' := by
  constructor
  · exact fun _ => hworker
  · rw [hfini, hinit, hrunning]
    exact h.stopped
  · rw [hfini]
    intro hjoin hcommitted
    exact hwoken hjoin (h.stopped (by rw [hjoin]; rfl)).2 hcommitted
  · exact hbatch

theorem commit (h : Handshake st) {pc : WorkerPc Ws} (hinit : st'.init = st.init)
    (hrunning : st'.running = st.running) (hfini : st'.fini = st.fini)
    (htable : st'.reached = st.reached) (hcommitted : st.worker.committed = true)
    (hworker : st'.worker = pc) (hpc : pc.committed = true) : Handshake st' := by
  refine h.move hinit hrunning hfini ?_ (fun hjoin _ _ => ?_) ?_
  · rw [hworker]
    rintro rfl
    cases hpc
  · unfold Woken
    rw [htable]
    exact h.woken hjoin hcommitted
  · rw [hworker]
    rintro evs rfl
    cases hpc

theorem pass (h : Handshake st) {pc : WorkerPc Ws} (hinit : st'.init = st.init)
    (hrunning : st'.running = st.running) (hfini : st'.fini = st.fini)
    (hworker : st'.worker = pc) (habsent : pc ≠ .absent) (hcommitted : pc.committed = false)
    (hhandle : ∀ evs, pc ≠ .handle evs) : Handshake st' := by
  refine h.move hinit hrunning hfini ?_ (fun _ _ hpc => ?_) fun evs hevs => ?_
  · rw [hworker]
    exact habsent
  · rw [hworker, hcommitted] at hpc
    cases hpc
  · exact absurd (hworker.symm.trans hevs) (hhandle evs)

end Handshake

theorem Handshake.construct {st' : State Ws Client} (hfini : st'.fini = .idle)
    (hcreated : st'.init = .complete → st'.running = true → st'.worker ≠ .absent)
    (hworker : st'.worker.loops = false) : Handshake st' := by
  constructor
  · rintro (⟨hinit, hrunning⟩ | hbegun)
    · exact hcreated hinit hrunning
    · rw [hfini] at hbegun
      cases hbegun
  · rw [hfini]
    nofun
  · rw [hfini]
    nofun
  · intro evs hevs
    rw [hevs] at hworker
    cases hworker

theorem Handshake.fini {st st' : State Ws Client} (h : Handshake st)
    (hinit : st'.init = st.init) (hcreated : st'.fini.begun = true → st.worker ≠ .absent)
    (hstopped : st'.fini.cleared = true → st'.init = .complete ∧ st'.running = false)
    (hrunning : st'.running = true → st.running = true)
    (hworker : st'.worker = st.worker) (hwoken : Woken st → Woken st')
    (hjoin : st'.fini = .join → st.worker.committed = true → Woken st') : Handshake st' := by
  constructor
  · rw [hworker, hinit]
    rintro (⟨hcomplete, hrun⟩ | hbegun)
    · exact h.created (Or.inl ⟨hcomplete, hrunning hrun⟩)
    · exact hcreated hbegun
  · exact hstopped
  · rw [hworker]
    exact hjoin
  · rw [hworker]
    exact fun evs hevs => ⟨(h.batch evs hevs).1, fun hmem => hwoken ((h.batch evs hevs).2 hmem)⟩

end

section

variable {Ws : Type u} {Client : Type v} [DecidableEq Ws] [DecidableEq Client]

theorem handshake_step {st st' : State Ws Client} {l : Label Ws Client}
    (hcons : Constructing st) (hdesc : Descriptors st) (h : Handshake st)
    (hstep : step st l = some st') : Handshake st' := by
  cases Fires.of_step hstep with
  | mutexInit hinit =>
      obtain ⟨habsent, hidle⟩ := hcons (by rw [hinit]; nofun)
      exact .construct hidle nofun (by rw [habsent]; rfl)
  | mutexInitFailed hinit =>
      obtain ⟨habsent, hidle⟩ := hcons (by rw [hinit]; nofun)
      exact .construct hidle nofun (by rw [habsent]; rfl)
  | threadCreate hinit =>
      obtain ⟨-, hidle⟩ := hcons (by rw [hinit]; nofun)
      exact .construct hidle nofun rfl
  | threadCreateFailed hinit =>
      obtain ⟨habsent, hidle⟩ := hcons (by rw [hinit]; nofun)
      exact .construct hidle nofun (by rw [habsent]; rfl)
  | finiTest hcomplete hidle hrunning =>
      exact h.fini rfl (fun _ => h.created (Or.inl ⟨hcomplete, hrunning⟩)) nofun (fun h => h) rfl
        (fun h => h) nofun
  | finiReturn => exact h.fini rfl nofun nofun (fun h => h) rfl (fun h => h) nofun
  | finiStop hfini =>
      have hcomplete : st.init = .complete := by
        by_contra hinit
        have hidle := (hcons hinit).2
        rw [hfini] at hidle
        cases hidle
      exact h.fini rfl (fun _ => h.created (Or.inr (by rw [hfini]; rfl)))
        (fun _ => ⟨hcomplete, rfl⟩) nofun rfl (fun h => h) nofun
  | finiNoEventFd hfini hfd =>
      refine h.fini rfl (fun _ => h.created (Or.inr (by rw [hfini]; rfl)))
        (fun _ => h.stopped (by rw [hfini]; rfl)) (fun h => h) rfl (fun h => h) fun _ hpc => ?_
      -- a worker with an eventfd has stored its number
      obtain ⟨counter, hcounter⟩ := hdesc.eventFd_reached (committed_loops hpc)
      exact absurd hfd (hdesc.ne_neg_one hcounter)
  | finiCheck hfini =>
      exact h.fini rfl (fun _ => h.created (Or.inr (by rw [hfini]; rfl)))
        (fun _ => h.stopped (by rw [hfini]; rfl)) (fun h => h) rfl (fun h => h) nofun
  | finiWrite hfini hreached =>
      exact h.fini rfl (fun _ => h.created (Or.inr (by rw [hfini]; rfl)))
        (fun _ => h.stopped (by rw [hfini]; rfl)) (fun h => h) rfl
        (fun _ => .of_write st rfl rfl) fun _ _ => .of_write st rfl rfl
  | finiStrayWrite hfini hother =>
      refine h.fini rfl (fun _ => h.created (Or.inr (by rw [hfini]; rfl)))
        (fun _ => h.stopped (by rw [hfini]; rfl)) (fun h => h) rfl (fun h => h) fun _ hpc => ?_
      obtain ⟨counter, hcounter⟩ := hdesc.eventFd_reached (committed_loops hpc)
      exact absurd hcounter (hother counter)
  | finiJoin hfini =>
      exact h.fini rfl (fun _ => h.created (Or.inr (by rw [hfini]; rfl)))
        (fun _ => h.stopped (by rw [hfini]; rfl)) (fun h => h) rfl (fun h => h) nofun
  | notifyCheck | notifyStrayWrite | enqueue | insert | remove =>
      exact h.frame rfl rfl rfl rfl fun h => h
  | notifyWrite hreached =>
      exact h.frame rfl rfl rfl rfl fun _ => .of_write st rfl rfl
  | openForeign hunused =>
      exact h.frame rfl rfl rfl rfl fun hwoken =>
        hwoken.update (by simp [hunused.2]) rfl rfl
  | closeForeign hforeign =>
      exact h.frame rfl rfl rfl rfl fun hwoken =>
        hwoken.update (by simp [hforeign]) rfl rfl
  | epollFailed => exact h
  | epollCreate | epollCreateFailed | eventfd | eventfdFailed | epollAdd | epollAddFailed
  | storeEventFd | storeFailed | loopEnds | lockFailed | batchEnd | noEpoll | closeEpoll
  | noEventFd | closeEventFd | resetEventFd => exact h.pass rfl rfl rfl rfl nofun rfl nofun
  | loopContinues hpc hrunning =>
      refine h.move rfl rfl rfl nofun (fun _ hstopped _ => ?_) nofun
      rw [hrunning] at hstopped
      cases hstopped
  | lockMutex hpc | scanEnd hpc | scanWaiting hpc | scanPrepare hpc | popEmpty hpc
  | popBuffer hpc | fenceAdded hpc | drawDone hpc =>
      exact h.commit rfl rfl rfl rfl (by rw [hpc]; rfl) rfl rfl
  | epollWait hpc hlength hcount hready =>
      refine h.move rfl rfl rfl nofun nofun fun evs hevs => ?_
      cases hevs
      exact ⟨hcount, fun hmem => hready _ hmem⟩
  | @readEventFd done evs hpc =>
      refine h.move rfl rfl rfl nofun nofun fun evs' hevs => ?_
      cases hevs
      -- the only event of the eventfd in the batch is handled
      have hcount := (h.batch _ hpc).1
      rw [List.count_cons_self] at hcount
      have hnone : EpollEvent.worker ∉ evs := List.count_eq_zero.mp (by omega)
      exact ⟨by omega, fun hmem => absurd hmem hnone⟩
  | surfaceDone hpc | surfaceEvent hpc =>
      refine h.move rfl rfl rfl nofun nofun fun evs' hevs => ?_
      cases hevs
      obtain ⟨hcount, hwoken⟩ := h.batch _ hpc
      exact ⟨List.count_le_count_cons.trans hcount,
        fun hmem => hwoken (List.mem_cons_of_mem _ hmem)⟩

theorem inv_step {st st' : State Ws Client} {l : Label Ws Client}
    (h : (Constructing st ∧ Descriptors st) ∧ Handshake st) (hstep : step st l = some st') :
    (Constructing st' ∧ Descriptors st') ∧ Handshake st' := by
  obtain ⟨⟨hcons, hdesc⟩, hhand⟩ := h
  exact ⟨⟨constructing_step hcons hstep, descriptors_step hcons hdesc hstep⟩,
    handshake_step hcons hdesc hhand hstep⟩

theorem inv_initial {st : State Ws Client} (h : lifecycleSystem.Initial st) :
    (Constructing st ∧ Descriptors st) ∧ Handshake st := by
  refine ⟨descriptors_initial h, ?_⟩
  obtain ⟨isOpen, rfl⟩ := h
  exact .construct rfl nofun rfl

theorem handshake_reachable {st : State Ws Client} (h : lifecycleSystem.Reachable st) :
    Handshake st := by
  have hinv : (Constructing st ∧ Descriptors st) ∧ Handshake st :=
    h.invariant (fun _ => inv_initial) fun _ _ _ hinv _ hstep => inv_step hinv hstep
  exact hinv.2

def ofWorker : Label Ws Client → Bool
  | .epollCreate _ | .eventfd _ | .epollAdd _ | .storeEventFd | .testRunning | .lockMutex _
  | .scanNext | .popBuffer | .pollFence _ | .epollWait _ | .epollFailed | .handleEvent _
  | .closeEpoll | .closeEventFd | .resetEventFd => true
  | _ => false

/-- The worker's steps that a label can add to the ones it has left. -/
def adds : Label Ws Client → Nat
  | .enqueue _ | .insert _ => 2
  | .epollFailed => 1
  | _ => 0

end

section

variable {Ws : Type u} {Client : Type v} [DecidableEq Ws]

/-- The steps of a scan: one that finds a surface, one that leaves it, two for each
buffer in its queue. -/
def scanCost (queue : Ws → Nat) (surfaces : List Ws) : Nat :=
  2 * (∑ s ∈ surfaces.toFinset, queue s) + 2 * surfaces.length

/-- A bound on the worker's steps to its end, once `running` is cleared. -/
def rank (st : State Ws Client) : Nat :=
  match st.worker with
  | .absent | .exited => 0
  | .resetEvent => 1
  | .closeEvent => 2
  | .cleanup => 3
  | .test => 4
  | .store _ => 5
  | .register _ => 6
  | .prepare => 7
  | .start => 8
  | .handle evs => 5 + evs.length
  | .epollWait => 6 + epollMaxSize
  | .scan rest => 7 + epollMaxSize + scanCost st.queue rest
  | .prepareBuffer s rest =>
      8 + epollMaxSize + 2 * (∑ x ∈ insert s rest.toFinset, st.queue x) + 2 * rest.length
  | .popped s rest =>
      9 + epollMaxSize + 2 * (∑ x ∈ insert s rest.toFinset, st.queue x) + 2 * rest.length
  | .lock => 8 + epollMaxSize + scanCost st.queue st.surfaceList

theorem sum_update_le (queue : Ws → Nat) (s : Ws) (A : Finset Ws) :
    ∑ x ∈ A, Function.update queue s (queue s + 1) x ≤ ∑ x ∈ A, queue x + 1 := by
  by_cases hs : s ∈ A
  · rw [Finset.sum_update_of_mem hs, ← Finset.add_sum_erase A queue hs,
      Finset.sdiff_singleton_eq_erase]
    omega
  · rw [Finset.sum_update_of_notMem hs]
    omega

theorem sum_update_zero_le (queue : Ws → Nat) (s : Ws) (A : Finset Ws) :
    ∑ x ∈ A, Function.update queue s 0 x ≤ ∑ x ∈ A, queue x := by
  refine Finset.sum_le_sum fun x _ => ?_
  by_cases hx : x = s
  · rw [hx, Function.update_self]
    exact Nat.zero_le _
  · rw [Function.update_of_ne hx]

theorem sum_pop {queue : Ws → Nat} {s : Ws} {n : Nat} (h : queue s = n + 1) (A : Finset Ws)
    (hs : s ∈ A) : ∑ x ∈ A, Function.update queue s n x + 1 = ∑ x ∈ A, queue x := by
  rw [Finset.sum_update_of_mem hs, ← Finset.add_sum_erase A queue hs,
    Finset.sdiff_singleton_eq_erase, h]
  omega

theorem scanCost_insert (queue : Ws → Nat) (s : Ws) (surfaces : List Ws) :
    scanCost (Function.update queue s 0) (surfaces ++ [s]) ≤ scanCost queue surfaces + 2 := by
  have hsum : ∑ x ∈ (surfaces ++ [s]).toFinset, Function.update queue s 0 x ≤
      ∑ x ∈ surfaces.toFinset, queue x := by
    rw [List.toFinset_append, List.toFinset_cons, List.toFinset_nil, insert_empty_eq]
    calc ∑ x ∈ surfaces.toFinset ∪ {s}, Function.update queue s 0 x
        ≤ ∑ x ∈ surfaces.toFinset, Function.update queue s 0 x +
            ∑ x ∈ {s}, Function.update queue s 0 x := by
          rw [← Finset.sum_union_inter]
          exact Nat.le_add_right _ _
      _ = ∑ x ∈ surfaces.toFinset, Function.update queue s 0 x := by
          rw [Finset.sum_singleton, Function.update_self, Nat.add_zero]
      _ ≤ _ := sum_update_zero_le queue s _
  unfold scanCost
  rw [List.length_append, List.length_singleton]
  omega

theorem scanCost_remove (queue : Ws → Nat) (s : Ws) (surfaces : List Ws) :
    scanCost (Function.update queue s 0) (surfaces.erase s) ≤ scanCost queue surfaces := by
  have hsubset : (surfaces.erase s).toFinset ⊆ surfaces.toFinset := by
    intro x hx
    exact List.mem_toFinset.mpr (List.mem_of_mem_erase (List.mem_toFinset.mp hx))
  have hsum : ∑ x ∈ (surfaces.erase s).toFinset, queue x ≤ ∑ x ∈ surfaces.toFinset, queue x :=
    Finset.sum_le_sum_of_subset hsubset
  have hzero := sum_update_zero_le queue s (surfaces.erase s).toFinset
  have hlength := List.length_erase_le (a := s) (l := surfaces)
  unfold scanCost
  omega

theorem rank_enqueue (st : State Ws Client) (s : Ws) :
    rank { st with queue := Function.update st.queue s (st.queue s + 1) } ≤
      rank st + 2 := by
  have hsum := sum_update_le st.queue s
  unfold rank scanCost
  cases st.worker with
  | scan rest =>
      have := hsum rest.toFinset
      simp only
      omega
  | prepareBuffer t rest =>
      have := hsum (insert t rest.toFinset)
      simp only
      omega
  | popped t rest =>
      have := hsum (insert t rest.toFinset)
      simp only
      omega
  | lock =>
      have := hsum st.surfaceList.toFinset
      simp only
      omega
  | _ => exact Nat.le_add_right _ _

theorem rank_list {st st' : State Ws Client} (hworker : st'.worker = st.worker)
    (hmutex : st.worker.holdsSurfaceMutex = false) {n : Nat}
    (hcost : scanCost st'.queue st'.surfaceList ≤ scanCost st.queue st.surfaceList + n) :
    rank st' ≤ rank st + n := by
  unfold rank
  rw [hworker]
  cases hpc : st.worker with
  | scan | prepareBuffer | popped =>
      rw [hpc] at hmutex
      cases hmutex
  | lock =>
      simp only
      omega
  | _ => exact Nat.le_add_right _ _

theorem rank_insert {st : State Ws Client} (s : Ws)
    (hmutex : st.worker.holdsSurfaceMutex = false) :
    rank { st with
      surfaceList := st.surfaceList ++ [s]
      queue := Function.update st.queue s 0
      waiting := Function.update st.waiting s false } ≤ rank st + 2 := by
  refine rank_list ?_ hmutex ?_
  · rfl
  · exact scanCost_insert st.queue s st.surfaceList

theorem rank_remove {st : State Ws Client} (s : Ws)
    (hmutex : st.worker.holdsSurfaceMutex = false) :
    rank { st with
      surfaceList := st.surfaceList.erase s
      queue := Function.update st.queue s 0 } ≤ rank st := by
  rw [← Nat.add_zero (rank st)]
  refine rank_list ?_ hmutex ?_
  · rfl
  · exact scanCost_remove st.queue s st.surfaceList

theorem sum_insert_le (queue : Ws → Nat) (s : Ws) (rest : List Ws) :
    ∑ x ∈ rest.toFinset, queue x ≤ ∑ x ∈ insert s rest.toFinset, queue x :=
  Finset.sum_le_sum_of_subset (Finset.subset_insert s rest.toFinset)

end

section

variable {Ws : Type u} {Client : Type v} [DecidableEq Ws] [DecidableEq Client]

theorem rank_scan {st st' : State Ws Client} {l : Label Ws Client} (h : Fires st l st')
    (hmutex : st.worker.holdsSurfaceMutex = true) (hl : ofWorker l = true) :
    rank st' + 1 ≤ rank st := by
  cases h with
  | scanEnd hpc =>
      simp only [rank, State.goto, hpc, scanCost]
      omega
  | @scanWaiting s rest hpc =>
      have hsum := sum_insert_le st.queue s rest
      simp only [rank, State.goto, hpc, scanCost, List.toFinset_cons, List.length_cons]
      omega
  | @scanPrepare s rest hpc =>
      simp only [rank, State.goto, hpc, scanCost, List.toFinset_cons, List.length_cons]
      omega
  | @popEmpty s rest hpc =>
      have hsum := sum_insert_le st.queue s rest
      simp only [rank, State.goto, hpc, scanCost]
      omega
  | @popBuffer s rest n hpc hqueue =>
      have hsum := sum_pop hqueue (insert s rest.toFinset) (Finset.mem_insert_self _ _)
      simp only [rank, State.goto, hpc]
      omega
  | @fenceAdded s rest hpc =>
      have hsum := sum_insert_le st.queue s rest
      simp only [rank, State.goto, hpc, scanCost]
      omega
  | drawDone hpc =>
      simp only [rank, State.goto, hpc]
      omega
  | epollCreate hpc | epollCreateFailed hpc | eventfd hpc | eventfdFailed hpc | epollAdd hpc
  | epollAddFailed hpc | storeEventFd hpc | storeFailed hpc | loopContinues hpc | loopEnds hpc
  | lockMutex hpc | lockFailed hpc | epollWait hpc | epollFailed hpc | batchEnd hpc
  | readEventFd hpc | surfaceDone hpc | surfaceEvent hpc | noEpoll hpc | closeEpoll hpc
  | noEventFd hpc | closeEventFd hpc | resetEventFd hpc =>
      rw [hpc] at hmutex
      cases hmutex
  | _ => cases hl

/-- Each step of the worker is paid from its rank, or from what the label adds. -/
theorem rank_step {st st' : State Ws Client} {l : Label Ws Client}
    (hinit : st.init = .complete) (hrunning : st.running = false)
    (hstep : step st l = some st') :
    rank st' + (ofWorker l).toNat ≤ rank st + adds l := by
  have hfires := Fires.of_step hstep
  by_cases hscan : st.worker.holdsSurfaceMutex = true ∧ ofWorker l = true
  · have hpaid := rank_scan hfires hscan.1 hscan.2
    rw [hscan.2, Bool.toNat_true]
    omega
  cases hfires with
  | mutexInit hidle | mutexInitFailed hidle =>
      rw [hinit] at hidle
      cases hidle
  | threadCreate hcreate | threadCreateFailed hcreate =>
      rw [hinit] at hcreate
      cases hcreate
  | finiTest | finiReturn | finiStop | finiNoEventFd | finiCheck | finiWrite | finiStrayWrite
  | finiJoin | notifyCheck | notifyWrite | notifyStrayWrite | openForeign | closeForeign =>
      exact Nat.le_refl (rank st)
  | enqueue => exact rank_enqueue st _
  | insert hmutex => exact rank_insert _ hmutex
  | remove hmutex => exact rank_remove _ hmutex
  | loopContinues _ hrun =>
      rw [hrunning] at hrun
      cases hrun
  | epollFailed => exact Nat.le_refl (rank st + 1)
  | scanEnd hpc | scanWaiting hpc | scanPrepare hpc | popEmpty hpc | popBuffer hpc
  | fenceAdded hpc | drawDone hpc => exact absurd ⟨by rw [hpc]; rfl, rfl⟩ hscan
  | epollCreate hpc | epollCreateFailed hpc | eventfd hpc | eventfdFailed hpc | epollAdd hpc
  | epollAddFailed hpc | storeEventFd hpc | storeFailed hpc | loopEnds hpc | batchEnd hpc
  | noEpoll hpc | closeEpoll hpc | noEventFd hpc | closeEventFd hpc | resetEventFd hpc =>
      simp [rank, State.goto, State.setTable, ofWorker, adds, hpc]
  | lockMutex hpc | lockFailed hpc =>
      simp only [rank, State.goto, ofWorker, adds, hpc, Bool.toNat_true]
      omega
  | epollWait hpc hlength =>
      simp only [rank, State.goto, ofWorker, adds, hpc, Bool.toNat_true]
      omega
  | readEventFd hpc | surfaceDone hpc | surfaceEvent hpc =>
      simp only [rank, State.goto, State.setTable, ofWorker, adds, hpc, Bool.toNat_true,
        List.length_cons]
      omega

theorem stopped_step {st st' : State Ws Client} {l : Label Ws Client}
    (hstopped : st.init = .complete ∧ st.running = false) (hstep : step st l = some st') :
    st'.init = .complete ∧ st'.running = false := by
  cases Fires.of_step hstep with
  | mutexInit hidle =>
      rw [hstopped.1] at hidle
      cases hidle
  | mutexInitFailed | threadCreateFailed => exact ⟨rfl, rfl⟩
  | threadCreate => exact ⟨rfl, hstopped.2⟩
  | finiStop => exact ⟨hstopped.1, rfl⟩
  | _ => exact hstopped

theorem worker_can_step {st : State Ws Client} (h : Handshake st) (hjoin : st.fini = .join)
    (hpc : st.worker ≠ .exited) :
    ∃ l st', ofWorker l = true ∧ l ≠ .epollFailed ∧ step st l = some st' := by
  have hcreated : st.worker ≠ .absent := h.created (Or.inr (by rw [hjoin]; rfl))
  cases hworker : st.worker with
  | absent => exact absurd hworker hcreated
  | exited => exact absurd hworker hpc
  | start => exact ⟨.epollCreate none, _, rfl, by simp, by simp [step, hworker]; rfl⟩
  | prepare => exact ⟨.eventfd none, _, rfl, by simp, by simp [step, hworker]; rfl⟩
  | register fd => exact ⟨.epollAdd true, _, rfl, by simp, by simp [step, hworker]; rfl⟩
  | store fd => exact ⟨.storeEventFd, _, rfl, by simp, by simp [step, hworker]; rfl⟩
  | test => exact ⟨.testRunning, _, rfl, by simp, by simp [step, hworker]; rfl⟩
  | lock => exact ⟨.lockMutex true, _, rfl, by simp, by simp [step, hworker]; rfl⟩
  | scan rest =>
      cases rest with
      | nil => exact ⟨.scanNext, _, rfl, by simp, by simp [step, hworker]; rfl⟩
      | cons s rest => exact ⟨.scanNext, _, rfl, by simp, by simp [step, hworker]; rfl⟩
  | prepareBuffer s rest =>
      cases hqueue : st.queue s with
      | zero => exact ⟨.popBuffer, _, rfl, by simp, by simp [step, hworker, hqueue]; rfl⟩
      | succ n => exact ⟨.popBuffer, _, rfl, by simp, by simp [step, hworker, hqueue]; rfl⟩
  | popped s rest => exact ⟨.pollFence true, _, rfl, by simp, by simp [step, hworker]; rfl⟩
  | epollWait =>
      have hwoken : Woken st := h.woken hjoin (by rw [hworker]; rfl)
      refine ⟨.epollWait [.worker], _, rfl, by simp, if_pos ⟨hworker, by simp, ?_, ?_, ?_⟩⟩
      · exact Nat.le_of_ble_eq_true rfl
      · simp
      · intro ev hev
        obtain rfl := List.mem_singleton.mp hev
        exact hwoken
  | handle evs =>
      cases evs with
      | nil => exact ⟨.handleEvent true, _, rfl, by simp, by simp [step, hworker]; rfl⟩
      | cons ev evs =>
          cases ev with
          | worker =>
              obtain ⟨counter, hcounter⟩ := (h.batch _ hworker).2 List.mem_cons_self
              exact ⟨.handleEvent true, _, rfl, by simp, by simp [step, hworker, hcounter]; rfl⟩
          | surface s epollin =>
              exact ⟨.handleEvent false, _, rfl, by simp, by simp [step, hworker]; rfl⟩
  | cleanup =>
      by_cases hfd : st.epollFd = -1
      · exact ⟨.closeEpoll, _, rfl, by simp, by simp [step, hworker, hfd]; rfl⟩
      · exact ⟨.closeEpoll, _, rfl, by simp, by simp [step, hworker, hfd]; rfl⟩
  | closeEvent =>
      by_cases hfd : st.eventFd = -1
      · exact ⟨.closeEventFd, _, rfl, by simp, by simp [step, hworker, hfd]; rfl⟩
      · exact ⟨.closeEventFd, _, rfl, by simp, by simp [step, hworker, hfd]; rfl⟩
  | resetEvent => exact ⟨.resetEventFd, _, rfl, by simp, by simp [step, hworker]; rfl⟩

/-- `pthread_join` of the destructor returns: the worker sees the event of the destructor,
is never blocked, and has only so many steps left. -/
theorem fini_joins {st : State Ws Client} (h : lifecycleSystem.Reachable st)
    (hjoin : st.fini = .join) :
    (st.worker = .epollWait → ∃ counter, st.reached = some (.event (counter + 1))) ∧
      (st.worker = .exited ∨ ∃ l st', ofWorker l = true ∧ l ≠ .epollFailed ∧
        step st l = some st') ∧
      ∀ ls st', lifecycleSystem.run st ls = some st' →
        (ls.map fun l => (ofWorker l).toNat).sum ≤ rank st + (ls.map adds).sum := by
  have hhand := handshake_reachable h
  refine ⟨fun hpc => hhand.woken hjoin (by rw [hpc]; rfl), ?_, fun ls st' hrun => ?_⟩
  · by_cases hpc : st.worker = .exited
    · exact Or.inl hpc
    · exact Or.inr (worker_can_step hhand hjoin hpc)
  · have hstopped := hhand.stopped (by rw [hjoin]; rfl)
    have hpaid := lifecycleSystem.run_budget rank (fun l => (ofWorker l).toNat) adds
      (fun _ _ _ hs hstep => ⟨stopped_step hs hstep, rank_step hs.1 hs.2 hstep⟩) hstopped hrun
    exact (Nat.le_add_left _ _).trans hpaid

/-- The destructor clears `running` while the worker is on its way to `epoll_wait`. -/
def finiDuringScan : List (Label Unit Unit) :=
  [.workerInit true, .threadCreate true, .epollCreate (some 3), .eventfd (some 4), .epollAdd true,
    .storeEventFd, .finiTest, .testRunning, .lockMutex true, .finiStop, .finiCheck, .scanNext,
    .finiWrite]

theorem fini_joins_duringScan :
    ∃ st, lifecycleSystem.run (workerInit fun fd => fd = 0) finiDuringScan = some st ∧
      st.worker = .epollWait ∧ ∃ counter, st.reached = some (.event (counter + 1)) := by
  obtain ⟨st, hrun, hjoin, hpc⟩ := lifecycleSystem.exists_of_run
    (fun st => st.fini = .join ∧ st.worker = .epollWait)
    (workerInit fun fd => fd = 0) finiDuringScan (by decide)
  exact ⟨st, hrun, hpc, (fini_joins (.of_run (.initial ⟨_, rfl⟩) hrun) hjoin).1 hpc⟩

end

end LibtplEgl.WorkerShutdown
