import LibtplEgl.WorkerThread

namespace LibtplEgl.WorkerLifecycle

open LibtplEgl.LabelledSystem
open LibtplEgl.WorkerThread (Fd EpollEvent epollMaxSize)

universe u v

/-- What a descriptor number of the process refers to; `foreign` is not of the worker. -/
inductive Description
  | epoll
  | event (counter : Nat)
  | foreign
  deriving DecidableEq, Repr

/-- Where the worker is in `__tpl_worker_thread_loop`; `register` and `store` are
inside and after `__tpl_worker_prepare_event_fd`. -/
inductive WorkerPc (Ws : Type u)
  | absent
  | start
  | prepare
  | register (fd : Fd)
  | store (fd : Fd)
  | test
  | lock
  | scan (rest : List Ws)
  | prepareBuffer (s : Ws) (rest : List Ws)
  | popped (s : Ws) (rest : List Ws)
  | epollWait
  | handle (evs : List (EpollEvent Ws))
  | cleanup
  | closeEvent
  | resetEvent
  | exited
  deriving DecidableEq, Repr

namespace WorkerPc

variable {Ws : Type u}

/-- Inside the `while` loop or at its condition. -/
def loops : WorkerPc Ws → Bool
  | .test | .lock | .scan _ | .prepareBuffer _ _ | .popped _ _ | .epollWait | .handle _ => true
  | _ => false

/-- From the test of `running` to the return of `epoll_wait`. -/
def committed : WorkerPc Ws → Bool
  | .lock | .scan _ | .prepareBuffer _ _ | .popped _ _ | .epollWait => true
  | _ => false

def holdsSurfaceMutex : WorkerPc Ws → Bool
  | .scan _ | .prepareBuffer _ _ | .popped _ _ => true
  | _ => false

end WorkerPc

/-- Where the destructor is in `__tpl_worker_fini`. -/
inductive FiniPc
  | idle
  | tested
  | stopped
  | checked
  | join
  | joined
  | returned
  deriving DecidableEq, Repr

namespace FiniPc

def begun : FiniPc → Bool
  | .idle | .returned => false
  | _ => true

/-- The destructor has cleared `running`. -/
def cleared : FiniPc → Bool
  | .stopped | .checked | .join | .joined => true
  | _ => false

end FiniPc

/-- Where the constructor is in `__tpl_worker_init`. -/
inductive InitPc
  | idle
  | threadCreate
  | complete
  deriving DecidableEq, Repr

/-- `tpl_worker_thread`, the descriptors of the process and the threads. A client
in `checked` is in `__tpl_worker_event_send` between its two reads of `event_fd`.
`stored` records that `event_fd` was assigned by the worker, `closed` what the cleanup
of the worker has closed. -/
structure State (Ws : Type u) (Client : Type v) where
  running : Bool
  eventFd : Fd
  epollFd : Fd
  table : Fd → Option Description
  surfaceList : List Ws
  queue : Ws → Nat
  waiting : Ws → Bool
  init : InitPc
  fini : FiniPc
  worker : WorkerPc Ws
  checked : Client → Bool
  stored : Bool
  closed : List Description

inductive Label (Ws : Type u) (Client : Type v)
  | workerInit (ok : Bool)
  | threadCreate (ok : Bool)
  | finiTest
  | finiStop
  | finiCheck
  | finiWrite
  | finiJoin
  | notifyCheck (c : Client)
  | notifyWrite (c : Client)
  | enqueue (s : Ws)
  | insert (s : Ws)
  | remove (s : Ws)
  | openForeign (fd : Fd)
  | closeForeign (fd : Fd)
  | epollCreate (fd : Option Fd)
  | eventfd (fd : Option Fd)
  | epollAdd (ok : Bool)
  | storeEventFd
  | testRunning
  | lockMutex (ok : Bool)
  | scanNext
  | popBuffer
  | pollFence (added : Bool)
  | epollWait (evs : List (EpollEvent Ws))
  | epollFailed
  | handleEvent (done : Bool)
  | closeEpoll
  | closeEventFd
  | resetEventFd
  deriving DecidableEq, Repr

/-- A write of 1 to an eventfd blocks when the counter would leave its range. -/
def eventMax : Nat := 0xfffffffffffffffe

section

variable {Ws : Type u} {Client : Type v}

namespace State

/-- What a write, a read or a close through `event_fd` reaches. -/
def reached (st : State Ws Client) : Option Description := st.table st.eventFd

def setTable (st : State Ws Client) (fd : Fd) (d : Option Description) : State Ws Client :=
  { st with table := Function.update st.table fd d }

def goto (st : State Ws Client) (pc : WorkerPc Ws) : State Ws Client := { st with worker := pc }

/-- The `write` of `__tpl_worker_event_send`. Only a write to an eventfd can block. -/
def eventWrite (st : State Ws Client) : Option (State Ws Client) :=
  match st.reached with
  | some (.event counter) =>
      if counter < eventMax then some (st.setTable st.eventFd (some (.event (counter + 1))))
      else none
  | _ => some st

/-- What `epoll_wait` can report of the eventfd. -/
def Ready (st : State Ws Client) : EpollEvent Ws → Prop
  | .worker => ∃ counter, st.reached = some (.event (counter + 1))
  | .surface _ _ => True

instance (st : State Ws Client) (ev : EpollEvent Ws) : Decidable (st.Ready ev) :=
  match ev with
  | .worker =>
      match h : st.reached with
      | some (.event (counter + 1)) => isTrue ⟨counter, h⟩
      | some (.event 0) => isFalse (by rintro ⟨n, hn⟩; rw [h] at hn; cases hn)
      | some .epoll => isFalse (by rintro ⟨n, hn⟩; rw [h] at hn; cases hn)
      | some .foreign => isFalse (by rintro ⟨n, hn⟩; rw [h] at hn; cases hn)
      | none => isFalse (by rintro ⟨n, hn⟩; rw [h] at hn; cases hn)
  | .surface _ _ => isTrue trivial

/-- A descriptor number that the kernel can hand out. -/
def Unused (st : State Ws Client) (fd : Fd) : Prop := 0 ≤ fd ∧ st.table fd = none

instance (st : State Ws Client) (fd : Fd) : Decidable (st.Unused fd) :=
  inferInstanceAs (Decidable (0 ≤ fd ∧ st.table fd = none))

end State

theorem State.eventWrite_cases {st st' : State Ws Client} (h : st.eventWrite = some st') :
    (∃ counter, st.reached = some (.event counter) ∧
      st' = st.setTable st.eventFd (some (.event (counter + 1)))) ∨
    ((∀ counter, st.reached ≠ some (.event counter)) ∧ st' = st) := by
  unfold State.eventWrite at h
  split at h
  · rename_i counter hreached
    split at h
    · exact Or.inl ⟨counter, hreached, (Option.some.inj h).symm⟩
    · cases h
  · rename_i hother
    exact Or.inr ⟨hother, (Option.some.inj h).symm⟩

end

section

variable {Ws : Type u} {Client : Type v} [DecidableEq Ws] [DecidableEq Client]

def step (st : State Ws Client) : Label Ws Client → Option (State Ws Client)
  | .workerInit ok =>
      if st.init = .idle then
        if ok then some { st with running := true, init := .threadCreate }
        else some { st with running := false, init := .complete }
      else none
  | .threadCreate ok =>
      if st.init = .threadCreate then
        if ok then some { st with init := .complete, worker := .start }
        else some { st with running := false, init := .complete }
      else none
  | .finiTest =>
      if st.init = .complete ∧ st.fini = .idle then
        some { st with fini := if st.running then .tested else .returned }
      else none
  | .finiStop =>
      if st.fini = .tested then some { st with running := false, fini := .stopped } else none
  | .finiCheck =>
      if st.fini = .stopped then
        some { st with fini := if st.eventFd = -1 then .join else .checked }
      else none
  | .finiWrite =>
      if st.fini = .checked then st.eventWrite.map ({ · with fini := .join }) else none
  | .finiJoin =>
      if st.fini = .join ∧ st.worker = .exited then some { st with fini := .joined } else none
  | .notifyCheck c =>
      if st.checked c = false ∧ st.eventFd ≠ -1 then
        some { st with checked := Function.update st.checked c true }
      else none
  | .notifyWrite c =>
      if st.checked c then
        st.eventWrite.map ({ · with checked := Function.update st.checked c false })
      else none
  | .enqueue s => some { st with queue := Function.update st.queue s (st.queue s + 1) }
  | .insert s =>
      if st.worker.holdsSurfaceMutex then none
      else some { st with
        surfaceList := st.surfaceList ++ [s]
        queue := Function.update st.queue s 0
        waiting := Function.update st.waiting s false }
  | .remove s =>
      if st.worker.holdsSurfaceMutex then none
      else some { st with
        surfaceList := st.surfaceList.erase s
        queue := Function.update st.queue s 0 }
  | .openForeign fd =>
      if st.Unused fd then some (st.setTable fd (some .foreign)) else none
  | .closeForeign fd =>
      if st.table fd = some .foreign then some (st.setTable fd none) else none
  | .epollCreate fd? =>
      if st.worker = .start then
        match fd? with
        | some fd =>
            if st.Unused fd then
              some (({ st with epollFd := fd }.setTable fd (some .epoll)).goto .prepare)
            else none
        | none => some ({ st with epollFd := -1 }.goto .cleanup)
      else none
  | .eventfd fd? =>
      if st.worker = .prepare then
        match fd? with
        | some fd =>
            if st.Unused fd then some ((st.setTable fd (some (.event 0))).goto (.register fd))
            else none
        | none => some (st.goto (.store (-1)))
      else none
  | .epollAdd ok =>
      match st.worker with
      | .register fd =>
          if ok then some (st.goto (.store fd))
          else some ((st.setTable fd none).goto (.store (-1)))
      | _ => none
  | .storeEventFd =>
      match st.worker with
      | .store fd =>
          some { st with
            eventFd := fd
            stored := true
            worker := if fd = -1 then .cleanup else .test }
      | _ => none
  | .testRunning =>
      if st.worker = .test then some (st.goto (if st.running then .lock else .cleanup))
      else none
  | .lockMutex ok =>
      if st.worker = .lock then some (st.goto (if ok then .scan st.surfaceList else .cleanup))
      else none
  | .scanNext =>
      match st.worker with
      | .scan [] => some (st.goto .epollWait)
      | .scan (s :: rest) =>
          some (st.goto (if st.waiting s then .scan rest else .prepareBuffer s rest))
      | _ => none
  | .popBuffer =>
      match st.worker with
      | .prepareBuffer s rest =>
          match st.queue s with
          | 0 => some (st.goto (.scan rest))
          | n + 1 => some ({ st with queue := Function.update st.queue s n }.goto (.popped s rest))
      | _ => none
  | .pollFence added =>
      match st.worker with
      | .popped s rest =>
          if added then
            some ({ st with waiting := Function.update st.waiting s true }.goto (.scan rest))
          else some (st.goto (.prepareBuffer s rest))
      | _ => none
  | .epollWait evs =>
      if st.worker = .epollWait ∧ evs ≠ [] ∧ evs.length ≤ epollMaxSize ∧
          evs.count .worker ≤ 1 ∧ ∀ ev ∈ evs, st.Ready ev then
        some (st.goto (.handle evs))
      else none
  | .epollFailed => if st.worker = .epollWait then some st else none
  | .handleEvent done =>
      match st.worker with
      | .handle [] => some (st.goto .test)
      | .handle (.worker :: evs) =>
          match st.reached with
          | some (.event (_ + 1)) =>
              some ((st.setTable st.eventFd (some (.event 0))).goto (.handle evs))
          | _ => none
      | .handle (.surface s epollin :: evs) =>
          if epollin ∧ done then
            some ({ st with waiting := Function.update st.waiting s false }.goto (.handle evs))
          else some (st.goto (.handle evs))
      | _ => none
  | .closeEpoll =>
      if st.worker = .cleanup then
        if st.epollFd = -1 then some (st.goto .closeEvent)
        else some (({ st with
          epollFd := -1
          closed := st.closed ++ (st.table st.epollFd).toList }.setTable st.epollFd none).goto
            .closeEvent)
      else none
  | .closeEventFd =>
      if st.worker = .closeEvent then
        if st.eventFd = -1 then some (st.goto .exited)
        else some (({ st with
          closed := st.closed ++ st.reached.toList }.setTable st.eventFd none).goto .resetEvent)
      else none
  | .resetEventFd =>
      if st.worker = .resetEvent then some { st with eventFd := -1, worker := .exited } else none

/-- The statically initialised `tpl_worker_thread` in a process with some descriptors open. -/
def workerInit (isOpen : Fd → Bool) : State Ws Client where
  running := false
  eventFd := 0
  epollFd := -1
  table := fun fd => if 0 ≤ fd ∧ isOpen fd then some .foreign else none
  surfaceList := []
  queue := fun _ => 0
  waiting := fun _ => false
  init := .idle
  fini := .idle
  worker := .absent
  checked := fun _ => false
  stored := false
  closed := []

def lifecycleSystem : System (State Ws Client) (Label Ws Client) where
  Initial st := ∃ isOpen, st = workerInit isOpen
  step := step

inductive Fires : State Ws Client → Label Ws Client → State Ws Client → Prop
  | mutexInit {st} : st.init = .idle →
      Fires st (.workerInit true) { st with running := true, init := .threadCreate }
  | mutexInitFailed {st} : st.init = .idle →
      Fires st (.workerInit false) { st with running := false, init := .complete }
  | threadCreate {st} : st.init = .threadCreate →
      Fires st (.threadCreate true) { st with init := .complete, worker := .start }
  | threadCreateFailed {st} : st.init = .threadCreate →
      Fires st (.threadCreate false) { st with running := false, init := .complete }
  | finiTest {st} : st.init = .complete → st.fini = .idle → st.running = true →
      Fires st .finiTest { st with fini := .tested }
  | finiReturn {st} : st.init = .complete → st.fini = .idle → st.running = false →
      Fires st .finiTest { st with fini := .returned }
  | finiStop {st} : st.fini = .tested →
      Fires st .finiStop { st with running := false, fini := .stopped }
  | finiNoEventFd {st} : st.fini = .stopped → st.eventFd = -1 →
      Fires st .finiCheck { st with fini := .join }
  | finiCheck {st} : st.fini = .stopped → Fires st .finiCheck { st with fini := .checked }
  | finiWrite {st counter} : st.fini = .checked → st.reached = some (.event counter) →
      Fires st .finiWrite
        { st.setTable st.eventFd (some (.event (counter + 1))) with fini := .join }
  | finiStrayWrite {st} : st.fini = .checked → (∀ counter, st.reached ≠ some (.event counter)) →
      Fires st .finiWrite { st with fini := .join }
  | finiJoin {st} : st.fini = .join → Fires st .finiJoin { st with fini := .joined }
  | notifyCheck {st c} :
      Fires st (.notifyCheck c) { st with checked := Function.update st.checked c true }
  | notifyWrite {st c counter} : st.reached = some (.event counter) →
      Fires st (.notifyWrite c)
        { st.setTable st.eventFd (some (.event (counter + 1))) with
          checked := Function.update st.checked c false }
  | notifyStrayWrite {st c} :
      Fires st (.notifyWrite c) { st with checked := Function.update st.checked c false }
  | enqueue {st s} :
      Fires st (.enqueue s) { st with queue := Function.update st.queue s (st.queue s + 1) }
  | insert {st s} : st.worker.holdsSurfaceMutex = false →
      Fires st (.insert s) { st with
        surfaceList := st.surfaceList ++ [s]
        queue := Function.update st.queue s 0
        waiting := Function.update st.waiting s false }
  | remove {st s} : st.worker.holdsSurfaceMutex = false →
      Fires st (.remove s) { st with
        surfaceList := st.surfaceList.erase s
        queue := Function.update st.queue s 0 }
  | openForeign {st fd} : st.Unused fd →
      Fires st (.openForeign fd) (st.setTable fd (some .foreign))
  | closeForeign {st fd} : st.table fd = some .foreign →
      Fires st (.closeForeign fd) (st.setTable fd none)
  | epollCreate {st fd} : st.worker = .start → st.Unused fd →
      Fires st (.epollCreate (some fd))
        (({ st with epollFd := fd }.setTable fd (some .epoll)).goto .prepare)
  | epollCreateFailed {st} : st.worker = .start →
      Fires st (.epollCreate none) ({ st with epollFd := -1 }.goto .cleanup)
  | eventfd {st fd} : st.worker = .prepare → st.Unused fd →
      Fires st (.eventfd (some fd)) ((st.setTable fd (some (.event 0))).goto (.register fd))
  | eventfdFailed {st} : st.worker = .prepare →
      Fires st (.eventfd none) (st.goto (.store (-1)))
  | epollAdd {st fd} : st.worker = .register fd →
      Fires st (.epollAdd true) (st.goto (.store fd))
  | epollAddFailed {st fd} : st.worker = .register fd →
      Fires st (.epollAdd false) ((st.setTable fd none).goto (.store (-1)))
  | storeEventFd {st fd} : st.worker = .store fd → fd ≠ -1 →
      Fires st .storeEventFd { st with eventFd := fd, stored := true, worker := .test }
  | storeFailed {st} : st.worker = .store (-1) →
      Fires st .storeEventFd { st with eventFd := -1, stored := true, worker := .cleanup }
  | loopContinues {st} : st.worker = .test → st.running = true →
      Fires st .testRunning (st.goto .lock)
  | loopEnds {st} : st.worker = .test → Fires st .testRunning (st.goto .cleanup)
  | lockMutex {st} : st.worker = .lock →
      Fires st (.lockMutex true) (st.goto (.scan st.surfaceList))
  | lockFailed {st} : st.worker = .lock → Fires st (.lockMutex false) (st.goto .cleanup)
  | scanEnd {st} : st.worker = .scan [] → Fires st .scanNext (st.goto .epollWait)
  | scanWaiting {st s rest} : st.worker = .scan (s :: rest) →
      Fires st .scanNext (st.goto (.scan rest))
  | scanPrepare {st s rest} : st.worker = .scan (s :: rest) →
      Fires st .scanNext (st.goto (.prepareBuffer s rest))
  | popEmpty {st s rest} : st.worker = .prepareBuffer s rest →
      Fires st .popBuffer (st.goto (.scan rest))
  | popBuffer {st s rest n} : st.worker = .prepareBuffer s rest → st.queue s = n + 1 →
      Fires st .popBuffer
        ({ st with queue := Function.update st.queue s n }.goto (.popped s rest))
  | fenceAdded {st s rest} : st.worker = .popped s rest →
      Fires st (.pollFence true)
        ({ st with waiting := Function.update st.waiting s true }.goto (.scan rest))
  | drawDone {st s rest} : st.worker = .popped s rest →
      Fires st (.pollFence false) (st.goto (.prepareBuffer s rest))
  | epollWait {st evs} : st.worker = .epollWait → evs.length ≤ epollMaxSize →
      evs.count .worker ≤ 1 → (∀ ev ∈ evs, st.Ready ev) →
      Fires st (.epollWait evs) (st.goto (.handle evs))
  | epollFailed {st} : st.worker = .epollWait → Fires st .epollFailed st
  | batchEnd {st done} : st.worker = .handle [] → Fires st (.handleEvent done) (st.goto .test)
  | readEventFd {st done evs} : st.worker = .handle (.worker :: evs) →
      Fires st (.handleEvent done)
        ((st.setTable st.eventFd (some (.event 0))).goto (.handle evs))
  | surfaceDone {st done s epollin evs} : st.worker = .handle (.surface s epollin :: evs) →
      Fires st (.handleEvent done)
        ({ st with waiting := Function.update st.waiting s false }.goto (.handle evs))
  | surfaceEvent {st done s epollin evs} : st.worker = .handle (.surface s epollin :: evs) →
      Fires st (.handleEvent done) (st.goto (.handle evs))
  | noEpoll {st} : st.worker = .cleanup → st.epollFd = -1 →
      Fires st .closeEpoll (st.goto .closeEvent)
  | closeEpoll {st} : st.worker = .cleanup → st.epollFd ≠ -1 →
      Fires st .closeEpoll (({ st with
        epollFd := -1
        closed := st.closed ++ (st.table st.epollFd).toList }.setTable st.epollFd none).goto
          .closeEvent)
  | noEventFd {st} : st.worker = .closeEvent → st.eventFd = -1 →
      Fires st .closeEventFd (st.goto .exited)
  | closeEventFd {st} : st.worker = .closeEvent → st.eventFd ≠ -1 →
      Fires st .closeEventFd (({ st with
        closed := st.closed ++ st.reached.toList }.setTable st.eventFd none).goto .resetEvent)
  | resetEventFd {st} : st.worker = .resetEvent →
      Fires st .resetEventFd { st with eventFd := -1, worker := .exited }

theorem Fires.of_step {st st' : State Ws Client} {l : Label Ws Client}
    (h : step st l = some st') : Fires st l st' := by
  cases l with
  | workerInit ok =>
      simp only [step] at h
      split at h
      · rename_i hinit
        cases ok with
        | true =>
            cases h
            exact .mutexInit hinit
        | false =>
            cases h
            exact .mutexInitFailed hinit
      · cases h
  | threadCreate ok =>
      simp only [step] at h
      split at h
      · rename_i hinit
        cases ok with
        | true =>
            cases h
            exact .threadCreate hinit
        | false =>
            cases h
            exact .threadCreateFailed hinit
      · cases h
  | finiTest =>
      simp only [step] at h
      split at h
      · rename_i hguard
        by_cases hrunning : st.running = true
        · rw [if_pos hrunning] at h
          cases h
          exact .finiTest hguard.1 hguard.2 hrunning
        · rw [if_neg hrunning] at h
          cases h
          exact .finiReturn hguard.1 hguard.2 (by simpa using hrunning)
      · cases h
  | finiStop =>
      simp only [step] at h
      split at h
      · rename_i hfini
        cases h
        exact .finiStop hfini
      · cases h
  | finiCheck =>
      simp only [step] at h
      split at h
      · rename_i hfini
        by_cases hfd : st.eventFd = -1
        · rw [if_pos hfd] at h
          cases h
          exact .finiNoEventFd hfini hfd
        · rw [if_neg hfd] at h
          cases h
          exact .finiCheck hfini
      · cases h
  | finiWrite =>
      simp only [step] at h
      split at h
      · rename_i hfini
        obtain ⟨st₁, hwrite, rfl⟩ := Option.map_eq_some_iff.mp h
        rcases State.eventWrite_cases hwrite with ⟨counter, hreached, rfl⟩ | ⟨hother, rfl⟩
        · exact .finiWrite hfini hreached
        · exact .finiStrayWrite hfini hother
      · cases h
  | finiJoin =>
      simp only [step] at h
      split at h
      · rename_i hguard
        cases h
        exact .finiJoin hguard.1
      · cases h
  | notifyCheck c =>
      simp only [step] at h
      split at h
      · cases h
        exact .notifyCheck
      · cases h
  | notifyWrite c =>
      simp only [step] at h
      split at h
      · obtain ⟨st₁, hwrite, rfl⟩ := Option.map_eq_some_iff.mp h
        rcases State.eventWrite_cases hwrite with ⟨counter, hreached, rfl⟩ | ⟨hother, rfl⟩
        · exact .notifyWrite hreached
        · exact .notifyStrayWrite
      · cases h
  | enqueue s =>
      cases h
      exact .enqueue
  | insert s =>
      simp only [step] at h
      split at h
      · cases h
      · rename_i hmutex
        cases h
        exact .insert (by simpa using hmutex)
  | remove s =>
      simp only [step] at h
      split at h
      · cases h
      · rename_i hmutex
        cases h
        exact .remove (by simpa using hmutex)
  | openForeign fd =>
      simp only [step] at h
      split at h
      · rename_i hunused
        cases h
        exact .openForeign hunused
      · cases h
  | closeForeign fd =>
      simp only [step] at h
      split at h
      · rename_i hforeign
        cases h
        exact .closeForeign hforeign
      · cases h
  | epollCreate fd? =>
      simp only [step] at h
      split at h
      · rename_i hpc
        cases fd? with
        | some fd =>
            simp only at h
            split at h
            · rename_i hunused
              cases h
              exact .epollCreate hpc hunused
            · cases h
        | none =>
            cases h
            exact .epollCreateFailed hpc
      · cases h
  | eventfd fd? =>
      simp only [step] at h
      split at h
      · rename_i hpc
        cases fd? with
        | some fd =>
            simp only at h
            split at h
            · rename_i hunused
              cases h
              exact .eventfd hpc hunused
            · cases h
        | none =>
            cases h
            exact .eventfdFailed hpc
      · cases h
  | epollAdd ok =>
      simp only [step] at h
      split at h
      · rename_i fd hpc
        cases ok with
        | true =>
            cases h
            exact .epollAdd hpc
        | false =>
            cases h
            exact .epollAddFailed hpc
      · cases h
  | storeEventFd =>
      simp only [step] at h
      split at h
      · rename_i fd hpc
        by_cases hfd : fd = -1
        · subst hfd
          cases h
          exact .storeFailed hpc
        · rw [if_neg hfd] at h
          cases h
          exact .storeEventFd hpc hfd
      · cases h
  | testRunning =>
      simp only [step] at h
      split at h
      · rename_i hpc
        cases hrunning : st.running with
        | true =>
            simp only [hrunning, if_true] at h
            cases h
            exact .loopContinues hpc hrunning
        | false =>
            simp only [hrunning, Bool.false_eq_true, if_false] at h
            cases h
            exact .loopEnds hpc
      · cases h
  | lockMutex ok =>
      simp only [step] at h
      split at h
      · rename_i hpc
        cases ok with
        | true =>
            cases h
            exact .lockMutex hpc
        | false =>
            cases h
            exact .lockFailed hpc
      · cases h
  | scanNext =>
      simp only [step] at h
      split at h
      · rename_i hpc
        cases h
        exact .scanEnd hpc
      · rename_i s rest hpc
        cases hwait : st.waiting s with
        | true =>
            simp only [hwait, if_true] at h
            cases h
            exact .scanWaiting hpc
        | false =>
            simp only [hwait, Bool.false_eq_true, if_false] at h
            cases h
            exact .scanPrepare hpc
      · cases h
  | popBuffer =>
      simp only [step] at h
      split at h
      · rename_i s rest hpc
        split at h
        · cases h
          exact .popEmpty hpc
        · rename_i n hqueue
          cases h
          exact .popBuffer hpc hqueue
      · cases h
  | pollFence added =>
      simp only [step] at h
      split at h
      · rename_i s rest hpc
        cases added with
        | true =>
            cases h
            exact .fenceAdded hpc
        | false =>
            cases h
            exact .drawDone hpc
      · cases h
  | epollWait evs =>
      simp only [step] at h
      split at h
      · rename_i hguard
        cases h
        exact .epollWait hguard.1 hguard.2.2.1 hguard.2.2.2.1 hguard.2.2.2.2
      · cases h
  | epollFailed =>
      simp only [step] at h
      split at h
      · rename_i hpc
        cases h
        exact .epollFailed hpc
      · cases h
  | handleEvent done =>
      simp only [step] at h
      split at h
      · rename_i hpc
        cases h
        exact .batchEnd hpc
      · rename_i evs hpc
        split at h
        · cases h
          exact .readEventFd hpc
        · cases h
      · rename_i s epollin evs hpc
        split at h
        · cases h
          exact .surfaceDone hpc
        · cases h
          exact .surfaceEvent hpc
      · cases h
  | closeEpoll =>
      simp only [step] at h
      split at h
      · rename_i hpc
        split at h
        · rename_i hfd
          cases h
          exact .noEpoll hpc hfd
        · rename_i hfd
          cases h
          exact .closeEpoll hpc hfd
      · cases h
  | closeEventFd =>
      simp only [step] at h
      split at h
      · rename_i hpc
        split at h
        · rename_i hfd
          cases h
          exact .noEventFd hpc hfd
        · rename_i hfd
          cases h
          exact .closeEventFd hpc hfd
      · cases h
  | resetEventFd =>
      simp only [step] at h
      split at h
      · rename_i hpc
        cases h
        exact .resetEventFd hpc
      · cases h

end

end LibtplEgl.WorkerLifecycle
