import LibtplEgl.WorkerLifecycle

namespace LibtplEgl.WorkerDescriptors

open LibtplEgl.LabelledSystem
open LibtplEgl.WorkerThread (Fd)
open LibtplEgl.WorkerLifecycle

universe u v

section

variable {Ws : Type u} {Client : Type v}

/-- The worker's descriptors in a table: all of them, and nothing else of their kind. -/
def Holds (table : Fd → Option Description) (epoll event : Option Fd) : Prop :=
  ∀ fd, (table fd = some .epoll ↔ epoll = some fd) ∧
    ((∃ counter, table fd = some (.event counter)) ↔ event = some fd)

theorem Holds.update {table : Fd → Option Description} {epoll event epoll' event' : Option Fd}
    (h : Holds table epoll event) (fd : Fd) (d : Option Description)
    (hothers : ∀ x, x ≠ fd →
      (epoll' = some x ↔ epoll = some x) ∧ (event' = some x ↔ event = some x))
    (hepoll : d = some .epoll ↔ epoll' = some fd)
    (hevent : (∃ counter, d = some (.event counter)) ↔ event' = some fd) :
    Holds (Function.update table fd d) epoll' event' := by
  intro x
  by_cases hx : x = fd
  · subst hx
    rw [Function.update_self]
    exact ⟨hepoll, hevent⟩
  · rw [Function.update_of_ne hx, (hothers x hx).1, (hothers x hx).2]
    exact h x

theorem Holds.not_own {table : Fd → Option Description} {epoll event : Option Fd}
    (h : Holds table epoll event) {fd : Fd} {d : Option Description} (hfd : table fd = d)
    (hepoll : d ≠ some .epoll) (hevent : ∀ counter, d ≠ some (.event counter)) :
    epoll ≠ some fd ∧ event ≠ some fd := by
  constructor
  · intro heq
    exact hepoll (hfd.symm.trans ((h fd).1.mpr heq))
  · intro heq
    obtain ⟨counter, hcounter⟩ := (h fd).2.mpr heq
    exact hevent counter (hfd.symm.trans hcounter)

theorem Holds.foreign {table : Fd → Option Description} {epoll event : Option Fd}
    (h : Holds table epoll event) {fd : Fd} {d : Option Description}
    (hold : table fd = none ∨ table fd = some .foreign) (hnew : d = none ∨ d = some .foreign) :
    Holds (Function.update table fd d) epoll event := by
  have hown : epoll ≠ some fd ∧ event ≠ some fd := by
    rcases hold with hold | hold
    · exact h.not_own hold (by simp) (by simp)
    · exact h.not_own hold (by simp) (by simp)
  refine h.update fd d (fun _ _ => ⟨Iff.rfl, Iff.rfl⟩) ?_ ?_
  · rcases hnew with rfl | rfl <;> simp [hown.1]
  · rcases hnew with rfl | rfl <;> simp [hown.2]

theorem Holds.counter {table : Fd → Option Description} {epoll event : Option Fd}
    (h : Holds table epoll event) {fd : Fd} (hevent : event = some fd) (counter : Nat) :
    Holds (Function.update table fd (some (.event counter))) epoll event := by
  refine h.update fd _ (fun _ _ => ⟨Iff.rfl, Iff.rfl⟩) ?_ ?_
  · have hother : table fd ≠ some .epoll := by
      obtain ⟨n, hn⟩ := (h fd).2.mpr hevent
      rw [hn]
      simp
    simpa using fun heq => hother ((h fd).1.mpr heq)
  · simp [hevent]

theorem Holds.event_of_reached {table : Fd → Option Description} {epoll event : Option Fd}
    (h : Holds table epoll event) {fd : Fd} {counter : Nat}
    (hfd : table fd = some (.event counter)) : event = some fd :=
  (h fd).2.mp ⟨counter, hfd⟩

theorem Holds.openEpoll {table : Fd → Option Description} {event : Option Fd}
    (h : Holds table none event) {fd : Fd} (hfd : table fd = none) :
    Holds (Function.update table fd (some .epoll)) (some fd) event := by
  have hown := h.not_own hfd (by simp) (by simp)
  exact h.update fd _ (fun x hx => ⟨by simp [Ne.symm hx], Iff.rfl⟩) (by simp) (by simp [hown.2])

theorem Holds.openEvent {table : Fd → Option Description} {epoll : Option Fd}
    (h : Holds table epoll none) {fd : Fd} (hfd : table fd = none) (counter : Nat) :
    Holds (Function.update table fd (some (.event counter))) epoll (some fd) := by
  have hown := h.not_own hfd (by simp) (by simp)
  exact h.update fd _ (fun x hx => ⟨Iff.rfl, by simp [Ne.symm hx]⟩) (by simp [hown.1]) (by simp)

theorem Holds.closeEpoll {table : Fd → Option Description} {event : Option Fd} {fd : Fd}
    (h : Holds table (some fd) event) : Holds (Function.update table fd none) none event := by
  have hother : event ≠ some fd := by
    intro heq
    obtain ⟨counter, hcounter⟩ := (h fd).2.mpr heq
    rw [(h fd).1.mpr rfl] at hcounter
    cases hcounter
  exact h.update fd _ (fun x hx => ⟨by simp [Ne.symm hx], Iff.rfl⟩) (by simp) (by simp [hother])

theorem Holds.closeEvent {table : Fd → Option Description} {epoll : Option Fd} {fd : Fd}
    (h : Holds table epoll (some fd)) : Holds (Function.update table fd none) epoll none := by
  have hother : epoll ≠ some fd := by
    intro heq
    obtain ⟨counter, hcounter⟩ := (h fd).2.mpr rfl
    rw [(h fd).1.mpr heq] at hcounter
    cases hcounter
  exact h.update fd _ (fun x hx => ⟨Iff.rfl, by simp [Ne.symm hx]⟩) (by simp [hother]) (by simp)

def valid (fd : Fd) : Option Fd := if fd = -1 then none else some fd

theorem valid_of_ne {fd : Fd} (h : fd ≠ -1) : valid fd = some fd := if_neg h

def ownEpoll (st : State Ws Client) : Option Fd :=
  match st.worker with
  | .absent | .start | .closeEvent | .resetEvent | .exited => none
  | .cleanup => if st.stored then some st.epollFd else none
  | _ => some st.epollFd

def ownEvent (st : State Ws Client) : Option Fd :=
  match st.worker with
  | .absent | .start | .prepare | .resetEvent | .exited => none
  | .register fd => some fd
  | .store fd => valid fd
  | .cleanup | .closeEvent => if st.stored then valid st.eventFd else none
  | _ => some st.eventFd

/-- What the globals hold in each phase of the worker, and what it has closed. -/
def Ledger (st : State Ws Client) : Prop :=
  match st.worker with
  | .absent | .start | .prepare | .register _ | .store _ =>
      st.stored = false ∧ st.eventFd = 0 ∧ st.closed = []
  | .cleanup => st.closed = [] ∧ (st.stored = false → st.eventFd = 0 ∧ st.epollFd = -1)
  | .closeEvent =>
      (st.stored = false ∧ st.eventFd = 0 ∧ st.closed = []) ∨
        (st.stored = true ∧ st.closed = [.epoll])
  | .resetEvent =>
      (st.stored = false ∧ st.eventFd = 0 ∧ ∃ d : Option Description, st.closed = d.toList) ∨
        (st.stored = true ∧ ∃ counter, st.closed = [.epoll, .event counter])
  | .exited => st.eventFd = -1 ∧
      ((st.stored = false ∧ ∃ d : Option Description, st.closed = d.toList) ∨
        (st.stored = true ∧
          (st.closed = [.epoll] ∨ ∃ counter, st.closed = [.epoll, .event counter])))
  | _ => st.stored = true ∧ st.closed = []

/-- While the constructor runs there is no other thread. -/
def Constructing (st : State Ws Client) : Prop :=
  st.init ≠ .complete → st.worker = .absent ∧ st.fini = .idle

structure Descriptors (st : State Ws Client) : Prop where
  nonneg : ∀ fd, st.table fd ≠ none → 0 ≤ fd
  holds : Holds st.table (ownEpoll st) (ownEvent st)
  ledger : Ledger st

theorem ownEpoll_of_loops {st : State Ws Client} (h : st.worker.loops = true) :
    ownEpoll st = some st.epollFd := by
  unfold ownEpoll
  cases hpc : st.worker <;> first | rfl | (rw [hpc] at h; cases h)

theorem ownEvent_of_loops {st : State Ws Client} (h : st.worker.loops = true) :
    ownEvent st = some st.eventFd := by
  unfold ownEvent
  cases hpc : st.worker <;> first | rfl | (rw [hpc] at h; cases h)

theorem ledger_of_loops {st : State Ws Client} (h : st.worker.loops = true) :
    Ledger st ↔ st.stored = true ∧ st.closed = [] := by
  unfold Ledger
  cases hpc : st.worker <;> first | rfl | (rw [hpc] at h; cases h)

namespace Descriptors

variable {st st' : State Ws Client}

theorem eventFd_reached (h : Descriptors st) (hloops : st.worker.loops = true) :
    ∃ counter, st.reached = some (.event counter) :=
  (h.holds st.eventFd).2.mpr (ownEvent_of_loops hloops)

theorem ne_neg_one (h : Descriptors st) {fd : Fd} {d : Description}
    (hfd : st.table fd = some d) : fd ≠ -1 := by
  have hnonneg : 0 ≤ fd := h.nonneg fd (by simp [hfd])
  rintro rfl
  exact absurd hnonneg (by decide)

theorem ownEvent_of_reached (h : Descriptors st) {counter : Nat}
    (hreached : st.reached = some (.event counter)) : ownEvent st = some st.eventFd :=
  h.holds.event_of_reached hreached

theorem frame (h : Descriptors st) (hworker : st'.worker = st.worker)
    (hevent : st'.eventFd = st.eventFd) (hepoll : st'.epollFd = st.epollFd)
    (hstored : st'.stored = st.stored) (hclosed : st'.closed = st.closed)
    (hnonneg : ∀ fd, st'.table fd ≠ none → 0 ≤ fd)
    (hholds : Holds st'.table (ownEpoll st) (ownEvent st)) : Descriptors st' := by
  refine ⟨hnonneg, ?_, ?_⟩
  · unfold ownEpoll ownEvent at hholds ⊢
    rw [hworker, hevent, hepoll, hstored]
    exact hholds
  · have hledger := h.ledger
    unfold Ledger at hledger ⊢
    rw [hworker, hevent, hepoll, hstored, hclosed]
    exact hledger

theorem sameTable (h : Descriptors st) (hworker : st'.worker = st.worker)
    (hevent : st'.eventFd = st.eventFd) (hepoll : st'.epollFd = st.epollFd)
    (hstored : st'.stored = st.stored) (hclosed : st'.closed = st.closed)
    (htable : st'.table = st.table) : Descriptors st' :=
  h.frame hworker hevent hepoll hstored hclosed (htable ▸ h.nonneg) (htable ▸ h.holds)

theorem nonneg_update (h : Descriptors st) {fd : Fd} (d : Option Description)
    (hfd : 0 ≤ fd ∨ d = none) : ∀ x, Function.update st.table fd d x ≠ none → 0 ≤ x := by
  intro x hx
  by_cases hxfd : x = fd
  · subst hxfd
    rw [Function.update_self] at hx
    exact hfd.resolve_right hx
  · rw [Function.update_of_ne hxfd] at hx
    exact h.nonneg x hx

theorem counter (h : Descriptors st) {n : Nat} (hreached : st.reached = some (.event n))
    (m : Nat) (hworker : st'.worker = st.worker)
    (hevent : st'.eventFd = st.eventFd) (hepoll : st'.epollFd = st.epollFd)
    (hstored : st'.stored = st.stored) (hclosed : st'.closed = st.closed)
    (htable : st'.table = Function.update st.table st.eventFd (some (.event m))) :
    Descriptors st' := by
  refine h.frame hworker hevent hepoll hstored hclosed ?_ ?_
  · rw [htable]
    exact h.nonneg_update _ (Or.inl (h.nonneg st.eventFd (by rw [← State.reached, hreached]; simp)))
  · rw [htable]
    exact h.holds.counter (h.ownEvent_of_reached hreached) m

theorem loop (h : Descriptors st) (hloops : st.worker.loops = true)
    (hloops' : st'.worker.loops = true)
    (hevent : st'.eventFd = st.eventFd) (hepoll : st'.epollFd = st.epollFd)
    (hstored : st'.stored = st.stored) (hclosed : st'.closed = st.closed)
    (htable : st'.table = st.table) : Descriptors st' := by
  refine ⟨htable ▸ h.nonneg, ?_, ?_⟩
  · rw [ownEpoll_of_loops hloops', ownEvent_of_loops hloops', htable, hevent, hepoll,
      ← ownEpoll_of_loops hloops, ← ownEvent_of_loops hloops]
    exact h.holds
  · rw [ledger_of_loops hloops', hstored, hclosed]
    exact (ledger_of_loops hloops).mp h.ledger

theorem leave (h : Descriptors st) (hloops : st.worker.loops = true) :
    Descriptors (st.goto .cleanup) := by
  have hledger := (ledger_of_loops hloops).mp h.ledger
  have hholds := h.holds
  obtain ⟨counter, hcounter⟩ := h.eventFd_reached hloops
  have hfd : st.eventFd ≠ -1 := h.ne_neg_one hcounter
  rw [ownEpoll_of_loops hloops, ownEvent_of_loops hloops] at hholds
  refine ⟨h.nonneg, ?_, ?_⟩
  · simpa [ownEpoll, ownEvent, State.goto, hledger.1, valid, hfd] using hholds
  · simp [Ledger, State.goto, hledger]

end Descriptors

theorem Descriptors.eventFd_foreign {st : State Ws Client} (h : Descriptors st)
    (hforeign : st.reached = some .foreign) :
    (st.stored = false ∧ st.eventFd = 0) ∨ st.worker = .resetEvent := by
  have hledger := h.ledger
  have hown := h.holds.not_own hforeign (by simp) (by simp)
  have hfd := h.ne_neg_one hforeign
  by_cases hloops : st.worker.loops = true
  · exact absurd (ownEvent_of_loops hloops) hown.2
  cases hpc : st.worker with
  | absent | start | prepare | register | store =>
      simp only [Ledger, hpc] at hledger
      exact Or.inl ⟨hledger.1, hledger.2.1⟩
  | cleanup =>
      simp only [Ledger, hpc] at hledger
      cases hstored : st.stored with
      | true => simp [ownEvent, hpc, hstored, valid_of_ne hfd] at hown
      | false => exact Or.inl ⟨rfl, (hledger.2 hstored).1⟩
  | closeEvent =>
      simp only [Ledger, hpc] at hledger
      rcases hledger with ⟨hstored, hzero, -⟩ | ⟨hstored, -⟩
      · exact Or.inl ⟨hstored, hzero⟩
      · simp [ownEvent, hpc, hstored, valid_of_ne hfd] at hown
  | resetEvent => exact Or.inr rfl
  | exited =>
      simp only [Ledger, hpc] at hledger
      exact absurd hledger.1 hfd
  | _ => exact absurd (by rw [hpc]; rfl) hloops

theorem Descriptors.closed_foreign {st : State Ws Client} (h : Descriptors st)
    (hforeign : .foreign ∈ st.closed) : st.stored = false ∧ st.closed = [.foreign] := by
  have hledger := h.ledger
  have hsingle : ∀ d : Option Description, .foreign ∈ d.toList → d.toList = [.foreign] := by
    rintro (_ | d) hmem
    · cases hmem
    · rw [Option.toList_some, List.mem_singleton] at hmem
      rw [← hmem, Option.toList_some]
  cases hpc : st.worker with
  | closeEvent =>
      simp only [Ledger, hpc] at hledger
      rcases hledger with ⟨-, -, hclosed⟩ | ⟨-, hclosed⟩ <;> simp [hclosed] at hforeign
  | resetEvent =>
      simp only [Ledger, hpc] at hledger
      rcases hledger with ⟨hstored, -, d, hclosed⟩ | ⟨-, counter, hclosed⟩
      · rw [hclosed] at hforeign ⊢
        exact ⟨hstored, hsingle d hforeign⟩
      · simp [hclosed] at hforeign
  | exited =>
      simp only [Ledger, hpc] at hledger
      rcases hledger.2 with ⟨hstored, d, hclosed⟩ | ⟨-, hclosed | ⟨counter, hclosed⟩⟩
      · rw [hclosed] at hforeign ⊢
        exact ⟨hstored, hsingle d hforeign⟩
      · simp [hclosed] at hforeign
      · simp [hclosed] at hforeign
  | _ =>
      simp only [Ledger, hpc] at hledger
      simp [hledger] at hforeign

end

section

variable {Ws : Type u} {Client : Type v} [DecidableEq Ws] [DecidableEq Client]

theorem constructing_step {st st' : State Ws Client} {l : Label Ws Client} (h : Constructing st)
    (hstep : step st l = some st') : Constructing st' := by
  intro hinit
  cases Fires.of_step hstep with
  | mutexInit hidle => exact h (by rw [hidle]; nofun)
  | mutexInitFailed | threadCreate | threadCreateFailed => exact absurd rfl hinit
  | finiTest hcomplete | finiReturn hcomplete => exact absurd hcomplete hinit
  | notifyCheck | notifyWrite | notifyStrayWrite | enqueue | insert | remove | openForeign
  | closeForeign | epollFailed => exact h hinit
  | finiStop hfini | finiNoEventFd hfini | finiCheck hfini | finiWrite hfini
  | finiStrayWrite hfini | finiJoin hfini =>
      have hidle := (h hinit).2
      rw [hfini] at hidle
      cases hidle
  | epollCreate hpc | epollCreateFailed hpc | eventfd hpc | eventfdFailed hpc | epollAdd hpc
  | epollAddFailed hpc | storeEventFd hpc | storeFailed hpc | loopContinues hpc | loopEnds hpc
  | lockMutex hpc | lockFailed hpc | scanEnd hpc | scanWaiting hpc | scanPrepare hpc
  | popEmpty hpc | popBuffer hpc | fenceAdded hpc | drawDone hpc | epollWait hpc | batchEnd hpc
  | readEventFd hpc | surfaceDone hpc | surfaceEvent hpc | noEpoll hpc | closeEpoll hpc
  | noEventFd hpc | closeEventFd hpc | resetEventFd hpc =>
      have habsent := (h hinit).1
      rw [hpc] at habsent
      cases habsent

theorem descriptors_step {st st' : State Ws Client} {l : Label Ws Client}
    (hcons : Constructing st) (h : Descriptors st) (hstep : step st l = some st') :
    Descriptors st' := by
  cases Fires.of_step hstep with
  | mutexInit | mutexInitFailed | threadCreateFailed | finiTest | finiReturn | finiStop
  | finiNoEventFd | finiCheck | finiStrayWrite | finiJoin | notifyCheck | notifyStrayWrite
  | enqueue | insert | remove => exact h.sameTable rfl rfl rfl rfl rfl rfl
  | epollFailed => exact h
  | finiWrite hfini hreached => exact h.counter hreached _ rfl rfl rfl rfl rfl rfl
  | notifyWrite hreached => exact h.counter hreached _ rfl rfl rfl rfl rfl rfl
  | threadCreate hinit =>
      obtain ⟨habsent, -⟩ := hcons (by rw [hinit]; nofun)
      obtain ⟨hnonneg, hholds, hledger⟩ := h
      refine ⟨hnonneg, ?_, ?_⟩
      · simpa [ownEpoll, ownEvent, habsent] using hholds
      · simpa [Ledger, habsent] using hledger
  | openForeign hunused =>
      exact h.frame rfl rfl rfl rfl rfl (h.nonneg_update _ (Or.inl hunused.1))
        (h.holds.foreign (Or.inl hunused.2) (Or.inr rfl))
  | closeForeign hforeign =>
      exact h.frame rfl rfl rfl rfl rfl (h.nonneg_update _ (Or.inr rfl))
        (h.holds.foreign (Or.inr hforeign) (Or.inl rfl))
  | epollCreate hpc hunused =>
      have hholds := h.holds
      have hledger := h.ledger
      simp only [ownEpoll, ownEvent, Ledger, hpc] at hholds hledger
      exact ⟨h.nonneg_update _ (Or.inl hunused.1), hholds.openEpoll hunused.2, hledger⟩
  | epollCreateFailed hpc =>
      have hholds := h.holds
      have hledger := h.ledger
      simp only [ownEpoll, ownEvent, Ledger, hpc] at hholds hledger
      refine ⟨h.nonneg, ?_, hledger.2.2, fun _ => ⟨hledger.2.1, rfl⟩⟩
      simpa [ownEpoll, ownEvent, State.goto, hledger.1] using hholds
  | eventfd hpc hunused =>
      have hholds := h.holds
      have hledger := h.ledger
      simp only [ownEpoll, ownEvent, Ledger, hpc] at hholds hledger
      exact ⟨h.nonneg_update _ (Or.inl hunused.1), hholds.openEvent hunused.2 0, hledger⟩
  | eventfdFailed hpc =>
      have hholds := h.holds
      have hledger := h.ledger
      simp only [ownEpoll, ownEvent, Ledger, hpc] at hholds hledger
      exact ⟨h.nonneg, hholds, hledger⟩
  | @epollAdd fd hpc =>
      have hholds := h.holds
      have hledger := h.ledger
      simp only [ownEpoll, ownEvent, Ledger, hpc] at hholds hledger
      obtain ⟨counter, hcounter⟩ := (hholds fd).2.mpr rfl
      rw [← valid_of_ne (h.ne_neg_one hcounter)] at hholds
      exact ⟨h.nonneg, hholds, hledger⟩
  | epollAddFailed hpc =>
      have hholds := h.holds
      have hledger := h.ledger
      simp only [ownEpoll, ownEvent, Ledger, hpc] at hholds hledger
      exact ⟨h.nonneg_update _ (Or.inr rfl), hholds.closeEvent, hledger⟩
  | storeEventFd hpc hfd =>
      have hholds := h.holds
      have hledger := h.ledger
      simp only [ownEpoll, ownEvent, Ledger, hpc, valid_of_ne hfd]
        at hholds hledger
      exact ⟨h.nonneg, hholds, rfl, hledger.2.2⟩
  | storeFailed hpc =>
      have hholds := h.holds
      have hledger := h.ledger
      simp only [ownEpoll, ownEvent, Ledger, hpc] at hholds hledger
      exact ⟨h.nonneg, hholds, hledger.2.2, nofun⟩
  | loopContinues hpc => exact h.loop (by rw [hpc]; rfl) rfl rfl rfl rfl rfl rfl
  | loopEnds hpc => exact h.leave (by rw [hpc]; rfl)
  | lockMutex hpc => exact h.loop (by rw [hpc]; rfl) rfl rfl rfl rfl rfl rfl
  | lockFailed hpc => exact h.leave (by rw [hpc]; rfl)
  | scanEnd hpc => exact h.loop (by rw [hpc]; rfl) rfl rfl rfl rfl rfl rfl
  | scanWaiting hpc => exact h.loop (by rw [hpc]; rfl) rfl rfl rfl rfl rfl rfl
  | scanPrepare hpc => exact h.loop (by rw [hpc]; rfl) rfl rfl rfl rfl rfl rfl
  | popEmpty hpc => exact h.loop (by rw [hpc]; rfl) rfl rfl rfl rfl rfl rfl
  | popBuffer hpc => exact h.loop (by rw [hpc]; rfl) rfl rfl rfl rfl rfl rfl
  | fenceAdded hpc => exact h.loop (by rw [hpc]; rfl) rfl rfl rfl rfl rfl rfl
  | drawDone hpc => exact h.loop (by rw [hpc]; rfl) rfl rfl rfl rfl rfl rfl
  | epollWait hpc => exact h.loop (by rw [hpc]; rfl) rfl rfl rfl rfl rfl rfl
  | batchEnd hpc => exact h.loop (by rw [hpc]; rfl) rfl rfl rfl rfl rfl rfl
  | @readEventFd done evs hpc =>
      have hloops : st.worker.loops = true := by rw [hpc]; rfl
      obtain ⟨counter, hcounter⟩ := h.eventFd_reached hloops
      have hread : Descriptors (st.setTable st.eventFd (some (.event 0))) :=
        h.counter hcounter 0 rfl rfl rfl rfl rfl rfl
      exact hread.loop hloops rfl rfl rfl rfl rfl rfl
  | surfaceDone hpc => exact h.loop (by rw [hpc]; rfl) rfl rfl rfl rfl rfl rfl
  | surfaceEvent hpc => exact h.loop (by rw [hpc]; rfl) rfl rfl rfl rfl rfl rfl
  | noEpoll hpc hfd =>
      have hholds := h.holds
      have hledger := h.ledger
      simp only [ownEpoll, ownEvent, Ledger, hpc] at hholds hledger
      cases hstored : st.stored with
      | true =>
          rw [hstored, if_pos rfl, if_pos rfl] at hholds
          exact absurd hfd (h.ne_neg_one ((hholds st.epollFd).1.mpr rfl))
      | false =>
          refine ⟨h.nonneg, ?_, Or.inl ⟨hstored, (hledger.2 hstored).1, hledger.1⟩⟩
          simpa [ownEpoll, ownEvent, State.goto, hstored] using hholds
  | closeEpoll hpc hfd =>
      have hholds := h.holds
      have hledger := h.ledger
      simp only [ownEpoll, ownEvent, Ledger, hpc] at hholds hledger
      have hstored : st.stored = true := by
        by_contra hunstored
        exact hfd (hledger.2 (by simpa using hunstored)).2
      rw [if_pos hstored, if_pos hstored] at hholds
      have hepoll := (hholds st.epollFd).1.mpr rfl
      refine ⟨h.nonneg_update _ (Or.inr rfl), ?_, Or.inr ⟨hstored, ?_⟩⟩
      · simpa [ownEpoll, ownEvent, State.goto, State.setTable, hstored]
          using hholds.closeEpoll
      · simp [State.goto, State.setTable, hledger.1, hepoll]
  | noEventFd hpc hfd =>
      have hholds := h.holds
      have hledger := h.ledger
      simp only [ownEpoll, ownEvent, Ledger, hpc] at hholds hledger
      rcases hledger with ⟨-, hzero, -⟩ | ⟨hstored, hclosed⟩
      · rw [hzero] at hfd
        cases hfd
      · refine ⟨h.nonneg, ?_, hfd, Or.inr ⟨hstored, Or.inl hclosed⟩⟩
        simpa [ownEpoll, ownEvent, State.goto, hstored, valid, hfd] using hholds
  | closeEventFd hpc hfd =>
      have hholds := h.holds
      have hledger := h.ledger
      simp only [ownEpoll, ownEvent, Ledger, hpc] at hholds hledger
      rcases hledger with ⟨hstored, hzero, hclosed⟩ | ⟨hstored, hclosed⟩
      · -- `epoll_create` failed: nothing of the worker is open
        rw [hstored, if_neg Bool.false_ne_true] at hholds
        refine ⟨h.nonneg_update _ (Or.inr rfl), ?_, Or.inl ⟨hstored, hzero, st.reached, ?_⟩⟩
        · exact hholds.update st.eventFd none (fun _ _ => ⟨Iff.rfl, Iff.rfl⟩)
            ⟨nofun, nofun⟩ ⟨nofun, nofun⟩
        · simp [State.goto, State.setTable, hclosed]
      · rw [if_pos hstored, valid_of_ne hfd] at hholds
        obtain ⟨counter, hcounter⟩ := (hholds st.eventFd).2.mpr rfl
        refine ⟨h.nonneg_update _ (Or.inr rfl), hholds.closeEvent,
          Or.inr ⟨hstored, counter, ?_⟩⟩
        simp [State.goto, State.setTable, hclosed, State.reached, hcounter]
  | resetEventFd hpc =>
      have hholds := h.holds
      have hledger := h.ledger
      simp only [ownEpoll, ownEvent, Ledger, hpc] at hholds hledger
      refine ⟨h.nonneg, hholds, rfl, ?_⟩
      rcases hledger with ⟨hstored, -, hclosed⟩ | ⟨hstored, hclosed⟩
      · exact Or.inl ⟨hstored, hclosed⟩
      · exact Or.inr ⟨hstored, Or.inr hclosed⟩

theorem descriptors_initial {st : State Ws Client} (h : lifecycleSystem.Initial st) :
    Constructing st ∧ Descriptors st := by
  obtain ⟨isOpen, rfl⟩ := h
  refine ⟨fun _ => ⟨rfl, rfl⟩, ⟨fun fd hfd => ?_, fun fd => ⟨?_, ?_⟩, rfl, rfl, rfl⟩⟩
  · by_contra hneg
    exact hfd (if_neg fun hopen => hneg hopen.1)
  · simp only [workerInit, ownEpoll]
    split <;> simp
  · simp only [workerInit, ownEvent]
    split <;> simp

theorem descriptors_reachable {st : State Ws Client} (h : lifecycleSystem.Reachable st) :
    Constructing st ∧ Descriptors st :=
  h.invariant (fun _ => descriptors_initial) fun _ _ _ hinv _ hstep =>
    ⟨constructing_step hinv.1 hstep, descriptors_step hinv.1 hinv.2 hstep⟩

/-- What `event_fd` reaches: the worker's eventfd inside the loop; a descriptor of
someone else only as long as it was never assigned, or between the `close` and the
assignment of -1. The worker closes what it opened, and a descriptor of someone else
only when `epoll_create` failed. -/
theorem event_fd_reaches {st : State Ws Client} (h : lifecycleSystem.Reachable st) :
    (st.worker.loops = true → ∃ counter, st.reached = some (.event counter)) ∧
      (st.reached = some .foreign →
        (st.stored = false ∧ st.eventFd = 0) ∨ st.worker = .resetEvent) ∧
      (.foreign ∈ st.closed → st.stored = false ∧ st.closed = [.foreign]) ∧
      (st.worker = .exited → st.stored = true →
        (st.closed = [.epoll] ∨ ∃ counter, st.closed = [.epoll, .event counter]) ∧
        ∀ fd d, st.table fd = some d → d = .foreign) := by
  have hdesc := (descriptors_reachable h).2
  refine ⟨hdesc.eventFd_reached, hdesc.eventFd_foreign, hdesc.closed_foreign,
    fun hpc hstored => ⟨?_, fun fd d hfd => ?_⟩⟩
  · have hledger := hdesc.ledger
    simp only [Ledger, hpc, hstored] at hledger
    simpa using hledger.2
  · have hholds := hdesc.holds fd
    simp only [ownEpoll, ownEvent, hpc] at hholds
    cases d with
    | epoll => cases hholds.1.mp hfd
    | event counter => cases hholds.2.mp ⟨counter, hfd⟩
    | foreign => rfl

/-- The worker closes the standard input of the process. -/
def epollCreateFails : List (Label Unit Unit) :=
  [.workerInit true, .threadCreate true, .epollCreate none, .closeEpoll, .closeEventFd]

theorem event_fd_reaches_epollCreateFails :
    ∃ st, lifecycleSystem.run (workerInit fun fd => fd = 0) epollCreateFails = some st ∧
      st.stored = false ∧ st.closed = [.foreign] := by
  obtain ⟨st, hrun, hforeign⟩ := lifecycleSystem.exists_of_run (fun st => .foreign ∈ st.closed)
    (workerInit fun fd => fd = 0) epollCreateFails (by decide)
  exact ⟨st, hrun, (event_fd_reaches (.of_run (.initial ⟨_, rfl⟩) hrun)).2.2.1 hforeign⟩

end

end LibtplEgl.WorkerDescriptors
