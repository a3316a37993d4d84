import Mathlib.Logic.Function.Basic
import LibtplEgl.LabelledSystem
import LibtplEgl.OwnedMutex

namespace LibtplEgl.X11GlobalState

open LibtplEgl.LabelledSystem
open LibtplEgl.OwnedMutex

universe u v

inductive X11Backend
  | dri2
  | dri3
  deriving DecidableEq, Repr

inductive Resource
  | workerDisplay
  | bufmgrFd
  | bufmgr
  deriving DecidableEq, Repr

/-- The static `global` of a backend, the file `tpl_x11_dri3.c`'s list of drawables, and
what the process has open. -/
structure Shared (Display : Type v) where
  displayCount : Int
  workerDisplay : Option Nat
  bufmgrFd : Option Nat
  bufmgr : Option Nat
  drawableList : Bool
  displayFd : Display → Option Nat
  connections : List Nat
  fds : List Nat
  bufmgrs : List Nat
  nextHandle : Nat

/-- `__tpl_x11_dri2_display_init` or `__tpl_x11_dri3_display_init`, and their `fini`. -/
inductive Function
  | init
  | fini
  deriving DecidableEq, Repr

/-- The statements between `pthread_mutex_lock` and `pthread_mutex_unlock`. The
increment and the decrement of `display_count` are a load and a store. -/
inductive Statement
  | testCount
  | openWorkerDisplay
  | openBufmgrFd
  | initBufmgr
  | initDrawableList
  | loadCount
  | storeCount
  | setBufmgrFd
  | deinitBufmgr
  | closeBufmgrFd
  | closeWorkerDisplay
  | resetWorkerDisplay
  | resetBufmgrFd
  | resetBufmgr
  | finiDrawableList
  deriving DecidableEq, Repr

inductive Pc
  | getGlobalMutex
  | lock
  | inside (s : Statement)
  | unlock
  deriving DecidableEq, Repr

/-- A call in progress: `mutex` tells whether its own copy of the mutex is locked,
`count` is what it has loaded, `before` and `after` are the values of its store. -/
structure Call (Display : Type v) where
  fn : Function
  display : Display
  pc : Pc
  mutex : Bool
  count : Int
  before : Int
  after : Int
  touched : List Resource
  deriving DecidableEq, Repr

structure Record where
  fn : Function
  before : Int
  after : Int
  touched : List Resource
  deriving DecidableEq, Repr

/-- `displays` are the displays whose init has returned and whose fini has not,
`busy` those that some call is about. -/
structure State (Thread : Type u) (Display : Type v) where
  shared : Shared Display
  globalMutex : Bool
  running : Thread → Option (Call Display)
  displays : List Display
  busy : List Display
  records : List Record

inductive Label (Thread : Type u) (Display : Type v)
  | call (t : Thread) (fn : Function) (d : Display)
  | run (t : Thread)
  deriving DecidableEq, Repr

def Function.first : Function → Statement
  | .init => .testCount
  | .fini => .loadCount

section

variable {Thread : Type u} {Display : Type v}

def Call.goto (c : Call Display) (s : Statement) : Call Display :=
  { c with pc := .inside s }

def Call.touch (c : Call Display) (r : Resource) (s : Statement) : Call Display :=
  { c with pc := .inside s, touched := r :: c.touched }

variable [DecidableEq Display]

def Statement.exec (backend : X11Backend) (g : Shared Display) (c : Call Display) :
    Statement → Shared Display × Call Display
  | .testCount =>
      (g, c.goto (if g.displayCount = 0 then .openWorkerDisplay else .loadCount))
  | .openWorkerDisplay =>
      ({ g with
          workerDisplay := some g.nextHandle
          connections := g.nextHandle :: g.connections
          nextHandle := g.nextHandle + 1 },
        c.touch .workerDisplay .openBufmgrFd)
  | .openBufmgrFd =>
      ({ g with
          bufmgrFd := some g.nextHandle
          fds := g.nextHandle :: g.fds
          nextHandle := g.nextHandle + 1 },
        c.touch .bufmgrFd .initBufmgr)
  | .initBufmgr =>
      ({ g with
          bufmgr := some g.nextHandle
          bufmgrs := g.nextHandle :: g.bufmgrs
          nextHandle := g.nextHandle + 1 },
        c.touch .bufmgr (if backend = .dri3 then .initDrawableList else .loadCount))
  | .initDrawableList => ({ g with drawableList := true }, c.goto .loadCount)
  | .loadCount => (g, { c with pc := .inside .storeCount, count := g.displayCount })
  | .storeCount =>
      match c.fn with
      | .init =>
          ({ g with displayCount := c.count + 1 },
            { c with
              pc := .inside .setBufmgrFd
              before := g.displayCount
              after := c.count + 1 })
      | .fini =>
          ({ g with displayCount := c.count - 1 },
            { c with
              pc := if c.count - 1 = 0 then .inside .deinitBufmgr else .unlock
              before := g.displayCount
              after := c.count - 1 })
  | .setBufmgrFd =>
      ({ g with displayFd := Function.update g.displayFd c.display g.bufmgrFd },
        { c with pc := .unlock })
  | .deinitBufmgr =>
      ({ g with bufmgrs := g.bufmgr.elim g.bufmgrs g.bufmgrs.erase },
        c.touch .bufmgr .closeBufmgrFd)
  | .closeBufmgrFd =>
      ({ g with fds := g.bufmgrFd.elim g.fds g.fds.erase },
        c.touch .bufmgrFd .closeWorkerDisplay)
  | .closeWorkerDisplay =>
      ({ g with connections := g.workerDisplay.elim g.connections g.connections.erase },
        c.touch .workerDisplay .resetWorkerDisplay)
  | .resetWorkerDisplay => ({ g with workerDisplay := none }, c.goto .resetBufmgrFd)
  | .resetBufmgrFd => ({ g with bufmgrFd := none }, c.goto .resetBufmgr)
  | .resetBufmgr =>
      ({ g with bufmgr := none },
        { c with pc := if backend = .dri3 then .inside .finiDrawableList else .unlock })
  | .finiDrawableList => ({ g with drawableList := false }, { c with pc := .unlock })

variable [DecidableEq Thread]

def State.setCall (st : State Thread Display) (t : Thread) (c : Call Display) :
    State Thread Display :=
  { st with running := Function.update st.running t (some c) }

def State.finish (st : State Thread Display) (t : Thread) (c : Call Display) :
    State Thread Display :=
  { st with
    running := Function.update st.running t none
    displays := match c.fn with
      | .init => c.display :: st.displays
      | .fini => st.displays.erase c.display
    busy := st.busy.erase c.display
    records := ⟨c.fn, c.before, c.after, c.touched⟩ :: st.records }

def State.exec (backend : X11Backend) (st : State Thread Display) (t : Thread)
    (c : Call Display) : Option (State Thread Display) :=
  match c.pc with
  | .getGlobalMutex =>
      -- `__tpl_x11_get_global_mutex` returns a copy of the mutex.
      some (st.setCall t { c with mutex := st.globalMutex, pc := .lock })
  | .lock =>
      if c.mutex then none
      else some (st.setCall t { c with mutex := true, pc := .inside c.fn.first })
  | .inside s =>
      let result := s.exec backend st.shared c
      some { st.setCall t result.2 with shared := result.1 }
  | .unlock => some (st.finish t c)

/-- A display is initialised once and then finalised once. -/
def State.mayCall (st : State Thread Display) (d : Display) : Function → Prop
  | .init => d ∉ st.displays ∧ d ∉ st.busy
  | .fini => d ∈ st.displays ∧ d ∉ st.busy

instance (st : State Thread Display) (d : Display) (fn : Function) :
    Decidable (st.mayCall d fn) := by
  cases fn with
  | init => exact inferInstanceAs (Decidable (d ∉ st.displays ∧ d ∉ st.busy))
  | fini => exact inferInstanceAs (Decidable (d ∈ st.displays ∧ d ∉ st.busy))

def newCall (fn : Function) (d : Display) : Call Display :=
  ⟨fn, d, .getGlobalMutex, false, 0, 0, 0, []⟩

def step (backend : X11Backend) (st : State Thread Display) :
    Label Thread Display → Option (State Thread Display)
  | .call t fn d =>
      match st.running t with
      | some _ => none
      | none =>
          if st.mayCall d fn then
            some { st.setCall t (newCall fn d) with busy := d :: st.busy }
          else none
  | .run t =>
      match st.running t with
      | some c => st.exec backend t c
      | none => none

/-- No display is open, and no thread is in one of the functions. -/
def start : State Thread Display where
  shared := ⟨0, none, none, none, false, fun _ => none, [], [], [], 0⟩
  globalMutex := false
  running := fun _ => none
  displays := []
  busy := []
  records := []

def x11System (backend : X11Backend) : System (State Thread Display) (Label Thread Display) where
  Initial st := st = start
  step := step backend

end

/-- An init opens all three resources if it takes the count from 0 to 1, and else none;
a fini closes all three if it takes the count to 0, and else none. -/
def Record.Exact (r : Record) : Prop :=
  ∀ resource, resource ∈ r.touched ↔
    match r.fn with
    | .init => r.before = 0 ∧ r.after = 1
    | .fini => r.before = 1 ∧ r.after = 0

section

variable {Thread : Type u} {Display : Type v}

/-- The resources follow the count, the count is that of the displays when no thread is
in one of the functions, and a display that is not being finalised sees an open
connection. -/
structure Sound (st : State Thread Display) : Prop where
  exact : ∀ r ∈ st.records, r.Exact
  count : (∀ t, st.running t = none) → st.shared.displayCount = st.displays.length
  worker : ∀ d ∈ st.displays, d ∉ st.busy →
    ∃ w, st.shared.workerDisplay = some w ∧ w ∈ st.shared.connections

/-- The thread has passed `pthread_mutex_lock` and not `pthread_mutex_unlock`. -/
def State.Critical (st : State Thread Display) (t : Thread) : Prop :=
  ∃ c, st.running t = some c ∧ c.pc ≠ .getGlobalMutex ∧ c.pc ≠ .lock

def State.AtLock (st : State Thread Display) (t : Thread) : Prop :=
  ∃ c, st.running t = some c ∧ c.pc = .lock

/-- A thread passes `pthread_mutex_lock` only where a mutex that all threads share
would let it. -/
def LocksAlone (st : State Thread Display) : Label Thread Display → Prop
  | .run t => st.AtLock t → ∀ t', ¬ st.Critical t'
  | .call _ _ _ => True

/-- A handle that is the only one of its kind. -/
def Held (handle : Option Nat) (table : List Nat) : Prop :=
  ∃ h, handle = some h ∧ table = [h]

def Gone (handle : Option Nat) (table : List Nat) : Prop :=
  handle = none ∧ table = []

structure AllHeld (g : Shared Display) : Prop where
  worker : Held g.workerDisplay g.connections
  fd : Held g.bufmgrFd g.fds
  bufmgr : Held g.bufmgr g.bufmgrs

structure AllGone (g : Shared Display) : Prop where
  worker : Gone g.workerDisplay g.connections
  fd : Gone g.bufmgrFd g.fds
  bufmgr : Gone g.bufmgr g.bufmgrs

/-- What holds for `n` displays while no thread is in a critical section. -/
structure Consistent (n : Nat) (g : Shared Display) : Prop where
  count : g.displayCount = n
  gone : n = 0 → AllGone g
  held : n ≠ 0 → AllHeld g

/-- What holds at each statement while `c` is in its critical section. -/
inductive Mid (n : Nat) (g : Shared Display) (c : Call Display) : Prop
  | testCount : c.fn = .init → c.pc = .inside .testCount → c.touched = [] →
      Consistent n g → Mid n g c
  | openWorkerDisplay : c.fn = .init → c.pc = .inside .openWorkerDisplay → c.touched = [] →
      n = 0 → g.displayCount = 0 → AllGone g → Mid n g c
  | openBufmgrFd : c.fn = .init → c.pc = .inside .openBufmgrFd →
      c.touched = [.workerDisplay] → n = 0 → g.displayCount = 0 →
      Held g.workerDisplay g.connections → Gone g.bufmgrFd g.fds → Gone g.bufmgr g.bufmgrs →
      Mid n g c
  | initBufmgr : c.fn = .init → c.pc = .inside .initBufmgr →
      c.touched = [.bufmgrFd, .workerDisplay] → n = 0 → g.displayCount = 0 →
      Held g.workerDisplay g.connections → Held g.bufmgrFd g.fds → Gone g.bufmgr g.bufmgrs →
      Mid n g c
  | initDrawableList : c.fn = .init → c.pc = .inside .initDrawableList →
      c.touched = [.bufmgr, .bufmgrFd, .workerDisplay] → n = 0 → g.displayCount = 0 →
      AllHeld g → Mid n g c
  | loadToInit : c.fn = .init → c.pc = .inside .loadCount →
      c.touched = (if n = 0 then [.bufmgr, .bufmgrFd, .workerDisplay] else []) →
      g.displayCount = n → AllHeld g → Mid n g c
  | storeToInit : c.fn = .init → c.pc = .inside .storeCount →
      c.touched = (if n = 0 then [.bufmgr, .bufmgrFd, .workerDisplay] else []) →
      g.displayCount = n → c.count = n → AllHeld g → Mid n g c
  | initialised : c.fn = .init → c.pc = .inside .setBufmgrFd ∨ c.pc = .unlock →
      c.touched = (if n = 0 then [.bufmgr, .bufmgrFd, .workerDisplay] else []) →
      c.before = n → c.after = n + 1 → g.displayCount = n + 1 → AllHeld g → Mid n g c
  | loadToFini : c.fn = .fini → c.pc = .inside .loadCount → c.touched = [] →
      n ≠ 0 → Consistent n g → Mid n g c
  | storeToFini : c.fn = .fini → c.pc = .inside .storeCount → c.touched = [] →
      n ≠ 0 → c.count = n → Consistent n g → Mid n g c
  | othersLeft : c.fn = .fini → c.pc = .unlock → c.touched = [] → 2 ≤ n →
      c.before = n → c.after = n - 1 → g.displayCount = n - 1 → AllHeld g → Mid n g c
  | deinitBufmgr : c.fn = .fini → c.pc = .inside .deinitBufmgr → c.touched = [] → n = 1 →
      c.before = 1 → c.after = 0 → g.displayCount = 0 → AllHeld g → Mid n g c
  | closeBufmgrFd : c.fn = .fini → c.pc = .inside .closeBufmgrFd → c.touched = [.bufmgr] →
      n = 1 → c.before = 1 → c.after = 0 → g.displayCount = 0 →
      Held g.workerDisplay g.connections → Held g.bufmgrFd g.fds → g.bufmgrs = [] → Mid n g c
  | closeWorkerDisplay : c.fn = .fini → c.pc = .inside .closeWorkerDisplay →
      c.touched = [.bufmgrFd, .bufmgr] → n = 1 → c.before = 1 → c.after = 0 →
      g.displayCount = 0 → Held g.workerDisplay g.connections → g.fds = [] → g.bufmgrs = [] →
      Mid n g c
  | resetWorkerDisplay : c.fn = .fini → c.pc = .inside .resetWorkerDisplay →
      c.touched = [.workerDisplay, .bufmgrFd, .bufmgr] → n = 1 → c.before = 1 → c.after = 0 →
      g.displayCount = 0 → g.connections = [] → g.fds = [] → g.bufmgrs = [] → Mid n g c
  | resetBufmgrFd : c.fn = .fini → c.pc = .inside .resetBufmgrFd →
      c.touched = [.workerDisplay, .bufmgrFd, .bufmgr] → n = 1 → c.before = 1 → c.after = 0 →
      g.displayCount = 0 → Gone g.workerDisplay g.connections → g.fds = [] → g.bufmgrs = [] →
      Mid n g c
  | resetBufmgr : c.fn = .fini → c.pc = .inside .resetBufmgr →
      c.touched = [.workerDisplay, .bufmgrFd, .bufmgr] → n = 1 → c.before = 1 → c.after = 0 →
      g.displayCount = 0 → Gone g.workerDisplay g.connections → Gone g.bufmgrFd g.fds →
      g.bufmgrs = [] → Mid n g c
  | closed : c.fn = .fini → c.pc = .inside .finiDrawableList ∨ c.pc = .unlock →
      c.touched = [.workerDisplay, .bufmgrFd, .bufmgr] → n = 1 → c.before = 1 → c.after = 0 →
      g.displayCount = 0 → AllGone g → Mid n g c

theorem AllHeld.congr {g g' : Shared Display} (h : AllHeld g)
    (hworker : g'.workerDisplay = g.workerDisplay) (hconnections : g'.connections = g.connections)
    (hfd : g'.bufmgrFd = g.bufmgrFd) (hfds : g'.fds = g.fds)
    (hbufmgr : g'.bufmgr = g.bufmgr) (hbufmgrs : g'.bufmgrs = g.bufmgrs) : AllHeld g' := by
  refine ⟨?_, ?_, ?_⟩
  · rw [hworker, hconnections]
    exact h.worker
  · rw [hfd, hfds]
    exact h.fd
  · rw [hbufmgr, hbufmgrs]
    exact h.bufmgr

theorem Gone.held {handle : Option Nat} {table : List Nat} (h : Gone handle table) (fresh : Nat) :
    Held (some fresh) (fresh :: table) :=
  ⟨fresh, rfl, by rw [h.2]⟩

theorem Held.erase {handle : Option Nat} {table : List Nat} (h : Held handle table) :
    handle.elim table table.erase = [] := by
  obtain ⟨w, rfl, rfl⟩ := h
  simp

variable [DecidableEq Display]

theorem Mid.exec {n : Nat} {g : Shared Display} {c : Call Display} (backend : X11Backend)
    {s : Statement} (h : Mid n g c) (hpc : c.pc = .inside s) :
    Mid n (s.exec backend g c).1 (s.exec backend g c).2 := by
  cases h with
  | testCount hfn hat htouched hcons =>
      obtain rfl : s = .testCount := Pc.inside.inj (hpc.symm.trans hat)
      by_cases hn : n = 0
      · have hzero : g.displayCount = 0 := by
          rw [hcons.count, hn]
          rfl
        refine .openWorkerDisplay hfn ?_ htouched hn hzero (hcons.gone hn)
        simp [Statement.exec, Call.goto, hzero]
      · have hpos : g.displayCount ≠ 0 := by
          rw [hcons.count]
          omega
        refine .loadToInit hfn ?_ ?_ hcons.count (hcons.held hn)
        · simp [Statement.exec, Call.goto, hpos]
        · rw [if_neg hn]
          exact htouched
  | openWorkerDisplay hfn hat htouched hn hcount hgone =>
      obtain rfl : s = .openWorkerDisplay := Pc.inside.inj (hpc.symm.trans hat)
      exact .openBufmgrFd hfn rfl (congrArg _ htouched) hn hcount (hgone.worker.held _) hgone.fd
        hgone.bufmgr
  | openBufmgrFd hfn hat htouched hn hcount hworker hfd hbufmgr =>
      obtain rfl : s = .openBufmgrFd := Pc.inside.inj (hpc.symm.trans hat)
      exact .initBufmgr hfn rfl (congrArg _ htouched) hn hcount hworker (hfd.held _) hbufmgr
  | initBufmgr hfn hat htouched hn hcount hworker hfd hbufmgr =>
      obtain rfl : s = .initBufmgr := Pc.inside.inj (hpc.symm.trans hat)
      cases backend with
      | dri2 =>
          refine .loadToInit hfn rfl ?_ ?_ ⟨hworker, hfd, hbufmgr.held _⟩
          · rw [if_pos hn]
            exact congrArg _ htouched
          · rw [hn]
            exact hcount
      | dri3 =>
          exact .initDrawableList hfn rfl (congrArg _ htouched) hn hcount
            ⟨hworker, hfd, hbufmgr.held _⟩
  | initDrawableList hfn hat htouched hn hcount hheld =>
      obtain rfl : s = .initDrawableList := Pc.inside.inj (hpc.symm.trans hat)
      refine .loadToInit hfn rfl ?_ ?_ (hheld.congr rfl rfl rfl rfl rfl rfl)
      · rw [if_pos hn]
        exact htouched
      · rw [hn]
        exact hcount
  | loadToInit hfn hat htouched hcount hheld =>
      obtain rfl : s = .loadCount := Pc.inside.inj (hpc.symm.trans hat)
      exact .storeToInit hfn rfl htouched hcount hcount hheld
  | storeToInit hfn hat htouched hcount hloaded hheld =>
      obtain rfl : s = .storeCount := Pc.inside.inj (hpc.symm.trans hat)
      simp only [Statement.exec, hfn]
      refine .initialised rfl (.inl rfl) htouched hcount ?_ ?_
        (hheld.congr rfl rfl rfl rfl rfl rfl)
      · exact congrArg (fun k : Int => k + 1) hloaded
      · exact congrArg (fun k : Int => k + 1) hloaded
  | initialised hfn hat htouched hbefore hafter hcount hheld =>
      rcases hat with hat | hat
      · obtain rfl : s = .setBufmgrFd := Pc.inside.inj (hpc.symm.trans hat)
        exact .initialised hfn (.inr rfl) htouched hbefore hafter hcount
          (hheld.congr rfl rfl rfl rfl rfl rfl)
      · cases hpc.symm.trans hat
  | loadToFini hfn hat htouched hn hcons =>
      obtain rfl : s = .loadCount := Pc.inside.inj (hpc.symm.trans hat)
      exact .storeToFini hfn rfl htouched hn hcons.count hcons
  | storeToFini hfn hat htouched hn hloaded hcons =>
      obtain rfl : s = .storeCount := Pc.inside.inj (hpc.symm.trans hat)
      simp only [Statement.exec, hfn]
      have hheld : AllHeld { g with displayCount := c.count - 1 } :=
        (hcons.held hn).congr rfl rfl rfl rfl rfl rfl
      by_cases hone : n = 1
      · have hzero : c.count - 1 = 0 := by omega
        refine .deinitBufmgr rfl ?_ htouched hone ?_ hzero hzero hheld
        · exact if_pos hzero
        · rw [hcons.count, hone]
          rfl
      · have hpos : c.count - 1 ≠ 0 := by omega
        refine .othersLeft rfl ?_ htouched (by omega) hcons.count ?_ ?_ hheld
        · exact if_neg hpos
        · rw [hloaded]
        · rw [hloaded]
  | othersLeft _ hat => cases hpc.symm.trans hat
  | deinitBufmgr hfn hat htouched hn hbefore hafter hcount hheld =>
      obtain rfl : s = .deinitBufmgr := Pc.inside.inj (hpc.symm.trans hat)
      exact .closeBufmgrFd hfn rfl (congrArg _ htouched) hn hbefore hafter hcount hheld.worker
        hheld.fd hheld.bufmgr.erase
  | closeBufmgrFd hfn hat htouched hn hbefore hafter hcount hworker hfd hbufmgrs =>
      obtain rfl : s = .closeBufmgrFd := Pc.inside.inj (hpc.symm.trans hat)
      exact .closeWorkerDisplay hfn rfl (congrArg _ htouched) hn hbefore hafter hcount hworker
        hfd.erase hbufmgrs
  | closeWorkerDisplay hfn hat htouched hn hbefore hafter hcount hworker hfds hbufmgrs =>
      obtain rfl : s = .closeWorkerDisplay := Pc.inside.inj (hpc.symm.trans hat)
      exact .resetWorkerDisplay hfn rfl (congrArg _ htouched) hn hbefore hafter hcount
        hworker.erase hfds hbufmgrs
  | resetWorkerDisplay hfn hat htouched hn hbefore hafter hcount hconnections hfds hbufmgrs =>
      obtain rfl : s = .resetWorkerDisplay := Pc.inside.inj (hpc.symm.trans hat)
      exact .resetBufmgrFd hfn rfl htouched hn hbefore hafter hcount ⟨rfl, hconnections⟩ hfds
        hbufmgrs
  | resetBufmgrFd hfn hat htouched hn hbefore hafter hcount hworker hfds hbufmgrs =>
      obtain rfl : s = .resetBufmgrFd := Pc.inside.inj (hpc.symm.trans hat)
      exact .resetBufmgr hfn rfl htouched hn hbefore hafter hcount hworker ⟨rfl, hfds⟩ hbufmgrs
  | resetBufmgr hfn hat htouched hn hbefore hafter hcount hworker hfd hbufmgrs =>
      obtain rfl : s = .resetBufmgr := Pc.inside.inj (hpc.symm.trans hat)
      cases backend with
      | dri2 =>
          exact .closed hfn (.inr rfl) htouched hn hbefore hafter hcount
            ⟨hworker, hfd, rfl, hbufmgrs⟩
      | dri3 =>
          exact .closed hfn (.inl rfl) htouched hn hbefore hafter hcount
            ⟨hworker, hfd, rfl, hbufmgrs⟩
  | closed hfn hat htouched hn hbefore hafter hcount hgone =>
      rcases hat with hat | hat
      · obtain rfl : s = .finiDrawableList := Pc.inside.inj (hpc.symm.trans hat)
        exact .closed hfn (.inr rfl) htouched hn hbefore hafter hcount
          ⟨hgone.worker, hgone.fd, hgone.bufmgr⟩
      · cases hpc.symm.trans hat

omit [DecidableEq Display] in
theorem Mid.critical {n : Nat} {g : Shared Display} {c : Call Display} (h : Mid n g c) :
    c.pc ≠ .getGlobalMutex ∧ c.pc ≠ .lock := by
  cases h with
  | initialised _ hat | closed _ hat =>
      rcases hat with hat | hat
      · rw [hat]
        exact ⟨Pc.noConfusion, Pc.noConfusion⟩
      · rw [hat]
        exact ⟨Pc.noConfusion, Pc.noConfusion⟩
  | _ hfn hat =>
      rw [hat]
      exact ⟨Pc.noConfusion, Pc.noConfusion⟩

omit [DecidableEq Display] in
theorem Mid.worker_held {n : Nat} {g : Shared Display} {c : Call Display} (h : Mid n g c)
    (hn : n ≠ 0) (hothers : c.fn = .fini → n ≠ 1) : Held g.workerDisplay g.connections := by
  cases h with
  | testCount _ _ _ hcons | loadToFini _ _ _ _ hcons | storeToFini _ _ _ _ _ hcons =>
      exact (hcons.held hn).worker
  | openWorkerDisplay _ _ _ hzero | openBufmgrFd _ _ _ hzero | initBufmgr _ _ _ hzero
  | initDrawableList _ _ _ hzero => exact absurd hzero hn
  | loadToInit _ _ _ _ hheld | storeToInit _ _ _ _ _ hheld | initialised _ _ _ _ _ _ hheld
  | othersLeft _ _ _ _ _ _ _ hheld => exact hheld.worker
  | deinitBufmgr hfn _ _ hone | closeBufmgrFd hfn _ _ hone | closeWorkerDisplay hfn _ _ hone
  | resetWorkerDisplay hfn _ _ hone | resetBufmgrFd hfn _ _ hone | resetBufmgr hfn _ _ hone
  | closed hfn _ _ hone => exact absurd hone (hothers hfn)

theorem mem_all (r : Resource) : r ∈ [Resource.bufmgr, .bufmgrFd, .workerDisplay] := by
  cases r with
  | workerDisplay | bufmgrFd | bufmgr => decide

theorem mem_all' (r : Resource) : r ∈ [Resource.workerDisplay, .bufmgrFd, .bufmgr] := by
  cases r with
  | workerDisplay | bufmgrFd | bufmgr => decide

omit [DecidableEq Display] in
theorem Mid.exact {n : Nat} {g : Shared Display} {c : Call Display} (h : Mid n g c)
    (hpc : c.pc = .unlock) : Record.Exact ⟨c.fn, c.before, c.after, c.touched⟩ := by
  intro resource
  cases h with
  | initialised hfn _ htouched hbefore hafter _ _ =>
      simp only [hfn]
      rw [htouched, hbefore, hafter]
      by_cases hn : n = 0
      · rw [if_pos hn]
        refine iff_of_true (mem_all resource) ?_
        rw [hn]
        exact ⟨rfl, rfl⟩
      · rw [if_neg hn]
        refine iff_of_false List.not_mem_nil fun h => hn ?_
        omega
  | othersLeft hfn _ htouched hn hbefore hafter _ _ =>
      simp only [hfn]
      rw [htouched, hbefore, hafter]
      refine iff_of_false List.not_mem_nil fun h => ?_
      omega
  | closed hfn _ htouched _ hbefore hafter _ _ =>
      simp only [hfn]
      rw [htouched]
      exact iff_of_true (mem_all' resource) ⟨hbefore, hafter⟩
  | _ hfn hat => cases hpc.symm.trans hat

omit [DecidableEq Display] in
theorem Mid.consistent_init {n : Nat} {g : Shared Display} {c : Call Display} (h : Mid n g c)
    (hpc : c.pc = .unlock) (hfn : c.fn = .init) : Consistent (n + 1) g := by
  cases h with
  | initialised _ _ _ _ _ hcount hheld =>
      refine ⟨hcount, fun hzero => ?_, fun _ => hheld⟩
      cases hzero
  | othersLeft hfini | closed hfini => cases hfn.symm.trans hfini
  | _ _ hat => cases hpc.symm.trans hat

omit [DecidableEq Display] in
theorem Mid.consistent_fini {n : Nat} {g : Shared Display} {c : Call Display} (h : Mid n g c)
    (hpc : c.pc = .unlock) (hfn : c.fn = .fini) : Consistent (n - 1) g := by
  cases h with
  | initialised hinit => cases hfn.symm.trans hinit
  | othersLeft _ _ _ hn _ _ hcount hheld =>
      refine ⟨?_, fun hzero => ?_, fun _ => hheld⟩
      · rw [hcount]
        omega
      · omega
  | closed _ _ _ hn _ _ hcount hgone =>
      refine ⟨?_, fun _ => hgone, fun hpos => ?_⟩
      · rw [hcount, hn]
        rfl
      · omega
  | _ _ hat => cases hpc.symm.trans hat

/-- The shared state between the critical sections, and in the one of the owner. -/
def Between (st : State Thread Display) : Option Thread → Prop
  | none => Consistent st.displays.length st.shared
  | some t => ∃ c, st.running t = some c ∧ Mid st.displays.length st.shared c

/-- The calls are about different displays, and at most one of them is in its
critical section. -/
structure Inv (st : State Thread Display) : Prop where
  nodup : st.displays.Nodup
  busy : ∀ t c, st.running t = some c → c.display ∈ st.busy
  distinct : ∀ t t' c c', st.running t = some c → st.running t' = some c' →
    c.display = c'.display → t = t'
  member : ∀ t c, st.running t = some c → (c.display ∈ st.displays ↔ c.fn = .fini)
  untouched : ∀ t c, st.running t = some c → c.pc = .getGlobalMutex ∨ c.pc = .lock →
    c.touched = []
  owned : ∃ owner, Owns owner st.Critical ∧ Between st owner
  exact : ∀ r ∈ st.records, r.Exact

omit [DecidableEq Display] in
theorem inv_start : Inv (start : State Thread Display) := by
  refine ⟨List.nodup_nil, ?_, ?_, ?_, ?_, ⟨none, ?_, ?_⟩, ?_⟩
  · rintro t c ⟨⟩
  · rintro t t' c c' ⟨⟩
  · rintro t c ⟨⟩
  · rintro t c ⟨⟩
  · rintro t
    refine iff_of_false ?_ (fun h => by cases h)
    rintro ⟨c, ⟨⟩, _⟩
  · exact ⟨rfl, fun _ => ⟨⟨rfl, rfl⟩, ⟨rfl, rfl⟩, ⟨rfl, rfl⟩⟩, fun hzero => absurd rfl hzero⟩
  · rintro r ⟨⟩

omit [DecidableEq Display] in
theorem Inv.sound {st : State Thread Display} (h : Inv st) : Sound st := by
  obtain ⟨owner, howns, hbetween⟩ := h.owned
  refine ⟨h.exact, fun hidle => ?_, fun d hd hbusy => ?_⟩
  · cases owner with
    | none => exact hbetween.count
    | some t =>
        obtain ⟨c, hc, -⟩ := (howns t).mpr rfl
        cases (hidle t).symm.trans hc
  · have hpos : st.displays.length ≠ 0 := Nat.ne_of_gt (List.length_pos_of_mem hd)
    have hheld : Held st.shared.workerDisplay st.shared.connections := by
      cases owner with
      | none => exact (hbetween.held hpos).worker
      | some t =>
          obtain ⟨c, hc, hmid⟩ := hbetween
          refine hmid.worker_held hpos fun hfn hone => hbusy ?_
          obtain ⟨x, hx⟩ := List.length_eq_one_iff.mp hone
          have hmem := (h.member t c hc).mpr hfn
          rw [hx, List.mem_singleton] at hd hmem
          rw [hd, ← hmem]
          exact h.busy t c hc
    obtain ⟨w, hw, htable⟩ := hheld
    refine ⟨w, hw, ?_⟩
    rw [htable]
    exact List.mem_singleton_self w

variable [DecidableEq Thread]

omit [DecidableEq Display] in
theorem critical_setCall {st : State Thread Display} {t : Thread} {c : Call Display}
    {g : Shared Display} (q : Thread) :
    ({ st.setCall t c with shared := g } : State Thread Display).Critical q ↔
      if q = t then c.pc ≠ .getGlobalMutex ∧ c.pc ≠ .lock else st.Critical q := by
  by_cases hqt : q = t
  · subst hqt
    simp [State.Critical, State.setCall]
  · simp [State.Critical, State.setCall, hqt]

omit [DecidableEq Display] in
theorem Inv.setCall {st : State Thread Display} (h : Inv st) {t : Thread} {c c' : Call Display}
    {g : Shared Display} (hc : st.running t = some c) (hdisplay : c'.display = c.display)
    (hfn : c'.fn = c.fn)
    (huntouched : c'.pc = .getGlobalMutex ∨ c'.pc = .lock → c'.touched = [])
    (howned : ∃ owner, Owns owner (State.Critical { st.setCall t c' with shared := g }) ∧
      Between { st.setCall t c' with shared := g } owner) :
    Inv { st.setCall t c' with shared := g } := by
  have hcases : ∀ q x, (st.setCall t c').running q = some x →
      (q = t ∧ x = c') ∨ (q ≠ t ∧ st.running q = some x) := by
    intro q x hx
    by_cases hqt : q = t
    · subst hqt
      refine .inl ⟨rfl, ?_⟩
      simpa [State.setCall] using hx.symm
    · exact .inr ⟨hqt, by simpa [State.setCall, hqt] using hx⟩
  -- the display of every call is the one it has had before
  have hback : ∀ q x, (st.setCall t c').running q = some x →
      ∃ y, st.running q = some y ∧ y.display = x.display ∧ y.fn = x.fn := by
    intro q x hx
    rcases hcases q x hx with ⟨rfl, rfl⟩ | ⟨_, hold⟩
    · exact ⟨c, hc, hdisplay.symm, hfn.symm⟩
    · exact ⟨x, hold, rfl, rfl⟩
  refine ⟨h.nodup, ?_, ?_, ?_, ?_, howned, h.exact⟩
  · intro q x hx
    obtain ⟨y, hy, hsame, -⟩ := hback q x hx
    exact hsame ▸ h.busy q y hy
  · intro q q' x x' hx hx' heq
    obtain ⟨y, hy, hsame, -⟩ := hback q x hx
    obtain ⟨y', hy', hsame', -⟩ := hback q' x' hx'
    exact h.distinct q q' y y' hy hy' (hsame.trans (heq.trans hsame'.symm))
  · intro q x hx
    obtain ⟨y, hy, hsame, hsamefn⟩ := hback q x hx
    rw [← hsame, ← hsamefn]
    exact h.member q y hy
  · intro q x hx hpc
    rcases hcases q x hx with ⟨rfl, rfl⟩ | ⟨_, hold⟩
    · exact huntouched hpc
    · exact h.untouched q x hold hpc

omit [DecidableEq Display] [DecidableEq Thread] in
theorem not_critical {st : State Thread Display} {t : Thread} {c : Call Display}
    (hc : st.running t = some c) (hpc : c.pc = .getGlobalMutex ∨ c.pc = .lock) :
    ¬ st.Critical t := by
  rintro ⟨c', hc', hget, hlock⟩
  obtain rfl := Option.some.inj (hc.symm.trans hc')
  rcases hpc with hpc | hpc
  · exact hget hpc
  · exact hlock hpc

omit [DecidableEq Display] [DecidableEq Thread] in
theorem Inv.consistent {st : State Thread Display} (h : Inv st)
    (hnone : ∀ t, ¬ st.Critical t) : Consistent st.displays.length st.shared := by
  obtain ⟨owner, howns, hbetween⟩ := h.owned
  cases owner with
  | none => exact hbetween
  | some t => exact absurd ((howns t).mpr rfl) (hnone t)

omit [DecidableEq Display] [DecidableEq Thread] in
theorem Inv.mid {st : State Thread Display} (h : Inv st) {t : Thread} {c : Call Display}
    (hc : st.running t = some c) (hcritical : st.Critical t) :
    Mid st.displays.length st.shared c := by
  obtain ⟨owner, howns, hbetween⟩ := h.owned
  obtain rfl := (howns t).mp hcritical
  obtain ⟨c', hc', hmid⟩ := hbetween
  obtain rfl := Option.some.inj (hc.symm.trans hc')
  exact hmid

omit [DecidableEq Thread] in
theorem Statement.exec_same (backend : X11Backend) (g : Shared Display) (c : Call Display)
    (s : Statement) :
    (s.exec backend g c).2.display = c.display ∧ (s.exec backend g c).2.fn = c.fn := by
  cases s with
  | storeCount =>
      cases hfn : c.fn with
      | init | fini => simp [Statement.exec, hfn]
  | _ => exact ⟨rfl, rfl⟩

omit [DecidableEq Display] in
theorem inv_call {st : State Thread Display} (h : Inv st) {t : Thread} {fn : Function}
    {d : Display} (hidle : st.running t = none) (hmay : st.mayCall d fn) :
    Inv { st.setCall t (newCall fn d) with busy := d :: st.busy } := by
  have hfree : d ∉ st.busy := by
    cases fn with
    | init | fini => exact hmay.2
  have hcases : ∀ q x, (st.setCall t (newCall fn d)).running q = some x →
      (q = t ∧ x = newCall fn d) ∨ (q ≠ t ∧ st.running q = some x) := by
    intro q x hx
    by_cases hqt : q = t
    · subst hqt
      refine .inl ⟨rfl, ?_⟩
      simpa [State.setCall] using hx.symm
    · exact .inr ⟨hqt, by simpa [State.setCall, hqt] using hx⟩
  have hsame : ∀ q, State.Critical { st.setCall t (newCall fn d) with busy := d :: st.busy } q ↔
      st.Critical q := by
    intro q
    by_cases hqt : q = t
    · subst hqt
      simp [State.Critical, State.setCall, newCall, hidle]
    · simp [State.Critical, State.setCall, hqt]
  refine ⟨h.nodup, ?_, ?_, ?_, ?_, ?_, h.exact⟩
  · intro q x hx
    rcases hcases q x hx with ⟨rfl, rfl⟩ | ⟨_, hold⟩
    · exact List.mem_cons_self
    · exact List.mem_cons_of_mem _ (h.busy q x hold)
  · intro q q' x x' hx hx' heq
    rcases hcases q x hx with ⟨rfl, rfl⟩ | ⟨_, hold⟩
    · rcases hcases q' x' hx' with ⟨rfl, rfl⟩ | ⟨_, hold'⟩
      · rfl
      · have hd : d = x'.display := heq
        exact absurd (hd ▸ h.busy q' x' hold') hfree
    · rcases hcases q' x' hx' with ⟨rfl, rfl⟩ | ⟨_, hold'⟩
      · have hd : x.display = d := heq
        exact absurd (hd ▸ h.busy q x hold) hfree
      · exact h.distinct q q' x x' hold hold' heq
  · intro q x hx
    rcases hcases q x hx with ⟨rfl, rfl⟩ | ⟨_, hold⟩
    · cases fn with
      | init => exact iff_of_false hmay.1 Function.noConfusion
      | fini => exact iff_of_true hmay.1 rfl
    · exact h.member q x hold
  · intro q x hx hpc
    rcases hcases q x hx with ⟨rfl, rfl⟩ | ⟨_, hold⟩
    · rfl
    · exact h.untouched q x hold hpc
  · obtain ⟨owner, howns, hbetween⟩ := h.owned
    refine ⟨owner, howns.keep hsame, ?_⟩
    cases owner with
    | none => exact hbetween
    | some q =>
        obtain ⟨x, hx, hmid⟩ := hbetween
        have hqt : q ≠ t := by
          rintro rfl
          cases hidle.symm.trans hx
        exact ⟨x, by simpa [State.setCall, hqt] using hx, hmid⟩

omit [DecidableEq Display] in
theorem Inv.outside {st : State Thread Display} (h : Inv st) {t : Thread} {c : Call Display}
    (hc : st.running t = some c) (hpc : c.pc = .getGlobalMutex ∨ c.pc = .lock) (mutex : Bool) :
    Inv (st.setCall t { c with mutex := mutex, pc := .lock }) := by
  refine h.setCall (g := st.shared) hc rfl rfl (fun _ => h.untouched t c hc hpc) ?_
  obtain ⟨owner, howns, hbetween⟩ := h.owned
  refine ⟨owner, howns.keep fun q => ?_, ?_⟩
  · rw [critical_setCall]
    by_cases hqt : q = t
    · subst hqt
      simp [not_critical hc hpc]
    · simp [hqt]
  · cases owner with
    | none => exact hbetween
    | some q =>
        obtain ⟨x, hx, hmid⟩ := hbetween
        have hqt : q ≠ t := by
          rintro rfl
          exact not_critical hc hpc ((howns q).mpr rfl)
        exact ⟨x, by simpa [State.setCall, hqt] using hx, hmid⟩

omit [DecidableEq Display] in
theorem Inv.lock {st : State Thread Display} (h : Inv st) {t : Thread} {c : Call Display}
    (hc : st.running t = some c) (hpc : c.pc = .lock) (hnone : ∀ q, ¬ st.Critical q) :
    Inv (st.setCall t { c with mutex := true, pc := .inside c.fn.first }) := by
  have htouched : c.touched = [] := h.untouched t c hc (.inr hpc)
  have hcons := h.consistent hnone
  refine h.setCall (g := st.shared) hc rfl rfl (fun _ => htouched) ⟨some t, ?_, ?_⟩
  · intro q
    rw [critical_setCall]
    by_cases hqt : q = t
    · simp [hqt]
    · simp [hqt, hnone q, Ne.symm hqt]
  · refine ⟨{ c with mutex := true, pc := .inside c.fn.first }, by simp [State.setCall], ?_⟩
    cases hfn : c.fn with
    | init => exact .testCount rfl rfl htouched hcons
    | fini =>
        have hmem : c.display ∈ st.displays := (h.member t c hc).mpr hfn
        exact .loadToFini rfl rfl htouched (Nat.ne_of_gt (List.length_pos_of_mem hmem)) hcons

theorem Inv.inside (backend : X11Backend) {st : State Thread Display} (h : Inv st) {t : Thread}
    {c : Call Display} (hc : st.running t = some c) {s : Statement} (hpc : c.pc = .inside s) :
    Inv { st.setCall t (s.exec backend st.shared c).2 with
      shared := (s.exec backend st.shared c).1 } := by
  have hcritical : st.Critical t := ⟨c, hc, by rw [hpc]; exact Pc.noConfusion,
    by rw [hpc]; exact Pc.noConfusion⟩
  have hmid := (h.mid hc hcritical).exec backend hpc
  obtain ⟨hdisplay, hfn⟩ := Statement.exec_same backend st.shared c s
  refine h.setCall hc hdisplay hfn (fun hout => ?_) ⟨some t, ?_, ?_⟩
  · rcases hout with hout | hout
    · exact absurd hout hmid.critical.1
    · exact absurd hout hmid.critical.2
  · obtain ⟨owner, howns, -⟩ := h.owned
    obtain rfl := (howns t).mp hcritical
    refine howns.keep fun q => ?_
    rw [critical_setCall]
    by_cases hqt : q = t
    · subst hqt
      simp [hcritical, hmid.critical]
    · simp [hqt]
  · exact ⟨_, by simp [State.setCall], hmid⟩

theorem mem_displays_finish {st : State Thread Display} (h : Inv st) {t : Thread}
    {c : Call Display} {d : Display} (hd : d ≠ c.display) :
    d ∈ (st.finish t c).displays ↔ d ∈ st.displays := by
  cases hfn : c.fn with
  | init => simp [State.finish, hfn, hd]
  | fini => simp [State.finish, hfn, h.nodup.mem_erase_iff, hd]

theorem Inv.unlock {st : State Thread Display} (h : Inv st) {t : Thread} {c : Call Display}
    (hc : st.running t = some c) (hpc : c.pc = .unlock) : Inv (st.finish t c) := by
  have hcritical : st.Critical t := ⟨c, hc, by rw [hpc]; exact Pc.noConfusion,
    by rw [hpc]; exact Pc.noConfusion⟩
  have hmid := h.mid hc hcritical
  have hold : ∀ q x, (st.finish t c).running q = some x → q ≠ t ∧ st.running q = some x := by
    intro q x hx
    by_cases hqt : q = t
    · subst hqt
      simp [State.finish] at hx
    · exact ⟨hqt, by simpa [State.finish, hqt] using hx⟩
  have hother : ∀ q x, (st.finish t c).running q = some x → x.display ≠ c.display := by
    intro q x hx heq
    obtain ⟨hqt, hx'⟩ := hold q x hx
    exact hqt (h.distinct q t x c hx' hc heq)
  refine ⟨?_, ?_, ?_, ?_, ?_, ⟨none, ?_, ?_⟩, ?_⟩
  · cases hfn : c.fn with
    | init =>
        have hnew : c.display ∉ st.displays := by
          rw [h.member t c hc, hfn]
          exact Function.noConfusion
        simpa [State.finish, hfn] using And.intro hnew h.nodup
    | fini => simpa [State.finish, hfn] using h.nodup.erase c.display
  · intro q x hx
    exact (List.mem_erase_of_ne (hother q x hx)).mpr (h.busy q x (hold q x hx).2)
  · intro q q' x x' hx hx' heq
    exact h.distinct q q' x x' (hold q x hx).2 (hold q' x' hx').2 heq
  · intro q x hx
    rw [mem_displays_finish h (hother q x hx)]
    exact h.member q x (hold q x hx).2
  · intro q x hx
    exact h.untouched q x (hold q x hx).2
  · obtain ⟨owner, howns, -⟩ := h.owned
    obtain rfl := (howns t).mp hcritical
    refine howns.release hcritical ?_ fun q hqt => ?_
    · simp [State.Critical, State.finish]
    · simp [State.Critical, State.finish, hqt]
  · show Consistent (st.finish t c).displays.length st.shared
    cases hfn : c.fn with
    | init => simpa [State.finish, hfn] using hmid.consistent_init hpc hfn
    | fini =>
        have hmem : c.display ∈ st.displays := (h.member t c hc).mpr hfn
        simpa [State.finish, hfn, List.length_erase_of_mem hmem] using
          hmid.consistent_fini hpc hfn
  · intro r hr
    rcases List.mem_cons.mp hr with rfl | hr
    · exact hmid.exact hpc
    · exact h.exact r hr

theorem inv_step {backend : X11Backend} {st st' : State Thread Display}
    {l : Label Thread Display} (h : Inv st) (hallowed : LocksAlone st l)
    (hstep : step backend st l = some st') : Inv st' := by
  cases l with
  | call t fn d =>
      simp only [step] at hstep
      split at hstep
      · cases hstep
      · rename_i hidle
        split at hstep
        · rename_i hmay
          obtain rfl := Option.some.inj hstep
          exact inv_call h hidle hmay
        · cases hstep
  | run t =>
      simp only [step] at hstep
      split at hstep
      · rename_i c hc
        cases hpc : c.pc with
        | getGlobalMutex =>
            simp only [State.exec, hpc] at hstep
            obtain rfl := Option.some.inj hstep
            exact h.outside hc (.inl hpc) st.globalMutex
        | lock =>
            simp only [State.exec, hpc] at hstep
            split at hstep
            · cases hstep
            · obtain rfl := Option.some.inj hstep
              exact h.lock hc hpc (hallowed ⟨c, hc, hpc⟩)
        | inside s =>
            simp only [State.exec, hpc] at hstep
            obtain rfl := Option.some.inj hstep
            exact h.inside backend hc hpc
        | unlock =>
            simp only [State.exec, hpc] at hstep
            obtain rfl := Option.some.inj hstep
            exact h.unlock hc hpc
      · cases hstep

/-- With the mutual exclusion that a shared mutex gives, the resources follow the displays. -/
theorem sound_of_locksAlone {backend : X11Backend} {st : State Thread Display}
    (hst : (x11System backend).ReachableWhen LocksAlone st) : Sound st := by
  refine (hst.invariant (I := Inv) ?_ ?_).sound
  · rintro _ rfl
    exact inv_start
  · intro _ _ _ h hallowed hstep
    exact inv_step h hallowed hstep

end

section

variable {Thread : Type u} {Display : Type v}

instance (st : State Thread Display) (t : Thread) : Decidable (st.Critical t) :=
  decidable_of_iff
    (((st.running t).any fun c => c.pc ≠ .getGlobalMutex ∧ c.pc ≠ .lock) = true)
    (by
      unfold State.Critical
      cases st.running t with
      | none => simp
      | some c => simp)

instance (st : State Thread Display) (t : Thread) : Decidable (st.AtLock t) :=
  decidable_of_iff (((st.running t).any fun c => c.pc = .lock) = true)
    (by
      unfold State.AtLock
      cases st.running t with
      | none => simp
      | some c => simp)

instance (st : State (Fin 2) Display) (l : Label (Fin 2) Display) :
    Decidable (LocksAlone st l) :=
  match l with
  | .call _ _ _ => isTrue trivial
  | .run t => inferInstanceAs (Decidable (st.AtLock t → ∀ t', ¬ st.Critical t'))

end

def oneAfterTheOther : List (Label (Fin 2) Nat) :=
  [.call 0 .init 7, .call 1 .init 8, .run 0, .run 1] ++ List.replicate 9 (.run 0) ++
    List.replicate 6 (.run 1) ++ [.call 0 .fini 8] ++ List.replicate 5 (.run 0) ++
    [.call 1 .fini 7] ++ List.replicate 11 (.run 1)

theorem sound_oneAfterTheOther :
    ∃ st : State (Fin 2) Nat, (x11System .dri2).ReachableWhen LocksAlone st ∧
      st.records.length = 4 ∧ Sound st := by
  obtain ⟨st, hrun, hlength⟩ := (x11System .dri2).exists_of_runWhen LocksAlone
    (fun st => st.records.length = 4) start oneAfterTheOther (by decide)
  have hst : (x11System .dri2).ReachableWhen LocksAlone st :=
    .of_runWhen (.initial rfl) hrun
  exact ⟨st, hst, hlength, sound_of_locksAlone hst⟩

/-- Both threads lock, and find the count at 0, before one of them opens the resources. -/
def bothFindZero : List (Label (Fin 2) Nat) :=
  [.call 0 .init 7, .call 1 .init 8, .run 0, .run 0, .run 0, .run 1, .run 1, .run 1] ++
    List.replicate 7 (.run 0) ++ List.replicate 7 (.run 1)

theorem not_sound_bothFindZero :
    ¬ ∀ st : State (Fin 2) Nat, (x11System .dri2).Reachable st → Sound st := by
  intro hall
  obtain ⟨st, hrun, hrecord⟩ := (x11System .dri2).exists_of_run
    (fun st => ⟨.init, 1, 2, [.bufmgr, .bufmgrFd, .workerDisplay]⟩ ∈ st.records) start
    bothFindZero (by decide)
  have hexact := (hall st (.of_run (.initial rfl) hrun)).exact _ hrecord .bufmgr
  exact absurd (hexact.mp (mem_all _)) (by decide)

end LibtplEgl.X11GlobalState
