import Mathlib.Logic.Function.Basic
import LibtplEgl.LabelledSystem

namespace LibtplEgl.ResetCallbackLocks

open LibtplEgl.LabelledSystem

universe u

/-- The mutexes of a `tpl_surface_t` and of the `tpl_wayland_egl_surface_t` behind it. -/
inductive Mutex
  | surface
  | base
  deriving DecidableEq, Repr

/-- What is left to do on a thread, as far as the mutexes and the callbacks go. -/
inductive Action
  | lock (m : Mutex)
  | unlock (m : Mutex)
  | setResetCb (set : Bool)
  | returned
  | dequeue
  | applyResize
  | clearResized
  | waitDequeuable
  | waitWhileBlocked
  | dispatchPending
  | dispatchQueue
  | enqueue
  | waitVblank
  | trackBuffers
  | queueReset
  | flushQueue
  | resetCb
  deriving DecidableEq, Repr

/-- The handlers of `wl_tbm_event_queue`: a buffer release, a reset of the queue for its
new kind of buffers, and `__cb_tizen_surface_shm_flusher_flush_callback`. -/
inductive WlEvent
  | bufferRelease
  | queueReset
  | flush
  deriving DecidableEq, Repr

def WlEvent.handler : WlEvent → List Action
  | .bufferRelease => [.trackBuffers]
  | .queueReset => [.queueReset]
  | .flush => [.dispatchPending, .flushQueue, .trackBuffers]

/-- `tpl_surface_validate`, `tpl_surface_get_post_interval` and
`tpl_surface_set_reset_cb`. -/
inductive CallbackCall
  | validate
  | getPostInterval
  | setResetCb (set : Bool)
  deriving DecidableEq, Repr

def CallbackCall.body : CallbackCall → List Action
  | .validate | .getPostInterval => [.lock .surface, .unlock .surface, .returned]
  | .setResetCb set => [.lock .surface, .setResetCb set, .unlock .surface, .returned]

inductive Call
  | fromCallback (call : CallbackCall)
  | setPostInterval
  | setFrontbufferMode
  | setRotationCapability
  | setUserData
  | getUserData
  | dequeueBuffer
  | enqueueBuffer
  deriving DecidableEq, Repr

def Call.body : Call → List Action
  | .fromCallback call => call.body
  | .setPostInterval | .setFrontbufferMode | .setRotationCapability | .setUserData
  | .getUserData => [.lock .surface, .unlock .surface, .returned]
  | .dequeueBuffer => [.lock .surface, .dequeue, .unlock .surface, .returned]
  | .enqueueBuffer => [.lock .surface, .enqueue, .unlock .surface, .returned]

/-- What the environment decides when an action runs: whether it does what it may do, the
events that it dispatches, the calls that `reset_cb` makes. -/
structure Choice where
  happens : Bool
  events : List WlEvent
  calls : List CallbackCall
  deriving DecidableEq, Repr

/-- `returns` records for every call whether its thread had the surface's mutex when it
returned, and `selfLocked` that a thread has tried to lock a mutex that it had. -/
structure State (Thread : Type u) where
  owner : Mutex → Option Thread
  resetCb : Bool
  resized : Bool
  left : Thread → List Action
  returns : List Bool
  selfLocked : Bool

inductive Label (Thread : Type u)
  | call (t : Thread) (c : Call)
  | dispatch (t : Thread)
  | queueReset (t : Thread)
  | resizeCallback
  | run (t : Thread) (choice : Choice)
  deriving DecidableEq, Repr

section

variable {Thread : Type u}

/-- The body of a function that is called, or of a branch that is taken. -/
def State.body (st : State Thread) (choice : Choice) : Action → List Action
  -- the buffer comes from the backend, not from frontbuffer mode
  | .dequeue =>
      if choice.happens then [.applyResize, .waitDequeuable, .trackBuffers] else []
  | .applyResize => if st.resized then [.queueReset, .clearResized] else []
  -- `__tpl_wayland_egl_surface_wait_dequeuable`
  | .waitDequeuable => [.dispatchPending, .waitWhileBlocked]
  | .waitWhileBlocked =>
      if choice.happens then [.unlock .surface, .dispatchQueue, .lock .surface] else []
  | .dispatchPending => choice.events.flatMap WlEvent.handler
  | .dispatchQueue =>
      choice.events.flatMap WlEvent.handler ++
        (if choice.happens then [.dispatchQueue] else [])
  -- `__tpl_wayland_egl_surface_enqueue_buffer`, whose commit tracks the buffer again
  | .enqueue => if choice.happens then [.waitVblank, .trackBuffers, .trackBuffers] else []
  | .waitVblank => if choice.happens then [.unlock .surface, .lock .surface] else []
  | .trackBuffers => if choice.happens then [.lock .base, .unlock .base] else []
  -- `__cb_tbm_surface_queue_reset_callback`
  | .queueReset => [.lock .base, .unlock .base, .resetCb]
  | .flushQueue => if choice.happens then [.queueReset] else []
  | .resetCb => if st.resetCb then choice.calls.flatMap CallbackCall.body else []
  | .lock _ | .unlock _ | .setResetCb _ | .clearResized | .returned => []

variable [DecidableEq Thread]

def State.setLeft (st : State Thread) (t : Thread) (actions : List Action) : State Thread :=
  { st with left := Function.update st.left t actions }

def State.setOwner (st : State Thread) (m : Mutex) (owner : Option Thread) : State Thread :=
  { st with owner := Function.update st.owner m owner }

def State.run (st : State Thread) (t : Thread) (choice : Choice) : Option (State Thread) :=
  match st.left t with
  | [] => none
  | .lock m :: rest =>
      match st.owner m with
      | none => some ((st.setOwner m (some t)).setLeft t rest)
      | some other => if other = t then some { st with selfLocked := true } else none
  | .unlock m :: rest => some ((st.setOwner m none).setLeft t rest)
  | .setResetCb set :: rest => some ({ st with resetCb := set }.setLeft t rest)
  | .clearResized :: rest => some ({ st with resized := false }.setLeft t rest)
  | .returned :: rest =>
      some ({ st with
        returns := decide (st.owner .surface = some t) :: st.returns }.setLeft t rest)
  | action :: rest => some (st.setLeft t (st.body choice action ++ rest))

/-- One step. A thread that has nothing left calls the frontend, dispatches events, or
resets the tbm queue. -/
def step (st : State Thread) : Label Thread → Option (State Thread)
  | .call t c => if st.left t = [] then some (st.setLeft t c.body) else none
  | .dispatch t => if st.left t = [] then some (st.setLeft t [.dispatchQueue]) else none
  | .queueReset t => if st.left t = [] then some (st.setLeft t [.queueReset]) else none
  | .resizeCallback => some { st with resized := true }
  | .run t choice => st.run t choice

def newSurface : State Thread where
  owner := fun _ => none
  resetCb := false
  resized := false
  left := fun _ => []
  returns := []
  selfLocked := false

def lockSystem : System (State Thread) (Label Thread) where
  Initial st := st = newSurface
  step := step

omit [DecidableEq Thread] in
/-- No thread has tried to lock a mutex that it had, and every call has returned with the
surface's mutex released. -/
structure Safe (st : State Thread) : Prop where
  selfLocked : st.selfLocked = false
  returns : ∀ held ∈ st.returns, held = false

/-- A queue that is reset while there is a `reset_cb` is not reset by the thread that has
the surface's mutex. -/
def ResetsUnlocked (st : State Thread) : Label Thread → Prop
  | .run t _ => (st.left t).head? = some .queueReset → st.resetCb = true →
      st.owner .surface ≠ some t
  | _ => True

instance (st : State Thread) : ∀ l, Decidable (ResetsUnlocked st l)
  | .run _ _ => inferInstanceAs (Decidable (_ → _ → _))
  | .call _ _ | .dispatch _ | .queueReset _ | .resizeCallback => inferInstanceAs (Decidable True)

end

/-- What a thread relies on: whether there may be a `reset_cb`, and which mutexes the
thread has. -/
structure Held where
  resetCb : Bool
  surface : Bool
  base : Bool

/-- What has to hold when an action runs. -/
def Action.Pre (held : Held) : Action → Prop
  | .lock .surface => held.surface = false
  | .unlock .surface => held.surface = true
  | .lock .base => held.base = false
  | .unlock .base => held.base = true
  | .setResetCb _ => held.surface = true
  | .returned => held.surface = false
  | .dequeue | .waitDequeuable | .waitWhileBlocked | .enqueue | .waitVblank =>
      held.surface = true ∧ held.base = false
  | .resetCb => (held.surface = true → held.resetCb = false) ∧ held.base = false
  | .applyResize | .clearResized | .dispatchPending | .dispatchQueue | .trackBuffers
  | .queueReset | .flushQueue => held.base = false

/-- What holds after it. Once the surface's mutex was released, or `reset_cb` was set,
there may be one. -/
def Action.post (held : Held) : Action → Held
  | .lock .surface => { held with resetCb := true, surface := true }
  | .unlock .surface => { held with resetCb := true, surface := false }
  | .lock .base => { held with base := true }
  | .unlock .base => { held with base := false }
  | .setResetCb _ | .dequeue | .waitDequeuable | .waitWhileBlocked | .enqueue | .waitVblank =>
      { held with resetCb := true }
  | .returned | .resetCb | .applyResize | .clearResized | .dispatchPending | .dispatchQueue
  | .trackBuffers | .queueReset | .flushQueue => held

def Action.callsBody : Action → Bool
  | .lock _ | .unlock _ | .setResetCb _ | .clearResized | .returned => false
  | .dequeue | .applyResize | .waitDequeuable | .waitWhileBlocked | .dispatchPending
  | .dispatchQueue | .enqueue | .waitVblank | .trackBuffers | .queueReset | .flushQueue
  | .resetCb => true

def Disciplined : Held → List Action → Prop
  | held, [] => held.surface = false ∧ held.base = false
  | held, action :: rest => action.Pre held ∧ Disciplined (action.post held) rest

theorem Disciplined.weaken {held : Held} {actions : List Action}
    (h : Disciplined { held with resetCb := true } actions) : Disciplined held actions := by
  induction actions generalizing held with
  | nil => exact h
  | cons action rest ih =>
      obtain ⟨hpre, hrest⟩ := h
      have hpost : action.post { held with resetCb := true } =
          { action.post held with resetCb := true } := by
        cases action with
        | lock m | unlock m => cases m <;> rfl
        | _ => rfl
      rw [hpost] at hrest
      refine ⟨?_, ih hrest⟩
      cases action with
      | lock m | unlock m => cases m <;> exact hpre
      | resetCb => exact ⟨fun hsurface => (Bool.false_ne_true (hpre.1 hsurface).symm).elim, hpre.2⟩
      | _ => exact hpre

theorem Disciplined.unlocked {held : Held} {actions : List Action} (h : Disciplined held actions)
    (hsurface : held.surface = false) : Disciplined { held with resetCb := true } actions := by
  induction actions generalizing held with
  | nil => exact h
  | cons action rest ih =>
      obtain ⟨hpre, hrest⟩ := h
      cases action with
      | lock m =>
          cases m with
          | surface => exact ⟨hpre, hrest⟩
          | base => exact ⟨hpre, ih hrest hsurface⟩
      | unlock m =>
          cases m with
          | surface => exact ⟨hpre, hrest⟩
          | base => exact ⟨hpre, ih hrest hsurface⟩
      | resetCb =>
          refine ⟨⟨fun htrue => ?_, hpre.2⟩, ih hrest hsurface⟩
          cases hsurface.symm.trans htrue
      | setResetCb set => exact ⟨hpre, hrest⟩
      | dequeue | waitDequeuable | waitWhileBlocked | enqueue | waitVblank => exact ⟨hpre, hrest⟩
      | returned | applyResize | clearResized | dispatchPending | dispatchQueue | trackBuffers
      | queueReset | flushQueue => exact ⟨hpre, ih hrest hsurface⟩

theorem disciplined_events {held : Held} {rest : List Action} (hbase : held.base = false)
    (h : Disciplined held rest) (events : List WlEvent) :
    Disciplined held (events.flatMap WlEvent.handler ++ rest) := by
  induction events with
  | nil => exact h
  | cons event events ih =>
      rw [List.flatMap_cons, List.append_assoc]
      cases event with
      | bufferRelease => exact ⟨hbase, ih⟩
      | queueReset => exact ⟨hbase, ih⟩
      | flush => exact ⟨hbase, hbase, hbase, ih⟩

theorem disciplined_calls {held : Held} {rest : List Action} (hsurface : held.surface = false)
    (h : Disciplined held rest) (calls : List CallbackCall) :
    Disciplined held (calls.flatMap CallbackCall.body ++ rest) := by
  obtain ⟨resetCb, surface, base⟩ := held
  obtain rfl : surface = false := hsurface
  induction calls with
  | nil => exact h
  | cons call calls ih =>
      rw [List.flatMap_cons, List.append_assoc]
      have hunlocked := ih.unlocked rfl
      cases call with
      | validate | getPostInterval => exact ⟨rfl, rfl, rfl, hunlocked⟩
      | setResetCb set => exact ⟨rfl, rfl, rfl, rfl, hunlocked⟩

section

variable {Thread : Type u}

theorem disciplined_optional {held : Held} {branch rest : List Action} (happens : Bool)
    (hbranch : Disciplined held (branch ++ rest)) (hrest : Disciplined held rest) :
    Disciplined held ((if happens then branch else []) ++ rest) := by
  cases happens with
  | true => exact hbranch
  | false => exact hrest

theorem disciplined_body {st : State Thread} {held : Held} {action : Action} {rest : List Action}
    (h : Disciplined held (action :: rest)) (hcalls : action.callsBody = true)
    (hresetCb : held.resetCb = st.resetCb)
    (hreset : action = .queueReset → held.surface = true → held.resetCb = false)
    (choice : Choice) : Disciplined held (st.body choice action ++ rest) := by
  obtain ⟨hpre, hrest⟩ := h
  obtain ⟨resetCb, surface, base⟩ := held
  cases action with
  | lock _ | unlock _ | setResetCb _ | clearResized | returned => cases hcalls
  | dequeue =>
      exact disciplined_optional _ ⟨hpre.2, hpre, hpre.2, hrest⟩ (Disciplined.weaken hrest)
  | applyResize => exact disciplined_optional _ ⟨hpre, hpre, hrest⟩ hrest
  | waitDequeuable => exact ⟨hpre.2, hpre, hrest⟩
  | waitWhileBlocked =>
      obtain ⟨rfl, rfl⟩ : surface = true ∧ base = false := hpre
      exact disciplined_optional _ ⟨rfl, rfl, rfl, hrest⟩ (Disciplined.weaken hrest)
  | dispatchPending => exact disciplined_events hpre hrest _
  | dispatchQueue =>
      have hagain : Disciplined ⟨resetCb, surface, base⟩ ([.dispatchQueue] ++ rest) :=
        ⟨hpre, hrest⟩
      rw [State.body, List.append_assoc]
      exact disciplined_events hpre (disciplined_optional _ hagain hrest) _
  | enqueue =>
      have hbody : Disciplined ⟨resetCb, surface, base⟩
          ([.waitVblank, .trackBuffers, .trackBuffers] ++ rest) := ⟨hpre, hpre.2, hpre.2, hrest⟩
      exact disciplined_optional _ hbody (Disciplined.weaken hrest)
  | waitVblank =>
      obtain ⟨rfl, rfl⟩ : surface = true ∧ base = false := hpre
      exact disciplined_optional _ ⟨rfl, rfl, hrest⟩ (Disciplined.weaken hrest)
  | trackBuffers =>
      obtain rfl : base = false := hpre
      exact disciplined_optional _ ⟨rfl, rfl, hrest⟩ hrest
  | queueReset =>
      obtain rfl : base = false := hpre
      exact ⟨rfl, rfl, ⟨hreset rfl, rfl⟩, hrest⟩
  | flushQueue => exact disciplined_optional _ ⟨hpre, hrest⟩ hrest
  | resetCb =>
      obtain ⟨hunset, rfl⟩ : (surface = true → resetCb = false) ∧ base = false := hpre
      show Disciplined _ ((if st.resetCb then choice.calls.flatMap CallbackCall.body else []) ++ rest)
      cases hset : st.resetCb with
      | false => exact hrest
      | true =>
          have hsurface : surface = false := by
            by_contra htrue
            have hnone := hunset (Bool.of_not_eq_false htrue)
            cases (hresetCb.trans hset).symm.trans hnone
          exact disciplined_calls hsurface hrest _

theorem disciplined_call (c : Call) (resetCb : Bool) :
    Disciplined ⟨resetCb, false, false⟩ c.body := by
  cases c with
  | fromCallback call => cases call <;> exact ⟨rfl, rfl, rfl, rfl, by trivial⟩
  | setPostInterval | setFrontbufferMode | setRotationCapability | setUserData | getUserData =>
      exact ⟨rfl, rfl, rfl, rfl, rfl⟩
  | dequeueBuffer => exact ⟨rfl, ⟨rfl, rfl⟩, rfl, rfl, rfl, rfl⟩
  | enqueueBuffer => exact ⟨rfl, ⟨rfl, rfl⟩, rfl, rfl, rfl, rfl⟩

variable [DecidableEq Thread]

def State.held (st : State Thread) (t : Thread) : Held where
  resetCb := st.resetCb
  surface := decide (st.owner .surface = some t)
  base := decide (st.owner .base = some t)

structure Inv (st : State Thread) : Prop where
  safe : Safe st
  disciplined : ∀ t, Disciplined (st.held t) (st.left t)

theorem inv_newSurface : Inv (newSurface : State Thread) :=
  ⟨⟨rfl, by rintro held ⟨⟩⟩, fun _ => ⟨rfl, rfl⟩⟩

theorem Inv.idle {st : State Thread} (h : Inv st) {t : Thread} (hleft : st.left t = []) :
    st.held t = ⟨st.resetCb, false, false⟩ := by
  have hidle := h.disciplined t
  rw [hleft] at hidle
  obtain ⟨hsurface, hbase⟩ := hidle
  exact congrArg₂ (Held.mk st.resetCb) hsurface hbase

theorem Inv.setLeft {st : State Thread} (h : Inv st) {t : Thread} {actions : List Action}
    (hactions : Disciplined (st.held t) actions) : Inv (st.setLeft t actions) := by
  refine ⟨⟨h.safe.selfLocked, h.safe.returns⟩, fun other => ?_⟩
  show Disciplined (st.held other) (Function.update st.left t actions other)
  by_cases hother : other = t
  · subst hother
    rw [Function.update_self]
    exact hactions
  · rw [Function.update_of_ne hother]
    exact h.disciplined other

theorem held_setOwner {st : State Thread} {m : Mutex} {t other : Thread} {owner : Option Thread}
    (hbefore : st.owner m = none ∨ st.owner m = some t) (howner : owner = none ∨ owner = some t)
    (hother : other ≠ t) : (st.setOwner m owner).held other = st.held other := by
  have hkeep : decide (owner = some other) = decide (st.owner m = some other) := by
    have hnew : owner ≠ some other := by
      rcases howner with rfl | rfl
      · exact Option.some_ne_none other ∘ Eq.symm
      · exact fun heq => hother (Option.some.inj heq).symm
    have hold : st.owner m ≠ some other := by
      rcases hbefore with heq | heq
      · rw [heq]
        exact Option.some_ne_none other ∘ Eq.symm
      · rw [heq]
        exact fun hsame => hother (Option.some.inj hsame).symm
    rw [decide_eq_false hnew, decide_eq_false hold]
  cases m with
  | surface => exact congrArg (Held.mk st.resetCb · _) hkeep
  | base => exact congrArg (Held.mk st.resetCb _ ·) hkeep

theorem Inv.setOwner {st : State Thread} (h : Inv st) {m : Mutex} {t : Thread}
    {owner : Option Thread} {rest : List Action}
    (hbefore : st.owner m = none ∨ st.owner m = some t) (howner : owner = none ∨ owner = some t)
    (hrest : Disciplined ((st.setOwner m owner).held t) rest) :
    Inv ((st.setOwner m owner).setLeft t rest) := by
  refine ⟨⟨h.safe.selfLocked, h.safe.returns⟩, fun other => ?_⟩
  show Disciplined ((st.setOwner m owner).held other) (Function.update st.left t rest other)
  by_cases hother : other = t
  · subst hother
    rw [Function.update_self]
    exact hrest
  · rw [Function.update_of_ne hother, held_setOwner hbefore howner hother]
    exact h.disciplined other

theorem Inv.lock {st st' : State Thread} (h : Inv st) {t : Thread} {m : Mutex}
    {rest : List Action} {choice : Choice} (hleft : st.left t = .lock m :: rest)
    (hrun : st.run t choice = some st') : Inv st' := by
  have hnext := h.disciplined t
  rw [hleft] at hnext
  obtain ⟨hpre, hrest⟩ := hnext
  simp only [State.run, hleft] at hrun
  cases howner : st.owner m with
  | none =>
      simp only [howner] at hrun
      cases hrun
      refine h.setOwner (.inl howner) (.inr rfl) ?_
      cases m with
      | surface =>
          have hheld : (st.setOwner .surface (some t)).held t =
              ⟨st.resetCb, true, decide (st.owner .base = some t)⟩ :=
            congrArg (Held.mk _ · _) (decide_eq_true rfl)
          rw [hheld]
          exact Disciplined.weaken hrest
      | base =>
          have hheld : (st.setOwner .base (some t)).held t =
              ⟨st.resetCb, decide (st.owner .surface = some t), true⟩ :=
            congrArg (Held.mk _ _ ·) (decide_eq_true rfl)
          rw [hheld]
          exact hrest
  | some other =>
      simp only [howner] at hrun
      split at hrun
      · rename_i hself
        have hnot : st.owner m ≠ some t := by
          cases m with
          | surface | base => exact of_decide_eq_false hpre
        rw [howner, hself] at hnot
        exact (hnot rfl).elim
      · cases hrun

theorem Inv.unlock {st st' : State Thread} (h : Inv st) {t : Thread} {m : Mutex}
    {rest : List Action} {choice : Choice} (hleft : st.left t = .unlock m :: rest)
    (hrun : st.run t choice = some st') : Inv st' := by
  have hnext := h.disciplined t
  rw [hleft] at hnext
  obtain ⟨hpre, hrest⟩ := hnext
  simp only [State.run, hleft] at hrun
  cases hrun
  have howns : st.owner m = some t := by
    cases m with
    | surface | base => exact of_decide_eq_true hpre
  refine h.setOwner (.inr howns) (.inl rfl) ?_
  cases m with
  | surface =>
      have hheld : (st.setOwner .surface none).held t =
          ⟨st.resetCb, false, decide (st.owner .base = some t)⟩ :=
        congrArg (Held.mk _ · _) (decide_eq_false nofun)
      rw [hheld]
      exact Disciplined.weaken hrest
  | base =>
      have hheld : (st.setOwner .base none).held t =
          ⟨st.resetCb, decide (st.owner .surface = some t), false⟩ :=
        congrArg (Held.mk _ _ ·) (decide_eq_false nofun)
      rw [hheld]
      exact hrest

theorem Inv.setResetCb {st st' : State Thread} (h : Inv st) {t : Thread} {set : Bool}
    {rest : List Action} {choice : Choice} (hleft : st.left t = .setResetCb set :: rest)
    (hrun : st.run t choice = some st') : Inv st' := by
  have hnext := h.disciplined t
  rw [hleft] at hnext
  obtain ⟨hpre, hrest⟩ := hnext
  simp only [State.run, hleft] at hrun
  cases hrun
  have howns : st.owner .surface = some t := of_decide_eq_true hpre
  have hothers : ∀ other, other ≠ t →
      Disciplined (({ st with resetCb := set } : State Thread).held other) (st.left other) := by
    intro other hother
    have hnot : st.owner .surface ≠ some other := by
      rw [howns]
      exact fun heq => hother (Option.some.inj heq).symm
    have hunlocked := (h.disciplined other).unlocked (decide_eq_false hnot)
    exact @Disciplined.weaken ⟨set, _, _⟩ _ hunlocked
  refine ⟨⟨h.safe.selfLocked, h.safe.returns⟩, fun other => ?_⟩
  show Disciplined (({ st with resetCb := set } : State Thread).held other)
    (Function.update st.left t rest other)
  by_cases hother : other = t
  · subst hother
    rw [Function.update_self]
    exact @Disciplined.weaken ⟨set, _, _⟩ _ hrest
  · rw [Function.update_of_ne hother]
    exact hothers other hother

theorem Inv.returned {st st' : State Thread} (h : Inv st) {t : Thread} {rest : List Action}
    {choice : Choice} (hleft : st.left t = .returned :: rest)
    (hrun : st.run t choice = some st') : Inv st' := by
  have hnext := h.disciplined t
  rw [hleft] at hnext
  obtain ⟨hpre, hrest⟩ := hnext
  simp only [State.run, hleft] at hrun
  cases hrun
  have hreleased : decide (st.owner .surface = some t) = false := hpre
  have hset := h.setLeft hrest
  refine ⟨⟨h.safe.selfLocked, fun held hheld => ?_⟩, hset.disciplined⟩
  rcases List.mem_cons.mp hheld with rfl | hold
  · exact hreleased
  · exact h.safe.returns held hold

theorem Inv.run {st st' : State Thread} (h : Inv st) {t : Thread} {choice : Choice}
    (hallowed : ResetsUnlocked st (.run t choice)) (hrun : st.run t choice = some st') :
    Inv st' := by
  cases hleft : st.left t with
  | nil =>
      simp only [State.run, hleft] at hrun
      cases hrun
  | cons action rest =>
      have hnext := h.disciplined t
      rw [hleft] at hnext
      have hreset : action = .queueReset → (st.held t).surface = true →
          (st.held t).resetCb = false := by
        rintro rfl hsurface
        refine Bool.of_not_eq_true fun hset => ?_
        exact hallowed (by rw [hleft]; rfl) hset (of_decide_eq_true hsurface)
      cases action with
      | lock m => exact h.lock hleft hrun
      | unlock m => exact h.unlock hleft hrun
      | setResetCb set => exact h.setResetCb hleft hrun
      | returned => exact h.returned hleft hrun
      | clearResized =>
          simp only [State.run, hleft] at hrun
          cases hrun
          have hset := h.setLeft hnext.2
          exact ⟨⟨hset.safe.selfLocked, hset.safe.returns⟩, hset.disciplined⟩
      | dequeue | applyResize | waitDequeuable | waitWhileBlocked | dispatchPending
      | dispatchQueue | enqueue | waitVblank | trackBuffers | queueReset | flushQueue | resetCb =>
          simp only [State.run, hleft] at hrun
          cases hrun
          exact h.setLeft (disciplined_body hnext rfl rfl hreset choice)

theorem inv_step {st st' : State Thread} {l : Label Thread} (h : Inv st)
    (hallowed : ResetsUnlocked st l) (hstep : step st l = some st') : Inv st' := by
  cases l with
  | call t c =>
      simp only [step] at hstep
      split at hstep
      · rename_i hidle
        cases hstep
        refine h.setLeft ?_
        rw [h.idle hidle]
        exact disciplined_call c st.resetCb
      · cases hstep
  | dispatch t =>
      simp only [step] at hstep
      split at hstep
      · rename_i hidle
        cases hstep
        refine h.setLeft ?_
        rw [h.idle hidle]
        exact ⟨rfl, rfl, rfl⟩
      · cases hstep
  | queueReset t =>
      simp only [step] at hstep
      split at hstep
      · rename_i hidle
        cases hstep
        refine h.setLeft ?_
        rw [h.idle hidle]
        exact ⟨rfl, rfl, rfl⟩
      · cases hstep
  | resizeCallback =>
      cases hstep
      exact ⟨⟨h.safe.selfLocked, h.safe.returns⟩, h.disciplined⟩
  | run t choice => exact h.run hallowed hstep

/-- No thread waits for itself, and every call releases the surface, as long as no thread
that has the surface's mutex resets the queue of a surface with a `reset_cb`. -/
theorem resetCallback_safe {st : State Thread} (h : lockSystem.ReachableWhen ResetsUnlocked st) :
    Safe st := by
  refine (h.invariant (I := Inv) ?_ fun _ _ _ hinv hallowed hstep =>
    inv_step hinv hallowed hstep).safe
  rintro _ rfl
  exact inv_newSurface

def happens : Choice := ⟨true, [], []⟩

/-- The queue is reset by an event while a dequeue waits for a free buffer. -/
def resetWhileWaiting : List (Label Nat) :=
  [.call 0 (.fromCallback (.setResetCb true)), .run 0 happens, .run 0 happens, .run 0 happens,
    .run 0 happens, .call 0 .dequeueBuffer] ++ List.replicate 6 (.run 0 happens) ++
    [.run 0 happens, .run 0 ⟨false, [.queueReset], []⟩, .run 0 happens, .run 0 happens,
      .run 0 happens, .run 0 ⟨true, [], [.validate]⟩] ++ List.replicate 9 (.run 0 happens)

theorem resetCallback_safe_resetWhileWaiting :
    ∃ st, lockSystem.runWhen ResetsUnlocked newSurface resetWhileWaiting = some st ∧
      st.left 0 = [] ∧ st.returns.length = 3 ∧ Safe st := by
  obtain ⟨st, hrun, hleft, hreturns⟩ := lockSystem.exists_of_runWhen ResetsUnlocked
    (fun st => st.left 0 = [] ∧ st.returns.length = 3) newSurface resetWhileWaiting (by decide)
  exact ⟨st, hrun, hleft, hreturns, resetCallback_safe (.of_runWhen (.initial rfl) hrun)⟩

/-- The dequeue after a resize resets the queue, and `reset_cb` validates the surface. -/
theorem not_safe_resized : ¬ ∀ st : State Nat, lockSystem.Reachable st → Safe st := by
  intro hall
  obtain ⟨st, hrun, hlocked⟩ := lockSystem.exists_of_run (fun st => st.selfLocked = true)
    newSurface
    ([.call 0 (.fromCallback (.setResetCb true))] ++ List.replicate 4 (.run 0 happens) ++
      [.resizeCallback, .call 0 .dequeueBuffer] ++ List.replicate 6 (.run 0 happens) ++
      [.run 0 ⟨true, [], [.validate]⟩, .run 0 happens]) (by decide)
  have hsafe := (hall st (.of_run (.initial rfl) hrun)).selfLocked
  rw [hlocked] at hsafe
  cases hsafe

end

end LibtplEgl.ResetCallbackLocks
