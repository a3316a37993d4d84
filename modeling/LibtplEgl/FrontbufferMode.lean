import LibtplEgl.EventMatching
import LibtplEgl.LabelledSystem
import LibtplEgl.TplTypes

namespace LibtplEgl.FrontbufferMode

open LibtplEgl.EventMatching
open LibtplEgl.LabelledSystem
open LibtplEgl.TplTypes

universe u

/-- What the calls that hand buffers over use of a `tpl_surface_t`. -/
structure TplSurface (Buffer : Type u) where
  type : TplSurfaceType
  isFrontbufferMode : Bool
  frontbuffer : Option Buffer
  width : Int
  height : Int
  deriving DecidableEq, Repr

inductive Answer
  | frontbuffer
  | backend
  deriving DecidableEq, Repr

/-- The surface and the sizes of the buffers. The last two fields record the run:
which buffers the client holds, by the answer to their latest dequeue, and the
buffers that `backend.dequeue_buffer` handed out and `backend.enqueue_buffer` got. -/
structure State (Buffer : Type u) where
  surface : TplSurface Buffer
  bufferSize : Buffer → Int × Int
  held : Buffer → Option Answer
  calls : List (Event Buffer)

/-- A call of the client. The results of `backend.validate`, `backend.dequeue_buffer`
and `backend.enqueue_buffer` come with the label. -/
inductive Label (Buffer : Type u)
  | setFrontbufferMode (set : Bool)
  | dequeueBuffer (valid : Bool) (dequeued : Option Buffer)
  | enqueueBuffer (tbmSurface : Option Buffer) (result : TplResult)
  deriving DecidableEq, Repr

section

variable {Buffer : Type u}

/-- `tpl_surface_set_frontbuffer_mode`. -/
def TplSurface.setFrontbufferMode (surface : TplSurface Buffer) (set : Bool) :
    TplSurface Buffer :=
  if surface.isFrontbufferMode = set then surface
  else { surface with isFrontbufferMode := set, frontbuffer := none }

/-- The front buffer that answers a dequeue; an invalid one is forgotten. -/
def TplSurface.takeFrontbuffer (surface : TplSurface Buffer) (valid : Bool) :
    Option Buffer × TplSurface Buffer :=
  match surface.isFrontbufferMode, surface.frontbuffer with
  | true, some b => if valid then (some b, surface) else (none, { surface with frontbuffer := none })
  | _, _ => (none, surface)

def TplSurface.setSize (surface : TplSurface Buffer) (size : Int × Int) : TplSurface Buffer :=
  { surface with width := size.1, height := size.2 }

variable [DecidableEq Buffer]

/-- `tpl_surface_dequeue_buffer_with_sync`. -/
def State.dequeueBuffer (st : State Buffer) (valid : Bool) (dequeued : Option Buffer) :
    Option Buffer × State Buffer :=
  match st.surface.takeFrontbuffer valid with
  | (some b, surface) =>
      (some b, { st with
        surface := surface.setSize (st.bufferSize b)
        held := Function.update st.held b (some .frontbuffer) })
  | (none, surface) =>
      match dequeued with
      | some b =>
          (some b, { st with
            surface := surface.setSize (st.bufferSize b)
            held := Function.update st.held b (some .backend)
            calls := st.calls ++ [.out b] })
      | none => (none, { st with surface := surface })

/-- `tpl_surface_enqueue_buffer_with_damage_and_sync`. -/
def State.enqueueBuffer (st : State Buffer) (tbmSurface : Option Buffer) (result : TplResult) :
    TplResult × State Buffer :=
  if st.surface.type ≠ .window then (.errorInvalidParameter, st)
  else match tbmSurface with
    | none => (.errorInvalidParameter, st)
    | some b =>
        let held := Function.update st.held b none
        if st.surface.isFrontbufferMode then
          if st.surface.frontbuffer = some b then (.errorNone, { st with held := held })
          else
            (result, { st with
              surface := { st.surface with frontbuffer := some b }
              held := held
              calls := st.calls ++ [.back b] })
        else (result, { st with held := held, calls := st.calls ++ [.back b] })

def step (st : State Buffer) : Label Buffer → Option (State Buffer)
  | .setFrontbufferMode set => some { st with surface := st.surface.setFrontbufferMode set }
  | .dequeueBuffer valid dequeued => some (st.dequeueBuffer valid dequeued).2
  | .enqueueBuffer tbmSurface result => some (st.enqueueBuffer tbmSurface result).2

def newSurface (type : TplSurfaceType) (width height : Int) (bufferSize : Buffer → Int × Int) :
    State Buffer where
  surface := ⟨type, false, none, width, height⟩
  bufferSize := bufferSize
  held := fun _ => none
  calls := []

def frontendSystem : System (State Buffer) (Label Buffer) where
  Initial st := ∃ type width height bufferSize, st = newSurface type width height bufferSize
  step := step

end

section

variable {Buffer : Type u}

/-- The client enqueues a buffer that it dequeued and has not enqueued since. -/
def EnqueuesHeld (st : State Buffer) : Label Buffer → Prop
  | .enqueueBuffer (some b) _ => st.held b ≠ none
  | _ => True

/-- A buffer whose latest dequeue the front buffer answered is enqueued while it
still is the front buffer, in front-buffer mode. -/
def EnqueuesFront (st : State Buffer) : Label Buffer → Prop
  | .enqueueBuffer (some b) _ => st.held b = some .frontbuffer →
      st.surface.isFrontbufferMode = true ∧ st.surface.frontbuffer = some b
  | _ => True

/-- The latest call of the backend that handed out a held buffer has not been
answered by an enqueue. -/
def Inv (st : State Buffer) : Prop :=
  ∃ partner, MatchedBy st.calls partner ∧
    ∀ b, st.held b = some .backend → ∃ j, Spare st.calls partner b j

theorem Inv.matched {st : State Buffer} (h : Inv st) : Matched st.calls := by
  obtain ⟨partner, hmatched, -⟩ := h
  exact ⟨partner, hmatched⟩

theorem Inv.same {st st' : State Buffer} (h : Inv st) (hcalls : st'.calls = st.calls)
    (hheld : st'.held = st.held) : Inv st' := by
  rw [Inv, hcalls, hheld]
  exact h

variable [DecidableEq Buffer]

theorem Inv.setHeld {st st' : State Buffer} (h : Inv st) {b : Buffer} {answer : Option Answer}
    (hheld : st'.held = Function.update st.held b answer) (hcalls : st'.calls = st.calls)
    (hanswer : answer ≠ some .backend) : Inv st' := by
  obtain ⟨partner, hmatched, hspare⟩ := h
  rw [Inv, hcalls, hheld]
  refine ⟨partner, hmatched, fun c hc => hspare c ?_⟩
  have hcb : c ≠ b := by
    rintro rfl
    rw [Function.update_self] at hc
    exact hanswer hc
  rwa [Function.update_of_ne hcb] at hc

theorem Inv.out {st st' : State Buffer} (h : Inv st) {b : Buffer}
    (hheld : st'.held = Function.update st.held b (some .backend))
    (hcalls : st'.calls = st.calls ++ [.out b]) : Inv st' := by
  obtain ⟨partner, hmatched, hspare⟩ := h
  rw [Inv, hcalls, hheld]
  refine ⟨partner, hmatched.out b, fun c hc => ?_⟩
  by_cases hcb : c = b
  · subst hcb
    exact ⟨_, hmatched.spare_out c⟩
  · rw [Function.update_of_ne hcb] at hc
    obtain ⟨j, hj⟩ := hspare c hc
    exact ⟨j, hj.out_other b⟩

theorem Inv.back {st st' : State Buffer} (h : Inv st) {b : Buffer}
    (hb : st.held b = some .backend) (hheld : st'.held = Function.update st.held b none)
    (hcalls : st'.calls = st.calls ++ [.back b]) : Inv st' := by
  obtain ⟨partner, hmatched, hspare⟩ := h
  obtain ⟨j, hj⟩ := hspare b hb
  rw [Inv, hcalls, hheld]
  refine ⟨_, hmatched.back hj, fun c hc => ?_⟩
  have hcb : c ≠ b := by
    rintro rfl
    rw [Function.update_self] at hc
    cases hc
  rw [Function.update_of_ne hcb] at hc
  obtain ⟨k, hk⟩ := hspare c hc
  exact ⟨k, hj.back_other hk hcb⟩

theorem Inv.dequeueBuffer {st : State Buffer} (h : Inv st) (valid : Bool)
    (dequeued : Option Buffer) : Inv (st.dequeueBuffer valid dequeued).2 := by
  rw [State.dequeueBuffer]
  split
  · exact h.setHeld rfl rfl nofun
  · split
    · exact h.out rfl rfl
    · exact h.same rfl rfl

theorem Inv.enqueueBuffer {st : State Buffer} (h : Inv st) (b : Buffer) (result : TplResult)
    (hheld : st.held b ≠ none)
    (hfront : st.held b = some .frontbuffer →
      st.surface.isFrontbufferMode = true ∧ st.surface.frontbuffer = some b) :
    Inv (st.enqueueBuffer (some b) result).2 := by
  have hbackend : ¬ (st.surface.isFrontbufferMode = true ∧ st.surface.frontbuffer = some b) →
      st.held b = some .backend := by
    intro hpassed
    cases hanswer : st.held b with
    | none => exact absurd hanswer hheld
    | some answer =>
        cases answer with
        | backend => rfl
        | frontbuffer => exact absurd (hfront hanswer) hpassed
  simp only [State.enqueueBuffer]
  split
  · exact h
  · split
    · rename_i hmode
      split
      · exact h.setHeld rfl rfl nofun
      · rename_i hother
        exact h.back (hbackend fun hboth => hother hboth.2) rfl rfl
    · rename_i hmode
      exact h.back (hbackend fun hboth => hmode hboth.1) rfl rfl

theorem inv_step {st st' : State Buffer} {l : Label Buffer} (h : Inv st)
    (hheld : EnqueuesHeld st l) (hfront : EnqueuesFront st l) (hstep : step st l = some st') :
    Inv st' := by
  cases l with
  | setFrontbufferMode set =>
      cases hstep
      exact h.same rfl rfl
  | dequeueBuffer valid dequeued =>
      cases hstep
      exact h.dequeueBuffer valid dequeued
  | enqueueBuffer tbmSurface result =>
      cases hstep
      cases tbmSurface with
      | none =>
          simp only [State.enqueueBuffer]
          split
          · exact h
          · exact h
      | some b => exact h.enqueueBuffer b result hheld hfront

theorem inv_reachable {st : State Buffer}
    (h : frontendSystem.ReachableWhen
      (fun st l => EnqueuesHeld st l ∧ EnqueuesFront st l) st) : Inv st := by
  refine h.invariant ?_ fun _ _ _ hinv hallowed hstep =>
    inv_step hinv hallowed.1 hallowed.2 hstep
  rintro _ ⟨type, width, height, bufferSize, rfl⟩
  exact ⟨id, matchedBy_nil id, nofun⟩

/-- The backend gets back what it handed out in every run in which a buffer that
the front buffer answered does not leave it before its enqueue. -/
theorem handovers_matched {st : State Buffer}
    (h : frontendSystem.ReachableWhen
      (fun st l => EnqueuesHeld st l ∧ EnqueuesFront st l) st) : Matched st.calls :=
  (inv_reachable h).matched

instance (st : State Buffer) (l : Label Buffer) : Decidable (EnqueuesHeld st l) :=
  match l with
  | .enqueueBuffer (some b) _ => inferInstanceAs (Decidable (st.held b ≠ none))
  | .enqueueBuffer none _ | .setFrontbufferMode _ | .dequeueBuffer _ _ => isTrue trivial

instance (st : State Buffer) (l : Label Buffer) : Decidable (EnqueuesFront st l) :=
  match l with
  | .enqueueBuffer (some b) _ =>
      inferInstanceAs (Decidable (st.held b = some .frontbuffer →
        st.surface.isFrontbufferMode = true ∧ st.surface.frontbuffer = some b))
  | .enqueueBuffer none _ | .setFrontbufferMode _ | .dequeueBuffer _ _ => isTrue trivial

def frontbufferRounds : List (Label Nat) :=
  [.setFrontbufferMode true, .dequeueBuffer true (some 1), .enqueueBuffer (some 1) .errorNone,
    .dequeueBuffer true none, .enqueueBuffer (some 1) .errorNone, .setFrontbufferMode false,
    .dequeueBuffer true (some 1), .enqueueBuffer (some 1) .errorNone]

theorem handovers_matched_frontbuffer_rounds :
    ∃ st, frontendSystem.runWhen (fun st l => EnqueuesHeld st l ∧ EnqueuesFront st l)
        (newSurface .window 10 10 fun _ => (10, 10)) frontbufferRounds = some st ∧
      st.calls = [.out 1, .back 1, .out 1, .back 1] ∧ Matched st.calls := by
  obtain ⟨st, hrun, hcalls⟩ := frontendSystem.exists_of_runWhen
    (fun st l => EnqueuesHeld st l ∧ EnqueuesFront st l)
    (fun st => st.calls = [.out 1, .back 1, .out 1, .back 1])
    (newSurface .window 10 10 fun _ => (10, 10)) frontbufferRounds (by decide)
  exact ⟨st, hrun, hcalls, handovers_matched (.of_runWhen (.initial ⟨_, _, _, _, rfl⟩) hrun)⟩

def modeEndsBetween : List (Label Nat) :=
  [.setFrontbufferMode true, .dequeueBuffer true (some 1), .enqueueBuffer (some 1) .errorNone,
    .dequeueBuffer true none, .setFrontbufferMode false, .enqueueBuffer (some 1) .errorNone]

/-- The backend then gets back twice the buffer that it handed out once. -/
theorem handovers_not_matched :
    ¬ ∀ st : State Nat, frontendSystem.ReachableWhen EnqueuesHeld st → Matched st.calls := by
  intro hall
  obtain ⟨st, hrun, hcalls⟩ := frontendSystem.exists_of_runWhen EnqueuesHeld
    (fun st => st.calls = [.out 1, .back 1, .back 1])
    (newSurface .window 10 10 fun _ => (10, 10)) modeEndsBetween (by decide)
  obtain ⟨partner, hmatched⟩ :=
    hall st (.of_runWhen (.initial ⟨_, _, _, _, rfl⟩) hrun)
  rw [hcalls] at hmatched
  have hfirst : partner 1 = 0 := Nat.lt_one_iff.mp (hmatched.earlier 1 1 rfl).1
  obtain ⟨hlt, hout⟩ := hmatched.earlier 2 1 rfl
  have hsecond : partner 2 = 0 := by
    rcases Nat.lt_succ_iff_lt_or_eq.mp hlt with hzero | hone
    · exact Nat.lt_one_iff.mp hzero
    · rw [hone] at hout
      cases hout
  cases hmatched.distinct 1 2 1 1 rfl rfl (hfirst.trans hsecond.symm)

end

end LibtplEgl.FrontbufferMode
