import LibtplEgl.LabelledSystem
import LibtplEgl.TplTypes

namespace LibtplEgl.PresentationOrder

open LibtplEgl.LabelledSystem
open LibtplEgl.TplTypes

universe u

/-- What a `tpl_tbm_surface_t` and a `tpl_wayland_vk_wsi_surface_t` keep about the
buffers that wait for a vblank. -/
structure VblankQueue (Buffer : Type u) where
  presentMode : TplDisplayPresentMode
  vblankDone : Bool
  vblankList : List Buffer
  deriving DecidableEq, Repr

namespace VblankQueue

variable {Buffer : Type u}

/-- `__tpl_list_push_back`, which fails when there is no memory for a node. -/
def pushBack (q : VblankQueue Buffer) (b : Buffer) (allocated : Bool) : VblankQueue Buffer :=
  if allocated then { q with vblankList := q.vblankList ++ [b] } else q

/-- The end of `__tpl_tbm_draw_done` and `__tpl_wayland_vk_wsi_process_draw_done`:
whether the buffer is sent at once, or pushed to `vblank_list`. -/
def drawDone (q : VblankQueue Buffer) (b : Buffer) (allocated : Bool) :
    Bool × VblankQueue Buffer :=
  match q.presentMode with
  | .fifo => (false, q.pushBack b allocated)
  | .fifoRelaxed =>
      if q.vblankDone = false then (false, { q.pushBack b allocated with vblankDone := true })
      else (true, q)
  | .mailbox | .immediate => (true, q)

/-- `present_mode & (FIFO | FIFO_RELAXED)`. -/
def waitsForVblank (q : VblankQueue Buffer) : Bool :=
  q.presentMode.bit &&& (TplDisplayPresentMode.fifo.bit ||| TplDisplayPresentMode.fifoRelaxed.bit)
    != 0

/-- `__tpl_tbm_vblank` and `__tpl_wayland_vk_wsi_vblank`: the buffer that is popped. It
is sent if it is `valid`. -/
def vblank (q : VblankQueue Buffer) (valid : Bool) : Option Buffer × VblankQueue Buffer :=
  if q.waitsForVblank = false then (none, q)
  else
    (q.vblankList.head?, { q with
      vblankList := q.vblankList.tail
      vblankDone := q.vblankList.head?.isSome && valid })

/-- `draw_done` sends its buffer at once. -/
def sends (q : VblankQueue Buffer) : Bool :=
  match q.presentMode with
  | .fifo => false
  | .fifoRelaxed => q.vblankDone
  | .mailbox | .immediate => true

theorem drawDone_of_sends {q : VblankQueue Buffer} (h : q.sends = true) (b : Buffer)
    (allocated : Bool) : q.drawDone b allocated = (true, q) := by
  unfold sends at h
  cases hmode : q.presentMode <;> simp_all [drawDone]

theorem drawDone_of_waits {q : VblankQueue Buffer} (h : q.sends = false) (b : Buffer)
    (allocated : Bool) :
    (q.drawDone b allocated).1 = false ∧
      (q.drawDone b allocated).2.vblankList = (q.pushBack b allocated).vblankList := by
  unfold sends at h
  cases hmode : q.presentMode <;> simp_all [drawDone]

@[simp] theorem presentMode_pushBack (q : VblankQueue Buffer) (b : Buffer) (allocated : Bool) :
    (q.pushBack b allocated).presentMode = q.presentMode := by
  cases allocated <;> rfl

end VblankQueue

/-- The backends with a `vblank_list`; a server may support some present modes itself. -/
inductive Backend
  | tbm
  | waylandVulkanWsi (presentModes : Nat)
  deriving DecidableEq, Repr

/-- `present_mode & present_modes`. -/
def Backend.supports : Backend → TplDisplayPresentMode → Bool
  | .tbm, _ => false
  | .waylandVulkanWsi presentModes, mode => mode.bit &&& presentModes != 0

inductive Call (Buffer : Type u)
  | drawDone (b : Buffer)
  | vblank (listEmpty : Bool)
  deriving DecidableEq, Repr

/-- A call and the buffers that it passed on to `tbm_surface_queue_enqueue` or
`commit_buffer`. -/
structure CallRecord (Buffer : Type u) where
  call : Call Buffer
  presented : List Buffer
  deriving DecidableEq, Repr

/-- A swapchain. `calls` records the run, the latest call first. -/
structure State (Buffer : Type u) where
  backend : Backend
  queue : VblankQueue Buffer
  calls : List (CallRecord Buffer)

inductive Label (Buffer : Type u)
  | drawDone (b : Buffer) (allocated : Bool)
  | vblank
  deriving DecidableEq, Repr

section

variable {Buffer : Type u}

/-- `__tpl_tbm_draw_done` and `__tpl_wayland_vk_wsi_process_draw_done`, which first asks
the server. -/
def Backend.drawDone (backend : Backend) (q : VblankQueue Buffer) (b : Buffer)
    (allocated : Bool) : Bool × VblankQueue Buffer :=
  if backend.supports q.presentMode then (true, q) else q.drawDone b allocated

/-- One call. The tbm queue has a reference to each buffer of a swapchain, so that a
popped one is valid. -/
def step (st : State Buffer) : Label Buffer → Option (State Buffer)
  | .drawDone b allocated =>
      let (sent, queue) := st.backend.drawDone st.queue b allocated
      some { st with
        queue := queue
        calls := ⟨.drawDone b, if sent then [b] else []⟩ :: st.calls }
  | .vblank =>
      let (popped, queue) := st.queue.vblank true
      some { st with
        queue := queue
        calls := ⟨.vblank st.queue.vblankList.isEmpty, popped.toList⟩ :: st.calls }

/-- `create_swapchain` leaves `vblank_done` as it is. -/
def freshSwapchain (backend : Backend) (mode : TplDisplayPresentMode) (vblankDone : Bool) :
    State Buffer where
  backend := backend
  queue := ⟨mode, vblankDone, []⟩
  calls := []

def presentSystem : System (State Buffer) (Label Buffer) where
  Initial st := ∃ backend mode vblankDone, backend.supports mode = false ∧
    st = freshSwapchain backend mode vblankDone
  step := step

def presented : List (CallRecord Buffer) → List Buffer
  | [] => []
  | record :: older => presented older ++ record.presented

def drawn : List (CallRecord Buffer) → List Buffer
  | [] => []
  | ⟨.drawDone b, _⟩ :: older => drawn older ++ [b]
  | ⟨.vblank _, _⟩ :: older => drawn older

/-- The latest vblank found `vblank_list` empty and nothing was presented since. -/
def late : List (CallRecord Buffer) → Bool
  | [] => false
  | ⟨_, _ :: _⟩ :: _ => false
  | ⟨.vblank true, []⟩ :: _ => true
  | ⟨_, []⟩ :: older => late older

/-- The buffers that a call may present in FIFO mode. -/
def Call.limit : Call Buffer → Nat
  | .drawDone _ => 0
  | .vblank _ => 1

/-- FIFO_RELAXED: a late buffer is presented at once, any other waits for a vblank. -/
def RelaxedRule : List (CallRecord Buffer) → Prop
  | [] => True
  | ⟨.drawDone b, presented⟩ :: older =>
      presented = (if late older then [b] else []) ∧ RelaxedRule older
  | ⟨.vblank _, _⟩ :: older => RelaxedRule older

/-- What has been drawn is presented or waits, in the order of the `draw_done` calls,
and at the time that the present mode asks for. -/
structure InOrder (st : State Buffer) : Prop where
  order : presented st.calls ++ st.queue.vblankList = drawn st.calls
  fifo : st.queue.presentMode = .fifo →
    ∀ record ∈ st.calls, record.presented.length ≤ record.call.limit
  relaxed : st.queue.presentMode = .fifoRelaxed → RelaxedRule st.calls

/-- A buffer that has to wait gets a node of the list, and in FIFO_RELAXED mode the
only `draw_done` is the first call of all and finds `vblank_done` false. -/
def DrawnInTime (st : State Buffer) : Label Buffer → Prop
  | .drawDone _ allocated =>
      match st.queue.presentMode with
      | .fifo => allocated = true
      | .fifoRelaxed => allocated = true ∧ st.calls = [] ∧ st.queue.vblankDone = false
      | .mailbox | .immediate => True
  | .vblank => True

structure Inv (st : State Buffer) : Prop where
  inOrder : InOrder st
  unsupported : st.backend.supports st.queue.presentMode = false
  sentAtOnce : st.queue.waitsForVblank = false → st.queue.vblankList = []
  relaxed : st.queue.presentMode = .fifoRelaxed → st.calls ≠ [] →
    st.queue.vblankDone = !late st.calls

theorem inv_freshSwapchain {backend : Backend} {mode : TplDisplayPresentMode}
    (hsupports : backend.supports mode = false) (vblankDone : Bool) :
    Inv (freshSwapchain backend mode vblankDone : State Buffer) := by
  refine ⟨⟨rfl, ?_, fun _ => trivial⟩, hsupports, fun _ => rfl, ?_⟩
  · rintro - record ⟨⟩
  · intro _ hne
    exact (hne rfl).elim

theorem drawDone_unsupported {backend : Backend} {q : VblankQueue Buffer}
    (h : backend.supports q.presentMode = false) (b : Buffer) (allocated : Bool) :
    backend.drawDone q b allocated = q.drawDone b allocated := by
  simp only [Backend.drawDone, h, Bool.false_eq_true, if_false]

theorem waitsForVblank_iff (q : VblankQueue Buffer) :
    q.waitsForVblank = true ↔ q.presentMode = .fifo ∨ q.presentMode = .fifoRelaxed := by
  cases hmode : q.presentMode <;>
    simp [VblankQueue.waitsForVblank, hmode, TplDisplayPresentMode.bit]

theorem Inv.waits {st : State Buffer} (h : Inv st) {b : Buffer} (vblankDone : Bool)
    (hmode : st.queue.presentMode = .fifo ∨
      st.queue.presentMode = .fifoRelaxed ∧ st.calls = [] ∧ vblankDone = true) :
    Inv { st with
      queue := { st.queue.pushBack b true with vblankDone := vblankDone }
      calls := ⟨.drawDone b, []⟩ :: st.calls } := by
  refine ⟨⟨?_, ?_, ?_⟩, h.unsupported, ?_, ?_⟩
  · have horder := h.inOrder.order
    show (presented st.calls ++ []) ++ (st.queue.vblankList ++ [b]) = drawn st.calls ++ [b]
    rw [List.append_nil, ← List.append_assoc, horder]
  · rintro hfifo record (_ | ⟨_, hold⟩)
    · exact Nat.le_refl 0
    · exact h.inOrder.fifo hfifo record hold
  · intro hrelaxed
    rcases hmode with hfifo | ⟨-, hcalls, -⟩
    · cases hfifo.symm.trans hrelaxed
    · rw [hcalls]
      exact ⟨rfl, trivial⟩
  · intro hwaits
    have htrue : st.queue.waitsForVblank = true :=
      (waitsForVblank_iff _).mpr (hmode.imp_right And.left)
    cases htrue.symm.trans hwaits
  · intro hrelaxed _
    rcases hmode with hfifo | ⟨-, hcalls, hdone⟩
    · cases hfifo.symm.trans hrelaxed
    · rw [hcalls]
      exact hdone

theorem Inv.sent {st : State Buffer} (h : Inv st) {b : Buffer}
    (hmode : st.queue.waitsForVblank = false) :
    Inv { st with calls := ⟨.drawDone b, [b]⟩ :: st.calls } := by
  have hnot : ¬ (st.queue.presentMode = .fifo ∨ st.queue.presentMode = .fifoRelaxed) := by
    rw [← waitsForVblank_iff, hmode]
    exact Bool.false_ne_true
  refine ⟨⟨?_, fun hfifo => (hnot (.inl hfifo)).elim, fun hrelaxed => (hnot (.inr hrelaxed)).elim⟩,
    h.unsupported, h.sentAtOnce, fun hrelaxed => (hnot (.inr hrelaxed)).elim⟩
  have horder := h.inOrder.order
  have hlist := h.sentAtOnce hmode
  rw [hlist, List.append_nil] at horder
  show (presented st.calls ++ [b]) ++ st.queue.vblankList = drawn st.calls ++ [b]
  rw [hlist, List.append_nil, horder]

theorem Inv.vblank {st st' : State Buffer} (h : Inv st) (hstep : step st .vblank = some st') :
    Inv st' := by
  simp only [step, VblankQueue.vblank] at hstep
  split at hstep
  · rename_i hmode
    cases hstep
    have hnot : ¬ (st.queue.presentMode = .fifo ∨ st.queue.presentMode = .fifoRelaxed) := by
      rw [← waitsForVblank_iff, hmode]
      exact Bool.false_ne_true
    refine ⟨⟨?_, fun hfifo => (hnot (.inl hfifo)).elim,
      fun hrelaxed => (hnot (.inr hrelaxed)).elim⟩, h.unsupported, h.sentAtOnce,
      fun hrelaxed => (hnot (.inr hrelaxed)).elim⟩
    show (presented st.calls ++ []) ++ st.queue.vblankList = drawn st.calls
    rw [List.append_nil, h.inOrder.order]
  · rename_i hmode
    have hwaits := Bool.of_not_eq_false hmode
    cases hstep
    refine ⟨⟨?_, ?_, h.inOrder.relaxed⟩, h.unsupported, ?_, ?_⟩
    · have horder := h.inOrder.order
      cases hlist : st.queue.vblankList with
      | nil =>
          rw [hlist] at horder
          show (presented st.calls ++ []) ++ [] = drawn st.calls
          rw [List.append_nil, horder]
      | cons b rest =>
          rw [hlist] at horder
          show (presented st.calls ++ [b]) ++ rest = drawn st.calls
          rw [List.append_assoc]
          exact horder
    · rintro hfifo record (_ | ⟨_, hold⟩)
      · cases st.queue.vblankList with
        | nil => exact Nat.zero_le 1
        | cons => exact Nat.le_refl 1
      · exact h.inOrder.fifo hfifo record hold
    · intro hnot
      cases hwaits.symm.trans hnot
    · intro _ _
      cases st.queue.vblankList with
      | nil => rfl
      | cons => rfl

theorem inv_step {st st' : State Buffer} {l : Label Buffer} (h : Inv st)
    (hallowed : DrawnInTime st l) (hstep : step st l = some st') : Inv st' := by
  cases l with
  | vblank => exact h.vblank hstep
  | drawDone b allocated =>
      simp only [step, drawDone_unsupported h.unsupported] at hstep
      cases hmode : st.queue.presentMode with
      | fifo =>
          simp only [DrawnInTime, hmode] at hallowed
          simp only [VblankQueue.drawDone, hmode, hallowed] at hstep
          cases hstep
          exact h.waits st.queue.vblankDone (.inl hmode)
      | fifoRelaxed =>
          simp only [DrawnInTime, hmode] at hallowed
          simp only [VblankQueue.drawDone, hmode, hallowed.1, hallowed.2.2] at hstep
          cases hstep
          exact h.waits true (.inr ⟨hmode, hallowed.2.1, rfl⟩)
      | mailbox | immediate =>
          simp only [VblankQueue.drawDone, hmode] at hstep
          cases hstep
          exact h.sent (by simp [VblankQueue.waitsForVblank, hmode, TplDisplayPresentMode.bit])

theorem length_drawn_lost {calls : List (CallRecord Buffer)} {waiting : List Buffer} {b : Buffer}
    (horder : presented calls ++ waiting = drawn calls) :
    presented calls ++ [] ++ waiting ≠ drawn calls ++ [b] := by
  intro heq
  have hlength := congrArg List.length heq
  rw [List.append_nil, horder, List.length_append] at hlength
  exact Nat.succ_ne_self _ hlength.symm

theorem drawnInTime_of_inOrder {st st' : State Buffer} {l : Label Buffer} (h : Inv st)
    (hstep : step st l = some st') (horder : InOrder st') : DrawnInTime st l := by
  cases l with
  | vblank => trivial
  | drawDone b allocated =>
      simp only [step, drawDone_unsupported h.unsupported] at hstep
      cases hmode : st.queue.presentMode with
      | fifo =>
          simp only [DrawnInTime, hmode]
          simp only [VblankQueue.drawDone, hmode] at hstep
          cases hstep
          by_contra hlost
          rw [Bool.not_eq_true] at hlost
          have hkept := horder.order
          simp only [VblankQueue.pushBack, hlost] at hkept
          exact length_drawn_lost h.inOrder.order hkept
      | fifoRelaxed =>
          simp only [DrawnInTime, hmode]
          simp only [VblankQueue.drawDone, hmode] at hstep
          split at hstep
          · rename_i hdone
            cases hstep
            have hrule := (horder.relaxed ((VblankQueue.presentMode_pushBack _ _ _).trans hmode)).1
            have hlate : late st.calls = false := by
              by_contra htrue
              rw [Bool.not_eq_false] at htrue
              simp [htrue] at hrule
            refine ⟨?_, ?_, hdone⟩
            · by_contra hlost
              rw [Bool.not_eq_true] at hlost
              have hkept := horder.order
              simp only [VblankQueue.pushBack, hlost] at hkept
              exact length_drawn_lost h.inOrder.order hkept
            · by_contra hcalls
              have hflag := h.relaxed hmode hcalls
              rw [hdone, hlate] at hflag
              cases hflag
          · rename_i hdone
            cases hstep
            have hrule := (horder.relaxed hmode).1
            have hlate : late st.calls = true := by
              by_contra hfalse
              rw [Bool.not_eq_true] at hfalse
              simp [hfalse] at hrule
            have hcalls : st.calls ≠ [] := by
              intro hnil
              rw [hnil] at hlate
              cases hlate
            have hflag := h.relaxed hmode hcalls
            rw [hlate] at hflag
            exact (hdone hflag).elim
      | mailbox | immediate => simp only [DrawnInTime, hmode]

/-- The buffers of a swapchain are presented in order in exactly the runs in which every
`draw_done` comes in time. -/
theorem presented_inOrder_iff {backend : Backend} {mode : TplDisplayPresentMode}
    (hsupports : backend.supports mode = false) (vblankDone : Bool) (ls : List (Label Buffer))
    (st : State Buffer)
    (hrun : presentSystem.run (freshSwapchain backend mode vblankDone) ls = some st) :
    presentSystem.Always InOrder (freshSwapchain backend mode vblankDone) ls ↔
      presentSystem.EveryStep DrawnInTime (freshSwapchain backend mode vblankDone) ls := by
  refine System.always_iff_everyStep (inv_freshSwapchain hsupports vblankDone) hrun ?_ ?_ ?_
  · intro _ _ _ hinv hallowed hstep
    exact inv_step hinv hallowed hstep
  · intro _ hinv
    exact hinv.inOrder
  · intro _ _ _ hinv hstep horder
    exact drawnInTime_of_inOrder hinv hstep horder

def drawTwo : List (Label Nat) :=
  [.vblank, .drawDone 1 true, .drawDone 2 true, .vblank, .vblank]

theorem presented_inOrder_drawTwo :
    ∃ st, presentSystem.run (freshSwapchain (.waylandVulkanWsi 1) .fifo false) drawTwo = some st ∧
      (presentSystem.Always InOrder (freshSwapchain (.waylandVulkanWsi 1) .fifo false) drawTwo ↔
        presentSystem.EveryStep DrawnInTime (freshSwapchain (.waylandVulkanWsi 1) .fifo false)
          drawTwo) := by
  obtain ⟨st, hrun, -⟩ := presentSystem.exists_of_run
    (fun st => presented st.calls = [1, 2] ∧ st.queue.vblankList = [])
    (freshSwapchain (.waylandVulkanWsi 1) .fifo false) drawTwo (by decide)
  exact ⟨st, hrun, presented_inOrder_iff (by decide) false drawTwo st hrun⟩

/-- In FIFO_RELAXED mode the second buffer is sent while the first one waits. -/
theorem not_presented_inOrder :
    ¬ ∀ st : State Nat, presentSystem.Reachable st → InOrder st := by
  intro hall
  obtain ⟨st, hrun, hpresented, hwaiting, hdrawn⟩ := presentSystem.exists_of_run
    (fun st => presented st.calls = [2] ∧ st.queue.vblankList = [1] ∧ drawn st.calls = [1, 2])
    (freshSwapchain .tbm .fifoRelaxed false) [.drawDone 1 true, .drawDone 2 true] (by decide)
  have horder := (hall st (.of_run (.initial ⟨_, _, _, rfl, rfl⟩) hrun)).order
  rw [hpresented, hwaiting, hdrawn] at horder
  exact absurd horder (by decide)

end

end LibtplEgl.PresentationOrder
