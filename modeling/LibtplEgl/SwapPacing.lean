import LibtplEgl.LabelledSystem
import Mathlib.Algebra.Group.Nat.Defs

namespace LibtplEgl.SwapPacing

open LibtplEgl.LabelledSystem

universe u

inductive Dri3BufferStatus
  | idle
  | busy
  | posted
  deriving DecidableEq, Repr

/-- What swaps and events use of a `dri3_buffer`. -/
structure Dri3Buffer where
  pixmap : BitVec 32
  status : Dri3BufferStatus
  lastSwap : BitVec 64
  bufferAge : BitVec 32
  deriving DecidableEq, Repr

/-- What swaps and events use of a `dri3_drawable`. -/
structure Dri3Drawable (Buffer : Type u) where
  isPixmap : Bool
  width : Int
  height : Int
  swapInterval : Int
  flipping : Bool
  sendSbc : BitVec 64
  recvSbc : BitVec 64
  ust : BitVec 64
  msc : BitVec 64
  recvMscSerial : BitVec 32
  buffers : List (Option Buffer)
  stamp : BitVec 32

inductive CompleteMode
  | flip
  | copy
  | other
  deriving DecidableEq, Repr

/-- The events of the Present extension. A completion is that of a pixmap or
that of a notification for an MSC. -/
inductive PresentEvent
  | configureNotify (width height : Int)
  | completePixmap (serial : BitVec 32) (mode : CompleteMode) (ust msc : BitVec 64)
  | completeMsc (serial : BitVec 32) (ust msc : BitVec 64)
  | idleNotify (pixmap : BitVec 32)
  deriving DecidableEq, Repr

/-- What `dri3_swap_buffers` is called with, besides the drawable. -/
structure SwapRequest (Buffer : Type u) where
  back : Option Buffer
  interval : Int
  region : BitVec 32
  deriving DecidableEq, Repr

/-- A call of `xcb_present_pixmap`, with the counters as they are then. -/
structure Present where
  pixmap : BitVec 32
  serial : BitVec 32
  region : BitVec 32
  sendSbc : BitVec 64
  recvSbc : BitVec 64
  deriving DecidableEq, Repr

/-- One drawable, the swap that waits for an event, the serials of the pixmaps
that the server has not completed, and the events that nobody has processed. -/
structure State (Buffer : Type u) where
  drawable : Dri3Drawable Buffer
  memory : Buffer → Dri3Buffer
  maxBack : Nat
  waiting : Option (Buffer × SwapRequest Buffer)
  outstanding : List (BitVec 32)
  events : List PresentEvent
  presents : List Present
  result : Option Int

/-- `(uint32_t) sbc`. -/
def low (sbc : BitVec 64) : BitVec 32 :=
  sbc.setWidth 32

/-- The new `recv_sbc`: the serial, merged with the upper half of `send_sbc`. -/
def mergeSerial (sendSbc : BitVec 64) (serial : BitVec 32) : BitVec 64 :=
  let recvSbc := sendSbc &&& 0xffffffff00000000#64 ||| serial.setWidth 64
  if sendSbc < recvSbc then recvSbc - 0x100000000#64 else recvSbc

section

variable {Buffer : Type u} [DecidableEq Buffer]

/-- `dri3_handle_present_event`. -/
def handlePresentEvent (st : State Buffer) : PresentEvent → State Buffer
  | .configureNotify width height =>
      { st with drawable := { st.drawable with width := width, height := height } }
  | .completePixmap serial mode ust msc =>
      { st with drawable := { st.drawable with
          recvSbc := mergeSerial st.drawable.sendSbc serial
          flipping := match mode with
            | .flip => true
            | .copy => false
            | .other => st.drawable.flipping
          ust := ust
          msc := msc } }
  | .completeMsc serial ust msc =>
      { st with drawable := { st.drawable with recvMscSerial := serial, ust := ust, msc := msc } }
  | .idleNotify pixmap =>
      match (st.drawable.buffers.filterMap id).find? fun b => (st.memory b).pixmap == pixmap with
      | some b =>
          { st with memory := Function.update st.memory b { st.memory b with status := .idle } }
      | none => st

def ageSlot (memory : Buffer → Dri3Buffer) : Option Buffer → Buffer → Dri3Buffer
  | some b =>
      if 0 < (memory b).bufferAge then
        Function.update memory b { memory b with bufferAge := (memory b).bufferAge + 1 }
      else memory
  | none => memory

/-- `dri3_swap_buffers` from the return of `dri3_wait_for_notify` on. -/
def present (st : State Buffer) (back : Buffer) (request : SwapRequest Buffer) : State Buffer :=
  let memory := (st.drawable.buffers.take st.maxBack).foldl ageSlot st.memory
  let sendSbc := st.drawable.sendSbc + 1
  { st with
    drawable := { st.drawable with
      swapInterval := request.interval
      sendSbc := sendSbc
      stamp := st.drawable.stamp + 1 }
    memory := Function.update memory back { memory back with
      bufferAge := 1
      status := .posted
      lastSwap := sendSbc }
    waiting := none
    outstanding := st.outstanding ++ [low sendSbc]
    presents :=
      ⟨(memory back).pixmap, low sendSbc, request.region, sendSbc, st.drawable.recvSbc⟩ ::
        st.presents
    result := some sendSbc.toInt }

/-- The swaps of a client, the rounds of the loop in `dri3_wait_for_notify`, the
events that other functions process between swaps, and the server. -/
inductive Label (Buffer : Type u)
  | swapBuffers (request : SwapRequest Buffer)
  | waitForNotify
  | waitFailed
  | handleEvent
  | completeNotify (mode : CompleteMode) (ust msc : BitVec 64)
  | configureNotify (width height : Int)
  | completeMsc (serial : BitVec 32) (ust msc : BitVec 64)
  | idleNotify (pixmap : BitVec 32)
  deriving DecidableEq, Repr

def reject (st : State Buffer) : State Buffer :=
  { st with result := some (-1) }

def takeEvent (st : State Buffer) : Option (State Buffer) :=
  match st.events with
  | event :: events => some (handlePresentEvent { st with events := events } event)
  | [] => none

def step (st : State Buffer) : Label Buffer → Option (State Buffer)
  | .swapBuffers request =>
      match st.waiting with
      | some _ => none
      | none =>
          match request.back with
          | none => some (reject st)
          | some back =>
              if st.drawable.isPixmap then some (reject st)
              else if low st.drawable.sendSbc = 0 then some (present st back request)
              else some { st with waiting := some (back, request) }
  | .waitForNotify =>
      match st.waiting with
      | none => none
      | some (back, request) =>
          if low st.drawable.sendSbc ≤ low st.drawable.recvSbc then
            some (present st back request)
          else takeEvent st
  | .waitFailed =>
      -- The connection is closed: `xcb_wait_for_special_event` returns `NULL`.
      match st.waiting with
      | none => none
      | some _ =>
          if low st.drawable.sendSbc ≤ low st.drawable.recvSbc then none
          else some { st with waiting := none, result := some (-1) }
  | .handleEvent =>
      match st.waiting with
      | some _ => none
      | none => takeEvent st
  | .completeNotify mode ust msc =>
      match st.outstanding with
      | serial :: serials =>
          some { st with
            outstanding := serials
            events := st.events ++ [.completePixmap serial mode ust msc] }
      | [] => none
  | .configureNotify width height =>
      some { st with events := st.events ++ [.configureNotify width height] }
  | .completeMsc serial ust msc =>
      some { st with events := st.events ++ [.completeMsc serial ust msc] }
  | .idleNotify pixmap =>
      some { st with events := st.events ++ [.idleNotify pixmap] }

/-- A new drawable: `dri3_create_drawable` leaves both counters 0. -/
def newDrawable (drawable : Dri3Drawable Buffer) (memory : Buffer → Dri3Buffer) (maxBack : Nat) :
    State Buffer where
  drawable := { drawable with sendSbc := 0, recvSbc := 0 }
  memory := memory
  maxBack := maxBack
  waiting := none
  outstanding := []
  events := []
  presents := []
  result := none

def pacingSystem : System (State Buffer) (Label Buffer) where
  Initial st := ∃ drawable memory maxBack, st = newDrawable drawable memory maxBack
  step := step

end

section

variable {Buffer : Type u}

/-- At every present the completion of the previous one has been processed. -/
def Paced (st : State Buffer) : Prop :=
  ∀ p ∈ st.presents, p.sendSbc - p.recvSbc = 1

instance (st : State Buffer) : Decidable (Paced st) :=
  inferInstanceAs (Decidable (∀ p ∈ st.presents, p.sendSbc - p.recvSbc = 1))

/-- A swap that does not wait, since the lower half of `send_sbc` is 0, finds
that the last completion has been processed. -/
def NothingOutstanding (st : State Buffer) : Label Buffer → Prop
  | .swapBuffers request =>
      st.waiting = none → request.back.isSome = true → st.drawable.isPixmap = false →
        low st.drawable.sendSbc = 0 → st.drawable.recvSbc = st.drawable.sendSbc
  | _ => True

def completions (events : List PresentEvent) : List (BitVec 32) :=
  events.filterMap fun
    | .completePixmap serial _ _ _ => some serial
    | .configureNotify _ _ | .completeMsc _ _ _ | .idleNotify _ => none

theorem completions_append (events events' : List PresentEvent) :
    completions (events ++ events') = completions events ++ completions events' :=
  List.filterMap_append

/-- The pixmaps whose completion has not been processed, the oldest first. -/
def State.unprocessed (st : State Buffer) : List (BitVec 32) :=
  completions st.events ++ st.outstanding

/-- At most one swap has not been completed, and it is the last one. -/
inductive Balanced (sendSbc recvSbc : BitVec 64) : List (BitVec 32) → Prop
  | processed : recvSbc = sendSbc → Balanced sendSbc recvSbc []
  | oneBehind : sendSbc = recvSbc + 1 → Balanced sendSbc recvSbc [low sendSbc]

/-- The counters agree with the pixmaps that are on their way. -/
structure Inv (st : State Buffer) : Prop where
  balanced : Balanced st.drawable.sendSbc st.drawable.recvSbc st.unprocessed
  waiting : st.waiting ≠ none → low st.drawable.sendSbc ≠ 0
  paced : Paced st

theorem highMask_bit : ∀ i : Fin 64, (0xffffffff00000000#64)[i] = decide (32 ≤ i.val) := by
  decide

theorem merge_toNat (sendSbc : BitVec 64) (serial : BitVec 32) :
    (sendSbc &&& 0xffffffff00000000#64 ||| serial.setWidth 64).toNat =
      sendSbc.toNat / 2 ^ 32 * 2 ^ 32 + serial.toNat := by
  have hupper : sendSbc &&& 0xffffffff00000000#64 = (sendSbc >>> 32) <<< 32 := by
    ext i hi
    have hmask : (0xffffffff00000000#64)[i] = decide (32 ≤ i) := highMask_bit ⟨i, hi⟩
    rw [BitVec.getElem_and, hmask, BitVec.getElem_shiftLeft, BitVec.getElem_ushiftRight]
    rcases Nat.lt_or_ge i 32 with hlow | hhigh
    · simp [hlow]
    · have hindex : 32 + (i - 32) = i := by omega
      simp [hhigh, hindex, BitVec.getLsbD_eq_getElem hi]
  have hdisjoint : (sendSbc >>> 32) <<< 32 &&& serial.setWidth 64 = 0#64 := by
    ext i hi
    rw [BitVec.getElem_and, BitVec.getElem_shiftLeft, BitVec.getElem_setWidth]
    rcases Nat.lt_or_ge i 32 with hlow | hhigh
    · simp [hlow]
    · rw [BitVec.getLsbD_of_ge serial i hhigh]
      simp
  rw [hupper, ← BitVec.add_eq_or_of_and_eq_zero _ _ hdisjoint]
  have hserial := serial.isLt
  have hsend := sendSbc.isLt
  rw [BitVec.toNat_add, BitVec.toNat_shiftLeft, BitVec.toNat_ushiftRight, BitVec.toNat_setWidth,
    Nat.shiftLeft_eq, Nat.shiftRight_eq_div_pow]
  omega

theorem low_toNat (sbc : BitVec 64) : (low sbc).toNat = sbc.toNat % 2 ^ 32 :=
  BitVec.toNat_setWidth 32 sbc

theorem merge_low (sbc : BitVec 64) :
    sbc &&& 0xffffffff00000000#64 ||| (low sbc).setWidth 64 = sbc := by
  apply BitVec.eq_of_toNat_eq
  rw [merge_toNat, low_toNat]
  exact Nat.div_add_mod' sbc.toNat (2 ^ 32)

theorem mergeSerial_low (sbc : BitVec 64) : mergeSerial sbc (low sbc) = sbc := by
  unfold mergeSerial
  dsimp only
  rw [merge_low, if_neg (BitVec.lt_irrefl sbc)]

theorem mergeSerial_near {sendSbc s : BitVec 64} (hsent : s ≤ sendSbc)
    (hnear : sendSbc.toNat - s.toNat < 2 ^ 32) :
    mergeSerial sendSbc (low s) = s ∧
      (sendSbc < sendSbc &&& 0xffffffff00000000#64 ||| (low s).setWidth 64 →
        0x100000000#64 ≤ sendSbc &&& 0xffffffff00000000#64 ||| (low s).setWidth 64) := by
  have hmerge := merge_toNat sendSbc (low s)
  rw [low_toNat] at hmerge
  unfold mergeSerial
  dsimp only
  generalize sendSbc &&& 0xffffffff00000000#64 ||| (low s).setWidth 64 = merged at hmerge ⊢
  rw [BitVec.le_def] at hsent
  have hborrow : sendSbc < merged → 0x100000000#64 ≤ merged := by
    rw [BitVec.lt_def, BitVec.le_def]
    intro hlater
    have hnumber : (0x100000000#64).toNat = 2 ^ 32 := rfl
    omega
  refine ⟨?_, hborrow⟩
  split
  · rename_i hlater
    have hle := hborrow hlater
    apply BitVec.eq_of_toNat_eq
    rw [BitVec.toNat_sub_of_le hle]
    rw [BitVec.lt_def] at hlater
    have hnumber : (0x100000000#64).toNat = 2 ^ 32 := rfl
    omega
  · rename_i hnot
    rw [BitVec.lt_def] at hnot
    apply BitVec.eq_of_toNat_eq
    omega

theorem not_low_le {sendSbc recvSbc : BitVec 64} (hbehind : sendSbc = recvSbc + 1)
    (hlow : low sendSbc ≠ 0) : ¬ low sendSbc ≤ low recvSbc := by
  subst hbehind
  intro hle
  apply hlow
  unfold low at *
  bv_omega

theorem inv_newDrawable (drawable : Dri3Drawable Buffer) (memory : Buffer → Dri3Buffer)
    (maxBack : Nat) : Inv (newDrawable drawable memory maxBack) := by
  refine ⟨.processed rfl, fun hwaiting => absurd rfl hwaiting, ?_⟩
  rintro p ⟨⟩

variable [DecidableEq Buffer]

theorem handlePresentEvent_frame (st : State Buffer) (event : PresentEvent) :
    (handlePresentEvent st event).waiting = st.waiting ∧
      (handlePresentEvent st event).outstanding = st.outstanding ∧
      (handlePresentEvent st event).events = st.events ∧
      (handlePresentEvent st event).presents = st.presents ∧
      (handlePresentEvent st event).drawable.sendSbc = st.drawable.sendSbc := by
  cases event with
  | configureNotify _ _ | completePixmap _ _ _ _ | completeMsc _ _ _ =>
      exact ⟨rfl, rfl, rfl, rfl, rfl⟩
  | idleNotify pixmap =>
      unfold handlePresentEvent
      dsimp only
      split
      · exact ⟨rfl, rfl, rfl, rfl, rfl⟩
      · exact ⟨rfl, rfl, rfl, rfl, rfl⟩

theorem handlePresentEvent_recvSbc (st : State Buffer) (event : PresentEvent) :
    (handlePresentEvent st event).drawable.recvSbc =
      match event with
      | .completePixmap serial _ _ _ => mergeSerial st.drawable.sendSbc serial
      | _ => st.drawable.recvSbc := by
  cases event with
  | configureNotify _ _ | completePixmap _ _ _ _ | completeMsc _ _ _ => rfl
  | idleNotify pixmap =>
      unfold handlePresentEvent
      dsimp only
      split
      · rfl
      · rfl

theorem inv_takeEvent {st st' : State Buffer} (h : Inv st) (htake : takeEvent st = some st') :
    Inv st' := by
  unfold takeEvent at htake
  split at htake
  · rename_i event events hevents
    obtain rfl := Option.some.inj htake
    obtain ⟨hwaiting, houtstanding, hrest, hpresents, hsend⟩ :=
      handlePresentEvent_frame { st with events := events } event
    have hrecv := handlePresentEvent_recvSbc { st with events := events } event
    refine ⟨?_, ?_, ?_⟩
    · have hbalanced := h.balanced
      unfold State.unprocessed at hbalanced ⊢
      rw [hevents] at hbalanced
      rw [hsend, hrest, houtstanding, hrecv]
      cases event with
      | configureNotify _ _ | completeMsc _ _ _ | idleNotify _ => exact hbalanced
      | completePixmap serial mode ust msc =>
          have hcons : completions (.completePixmap serial mode ust msc :: events) ++
              st.outstanding = serial :: (completions events ++ st.outstanding) := rfl
          rw [hcons] at hbalanced
          generalize completions events ++ st.outstanding = later at hbalanced ⊢
          cases hbalanced with
          | oneBehind _ => exact .processed (mergeSerial_low _)
    · rw [hwaiting, hsend]
      exact h.waiting
    · unfold Paced
      rw [hpresents]
      exact h.paced
  · cases htake

theorem inv_present {st : State Buffer} (h : Inv st) (back : Buffer)
    (request : SwapRequest Buffer) (hprocessed : st.drawable.recvSbc = st.drawable.sendSbc) :
    Inv (present st back request) := by
  have hnone : st.unprocessed = [] := by
    have hbalanced := h.balanced
    generalize st.unprocessed = serials at hbalanced ⊢
    cases hbalanced with
    | processed _ => rfl
    | oneBehind hbehind =>
        rw [hprocessed] at hbehind
        bv_omega
  refine ⟨?_, fun hwaiting => absurd rfl hwaiting, ?_⟩
  · have hone : (present st back request).unprocessed = [low (st.drawable.sendSbc + 1)] := by
      show completions st.events ++ (st.outstanding ++ [low (st.drawable.sendSbc + 1)]) = _
      rw [← List.append_assoc]
      have hnone' : completions st.events ++ st.outstanding = [] := hnone
      rw [hnone']
      rfl
    rw [hone]
    refine .oneBehind ?_
    show st.drawable.sendSbc + 1 = st.drawable.recvSbc + 1
    rw [hprocessed]
  · intro p hp
    rcases List.mem_cons.mp hp with rfl | hold
    · show st.drawable.sendSbc + 1 - st.drawable.recvSbc = 1
      rw [hprocessed]
      bv_omega
    · exact h.paced p hold

inductive Moves (st : State Buffer) : Label Buffer → State Buffer → Prop
  | rejected (request : SwapRequest Buffer) : st.waiting = none →
      (request.back.isSome = true → st.drawable.isPixmap = true) →
      Moves st (.swapBuffers request) (reject st)
  | passed (request : SwapRequest Buffer) {back : Buffer} : st.waiting = none →
      request.back = some back → st.drawable.isPixmap = false → low st.drawable.sendSbc = 0 →
      Moves st (.swapBuffers request) (present st back request)
  | waits (request : SwapRequest Buffer) {back : Buffer} : st.waiting = none →
      request.back = some back → st.drawable.isPixmap = false → low st.drawable.sendSbc ≠ 0 →
      Moves st (.swapBuffers request) { st with waiting := some (back, request) }
  | notified {back : Buffer} {request : SwapRequest Buffer} : st.waiting = some (back, request) →
      low st.drawable.sendSbc ≤ low st.drawable.recvSbc →
      Moves st .waitForNotify (present st back request)
  | waited {st' : State Buffer} : st.waiting ≠ none → takeEvent st = some st' →
      Moves st .waitForNotify st'
  | failed : st.waiting ≠ none →
      Moves st .waitFailed { st with waiting := none, result := some (-1) }
  | handled {st' : State Buffer} : st.waiting = none → takeEvent st = some st' →
      Moves st .handleEvent st'
  | completed (mode : CompleteMode) (ust msc : BitVec 64) {serial : BitVec 32}
      {serials : List (BitVec 32)} : st.outstanding = serial :: serials →
      Moves st (.completeNotify mode ust msc) { st with
        outstanding := serials
        events := st.events ++ [.completePixmap serial mode ust msc] }
  | sent (l : Label Buffer) (event : PresentEvent) : (∀ request, l ≠ .swapBuffers request) →
      completions [event] = [] →
      Moves st l { st with events := st.events ++ [event] }

theorem moves_of_step {st st' : State Buffer} {l : Label Buffer} (hstep : step st l = some st') :
    Moves st l st' := by
  cases l with
  | swapBuffers request =>
      cases hwaiting : st.waiting with
      | some swap =>
          simp only [step, hwaiting] at hstep
          cases hstep
      | none =>
          cases hback : request.back with
          | none =>
              simp only [step, hwaiting, hback] at hstep
              obtain rfl := Option.some.inj hstep
              refine .rejected request hwaiting fun hsome => ?_
              rw [hback] at hsome
              cases hsome
          | some back =>
              simp only [step, hwaiting, hback] at hstep
              split at hstep
              · rename_i hpixmap
                obtain rfl := Option.some.inj hstep
                exact .rejected request hwaiting fun _ => hpixmap
              · rename_i hpixmap
                have hwindow : st.drawable.isPixmap = false := Bool.eq_false_iff.mpr hpixmap
                split at hstep
                · rename_i hlow
                  obtain rfl := Option.some.inj hstep
                  exact .passed request hwaiting hback hwindow hlow
                · rename_i hlow
                  obtain rfl := Option.some.inj hstep
                  exact .waits request hwaiting hback hwindow hlow
  | waitForNotify =>
      cases hwaiting : st.waiting with
      | none =>
          simp only [step, hwaiting] at hstep
          cases hstep
      | some swap =>
          obtain ⟨back, request⟩ := swap
          simp only [step, hwaiting] at hstep
          split at hstep
          · rename_i hle
            obtain rfl := Option.some.inj hstep
            exact .notified hwaiting hle
          · exact .waited (by simp [hwaiting]) hstep
  | waitFailed =>
      cases hwaiting : st.waiting with
      | none =>
          simp only [step, hwaiting] at hstep
          cases hstep
      | some swap =>
          simp only [step, hwaiting] at hstep
          split at hstep
          · cases hstep
          · obtain rfl := Option.some.inj hstep
            exact .failed (by simp [hwaiting])
  | handleEvent =>
      cases hwaiting : st.waiting with
      | none =>
          simp only [step, hwaiting] at hstep
          exact .handled hwaiting hstep
      | some swap =>
          simp only [step, hwaiting] at hstep
          cases hstep
  | completeNotify mode ust msc =>
      cases houtstanding : st.outstanding with
      | nil =>
          simp only [step, houtstanding] at hstep
          cases hstep
      | cons serial serials =>
          simp only [step, houtstanding] at hstep
          obtain rfl := Option.some.inj hstep
          exact .completed mode ust msc houtstanding
  | configureNotify width height =>
      obtain rfl := Option.some.inj hstep
      exact .sent _ (.configureNotify width height) (fun _ hl => by cases hl) rfl
  | completeMsc serial ust msc =>
      obtain rfl := Option.some.inj hstep
      exact .sent _ (.completeMsc serial ust msc) (fun _ hl => by cases hl) rfl
  | idleNotify pixmap =>
      obtain rfl := Option.some.inj hstep
      exact .sent _ (.idleNotify pixmap) (fun _ hl => by cases hl) rfl

theorem inv_step {st st' : State Buffer} {l : Label Buffer} (h : Inv st)
    (hallowed : NothingOutstanding st l) (hstep : step st l = some st') : Inv st' := by
  cases moves_of_step hstep with
  | rejected request _ _ => exact ⟨h.balanced, h.waiting, h.paced⟩
  | passed request hwaiting hback hwindow hlow =>
      refine inv_present h _ request (hallowed hwaiting ?_ hwindow hlow)
      rw [hback]
      rfl
  | waits request hwaiting _ _ hlow => exact ⟨h.balanced, fun _ => hlow, h.paced⟩
  | @notified back request hwaiting hle =>
      refine inv_present h back request ?_
      have hlow : low st.drawable.sendSbc ≠ 0 := h.waiting (by simp [hwaiting])
      have hbalanced := h.balanced
      generalize st.unprocessed = serials at hbalanced
      cases hbalanced with
      | processed hprocessed => exact hprocessed
      | oneBehind hbehind => exact absurd hle (not_low_le hbehind hlow)
  | waited _ htake | handled _ htake => exact inv_takeEvent h htake
  | failed _ => exact ⟨h.balanced, fun hwaiting => absurd rfl hwaiting, h.paced⟩
  | @completed mode ust msc serial serials houtstanding =>
      refine ⟨?_, h.waiting, h.paced⟩
      have hsame : completions (st.events ++ [.completePixmap serial mode ust msc]) ++ serials =
          st.unprocessed := by
        rw [State.unprocessed, completions_append, houtstanding, List.append_assoc]
        rfl
      show Balanced _ _ (completions (st.events ++ _) ++ serials)
      rw [hsame]
      exact h.balanced
  | sent _ event _ hnone =>
      refine ⟨?_, h.waiting, h.paced⟩
      show Balanced _ _ (completions (st.events ++ [event]) ++ st.outstanding)
      rw [completions_append, hnone, List.append_nil]
      exact h.balanced

theorem nothingOutstanding_of_paced {st st' : State Buffer} {l : Label Buffer}
    (hstep : step st l = some st') (hpaced : Paced st') : NothingOutstanding st l := by
  cases l with
  | swapBuffers request =>
      intro hwaiting hback hwindow hlow
      cases moves_of_step hstep with
      | rejected _ _ hpixmap => cases hwindow.symm.trans (hpixmap hback)
      | passed _ _ _ _ _ =>
          have hone : st.drawable.sendSbc + 1 - st.drawable.recvSbc = 1 :=
            hpaced _ List.mem_cons_self
          bv_omega
      | waits _ _ _ _ hother => exact absurd hlow hother
      | sent _ _ hother _ => exact absurd rfl (hother request)
  | waitForNotify | waitFailed | handleEvent | completeNotify _ _ _ | configureNotify _ _
  | completeMsc _ _ _ | idleNotify _ => trivial

/-- Every present is paced in exactly the runs in which no swap is outstanding
whenever a swap finds the lower half of `send_sbc` at 0. -/
theorem paced_iff (drawable : Dri3Drawable Buffer) (memory : Buffer → Dri3Buffer) (maxBack : Nat)
    (ls : List (Label Buffer)) (st : State Buffer)
    (hrun : pacingSystem.run (newDrawable drawable memory maxBack) ls = some st) :
    pacingSystem.Always Paced (newDrawable drawable memory maxBack) ls ↔
      pacingSystem.EveryStep NothingOutstanding (newDrawable drawable memory maxBack) ls := by
  refine System.always_iff_everyStep (inv_newDrawable drawable memory maxBack) hrun ?_ ?_ ?_
  · intro _ _ _ h hallowed hstep
    exact inv_step h hallowed hstep
  · intro _ h
    exact h.paced
  · intro _ _ _ _ hstep hpaced
    exact nothingOutstanding_of_paced hstep hpaced

/-- No swap is waiting or outstanding after `n` swaps of a window. -/
structure Quiet (n : Nat) (st : State Buffer) : Prop where
  window : st.drawable.isPixmap = false
  waiting : st.waiting = none
  outstanding : st.outstanding = []
  events : st.events = []
  sent : st.drawable.sendSbc = BitVec.ofNat 64 n
  received : st.drawable.recvSbc = BitVec.ofNat 64 n

theorem reachable_present {n : Nat} {st : State Buffer} (hst : pacingSystem.Reachable st)
    (h : Quiet n st) (back : Buffer) :
    pacingSystem.Reachable (present st back ⟨some back, 1, 0⟩) := by
  have hequal : st.drawable.recvSbc = st.drawable.sendSbc := h.received.trans h.sent.symm
  by_cases hlow : low st.drawable.sendSbc = 0
  · refine .step (l := .swapBuffers ⟨some back, 1, 0⟩) hst trivial ?_
    simp only [pacingSystem, step, h.waiting, h.window, hlow, if_true, Bool.false_eq_true,
      if_false]
  · have hwaits : pacingSystem.Reachable
        { st with waiting := some (back, ⟨some back, 1, 0⟩) } := by
      refine .step (l := .swapBuffers ⟨some back, 1, 0⟩) hst trivial ?_
      simp only [pacingSystem, step, h.waiting, h.window, hlow, Bool.false_eq_true, if_false]
    refine .step (l := .waitForNotify) hwaits trivial ?_
    have hle : low st.drawable.sendSbc ≤ low st.drawable.recvSbc := by
      rw [hequal]
      exact BitVec.le_refl _
    simp only [pacingSystem, step, hle, if_true]
    rfl

theorem quiet_succ {n : Nat} {st : State Buffer} (hst : pacingSystem.Reachable st)
    (h : Quiet n st) (back : Buffer) :
    ∃ st' : State Buffer, pacingSystem.Reachable st' ∧ Quiet (n + 1) st' := by
  have hpresent := reachable_present hst h back
  have houtstanding : (present st back ⟨some back, 1, 0⟩).outstanding =
      [low (st.drawable.sendSbc + 1)] := by
    show st.outstanding ++ [low (st.drawable.sendSbc + 1)] = _
    rw [h.outstanding]
    rfl
  have hnext : st.drawable.sendSbc + 1 = BitVec.ofNat 64 (n + 1) := by
    rw [h.sent]
    exact (BitVec.ofNat_add n 1).symm
  let completed : State Buffer := { present st back ⟨some back, 1, 0⟩ with
    outstanding := []
    events := [.completePixmap (low (st.drawable.sendSbc + 1)) .flip 0 0] }
  have hcompleted : pacingSystem.Reachable completed := by
    refine .step (l := .completeNotify .flip 0 0) hpresent trivial ?_
    have hevents : (present st back ⟨some back, 1, 0⟩).events = [] := h.events
    simp only [pacingSystem, step, houtstanding, hevents, List.nil_append]
    rfl
  refine ⟨handlePresentEvent { completed with events := [] }
    (.completePixmap (low (st.drawable.sendSbc + 1)) .flip 0 0),
    .step (l := .handleEvent) hcompleted trivial rfl, ⟨h.window, rfl, rfl, rfl, hnext, ?_⟩⟩
  exact (mergeSerial_low _).trans hnext

theorem exists_quiet (drawable : Dri3Drawable Buffer) (hwindow : drawable.isPixmap = false)
    (memory : Buffer → Dri3Buffer) (maxBack : Nat) (back : Buffer) (n : Nat) :
    ∃ st : State Buffer, pacingSystem.Reachable st ∧ Quiet n st := by
  induction n with
  | zero =>
      exact ⟨newDrawable drawable memory maxBack, .initial ⟨_, _, _, rfl⟩,
        ⟨hwindow, rfl, rfl, rfl, rfl, rfl⟩⟩
  | succ n ih =>
      obtain ⟨st, hst, hquiet⟩ := ih
      exact quiet_succ hst hquiet back

end

def window : Dri3Drawable Nat :=
  ⟨false, 60, 30, 1, false, 0, 0, 0, 0, 0, [some 0, some 1], 0⟩

def buffers : Nat → Dri3Buffer :=
  fun b => ⟨BitVec.ofNat 32 b, .idle, 0, 0⟩

def twoSwaps : List (Label Nat) :=
  [.swapBuffers ⟨some 0, 1, 0⟩, .swapBuffers ⟨some 1, 1, 0⟩, .completeNotify .flip 7 7,
    .waitForNotify, .waitForNotify]

theorem paced_twoSwaps :
    ∃ st, pacingSystem.run (newDrawable window buffers 2) twoSwaps = some st ∧
      (pacingSystem.Always Paced (newDrawable window buffers 2) twoSwaps ↔
        pacingSystem.EveryStep NothingOutstanding (newDrawable window buffers 2) twoSwaps) := by
  obtain ⟨st, hrun, -⟩ := pacingSystem.exists_of_run (fun st => st.presents.length = 2)
    (newDrawable window buffers 2) twoSwaps (by decide)
  exact ⟨st, hrun, paced_iff window buffers 2 twoSwaps st hrun⟩

/-- After 4294967295 completed swaps, the second of two further swaps does not wait
for the first. -/
theorem not_paced : ¬ ∀ st : State Nat, pacingSystem.Reachable st → Paced st := by
  intro hall
  obtain ⟨st, hst, hquiet⟩ := exists_quiet window rfl buffers 2 0 4294967295
  have hfirst := reachable_present hst hquiet 0
  have hsend : (present st 0 ⟨some 0, 1, 0⟩).drawable.sendSbc = 0x100000000#64 := by
    show st.drawable.sendSbc + 1 = _
    rw [hquiet.sent]
    decide
  have hsecond : pacingSystem.Reachable
      (present (present st 0 ⟨some 0, 1, 0⟩) 1 ⟨some 1, 1, 0⟩) := by
    refine .step (l := .swapBuffers ⟨some 1, 1, 0⟩) hfirst trivial ?_
    have hlow : low (present st 0 ⟨some 0, 1, 0⟩).drawable.sendSbc = 0 := by
      rw [hsend]
      decide
    have hwaiting : (present st 0 ⟨some 0, 1, 0⟩).waiting = none := rfl
    have hwindow : (present st 0 ⟨some 0, 1, 0⟩).drawable.isPixmap = false := hquiet.window
    simp only [pacingSystem, step, hwaiting, hwindow, hlow, if_true, Bool.false_eq_true, if_false]
  have hpaced : (present st 0 ⟨some 0, 1, 0⟩).drawable.sendSbc + 1 - st.drawable.recvSbc = 1 :=
    hall _ hsecond _ List.mem_cons_self
  rw [hsend, hquiet.received] at hpaced
  exact absurd hpaced (by decide)

/-- The serial that was sent for a swap gives back its number, as long as fewer
than 2^32 swaps were sent after it; the subtraction does not borrow. -/
theorem recvSbc_completePixmap {Buffer : Type u} [DecidableEq Buffer] (st : State Buffer)
    (s : BitVec 64) (serial : BitVec 32) (mode : CompleteMode) (ust msc : BitVec 64)
    (hsent : s ≤ st.drawable.sendSbc)
    (hnear : st.drawable.sendSbc.toNat - s.toNat < 2 ^ 32)
    (hserial : serial.toNat = s.toNat % 2 ^ 32) :
    (handlePresentEvent st (.completePixmap serial mode ust msc)).drawable.recvSbc = s ∧
      (st.drawable.sendSbc <
          st.drawable.sendSbc &&& 0xffffffff00000000#64 ||| serial.setWidth 64 →
        0x100000000#64 ≤
          st.drawable.sendSbc &&& 0xffffffff00000000#64 ||| serial.setWidth 64) ∧
      ∀ (before : State Buffer) (back : Buffer) (request : SwapRequest Buffer),
        before.drawable.sendSbc + 1 = s →
          (present before back request).presents.head?.map Present.serial = some serial := by
  have hlow : serial = low s := by
    apply BitVec.eq_of_toNat_eq
    rw [hserial, low_toNat]
  subst hlow
  obtain ⟨hmerge, hborrow⟩ := mergeSerial_near hsent hnear
  refine ⟨hmerge, hborrow, fun before back request hsbc => ?_⟩
  rw [← hsbc]
  rfl

/-- The completion of swap 2^32 - 1 arrives after swap 2^32 was sent. -/
theorem recvSbc_completePixmap_wrap :
    (handlePresentEvent (newDrawable window buffers 2 |> fun st =>
        { st with drawable := { st.drawable with sendSbc := 0x100000000#64 } })
      (.completePixmap 0xffffffff#32 .copy 0 0)).drawable.recvSbc = 0xffffffff#64 :=
  (recvSbc_completePixmap _ 0xffffffff#64 0xffffffff#32 .copy 0 0
    (by decide) (by decide) (by decide)).1

end LibtplEgl.SwapPacing
