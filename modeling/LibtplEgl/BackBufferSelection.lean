import LibtplEgl.LabelledSystem
import LibtplEgl.SwapPacing
import Mathlib.Logic.Function.Basic

namespace LibtplEgl.BackBufferSelection

open LibtplEgl.LabelledSystem
open LibtplEgl.SwapPacing (Dri3BufferStatus PresentEvent)

/-- What the selection uses of a `dri3_buffer`, which its pixmap identifies. -/
structure Dri3Buffer where
  pixmap : BitVec 32
  status : Dri3BufferStatus
  width : Int
  height : Int
  deriving DecidableEq, Repr

/-- `dri3_max_back`, from the number that `MALI_EGL_DRI3_BUF_NUM` holds if it is
set and not empty. -/
def dri3MaxBack : Option Int → Int
  | none => 3
  | some count => if count = 1 then 2 else if count < 20 then count else 5

/-- Where a call of `dri3_find_back` is. After it has failed, `dri3_get_window_buffer`
goes on with `priv->buffers[-1]`: what it does then is `undefined`. -/
inductive FindBackPc
  | outside
  | scan
  | wait
  | undefined
  deriving DecidableEq, Repr

/-- A slot that `dri3_find_back` returned: what it held, and the pixmaps that were
handed to the client, and with the server, at that time. -/
structure Pick where
  buffer : Option Dri3Buffer
  held : List (BitVec 32)
  outstanding : List (BitVec 32)
  deriving DecidableEq, Repr

/-- What the selection uses of a `dri3_drawable`. `held` are the buffers that were
handed to the client and not swapped, `outstanding` those that were swapped and not
reported idle; `indices` are those used on `priv->buffers`. -/
structure State where
  maxBack : Int
  width : Int
  height : Int
  buffers : Int → Option Dri3Buffer
  curBack : Int
  pc : FindBackPc
  held : List (BitVec 32)
  outstanding : List (BitVec 32)
  indices : List Int
  picks : List Pick

def State.access (st : State) (index : Int) : State :=
  { st with indices := index :: st.indices }

/-- `id` in round `b` of the scan. -/
def State.backId (st : State) (b : Nat) : Int :=
  (b + st.curBack + 1).tmod st.maxBack

def State.preId (st : State) (id : Int) : Int :=
  (id + st.maxBack - 2).tmod st.maxBack

def unused : Option Dri3Buffer → Bool
  | none => true
  | some buffer => buffer.status == .idle

/-- `if (pre_buffer && pre_buffer->status != dri3_buffer_posted)
pre_buffer->status = dri3_buffer_idle`. -/
def State.freePre (st : State) (preId : Int) : State :=
  match st.buffers preId with
  | some preBuffer =>
      if preBuffer.status ≠ .posted then
        { st with
          buffers := Function.update st.buffers preId (some { preBuffer with status := .idle }) }
      else st
  | none => st

/-- The `for` loop of `dri3_find_back` from round `b` on. -/
def scanBuffers : Nat → Nat → State → Option Int × State
  | 0, _, st => (none, st)
  | left + 1, b, st =>
      let id := st.backId b
      let preId := st.preId id
      let st := ((st.access id).access preId).freePre preId
      if unused (st.buffers id) then (some id, { st with curBack := id })
      else scanBuffers left (b + 1) st

def State.hand (st : State) (id : Int) (buffer : Dri3Buffer) : State :=
  { st with
    buffers := Function.update st.buffers id (some { buffer with status := .busy })
    held := buffer.pixmap :: st.held }

/-- `xcb_generate_id` returns no pixmap that is in use. -/
def State.fresh (st : State) (pixmap : BitVec 32) : Bool :=
  decide (pixmap ∉ st.held) && decide (pixmap ∉ st.outstanding) &&
    (List.range 20).all fun i : Nat => (st.buffers i).all fun buffer => buffer.pixmap != pixmap

/-- `dri3_find_back` has returned `id`, and `dri3_get_window_buffer` reads the slot. -/
def State.pick (st : State) (id : Int) : State :=
  { st.access id with
    pc := .outside
    picks := ⟨st.buffers id, st.held, st.outstanding⟩ :: st.picks }

/-- `dri3_alloc_render_buffer` and the use of what it returns: `alloc` is the pixmap
of the new buffer if the allocation succeeds. -/
def allocRenderBuffer (st : State) (backBufId : Int) (alloc : Option (BitVec 32)) :
    Option State :=
  match alloc with
  | none => some st
  | some pixmap =>
      if st.fresh pixmap then some (st.hand backBufId ⟨pixmap, .idle, st.width, st.height⟩)
      else none

/-- `dri3_get_window_buffer` from the return of `dri3_find_back` on. -/
def getWindowBuffer (st : State) (backBufId : Int) (alloc : Option (BitVec 32)) : Option State :=
  let st := st.pick backBufId
  match st.buffers backBufId with
  | none => allocRenderBuffer st backBufId alloc
  | some buffer =>
      if buffer.width ≠ st.width ∨ buffer.height ≠ st.height then
        allocRenderBuffer st backBufId alloc
      else some (st.hand backBufId buffer)

/-- The loop of `XCB_PRESENT_EVENT_IDLE_NOTIFY`. -/
def State.idleBuffers (st : State) (pixmap : BitVec 32) : Int → Option Dri3Buffer :=
  match (List.range 20).find? fun b : Nat =>
      (st.buffers b).any fun buffer => buffer.pixmap == pixmap with
  | some b =>
      Function.update st.buffers b
        ((st.buffers b).map fun buffer => { buffer with status := .idle })
  | none => st.buffers

/-- What `dri3_handle_present_event` does to the geometry and to the buffers. -/
def handlePresentEvent (st : State) : PresentEvent → State
  | .configureNotify width height => { st with width := width, height := height }
  | .completePixmap _ _ _ _ | .completeMsc _ _ _ => st
  | .idleNotify pixmap => { st with buffers := st.idleBuffers pixmap }

/-- An event of the server. It reports no pixmap idle that it was not given, and a
pixmap that was presented once is reported once. -/
def deliver (st : State) (event : PresentEvent) : Option State :=
  match event with
  | .idleNotify pixmap =>
      if pixmap ∈ st.held ∧ pixmap ∉ st.outstanding then none
      else some { handlePresentEvent st event with outstanding := st.outstanding.erase pixmap }
  | .configureNotify _ _ | .completePixmap _ _ _ _ | .completeMsc _ _ _ =>
      some (handlePresentEvent st event)

/-- `dri3_swap_buffers`: `notified` tells whether `dri3_wait_for_notify` succeeds. -/
def swapBuffers (st : State) (pixmap : BitVec 32) (notified : Bool) : State :=
  if notified then
    { st with
      buffers := fun i => (st.buffers i).map fun buffer =>
        if buffer.pixmap = pixmap then { buffer with status := .posted } else buffer
      held := st.held.erase pixmap
      outstanding := pixmap :: st.outstanding }
  else st

/-- The steps of `dri3_find_back`, and what goes on between them. `handleEvent` is
a round of `dri3_flush_present_events` or of `dri3_wait_for_notify`. -/
inductive Label
  | getWindowBuffer
  | scan (alloc : Option (BitVec 32))
  | waitForEvent (event : PresentEvent)
  | waitFailed
  | handleEvent (event : PresentEvent)
  | swapBuffers (pixmap : BitVec 32) (notified : Bool)
  deriving DecidableEq, Repr

def step (st : State) : Label → Option State
  | .getWindowBuffer =>
      match st.pc with
      | .outside => some { st with pc := .scan }
      | .scan | .wait | .undefined => none
  | .scan alloc =>
      match st.pc with
      | .scan =>
          match scanBuffers st.maxBack.toNat 0 st with
          | (some id, st) => getWindowBuffer st id alloc
          | (none, st) => some { st with pc := .wait }
      | .outside | .wait | .undefined => none
  | .waitForEvent event =>
      match st.pc with
      | .wait => (deliver st event).map fun st => { st with pc := .scan }
      | .outside | .scan | .undefined => none
  | .waitFailed =>
      match st.pc with
      | .wait => some { st.access (-1) with pc := .undefined }
      | .outside | .scan | .undefined => none
  | .handleEvent event =>
      match st.pc with
      | .outside | .scan | .wait => deliver st event
      | .undefined => none
  | .swapBuffers pixmap notified =>
      match st.pc with
      | .outside | .scan | .wait =>
          -- A frame posts its buffer once.
          if pixmap ∈ st.held then some (swapBuffers st pixmap notified) else none
      | .undefined => none

/-- A drawable as `dri3_create_drawable` leaves it. -/
def newDrawable (backendEnv : Option Int) (width height : Int) : State where
  maxBack := dri3MaxBack backendEnv
  width := width
  height := height
  buffers := fun _ => none
  curBack := 0
  pc := .outside
  held := []
  outstanding := []
  indices := []
  picks := []

def backBufferSystem : System State Label where
  Initial st := ∃ backendEnv width height, st = newDrawable backendEnv width height
  step := step

/-- The slots are indexed in bounds, and none was returned whose buffer the client
or the server still had. -/
structure SelectionSafe (st : State) : Prop where
  indices : ∀ i ∈ st.indices, 0 ≤ i ∧ i < st.maxBack
  picks : ∀ p ∈ st.picks, ∀ buffer ∈ p.buffer,
    buffer.pixmap ∉ p.held ∧ buffer.pixmap ∉ p.outstanding

/-- No round that the scan gets to finds a busy buffer two slots back. -/
def SparesBusy (st : State) : Prop :=
  ∀ b < st.maxBack.toNat, (∀ c < b, unused (st.buffers (st.backId c)) = false) →
    ∀ buffer ∈ st.buffers (st.preId (st.backId b)), buffer.status ≠ .busy

/-- A scan spares the busy buffers, and the wait for an event does not fail. -/
def Orderly (st : State) : Label → Prop
  | .scan _ => SparesBusy st
  | .waitFailed => False
  | .getWindowBuffer | .waitForEvent _ | .handleEvent _ | .swapBuffers _ _ => True

instance (st : State) : Decidable (SparesBusy st) :=
  inferInstanceAs (Decidable (∀ b < st.maxBack.toNat, _ → ∀ buffer ∈ _, _))

instance (st : State) : ∀ l, Decidable (Orderly st l)
  | .scan _ => inferInstanceAs (Decidable (SparesBusy st))
  | .waitFailed => inferInstanceAs (Decidable False)
  | .getWindowBuffer | .waitForEvent _ | .handleEvent _ | .swapBuffers _ _ =>
      inferInstanceAs (Decidable True)

def State.pixmapAt (st : State) (i : Int) : Option (BitVec 32) :=
  (st.buffers i).map Dri3Buffer.pixmap

/-- Only the slots that are scanned hold buffers, and no two the same. -/
structure Placed (maxBack : Int) (pixmapAt : Int → Option (BitVec 32)) : Prop where
  inBounds : ∀ i pixmap, pixmapAt i = some pixmap → 0 ≤ i ∧ i < maxBack
  distinct : ∀ i j pixmap, pixmapAt i = some pixmap → pixmapAt j = some pixmap → i = j

/-- An idle buffer is with nobody, a busy one with the client. -/
structure Inv (st : State) : Prop where
  maxBack : st.maxBack ≤ 0 ∨ 2 ≤ st.maxBack ∧ st.maxBack < 20
  curBack : 0 ≤ st.curBack
  placed : Placed st.maxBack st.pixmapAt
  idle : ∀ i, ∀ buffer ∈ st.buffers i, buffer.status = .idle →
    buffer.pixmap ∉ st.held ∧ buffer.pixmap ∉ st.outstanding
  busy : ∀ i, ∀ buffer ∈ st.buffers i, buffer.status = .busy → buffer.pixmap ∈ st.held
  held : st.held.Nodup
  outstanding : st.outstanding.Nodup
  apart : ∀ pixmap ∈ st.held, pixmap ∉ st.outstanding
  safe : SelectionSafe st

theorem dri3MaxBack_bounds (backendEnv : Option Int) :
    dri3MaxBack backendEnv ≤ 0 ∨ 2 ≤ dri3MaxBack backendEnv ∧ dri3MaxBack backendEnv < 20 := by
  cases backendEnv with
  | none => exact .inr (by decide)
  | some count =>
      rw [dri3MaxBack]
      split
      · exact .inr (by decide)
      · split
        · omega
        · exact .inr (by decide)

theorem inv_newDrawable (backendEnv : Option Int) (width height : Int) :
    Inv (newDrawable backendEnv width height) :=
  ⟨dri3MaxBack_bounds backendEnv, Int.le_refl 0, ⟨nofun, nofun⟩, nofun, nofun, .nil, .nil,
    nofun, ⟨nofun, nofun⟩⟩

theorem Placed.update {maxBack : Int} {pixmapAt : Int → Option (BitVec 32)}
    (h : Placed maxBack pixmapAt) {id : Int} (hid : 0 ≤ id ∧ id < maxBack) {pixmap : BitVec 32}
    (hother : ∀ j, j ≠ id → pixmapAt j ≠ some pixmap) :
    Placed maxBack (Function.update pixmapAt id (some pixmap)) := by
  constructor
  · intro i other hi
    rcases eq_or_ne i id with rfl | hne
    · exact hid
    · rw [Function.update_of_ne hne] at hi
      exact h.inBounds i other hi
  · intro i j other hi hj
    rcases eq_or_ne i id with rfl | hi'
    · rcases eq_or_ne j i with rfl | hj'
      · rfl
      · rw [Function.update_self] at hi
        rw [Function.update_of_ne hj', ← hi] at hj
        exact absurd hj (hother j hj')
    · rw [Function.update_of_ne hi'] at hi
      rcases eq_or_ne j id with rfl | hj'
      · rw [Function.update_self] at hj
        rw [← hj] at hi
        exact absurd hi (hother i hi')
      · rw [Function.update_of_ne hj'] at hj
        exact h.distinct i j other hi hj

theorem freePre_eq (st : State) {preId : Int}
    (hspared : ∀ buffer ∈ st.buffers preId, buffer.status ≠ .busy) : st.freePre preId = st := by
  unfold State.freePre
  cases hslot : st.buffers preId with
  | none => rfl
  | some preBuffer =>
      dsimp only
      split
      · rename_i hposted
        have hidle : preBuffer.status = .idle := by
          have hbusy := hspared preBuffer hslot
          cases hstatus : preBuffer.status with
          | idle => rfl
          | busy => exact absurd hstatus hbusy
          | posted => exact absurd hstatus hposted
        have hsame : (some { preBuffer with status := .idle } : Option Dri3Buffer) =
            st.buffers preId := by
          rw [hslot, ← hidle]
        rw [hsame, Function.update_eq_self]
      · rfl

theorem backId_bounds {st : State} (hcurBack : 0 ≤ st.curBack) (hmaxBack : 0 < st.maxBack)
    (b : Nat) : 0 ≤ st.backId b ∧ st.backId b < st.maxBack :=
  ⟨Int.tmod_nonneg _ (by omega), Int.tmod_lt_of_pos _ hmaxBack⟩

theorem preId_bounds {st : State} (hmaxBack : 2 ≤ st.maxBack) {id : Int} (hid : 0 ≤ id) :
    0 ≤ st.preId id ∧ st.preId id < st.maxBack :=
  ⟨Int.tmod_nonneg _ (by omega), Int.tmod_lt_of_pos _ (by omega)⟩

/-- What a scan that spares the busy buffers does: no buffer changes. -/
inductive Scanned (st : State) : Option Int × State → Prop
  | nothing (indices : List Int) : (∀ i ∈ indices, 0 ≤ i ∧ i < st.maxBack) →
      Scanned st (none, { st with indices := indices })
  | found (id : Int) (indices : List Int) : (∀ i ∈ indices, 0 ≤ i ∧ i < st.maxBack) →
      0 ≤ id ∧ id < st.maxBack → unused (st.buffers id) = true →
        Scanned st (some id, { st with curBack := id, indices := indices })

theorem scanned_from {st : State} (h : Inv st) (hspares : SparesBusy st) (left b : Nat)
    (indices : List Int) (hleft : b + left = st.maxBack.toNat)
    (hindices : ∀ i ∈ indices, 0 ≤ i ∧ i < st.maxBack)
    (hused : ∀ c < b, unused (st.buffers (st.backId c)) = false) :
    Scanned st (scanBuffers left b { st with indices := indices }) := by
  induction left generalizing b indices with
  | zero => exact .nothing indices hindices
  | succ left ih =>
      have hmaxBack : 2 ≤ st.maxBack := by
        have hbounds := h.maxBack
        omega
      have hback := backId_bounds h.curBack (by omega) b
      have hpre := preId_bounds hmaxBack hback.1
      have hindices' : ∀ i ∈ st.preId (st.backId b) :: st.backId b :: indices,
          0 ≤ i ∧ i < st.maxBack := by
        intro i hi
        rcases List.mem_cons.mp hi with rfl | hi
        · exact hpre
        · rcases List.mem_cons.mp hi with rfl | hi
          · exact hback
          · exact hindices i hi
      have hspared : State.freePre
          { st with indices := st.preId (st.backId b) :: st.backId b :: indices }
          (st.preId (st.backId b)) =
          { st with indices := st.preId (st.backId b) :: st.backId b :: indices } :=
        freePre_eq _ (hspares b (by omega) hused)
      rw [scanBuffers]
      show Scanned st (
        let st' := State.freePre
          { st with indices := st.preId (st.backId b) :: st.backId b :: indices }
          (st.preId (st.backId b))
        if unused (st'.buffers (st.backId b)) then (some (st.backId b), { st' with
          curBack := st.backId b })
        else scanBuffers left (b + 1) st')
      rw [hspared]
      show Scanned st (if unused (st.buffers (st.backId b)) then _ else _)
      split
      · rename_i hunused
        exact .found (st.backId b) _ hindices' hback hunused
      · rename_i hnot
        refine ih (b + 1) _ (by omega) hindices' fun c hc => ?_
        rcases Nat.lt_succ_iff_lt_or_eq.mp hc with hlt | rfl
        · exact hused c hlt
        · exact Bool.eq_false_iff.mpr hnot

theorem inv_setPc {st : State} (h : Inv st) (pc : FindBackPc) : Inv { st with pc := pc } :=
  ⟨h.maxBack, h.curBack, h.placed, h.idle, h.busy, h.held, h.outstanding, h.apart, h.safe.indices,
    h.safe.picks⟩

theorem Inv.unused {st : State} (h : Inv st) {id : Int} (hunused : unused (st.buffers id) = true) :
    ∀ buffer ∈ st.buffers id, buffer.pixmap ∉ st.held ∧ buffer.pixmap ∉ st.outstanding := by
  intro buffer hslot
  have hidle : buffer.status = .idle := by
    rw [Option.mem_def.mp hslot] at hunused
    exact eq_of_beq hunused
  exact h.idle id buffer hslot hidle

theorem inv_pick {st : State} (h : Inv st) {id : Int} (hid : 0 ≤ id ∧ id < st.maxBack)
    (hunused : unused (st.buffers id) = true) : Inv (st.pick id) := by
  refine ⟨h.maxBack, h.curBack, h.placed, h.idle, h.busy, h.held, h.outstanding, h.apart, ?_, ?_⟩
  · intro i hi
    rcases List.mem_cons.mp hi with rfl | hi
    · exact hid
    · exact h.safe.indices i hi
  · intro p hp
    rcases List.mem_cons.mp hp with rfl | hp
    · exact h.unused hunused
    · exact h.safe.picks p hp

theorem pixmapAt_hand (st : State) (id : Int) (buffer : Dri3Buffer) :
    (st.hand id buffer).pixmapAt = Function.update st.pixmapAt id (some buffer.pixmap) := by
  funext i
  unfold State.pixmapAt State.hand
  dsimp only
  rcases eq_or_ne i id with rfl | hi
  · rw [Function.update_self, Function.update_self]
    rfl
  · rw [Function.update_of_ne hi, Function.update_of_ne hi]

theorem inv_hand {st : State} (h : Inv st) {id : Int} (hid : 0 ≤ id ∧ id < st.maxBack)
    {buffer : Dri3Buffer} (hother : ∀ j, j ≠ id → st.pixmapAt j ≠ some buffer.pixmap)
    (hheld : buffer.pixmap ∉ st.held) (houtstanding : buffer.pixmap ∉ st.outstanding) :
    Inv (st.hand id buffer) := by
  refine ⟨h.maxBack, h.curBack, ?_, ?_, ?_, List.nodup_cons.mpr ⟨hheld, h.held⟩,
    h.outstanding, ?_, h.safe.indices, h.safe.picks⟩
  · rw [pixmapAt_hand]
    exact h.placed.update hid hother
  · intro i slot hslot hidle
    have hmem : slot ∈ Function.update st.buffers id (some { buffer with status := .busy }) i :=
      hslot
    rcases eq_or_ne i id with rfl | hi
    · rw [Function.update_self] at hmem
      obtain rfl := Option.some.inj hmem
      cases hidle
    · rw [Function.update_of_ne hi] at hmem
      obtain ⟨hfree, hback⟩ := h.idle i slot hmem hidle
      refine ⟨fun hin => ?_, hback⟩
      rcases List.mem_cons.mp hin with hsame | hin
      · apply hother i hi
        rw [State.pixmapAt, Option.mem_def.mp hmem, ← hsame]
        rfl
      · exact hfree hin
  · intro i slot hslot hbusy
    have hmem : slot ∈ Function.update st.buffers id (some { buffer with status := .busy }) i :=
      hslot
    rcases eq_or_ne i id with rfl | hi
    · rw [Function.update_self] at hmem
      obtain rfl := Option.some.inj hmem
      exact List.mem_cons_self
    · rw [Function.update_of_ne hi] at hmem
      exact List.mem_cons_of_mem _ (h.busy i slot hmem hbusy)
  · intro pixmap hin
    rcases List.mem_cons.mp hin with rfl | hin
    · exact houtstanding
    · exact h.apart pixmap hin

theorem Inv.fresh {st : State} (h : Inv st) {pixmap : BitVec 32} (hfresh : st.fresh pixmap = true) :
    pixmap ∉ st.held ∧ pixmap ∉ st.outstanding ∧ ∀ j, st.pixmapAt j ≠ some pixmap := by
  unfold State.fresh at hfresh
  rw [Bool.and_eq_true, Bool.and_eq_true, decide_eq_true_eq, decide_eq_true_eq,
    List.all_eq_true] at hfresh
  obtain ⟨⟨hheld, houtstanding⟩, hslots⟩ := hfresh
  refine ⟨hheld, houtstanding, fun j hj => ?_⟩
  obtain ⟨hnonneg, hlt⟩ := h.placed.inBounds j pixmap hj
  have hbounds := h.maxBack
  have hslot := hslots j.toNat (List.mem_range.mpr (by omega))
  rw [Int.toNat_of_nonneg hnonneg] at hslot
  unfold State.pixmapAt at hj
  obtain ⟨buffer, hbuffer, rfl⟩ := Option.map_eq_some_iff.mp hj
  rw [hbuffer] at hslot
  exact bne_iff_ne.mp hslot rfl

theorem inv_allocRenderBuffer {st st' : State} (h : Inv st) {id : Int}
    (hid : 0 ≤ id ∧ id < st.maxBack) {alloc : Option (BitVec 32)}
    (halloc : allocRenderBuffer st id alloc = some st') : Inv st' := by
  unfold allocRenderBuffer at halloc
  cases alloc with
  | none =>
      obtain rfl := Option.some.inj halloc
      exact h
  | some pixmap =>
      dsimp only at halloc
      split at halloc
      · rename_i hfresh
        obtain rfl := Option.some.inj halloc
        obtain ⟨hheld, houtstanding, hslots⟩ := h.fresh hfresh
        exact inv_hand h hid (fun j _ => hslots j) hheld houtstanding
      · cases halloc

theorem inv_getWindowBuffer {st st' : State} (h : Inv st) {id : Int}
    (hid : 0 ≤ id ∧ id < st.maxBack) (hunused : unused (st.buffers id) = true)
    {alloc : Option (BitVec 32)} (hget : getWindowBuffer st id alloc = some st') : Inv st' := by
  have hpick := inv_pick h hid hunused
  unfold getWindowBuffer at hget
  dsimp only at hget
  split at hget
  · exact inv_allocRenderBuffer hpick hid hget
  · rename_i buffer hslot
    split at hget
    · exact inv_allocRenderBuffer hpick hid hget
    · obtain rfl := Option.some.inj hget
      obtain ⟨hheld, houtstanding⟩ := hpick.unused hunused buffer hslot
      refine inv_hand hpick hid (fun j hj hsame => hj ?_) hheld houtstanding
      refine hpick.placed.distinct j id buffer.pixmap hsame ?_
      rw [State.pixmapAt, hslot]
      rfl

theorem idleBuffers_cases (st : State) (pixmap : BitVec 32) (i : Int) :
    st.idleBuffers pixmap i = st.buffers i ∨
      ∃ buffer, st.buffers i = some buffer ∧ buffer.pixmap = pixmap ∧
        st.idleBuffers pixmap i = some { buffer with status := .idle } := by
  unfold State.idleBuffers
  generalize hfound : ((List.range 20).find? fun b : Nat =>
    (st.buffers b).any fun buffer => buffer.pixmap == pixmap) = found
  cases found with
  | none => exact .inl rfl
  | some b =>
      dsimp only
      rcases eq_or_ne i b with rfl | hi
      · have hpixmap := List.find?_some hfound
        rw [Function.update_self]
        cases hslot : st.buffers b with
        | none => exact .inl rfl
        | some buffer =>
            rw [hslot] at hpixmap
            exact .inr ⟨buffer, rfl, eq_of_beq hpixmap, rfl⟩
      · rw [Function.update_of_ne hi]
        exact .inl rfl

theorem pixmapAt_idleBuffers (st : State) (pixmap : BitVec 32) :
    ({ st with buffers := st.idleBuffers pixmap } : State).pixmapAt = st.pixmapAt := by
  funext i
  unfold State.pixmapAt
  dsimp only
  rcases idleBuffers_cases st pixmap i with hsame | ⟨_, hslot, _, hidle⟩
  · rw [hsame]
  · rw [hslot, hidle]
    rfl

theorem inv_idleNotify {st : State} (h : Inv st) {pixmap : BitVec 32} (hheld : pixmap ∉ st.held) :
    Inv { st with
      buffers := st.idleBuffers pixmap
      outstanding := st.outstanding.erase pixmap } := by
  have hplaced := h.placed
  rw [← pixmapAt_idleBuffers st pixmap] at hplaced
  refine ⟨h.maxBack, h.curBack, hplaced, ?_, ?_, h.held, h.outstanding.erase pixmap, ?_,
    h.safe.indices, h.safe.picks⟩
  · intro i slot hslot hidle
    have hmem : slot ∈ st.idleBuffers pixmap i := hslot
    rcases idleBuffers_cases st pixmap i with hsame | ⟨buffer, _, rfl, hfreed⟩
    · rw [hsame] at hmem
      obtain ⟨hfree, hback⟩ := h.idle i slot hmem hidle
      exact ⟨hfree, fun hin => hback (List.mem_of_mem_erase hin)⟩
    · rw [hfreed] at hmem
      obtain rfl := Option.some.inj hmem
      exact ⟨hheld, h.outstanding.not_mem_erase⟩
  · intro i slot hslot hbusy
    have hmem : slot ∈ st.idleBuffers pixmap i := hslot
    rcases idleBuffers_cases st pixmap i with hsame | ⟨_, _, _, hfreed⟩
    · rw [hsame] at hmem
      exact h.busy i slot hmem hbusy
    · rw [hfreed] at hmem
      obtain rfl := Option.some.inj hmem
      cases hbusy
  · intro other hin hout
    exact h.apart other hin (List.mem_of_mem_erase hout)

theorem inv_deliver {st st' : State} (h : Inv st) {event : PresentEvent}
    (hdeliver : deliver st event = some st') : Inv st' := by
  cases event with
  | configureNotify width height =>
      obtain rfl := Option.some.inj hdeliver
      exact ⟨h.maxBack, h.curBack, h.placed, h.idle, h.busy, h.held, h.outstanding, h.apart,
        h.safe.indices, h.safe.picks⟩
  | completePixmap _ _ _ _ | completeMsc _ _ _ =>
      obtain rfl := Option.some.inj hdeliver
      exact h
  | idleNotify pixmap =>
      unfold deliver at hdeliver
      dsimp only at hdeliver
      split at hdeliver
      · cases hdeliver
      · rename_i hnot
        obtain rfl := Option.some.inj hdeliver
        refine inv_idleNotify h fun hheld => hnot ⟨hheld, h.apart pixmap hheld⟩

theorem pixmapAt_swapBuffers (st : State) (pixmap : BitVec 32) (notified : Bool) :
    (swapBuffers st pixmap notified).pixmapAt = st.pixmapAt := by
  cases notified with
  | false => rfl
  | true =>
      funext i
      show ((st.buffers i).map fun buffer : Dri3Buffer =>
        if buffer.pixmap = pixmap then { buffer with status := .posted } else buffer).map
          Dri3Buffer.pixmap = (st.buffers i).map Dri3Buffer.pixmap
      cases st.buffers i with
      | none => rfl
      | some buffer =>
          show some (Dri3Buffer.pixmap (if _ then _ else _)) = _
          split
          · rfl
          · rfl

theorem inv_swapBuffers {st : State} (h : Inv st) {pixmap : BitVec 32} (hheld : pixmap ∈ st.held)
    (notified : Bool) : Inv (swapBuffers st pixmap notified) := by
  have hplaced := h.placed
  rw [← pixmapAt_swapBuffers st pixmap notified] at hplaced
  cases notified with
  | false => exact h
  | true =>
      refine ⟨h.maxBack, h.curBack, hplaced, ?_, ?_, h.held.erase pixmap,
        List.nodup_cons.mpr ⟨h.apart pixmap hheld, h.outstanding⟩, ?_, h.safe.indices,
        h.safe.picks⟩
      · intro i slot hslot hidle
        obtain ⟨buffer, hbuffer, rfl⟩ := Option.map_eq_some_iff.mp hslot
        split at hidle
        · cases hidle
        · rename_i hother
          rw [if_neg hother]
          obtain ⟨hfree, hback⟩ := h.idle i buffer hbuffer hidle
          refine ⟨fun hin => hfree (List.mem_of_mem_erase hin), fun hin => ?_⟩
          rcases List.mem_cons.mp hin with hsame | hin
          · exact hother hsame
          · exact hback hin
      · intro i slot hslot hbusy
        obtain ⟨buffer, hbuffer, rfl⟩ := Option.map_eq_some_iff.mp hslot
        split at hbusy
        · cases hbusy
        · rename_i hother
          rw [if_neg hother]
          exact (List.mem_erase_of_ne hother).mpr (h.busy i buffer hbuffer hbusy)
      · intro other hin hout
        rcases List.mem_cons.mp hout with rfl | hout
        · exact h.held.not_mem_erase hin
        · exact h.apart other (List.mem_of_mem_erase hin) hout

theorem inv_scan {st st' : State} (h : Inv st) (hspares : SparesBusy st)
    {alloc : Option (BitVec 32)}
    (hscan : (match scanBuffers st.maxBack.toNat 0 st with
      | (some id, st) => getWindowBuffer st id alloc
      | (none, st) => some { st with pc := .wait }) = some st') : Inv st' := by
  have hscanned : Scanned st (scanBuffers st.maxBack.toNat 0 st) :=
    scanned_from h hspares st.maxBack.toNat 0 st.indices (Nat.zero_add _) h.safe.indices nofun
  generalize scanBuffers st.maxBack.toNat 0 st = result at hscan hscanned
  cases hscanned with
  | nothing indices hindices =>
      obtain rfl := Option.some.inj hscan
      exact ⟨h.maxBack, h.curBack, h.placed, h.idle, h.busy, h.held, h.outstanding, h.apart,
        hindices, h.safe.picks⟩
  | found id indices hindices hid hunused =>
      have hfound : Inv { st with curBack := id, indices := indices } :=
        ⟨h.maxBack, hid.1, h.placed, h.idle, h.busy, h.held, h.outstanding, h.apart, hindices,
          h.safe.picks⟩
      exact inv_getWindowBuffer hfound hid hunused hscan

theorem inv_step {st st' : State} {l : Label} (h : Inv st) (horderly : Orderly st l)
    (hstep : step st l = some st') : Inv st' := by
  cases l with
  | getWindowBuffer =>
      simp only [step] at hstep
      split at hstep
      · obtain rfl := Option.some.inj hstep
        exact inv_setPc h .scan
      · cases hstep
      · cases hstep
      · cases hstep
  | scan alloc =>
      simp only [step] at hstep
      split at hstep
      · exact inv_scan h horderly hstep
      · cases hstep
      · cases hstep
      · cases hstep
  | waitForEvent event =>
      simp only [step] at hstep
      split at hstep
      · obtain ⟨st₁, hdeliver, rfl⟩ := Option.map_eq_some_iff.mp hstep
        exact inv_setPc (inv_deliver h hdeliver) .scan
      · cases hstep
      · cases hstep
      · cases hstep
  | waitFailed => exact horderly.elim
  | handleEvent event =>
      simp only [step] at hstep
      split at hstep
      · exact inv_deliver h hstep
      · exact inv_deliver h hstep
      · exact inv_deliver h hstep
      · cases hstep
  | swapBuffers pixmap notified =>
      have hswap : ∀ st', (if pixmap ∈ st.held then some (swapBuffers st pixmap notified)
          else none) = some st' → Inv st' := by
        intro st' hst'
        split at hst'
        · rename_i hheld
          obtain rfl := Option.some.inj hst'
          exact inv_swapBuffers h hheld notified
        · cases hst'
      simp only [step] at hstep
      split at hstep
      · exact hswap st' hstep
      · exact hswap st' hstep
      · exact hswap st' hstep
      · cases hstep

theorem inv_reachable {st : State} (hst : backBufferSystem.ReachableWhen Orderly st) : Inv st := by
  refine hst.invariant ?_ ?_
  · rintro _ ⟨backendEnv, width, height, rfl⟩
    exact inv_newDrawable backendEnv width height
  · intro _ _ _ h horderly hstep
    exact inv_step h horderly hstep

/-- In every run of orderly steps the slots are indexed in bounds, and every slot
that is returned is empty or holds a buffer that nobody has. -/
theorem selectionSafe_reachable (st : State)
    (hst : backBufferSystem.ReachableWhen Orderly st) : SelectionSafe st :=
  (inv_reachable hst).safe

theorem freePre_of_idle (st : State) {i : Int} {buffer : Dri3Buffer}
    (hslot : st.buffers i = some buffer) (hidle : buffer.status = .idle) (preId : Int) :
    (st.freePre preId).buffers i = some buffer := by
  unfold State.freePre
  split
  · rename_i preBuffer hpre
    split
    · dsimp only
      rcases eq_or_ne i preId with rfl | hi
      · rw [hpre] at hslot
        obtain rfl := Option.some.inj hslot
        rw [Function.update_self, ← hidle]
      · rw [Function.update_of_ne hi]
        exact hslot
    · exact hslot
  · exact hslot

theorem freePre_of_busy (st : State) {preId : Int} {buffer : Dri3Buffer}
    (hslot : st.buffers preId = some buffer) (hbusy : buffer.status = .busy) :
    (st.freePre preId).buffers preId = some { buffer with status := .idle } := by
  unfold State.freePre
  rw [hslot]
  dsimp only
  rw [if_pos (by rw [hbusy]; decide)]
  exact Function.update_self _ _ _

theorem scanBuffers_of_idle {i : Int} {buffer : Dri3Buffer} (hidle : buffer.status = .idle)
    (left b : Nat) (st : State) (hslot : st.buffers i = some buffer) :
    (scanBuffers left b st).2.buffers i = some buffer := by
  induction left generalizing b st with
  | zero => exact hslot
  | succ left ih =>
      have hfreed := freePre_of_idle ((st.access (st.backId b)).access
        (st.preId (st.backId b))) hslot hidle (st.preId (st.backId b))
      rw [scanBuffers]
      split
      · exact hfreed
      · exact ih (b + 1) _ hfreed

theorem scanBuffers_of_busy (left b : Nat) (st : State) {first : Nat} (hle : b ≤ first)
    (hlt : first < b + left) (hused : ∀ c < first, unused (st.buffers (st.backId c)) = false)
    {busy : Dri3Buffer} (hbusy : st.buffers (st.preId (st.backId first)) = some busy)
    (hstatus : busy.status = .busy) :
    ∃ i buffer, st.buffers i = some buffer ∧ buffer.status = .busy ∧
      (scanBuffers left b st).2.buffers i = some { buffer with status := .idle } := by
  induction left generalizing b st with
  | zero => omega
  | succ left ih =>
      rw [scanBuffers]
      by_cases hspared : ∀ buffer ∈ st.buffers (st.preId (st.backId b)), buffer.status ≠ .busy
      · have hlater : b ≠ first := by
          rintro rfl
          exact hspared busy hbusy hstatus
        rw [freePre_eq ((st.access (st.backId b)).access (st.preId (st.backId b))) hspared]
        have hthis := hused b (by omega)
        rw [if_neg (by rw [Bool.not_eq_true]; exact hthis)]
        exact ih (b + 1) ((st.access (st.backId b)).access (st.preId (st.backId b))) (by omega)
          (by omega) hused hbusy
      · simp only [not_forall, ne_eq, not_not] at hspared
        obtain ⟨buffer, hslot, hheld⟩ := hspared
        have hfreed := freePre_of_busy ((st.access (st.backId b)).access
          (st.preId (st.backId b))) hslot hheld
        refine ⟨st.preId (st.backId b), buffer, hslot, hheld, ?_⟩
        split
        · exact hfreed
        · exact scanBuffers_of_idle rfl left (b + 1) _ hfreed

/-- A scan that is not orderly gives away a buffer that the client has not swapped. -/
theorem scan_frees_held {st : State} (hst : backBufferSystem.ReachableWhen Orderly st)
    (hnot : ¬ SparesBusy st) :
    ∃ i buffer, st.buffers i = some buffer ∧ buffer.pixmap ∈ st.held ∧
      (scanBuffers st.maxBack.toNat 0 st).2.buffers i = some { buffer with status := .idle } := by
  simp only [SparesBusy, not_forall, ne_eq, not_not] at hnot
  obtain ⟨first, hlt, hused, busy, hbusy, hstatus⟩ := hnot
  obtain ⟨i, buffer, hslot, hheld, hfreed⟩ := scanBuffers_of_busy st.maxBack.toNat 0 st
    (Nat.zero_le first) (by omega) hused hbusy hstatus
  exact ⟨i, buffer, hslot, (inv_reachable hst).busy i buffer hslot hheld, hfreed⟩

def threeSwaps : List Label :=
  [.getWindowBuffer, .scan (some 1), .swapBuffers 1 true,
    .getWindowBuffer, .scan (some 2), .swapBuffers 2 true,
    .getWindowBuffer, .scan (some 3), .swapBuffers 3 true,
    .getWindowBuffer, .scan none, .waitForEvent (.idleNotify 1), .scan none]

theorem selectionSafe_threeSwaps :
    ∃ st, backBufferSystem.Reachable st ∧ st.picks.length = 4 ∧ SelectionSafe st := by
  obtain ⟨st, hrun, hpicks⟩ := backBufferSystem.exists_of_runWhen Orderly
    (fun st => st.picks.length = 4) (newDrawable none 60 30) threeSwaps (by decide)
  exact ⟨st, .of_run (.initial ⟨none, 60, 30, rfl⟩) (System.run_of_runWhen hrun), hpicks,
    selectionSafe_reachable st (.of_runWhen (.initial ⟨none, 60, 30, rfl⟩) hrun)⟩

/-- The client asks for a fourth buffer before it swaps the first one. -/
def fourBuffers : List Label :=
  [.getWindowBuffer, .scan (some 1), .getWindowBuffer, .scan (some 2),
    .getWindowBuffer, .scan (some 3), .getWindowBuffer, .scan none]

/-- Every buffer is with the server when the connection is closed. -/
def closedConnection : List Label :=
  [.getWindowBuffer, .scan (some 1), .swapBuffers 1 true,
    .getWindowBuffer, .scan (some 2), .swapBuffers 2 true,
    .getWindowBuffer, .scan (some 3), .swapBuffers 3 true,
    .getWindowBuffer, .scan none, .waitFailed]

/-- The fourth buffer is the first one again, and a closed connection makes the
index -1. -/
theorem not_selectionSafe :
    (¬ ∀ st, backBufferSystem.Reachable st → ∀ p ∈ st.picks, ∀ buffer ∈ p.buffer,
      buffer.pixmap ∉ p.held ∧ buffer.pixmap ∉ p.outstanding) ∧
      ¬ ∀ st, backBufferSystem.Reachable st → ∀ i ∈ st.indices, 0 ≤ i ∧ i < st.maxBack := by
  have hnew : backBufferSystem.Reachable (newDrawable none 60 30) := .initial ⟨none, 60, 30, rfl⟩
  refine ⟨fun hall => ?_, fun hall => ?_⟩
  · obtain ⟨st, hrun, hpick⟩ := backBufferSystem.exists_of_run
      (fun st => ∃ p ∈ st.picks, ∃ buffer ∈ p.buffer, buffer.pixmap ∈ p.held)
      (newDrawable none 60 30) fourBuffers (by decide)
    obtain ⟨p, hp, buffer, hbuffer, hheld⟩ := hpick
    exact (hall st (.of_run hnew hrun) p hp buffer hbuffer).1 hheld
  · obtain ⟨st, hrun, hindex⟩ := backBufferSystem.exists_of_run (fun st => -1 ∈ st.indices)
      (newDrawable none 60 30) closedConnection (by decide)
    exact absurd (hall st (.of_run hnew hrun) (-1) hindex).1 (by decide)

end LibtplEgl.BackBufferSelection
