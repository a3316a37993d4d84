import LibtplEgl.BackBufferSelection
import LibtplEgl.SwapPacing
import Mathlib.Data.List.Nodup
import Mathlib.Data.List.Perm.Subperm

namespace LibtplEgl.Dri3BufferAge

open LibtplEgl.LabelledSystem
open LibtplEgl.SwapPacing (Dri3BufferStatus SwapRequest ageSlot low)
open LibtplEgl.BackBufferSelection (dri3MaxBack dri3MaxBack_bounds)

universe u v

/-- What a call for a buffer uses of a `dri3_buffer`, besides what swaps and events
use of it. `boName` is what `tbm_bo_export` returns for its `tbo`. -/
structure RenderBuffer where
  boName : BitVec 32
  width : Int
  height : Int
  flags : BitVec 32
  oldBoName : BitVec 32
  deriving DecidableEq, Repr

/-- A `tpl_buffer_t`; `data` is `backend.data`. -/
structure TplBuffer (Buffer : Type u) where
  key : BitVec 32
  age : BitVec 32
  width : Int
  height : Int
  data : Buffer
  deriving DecidableEq, Repr

/-- A call of `__tpl_x11_dri3_surface_get_buffer` that returned: the buffer that was
selected, what the caller got, whether it is in the cache afterwards, and the size of
the window and the frames that had been swapped, the last one first. -/
structure Report (Buffer : Type u) where
  selected : Buffer
  reused : Bool
  tplBuffer : Option (TplBuffer Buffer)
  resetBuffers : Bool
  stored : Bool
  windowSize : Int × Int
  frames : List Buffer
  deriving DecidableEq, Repr

/-- The window of a surface and the buffers of the surface. A `Buffer` stands for one
`dri3_buffer` record and not for its address, which `__tpl_x11_dri3_buffer_fini` frees with
the buffer; a call that goes on without a buffer leaves what happens then `undefined`. -/
structure State (Buffer : Type u) where
  window : SwapPacing.State Buffer
  render : Buffer → RenderBuffer
  allocated : List Buffer
  bufferCache : List (TplBuffer Buffer)
  frames : List Buffer
  reports : List (Report Buffer)
  undefined : Bool

/-- A buffer that `dri3_alloc_render_buffer` made. -/
structure Alloc (Buffer : Type u) where
  buffer : Buffer
  pixmap : BitVec 32
  boName : BitVec 32
  deriving DecidableEq, Repr

/-- What a call for a buffer gets from the rest of the system: the slot that
`dri3_find_back` returns, the buffer in case a new one is needed, whether
`__tpl_buffer_alloc` succeeds, whether there is room in memory for a list node, and
the size of the surface. -/
structure Call (Buffer : Type u) where
  backBufId : Nat
  alloc : Option (Alloc Buffer)
  tplAlloc : Bool
  pushed : Bool
  surfaceSize : Int × Int
  deriving DecidableEq, Repr

def dri2BufferFb : BitVec 32 := 0x02
def dri2BufferReused : BitVec 32 := 0x08
def dri2BufferAge : BitVec 32 := 0x70
def dri3NumBuffers : Nat := 20
def tplBufferCacheMaxEntries : Nat := 40

def dri2BufferIsReused (flags : BitVec 32) : Bool :=
  flags &&& dri2BufferReused != 0

def dri2BufferGetAge (flags : BitVec 32) : BitVec 32 :=
  (flags &&& dri2BufferAge) >>> 4

section

variable {Buffer : Type u}

/-- `__tpl_x11_surface_buffer_cache_find`. -/
def bufferCacheFind (bufferCache : List (TplBuffer Buffer)) (name : BitVec 32) :
    Option (TplBuffer Buffer) :=
  bufferCache.find? fun buffer => buffer.key == name

/-- `__tpl_x11_surface_buffer_cache_remove`. -/
def bufferCacheRemove (bufferCache : List (TplBuffer Buffer)) (name : BitVec 32) :
    List (TplBuffer Buffer) :=
  bufferCache.eraseP fun buffer => buffer.key == name

/-- `__tpl_x11_surface_buffer_cache_add`: the oldest entry makes room for the new one. -/
def bufferCacheAdd (bufferCache : List (TplBuffer Buffer)) (buffer : TplBuffer Buffer)
    (pushed : Bool) : List (TplBuffer Buffer) :=
  let bufferCache :=
    if tplBufferCacheMaxEntries ≤ bufferCache.length then bufferCache.tail else bufferCache
  if pushed then bufferCache ++ [buffer] else bufferCache

/-- `tpl_buffer->age = age` for the entry that is found under `name`. -/
def setAge (name age : BitVec 32) : List (TplBuffer Buffer) → List (TplBuffer Buffer)
  | [] => []
  | buffer :: buffers =>
      if buffer.key = name then { buffer with age := age } :: buffers
      else buffer :: setAge name age buffers

def State.slot (st : State Buffer) (i : Nat) : Option Buffer :=
  st.window.drawable.buffers.getD i none

def State.fits (st : State Buffer) (buffer : Buffer) : Bool :=
  decide ((st.render buffer).width = st.window.drawable.width) &&
    decide ((st.render buffer).height = st.window.drawable.height)

end

section

variable {Buffer : Type u} [DecidableEq Buffer]

def State.setStatus (st : State Buffer) (buffer : Buffer) (status : Dri3BufferStatus) :
    State Buffer :=
  { st with window := { st.window with
      memory := Function.update st.window.memory buffer
        { st.window.memory buffer with status := status } } }

/-- One round of the scan in `dri3_find_back`, on the slot that it looks at first. -/
def findBackRound (st : State Buffer) (preId : Nat) : State Buffer :=
  match st.slot preId with
  | some preBuffer =>
      if (st.window.memory preBuffer).status ≠ .posted then st.setStatus preBuffer .idle else st
  | none => st

/-- What `dri3_find_back` requires of the slot that it returns. -/
def State.unused (st : State Buffer) (i : Nat) : Bool :=
  match st.slot i with
  | some buffer => decide ((st.window.memory buffer).status = .idle)
  | none => true

def State.fresh (st : State Buffer) (new : Alloc Buffer) : Bool :=
  decide (new.buffer ∉ st.allocated) && decide (new.boName ≠ 0) &&
    (st.window.drawable.buffers.filterMap id).all fun buffer =>
      decide ((st.render buffer).boName ≠ new.boName) &&
        decide ((st.window.memory buffer).pixmap ≠ new.pixmap)

/-- `dri3_alloc_render_buffer`, and the assignments to its buffer in
`dri3_get_window_buffer`. -/
def State.install (st : State Buffer) (backBufId : Nat) (new : Alloc Buffer)
    (oldBoName : BitVec 32) : State Buffer :=
  { st with
    window := { st.window with
      drawable := { st.window.drawable with
        buffers := st.window.drawable.buffers.set backBufId (some new.buffer) }
      memory := Function.update st.window.memory new.buffer ⟨new.pixmap, .idle, 0, 0⟩ }
    render := Function.update st.render new.buffer
      ⟨new.boName, st.window.drawable.width, st.window.drawable.height, 0, oldBoName⟩
    allocated := new.buffer :: st.allocated }

/-- The end of `dri3_get_window_buffer`. -/
def State.hand (st : State Buffer) (backbuffer : Buffer) (reuse : Bool) : State Buffer :=
  { st.setStatus backbuffer .busy with
    render := Function.update st.render backbuffer
      { st.render backbuffer with
        flags := if reuse then dri2BufferFb ||| dri2BufferReused else dri2BufferFb } }

/-- `dri3_get_window_buffer` from the return of `dri3_find_back` on. -/
def getWindowBuffer (st : State Buffer) (backBufId : Nat) (alloc : Option (Alloc Buffer)) :
    Option (Buffer × State Buffer) :=
  match st.slot backBufId with
  | some backbuffer =>
      if st.fits backbuffer then some (backbuffer, st.hand backbuffer true)
      else alloc.map fun new =>
        (new.buffer,
          (st.install backBufId new (st.render backbuffer).boName).hand new.buffer false)
  | none => alloc.map fun new =>
      (new.buffer, (st.install backBufId new 0).hand new.buffer false)

/-- The buffer is taken out of the cache, and so is the one that it replaced. -/
def State.uncache (st : State Buffer) (buffer : Buffer) : State Buffer :=
  let bufferCache := bufferCacheRemove st.bufferCache (st.render buffer).boName
  if (st.render buffer).oldBoName ≠ 0 then
    { st with
      bufferCache := bufferCacheRemove bufferCache (st.render buffer).oldBoName
      render := Function.update st.render buffer { st.render buffer with oldBoName := 0 } }
  else { st with bufferCache := bufferCache }

def State.report (st : State Buffer) (buffer : Buffer) (surfaceSize : Int × Int)
    (tplBuffer : Option (TplBuffer Buffer)) (stored : Bool) : State Buffer :=
  { st with
    reports :=
      { selected := buffer
        reused := dri2BufferIsReused (st.render buffer).flags
        tplBuffer := tplBuffer
        resetBuffers := !dri2BufferIsReused (st.render buffer).flags ||
          decide ((st.render buffer).width ≠ surfaceSize.1) ||
          decide ((st.render buffer).height ≠ surfaceSize.2)
        stored := stored
        windowSize := (st.window.drawable.width, st.window.drawable.height)
        frames := st.frames } :: st.reports }

/-- `__tpl_x11_dri3_surface_get_buffer` from `if (!tpl_buffer)` on. -/
def wrapAnew (st : State Buffer) (buffer : Buffer) (call : Call Buffer) : State Buffer :=
  let st := st.uncache buffer
  if call.tplAlloc then
    let tplBuffer : TplBuffer Buffer :=
      { key := (st.render buffer).boName
        age := dri2BufferGetAge (st.render buffer).flags
        width := (st.render buffer).width
        height := (st.render buffer).height
        data := buffer }
    { st with bufferCache := bufferCacheAdd st.bufferCache tplBuffer call.pushed }.report
      buffer call.surfaceSize (some tplBuffer) call.pushed
  else st.report buffer call.surfaceSize none false

/-- `__tpl_x11_dri3_surface_get_buffer` from the return of `dri3_get_buffers` on. -/
def wrapBuffer (st : State Buffer) (buffer : Buffer) (call : Call Buffer) : State Buffer :=
  let name := (st.render buffer).boName
  let found :=
    if dri2BufferIsReused (st.render buffer).flags then bufferCacheFind st.bufferCache name
    else none
  match found with
  | some tplBuffer =>
      let age := (st.window.memory buffer).bufferAge
      { st with bufferCache := setAge name age st.bufferCache }.report buffer call.surfaceSize
        (some { tplBuffer with age := age }) true
  | none => wrapAnew st buffer call

/-- `__tpl_x11_dri3_surface_get_buffer` on a window. -/
def surfaceGetBuffer (st : State Buffer) (call : Call Buffer) : State Buffer :=
  match getWindowBuffer st call.backBufId call.alloc with
  | some (buffer, st) => wrapBuffer st buffer call
  | none => { st with undefined := true }

def presented (window : SwapPacing.State Buffer) : SwapPacing.Label Buffer → Option Buffer
  | .swapBuffers request =>
      if window.waiting.isNone ∧ window.drawable.isPixmap = false ∧
          low window.drawable.sendSbc = 0 then
        request.back
      else none
  | .waitForNotify =>
      if low window.drawable.sendSbc ≤ low window.drawable.recvSbc then
        window.waiting.map Prod.fst
      else none
  | .waitFailed | .handleEvent | .completeNotify _ _ _ | .configureNotify _ _
  | .completeMsc _ _ _ | .idleNotify _ => none

def State.given (st : State Buffer) : SwapPacing.Label Buffer → Bool
  | .swapBuffers request => request.back.all fun back =>
      st.reports.any fun report => report.tplBuffer.any fun tplBuffer =>
        decide (tplBuffer.data = back)
  | .waitForNotify | .waitFailed | .handleEvent | .completeNotify _ _ _ | .configureNotify _ _
  | .completeMsc _ _ _ | .idleNotify _ => true

inductive Label (Buffer : Type u)
  | findBackRound (preId : Nat)
  | getBuffer (call : Call Buffer)
  | pace (l : SwapPacing.Label Buffer)
  deriving DecidableEq, Repr

def step (st : State Buffer) (l : Label Buffer) : Option (State Buffer) :=
  if st.undefined then none
  else match l with
    | .findBackRound preId => some (findBackRound st preId)
    | .getBuffer call =>
        if call.backBufId < st.window.maxBack ∧ st.unused call.backBufId = true ∧
            (call.alloc.all fun new => st.fresh new) = true then
          some (surfaceGetBuffer st call)
        else none
    | .pace l =>
        if st.given l then
          (SwapPacing.step st.window l).map fun window =>
            { st with
              window := window
              frames := (presented st.window l).toList ++ st.frames }
        else none

def newSurface (drawable : SwapPacing.Dri3Drawable Buffer)
    (memory : Buffer → SwapPacing.Dri3Buffer) (render : Buffer → RenderBuffer)
    (backendEnv : Option Int) : State Buffer where
  window := SwapPacing.newDrawable
    { drawable with buffers := List.replicate dri3NumBuffers none } memory
    (dri3MaxBack backendEnv).toNat
  render := render
  allocated := []
  bufferCache := []
  frames := []
  reports := []
  undefined := false

/-- How many swaps ago the buffer was swapped last, 0 if never. -/
def swapsSince (frames : List Buffer) (buffer : Buffer) : Nat :=
  if buffer ∈ frames then frames.idxOf buffer + 1 else 0

/-- The age counts the swaps, unless there are too many for it. -/
def ExactAge (frames : List Buffer) (buffer : Buffer) (age : BitVec 32) : Prop :=
  age.toNat = if swapsSince frames buffer < 2 ^ 32 then swapsSince frames buffer else 0

instance (frames : List Buffer) (buffer : Buffer) (age : BitVec 32) :
    Decidable (ExactAge frames buffer age) :=
  inferInstanceAs (Decidable (_ = _))

/-- What a call for a buffer returns, after the calls `older`. -/
structure Faithful (older : List (Report Buffer)) (r : Report Buffer) : Prop where
  data : ∀ t ∈ r.tplBuffer, t.data = r.selected
  size : ∀ t ∈ r.tplBuffer, (t.width, t.height) = r.windowSize
  age : ∀ t ∈ r.tplBuffer, t.age ≠ 0 → t.age.toNat = swapsSince r.frames r.selected
  new : r.reused = false → r.selected ∉ r.frames ∧ ∀ r' ∈ older, r'.selected ≠ r.selected
  known : r.reused = true → ∃ r' ∈ older, r'.selected = r.selected
  exact : r.reused = true → (∀ r' ∈ older, r'.selected = r.selected → r'.stored = true) →
    ∀ t ∈ r.tplBuffer, ExactAge r.frames r.selected t.age

omit [DecidableEq Buffer] in
theorem getElem?_of_slot {st : State Buffer} {i : Nat} {buffer : Buffer}
    (h : st.slot i = some buffer) : st.window.drawable.buffers[i]? = some (some buffer) := by
  unfold State.slot at h
  rw [List.getD_eq_getElem?_getD] at h
  cases hget : st.window.drawable.buffers[i]? with
  | none =>
      rw [hget] at h
      cases h
  | some held =>
      rw [hget] at h
      exact congrArg some h

end

section

variable {Buffer : Type u}

def Distinct (buffers : List (Option Buffer)) : Prop :=
  ∀ (i j : Nat) (buffer : Buffer), buffers[i]? = some (some buffer) →
    buffers[j]? = some (some buffer) → i = j

/-- Only the slots that are scanned hold buffers. -/
structure Placed (maxBack : Nat) (buffers : List (Option Buffer)) : Prop where
  inBounds : ∀ (i : Nat) (buffer : Buffer), buffers[i]? = some (some buffer) → i < maxBack
  distinct : Distinct buffers

theorem Distinct.tail {held : Option Buffer} {buffers : List (Option Buffer)}
    (hdistinct : Distinct (held :: buffers)) :
    Distinct buffers ∧ ∀ buffer, held = some buffer → some buffer ∉ buffers := by
  refine ⟨?_, ?_⟩
  · intro i j buffer hi hj
    have hsucc := hdistinct (i + 1) (j + 1) buffer (by simpa using hi) (by simpa using hj)
    omega
  · rintro buffer rfl hmem
    obtain ⟨j, hj⟩ := List.mem_iff_getElem?.mp hmem
    have hzero := hdistinct 0 (j + 1) buffer rfl (by simpa using hj)
    omega

theorem Placed.set {maxBack i : Nat} {buffers : List (Option Buffer)} {new : Buffer}
    (h : Placed maxBack buffers) (hi : i < maxBack) (hnew : some new ∉ buffers) :
    Placed maxBack (buffers.set i (some new)) := by
  constructor
  · intro j buffer hj
    rcases eq_or_ne i j with rfl | hne
    · exact hi
    · rw [List.getElem?_set_ne hne] at hj
      exact h.inBounds j buffer hj
  · intro j k buffer hj hk
    have hat : ∀ m, (buffers.set i (some new))[m]? = some (some buffer) →
        i = m ∧ new = buffer ∨ i ≠ m ∧ buffers[m]? = some (some buffer) := by
      intro m hm
      rcases eq_or_ne i m with rfl | hne
      · rw [List.getElem?_set_self'] at hm
        cases hold : buffers[i]? with
        | none =>
            rw [hold] at hm
            cases hm
        | some held =>
            rw [hold] at hm
            exact .inl ⟨rfl, Option.some.inj (Option.some.inj hm)⟩
      · rw [List.getElem?_set_ne hne] at hm
        exact .inr ⟨hne, hm⟩
    rcases hat j hj with ⟨rfl, rfl⟩ | ⟨hij, hj'⟩
    · rcases hat k hk with ⟨rfl, _⟩ | ⟨_, hk'⟩
      · rfl
      · exact absurd (List.mem_of_getElem? hk') hnew
    · rcases hat k hk with ⟨rfl, rfl⟩ | ⟨_, hk'⟩
      · exact absurd (List.mem_of_getElem? hj') hnew
      · exact h.distinct j k buffer hj' hk'

end

section

variable {Buffer : Type u} [DecidableEq Buffer]

omit [DecidableEq Buffer] in
theorem Placed.take {maxBack : Nat} {buffers : List (Option Buffer)} (h : Placed maxBack buffers) :
    Distinct (buffers.take maxBack) ∧
      ∀ buffer, some buffer ∈ buffers → some buffer ∈ buffers.take maxBack := by
  refine ⟨?_, ?_⟩
  · intro i j buffer hi hj
    rw [List.getElem?_take] at hi hj
    split at hi
    · split at hj
      · exact h.distinct i j buffer hi hj
      · cases hj
    · cases hi
  · intro buffer hmem
    obtain ⟨i, hi⟩ := List.mem_iff_getElem?.mp hmem
    refine List.mem_iff_getElem?.mpr ⟨i, ?_⟩
    rw [List.getElem?_take_of_lt (h.inBounds i buffer hi)]
    exact hi

def bump (age : BitVec 32) : BitVec 32 :=
  if 0 < age then age + 1 else age

theorem ageSlot_other {memory : Buffer → SwapPacing.Dri3Buffer} {held : Option Buffer}
    {buffer : Buffer} (hother : held ≠ some buffer) :
    ageSlot memory held buffer = memory buffer := by
  cases held with
  | none => rfl
  | some b =>
      have hne : buffer ≠ b := by
        rintro rfl
        exact hother rfl
      rw [ageSlot]
      split
      · exact Function.update_of_ne hne _ _
      · rfl

theorem ageSlot_self (memory : Buffer → SwapPacing.Dri3Buffer) (buffer : Buffer) :
    (ageSlot memory (some buffer) buffer).bufferAge = bump (memory buffer).bufferAge := by
  rw [ageSlot, bump]
  split
  · rw [Function.update_self]
  · rfl

theorem foldl_ageSlot_other {buffers : List (Option Buffer)} {buffer : Buffer}
    (hout : some buffer ∉ buffers) (memory : Buffer → SwapPacing.Dri3Buffer) :
    buffers.foldl ageSlot memory buffer = memory buffer := by
  induction buffers generalizing memory with
  | nil => rfl
  | cons held buffers ih =>
      rw [List.mem_cons, not_or] at hout
      rw [List.foldl_cons, ih hout.2, ageSlot_other (Ne.symm hout.1)]

theorem foldl_ageSlot_mem {buffers : List (Option Buffer)} {buffer : Buffer}
    (hdistinct : Distinct buffers) (hmem : some buffer ∈ buffers)
    (memory : Buffer → SwapPacing.Dri3Buffer) :
    (buffers.foldl ageSlot memory buffer).bufferAge = bump (memory buffer).bufferAge := by
  induction buffers generalizing memory with
  | nil => cases hmem
  | cons held buffers ih =>
      obtain ⟨hrest, hhead⟩ := hdistinct.tail
      rw [List.foldl_cons]
      rcases List.mem_cons.mp hmem with rfl | hlater
      · rw [foldl_ageSlot_other (hhead buffer rfl), ageSlot_self]
      · have hother : held ≠ some buffer := by
          rintro rfl
          exact hhead buffer rfl hlater
        rw [ih hrest hlater, ageSlot_other hother]

theorem swapsSince_cons_self (frames : List Buffer) (buffer : Buffer) :
    swapsSince (buffer :: frames) buffer = 1 := by
  simp [swapsSince]

theorem swapsSince_cons_of_ne {frames : List Buffer} {back buffer : Buffer}
    (hne : back ≠ buffer) :
    swapsSince (back :: frames) buffer =
      if swapsSince frames buffer = 0 then 0 else swapsSince frames buffer + 1 := by
  by_cases hmem : buffer ∈ frames
  · simp [swapsSince, hmem, List.idxOf_cons, beq_false_of_ne hne]
  · simp [swapsSince, hmem, Ne.symm hne]

theorem swapsSince_eq_zero {frames : List Buffer} {buffer : Buffer} (hout : buffer ∉ frames) :
    swapsSince frames buffer = 0 :=
  if_neg hout

theorem ExactAge.bump {frames : List Buffer} {back buffer : Buffer} {age : BitVec 32}
    (h : ExactAge frames buffer age) (hne : back ≠ buffer) :
    ExactAge (back :: frames) buffer (bump age) := by
  unfold ExactAge at h ⊢
  rw [swapsSince_cons_of_ne hne, Dri3BufferAge.bump]
  generalize swapsSince frames buffer = n at h ⊢
  rcases Nat.eq_zero_or_pos age.toNat with hzero | hpos
  · have hnot : ¬ 0 < age := by
      rw [BitVec.lt_def]
      simp [hzero]
    rw [if_neg hnot, hzero]
    rw [hzero] at h
    split at h
    · subst h
      rfl
    · have hn : n ≠ 0 := by omega
      rw [if_neg hn, if_neg (by omega)]
  · have hage : 0 < age := by
      rw [BitVec.lt_def]
      simpa using hpos
    have hone : (1 : BitVec 32).toNat = 1 := rfl
    rw [if_pos hage, BitVec.toNat_add, hone]
    split at h
    · have hn : n ≠ 0 := by omega
      rw [if_neg hn, h]
      split
      · rename_i hlt
        exact Nat.mod_eq_of_lt hlt
      · -- The age wraps around to 0, where it stays.
        have hlast : n + 1 = 2 ^ 32 := by omega
        rw [hlast, Nat.mod_self]
    · omega

theorem ExactAge.first (frames : List Buffer) (buffer : Buffer) :
    ExactAge (buffer :: frames) buffer 1 := by
  unfold ExactAge
  rw [swapsSince_cons_self]
  rfl

theorem ExactAge.never {frames : List Buffer} {buffer : Buffer} (hout : buffer ∉ frames) :
    ExactAge frames buffer 0 := by
  unfold ExactAge
  rw [swapsSince_eq_zero hout]
  rfl

theorem ExactAge.eq_of_ne_zero {frames : List Buffer} {buffer : Buffer} {age : BitVec 32}
    (h : ExactAge frames buffer age) (hne : age ≠ 0) : age.toNat = swapsSince frames buffer := by
  unfold ExactAge at h
  split at h
  · exact h
  · exact absurd (BitVec.eq_of_toNat_eq h) hne

/-- What the slots hold: buffers that tell their age and that their names tell apart. -/
structure Slots (st : State Buffer) : Prop where
  length : st.window.drawable.buffers.length = dri3NumBuffers
  maxBack : st.window.maxBack < dri3NumBuffers
  placed : Placed st.window.maxBack st.window.drawable.buffers
  allocated : ∀ b, some b ∈ st.window.drawable.buffers → b ∈ st.allocated
  frames : ∀ b ∈ st.frames, b ∈ st.allocated
  ages : ∀ b, some b ∈ st.window.drawable.buffers →
    ExactAge st.frames b (st.window.memory b).bufferAge
  names : ∀ b c, some b ∈ st.window.drawable.buffers → some c ∈ st.window.drawable.buffers →
    (st.render b).boName = (st.render c).boName → b = c
  named : ∀ b, some b ∈ st.window.drawable.buffers → (st.render b).boName ≠ 0

theorem Slots.congr {st st' : State Buffer} (h : Slots st)
    (hbuffers : st'.window.drawable.buffers = st.window.drawable.buffers)
    (hmax : st'.window.maxBack = st.window.maxBack)
    (hages : ∀ b, (st'.window.memory b).bufferAge = (st.window.memory b).bufferAge)
    (hnames : ∀ b, (st'.render b).boName = (st.render b).boName)
    (hallocated : st'.allocated = st.allocated) (hframes : st'.frames = st.frames) :
    Slots st' where
  length := by
    rw [hbuffers]
    exact h.length
  maxBack := by
    rw [hmax]
    exact h.maxBack
  placed := by
    rw [hmax, hbuffers]
    exact h.placed
  allocated := by
    rw [hbuffers, hallocated]
    exact h.allocated
  frames := by
    rw [hframes, hallocated]
    exact h.frames
  ages := by
    intro b hb
    rw [hbuffers] at hb
    rw [hages, hframes]
    exact h.ages b hb
  names := by
    intro b c hb hc hname
    rw [hbuffers] at hb hc
    rw [hnames, hnames] at hname
    exact h.names b c hb hc hname
  named := by
    intro b hb
    rw [hbuffers] at hb
    rw [hnames]
    exact h.named b hb

/-- An entry has the name and the size of its buffer. -/
structure Describes (render : Buffer → RenderBuffer) (t : TplBuffer Buffer) : Prop where
  key : t.key = (render t.data).boName
  width : t.width = (render t.data).width
  height : t.height = (render t.data).height

omit [DecidableEq Buffer] in
theorem Describes.congr {render render' : Buffer → RenderBuffer} {t : TplBuffer Buffer}
    (h : Describes render t) (hsame : render t.data = render' t.data) : Describes render' t :=
  ⟨hsame ▸ h.key, hsame ▸ h.width, hsame ▸ h.height⟩

/-- Every call that returned was faithful, given those before it. -/
def History : List (Report Buffer) → Prop
  | [] => True
  | r :: older => Faithful older r ∧ History older

theorem History.faithful {newer older : List (Report Buffer)}
    {r : Report Buffer} (h : History (newer ++ r :: older)) : Faithful older r := by
  induction newer with
  | nil => exact h.1
  | cons _ _ ih => exact ih h.2

structure Inv (st : State Buffer) : Prop where
  slots : Slots st
  waiting : ∀ swap ∈ st.window.waiting, swap.1 ∈ st.allocated
  selected : ∀ r ∈ st.reports, r.selected ∈ st.allocated
  oldBoName : ∀ b, some b ∈ st.window.drawable.buffers → (st.render b).oldBoName = 0
  entries : ∀ t ∈ st.bufferCache, some t.data ∈ st.window.drawable.buffers ∧ Describes st.render t
  keys : (st.bufferCache.map TplBuffer.key).Nodup
  known : ∀ b, some b ∈ st.window.drawable.buffers → ∃ r ∈ st.reports, r.selected = b
  stored : ∀ b, some b ∈ st.window.drawable.buffers →
    (∃ t ∈ st.bufferCache, t.data = b) ∨ ∃ r ∈ st.reports, r.selected = b ∧ r.stored = false
  history : History st.reports

theorem inv_newSurface (drawable : SwapPacing.Dri3Drawable Buffer)
    (memory : Buffer → SwapPacing.Dri3Buffer) (render : Buffer → RenderBuffer)
    (backendEnv : Option Int) : Inv (newSurface drawable memory render backendEnv) := by
  have hempty : ∀ b, some b ∉ List.replicate dri3NumBuffers (none : Option Buffer) := by
    intro b hb
    cases List.eq_of_mem_replicate hb
  refine
    { slots := ?_
      waiting := by
        intro swap hswap
        cases hswap
      selected := by
        intro r hr
        cases hr
      oldBoName := fun b hb => absurd hb (hempty b)
      entries := by
        intro t ht
        cases ht
      keys := .nil
      known := fun b hb => absurd hb (hempty b)
      stored := fun b hb => absurd hb (hempty b)
      history := trivial }
  exact
    { length := List.length_replicate
      maxBack := by
        have hbounds := dri3MaxBack_bounds backendEnv
        show (dri3MaxBack backendEnv).toNat < 20
        omega
      placed :=
        { inBounds := fun i b hi => absurd (List.mem_of_getElem? hi) (hempty b)
          distinct := fun i _ b hi => absurd (List.mem_of_getElem? hi) (hempty b) }
      allocated := fun b hb => absurd hb (hempty b)
      frames := by
        intro b hb
        cases hb
      ages := fun b hb => absurd hb (hempty b)
      names := fun b _ hb => absurd hb (hempty b)
      named := fun b hb => absurd hb (hempty b) }

/-- Nothing has changed but statuses, flags and what the swaps wait for. -/
structure Unmoved (st st' : State Buffer) : Prop where
  buffers : st'.window.drawable.buffers = st.window.drawable.buffers
  maxBack : st'.window.maxBack = st.window.maxBack
  ages : ∀ b, (st'.window.memory b).bufferAge = (st.window.memory b).bufferAge
  render : ∀ b, ∃ flags, st'.render b = { st.render b with flags := flags }
  allocated : st'.allocated = st.allocated
  bufferCache : st'.bufferCache = st.bufferCache
  frames : st'.frames = st.frames
  reports : st'.reports = st.reports

omit [DecidableEq Buffer] in
theorem Unmoved.boName {st st' : State Buffer} (h : Unmoved st st') (b : Buffer) :
    (st'.render b).boName = (st.render b).boName := by
  obtain ⟨flags, hflags⟩ := h.render b
  rw [hflags]

omit [DecidableEq Buffer] in
theorem Unmoved.oldBoName {st st' : State Buffer} (h : Unmoved st st') (b : Buffer) :
    (st'.render b).oldBoName = (st.render b).oldBoName := by
  obtain ⟨flags, hflags⟩ := h.render b
  rw [hflags]

theorem Unmoved.slots {st st' : State Buffer} (hsame : Unmoved st st') (h : Slots st) :
    Slots st' :=
  h.congr hsame.buffers hsame.maxBack hsame.ages hsame.boName hsame.allocated hsame.frames

omit [DecidableEq Buffer] in
theorem Unmoved.describes {st st' : State Buffer} (hsame : Unmoved st st')
    {t : TplBuffer Buffer} (h : Describes st.render t) : Describes st'.render t := by
  obtain ⟨flags, hflags⟩ := hsame.render t.data
  constructor
  · rw [hflags]
    exact h.key
  · rw [hflags]
    exact h.width
  · rw [hflags]
    exact h.height

theorem Unmoved.inv {st st' : State Buffer} (hsame : Unmoved st st') (h : Inv st)
    (hwaiting : ∀ swap ∈ st'.window.waiting, swap.1 ∈ st.allocated) : Inv st' where
  slots := hsame.slots h.slots
  waiting := by
    rw [hsame.allocated]
    exact hwaiting
  selected := by
    rw [hsame.reports, hsame.allocated]
    exact h.selected
  oldBoName := by
    intro b hb
    rw [hsame.buffers] at hb
    rw [hsame.oldBoName]
    exact h.oldBoName b hb
  entries := by
    intro t ht
    rw [hsame.bufferCache] at ht
    rw [hsame.buffers]
    exact ⟨(h.entries t ht).1, hsame.describes (h.entries t ht).2⟩
  keys := by
    rw [hsame.bufferCache]
    exact h.keys
  known := by
    rw [hsame.buffers, hsame.reports]
    exact h.known
  stored := by
    rw [hsame.buffers, hsame.bufferCache, hsame.reports]
    exact h.stored
  history := by
    rw [hsame.reports]
    exact h.history

theorem unmoved_setStatus (st : State Buffer) (buffer : Buffer) (status : Dri3BufferStatus) :
    Unmoved st (st.setStatus buffer status) where
  buffers := rfl
  maxBack := rfl
  ages := by
    intro b
    show (Function.update st.window.memory buffer _ b).bufferAge = _
    rcases eq_or_ne b buffer with rfl | hne
    · rw [Function.update_self]
    · rw [Function.update_of_ne hne]
  render := fun b => ⟨(st.render b).flags, rfl⟩
  allocated := rfl
  bufferCache := rfl
  frames := rfl
  reports := rfl

theorem unmoved_hand (st : State Buffer) (backbuffer : Buffer) (reuse : Bool) :
    Unmoved st (st.hand backbuffer reuse) where
  buffers := rfl
  maxBack := rfl
  ages := (unmoved_setStatus st backbuffer .busy).ages
  render := by
    intro b
    show ∃ flags, Function.update st.render backbuffer _ b = _
    rcases eq_or_ne b backbuffer with rfl | hne
    · rw [Function.update_self]
      exact ⟨_, rfl⟩
    · rw [Function.update_of_ne hne]
      exact ⟨(st.render b).flags, rfl⟩
  allocated := rfl
  bufferCache := rfl
  frames := rfl
  reports := rfl

theorem inv_findBackRound {st : State Buffer} (h : Inv st) (preId : Nat) :
    Inv (findBackRound st preId) := by
  unfold findBackRound
  split
  · split
    · rename_i preBuffer _ _
      exact (unmoved_setStatus st preBuffer .idle).inv h h.waiting
    · exact h
  · exact h

theorem present_bufferAge {maxBack : Nat} {window : SwapPacing.State Buffer}
    (hmax : window.maxBack = maxBack) (hplaced : Placed maxBack window.drawable.buffers)
    (back : Buffer) (request : SwapRequest Buffer) {b : Buffer}
    (hb : some b ∈ window.drawable.buffers) :
    ((SwapPacing.present window back request).memory b).bufferAge =
      if b = back then 1 else bump (window.memory b).bufferAge := by
  unfold SwapPacing.present
  dsimp only
  split
  · rename_i hself
    subst hself
    rw [Function.update_self]
  · rename_i hne
    rw [Function.update_of_ne hne, hmax]
    exact foldl_ageSlot_mem hplaced.take.1 (hplaced.take.2 b hb) window.memory

theorem inv_present {st : State Buffer} (h : Inv st) {back : Buffer} (hback : back ∈ st.allocated)
    (request : SwapRequest Buffer) :
    Inv { st with
      window := SwapPacing.present st.window back request
      frames := back :: st.frames } where
  slots :=
    { length := h.slots.length
      maxBack := h.slots.maxBack
      placed := h.slots.placed
      allocated := h.slots.allocated
      frames := by
        intro b hb
        rcases List.mem_cons.mp hb with rfl | hold
        · exact hback
        · exact h.slots.frames b hold
      ages := by
        intro b hb
        rw [present_bufferAge rfl h.slots.placed back request hb]
        split
        · rename_i hself
          subst hself
          exact .first st.frames b
        · rename_i hne
          exact (h.slots.ages b hb).bump (Ne.symm hne)
      names := h.slots.names
      named := h.slots.named }
  waiting := by
    intro swap hswap
    cases hswap
  selected := h.selected
  oldBoName := h.oldBoName
  entries := h.entries
  keys := h.keys
  known := h.known
  stored := h.stored
  history := h.history

theorem takeEvent_frame {window window' : SwapPacing.State Buffer}
    (htake : SwapPacing.takeEvent window = some window') :
    window'.drawable.buffers = window.drawable.buffers ∧ window'.maxBack = window.maxBack ∧
      window'.waiting = window.waiting ∧
      ∀ b, (window'.memory b).bufferAge = (window.memory b).bufferAge := by
  unfold SwapPacing.takeEvent at htake
  split at htake
  · rename_i event events _
    obtain rfl := Option.some.inj htake
    cases event with
    | configureNotify _ _ | completePixmap _ _ _ _ | completeMsc _ _ _ =>
        exact ⟨rfl, rfl, rfl, fun _ => rfl⟩
    | idleNotify pixmap =>
        unfold SwapPacing.handlePresentEvent
        dsimp only
        split
        · rename_i found _
          refine ⟨rfl, rfl, rfl, fun b => ?_⟩
          dsimp only
          rcases eq_or_ne b found with rfl | hne
          · rw [Function.update_self]
          · rw [Function.update_of_ne hne]
        · exact ⟨rfl, rfl, rfl, fun _ => rfl⟩
  · cases htake

theorem allocated_of_given {st : State Buffer} (h : Inv st) {request : SwapRequest Buffer}
    {back : Buffer} (hgiven : st.given (.swapBuffers request) = true)
    (hback : request.back = some back) : back ∈ st.allocated := by
  simp only [State.given] at hgiven
  rw [hback, Option.all_some, List.any_eq_true] at hgiven
  obtain ⟨r, hr, hdata⟩ := hgiven
  rw [Option.any_eq_true] at hdata
  obtain ⟨t, ht, hsame⟩ := hdata
  obtain ⟨newer, older, hreports⟩ := List.append_of_mem hr
  have hhistory := h.history
  rw [hreports] at hhistory
  have hselected := h.selected r hr
  rw [← hhistory.faithful.data t ht, of_decide_eq_true hsame] at hselected
  exact hselected

theorem inv_pace {st : State Buffer} (h : Inv st) {l : SwapPacing.Label Buffer}
    (hgiven : st.given l = true) {window : SwapPacing.State Buffer}
    (hstep : SwapPacing.step st.window l = some window) :
    Inv { st with
      window := window
      frames := (presented st.window l).toList ++ st.frames } := by
  have hquiet : ∀ window' : SwapPacing.State Buffer, presented st.window l = none →
      window'.drawable.buffers = st.window.drawable.buffers →
      window'.maxBack = st.window.maxBack →
      (∀ b, (window'.memory b).bufferAge = (st.window.memory b).bufferAge) →
      (∀ swap ∈ window'.waiting, swap.1 ∈ st.allocated) →
      Inv { st with
        window := window'
        frames := (presented st.window l).toList ++ st.frames } := by
    intro window' hnone hbuffers hmax hages hwaiting
    have hsame : Unmoved st { st with
        window := window'
        frames := (presented st.window l).toList ++ st.frames } :=
      { buffers := hbuffers
        maxBack := hmax
        ages := hages
        render := fun b => ⟨(st.render b).flags, rfl⟩
        allocated := rfl
        bufferCache := rfl
        frames := by
          rw [hnone]
          rfl
        reports := rfl }
    exact hsame.inv h hwaiting
  cases l with
  | swapBuffers request =>
      cases SwapPacing.moves_of_step hstep with
      | rejected _ _ hpixmap =>
          refine hquiet _ ?_ rfl rfl (fun _ => rfl) h.waiting
          simp only [presented]
          split
          · rename_i hpasses
            cases hback : request.back with
            | none => rfl
            | some back =>
                have hyes := hpixmap (by simp [hback])
                rw [hpasses.2.1] at hyes
                cases hyes
          · rfl
      | @passed _ back hwaiting hback hwindow hlow =>
          have hpresented : presented st.window (.swapBuffers request) = some back := by
            simp only [presented]
            rw [if_pos ⟨by simp [hwaiting], hwindow, hlow⟩]
            exact hback
          rw [hpresented]
          exact inv_present h (allocated_of_given h hgiven hback) request
      | @waits _ back hwaiting hback hwindow hlow =>
          refine hquiet _ ?_ rfl rfl (fun _ => rfl) ?_
          · simp only [presented]
            rw [if_neg fun hpasses => hlow hpasses.2.2]
          · intro swap hswap
            obtain rfl := Option.some.inj hswap
            exact allocated_of_given h hgiven hback
      | sent _ _ hother _ => exact absurd rfl (hother request)
  | waitForNotify =>
      cases hwaiting : st.window.waiting with
      | none =>
          simp only [SwapPacing.step, hwaiting] at hstep
          cases hstep
      | some swap =>
          obtain ⟨back, request⟩ := swap
          simp only [SwapPacing.step, hwaiting] at hstep
          split at hstep
          · rename_i hle
            obtain rfl := Option.some.inj hstep
            have hpresented : presented st.window .waitForNotify = some back := by
              simp only [presented]
              rw [if_pos hle, hwaiting]
              rfl
            rw [hpresented]
            exact inv_present h (h.waiting (back, request) hwaiting) request
          · rename_i hle
            obtain ⟨hbuffers, hmax, hsame, hages⟩ := takeEvent_frame hstep
            refine hquiet window ?_ hbuffers hmax hages ?_
            · simp only [presented]
              rw [if_neg hle]
            · rw [hsame]
              exact h.waiting
  | waitFailed =>
      cases SwapPacing.moves_of_step hstep with
      | failed _ =>
          refine hquiet _ rfl rfl rfl (fun _ => rfl) ?_
          intro swap hswap
          cases hswap
      | sent _ _ _ _ => exact hquiet _ rfl rfl rfl (fun _ => rfl) h.waiting
  | handleEvent =>
      cases SwapPacing.moves_of_step hstep with
      | handled _ htake =>
          obtain ⟨hbuffers, hmax, hsame, hages⟩ := takeEvent_frame htake
          refine hquiet window rfl hbuffers hmax hages ?_
          rw [hsame]
          exact h.waiting
      | sent _ _ _ _ => exact hquiet _ rfl rfl rfl (fun _ => rfl) h.waiting
  | completeNotify _ _ _ =>
      cases SwapPacing.moves_of_step hstep with
      | completed _ _ _ _ | sent _ _ _ _ => exact hquiet _ rfl rfl rfl (fun _ => rfl) h.waiting
  | configureNotify _ _ | completeMsc _ _ _ | idleNotify _ =>
      cases SwapPacing.moves_of_step hstep with
      | sent _ _ _ _ => exact hquiet _ rfl rfl rfl (fun _ => rfl) h.waiting

omit [DecidableEq Buffer] in
theorem mem_bufferCacheRemove {bufferCache : List (TplBuffer Buffer)} {name : BitVec 32}
    {t : TplBuffer Buffer} (hkeys : (bufferCache.map TplBuffer.key).Nodup) :
    t ∈ bufferCacheRemove bufferCache name ↔ t ∈ bufferCache ∧ t.key ≠ name := by
  unfold bufferCacheRemove
  induction bufferCache with
  | nil => simp
  | cons first bufferCache ih =>
      obtain ⟨hfirst, hrest⟩ := List.nodup_cons.mp hkeys
      by_cases hname : first.key = name
      · have hother : ∀ t ∈ bufferCache, t.key ≠ name := by
          rintro t ht rfl
          exact hfirst (hname ▸ List.mem_map_of_mem ht)
        rw [List.eraseP_cons_of_pos (by simpa using hname), List.mem_cons]
        constructor
        · intro ht
          exact ⟨.inr ht, hother t ht⟩
        · rintro ⟨rfl | ht, hne⟩
          · exact absurd hname hne
          · exact ht
      · rw [List.eraseP_cons_of_neg (by simpa using hname), List.mem_cons, List.mem_cons, ih hrest]
        constructor
        · rintro (rfl | ⟨ht, hne⟩)
          · exact ⟨.inl rfl, hname⟩
          · exact ⟨.inr ht, hne⟩
        · rintro ⟨rfl | ht, hne⟩
          · exact .inl rfl
          · exact .inr ⟨ht, hne⟩

omit [DecidableEq Buffer] in
theorem nodup_bufferCacheRemove {bufferCache : List (TplBuffer Buffer)}
    (hkeys : (bufferCache.map TplBuffer.key).Nodup) (name : BitVec 32) :
    ((bufferCacheRemove bufferCache name).map TplBuffer.key).Nodup :=
  hkeys.sublist (List.eraseP_sublist.map _)

omit [DecidableEq Buffer] in
theorem mem_setAge {name age : BitVec 32} {bufferCache : List (TplBuffer Buffer)}
    {t : TplBuffer Buffer} (ht : t ∈ setAge name age bufferCache) :
    ∃ t' ∈ bufferCache, t = t' ∨ t = { t' with age := age } := by
  induction bufferCache with
  | nil => cases ht
  | cons first bufferCache ih =>
      rw [setAge] at ht
      split at ht
      · rcases List.mem_cons.mp ht with rfl | hold
        · exact ⟨first, List.mem_cons_self, .inr rfl⟩
        · exact ⟨t, List.mem_cons_of_mem _ hold, .inl rfl⟩
      · rcases List.mem_cons.mp ht with rfl | hold
        · exact ⟨t, List.mem_cons_self, .inl rfl⟩
        · obtain ⟨t', ht', hsame⟩ := ih hold
          exact ⟨t', List.mem_cons_of_mem _ ht', hsame⟩

omit [DecidableEq Buffer] in
theorem map_setAge {α : Type v} (f : TplBuffer Buffer → α) (name age : BitVec 32)
    (bufferCache : List (TplBuffer Buffer)) (hf : ∀ t, f { t with age := age } = f t) :
    (setAge name age bufferCache).map f = bufferCache.map f := by
  induction bufferCache with
  | nil => rfl
  | cons first bufferCache ih =>
      rw [setAge]
      split
      · rw [List.map_cons, List.map_cons, hf]
      · rw [List.map_cons, List.map_cons, ih]

theorem length_le_maxBack {st : State Buffer} (hslots : Slots st)
    (hentries : ∀ t ∈ st.bufferCache,
      some t.data ∈ st.window.drawable.buffers ∧ Describes st.render t)
    (hkeys : (st.bufferCache.map TplBuffer.key).Nodup) :
    st.bufferCache.length ≤ st.window.maxBack := by
  have hdata : (st.bufferCache.map TplBuffer.key) =
      (st.bufferCache.map fun t => some t.data).map
        fun held => (held.map fun b => (st.render b).boName).getD 0 := by
    rw [List.map_map]
    exact List.map_congr_left fun t ht => (hentries t ht).2.key
  rw [hdata] at hkeys
  have hsubset : (st.bufferCache.map fun t => some t.data) ⊆
      st.window.drawable.buffers.take st.window.maxBack := by
    intro held hheld
    obtain ⟨t, ht, rfl⟩ := List.mem_map.mp hheld
    exact hslots.placed.take.2 t.data (hentries t ht).1
  have hlength := (List.subperm_of_subset (List.Nodup.of_map _ hkeys) hsubset).length_le
  rw [List.length_map] at hlength
  exact Nat.le_trans hlength (List.length_take_le _ _)

/-- A buffer was selected, and what it will be wrapped in is not known. -/
structure Picked (st : State Buffer) (buffer : Buffer) : Prop where
  slots : Slots st
  held : some buffer ∈ st.window.drawable.buffers
  waiting : ∀ swap ∈ st.window.waiting, swap.1 ∈ st.allocated
  selected : ∀ r ∈ st.reports, r.selected ∈ st.allocated
  size : (st.render buffer).width = st.window.drawable.width ∧
    (st.render buffer).height = st.window.drawable.height
  flags : (st.render buffer).flags = dri2BufferFb ||| dri2BufferReused ∧
      (st.render buffer).oldBoName = 0 ∨
    (st.render buffer).flags = dri2BufferFb ∧ buffer ∉ st.frames ∧
      ∀ r ∈ st.reports, r.selected ≠ buffer
  oldBoName : ∀ b, some b ∈ st.window.drawable.buffers → b ≠ buffer →
    (st.render b).oldBoName = 0
  apart : ∀ b, some b ∈ st.window.drawable.buffers →
    (st.render b).boName ≠ (st.render buffer).oldBoName
  entries : ∀ t ∈ st.bufferCache, Describes st.render t ∧
    (some t.data ∈ st.window.drawable.buffers ∨
      (st.render buffer).oldBoName ≠ 0 ∧ t.key = (st.render buffer).oldBoName)
  keys : (st.bufferCache.map TplBuffer.key).Nodup
  known : ∀ b, some b ∈ st.window.drawable.buffers →
    b ≠ buffer ∨ dri2BufferIsReused (st.render buffer).flags = true →
      ∃ r ∈ st.reports, r.selected = b
  stored : ∀ b, some b ∈ st.window.drawable.buffers →
    b ≠ buffer ∨ dri2BufferIsReused (st.render buffer).flags = true →
      (∃ t ∈ st.bufferCache, t.data = b) ∨ ∃ r ∈ st.reports, r.selected = b ∧ r.stored = false
  history : History st.reports

/-- The cache is up to date, and the call for the buffer has not returned. -/
structure Ready (st : State Buffer) (buffer : Buffer) : Prop where
  slots : Slots st
  held : some buffer ∈ st.window.drawable.buffers
  waiting : ∀ swap ∈ st.window.waiting, swap.1 ∈ st.allocated
  selected : ∀ r ∈ st.reports, r.selected ∈ st.allocated
  oldBoName : ∀ b, some b ∈ st.window.drawable.buffers → (st.render b).oldBoName = 0
  entries : ∀ t ∈ st.bufferCache, some t.data ∈ st.window.drawable.buffers ∧ Describes st.render t
  keys : (st.bufferCache.map TplBuffer.key).Nodup
  known : ∀ b, some b ∈ st.window.drawable.buffers → b ≠ buffer →
    ∃ r ∈ st.reports, r.selected = b
  stored : ∀ b, some b ∈ st.window.drawable.buffers → b ≠ buffer →
    (∃ t ∈ st.bufferCache, t.data = b) ∨ ∃ r ∈ st.reports, r.selected = b ∧ r.stored = false
  history : History st.reports

theorem inv_report {st : State Buffer} {buffer : Buffer} (h : Ready st buffer)
    (surfaceSize : Int × Int) (tplBuffer : Option (TplBuffer Buffer)) (stored : Bool)
    (hstored : (∃ t ∈ st.bufferCache, t.data = buffer) ∨ stored = false)
    (hfaithful : ∀ r ∈ (st.report buffer surfaceSize tplBuffer stored).reports.head?,
      Faithful st.reports r) : Inv (st.report buffer surfaceSize tplBuffer stored) where
  slots := h.slots.congr rfl rfl (fun _ => rfl) (fun _ => rfl) rfl rfl
  waiting := h.waiting
  selected := by
    intro r hr
    rcases List.mem_cons.mp hr with rfl | hold
    · exact h.slots.allocated buffer h.held
    · exact h.selected r hold
  oldBoName := h.oldBoName
  entries := h.entries
  keys := h.keys
  known := by
    intro b hb
    by_cases hself : b = buffer
    · exact ⟨_, List.mem_cons_self, hself.symm⟩
    · obtain ⟨r, hr, hsame⟩ := h.known b hb hself
      exact ⟨r, List.mem_cons_of_mem _ hr, hsame⟩
  stored := by
    intro b hb
    by_cases hself : b = buffer
    · subst hself
      rcases hstored with hcached | hlost
      · exact .inl hcached
      · exact .inr ⟨_, List.mem_cons_self, rfl, hlost⟩
    · rcases h.stored b hb hself with hcached | ⟨r, hr, hlost⟩
      · exact .inl hcached
      · exact .inr ⟨r, List.mem_cons_of_mem _ hr, hlost⟩
  history := ⟨hfaithful _ rfl, h.history⟩

omit [DecidableEq Buffer] in
theorem find_of_data {st : State Buffer} {t : TplBuffer Buffer} (ht : t ∈ st.bufferCache)
    (hkey : t.key = (st.render t.data).boName) :
    bufferCacheFind st.bufferCache (st.render t.data).boName ≠ none := by
  intro hnone
  have hmiss := List.find?_eq_none.mp hnone t ht
  rw [hkey] at hmiss
  simp at hmiss

theorem Picked.reused_iff {st : State Buffer} {buffer : Buffer} (h : Picked st buffer) :
    dri2BufferIsReused (st.render buffer).flags = true ↔
      (st.render buffer).flags = dri2BufferFb ||| dri2BufferReused := by
  rcases h.flags with ⟨hflags, _⟩ | ⟨hflags, _⟩
  · rw [hflags]
    decide
  · rw [hflags]
    decide

theorem Picked.getAge {st : State Buffer} {buffer : Buffer} (h : Picked st buffer) :
    dri2BufferGetAge (st.render buffer).flags = 0 := by
  rcases h.flags with ⟨hflags, _⟩ | ⟨hflags, _⟩
  · rw [hflags]
    decide
  · rw [hflags]
    decide

theorem Picked.new {st : State Buffer} {buffer : Buffer} (h : Picked st buffer)
    (hnew : dri2BufferIsReused (st.render buffer).flags = false) :
    buffer ∉ st.frames ∧ ∀ r ∈ st.reports, r.selected ≠ buffer := by
  rcases h.flags with ⟨hflags, _⟩ | ⟨_, hout⟩
  · rw [h.reused_iff.mpr hflags] at hnew
    cases hnew
  · exact hout

theorem Picked.found {st : State Buffer} {buffer : Buffer} (h : Picked st buffer)
    {t : TplBuffer Buffer}
    (hfind : bufferCacheFind st.bufferCache (st.render buffer).boName = some t) :
    t ∈ st.bufferCache ∧ t.data = buffer ∧ Describes st.render t := by
  have hmem := List.mem_of_find?_eq_some hfind
  have hkey : t.key = (st.render buffer).boName := by
    simpa using List.find?_some hfind
  obtain ⟨hdescribes, hslot | ⟨_, hold⟩⟩ := h.entries t hmem
  · have hname : (st.render t.data).boName = (st.render buffer).boName := by
      rw [← hdescribes.key, hkey]
    exact ⟨hmem, h.slots.names t.data buffer hslot h.held hname, hdescribes⟩
  · rw [hkey] at hold
    exact absurd hold (h.apart buffer h.held)

theorem inv_found {st : State Buffer} {buffer : Buffer} (h : Picked st buffer)
    (hreused : dri2BufferIsReused (st.render buffer).flags = true) {t : TplBuffer Buffer}
    (hfind : bufferCacheFind st.bufferCache (st.render buffer).boName = some t)
    (surfaceSize : Int × Int) :
    Inv ({ st with
      bufferCache := setAge (st.render buffer).boName (st.window.memory buffer).bufferAge
        st.bufferCache }.report buffer surfaceSize
      (some { t with age := (st.window.memory buffer).bufferAge }) true) := by
  obtain ⟨hmem, hdata, hdescribes⟩ := h.found hfind
  have hflags := h.reused_iff.mp hreused
  have hzero : (st.render buffer).oldBoName = 0 := by
    rcases h.flags with ⟨_, hzero⟩ | ⟨hnew, _⟩
    · exact hzero
    · rw [hnew] at hflags
      exact absurd hflags (by decide)
  have hentry : ∀ t ∈ st.bufferCache,
      some t.data ∈ st.window.drawable.buffers ∧ Describes st.render t := by
    intro t ht
    obtain ⟨hdescribes, hslot | ⟨hne, _⟩⟩ := h.entries t ht
    · exact ⟨hslot, hdescribes⟩
    · exact absurd hzero hne
  have hkept : ∀ b, (∃ t ∈ st.bufferCache, t.data = b) →
      ∃ t ∈ setAge (st.render buffer).boName (st.window.memory buffer).bufferAge st.bufferCache,
        t.data = b := by
    intro b hb
    rw [← List.mem_map] at hb ⊢
    rw [map_setAge TplBuffer.data _ _ _ fun _ => rfl]
    exact hb
  have hexact : ExactAge st.frames buffer (st.window.memory buffer).bufferAge :=
    h.slots.ages buffer h.held
  refine inv_report ?_ surfaceSize _ true (.inl (hkept buffer ⟨t, hmem, hdata⟩)) ?_
  · exact
      { slots := h.slots.congr rfl rfl (fun _ => rfl) (fun _ => rfl) rfl rfl
        held := h.held
        waiting := h.waiting
        selected := h.selected
        oldBoName := by
          intro b hb
          by_cases hself : b = buffer
          · rw [hself]
            exact hzero
          · exact h.oldBoName b hb hself
        entries := by
          intro t' ht'
          obtain ⟨t₀, ht₀, rfl | rfl⟩ := mem_setAge ht'
          · exact hentry t' ht₀
          · exact ⟨(hentry t₀ ht₀).1, ⟨(hentry t₀ ht₀).2.key, (hentry t₀ ht₀).2.width,
              (hentry t₀ ht₀).2.height⟩⟩
        keys := by
          show ((setAge _ _ st.bufferCache).map TplBuffer.key).Nodup
          rw [map_setAge TplBuffer.key _ _ _ fun _ => rfl]
          exact h.keys
        known := fun b hb hne => h.known b hb (.inl hne)
        stored := by
          intro b hb hne
          rcases h.stored b hb (.inl hne) with hcached | hlost
          · exact .inl (hkept b hcached)
          · exact .inr hlost
        history := h.history }
  · intro r hr
    obtain rfl := Option.some.inj hr
    refine ⟨?_, ?_, ?_, ?_, ?_, ?_⟩
    · intro t' ht'
      obtain rfl := Option.some.inj ht'
      exact hdata
    · intro t' ht'
      obtain rfl := Option.some.inj ht'
      show (t.width, t.height) = (st.window.drawable.width, st.window.drawable.height)
      rw [hdescribes.width, hdescribes.height, hdata, h.size.1, h.size.2]
    · intro t' ht' hne
      obtain rfl := Option.some.inj ht'
      exact hexact.eq_of_ne_zero hne
    · intro hnew
      have hnew' : dri2BufferIsReused (st.render buffer).flags = false := hnew
      rw [hreused] at hnew'
      cases hnew'
    · intro _
      exact h.known buffer h.held (.inr hreused)
    · intro _ _ t' ht'
      obtain rfl := Option.some.inj ht'
      exact hexact

theorem uncache_render (st : State Buffer) (buffer b : Buffer) :
    ∃ oldBoName, (st.uncache buffer).render b = { st.render b with oldBoName := oldBoName } := by
  unfold State.uncache
  dsimp only
  split
  · dsimp only
    rcases eq_or_ne b buffer with rfl | hne
    · rw [Function.update_self]
      exact ⟨0, rfl⟩
    · rw [Function.update_of_ne hne]
      exact ⟨(st.render b).oldBoName, rfl⟩
  · exact ⟨(st.render b).oldBoName, rfl⟩

theorem uncache_frame (st : State Buffer) (buffer : Buffer) :
    (st.uncache buffer).window = st.window ∧ (st.uncache buffer).allocated = st.allocated ∧
      (st.uncache buffer).frames = st.frames ∧ (st.uncache buffer).reports = st.reports := by
  unfold State.uncache
  dsimp only
  split
  · exact ⟨rfl, rfl, rfl, rfl⟩
  · exact ⟨rfl, rfl, rfl, rfl⟩

theorem uncache_oldBoName (st : State Buffer) (buffer b : Buffer) :
    ((st.uncache buffer).render b).oldBoName =
      if b = buffer then 0 else (st.render b).oldBoName := by
  unfold State.uncache
  dsimp only
  split
  · dsimp only
    split
    · rename_i hself
      rw [hself, Function.update_self]
    · rename_i hne
      rw [Function.update_of_ne hne]
  · rename_i hzero
    split
    · rename_i hself
      rw [hself]
      exact not_not.mp hzero
    · rfl

theorem mem_uncache {st : State Buffer} {buffer : Buffer}
    (hkeys : (st.bufferCache.map TplBuffer.key).Nodup) {t : TplBuffer Buffer} :
    t ∈ (st.uncache buffer).bufferCache ↔
      t ∈ st.bufferCache ∧ t.key ≠ (st.render buffer).boName ∧
        ((st.render buffer).oldBoName ≠ 0 → t.key ≠ (st.render buffer).oldBoName) := by
  unfold State.uncache
  dsimp only
  split
  · rename_i hne
    rw [mem_bufferCacheRemove (nodup_bufferCacheRemove hkeys _), mem_bufferCacheRemove hkeys]
    constructor
    · rintro ⟨⟨ht, hname⟩, hold⟩
      exact ⟨ht, hname, fun _ => hold⟩
    · rintro ⟨ht, hname, hold⟩
      exact ⟨⟨ht, hname⟩, hold hne⟩
  · rename_i hzero
    rw [mem_bufferCacheRemove hkeys]
    constructor
    · rintro ⟨ht, hname⟩
      exact ⟨ht, hname, fun hne => absurd hne hzero⟩
    · rintro ⟨ht, hname, _⟩
      exact ⟨ht, hname⟩

theorem nodup_uncache {st : State Buffer} (buffer : Buffer)
    (hkeys : (st.bufferCache.map TplBuffer.key).Nodup) :
    ((st.uncache buffer).bufferCache.map TplBuffer.key).Nodup := by
  unfold State.uncache
  dsimp only
  split
  · exact nodup_bufferCacheRemove (nodup_bufferCacheRemove hkeys _) _
  · exact nodup_bufferCacheRemove hkeys _

theorem describes_uncache {st : State Buffer} {buffer : Buffer} {t : TplBuffer Buffer} :
    Describes (st.uncache buffer).render t ↔ Describes st.render t := by
  obtain ⟨oldBoName, hrender⟩ := uncache_render st buffer t.data
  constructor
  · rintro ⟨hkey, hwidth, hheight⟩
    rw [hrender] at hkey hwidth hheight
    exact ⟨hkey, hwidth, hheight⟩
  · rintro ⟨hkey, hwidth, hheight⟩
    constructor
    · rw [hrender]
      exact hkey
    · rw [hrender]
      exact hwidth
    · rw [hrender]
      exact hheight

theorem ready_uncache {st : State Buffer} {buffer : Buffer} (h : Picked st buffer) :
    Ready (st.uncache buffer) buffer := by
  obtain ⟨hwindow, hallocated, hframes, hreports⟩ := uncache_frame st buffer
  refine
    { slots := h.slots.congr ?_ ?_ ?_ (fun b => ?_) hallocated hframes
      held := ?_
      waiting := ?_
      selected := ?_
      oldBoName := ?_
      entries := ?_
      keys := nodup_uncache buffer h.keys
      known := ?_
      stored := ?_
      history := ?_ }
  · rw [hwindow]
  · rw [hwindow]
  · rw [hwindow]
    exact fun _ => rfl
  · obtain ⟨oldBoName, hrender⟩ := uncache_render st buffer b
    rw [hrender]
  · rw [hwindow]
    exact h.held
  · rw [hwindow, hallocated]
    exact h.waiting
  · rw [hreports, hallocated]
    exact h.selected
  · intro b hb
    rw [hwindow] at hb
    rw [uncache_oldBoName]
    split
    · rfl
    · rename_i hne
      exact h.oldBoName b hb hne
  · intro t ht
    obtain ⟨hmem, _, hold⟩ := (mem_uncache h.keys).mp ht
    rw [hwindow, describes_uncache]
    obtain ⟨hdescribes, hslot | ⟨hne, hkey⟩⟩ := h.entries t hmem
    · exact ⟨hslot, hdescribes⟩
    · exact absurd hkey (hold hne)
  · intro b hb hne
    rw [hwindow] at hb
    rw [hreports]
    exact h.known b hb (.inl hne)
  · intro b hb hne
    rw [hwindow] at hb
    rw [hreports]
    rcases h.stored b hb (.inl hne) with ⟨t, ht, rfl⟩ | hlost
    · have hkey := (h.entries t ht).1.key
      refine .inl ⟨t, (mem_uncache h.keys).mpr ⟨ht, ?_, ?_⟩, rfl⟩
      · intro hname
        rw [hkey] at hname
        exact hne (h.slots.names t.data buffer hb h.held hname)
      · intro _ hold
        rw [hkey] at hold
        exact h.apart t.data hb hold
    · exact .inr hlost
  · rw [hreports]
    exact h.history

theorem ready_bufferCacheAdd {st : State Buffer} {buffer : Buffer} (h : Ready st buffer)
    (tplBuffer : TplBuffer Buffer) (hdata : tplBuffer.data = buffer)
    (hdescribes : Describes st.render tplBuffer)
    (hother : ∀ t ∈ st.bufferCache, t.key ≠ tplBuffer.key) (pushed : Bool) :
    Ready { st with bufferCache := bufferCacheAdd st.bufferCache tplBuffer pushed } buffer ∧
      (pushed = true → tplBuffer ∈ bufferCacheAdd st.bufferCache tplBuffer pushed) := by
  have hroom : ¬ tplBufferCacheMaxEntries ≤ st.bufferCache.length := by
    have hlength := length_le_maxBack h.slots h.entries h.keys
    have hmax : st.window.maxBack < 20 := h.slots.maxBack
    show ¬ 40 ≤ st.bufferCache.length
    omega
  cases pushed with
  | false =>
      have hadd : bufferCacheAdd st.bufferCache tplBuffer false = st.bufferCache := by
        simp [bufferCacheAdd, hroom]
      rw [hadd]
      refine ⟨h, fun hpushed => ?_⟩
      cases hpushed
  | true =>
      have hadd : bufferCacheAdd st.bufferCache tplBuffer true =
          st.bufferCache ++ [tplBuffer] := by
        simp [bufferCacheAdd, hroom]
      rw [hadd]
      refine ⟨?_, fun _ => List.mem_append_right _ List.mem_cons_self⟩
      exact
        { slots := h.slots.congr rfl rfl (fun _ => rfl) (fun _ => rfl) rfl rfl
          held := h.held
          waiting := h.waiting
          selected := h.selected
          oldBoName := h.oldBoName
          entries := by
            intro t ht
            rcases List.mem_append.mp ht with hold | hnew
            · exact h.entries t hold
            · obtain rfl := List.mem_singleton.mp hnew
              refine ⟨?_, hdescribes⟩
              rw [hdata]
              exact h.held
          keys := by
            rw [List.map_append, List.map_singleton]
            refine h.keys.append (List.nodup_singleton _) ?_
            intro key hkey hsame
            obtain ⟨t, ht, rfl⟩ := List.mem_map.mp hkey
            exact hother t ht (List.mem_singleton.mp hsame)
          known := h.known
          stored := by
            intro b hb hne
            rcases h.stored b hb hne with ⟨t, ht, hsame⟩ | hlost
            · exact .inl ⟨t, List.mem_append_left _ ht, hsame⟩
            · exact .inr hlost
          history := h.history }

theorem inv_wrapAnew {st : State Buffer} {buffer : Buffer} (h : Picked st buffer)
    (hmissed : dri2BufferIsReused (st.render buffer).flags = true →
      bufferCacheFind st.bufferCache (st.render buffer).boName = none)
    (call : Call Buffer) : Inv (wrapAnew st buffer call) := by
  obtain ⟨oldBoName, hrender⟩ := uncache_render st buffer buffer
  obtain ⟨hwindow, _, hframes, hreports⟩ := uncache_frame st buffer
  have hready := ready_uncache h
  have hnew : dri2BufferIsReused ((st.uncache buffer).render buffer).flags = false →
      buffer ∉ (st.uncache buffer).frames ∧
        ∀ r ∈ (st.uncache buffer).reports, r.selected ≠ buffer := by
    rw [hrender, hframes, hreports]
    exact h.new
  have hknown : dri2BufferIsReused ((st.uncache buffer).render buffer).flags = true →
      ∃ r ∈ (st.uncache buffer).reports, r.selected = buffer := by
    rw [hrender, hreports]
    exact fun hreused => h.known buffer h.held (.inr hreused)
  have hlost : dri2BufferIsReused ((st.uncache buffer).render buffer).flags = true →
      ∃ r ∈ (st.uncache buffer).reports, r.selected = buffer ∧ r.stored = false := by
    rw [hrender, hreports]
    intro hreused
    rcases h.stored buffer h.held (.inr hreused) with ⟨t, ht, rfl⟩ | hlost
    · exact absurd (hmissed hreused) (find_of_data ht (h.entries t ht).1.key)
    · exact hlost
  unfold wrapAnew
  dsimp only
  split
  · have hage : dri2BufferGetAge ((st.uncache buffer).render buffer).flags = 0 := by
      rw [hrender]
      exact h.getAge
    have hother : ∀ t ∈ (st.uncache buffer).bufferCache,
        t.key ≠ ((st.uncache buffer).render buffer).boName := by
      rw [hrender]
      exact fun t ht => ((mem_uncache h.keys).mp ht).2.1
    have hadd := ready_bufferCacheAdd hready
      { key := ((st.uncache buffer).render buffer).boName
        age := dri2BufferGetAge ((st.uncache buffer).render buffer).flags
        width := ((st.uncache buffer).render buffer).width
        height := ((st.uncache buffer).render buffer).height
        data := buffer } rfl ⟨rfl, rfl, rfl⟩ hother call.pushed
    refine inv_report hadd.1 call.surfaceSize _ call.pushed ?_ ?_
    · cases hpushed : call.pushed with
      | false => exact .inr rfl
      | true =>
          rw [hpushed] at hadd
          exact .inl ⟨_, hadd.2 rfl, rfl⟩
    · intro r hr
      obtain rfl := Option.some.inj hr
      refine ⟨?_, ?_, ?_, hnew, hknown, ?_⟩
      · intro t ht
        obtain rfl := Option.some.inj ht
        rfl
      · intro t ht
        obtain rfl := Option.some.inj ht
        show (((st.uncache buffer).render buffer).width,
          ((st.uncache buffer).render buffer).height) = _
        rw [hrender, hwindow, h.size.1, h.size.2]
      · intro t ht hne
        obtain rfl := Option.some.inj ht
        exact absurd hage hne
      · intro hreused hall
        obtain ⟨r, hr, hsame, hout⟩ := hlost hreused
        rw [hall r hr hsame] at hout
        cases hout
  · refine inv_report hready call.surfaceSize none false (.inr rfl) ?_
    intro r hr
    obtain rfl := Option.some.inj hr
    refine ⟨?_, ?_, ?_, hnew, hknown, ?_⟩
    · intro t ht
      cases ht
    · intro t ht
      cases ht
    · intro t ht
      cases ht
    · intro _ _ t ht
      cases ht

theorem inv_wrapBuffer {st : State Buffer} {buffer : Buffer} (h : Picked st buffer)
    (call : Call Buffer) : Inv (wrapBuffer st buffer call) := by
  unfold wrapBuffer
  dsimp only
  split
  · rename_i t hfound
    split at hfound
    · rename_i hreused
      exact inv_found h hreused hfound call.surfaceSize
    · cases hfound
  · rename_i hfound
    refine inv_wrapAnew h (fun hreused => ?_) call
    rw [if_pos hreused] at hfound
    exact hfound

theorem fresh_iff {st : State Buffer} {new : Alloc Buffer} :
    st.fresh new = true ↔ new.buffer ∉ st.allocated ∧ new.boName ≠ 0 ∧
      ∀ b, some b ∈ st.window.drawable.buffers →
        (st.render b).boName ≠ new.boName ∧ (st.window.memory b).pixmap ≠ new.pixmap := by
  unfold State.fresh
  rw [Bool.and_eq_true, Bool.and_eq_true, decide_eq_true_eq, decide_eq_true_eq, List.all_eq_true,
    and_assoc]
  have hmem : ∀ b, b ∈ st.window.drawable.buffers.filterMap id ↔
      some b ∈ st.window.drawable.buffers := by
    intro b
    simp
  simp only [hmem, Bool.and_eq_true, decide_eq_true_eq]

theorem hand_render_self (st : State Buffer) (backbuffer : Buffer) (reuse : Bool) :
    (st.hand backbuffer reuse).render backbuffer =
      { st.render backbuffer with
        flags := if reuse then dri2BufferFb ||| dri2BufferReused else dri2BufferFb } := by
  show Function.update st.render backbuffer _ backbuffer = _
  rw [Function.update_self]

omit [DecidableEq Buffer] in
theorem fits_iff {st : State Buffer} {buffer : Buffer} : st.fits buffer = true ↔
    (st.render buffer).width = st.window.drawable.width ∧
      (st.render buffer).height = st.window.drawable.height := by
  unfold State.fits
  rw [Bool.and_eq_true, decide_eq_true_eq, decide_eq_true_eq]

theorem picked_reuse {st : State Buffer} (h : Inv st) {backbuffer : Buffer}
    (hheld : some backbuffer ∈ st.window.drawable.buffers) (hfits : st.fits backbuffer = true) :
    Picked (st.hand backbuffer true) backbuffer := by
  have hinv := (unmoved_hand st backbuffer true).inv h h.waiting
  have hself := hand_render_self st backbuffer true
  have hzero := hinv.oldBoName backbuffer hheld
  exact
    { slots := hinv.slots
      held := hheld
      waiting := hinv.waiting
      selected := hinv.selected
      size := by
        rw [hself]
        exact fits_iff.mp hfits
      flags := by
        refine .inl ⟨?_, hzero⟩
        rw [hself]
        rfl
      oldBoName := fun b hb _ => hinv.oldBoName b hb
      apart := by
        intro b hb
        rw [hzero]
        exact hinv.slots.named b hb
      entries := fun t ht => ⟨(hinv.entries t ht).2, .inl (hinv.entries t ht).1⟩
      keys := hinv.keys
      known := fun b hb _ => hinv.known b hb
      stored := fun b hb _ => hinv.stored b hb
      history := hinv.history }

theorem mem_install {st : State Buffer} {backBufId : Nat} {new : Alloc Buffer}
    {oldBoName : BitVec 32} {b : Buffer}
    (hb : some b ∈ (st.install backBufId new oldBoName).window.drawable.buffers) :
    b = new.buffer ∨ ∃ i, i ≠ backBufId ∧ st.window.drawable.buffers[i]? = some (some b) := by
  obtain ⟨i, hi⟩ := List.mem_iff_getElem?.mp hb
  have hset : (st.window.drawable.buffers.set backBufId (some new.buffer))[i]? = some (some b) := hi
  rw [List.getElem?_set] at hset
  split at hset
  · split at hset
    · exact .inl (Option.some.inj (Option.some.inj hset)).symm
    · cases hset
  · rename_i hne
    exact .inr ⟨i, Ne.symm hne, hset⟩

theorem install_render_self (st : State Buffer) (backBufId : Nat) (new : Alloc Buffer)
    (oldBoName : BitVec 32) : (st.install backBufId new oldBoName).render new.buffer =
      ⟨new.boName, st.window.drawable.width, st.window.drawable.height, 0, oldBoName⟩ := by
  show Function.update st.render new.buffer _ new.buffer = _
  rw [Function.update_self]

theorem install_of_ne (st : State Buffer) (backBufId : Nat) (new : Alloc Buffer)
    (oldBoName : BitVec 32) {b : Buffer} (hne : b ≠ new.buffer) :
    (st.install backBufId new oldBoName).render b = st.render b ∧
      (st.install backBufId new oldBoName).window.memory b = st.window.memory b := by
  refine ⟨?_, ?_⟩
  · show Function.update st.render new.buffer _ b = _
    rw [Function.update_of_ne hne]
  · show Function.update st.window.memory new.buffer _ b = _
    rw [Function.update_of_ne hne]

theorem slots_install {st : State Buffer} (h : Slots st) {backBufId : Nat}
    (hid : backBufId < st.window.maxBack) {new : Alloc Buffer} (hfresh : st.fresh new = true)
    (oldBoName : BitVec 32) : Slots (st.install backBufId new oldBoName) := by
  obtain ⟨hout, hnamed, hapart⟩ := fresh_iff.mp hfresh
  have hself := install_render_self st backBufId new oldBoName
  have hother : ∀ b, some b ∈ (st.install backBufId new oldBoName).window.drawable.buffers →
      b ≠ new.buffer → some b ∈ st.window.drawable.buffers := by
    intro b hb hne
    rcases mem_install hb with hnew | ⟨i, _, hi⟩
    · exact absurd hnew hne
    · exact List.mem_of_getElem? hi
  refine
    { length := ?_
      maxBack := h.maxBack
      placed := h.placed.set hid fun hmem => hout (h.allocated new.buffer hmem)
      allocated := ?_
      frames := fun b hb => List.mem_cons_of_mem _ (h.frames b hb)
      ages := ?_
      names := ?_
      named := ?_ }
  · show (st.window.drawable.buffers.set backBufId (some new.buffer)).length = _
    rw [List.length_set]
    exact h.length
  · intro b hb
    rcases eq_or_ne b new.buffer with rfl | hne
    · exact List.mem_cons_self
    · exact List.mem_cons_of_mem _ (h.allocated b (hother b hb hne))
  · intro b hb
    rcases eq_or_ne b new.buffer with rfl | hne
    · have hage :
          ((st.install backBufId new oldBoName).window.memory new.buffer).bufferAge = 0 := by
        show (Function.update st.window.memory new.buffer _ new.buffer).bufferAge = 0
        rw [Function.update_self]
      rw [hage]
      exact .never fun hmem => hout (h.frames new.buffer hmem)
    · rw [(install_of_ne st backBufId new oldBoName hne).2]
      exact h.ages b (hother b hb hne)
  · intro b c hb hc hname
    rcases eq_or_ne b new.buffer with rfl | hne
    · rcases eq_or_ne c new.buffer with rfl | hne'
      · rfl
      · rw [hself, (install_of_ne st backBufId new oldBoName hne').1] at hname
        exact absurd hname.symm (hapart c (hother c hc hne')).1
    · rw [(install_of_ne st backBufId new oldBoName hne).1] at hname
      rcases eq_or_ne c new.buffer with rfl | hne'
      · rw [hself] at hname
        exact absurd hname (hapart b (hother b hb hne)).1
      · rw [(install_of_ne st backBufId new oldBoName hne').1] at hname
        exact h.names b c (hother b hb hne) (hother c hc hne') hname
  · intro b hb
    rcases eq_or_ne b new.buffer with rfl | hne
    · rw [hself]
      exact hnamed
    · rw [(install_of_ne st backBufId new oldBoName hne).1]
      exact h.named b (hother b hb hne)

theorem picked_install {st : State Buffer} (h : Inv st) {backBufId : Nat}
    (hid : backBufId < st.window.maxBack) {new : Alloc Buffer} (hfresh : st.fresh new = true)
    {oldBoName : BitVec 32}
    (hgone : ∀ b, st.window.drawable.buffers[backBufId]? = some (some b) →
      oldBoName = (st.render b).boName)
    (hapart : ∀ b i, i ≠ backBufId → st.window.drawable.buffers[i]? = some (some b) →
      (st.render b).boName ≠ oldBoName) (hnew : new.boName ≠ oldBoName) :
    Picked ((st.install backBufId new oldBoName).hand new.buffer false) new.buffer := by
  obtain ⟨hout, hnamed, hnames⟩ := fresh_iff.mp hfresh
  have hmoved := unmoved_hand (st.install backBufId new oldBoName) new.buffer false
  have hrender : ((st.install backBufId new oldBoName).hand new.buffer false).render new.buffer =
      ⟨new.boName, st.window.drawable.width, st.window.drawable.height, dri2BufferFb,
        oldBoName⟩ := by
    rw [hand_render_self, install_render_self]
    rfl
  have hroom : backBufId < st.window.drawable.buffers.length := by
    rw [h.slots.length]
    exact Nat.lt_trans hid h.slots.maxBack
  have hheld : some new.buffer ∈ (st.install backBufId new oldBoName).window.drawable.buffers :=
    List.mem_set hroom _
  have hdata : ∀ t ∈ st.bufferCache, t.data ≠ new.buffer := by
    intro t ht hsame
    exact hout (hsame ▸ h.slots.allocated t.data (h.entries t ht).1)
  have hflags : dri2BufferIsReused
      (((st.install backBufId new oldBoName).hand new.buffer false).render
        new.buffer).flags = false := by
    have hnone : dri2BufferIsReused dri2BufferFb = false := by decide
    rw [hrender]
    exact hnone
  have hold : ∀ b, some b ∈ (st.install backBufId new oldBoName).window.drawable.buffers →
      b ≠ new.buffer ∨ dri2BufferIsReused
        (((st.install backBufId new oldBoName).hand new.buffer false).render
          new.buffer).flags = true → some b ∈ st.window.drawable.buffers := by
    intro b hb hne
    rcases mem_install hb with rfl | ⟨i, _, hi⟩
    · rcases hne with hne | hreused
      · exact absurd rfl hne
      · rw [hflags] at hreused
        cases hreused
    · exact List.mem_of_getElem? hi
  refine
    { slots := hmoved.slots (slots_install h.slots hid hfresh oldBoName)
      held := hheld
      waiting := fun swap hswap => List.mem_cons_of_mem _ (h.waiting swap hswap)
      selected := fun r hr => List.mem_cons_of_mem _ (h.selected r hr)
      size := ?_
      flags := ?_
      oldBoName := ?_
      apart := ?_
      entries := ?_
      keys := h.keys
      known := fun b hb hne => h.known b (hold b hb hne)
      stored := fun b hb hne => h.stored b (hold b hb hne)
      history := h.history }
  · rw [hrender]
    exact ⟨rfl, rfl⟩
  · refine .inr ⟨?_, fun hmem => hout (h.slots.frames _ hmem), fun r hr hsame => ?_⟩
    · rw [hrender]
    · exact hout (hsame ▸ h.selected r hr)
  · intro b hb hne
    rw [hmoved.oldBoName, (install_of_ne st backBufId new oldBoName hne).1]
    exact h.oldBoName b (hold b hb (.inl hne))
  · intro b hb
    have hmem : some b ∈ (st.install backBufId new oldBoName).window.drawable.buffers := hb
    rw [hrender, hmoved.boName]
    rcases mem_install hmem with rfl | ⟨i, hi, hslot⟩
    · rw [install_render_self]
      exact hnew
    · have hne : b ≠ new.buffer := by
        rintro rfl
        exact hout (h.slots.allocated _ (List.mem_of_getElem? hslot))
      rw [(install_of_ne st backBufId new oldBoName hne).1]
      exact hapart b i hi hslot
  · intro t ht
    have hne := hdata t ht
    obtain ⟨hslot, hdescribes⟩ := h.entries t ht
    refine ⟨hmoved.describes ?_, ?_⟩
    · exact hdescribes.congr (install_of_ne st backBufId new oldBoName hne).1.symm
    · rw [hrender]
      obtain ⟨i, hi⟩ := List.mem_iff_getElem?.mp hslot
      rcases eq_or_ne i backBufId with rfl | hother
      · have hgone' := hgone t.data hi
        refine .inr ⟨?_, ?_⟩
        · rw [hgone']
          exact h.slots.named t.data hslot
        · rw [hgone']
          exact hdescribes.key
      · refine .inl (List.mem_iff_getElem?.mpr ⟨i, ?_⟩)
        show (st.window.drawable.buffers.set backBufId (some new.buffer))[i]? = _
        rw [List.getElem?_set_ne (Ne.symm hother)]
        exact hi

theorem picked_of_getWindowBuffer {st st' : State Buffer} (h : Inv st) {backBufId : Nat}
    (hid : backBufId < st.window.maxBack) {alloc : Option (Alloc Buffer)}
    (hfresh : ∀ new ∈ alloc, st.fresh new = true) {buffer : Buffer}
    (hget : getWindowBuffer st backBufId alloc = some (buffer, st')) : Picked st' buffer := by
  unfold getWindowBuffer at hget
  cases hslot : st.slot backBufId with
  | some backbuffer =>
      have hat := getElem?_of_slot hslot
      have hheld := List.mem_of_getElem? hat
      simp only [hslot] at hget
      split at hget
      · rename_i hfits
        obtain ⟨rfl, rfl⟩ := Prod.mk.inj (Option.some.inj hget)
        exact picked_reuse h hheld hfits
      · obtain ⟨new, halloc, hnew⟩ := Option.map_eq_some_iff.mp hget
        obtain ⟨rfl, rfl⟩ := Prod.mk.inj hnew
        refine picked_install h hid (hfresh new halloc) ?_ ?_ ?_
        · intro b hb
          rw [hat] at hb
          obtain rfl := Option.some.inj (Option.some.inj hb)
          rfl
        · intro b i hne hi hname
          have hsame := h.slots.names b backbuffer (List.mem_of_getElem? hi) hheld hname
          rw [hsame] at hi
          exact hne (h.slots.placed.distinct i backBufId backbuffer hi hat)
        · exact Ne.symm ((fresh_iff.mp (hfresh new halloc)).2.2 backbuffer hheld).1
  | none =>
      simp only [hslot] at hget
      obtain ⟨new, halloc, hnew⟩ := Option.map_eq_some_iff.mp hget
      obtain ⟨rfl, rfl⟩ := Prod.mk.inj hnew
      refine picked_install h hid (hfresh new halloc) ?_ ?_ ?_
      · intro b hb
        rw [State.slot, List.getD_eq_getElem?_getD, hb] at hslot
        cases hslot
      · intro b i _ hi
        exact h.slots.named b (List.mem_of_getElem? hi)
      · exact (fresh_iff.mp (hfresh new halloc)).2.1

theorem inv_surfaceGetBuffer {st : State Buffer} (h : Inv st) {call : Call Buffer}
    (hid : call.backBufId < st.window.maxBack)
    (hfresh : ∀ new ∈ call.alloc, st.fresh new = true) : Inv (surfaceGetBuffer st call) := by
  unfold surfaceGetBuffer
  split
  · rename_i buffer st' hget
    exact inv_wrapBuffer (picked_of_getWindowBuffer h hid hfresh hget) call
  · exact
      { slots := h.slots.congr rfl rfl (fun _ => rfl) (fun _ => rfl) rfl rfl
        waiting := h.waiting
        selected := h.selected
        oldBoName := h.oldBoName
        entries := h.entries
        keys := h.keys
        known := h.known
        stored := h.stored
        history := h.history }

theorem inv_step {st st' : State Buffer} {l : Label Buffer} (h : Inv st)
    (hstep : step st l = some st') : Inv st' := by
  unfold step at hstep
  split at hstep
  · cases hstep
  · cases l with
    | findBackRound preId =>
        obtain rfl := Option.some.inj hstep
        exact inv_findBackRound h preId
    | getBuffer call =>
        dsimp only at hstep
        split at hstep
        · rename_i hcall
          obtain rfl := Option.some.inj hstep
          refine inv_surfaceGetBuffer h hcall.1 fun new hnew => ?_
          have hfresh := hcall.2.2
          rw [hnew] at hfresh
          exact hfresh
        · cases hstep
    | pace l =>
        dsimp only at hstep
        split at hstep
        · rename_i hgiven
          obtain ⟨window, hwindow, rfl⟩ := Option.map_eq_some_iff.mp hstep
          exact inv_pace h hgiven hwindow
        · cases hstep

end

def twoBuffers : State Nat :=
  newSurface
    { isPixmap := false, width := 8, height := 8, swapInterval := 0, flipping := false
      sendSbc := 0, recvSbc := 0, ust := 0, msc := 0, recvMscSerial := 0, buffers := []
      stamp := 0 }
    (fun _ => ⟨0, .idle, 0, 0⟩) (fun _ => ⟨0, 0, 0, 0, 0⟩) (some 1)

def getBuffer (backBufId : Nat) (alloc : Option (Alloc Nat)) : Label Nat :=
  .getBuffer ⟨backBufId, alloc, true, true, (8, 8)⟩

end LibtplEgl.Dri3BufferAge
