import LibtplEgl.BufferReferences
import LibtplEgl.PresentationOrder

namespace LibtplEgl.BufferOwnership

open LibtplEgl.BufferReferences (count_append_singleton count_erase_add)
open LibtplEgl.LabelledSystem
open LibtplEgl.PresentationOrder (Backend VblankQueue)
open LibtplEgl.TplTypes

universe u

inductive Owner
  | free
  | client
  | dirty
  | worker
  deriving DecidableEq, Repr

/-- `lost` is a buffer that a failing dequeue has taken. -/
inductive ClientStage
  | taken
  | returned
  | enqueuing
  | lost
  deriving DecidableEq, Repr

inductive WorkerStage
  | acquired
  | drawn
  | committed
  deriving DecidableEq, Repr

/-- A `tpl_wayland_vk_wsi_buffer_t`. -/
structure BufferRecord where
  waitSync : Int
  syncTimestamp : UInt32
  deriving DecidableEq, Repr

/-- A write to the record of `buffer`, and in which states the buffer was then. -/
structure Write (Buffer : Type u) where
  party : Owner
  buffer : Buffer
  owners : List Owner
  deriving DecidableEq, Repr

/-- A `*sync_fence` of a dequeue: the timestamp that `tbm_sync_fence_create` is called
with, `none` for -1, and how often the buffer had been committed then. -/
structure FenceRequest (Buffer : Type u) where
  buffer : Buffer
  timestamp : Option UInt32
  commits : Nat
  deriving DecidableEq, Repr

/-- A live swapchain: its tbm queue, what the client and the worker have taken from it,
and the records. The last three fields record the run. -/
structure State (Buffer : Type u) where
  buffers : List Buffer
  freeList : List Buffer
  dirtyList : List Buffer
  client : List Buffer
  clientStage : Buffer → ClientStage
  worker : Option (Buffer × WorkerStage)
  presentModes : Nat
  queue : VblankQueue Buffer
  getBuffer : Buffer → Option BufferRecord
  refs : Buffer → Int
  closed : List Int
  committed : List Buffer
  writes : List (Write Buffer)
  fences : List (FenceRequest Buffer)

inductive Label (Buffer : Type u)
  | dequeueTake
  | dequeueReturn (b : Buffer) (withFence created : Bool)
  | enqueueWaitSync (b : Buffer) (syncFence : Int)
  | enqueuePush (b : Buffer)
  | acquire
  | drawDone (allocated : Bool)
  | commitBuffer
  | queueRelease
  | bufferRelease (b : Buffer)
  deriving DecidableEq, Repr

section

variable {Buffer : Type u}

def State.inState (st : State Buffer) : Owner → List Buffer
  | .free => st.freeList
  | .client => st.client
  | .dirty => st.dirtyList
  | .worker => (st.worker.map Prod.fst).toList

variable [DecidableEq Buffer]

def State.owners (st : State Buffer) (b : Buffer) : List Owner :=
  [Owner.free, .client, .dirty, .worker].flatMap fun owner =>
    List.replicate ((st.inState owner).count b) owner

def State.ref (st : State Buffer) (b : Buffer) : State Buffer :=
  { st with refs := Function.update st.refs b (st.refs b + 1) }

def State.unref (st : State Buffer) (b : Buffer) : State Buffer :=
  { st with refs := Function.update st.refs b (st.refs b - 1) }

def State.write (st : State Buffer) (party : Owner) (b : Buffer) (record : BufferRecord) :
    State Buffer :=
  { st with
    getBuffer := Function.update st.getBuffer b (some record)
    writes := ⟨party, b, st.owners b⟩ :: st.writes }

/-- `tbm_surface_queue_dequeue` in `__tpl_wayland_vk_wsi_surface_dequeue_buffer`. -/
def State.dequeueTake (st : State Buffer) : Option (State Buffer) :=
  match st.freeList with
  | [] => none
  | b :: rest =>
      some { st with
        freeList := rest
        client := st.client ++ [b]
        clientStage := Function.update st.clientStage b .taken }

/-- The rest of `__tpl_wayland_vk_wsi_surface_dequeue_buffer`; `created` says that the
record of a new buffer can be made. -/
def State.dequeueReturn (st : State Buffer) (b : Buffer) (withFence created : Bool) :
    State Buffer :=
  let st := st.ref b
  match st.getBuffer b with
  | some record =>
      let st := { st with clientStage := Function.update st.clientStage b .returned }
      if withFence then
        let timestamp := if record.syncTimestamp ≠ 0 then some record.syncTimestamp else none
        { st with fences := ⟨b, timestamp, st.committed.count b⟩ :: st.fences }
      else st
  | none =>
      if created = false then
        { st.unref b with clientStage := Function.update st.clientStage b .lost }
      else
        { st.write .client b ⟨0, 0⟩ with
          clientStage := Function.update st.clientStage b .returned }

/-- `__tpl_wayland_vk_wsi_surface_enqueue_buffer` up to `tbm_surface_queue_enqueue`;
`none` is a failed assertion. -/
def State.enqueueWaitSync (st : State Buffer) (b : Buffer) (syncFence : Int) :
    Option (State Buffer) :=
  match st.getBuffer b with
  | none => none
  | some record =>
      some { (st.unref b).write .client b { record with waitSync := syncFence } with
        clientStage := Function.update st.clientStage b .enqueuing }

/-- `tbm_surface_queue_enqueue`. -/
def State.enqueuePush (st : State Buffer) (b : Buffer) : State Buffer :=
  { st with
    client := st.client.erase b
    dirtyList := st.dirtyList ++ [b] }

/-- `tbm_surface_queue_acquire` in `__tpl_worker_prepare_draw_wait_buffer`. -/
def State.acquire (st : State Buffer) : Option (State Buffer) :=
  match st.dirtyList with
  | [] => none
  | b :: rest => some { st with dirtyList := rest, worker := some (b, .acquired) }

/-- `__tpl_wayland_vk_wsi_process_draw_done` up to `commit_buffer`; `none` is a failed
assertion. -/
def State.drawDone (st : State Buffer) (b : Buffer) (allocated : Bool) : Option (State Buffer) :=
  match st.getBuffer b with
  | none => none
  | some record =>
      let st := { st.write .worker b { record with waitSync := -1 } with
        closed := record.waitSync :: st.closed }
      let (sent, queue) :=
        (Backend.waylandVulkanWsi st.presentModes).drawDone st.queue b allocated
      if sent then some { st with queue := queue, worker := some (b, .drawn) }
      else some { st.ref b with queue := queue, worker := none }

/-- `__tpl_wayland_vk_wsi_surface_commit_buffer` up to `tbm_surface_queue_release`; `none`
is a failed assertion. -/
def State.commitBuffer (st : State Buffer) (b : Buffer) : Option (State Buffer) :=
  match st.getBuffer b with
  | none => none
  | some record =>
      some { (st.ref b).write .worker b { record with syncTimestamp := record.syncTimestamp + 1 } with
        committed := st.committed ++ [b]
        worker := some (b, .committed) }

/-- `tbm_surface_queue_release`. -/
def State.queueRelease (st : State Buffer) (b : Buffer) : State Buffer :=
  { st with worker := none, freeList := st.freeList ++ [b] }

/-- `__cb_client_buffer_release_callback`. -/
def State.bufferReleaseCallback (st : State Buffer) (b : Buffer) : State Buffer :=
  match st.getBuffer b with
  | none => st
  | some _ => st.unref b

/-- One step. The tbm queue takes a buffer from the client only when it has given it out,
and the worker acquires a buffer when it has sent the one before. -/
def step (st : State Buffer) : Label Buffer → Option (State Buffer)
  | .dequeueTake => st.dequeueTake
  | .dequeueReturn b withFence created =>
      if b ∈ st.client ∧ st.clientStage b = .taken then
        some (st.dequeueReturn b withFence created)
      else none
  | .enqueueWaitSync b syncFence =>
      if b ∈ st.client ∧ st.clientStage b = .returned then st.enqueueWaitSync b syncFence
      else none
  | .enqueuePush b =>
      if b ∈ st.client ∧ st.clientStage b = .enqueuing then some (st.enqueuePush b) else none
  | .acquire => if st.worker = none then st.acquire else none
  | .drawDone allocated =>
      match st.worker with
      | some (b, .acquired) => st.drawDone b allocated
      | _ => none
  | .commitBuffer =>
      match st.worker with
      | some (b, .drawn) => st.commitBuffer b
      | _ => none
  | .queueRelease =>
      match st.worker with
      | some (b, .committed) => some (st.queueRelease b)
      | _ => none
  | .bufferRelease b =>
      if (st.getBuffer b).isSome then some (st.bufferReleaseCallback b) else none

def newSwapchain (buffers : List Buffer) (presentModes : Nat) (mode : TplDisplayPresentMode)
    (vblankDone : Bool) : State Buffer where
  buffers := buffers
  freeList := buffers
  dirtyList := []
  client := []
  clientStage := fun _ => .returned
  worker := none
  presentModes := presentModes
  queue := ⟨mode, vblankDone, []⟩
  getBuffer := fun _ => none
  refs := fun _ => 0
  closed := []
  committed := []
  writes := []
  fences := []

def swapchainSystem : System (State Buffer) (Label Buffer) where
  Initial st := ∃ buffers presentModes mode vblankDone, buffers.Nodup ∧
    (Backend.waylandVulkanWsi presentModes).supports mode = true ∧
    st = newSwapchain buffers presentModes mode vblankDone
  step := step

/-- Every buffer of the queue is in one state, its record has been written by its holder
only, `sync_timestamp` counts its commits, and a dequeue asks for a fence at that
count. -/
structure Coherent (st : State Buffer) : Prop where
  single : ∀ b ∈ st.buffers, ∃ owner, st.owners b = [owner]
  writes : ∀ write ∈ st.writes, write.owners = [write.party]
  timestamp : ∀ b record, st.getBuffer b = some record → st.committed.count b < UInt32.size →
    record.syncTimestamp.toNat = st.committed.count b
  fences : ∀ fence ∈ st.fences, fence.commits < UInt32.size →
    fence.timestamp.map UInt32.toNat = if fence.commits = 0 then none else some fence.commits

structure Inv (st : State Buffer) : Prop where
  nodup : st.buffers.Nodup
  supports : (Backend.waylandVulkanWsi st.presentModes).supports st.queue.presentMode = true
  counts : ∀ x, st.freeList.count x + st.client.count x + st.dirtyList.count x +
    (st.inState .worker).count x = st.buffers.count x
  writes : ∀ write ∈ st.writes, write.owners = [write.party]
  timestamp : ∀ b record, st.getBuffer b = some record →
    record.syncTimestamp = UInt32.ofNat (st.committed.count b)
  unknown : ∀ b, st.getBuffer b = none → st.committed.count b = 0
  fences : ∀ fence ∈ st.fences, fence.commits < UInt32.size →
    fence.timestamp.map UInt32.toNat = if fence.commits = 0 then none else some fence.commits

theorem mem_owners {st : State Buffer} {owner : Owner} {b : Buffer} :
    owner ∈ st.owners b ↔ b ∈ st.inState owner := by
  constructor
  · intro h
    obtain ⟨other, -, hmem⟩ := List.mem_flatMap.mp h
    obtain ⟨hne, rfl⟩ := List.mem_replicate.mp hmem
    exact List.count_pos_iff.mp (Nat.pos_of_ne_zero hne)
  · intro h
    have hne : (st.inState owner).count b ≠ 0 :=
      Nat.pos_iff_ne_zero.mp (List.count_pos_iff.mpr h)
    refine List.mem_flatMap.mpr ⟨owner, ?_, List.mem_replicate.mpr ⟨hne, rfl⟩⟩
    cases owner <;> decide

theorem Inv.length_owners {st : State Buffer} (h : Inv st) (b : Buffer) :
    (st.owners b).length = st.buffers.count b := by
  rw [← h.counts b]
  simp only [State.owners, List.flatMap_cons, List.flatMap_nil, List.length_append,
    List.length_replicate, List.length_nil, State.inState]
  omega

theorem Inv.owners_eq {st : State Buffer} (h : Inv st) {owner : Owner} {b : Buffer}
    (hb : b ∈ st.inState owner) : st.owners b = [owner] := by
  have hmem := mem_owners.mpr hb
  have hle := List.nodup_iff_count.mp h.nodup b
  have hpos := List.length_pos_of_mem hmem
  have hone : (st.owners b).length = 1 := by
    have hlength := h.length_owners b
    omega
  obtain ⟨other, hother⟩ := List.length_eq_one_iff.mp hone
  rw [hother] at hmem ⊢
  rw [List.mem_singleton.mp hmem]

theorem Inv.coherent {st : State Buffer} (h : Inv st) : Coherent st := by
  refine ⟨fun b hb => ?_, h.writes, fun b record hrecord hlt => ?_, h.fences⟩
  · have hone : st.buffers.count b = 1 := by rw [h.nodup.count, if_pos hb]
    exact List.length_eq_one_iff.mp ((h.length_owners b).trans hone)
  · rw [h.timestamp b record hrecord, UInt32.toNat_ofNat_of_lt' hlt]

theorem inv_newSwapchain {buffers : List Buffer} {presentModes : Nat}
    {mode : TplDisplayPresentMode} (hnodup : buffers.Nodup)
    (hsupports : (Backend.waylandVulkanWsi presentModes).supports mode = true)
    (vblankDone : Bool) : Inv (newSwapchain buffers presentModes mode vblankDone) where
  nodup := hnodup
  supports := hsupports
  counts := fun _ => rfl
  writes := by simp [newSwapchain]
  timestamp := by simp [newSwapchain]
  unknown := fun _ _ => rfl
  fences := by simp [newSwapchain]

theorem Inv.moved {st : State Buffer} (h : Inv st) (freeList dirtyList client : List Buffer)
    (clientStage : Buffer → ClientStage) (worker : Option (Buffer × WorkerStage))
    (refs : Buffer → Int)
    (hcounts : ∀ x, freeList.count x + client.count x + dirtyList.count x +
      ((worker.map Prod.fst).toList).count x =
        st.freeList.count x + st.client.count x + st.dirtyList.count x +
          (st.inState .worker).count x) :
    Inv { st with
      freeList := freeList
      dirtyList := dirtyList
      client := client
      clientStage := clientStage
      worker := worker
      refs := refs } :=
  ⟨h.nodup, h.supports, fun x => (hcounts x).trans (h.counts x), h.writes, h.timestamp,
    h.unknown, h.fences⟩

theorem Inv.write {st : State Buffer} (h : Inv st) {party : Owner} {b : Buffer}
    {record : BufferRecord} {committed : List Buffer} (hb : b ∈ st.inState party)
    (htimestamp : record.syncTimestamp = UInt32.ofNat (committed.count b))
    (hothers : ∀ x, x ≠ b → committed.count x = st.committed.count x) :
    Inv { st.write party b record with committed := committed } := by
  refine ⟨h.nodup, h.supports, h.counts, ?_, fun x other hother => ?_, fun x hnone => ?_,
    h.fences⟩
  · intro write hwrite
    rcases List.mem_cons.mp hwrite with rfl | hold
    · exact h.owners_eq hb
    · exact h.writes write hold
  · by_cases hxb : x = b
    · subst hxb
      have hsame : record = other := by simpa [State.write] using hother
      rw [← hsame]
      exact htimestamp
    · have hkept : st.getBuffer x = some other := by
        simpa [State.write, Function.update_of_ne hxb] using hother
      rw [hothers x hxb]
      exact h.timestamp x other hkept
  · by_cases hxb : x = b
    · subst hxb
      simp [State.write] at hnone
    · have hkept : st.getBuffer x = none := by
        simpa [State.write, Function.update_of_ne hxb] using hnone
      exact (hothers x hxb).trans (h.unknown x hkept)

/-- A dequeue asks for no fence before the first commit, and then for the latest. -/
theorem timestamp_request {commits : Nat} (hlt : commits < UInt32.size) :
    (if UInt32.ofNat commits ≠ 0 then some (UInt32.ofNat commits) else none).map UInt32.toNat =
      if commits = 0 then none else some commits := by
  have hvalue := UInt32.toNat_ofNat_of_lt' hlt
  by_cases hzero : commits = 0
  · subst hzero
    rfl
  · have hne : UInt32.ofNat commits ≠ 0 := by
      intro heq
      rw [heq] at hvalue
      exact hzero hvalue.symm
    rw [if_pos hne, if_neg hzero, Option.map_some, hvalue]

theorem Inv.dequeueTake {st st' : State Buffer} (h : Inv st) (hout : st.dequeueTake = some st') :
    Inv st' := by
  unfold State.dequeueTake at hout
  split at hout
  · cases hout
  · rename_i b rest hfree
    cases hout
    refine h.moved rest st.dirtyList (st.client ++ [b]) _ st.worker st.refs fun x => ?_
    simp only [hfree, State.inState, List.count_append, List.count_cons, List.count_nil]
    omega

theorem Inv.dequeueReturn {st : State Buffer} (h : Inv st) {b : Buffer} (hb : b ∈ st.client)
    (withFence created : Bool) : Inv (st.dequeueReturn b withFence created) := by
  have hmoved : ∀ clientStage refs,
      Inv { st with clientStage := clientStage, refs := refs } := fun clientStage refs =>
    h.moved st.freeList st.dirtyList st.client clientStage st.worker refs fun _ => rfl
  unfold State.dequeueReturn
  dsimp only
  have hsame : (st.ref b).getBuffer b = st.getBuffer b := rfl
  rw [hsame]
  cases hrecord : st.getBuffer b with
  | some record =>
      dsimp only
      cases withFence with
      | false => exact hmoved _ _
      | true =>
          have hinv := hmoved (Function.update st.clientStage b .returned) (st.ref b).refs
          refine ⟨hinv.nodup, hinv.supports, hinv.counts, hinv.writes, hinv.timestamp,
            hinv.unknown, fun fence hfence hlt => ?_⟩
          rcases List.mem_cons.mp hfence with rfl | hold
          · show (if record.syncTimestamp ≠ 0 then some record.syncTimestamp else none).map
              UInt32.toNat = _
            rw [h.timestamp b record hrecord]
            exact timestamp_request hlt
          · exact hinv.fences fence hold hlt
  | none =>
      cases created with
      | false => exact hmoved _ _
      | true =>
          have hinv := hmoved (Function.update st.clientStage b .returned) (st.ref b).refs
          have hzero : (0 : UInt32) = UInt32.ofNat (st.committed.count b) := by
            rw [h.unknown b hrecord]
            rfl
          have hin : b ∈ State.inState { st with
              clientStage := Function.update st.clientStage b .returned
              refs := (st.ref b).refs } .client := hb
          exact hinv.write hin hzero fun _ _ => rfl

theorem Inv.enqueueWaitSync {st st' : State Buffer} (h : Inv st) {b : Buffer} {syncFence : Int}
    (hb : b ∈ st.client) (hout : st.enqueueWaitSync b syncFence = some st') : Inv st' := by
  unfold State.enqueueWaitSync at hout
  split at hout
  · cases hout
  · rename_i record hrecord
    cases hout
    have hinv := h.moved st.freeList st.dirtyList st.client
      (Function.update st.clientStage b .enqueuing) st.worker (st.unref b).refs fun _ => rfl
    have hin : b ∈ State.inState { st with
        clientStage := Function.update st.clientStage b .enqueuing
        refs := (st.unref b).refs } .client := hb
    exact hinv.write hin (h.timestamp b record hrecord) fun _ _ => rfl

theorem Inv.enqueuePush {st : State Buffer} (h : Inv st) {b : Buffer} (hb : b ∈ st.client) :
    Inv (st.enqueuePush b) := by
  refine h.moved st.freeList (st.dirtyList ++ [b]) (st.client.erase b) st.clientStage st.worker
    st.refs fun x => ?_
  have herase := count_erase_add hb x
  rw [count_append_singleton]
  simp only [State.inState]
  omega

theorem Inv.acquire {st st' : State Buffer} (h : Inv st) (hworker : st.worker = none)
    (hout : st.acquire = some st') : Inv st' := by
  unfold State.acquire at hout
  split at hout
  · cases hout
  · rename_i b rest hdirty
    cases hout
    refine h.moved st.freeList rest st.client st.clientStage (some (b, .acquired)) st.refs
      fun x => ?_
    simp only [hdirty, hworker, State.inState, Option.map_some, Option.map_none,
      Option.toList_some, Option.toList_none, List.count_cons, List.count_nil]
    omega

theorem Inv.drawDone {st st' : State Buffer} (h : Inv st) {b : Buffer} {allocated : Bool}
    {stage : WorkerStage} (hworker : st.worker = some (b, stage))
    (hout : st.drawDone b allocated = some st') : Inv st' := by
  have hb : b ∈ st.inState .worker := by simp [State.inState, hworker]
  unfold State.drawDone at hout
  split at hout
  · cases hout
  · rename_i record hrecord
    have hsent : (Backend.waylandVulkanWsi st.presentModes).drawDone st.queue b allocated =
        (true, st.queue) := by
      simp only [Backend.drawDone, h.supports, if_true]
    simp only [State.write, hsent, if_true] at hout
    cases hout
    have hinv : Inv (st.write .worker b { record with waitSync := -1 }) :=
      h.write hb (h.timestamp b record hrecord) fun _ _ => rfl
    have hcounts : ∀ x, ((some (b, WorkerStage.drawn)).map Prod.fst).toList.count x =
        (st.inState .worker).count x := by
      intro x
      simp only [State.inState, hworker, Option.map_some]
    exact ⟨hinv.nodup, hinv.supports, fun x => (congrArg _ (hcounts x)).trans (hinv.counts x),
      hinv.writes, hinv.timestamp, hinv.unknown, hinv.fences⟩

theorem Inv.commitBuffer {st st' : State Buffer} (h : Inv st) {b : Buffer} {stage : WorkerStage}
    (hworker : st.worker = some (b, stage)) (hout : st.commitBuffer b = some st') : Inv st' := by
  have hb : b ∈ st.inState .worker := by simp [State.inState, hworker]
  unfold State.commitBuffer at hout
  split at hout
  · cases hout
  · rename_i record hrecord
    cases hout
    have href : Inv (st.ref b) := h.moved st.freeList st.dirtyList st.client st.clientStage
      st.worker (st.ref b).refs fun _ => rfl
    have htimestamp : record.syncTimestamp + 1 =
        UInt32.ofNat ((st.committed ++ [b]).count b) := by
      rw [count_append_singleton, if_pos rfl, UInt32.ofNat_add, ← h.timestamp b record hrecord]
      rfl
    have hwritten : Inv { (st.ref b).write .worker b
        { record with syncTimestamp := record.syncTimestamp + 1 } with
          committed := st.committed ++ [b] } := by
      refine href.write hb htimestamp fun x hxb => ?_
      rw [count_append_singleton, if_neg hxb]
      rfl
    refine hwritten.moved st.freeList st.dirtyList st.client st.clientStage
      (some (b, .committed)) (st.ref b).refs fun x => ?_
    show _ = st.freeList.count x + st.client.count x + st.dirtyList.count x +
      (st.inState .worker).count x
    simp only [State.inState, hworker, Option.map_some]

theorem Inv.queueRelease {st : State Buffer} (h : Inv st) {b : Buffer} {stage : WorkerStage}
    (hworker : st.worker = some (b, stage)) : Inv (st.queueRelease b) := by
  refine h.moved (st.freeList ++ [b]) st.dirtyList st.client st.clientStage none st.refs
    fun x => ?_
  simp only [hworker, State.inState, Option.map_some, Option.map_none, Option.toList_some,
    Option.toList_none, List.count_append, List.count_cons, List.count_nil]
  omega

theorem Inv.bufferReleaseCallback {st : State Buffer} (h : Inv st) (b : Buffer) :
    Inv (st.bufferReleaseCallback b) := by
  unfold State.bufferReleaseCallback
  split
  · exact h
  · exact h.moved st.freeList st.dirtyList st.client st.clientStage st.worker (st.unref b).refs
      fun _ => rfl

theorem inv_step {st st' : State Buffer} {l : Label Buffer} (h : Inv st)
    (hstep : step st l = some st') : Inv st' := by
  cases l with
  | dequeueTake => exact h.dequeueTake hstep
  | dequeueReturn b withFence created =>
      simp only [step] at hstep
      split at hstep
      · rename_i hclient
        cases hstep
        exact h.dequeueReturn hclient.1 withFence created
      · cases hstep
  | enqueueWaitSync b syncFence =>
      simp only [step] at hstep
      split at hstep
      · rename_i hclient
        exact h.enqueueWaitSync hclient.1 hstep
      · cases hstep
  | enqueuePush b =>
      simp only [step] at hstep
      split at hstep
      · rename_i hclient
        cases hstep
        exact h.enqueuePush hclient.1
      · cases hstep
  | acquire =>
      simp only [step] at hstep
      split at hstep
      · rename_i hworker
        exact h.acquire hworker hstep
      · cases hstep
  | drawDone allocated =>
      simp only [step] at hstep
      split at hstep
      · rename_i b hworker
        exact h.drawDone hworker hstep
      · cases hstep
  | commitBuffer =>
      simp only [step] at hstep
      split at hstep
      · rename_i b hworker
        exact h.commitBuffer hworker hstep
      · cases hstep
  | queueRelease =>
      simp only [step] at hstep
      split at hstep
      · rename_i b hworker
        cases hstep
        exact h.queueRelease hworker
      · cases hstep
  | bufferRelease b =>
      simp only [step] at hstep
      split at hstep
      · cases hstep
        exact h.bufferReleaseCallback b
      · cases hstep

/-- On a live swapchain whose present mode the server supports, the records of the
buffers are coherent in every reachable state. -/
theorem swapchain_coherent {st : State Buffer} (h : swapchainSystem.Reachable st) :
    Coherent st := by
  refine (h.invariant (I := Inv) ?_ fun _ _ _ hinv _ hstep => inv_step hinv hstep).coherent
  rintro _ ⟨buffers, presentModes, mode, vblankDone, hnodup, hsupports, rfl⟩
  exact inv_newSwapchain hnodup hsupports vblankDone

def newPair : State Nat := newSwapchain [1, 2] 1 .mailbox false

def twoFrames : List (Label Nat) :=
  [.dequeueTake, .dequeueReturn 1 true true, .enqueueWaitSync 1 7, .enqueuePush 1, .acquire,
    .dequeueTake, .drawDone true, .dequeueReturn 2 true true, .commitBuffer, .bufferRelease 1,
    .queueRelease, .enqueueWaitSync 2 8, .enqueuePush 2, .acquire, .dequeueTake,
    .dequeueReturn 1 true true]

theorem swapchain_coherent_twoFrames :
    ∃ st, swapchainSystem.run newPair twoFrames = some st ∧ st.fences = [⟨1, some 1, 1⟩] ∧
      st.owners 1 = [.client] ∧ st.owners 2 = [.worker] ∧ Coherent st := by
  obtain ⟨st, hrun, hfences, hone, htwo⟩ := swapchainSystem.exists_of_run
    (fun st => st.fences = [⟨1, some 1, 1⟩] ∧ st.owners 1 = [.client] ∧ st.owners 2 = [.worker])
    newPair twoFrames (by decide)
  exact ⟨st, hrun, hfences, hone, htwo,
    swapchain_coherent (.of_run (.initial ⟨_, _, _, _, by decide, by decide, rfl⟩) hrun)⟩

end

end LibtplEgl.BufferOwnership
