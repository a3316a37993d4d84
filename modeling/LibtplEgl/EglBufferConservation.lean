import LibtplEgl.EglBufferOwnership

namespace LibtplEgl.EglBufferConservation

open LibtplEgl.BufferQueue (Queue)
open LibtplEgl.BufferReferences (sameTracking_applyResize sameTracking_resetCallback)
open LibtplEgl.EglBufferOwnership
open LibtplEgl.LabelledSystem
open LibtplEgl.WaylandEglSurface (EnqueueOutcome)

universe u v w

section

variable {Q : Type v} {Choice : Type w} {Buffer : Type u} [DecidableEq Buffer]

/-- A dequeue that takes a buffer finds or makes its record, and the queue neither refuses
nor fails to take back a buffer that it knows. -/
def Keeps (tbm : TbmSurfaceQueue Q Choice Buffer) (st : State Q Buffer) :
    Label Choice Buffer → Prop
  | .release b release =>
      b ∈ (tbm.view st.tbmQueue).known → (tbm.release st.tbmQueue b release).1 = true
  | .dequeueEnd dequeue calloc createBuffer _ =>
      ∀ b ∈ (tbm.dequeue st.tbmQueue dequeue).1,
        (st.surface.getBuffer b).isSome = true ∨ calloc = true ∧ createBuffer = true
  | .enqueueEnd enqueue _ _ =>
      ∀ b ∈ st.surface.call.enqueuing, b ∈ (tbm.view st.tbmQueue).known →
        (tbm.enqueue st.tbmQueue b enqueue).1 ≠ .other
  | _ => True

instance (tbm : TbmSurfaceQueue Q Choice Buffer) (st : State Q Buffer)
    (l : Label Choice Buffer) : Decidable (Keeps tbm st l) :=
  match l with
  | .release b release =>
      inferInstanceAs (Decidable (b ∈ (tbm.view st.tbmQueue).known →
        (tbm.release st.tbmQueue b release).1 = true))
  | .dequeueEnd dequeue calloc createBuffer _ =>
      inferInstanceAs (Decidable (∀ b ∈ (tbm.dequeue st.tbmQueue dequeue).1,
        (st.surface.getBuffer b).isSome = true ∨ calloc = true ∧ createBuffer = true))
  | .enqueueEnd enqueue _ _ =>
      inferInstanceAs (Decidable (∀ b ∈ st.surface.call.enqueuing,
        b ∈ (tbm.view st.tbmQueue).known → (tbm.enqueue st.tbmQueue b enqueue).1 ≠ .other))
  | .newBuffer _ | .destroyTbmSurface _ | .resize | .queueReset | .dequeueBegin
  | .dequeueWaitFailed | .enqueueBegin _ => isTrue trivial

/-- No buffer of the queue is lost. -/
def Conserved (st : State (Queue Buffer) Buffer) : Prop := st.tbmQueue.Complete st.outside

omit [DecidableEq Buffer] in
theorem Conserved.of_outside {st : State (Queue Buffer) Buffer} {outside : Multiset Buffer}
    (houtside : st.outside = outside) (h : st.tbmQueue.Complete outside) : Conserved st := by
  unfold Conserved
  rw [houtside]
  exact h

/-- The buffers that a dequeue has handed out have their records, and no buffer that the
queue knows is marked `reset`. -/
structure Records (st : State (Queue Buffer) Buffer) : Prop where
  recorded : ∀ b, b ∈ st.outside ∨ b ∈ st.tbmQueue.dirty → (st.surface.getBuffer b).isSome = true
  fresh : ∀ b ∈ st.tbmQueue.known, st.surface.getBuffer b ≠ some true

theorem getBuffer_update {surface : WaylandEglSurface.State Buffer} {b x : Buffer} {valid : Bool}
    {record : Option Bool} (hxb : x ≠ b) :
    WaylandEglSurface.State.getBuffer { surface with
      isValid := Function.update surface.isValid b valid
      buffer := Function.update surface.buffer b record } x = surface.getBuffer x := by
  simp [WaylandEglSurface.State.getBuffer, hxb]

theorem outside_released {st : State (Queue Buffer) Buffer} {b : Buffer}
    (hrecord : (st.surface.getBuffer b).isSome = true) (hb : b ∈ st.surface.committed)
    (q : Queue Buffer) :
    State.outside { st with
      surface := WaylandEglSurface.State.releaseCallback
        { st.surface with committed := st.surface.committed.erase b } b
      tbmQueue := q } = st.outside.erase b := by
  rw [WaylandEglSurface.releaseCallback_recorded hrecord]
  exact outside_release hb rfl rfl

namespace Records

variable {st st' : State (Queue Buffer) Buffer}

omit [DecidableEq Buffer] in
theorem frame (h : Records st)
    (hplace : ∀ b, b ∈ st'.outside ∨ b ∈ st'.tbmQueue.dirty →
      b ∈ st.outside ∨ b ∈ st.tbmQueue.dirty)
    (hknown : st'.tbmQueue.known = st.tbmQueue.known)
    (hbuffer : ∀ b, b ∈ st.outside ∨ b ∈ st.tbmQueue.known →
      st'.surface.getBuffer b = st.surface.getBuffer b) : Records st' := by
  constructor
  · intro b hb
    have hold := hplace b hb
    rw [hbuffer b (hold.imp_right fun hdirty =>
      st.tbmQueue.known_of_mem b (List.mem_append_right _ hdirty))]
    exact h.recorded b hold
  · rw [hknown]
    intro b hb
    rw [hbuffer b (Or.inr hb)]
    exact h.fresh b hb

omit [DecidableEq Buffer] in
theorem unmarked (h : Records st) {b : Buffer} (hb : b ∈ st.outside)
    (hknown : b ∈ st.tbmQueue.known) : st.surface.getBuffer b = some false := by
  obtain ⟨reset, hreset⟩ := Option.isSome_iff_exists.mp (h.recorded b (Or.inl hb))
  cases reset with
  | true => exact absurd hreset (h.fresh b hknown)
  | false => exact hreset

omit [DecidableEq Buffer] in
theorem reset (h : Records st) (houtside : st'.outside = st.outside)
    (hqueue : st'.tbmQueue = .empty)
    (hrecorded : ∀ b, (st.surface.getBuffer b).isSome = true →
      (st'.surface.getBuffer b).isSome = true) : Records st' := by
  constructor
  · rw [houtside, hqueue]
    intro b hb
    exact hrecorded b (h.recorded b (Or.inl (hb.resolve_right List.not_mem_nil)))
  · rw [hqueue]
    exact fun b hb => absurd hb List.not_mem_nil

theorem newBuffer (h : Records st) {b : Buffer} (hb : b ∉ st.tbmQueue.known)
    (houtside : b ∉ st.outside) :
    Records { st with
      surface := { st.surface with
        isValid := Function.update st.surface.isValid b true
        buffer := Function.update st.surface.buffer b none }
      tbmQueue := st.tbmQueue.attach b hb } := by
  constructor
  · intro x hx
    have hxb : x ≠ b := by
      rintro rfl
      exact hx.elim houtside fun hdirty =>
        hb (st.tbmQueue.known_of_mem x (List.mem_append_right _ hdirty))
    show (WaylandEglSurface.State.getBuffer _ x).isSome = true
    rw [getBuffer_update hxb]
    exact h.recorded x hx
  · intro x hx
    by_cases hxb : x = b
    · subst hxb
      simp [WaylandEglSurface.State.getBuffer]
    · show WaylandEglSurface.State.getBuffer _ x ≠ some true
      rw [getBuffer_update hxb]
      exact h.fresh x ((List.mem_cons.mp hx).resolve_left hxb)

theorem release (h : Records st) {b : Buffer} (hb : b ∈ st.surface.committed) {q : Queue Buffer}
    (hq : q = st.tbmQueue ∨ ∃ hout, q = st.tbmQueue.giveBack b hout) :
    Records { st with
      surface := WaylandEglSurface.State.releaseCallback
        { st.surface with committed := st.surface.committed.erase b } b
      tbmQueue := q } := by
  have hrecord := h.recorded b (Or.inl (mem_outside_of_committed hb))
  have houtside := outside_released hrecord hb q
  have hqueue : q.known = st.tbmQueue.known ∧ q.dirty = st.tbmQueue.dirty := by
    rcases hq with rfl | ⟨hout, rfl⟩
    · exact ⟨rfl, rfl⟩
    · exact ⟨rfl, rfl⟩
  rw [WaylandEglSurface.releaseCallback_recorded hrecord] at houtside ⊢
  refine h.frame ?_ hqueue.1 fun _ _ => rfl
  rintro x (hx | hx)
  · rw [houtside] at hx
    exact Or.inl (Multiset.mem_of_mem_erase hx)
  · rw [← hqueue.2]
    exact Or.inr hx

theorem dequeued (h : Records st) {b : Buffer} {q : Queue Buffer} (pushed : Bool)
    (hq : st.tbmQueue.dequeue = some (b, q)) (hvalid : st.surface.isValid b = true) :
    Records { st with
      surface := { (st.surface.ref b).trackDequeued b pushed with
        call := .none, held := st.surface.held ++ [b] }
      tbmQueue := q } := by
  obtain ⟨-, hdirty, hknown⟩ := Queue.dequeue_eq_some hq
  have houtside : State.outside { st with
      surface := { (st.surface.ref b).trackDequeued b pushed with
        call := .none, held := st.surface.held ++ [b] }
      tbmQueue := q } = b ::ₘ st.outside := outside_dequeue rfl rfl
  have hbuffer : ∀ x, WaylandEglSurface.State.getBuffer
      { (st.surface.ref b).trackDequeued b pushed with
        call := .none, held := st.surface.held ++ [b] } x =
        if x = b then some false else st.surface.getBuffer x := by
    intro x
    by_cases hxb : x = b
    · subst hxb
      simp [WaylandEglSurface.State.getBuffer, WaylandEglSurface.State.trackDequeued,
        WaylandEglSurface.State.setBufferReset, WaylandEglSurface.State.ref, hvalid]
    · simp [WaylandEglSurface.State.getBuffer, WaylandEglSurface.State.trackDequeued,
        WaylandEglSurface.State.setBufferReset, WaylandEglSurface.State.ref, hxb]
  constructor
  · intro x hx
    show (WaylandEglSurface.State.getBuffer _ x).isSome = true
    rw [hbuffer]
    split
    · rfl
    · rename_i hxb
      refine h.recorded x ?_
      rcases hx with hx | hx
      · exact Or.inl ((Multiset.mem_cons.mp (houtside ▸ hx)).resolve_left hxb)
      · rw [← hdirty]
        exact Or.inr hx
  · intro x hx
    show WaylandEglSurface.State.getBuffer _ x ≠ some true
    rw [hbuffer]
    split
    · simp
    · exact h.fresh x (hknown ▸ hx)

theorem enqueued (h : Records st) {b : Buffer} {out : EnqueueOutcome Buffer}
    (hb : b ∈ st.surface.held) (henqueued : Enqueued st b out st') :
    Records st' := by
  have hmem := mem_outside_of_held hb
  have hheld : ∀ x ∈ st.surface.held.erase b, x ∈ st.outside :=
    fun x hx => mem_outside_of_held (List.mem_of_mem_erase hx)
  cases henqueued with
  | direct =>
      refine h.frame (fun x hx => hx.imp_left fun hx => ?_) rfl fun _ _ => rfl
      rcases Multiset.mem_add.mp hx with hx | hx
      · exact hheld x hx
      · rcases List.mem_append.mp (Multiset.mem_coe.mp hx) with hx | hx
        · exact mem_outside_of_committed hx
        · rw [List.mem_singleton.mp hx]
          exact hmem
  | @acquired acquired q hqueue hsome hout hacquire =>
      obtain ⟨hdirty, -, hknown⟩ := Queue.acquire_eq_some hacquire
      have hdirty' : st.tbmQueue.dirty ++ [b] = acquired :: q.dirty := hdirty
      have hold : ∀ x ∈ acquired :: q.dirty, x ∈ st.outside ∨ x ∈ st.tbmQueue.dirty := by
        intro x hx
        rw [← hdirty'] at hx
        rcases List.mem_append.mp hx with hx | hx
        · exact Or.inr hx
        · rw [List.mem_singleton.mp hx]
          exact Or.inl hmem
      refine h.frame ?_ hknown fun _ _ => rfl
      rintro x (hx | hx)
      · rcases Multiset.mem_add.mp hx with hx | hx
        · exact Or.inl (hheld x hx)
        · rcases List.mem_append.mp (Multiset.mem_coe.mp hx) with hx | hx
          · exact Or.inl (mem_outside_of_committed hx)
          · rw [List.mem_singleton.mp hx]
            exact hold acquired List.mem_cons_self
      · exact hold x (List.mem_cons_of_mem _ hx)
  | notAcquired hrecord hqueue hnone hout =>
      refine h.frame ?_ rfl fun _ _ => rfl
      rintro x (hx | hx)
      · rcases Multiset.mem_add.mp hx with hx | hx
        · exact Or.inl (hheld x hx)
        · exact Or.inl (mem_outside_of_committed hx)
      · rcases List.mem_append.mp hx with hx | hx
        · exact Or.inr hx
        · rw [List.mem_singleton.mp hx]
          exact Or.inl hmem
  | refused =>
      refine h.frame (fun x hx => hx.imp_left fun hx => ?_) rfl fun _ _ => rfl
      rcases Multiset.mem_add.mp hx with hx | hx
      · exact hheld x hx
      · exact mem_outside_of_committed hx

end Records

variable {tbm : TbmSurfaceQueue Q Choice Buffer}

theorem records_step {st : State Q Buffer} {l : Label Choice Buffer}
    {st' : State (Queue Buffer) Buffer} (hinv : Inv (st.view tbm)) (h : Records (st.view tbm))
    (hmoves : Moves tbm st l st') : Records st' := by
  cases hmoves with
  | newBuffer hb hnew => exact h.newBuffer hb (hinv.not_outside_of_invalid hnew)
  | destroyTbmSurface hb hunref =>
      refine h.frame (fun _ => id) rfl fun x hx => getBuffer_update ?_
      rintro rfl
      exact hx.elim (hinv.not_outside_of_unreferenced hunref) hb
  | queueReset =>
      have hsame := sameTracking_resetCallback st.surface
      exact h.reset (outside_congr hsame.held hsame.committed) rfl hsame.recorded
  | notReleased hb => exact h.release hb (Or.inl rfl)
  | released hb hqueue hout => exact h.release hb (Or.inr ⟨hout, rfl⟩)
  | dequeueBeginResized =>
      have hsame := sameTracking_applyResize st.surface
      exact h.reset (outside_congr hsame.held hsame.committed) rfl hsame.recorded
  | resize | dequeueBegin | dequeueWaitFailed | dequeueNothing | enqueueBegin =>
      exact h.frame (fun _ => id) rfl fun _ _ => rfl
  | dequeueLost hsome hq =>
      obtain ⟨-, hdirty, hknown⟩ := Queue.dequeue_eq_some hq
      refine h.frame (fun x hx => hx.imp_right fun hx => ?_) hknown fun _ _ => rfl
      show x ∈ (tbm.view st.tbmQueue).dirty
      rw [← hdirty]
      exact hx
  | dequeued hsome hq hrecord hvalid => exact h.dequeued _ hq hvalid
  | enqueueInvalid => exact h
  | enqueueEnd hcall henqueued => exact h.enqueued (hinv.calling _ hcall) henqueued

theorem conserved_enqueued {st st' : State (Queue Buffer) Buffer} {b : Buffer}
    {out : EnqueueOutcome Buffer} (h : Records st) (hconserved : Conserved st)
    (hb : b ∈ st.surface.held) (henqueued : Enqueued st b out st')
    (hrefused : b ∈ st.tbmQueue.known → out.enqueue ≠ .other) : Conserved st' := by
  have hmem := mem_outside_of_held hb
  cases henqueued with
  | direct =>
      show st.tbmQueue.Complete (↑(st.surface.held.erase b) + ↑(st.surface.committed ++ [b]))
      rw [outside_commit hb, Multiset.cons_erase hmem]
      exact hconserved
  | @acquired acquired q hqueue hsome hout hacquire =>
      show q.Complete (↑(st.surface.held.erase b) + ↑(st.surface.committed ++ [acquired]))
      rw [outside_commit hb]
      exact (hconserved.enqueue hmem hout).acquire hacquire
  | notAcquired hrecord hqueue hnone hout =>
      show (st.tbmQueue.enqueue b hout).Complete
        (↑(st.surface.held.erase b) + ↑st.surface.committed)
      rw [← outside_erase_held hb]
      exact hconserved.enqueue hmem hout
  | refused hqueue =>
      show st.tbmQueue.Complete (↑(st.surface.held.erase b) + ↑st.surface.committed)
      rw [← outside_erase_held hb]
      refine hconserved.forget fun hknown => ?_
      rcases hqueue with hnone | ⟨-, hother⟩
      · cases (h.unmarked hmem hknown).symm.trans hnone
      · exact hrefused hknown hother

theorem not_conserved_refused {st st' : State (Queue Buffer) Buffer} {b : Buffer}
    {out : EnqueueOutcome Buffer} (hinv : Inv st) (h : Records st) (hb : b ∈ st.surface.held)
    (hknown : b ∈ st.tbmQueue.known) (henqueued : Enqueued st b out st')
    (hother : out.enqueue = .other) : ¬ Conserved st' := by
  have hmem := mem_outside_of_held hb
  cases henqueued with
  | direct hunknown => cases hother.symm.trans (hunknown (h.unmarked hmem hknown))
  | acquired hqueue => cases hother.symm.trans hqueue
  | notAcquired hrecord hqueue => cases hother.symm.trans hqueue
  | refused =>
      show ¬ st.tbmQueue.Complete (↑(st.surface.held.erase b) + ↑st.surface.committed)
      rw [← outside_erase_held hb]
      exact Queue.Complete.not_complete_erase hinv.exclusive hmem hknown

/-- A step keeps every buffer, or it loses one. -/
theorem keeps_or_loses {st : State Q Buffer} {l : Label Choice Buffer}
    {st' : State (Queue Buffer) Buffer} (hinv : Inv (st.view tbm)) (h : Records (st.view tbm))
    (hmoves : Moves tbm st l st') :
    (Keeps tbm st l ∧ (Conserved (st.view tbm) → Conserved st')) ∨
      (¬ Keeps tbm st l ∧ ¬ Conserved st') := by
  cases hmoves with
  | newBuffer hb => exact Or.inl ⟨trivial, fun hconserved => hconserved.attach hb⟩
  | destroyTbmSurface | resize | dequeueBegin | dequeueWaitFailed | enqueueBegin
  | enqueueInvalid => exact Or.inl ⟨trivial, id⟩
  | queueReset | dequeueBeginResized => exact Or.inl ⟨trivial, fun _ => .empty⟩
  | @notReleased b release hb hqueue =>
      have hmem : b ∈ (st.view tbm).outside := mem_outside_of_committed hb
      have houtside := outside_released (h.recorded b (Or.inl hmem)) hb (tbm.view st.tbmQueue)
      by_cases hknown : b ∈ (tbm.view st.tbmQueue).known
      · refine Or.inr ⟨fun hkeeps => ?_, fun hconserved => ?_⟩
        · cases (hkeeps hknown).symm.trans (hqueue (h.unmarked hmem hknown))
        · refine Queue.Complete.not_complete_erase hinv.exclusive hmem hknown ?_
          rw [← houtside]
          exact hconserved
      · exact Or.inl ⟨fun hold => absurd hold hknown, fun hconserved =>
          .of_outside houtside (hconserved.forget hknown)⟩
  | @released b release hb hqueue hout =>
      have hmem : b ∈ (st.view tbm).outside := mem_outside_of_committed hb
      have houtside := outside_released (h.recorded b (Or.inl hmem)) hb
        ((tbm.view st.tbmQueue).giveBack b hout)
      exact Or.inl ⟨fun _ => hqueue, fun hconserved =>
        .of_outside houtside (hconserved.giveBack hmem hout)⟩
  | dequeueNothing hnone =>
      refine Or.inl ⟨fun b hb => ?_, id⟩
      rw [hnone] at hb
      cases hb
  | dequeueLost hsome hq hrecord =>
      exact Or.inr ⟨fun hkeeps => hrecord (hkeeps _ hsome),
        Queue.Complete.not_complete_dequeue hinv.exclusive hq⟩
  | dequeued hsome hq hrecord =>
      refine Or.inl ⟨fun x hx => ?_, fun hconserved => ?_⟩
      · obtain rfl := Option.some.inj (hsome.symm.trans hx)
        exact hrecord
      · refine .of_outside (outside_dequeue ?_ ?_) (hconserved.dequeue hq)
        · rfl
        · rfl
  | @enqueueEnd enqueue acquire pushed b _ hcall henqueued =>
      have hb := hinv.calling b hcall
      have hresult := enqueueAcquire_enqueue tbm st.tbmQueue b enqueue acquire pushed
      by_cases hlost : b ∈ (tbm.view st.tbmQueue).known ∧
          (tbm.enqueue st.tbmQueue b enqueue).1 = .other
      · refine Or.inr ⟨fun hkeeps => ?_, ?_⟩
        · exact hkeeps b (by rw [hcall]; rfl) hlost.1 hlost.2
        · exact not_conserved_refused hinv h hb hlost.1 henqueued (hresult.trans hlost.2)
      · refine Or.inl ⟨fun x hx hknown hother => ?_, fun hconserved => ?_⟩
        · rw [hcall] at hx
          obtain rfl := Option.some.inj hx
          exact hlost ⟨hknown, hother⟩
        · refine conserved_enqueued h hconserved hb henqueued fun hknown hother => ?_
          exact hlost ⟨hknown, hresult.symm.trans hother⟩

structure Books (st : State (Queue Buffer) Buffer) : Prop where
  inv : Inv st
  records : Records st
  conserved : Conserved st

theorem books_newSurface : Books ((newSurface tbm).view tbm) := by
  have hqueue : ((newSurface tbm).view tbm).tbmQueue = .empty := tbm.view_create
  refine ⟨inv_newSurface, ⟨?_, ?_⟩, ?_⟩
  · rw [hqueue]
    exact fun b hb => hb.elim nofun nofun
  · rw [hqueue]
    exact nofun
  · rw [Conserved, hqueue]
    exact Queue.Complete.empty

theorem books_step {st st' : State Q Buffer} {l : Label Choice Buffer}
    (h : Books (st.view tbm)) (hkeeps : Keeps tbm st l)
    (hstep : ((ownershipSystem tbm).restrict EnqueuesHeld).step st l = some st') :
    Books (st'.view tbm) := by
  obtain ⟨hallowed, hstep⟩ := System.restrict_step_eq_some.mp hstep
  have hmoves := Moves.of_step tbm hstep
  refine ⟨inv_step h.inv hallowed hmoves, records_step h.inv h.records hmoves, ?_⟩
  rcases keeps_or_loses h.inv h.records hmoves with ⟨-, hconserved⟩ | ⟨hnot, -⟩
  · exact hconserved h.conserved
  · exact absurd hkeeps hnot

/-- In a run in which the client enqueues only what it holds, every buffer that the queue
knows is always in the queue, with the client or with the compositor, exactly when no
dequeue fails after it has taken a buffer, and the queue refuses no buffer that it knows,
neither from the client nor back from the compositor. -/
theorem conserved_iff {st : State Q Buffer} {ls : List (Label Choice Buffer)}
    (hrun : ((ownershipSystem tbm).restrict EnqueuesHeld).run (newSurface tbm) ls = some st) :
    ((ownershipSystem tbm).restrict EnqueuesHeld).Always (fun st => Conserved (st.view tbm))
        (newSurface tbm) ls ↔
      ((ownershipSystem tbm).restrict EnqueuesHeld).EveryStep (Keeps tbm) (newSurface tbm) ls := by
  refine System.always_iff_everyStep (I := fun st => Books (st.view tbm)) books_newSurface hrun
    (fun _ _ _ => books_step) (fun _ => Books.conserved) ?_
  intro st l st' h hstep hconserved
  obtain ⟨-, hstep⟩ := System.restrict_step_eq_some.mp hstep
  rcases keeps_or_loses h.inv h.records (Moves.of_step tbm hstep) with ⟨hkeeps, -⟩ | ⟨-, hnot⟩
  · exact hkeeps
  · exact absurd hconserved hnot

def lateAcquire : List (Label Bool Bool) :=
  [.newBuffer true, .newBuffer false, .dequeueBegin, .dequeueEnd false true true true,
    .enqueueBegin true, .enqueueEnd false true true, .dequeueBegin,
    .dequeueEnd true true true true, .dequeueBegin, .dequeueEnd false true true true,
    .enqueueBegin false, .enqueueEnd false false true, .release true false]

theorem conserved_lateAcquire :
    ∃ st, ((ownershipSystem TbmSurfaceQueue.ofQueue).restrict EnqueuesHeld).run
        (newSurface TbmSurfaceQueue.ofQueue) lateAcquire = some st ∧
      st.tbmQueue.free = [true] ∧ st.tbmQueue.dirty = [false] ∧
      ((ownershipSystem TbmSurfaceQueue.ofQueue).restrict EnqueuesHeld).Always
        (fun st => Conserved (st.view TbmSurfaceQueue.ofQueue))
        (newSurface TbmSurfaceQueue.ofQueue) lateAcquire := by
  obtain ⟨st, hrun, hfree, hdirty⟩ :=
    ((ownershipSystem TbmSurfaceQueue.ofQueue).restrict EnqueuesHeld).exists_of_runWhen
      (Keeps TbmSurfaceQueue.ofQueue)
      (fun st => st.tbmQueue.free = [true] ∧ st.tbmQueue.dirty = [false])
      (newSurface TbmSurfaceQueue.ofQueue) lateAcquire (by decide)
  have hrun' := System.run_of_runWhen hrun
  exact ⟨st, hrun', hfree, hdirty, (conserved_iff hrun').mpr (.of_runWhen hrun)⟩

end

end LibtplEgl.EglBufferConservation
