import LibtplEgl.WaylandEglSurface

namespace LibtplEgl.BufferReferences

open LibtplEgl.LabelledSystem
open LibtplEgl.TplTypes
open LibtplEgl.WaylandEglSurface

universe u

section

variable {Buffer : Type u} [DecidableEq Buffer]

/-- TPL's references on every tbm_surface are its places in the two lists. -/
def Balanced (st : State Buffer) : Prop :=
  ∀ b, st.refs b = st.dequeuedBuffers.count b + st.attachedBuffers.count b

/-- The client enqueues what it holds, the enqueue returns no error, and every node of
the two lists is allocated. -/
def EnqueuesHeld (st : State Buffer) : Label Buffer → Prop
  | .dequeueEnd out => out.pushed = true
  | .enqueueBegin b => b ∈ st.held
  | .enqueueEnd out =>
      out.pushed = true ∧
        ∀ b ∈ st.call.enqueuing, ∀ r ∈ st.enqueueBuffer b out, r.1 = .errorNone
  | _ => True

/-- The lists are what the client holds and what was committed, and each
tbm_surface in them is valid and has its buffer record. -/
structure Inv (st : State Buffer) : Prop where
  balanced : Balanced st
  held : st.held = st.dequeuedBuffers
  committed : st.committed = st.attachedBuffers
  recorded : ∀ b, b ∈ st.dequeuedBuffers ∨ b ∈ st.attachedBuffers → (st.getBuffer b).isSome = true
  calling : ∀ b, st.call = .enqueueBuffer b → b ∈ st.dequeuedBuffers

structure SameTracking (st st' : State Buffer) : Prop where
  dequeued : st'.dequeuedBuffers = st.dequeuedBuffers
  attached : st'.attachedBuffers = st.attachedBuffers
  refs : st'.refs = st.refs
  held : st'.held = st.held
  committed : st'.committed = st.committed
  queueCalls : st'.queueCalls = st.queueCalls
  recorded : ∀ b, (st.getBuffer b).isSome = true → (st'.getBuffer b).isSome = true

omit [DecidableEq Buffer] in
theorem SameTracking.refl (st : State Buffer) : SameTracking st st :=
  ⟨rfl, rfl, rfl, rfl, rfl, rfl, fun _ => id⟩

omit [DecidableEq Buffer] in
theorem SameTracking.trans {st₁ st₂ st₃ : State Buffer} (h : SameTracking st₁ st₂)
    (h' : SameTracking st₂ st₃) : SameTracking st₁ st₃ :=
  ⟨h'.dequeued.trans h.dequeued, h'.attached.trans h.attached, h'.refs.trans h.refs,
    h'.held.trans h.held, h'.committed.trans h.committed, h'.queueCalls.trans h.queueCalls,
    fun b hb => h'.recorded b (h.recorded b hb)⟩

theorem getBuffer_setBufferReset {st : State Buffer} {b c : Buffer} {reset : Bool}
    (h : (st.getBuffer c).isSome = true) :
    ((st.setBufferReset b reset).getBuffer c).isSome = true := by
  unfold State.getBuffer State.setBufferReset at *
  split at h
  · rename_i hvalid
    by_cases hcb : c = b
    · subst hcb
      simp [hvalid]
    · simpa [hvalid, hcb] using h
  · cases h

theorem sameTracking_setResetFlag (st : State Buffer) (bs : List Buffer) :
    SameTracking st (st.setResetFlag bs) := by
  induction bs generalizing st with
  | nil => exact .refl st
  | cons b bs ih =>
      refine .trans ?_ (ih _)
      split
      · exact ⟨rfl, rfl, rfl, rfl, rfl, rfl, fun _ => getBuffer_setBufferReset⟩
      · exact .refl st

theorem sameTracking_resetCallback (st : State Buffer) : SameTracking st st.resetCallback := by
  have hflag : SameTracking st { st with reset := true } :=
    ⟨rfl, rfl, rfl, rfl, rfl, rfl, fun _ => id⟩
  exact (hflag.trans (sameTracking_setResetFlag _ _)).trans (sameTracking_setResetFlag _ _)

theorem sameTracking_applyResize (st : State Buffer) : SameTracking st st.applyResize := by
  unfold State.applyResize
  split
  · have hreset := sameTracking_resetCallback st
    exact ⟨hreset.dequeued, hreset.attached, hreset.refs, hreset.held, hreset.committed,
      hreset.queueCalls, hreset.recorded⟩
  · exact .refl st

theorem Inv.same {st st' : State Buffer} (h : Inv st) (hsame : SameTracking st st')
    (hcall : ∀ b, st'.call = .enqueueBuffer b → b ∈ st.dequeuedBuffers) : Inv st' := by
  constructor
  · intro b
    rw [hsame.refs, hsame.dequeued, hsame.attached]
    exact h.balanced b
  · rw [hsame.held, hsame.dequeued]
    exact h.held
  · rw [hsame.committed, hsame.attached]
    exact h.committed
  · rw [hsame.dequeued, hsame.attached]
    exact fun b hb => hsame.recorded b (h.recorded b hb)
  · rw [hsame.dequeued]
    exact hcall

theorem setResetFlag_call (st : State Buffer) (bs : List Buffer) :
    (st.setResetFlag bs).call = st.call := by
  induction bs generalizing st with
  | nil => rfl
  | cons b bs ih =>
      rw [State.setResetFlag, ih]
      split <;> rfl

theorem resetCallback_call (st : State Buffer) : st.resetCallback.call = st.call := by
  rw [State.resetCallback, setResetFlag_call, setResetFlag_call]

theorem count_erase_add {l : List Buffer} {b : Buffer} (h : b ∈ l) (x : Buffer) :
    (l.erase b).count x + (if x = b then 1 else 0) = l.count x := by
  rw [(List.perm_cons_erase h).count_eq x, List.count_cons]
  by_cases hxb : x = b
  · subst hxb
    simp
  · simp [hxb, Ne.symm hxb]

theorem count_append_singleton (l : List Buffer) (b x : Buffer) :
    (l ++ [b]).count x = l.count x + (if x = b then 1 else 0) := by
  rw [List.count_append, List.count_singleton]
  by_cases hxb : x = b
  · subst hxb
    simp
  · simp [hxb, Ne.symm hxb]

theorem refs_ref (st : State Buffer) (b x : Buffer) :
    (st.ref b).refs x = st.refs x + ((if x = b then 1 else 0 : Nat) : Int) := by
  simp only [State.ref, Function.update_apply]
  split
  · rename_i hxb
    rw [hxb]
    rfl
  · simp

theorem refs_unref (st : State Buffer) (b x : Buffer) :
    (st.unref b).refs x = st.refs x - ((if x = b then 1 else 0 : Nat) : Int) := by
  simp only [State.unref, Function.update_apply]
  split
  · rename_i hxb
    rw [hxb]
    rfl
  · simp

theorem Inv.not_mem_of_refs {st : State Buffer} (h : Inv st) {b : Buffer} (hrefs : st.refs b ≤ 0) :
    b ∉ st.dequeuedBuffers ∧ b ∉ st.attachedBuffers := by
  have hbalanced := h.balanced b
  constructor
  · intro hmem
    have hpos := List.count_pos_iff.mpr hmem
    omega
  · intro hmem
    have hpos := List.count_pos_iff.mpr hmem
    omega

theorem Inv.environment {st st' : State Buffer} {b : Buffer} (h : Inv st)
    (hdequeued : st'.dequeuedBuffers = st.dequeuedBuffers)
    (hattached : st'.attachedBuffers = st.attachedBuffers) (hrefs : st'.refs = st.refs)
    (hheld : st'.held = st.held) (hcommitted : st'.committed = st.committed)
    (hcall : st'.call = st.call) (hb : b ∉ st.dequeuedBuffers ∧ b ∉ st.attachedBuffers)
    (hothers : ∀ c, c ≠ b → st'.getBuffer c = st.getBuffer c) : Inv st' := by
  constructor
  · intro c
    rw [hrefs, hdequeued, hattached]
    exact h.balanced c
  · rw [hheld, hdequeued]
    exact h.held
  · rw [hcommitted, hattached]
    exact h.committed
  · rw [hdequeued, hattached]
    intro c hc
    have hcb : c ≠ b := by
      rintro rfl
      exact hc.elim hb.1 hb.2
    rw [hothers c hcb]
    exact h.recorded c hc
  · rw [hcall, hdequeued]
    exact h.calling

theorem Inv.trackDequeued {st : State Buffer} (h : Inv st) {b : Buffer}
    (hb : st.isValid b = true) :
    Inv { (st.ref b).trackDequeued b true with call := .none, held := st.held ++ [b] } := by
  constructor
  · intro x
    have hbalanced := h.balanced x
    have hrefs := refs_ref st b x
    have hcount := count_append_singleton st.dequeuedBuffers b x
    show (st.ref b).refs x =
      ((st.dequeuedBuffers ++ [b]).count x : Int) + st.attachedBuffers.count x
    omega
  · simp [State.trackDequeued, State.ref, pushBack, h.held]
  · exact h.committed
  · intro x hx
    by_cases hxb : x = b
    · subst hxb
      simp [State.trackDequeued, State.setBufferReset, State.ref, State.getBuffer, hb]
    · refine getBuffer_setBufferReset (h.recorded x ?_)
      rcases hx with hx | hx
      · rcases List.mem_append.mp hx with hx | hx
        · exact Or.inl hx
        · exact absurd (List.mem_singleton.mp hx) hxb
      · exact Or.inr hx
  · rintro _ ⟨⟩

theorem Inv.commitSelf {st : State Buffer} (h : Inv st) {b : Buffer}
    (hb : b ∈ st.dequeuedBuffers) :
    Inv { st.called b with
      dequeuedBuffers := st.dequeuedBuffers.erase b
      attachedBuffers := st.attachedBuffers ++ [b]
      committed := st.committed ++ [b]
      call := .none
      held := st.held.erase b } := by
  constructor
  · intro x
    have hbalanced := h.balanced x
    have herase := count_erase_add hb x
    have hcount := count_append_singleton st.attachedBuffers b x
    show st.refs x =
      ((st.dequeuedBuffers.erase b).count x : Int) + (st.attachedBuffers ++ [b]).count x
    omega
  · simp only [h.held]
  · simp only [h.committed]
  · intro x hx
    rcases hx with hx | hx
    · exact h.recorded x (Or.inl (List.mem_of_mem_erase hx))
    · rcases List.mem_append.mp hx with hx | hx
      · exact h.recorded x (Or.inr hx)
      · obtain rfl := List.mem_singleton.mp hx
        exact h.recorded _ (Or.inl hb)
  · rintro _ ⟨⟩

theorem Inv.commitAcquired {st : State Buffer} (h : Inv st) {b acquired : Buffer}
    (hb : b ∈ st.dequeuedBuffers) (hacquired : (st.getBuffer acquired).isSome = true) :
    Inv { ((st.called b).unref b).ref acquired with
      dequeuedBuffers := st.dequeuedBuffers.erase b
      attachedBuffers := st.attachedBuffers ++ [acquired]
      committed := st.committed ++ [acquired]
      call := .none
      held := st.held.erase b } := by
  constructor
  · intro x
    have hbalanced := h.balanced x
    have herase := count_erase_add hb x
    have hrefs := refs_ref (st.unref b) acquired x
    have hunref := refs_unref st b x
    have hcount := count_append_singleton st.attachedBuffers acquired x
    show ((st.unref b).ref acquired).refs x =
      ((st.dequeuedBuffers.erase b).count x : Int) + (st.attachedBuffers ++ [acquired]).count x
    omega
  · simp only [h.held]
  · simp only [h.committed]
  · intro x hx
    rcases hx with hx | hx
    · exact h.recorded x (Or.inl (List.mem_of_mem_erase hx))
    · rcases List.mem_append.mp hx with hx | hx
      · exact h.recorded x (Or.inr hx)
      · obtain rfl := List.mem_singleton.mp hx
        exact hacquired
  · rintro _ ⟨⟩

theorem inv_enqueueBuffer {st : State Buffer} (h : Inv st) {b : Buffer}
    (hb : b ∈ st.dequeuedBuffers) {out : EnqueueOutcome Buffer} {result : TplResult}
    {st₁ : State Buffer} (hresult : st.enqueueBuffer b out = some (result, st₁))
    (hpushed : out.pushed = true) (hnone : result = .errorNone) :
    Inv { st₁ with call := .none, held := st.held.erase b } := by
  have hcases := enqueueBuffer_cases hresult
  rw [hpushed] at hcases
  rcases hcases with
    ⟨-, -, rfl⟩ | ⟨-, acquired, -, hacquired, rfl⟩ | ⟨herror, -⟩ | ⟨herror, -⟩
  · exact h.commitSelf hb
  · exact h.commitAcquired hb hacquired
  · exact absurd hnone herror
  · exact absurd hnone herror

theorem inv_releaseCallback {st : State Buffer} (h : Inv st) {b : Buffer}
    (hb : b ∈ st.committed) :
    Inv (State.releaseCallback { st with committed := st.committed.erase b } b) := by
  have hmem : b ∈ st.attachedBuffers := by
    rw [← h.committed]
    exact hb
  rw [releaseCallback_recorded (h.recorded b (.inr hmem))]
  constructor
  · intro x
    have hbalanced := h.balanced x
    have herase := count_erase_add hmem x
    have hunref := refs_unref st b x
    show (st.unref b).refs x =
      (st.dequeuedBuffers.count x : Int) + (st.attachedBuffers.erase b).count x
    omega
  · exact h.held
  · simp only [State.unref, h.committed]
  · intro x hx
    refine h.recorded x (hx.imp id ?_)
    exact List.mem_of_mem_erase
  · exact h.calling

theorem inv_step {st st' : State Buffer} {l : Label Buffer} (h : Inv st)
    (hallowed : EnqueuesHeld st l) (hstep : step st l = some st') : Inv st' := by
  cases Fires.of_step hstep with
  | @createTbmSurface b hvalid =>
      have hnot : ¬ (st.getBuffer b).isSome = true := by simp [State.getBuffer, hvalid]
      have hb : b ∉ st.dequeuedBuffers ∧ b ∉ st.attachedBuffers :=
        ⟨fun hmem => hnot (h.recorded b (Or.inl hmem)),
          fun hmem => hnot (h.recorded b (Or.inr hmem))⟩
      refine h.environment rfl rfl rfl rfl rfl rfl hb fun c hcb => ?_
      simp [State.getBuffer, hcb]
  | destroyTbmSurface hrefs =>
      refine h.environment rfl rfl rfl rfl rfl rfl (h.not_mem_of_refs hrefs) fun c hcb => ?_
      simp [State.getBuffer, hcb]
  | resize => exact h.same ⟨rfl, rfl, rfl, rfl, rfl, rfl, fun _ => id⟩ h.calling
  | queueReset =>
      exact h.same (sameTracking_resetCallback st) (by rw [resetCallback_call]; exact h.calling)
  | release hcommitted => exact inv_releaseCallback h hcommitted
  | dequeueBegin =>
      have hsame := sameTracking_applyResize st
      refine h.same ⟨hsame.dequeued, hsame.attached, hsame.refs, hsame.held, hsame.committed,
        hsame.queueCalls, hsame.recorded⟩ ?_
      rintro _ ⟨⟩
  | dequeueWaitFailed =>
      refine h.same ⟨rfl, rfl, rfl, rfl, rfl, rfl, fun _ => id⟩ ?_
      rintro _ ⟨⟩
  | dequeueFailed hresult =>
      refine h.same ⟨rfl, rfl, rfl, rfl, rfl, rfl, fun _ => id⟩ ?_
      rintro _ ⟨⟩
  | dequeued hvalid hresult =>
      have hpushed := hallowed
      simp only [EnqueuesHeld] at hpushed
      rw [hpushed]
      exact h.trackDequeued hvalid
  | enqueueBegin =>
      refine h.same ⟨rfl, rfl, rfl, rfl, rfl, rfl, fun _ => id⟩ ?_
      rintro c ⟨⟩
      rw [← h.held]
      exact hallowed
  | enqueueInvalid => exact h
  | enqueueEnd hcall hresult =>
      exact inv_enqueueBuffer h (h.calling _ hcall) hresult hallowed.1
        (hallowed.2 _ (by rw [hcall]; rfl) _ hresult)

theorem inv_reachable {st : State Buffer} (h : surfaceSystem.ReachableWhen EnqueuesHeld st) :
    Inv st := by
  refine h.invariant ?_ fun _ _ _ hinv hallowed hstep => inv_step hinv hallowed hstep
  rintro _ ⟨isValid, buffer, rfl⟩
  exact ⟨fun _ => rfl, rfl, rfl, fun _ hb => hb.elim nofun nofun, nofun⟩

/-- The references balance in every run whose enqueues succeed on held buffers. -/
theorem references_balanced {st : State Buffer}
    (h : surfaceSystem.ReachableWhen EnqueuesHeld st) : Balanced st := (inv_reachable h).balanced

instance (st : State Buffer) (l : Label Buffer) : Decidable (EnqueuesHeld st l) :=
  match l with
  | .dequeueEnd out => inferInstanceAs (Decidable (out.pushed = true))
  | .enqueueBegin b => inferInstanceAs (Decidable (b ∈ st.held))
  | .enqueueEnd out =>
      inferInstanceAs (Decidable (out.pushed = true ∧
        ∀ b ∈ st.call.enqueuing, ∀ r ∈ st.enqueueBuffer b out, r.1 = .errorNone))
  | .createTbmSurface _ | .destroyTbmSurface _ | .resize | .queueReset | .release _
  | .dequeueBegin | .dequeueWaitFailed => isTrue trivial

def resetThenAcquire : List (Label Bool) :=
  [.dequeueBegin, .dequeueEnd ⟨some true, true, true, true⟩, .enqueueBegin true, .queueReset,
    .enqueueEnd ⟨.other, none, true⟩, .dequeueBegin, .dequeueEnd ⟨some false, true, true, true⟩,
    .enqueueBegin false, .enqueueEnd ⟨.errorNone, some true, true⟩, .release true]

theorem references_balanced_reset_then_acquire :
    ∃ st, surfaceSystem.runWhen EnqueuesHeld (newSurface (fun _ => true) fun _ => none)
        resetThenAcquire = some st ∧ st.attachedBuffers = [true] ∧ Balanced st := by
  obtain ⟨st, hrun, hattached⟩ := surfaceSystem.exists_of_runWhen EnqueuesHeld
    (fun st => st.attachedBuffers = [true]) (newSurface (fun _ => true) fun _ => none)
    resetThenAcquire (by decide)
  exact ⟨st, hrun, hattached,
    references_balanced (.of_runWhen (.initial ⟨_, _, rfl⟩) hrun)⟩

end

end LibtplEgl.BufferReferences
