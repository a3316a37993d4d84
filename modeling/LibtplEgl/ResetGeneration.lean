import LibtplEgl.BufferReferences

namespace LibtplEgl.ResetGeneration

open LibtplEgl.BufferReferences
open LibtplEgl.LabelledSystem
open LibtplEgl.TplTypes
open LibtplEgl.WaylandEglSurface

universe u

/-- A surface with the generations of its buffers: how often its tbm queue has been
reset, and after how many resets a tbm_surface was last dequeued. `staleCalls` lists
the stale tbm_surfaces that the tbm queue has been called with. -/
structure GenState (Buffer : Type u) where
  surface : State Buffer
  resets : Nat
  dequeuedAt : Buffer → Option Nat
  staleCalls : List Buffer

section

variable {Buffer : Type u}

def GenState.stale (st : GenState Buffer) (b : Buffer) : Bool :=
  (st.dequeuedAt b).any fun n => n < st.resets

/-- The step resets the tbm queue: a reset from outside, or the one of a dequeue
that finds its window resized. -/
def resetsQueue (st : State Buffer) : Label Buffer → Bool
  | .queueReset => true
  | .dequeueBegin => st.resized
  | _ => false

/-- The client enqueues what it holds, and the queue hands out no tbm_surface that
was dequeued before the most recent reset. -/
def HandsOutFresh (st : GenState Buffer) : Label Buffer → Prop
  | .enqueueBegin b => b ∈ st.surface.held
  | .dequeueEnd out => ∀ b ∈ out.dequeue, st.stale b = false
  | .enqueueEnd out => ∀ b ∈ out.acquire, st.stale b = false
  | _ => True

/-- A reset finds every tbm_surface that the client holds or that is committed in one of
the two lists, unless its flag is set already. -/
def ResetsTracked (st : GenState Buffer) (l : Label Buffer) : Prop :=
  resetsQueue st.surface l = true → ∀ b ∈ st.surface.held ++ st.surface.committed,
    b ∈ st.surface.dequeuedBuffers ∨ b ∈ st.surface.attachedBuffers ∨
      st.surface.getBuffer b = some true

/-- `__tpl_list_push_back` finds memory for its node. -/
def NodeAllocated : Label Buffer → Prop
  | .dequeueEnd out => out.pushed = true
  | .enqueueEnd out => out.pushed = true
  | _ => True

/-- The reset flags of the tracked tbm_surfaces tell which of them are stale. -/
def FlagsStale (st : GenState Buffer) : Prop :=
  ∀ b, b ∈ st.surface.dequeuedBuffers ∨ b ∈ st.surface.attachedBuffers →
    st.surface.getBuffer b = some (st.stale b)

variable [DecidableEq Buffer]

def dequeuedAt (st : GenState Buffer) : Label Buffer → Buffer → Option Nat
  | .createTbmSurface b => Function.update st.dequeuedAt b none
  | .dequeueEnd out =>
      match (st.surface.dequeueBuffer out).1 with
      | some b => Function.update st.dequeuedAt b (some st.resets)
      | none => st.dequeuedAt
  | _ => st.dequeuedAt

def genStep (st : GenState Buffer) (l : Label Buffer) : Option (GenState Buffer) :=
  (step st.surface l).map fun surface =>
    { surface := surface
      resets := if resetsQueue st.surface l then st.resets + 1 else st.resets
      dequeuedAt := dequeuedAt st l
      staleCalls := st.staleCalls ++
        (surface.queueCalls.drop st.surface.queueCalls.length).filter st.stale }

/-- A new surface, whose queue has tbm_surfaces without buffer records. -/
def genSystem : System (GenState Buffer) (Label Buffer) where
  Initial st := ∃ isValid, st = ⟨newSurface isValid fun _ => none, 0, fun _ => none, []⟩
  step := genStep

/-- Every tbm_surface that the client holds or that is committed keeps a reference and
has a record with the right flag, whether or not it is in the lists; the record of any
other one may only miss a reset. -/
structure Inv (st : GenState Buffer) : Prop where
  referenced : ∀ b, (st.surface.held.count b + st.surface.committed.count b : Int) ≤
    st.surface.refs b
  dequeued_le : ∀ b, st.surface.dequeuedBuffers.count b ≤ st.surface.held.count b
  attached_le : ∀ b, st.surface.attachedBuffers.count b ≤ st.surface.committed.count b
  calling : ∀ b, st.surface.call = .enqueueBuffer b → b ∈ st.surface.held
  flags : ∀ b, b ∈ st.surface.held ∨ b ∈ st.surface.committed →
    st.surface.getBuffer b = some (st.stale b)
  flagged : ∀ b, st.surface.getBuffer b = some true → st.stale b = true
  dequeued : ∀ b, (st.surface.getBuffer b).isSome = true →
    ∃ n, n ≤ st.resets ∧ st.dequeuedAt b = some n

theorem getBuffer_setBufferReset_eq (st : State Buffer) (b c : Buffer) (reset : Bool) :
    (st.setBufferReset b reset).getBuffer c =
      if c = b then (if st.isValid b then some reset else none) else st.getBuffer c := by
  unfold State.getBuffer State.setBufferReset
  by_cases hcb : c = b
  · subst hcb
    simp
  · simp [hcb]

theorem getBuffer_setResetFlag (st : State Buffer) (bs : List Buffer) (b : Buffer) :
    (st.setResetFlag bs).getBuffer b =
      if b ∈ bs then (st.getBuffer b).map fun _ => true else st.getBuffer b := by
  induction bs generalizing st with
  | nil => simp [State.setResetFlag]
  | cons c bs ih =>
      have hhead : (if (st.getBuffer c).isSome then st.setBufferReset c true else st).getBuffer b =
          if b = c then (st.getBuffer b).map fun _ => true else st.getBuffer b := by
        by_cases hbc : b = c
        · subst hbc
          cases hrecord : st.getBuffer b with
          | none => simp [hrecord]
          | some r =>
              have hvalid : st.isValid b = true := by
                by_contra hnot
                simp [State.getBuffer, hnot] at hrecord
              simp [getBuffer_setBufferReset_eq, hvalid]
        · rw [if_neg hbc]
          split
          · rw [getBuffer_setBufferReset_eq, if_neg hbc]
          · rfl
      rw [State.setResetFlag, ih, hhead]
      by_cases hbc : b = c
      · subst hbc
        simp
      · simp [hbc]

theorem getBuffer_resetCallback (st : State Buffer) (b : Buffer) :
    st.resetCallback.getBuffer b =
      if b ∈ st.dequeuedBuffers ∨ b ∈ st.attachedBuffers then
        (st.getBuffer b).map fun _ => true
      else st.getBuffer b := by
  have hdequeued :
      (State.setResetFlag { st with reset := true } st.attachedBuffers).dequeuedBuffers =
        st.dequeuedBuffers := (sameTracking_setResetFlag _ _).dequeued
  rw [State.resetCallback, getBuffer_setResetFlag, getBuffer_setResetFlag]
  have hsame : State.getBuffer { st with reset := true } b = st.getBuffer b := rfl
  rw [hsame]
  by_cases hd : b ∈ st.dequeuedBuffers
  · by_cases ha : b ∈ st.attachedBuffers
    · simp [hd, ha, Option.map_map]
    · simp [hd, ha]
  · simp [hd]

omit [DecidableEq Buffer] in
theorem stale_reset {st : GenState Buffer} {b : Buffer} {n : Nat} (hn : n ≤ st.resets)
    (hb : st.dequeuedAt b = some n) (surface : State Buffer) :
    GenState.stale ⟨surface, st.resets + 1, st.dequeuedAt, st.staleCalls⟩ b = true := by
  simpa [GenState.stale, hb] using Nat.lt_succ_of_le hn

theorem count_erase_le_erase {l l' : List Buffer} (h : ∀ x, l.count x ≤ l'.count x) (b x : Buffer) :
    (l.erase b).count x ≤ (l'.erase b).count x := by
  rw [List.count_erase, List.count_erase]
  exact Nat.sub_le_sub_right (h x) _

theorem mem_of_count_le {l l' : List Buffer} (h : ∀ x, l.count x ≤ l'.count x) {b : Buffer}
    (hb : b ∈ l) : b ∈ l' :=
  List.count_pos_iff.mp (Nat.lt_of_lt_of_le (List.count_pos_iff.mpr hb) (h b))

theorem Inv.flagsStale {st : GenState Buffer} (h : Inv st) : FlagsStale st := by
  intro b hb
  exact h.flags b (hb.imp (mem_of_count_le h.dequeued_le) (mem_of_count_le h.attached_le))

theorem Inv.not_mem_of_refs {st : GenState Buffer} (h : Inv st) {b : Buffer}
    (hrefs : st.surface.refs b ≤ 0) : b ∉ st.surface.held ∧ b ∉ st.surface.committed := by
  have hreferenced := h.referenced b
  constructor
  · intro hmem
    have hpos := List.count_pos_iff.mpr hmem
    omega
  · intro hmem
    have hpos := List.count_pos_iff.mpr hmem
    omega

theorem Inv.not_mem_of_getBuffer {st : GenState Buffer} (h : Inv st) {b : Buffer}
    (hb : st.surface.getBuffer b = none) : b ∉ st.surface.held ∧ b ∉ st.surface.committed := by
  constructor
  · intro hmem
    cases hb.symm.trans (h.flags b (.inl hmem))
  · intro hmem
    cases hb.symm.trans (h.flags b (.inr hmem))

theorem Inv.record {st : GenState Buffer} (h : Inv st) (calls : List Buffer) :
    Inv { st with staleCalls := calls } :=
  ⟨h.referenced, h.dequeued_le, h.attached_le, h.calling, h.flags, h.flagged, h.dequeued⟩

theorem Inv.same {st : GenState Buffer} (h : Inv st) {surface : State Buffer}
    (hsame : SameTracking st.surface surface)
    (hbuffer : ∀ b, surface.getBuffer b = st.surface.getBuffer b)
    (hcall : ∀ b, surface.call = .enqueueBuffer b → b ∈ st.surface.held) :
    Inv { st with surface := surface } := by
  constructor
  · simpa only [hsame.refs, hsame.held, hsame.committed] using h.referenced
  · simpa only [hsame.held, hsame.dequeued] using h.dequeued_le
  · simpa only [hsame.committed, hsame.attached] using h.attached_le
  · simpa only [hsame.held] using hcall
  · intro b hb
    simp only [hsame.held, hsame.committed] at hb
    exact (hbuffer b).trans (h.flags b hb)
  · intro b hb
    exact h.flagged b ((hbuffer b).symm.trans hb)
  · intro b hb
    rw [hbuffer b] at hb
    exact h.dequeued b hb

theorem Inv.reset {st : GenState Buffer} (h : Inv st) {surface : State Buffer}
    (hsame : SameTracking st.surface surface)
    (hbuffer : ∀ b, surface.getBuffer b = st.surface.resetCallback.getBuffer b)
    (hcall : ∀ b, surface.call = .enqueueBuffer b → b ∈ st.surface.held)
    (htracked : ∀ b ∈ st.surface.held ++ st.surface.committed,
      b ∈ st.surface.dequeuedBuffers ∨ b ∈ st.surface.attachedBuffers ∨
        st.surface.getBuffer b = some true) :
    Inv ⟨surface, st.resets + 1, st.dequeuedAt, st.staleCalls⟩ := by
  have hrecord : ∀ b, (surface.getBuffer b).isSome = (st.surface.getBuffer b).isSome := by
    intro b
    rw [hbuffer, getBuffer_resetCallback]
    split
    · exact Option.isSome_map
    · rfl
  have hstale : ∀ b, (surface.getBuffer b).isSome = true →
      GenState.stale ⟨surface, st.resets + 1, st.dequeuedAt, st.staleCalls⟩ b = true := by
    intro b hb
    obtain ⟨n, hn, hat⟩ := h.dequeued b (by rwa [← hrecord b])
    exact stale_reset hn hat surface
  constructor
  · simpa only [hsame.refs, hsame.held, hsame.committed] using h.referenced
  · simpa only [hsame.held, hsame.dequeued] using h.dequeued_le
  · simpa only [hsame.committed, hsame.attached] using h.attached_le
  · simpa only [hsame.held] using hcall
  · intro b hb
    simp only [hsame.held, hsame.committed] at hb
    have hflag : surface.getBuffer b = some true := by
      rw [hbuffer, getBuffer_resetCallback]
      split
      · rw [h.flags b hb, Option.map_some]
      · rename_i hlists
        rcases htracked b (List.mem_append.mpr hb) with hmem | hmem | hset
        · exact absurd (.inl hmem) hlists
        · exact absurd (.inr hmem) hlists
        · exact hset
    rw [hflag, hstale b (by rw [hflag]; rfl)]
  · intro b hb
    exact hstale b (by rw [hb]; rfl)
  · intro b hb
    obtain ⟨n, hn, hat⟩ := h.dequeued b (by rwa [← hrecord b])
    exact ⟨n, Nat.le_succ_of_le hn, hat⟩

theorem Inv.environment {st st' : GenState Buffer} {b : Buffer} (h : Inv st)
    (hdequeued : st'.surface.dequeuedBuffers = st.surface.dequeuedBuffers)
    (hattached : st'.surface.attachedBuffers = st.surface.attachedBuffers)
    (hrefs : st'.surface.refs = st.surface.refs) (hheld : st'.surface.held = st.surface.held)
    (hcommitted : st'.surface.committed = st.surface.committed)
    (hcall : st'.surface.call = st.surface.call) (hresets : st'.resets = st.resets)
    (hb : b ∉ st.surface.held ∧ b ∉ st.surface.committed)
    (hgone : st'.surface.getBuffer b = none)
    (hothers : ∀ c, c ≠ b → st'.surface.getBuffer c = st.surface.getBuffer c)
    (hat : ∀ c, c ≠ b → st'.dequeuedAt c = st.dequeuedAt c) : Inv st' := by
  have hne : ∀ c, (st'.surface.getBuffer c).isSome = true → c ≠ b := by
    rintro c hc rfl
    rw [hgone] at hc
    cases hc
  have hstale : ∀ c, c ≠ b → st'.stale c = st.stale c := by
    intro c hcb
    rw [GenState.stale, GenState.stale, hat c hcb, hresets]
  constructor
  · simpa only [hrefs, hheld, hcommitted] using h.referenced
  · simpa only [hheld, hdequeued] using h.dequeued_le
  · simpa only [hcommitted, hattached] using h.attached_le
  · simpa only [hcall, hheld] using h.calling
  · intro c hc
    simp only [hheld, hcommitted] at hc
    have hcb : c ≠ b := by
      rintro rfl
      exact hc.elim hb.1 hb.2
    rw [hothers c hcb, hstale c hcb]
    exact h.flags c hc
  · intro c hc
    have hcb := hne c (by rw [hc]; rfl)
    rw [hstale c hcb]
    exact h.flagged c ((hothers c hcb).symm.trans hc)
  · intro c hc
    have hcb := hne c hc
    rw [hat c hcb, hresets]
    exact h.dequeued c (by rwa [← hothers c hcb])

theorem Inv.trackDequeued {st : GenState Buffer} (h : Inv st) {b : Buffer}
    (hb : st.surface.isValid b = true) (pushed : Bool) :
    Inv ⟨{ (st.surface.ref b).trackDequeued b pushed with
        call := .none, held := st.surface.held ++ [b] }, st.resets,
      Function.update st.dequeuedAt b (some st.resets), st.staleCalls⟩ := by
  have hbuffer : ∀ c, ((st.surface.ref b).trackDequeued b pushed).getBuffer c =
      if c = b then some false else st.surface.getBuffer c := by
    intro c
    have hset := getBuffer_setBufferReset_eq (st.surface.ref b) b c false
    have hvalid : (st.surface.ref b).isValid b = true := hb
    rw [hvalid, if_pos rfl] at hset
    exact hset
  have hstale : ∀ surface c, GenState.stale ⟨surface, st.resets,
      Function.update st.dequeuedAt b (some st.resets), st.staleCalls⟩ c =
        if c = b then false else st.stale c := by
    intro surface c
    by_cases hcb : c = b
    · subst hcb
      simp [GenState.stale]
    · simp [GenState.stale, hcb]
  constructor
  · intro x
    have hreferenced := h.referenced x
    have hrefs := refs_ref st.surface b x
    have hcount := count_append_singleton st.surface.held b x
    show ((st.surface.held ++ [b]).count x + st.surface.committed.count x : Int) ≤
      (st.surface.ref b).refs x
    omega
  · intro x
    have hpush := count_pushBack_le st.surface.dequeuedBuffers b pushed x
    have hle := h.dequeued_le x
    show (pushBack st.surface.dequeuedBuffers b pushed).count x ≤ (st.surface.held ++ [b]).count x
    rw [List.count_append]
    omega
  · exact h.attached_le
  · rintro _ ⟨⟩
  · intro c hc
    refine (hbuffer c).trans ?_
    rw [hstale]
    by_cases hcb : c = b
    · rw [if_pos hcb, if_pos hcb]
    · rw [if_neg hcb, if_neg hcb]
      refine h.flags c (hc.imp (fun hmem => ?_) id)
      rcases List.mem_append.mp hmem with hmem | hmem
      · exact hmem
      · exact absurd (List.mem_singleton.mp hmem) hcb
  · intro c hc
    have hc' := (hbuffer c).symm.trans hc
    rw [hstale]
    by_cases hcb : c = b
    · rw [if_pos hcb] at hc'
      cases hc'
    · rw [if_neg hcb] at hc' ⊢
      exact h.flagged c hc'
  · intro c hc
    by_cases hcb : c = b
    · subst hcb
      exact ⟨st.resets, Nat.le_refl _, Function.update_self _ _ _⟩
    · have hc' : (((st.surface.ref b).trackDequeued b pushed).getBuffer c).isSome = true := hc
      rw [hbuffer c, if_neg hcb] at hc'
      obtain ⟨n, hn, hat⟩ := h.dequeued c hc'
      exact ⟨n, hn, (Function.update_of_ne hcb _ _).trans hat⟩

theorem Inv.enqueued {st : GenState Buffer} (h : Inv st) {b : Buffer}
    (hb : b ∈ st.surface.held) {commits attached : List Buffer} (queueCalls : List Buffer)
    {refs : Buffer → Int}
    (hrefs : ∀ x, st.surface.refs x - ((if x = b then 1 else 0 : Nat) : Int) + commits.count x ≤
      refs x)
    (hattached : ∀ x, attached.count x ≤ st.surface.attachedBuffers.count x + commits.count x)
    (hcommits : ∀ a ∈ commits, st.surface.getBuffer a = some (st.stale a)) :
    Inv { st with surface := { st.surface with
      dequeuedBuffers := st.surface.dequeuedBuffers.erase b
      attachedBuffers := attached
      committed := st.surface.committed ++ commits
      refs := refs
      call := .none
      held := st.surface.held.erase b
      queueCalls := queueCalls } } := by
  constructor
  · intro x
    have hreferenced := h.referenced x
    have herase := count_erase_add hb x
    have hbound := hrefs x
    show ((st.surface.held.erase b).count x +
      (st.surface.committed ++ commits).count x : Int) ≤ refs x
    rw [List.count_append]
    omega
  · exact count_erase_le_erase h.dequeued_le b
  · intro x
    have hle := h.attached_le x
    have hattached' := hattached x
    show attached.count x ≤ (st.surface.committed ++ commits).count x
    rw [List.count_append]
    omega
  · rintro _ ⟨⟩
  · rintro c (hc | hc)
    · exact h.flags c (.inl (List.mem_of_mem_erase hc))
    · rcases List.mem_append.mp hc with hc | hc
      · exact h.flags c (.inr hc)
      · exact hcommits c hc
  · exact h.flagged
  · exact h.dequeued

omit [DecidableEq Buffer] in
theorem flag_of_fresh {st : GenState Buffer}
    (hflagged : ∀ b, st.surface.getBuffer b = some true → st.stale b = true) {b : Buffer}
    (hrecord : (st.surface.getBuffer b).isSome = true) (hfresh : st.stale b = false) :
    st.surface.getBuffer b = some (st.stale b) := by
  obtain ⟨r, hr⟩ := Option.isSome_iff_exists.mp hrecord
  cases r with
  | true => exact absurd (hfresh.symm.trans (hflagged b hr)) nofun
  | false => rw [hr, hfresh]

theorem count_singleton_eq (b x : Buffer) : [b].count x = if x = b then 1 else 0 := by
  rw [← List.nil_append [b], count_append_singleton, List.count_nil, Nat.zero_add]

theorem Inv.enqueueBuffer {st : GenState Buffer} (h : Inv st) {b : Buffer}
    (hb : b ∈ st.surface.held) {out : EnqueueOutcome Buffer} {result : TplResult}
    {surface : State Buffer} (hresult : st.surface.enqueueBuffer b out = some (result, surface))
    (hfresh : ∀ a ∈ out.acquire, st.stale a = false) :
    Inv { st with surface := { surface with
      call := .none, held := st.surface.held.erase b } } := by
  have hnothing : ∀ x, st.surface.attachedBuffers.count x ≤
      st.surface.attachedBuffers.count x + ([] : List Buffer).count x :=
    fun _ => Nat.le_add_right _ _
  rcases enqueueBuffer_cases hresult with
    ⟨-, -, rfl⟩ | ⟨-, acquired, hacquired, hrecord, rfl⟩ | ⟨-, rfl⟩ | ⟨-, rfl⟩
  · refine h.enqueued hb _ (fun x => ?_) (count_pushBack_le _ b _) (fun a ha => ?_)
    · rw [count_singleton_eq, committedAfter_refs]
      show _ ≤ st.surface.refs x
      omega
    · obtain rfl := List.mem_singleton.mp ha
      exact h.flags a (.inl hb)
  · refine h.enqueued hb _ (fun x => ?_) (count_pushBack_le _ acquired _) (fun a ha => ?_)
    · refine Int.le_of_eq ?_
      rw [count_singleton_eq, committedAfter_refs, refs_ref, refs_unref]
      rfl
    · obtain rfl := List.mem_singleton.mp ha
      exact flag_of_fresh h.flagged hrecord (hfresh a hacquired)
  · have hrefs : ∀ x, st.surface.refs x - ((if x = b then 1 else 0 : Nat) : Int) +
        ([] : List Buffer).count x ≤ ((st.surface.called b).unref b).refs x := by
      intro x
      rw [List.count_nil, refs_unref]
      show _ ≤ st.surface.refs x - _
      omega
    have hnil := h.enqueued hb (st.surface.called b).queueCalls hrefs hnothing
      (by simp)
    rw [List.append_nil] at hnil
    exact hnil
  · have hrefs : ∀ x, st.surface.refs x - ((if x = b then 1 else 0 : Nat) : Int) +
        ([] : List Buffer).count x ≤ st.surface.refs x := by
      intro x
      rw [List.count_nil]
      omega
    have hnil := h.enqueued hb (st.surface.called b).queueCalls hrefs hnothing
      (by simp)
    rw [List.append_nil] at hnil
    exact hnil

theorem Inv.releaseCallback {st : GenState Buffer} (h : Inv st) {b : Buffer}
    (hb : b ∈ st.surface.committed) :
    Inv ⟨State.releaseCallback
      { st.surface with committed := st.surface.committed.erase b } b, st.resets,
      st.dequeuedAt, st.staleCalls⟩ := by
  have hrecorded : (st.surface.getBuffer b).isSome = true := by
    rw [h.flags b (.inr hb)]
    rfl
  rw [releaseCallback_recorded hrecorded]
  constructor
  · intro x
    have hreferenced := h.referenced x
    have herase := count_erase_add hb x
    have hunref := refs_unref st.surface b x
    show (st.surface.held.count x + (st.surface.committed.erase b).count x : Int) ≤
      (st.surface.unref b).refs x
    omega
  · exact h.dequeued_le
  · exact count_erase_le_erase h.attached_le b
  · exact h.calling
  · intro c hc
    exact h.flags c (hc.imp id List.mem_of_mem_erase)
  · exact h.flagged
  · exact h.dequeued

theorem inv_genStep {st st' : GenState Buffer} {l : Label Buffer} (h : Inv st)
    (hallowed : HandsOutFresh st l) (htracked : ResetsTracked st l)
    (hstep : genStep st l = some st') : Inv st' := by
  obtain ⟨surface, hsurface, rfl⟩ := Option.map_eq_some_iff.mp hstep
  suffices hinv : Inv ⟨surface, if resetsQueue st.surface l then st.resets + 1 else st.resets,
      dequeuedAt st l, st.staleCalls⟩ from hinv.record _
  cases Fires.of_step hsurface with
  | @createTbmSurface b hvalid =>
      have hnone : st.surface.getBuffer b = none := by simp [State.getBuffer, hvalid]
      refine h.environment rfl rfl rfl rfl rfl rfl rfl (h.not_mem_of_getBuffer hnone) ?_ ?_ ?_
      · simp [State.getBuffer]
      · intro c hcb
        simp [State.getBuffer, hcb]
      · intro c hcb
        exact Function.update_of_ne hcb _ _
  | destroyTbmSurface hrefs =>
      refine h.environment rfl rfl rfl rfl rfl rfl rfl (h.not_mem_of_refs hrefs) ?_ ?_
        fun _ _ => rfl
      · simp [State.getBuffer]
      · intro c hcb
        simp [State.getBuffer, hcb]
  | resize => exact h.same ⟨rfl, rfl, rfl, rfl, rfl, rfl, fun _ => id⟩ (fun _ => rfl) h.calling
  | queueReset =>
      exact h.reset (sameTracking_resetCallback _) (fun _ => rfl)
        (by rw [resetCallback_call]; exact h.calling) (htracked rfl)
  | release hcommitted => exact h.releaseCallback hcommitted
  | dequeueBegin =>
      cases hresized : st.surface.resized with
      | true =>
          have hsame := sameTracking_resetCallback st.surface
          simp only [State.applyResize, hresized, if_true, resetsQueue]
          refine h.reset ⟨hsame.dequeued, hsame.attached, hsame.refs, hsame.held,
            hsame.committed, hsame.queueCalls, hsame.recorded⟩ (fun _ => rfl) ?_
            (htracked hresized)
          rintro _ ⟨⟩
      | false =>
          simp only [State.applyResize, hresized, resetsQueue]
          refine h.same ⟨rfl, rfl, rfl, rfl, rfl, rfl, fun _ => id⟩ (fun _ => rfl) ?_
          rintro _ ⟨⟩
  | dequeueWaitFailed =>
      refine h.same ⟨rfl, rfl, rfl, rfl, rfl, rfl, fun _ => id⟩ (fun _ => rfl) ?_
      rintro _ ⟨⟩
  | dequeueFailed hresult =>
      simp only [dequeuedAt, resetsQueue, hresult]
      refine h.same ⟨rfl, rfl, rfl, rfl, rfl, rfl, fun _ => id⟩ (fun _ => rfl) ?_
      rintro _ ⟨⟩
  | dequeued hvalid hresult =>
      simp only [dequeuedAt, resetsQueue, hresult]
      exact h.trackDequeued hvalid _
  | enqueueBegin =>
      refine h.same ⟨rfl, rfl, rfl, rfl, rfl, rfl, fun _ => id⟩ (fun _ => rfl) ?_
      rintro c ⟨⟩
      exact hallowed
  | enqueueInvalid => exact h
  | enqueueEnd hcall hresult => exact h.enqueueBuffer (h.calling _ hcall) hresult hallowed

theorem queueCalls_step {st st' : State Buffer} {l : Label Buffer} (h : step st l = some st') :
    ∃ new, st'.queueCalls = st.queueCalls ++ new ∧
      ∀ b ∈ new, st.getBuffer b = some false ∧ (b ∈ st.committed ∨ st.call = .enqueueBuffer b) := by
  have hnone : ∃ new, st.queueCalls = st.queueCalls ++ new ∧
      ∀ b ∈ new, st.getBuffer b = some false ∧ (b ∈ st.committed ∨ st.call = .enqueueBuffer b) :=
    ⟨[], (List.append_nil _).symm, nofun⟩
  have hcalled : ∀ {b}, (b ∈ st.committed ∨ st.call = .enqueueBuffer b) →
      ∃ new, (st.called b).queueCalls = st.queueCalls ++ new ∧ ∀ c ∈ new,
        st.getBuffer c = some false ∧ (c ∈ st.committed ∨ st.call = .enqueueBuffer c) := by
    intro b hb
    refine ⟨_, rfl, fun c hc => ?_⟩
    split at hc
    · rename_i hflag
      obtain rfl := List.mem_singleton.mp hc
      exact ⟨hflag, hb⟩
    · cases hc
  cases Fires.of_step h with
  | createTbmSurface | destroyTbmSurface | resize | dequeueWaitFailed | dequeueFailed
  | dequeued | enqueueBegin | enqueueInvalid => exact hnone
  | queueReset =>
      rw [(sameTracking_resetCallback st).queueCalls]
      exact hnone
  | dequeueBegin =>
      show ∃ new, st.applyResize.queueCalls = _ ∧ _
      rw [(sameTracking_applyResize st).queueCalls]
      exact hnone
  | @release b hcommitted =>
      cases hrecord : (st.getBuffer b).isSome with
      | true =>
          rw [releaseCallback_recorded hrecord]
          exact hcalled (.inl hcommitted)
      | false =>
          have hbuffer : State.getBuffer { st with committed := st.committed.erase b } b = none :=
            Option.isSome_eq_false_iff.mp hrecord |> Option.isNone_iff_eq_none.mp
          unfold State.releaseCallback
          split
          · rw [hbuffer]
            exact hnone
          · exact hnone
  | enqueueEnd hcall hresult =>
      rcases enqueueBuffer_cases hresult with
        ⟨-, -, rfl⟩ | ⟨-, acquired, -, -, rfl⟩ | ⟨-, rfl⟩ | ⟨-, rfl⟩
      all_goals exact hcalled (.inr hcall)

theorem Inv.staleCalls {st st' : GenState Buffer} {l : Label Buffer} (h : Inv st)
    (hcalls : st.staleCalls = []) (hstep : genStep st l = some st') : st'.staleCalls = [] := by
  obtain ⟨surface, hsurface, rfl⟩ := Option.map_eq_some_iff.mp hstep
  obtain ⟨new, hnew, hflags⟩ := queueCalls_step hsurface
  show st.staleCalls ++ (surface.queueCalls.drop st.surface.queueCalls.length).filter st.stale = []
  rw [hcalls, hnew, List.drop_left, List.nil_append, List.filter_eq_nil_iff]
  intro b hb hstale
  obtain ⟨hflag, hplace⟩ := hflags b hb
  have hflag' := h.flags b (hplace.symm.imp (h.calling b) id)
  rw [hflag, hstale] at hflag'
  cases hflag'

/-- The client and the queue keep to the rules, and every reset finds the tbm_surfaces
that it has to flag. -/
def KeepsTrack (st : GenState Buffer) (l : Label Buffer) : Prop :=
  HandsOutFresh st l ∧ ResetsTracked st l

theorem inv_initial (isValid : Buffer → Bool) :
    Inv (⟨newSurface isValid fun _ => none, 0, fun _ => none, []⟩ : GenState Buffer) := by
  have hnone : ∀ b, (newSurface isValid fun _ => none).getBuffer b = none := by
    intro b
    exact ite_self none
  refine ⟨fun _ => Int.le_refl 0, fun _ => Nat.le_refl 0, fun _ => Nat.le_refl 0, nofun,
    fun b hb => hb.elim nofun nofun, ?_, ?_⟩
  · intro b hb
    cases (hnone b).symm.trans hb
  · intro b hb
    have hb' : ((newSurface isValid fun _ => none).getBuffer b).isSome = true := hb
    rw [hnone b] at hb'
    cases hb'

theorem inv_reachable {st : GenState Buffer} (h : genSystem.ReachableWhen KeepsTrack st) :
    Inv st ∧ st.staleCalls = [] := by
  refine h.invariant (I := fun st => Inv st ∧ st.staleCalls = []) ?_ ?_
  · rintro _ ⟨isValid, rfl⟩
    exact ⟨inv_initial isValid, rfl⟩
  · rintro st l st' ⟨hinv, hcalls⟩ hallowed hstep
    exact ⟨inv_genStep hinv hallowed.1 hallowed.2 hstep, hinv.staleCalls hcalls hstep⟩

/-- In every run whose resets find what they have to flag, the reset flags tell the
generations apart, and no tbm_surface of an earlier generation is given to the tbm queue. -/
theorem reset_generations {st : GenState Buffer} (h : genSystem.ReachableWhen KeepsTrack st) :
    FlagsStale st ∧ st.staleCalls = [] :=
  ⟨(inv_reachable h).1.flagsStale, (inv_reachable h).2⟩

/-- The two lists are what the client holds and what is committed. -/
structure Tracked (st : State Buffer) : Prop where
  held : st.held = st.dequeuedBuffers
  committed : st.committed = st.attachedBuffers

omit [DecidableEq Buffer] in
theorem Tracked.resetsTracked {st : GenState Buffer} (h : Tracked st.surface) (l : Label Buffer) :
    ResetsTracked st l := by
  intro _ b hb
  rw [h.held, h.committed] at hb
  rcases List.mem_append.mp hb with hb | hb
  · exact .inl hb
  · exact .inr (.inl hb)

omit [DecidableEq Buffer] in
theorem Tracked.same {st st' : State Buffer} (h : Tracked st) (hsame : SameTracking st st') :
    Tracked st' :=
  ⟨by rw [hsame.held, hsame.dequeued, h.held], by rw [hsame.committed, hsame.attached, h.committed]⟩

theorem tracked_step {st : GenState Buffer} {surface : State Buffer} {l : Label Buffer}
    (hinv : Inv st) (h : Tracked st.surface) (hallocated : NodeAllocated l)
    (hstep : step st.surface l = some surface) : Tracked surface := by
  cases Fires.of_step hstep with
  | createTbmSurface | destroyTbmSurface | resize | dequeueWaitFailed | dequeueFailed
  | enqueueBegin | enqueueInvalid => exact ⟨h.held, h.committed⟩
  | queueReset => exact h.same (sameTracking_resetCallback _)
  | dequeueBegin =>
      have hsame := h.same (sameTracking_applyResize st.surface)
      exact ⟨hsame.held, hsame.committed⟩
  | @release b hcommitted =>
      have hrecorded : (st.surface.getBuffer b).isSome = true := by
        rw [hinv.flags b (.inr hcommitted)]
        rfl
      rw [releaseCallback_recorded hrecorded]
      exact ⟨h.held, by simp only [State.unref, h.committed]⟩
  | dequeued _ _ =>
      have hpushed := hallocated
      simp only [NodeAllocated] at hpushed
      refine ⟨?_, h.committed⟩
      simp [State.trackDequeued, State.ref, pushBack, hpushed, h.held]
  | enqueueEnd _ hresult =>
      have hpushed := hallocated
      simp only [NodeAllocated] at hpushed
      rcases enqueueBuffer_cases hresult with
        ⟨-, -, rfl⟩ | ⟨-, acquired, -, -, rfl⟩ | ⟨-, rfl⟩ | ⟨-, rfl⟩
      · simp only [hpushed]
        exact ⟨congrArg (List.erase · _) h.held, congrArg (· ++ _) h.committed⟩
      · simp only [hpushed]
        exact ⟨congrArg (List.erase · _) h.held, congrArg (· ++ _) h.committed⟩
      · exact ⟨congrArg (List.erase · _) h.held, h.committed⟩
      · exact ⟨congrArg (List.erase · _) h.held, h.committed⟩

/-- A run in which every node is allocated keeps track. -/
theorem keepsTrack_of_allocated {st : GenState Buffer}
    (h : genSystem.ReachableWhen (fun st l => HandsOutFresh st l ∧ NodeAllocated l) st) :
    genSystem.ReachableWhen KeepsTrack st ∧ Tracked st.surface := by
  induction h with
  | initial hinitial =>
      refine ⟨.initial hinitial, ?_⟩
      obtain ⟨isValid, rfl⟩ := hinitial
      exact ⟨rfl, rfl⟩
  | @step st st' l _ hallowed hstep ih =>
      obtain ⟨hreachable, htracked⟩ := ih
      refine ⟨.step hreachable ⟨hallowed.1, htracked.resetsTracked l⟩ hstep, ?_⟩
      obtain ⟨surface, hsurface, rfl⟩ := Option.map_eq_some_iff.mp hstep
      exact tracked_step (inv_reachable hreachable).1 htracked hallowed.2 hsurface

instance (st : GenState Buffer) (l : Label Buffer) : Decidable (HandsOutFresh st l) :=
  match l with
  | .enqueueBegin b => inferInstanceAs (Decidable (b ∈ st.surface.held))
  | .dequeueEnd out => inferInstanceAs (Decidable (∀ b ∈ out.dequeue, st.stale b = false))
  | .enqueueEnd out => inferInstanceAs (Decidable (∀ b ∈ out.acquire, st.stale b = false))
  | .createTbmSurface _ | .destroyTbmSurface _ | .resize | .queueReset | .release _
  | .dequeueBegin | .dequeueWaitFailed => isTrue trivial

/-- The client, the server and the queue may go on so that the tbm queue is called with a
stale tbm_surface. -/
def MayCallStale (st : GenState Buffer) : Prop :=
  ∃ ls st', genSystem.runWhen HandsOutFresh st ls = some st' ∧ st'.staleCalls ≠ []

theorem MayCallStale.prepend {st st' : GenState Buffer} {l : Label Buffer} (h : MayCallStale st')
    (hallowed : HandsOutFresh st l) (hstep : genStep st l = some st') : MayCallStale st := by
  obtain ⟨ls, st'', hrun, hcalls⟩ := h
  refine ⟨l :: ls, st'', ?_, hcalls⟩
  rw [System.runWhen, if_pos hallowed]
  show (genStep st l).bind _ = _
  rw [hstep]
  exact hrun

theorem mayCallStale_of_call {st : GenState Buffer} {l : Label Buffer} {surface : State Buffer}
    {b : Buffer} (hstale : st.stale b = true) (hallowed : HandsOutFresh st l)
    (hstep : step st.surface l = some surface)
    (hcall : surface.queueCalls = st.surface.queueCalls ++ [b]) : MayCallStale st := by
  have hgen : ∃ st', genStep st l = some st' ∧ st'.staleCalls = st.staleCalls ++ [b] := by
    refine ⟨_, congrArg (Option.map _) hstep, ?_⟩
    show st.staleCalls ++ (surface.queueCalls.drop st.surface.queueCalls.length).filter st.stale = _
    rw [hcall, List.drop_left, List.filter_cons_of_pos hstale, List.filter_nil]
  obtain ⟨st', hgen, hcalls⟩ := hgen
  refine MayCallStale.prepend ⟨[], st', rfl, ?_⟩ hallowed hgen
  rw [hcalls]
  exact List.append_ne_nil_of_right_ne_nil _ (List.cons_ne_nil b [])

theorem exists_genStep {st : GenState Buffer} {l : Label Buffer} {surface : State Buffer}
    (hstep : step st.surface l = some surface) (hreset : resetsQueue st.surface l = false)
    (hdequeued : dequeuedAt st l = st.dequeuedAt) :
    ∃ st', genStep st l = some st' ∧ st'.surface = surface ∧ ∀ b, st'.stale b = st.stale b := by
  refine ⟨_, congrArg (Option.map _) hstep, rfl, fun b => ?_⟩
  simp [GenState.stale, hreset, hdequeued]

omit [DecidableEq Buffer] in
theorem handsOutFresh_refused (st : GenState Buffer) :
    HandsOutFresh st (.enqueueEnd ⟨.other, none, true⟩) := by
  rintro _ ⟨⟩

theorem enqueueBuffer_refused (st : State Buffer) (c : Buffer) :
    (st.enqueueBuffer c ⟨.other, none, true⟩).isSome = true := by
  cases hrecord : st.getBuffer c with
  | none => simp [State.enqueueBuffer, hrecord]
  | some reset => cases reset <;> simp [State.enqueueBuffer, State.commit, hrecord]

theorem exists_step_enqueueEnd {st : State Buffer} {c : Buffer}
    (hcall : st.call = .enqueueBuffer c) :
    ∃ st', step st (.enqueueEnd ⟨.other, none, true⟩) = some st' ∧ st'.call = .none ∧
      st'.held = st.held.erase c ∧ (∀ b, st'.getBuffer b = st.getBuffer b) ∧
      st'.queueCalls = (st.called c).queueCalls := by
  obtain ⟨⟨result, st₁⟩, hresult⟩ := Option.isSome_iff_exists.mp (enqueueBuffer_refused st c)
  refine ⟨{ st₁ with call := .none, held := st.held.erase c }, ?_, rfl, rfl, ?_⟩
  · simp [step, hcall, hresult]
  · cases Enqueues.of_enqueueBuffer hresult with
    | unrecorded | direct | refused => exact ⟨fun _ => rfl, rfl⟩
    | acquired _ henqueue | notAcquired _ henqueue => cases henqueue

theorem mayCallStale_enqueue {st : GenState Buffer} {b : Buffer} (hstale : st.stale b = true)
    (hrecord : st.surface.getBuffer b = some false) (hheld : b ∈ st.surface.held)
    (hcall : st.surface.call = .none) : MayCallStale st := by
  have hvalid : st.surface.isValid b = true := isValid_of_recorded (by rw [hrecord]; rfl)
  have hbegin : step st.surface (.enqueueBegin b) =
      some { st.surface with call := .enqueueBuffer b } := by simp [step, hcall, hvalid]
  obtain ⟨st₁, hgen, hsurface, hstale₁⟩ := exists_genStep hbegin rfl rfl
  refine MayCallStale.prepend (l := .enqueueBegin b) ?_ hheld hgen
  have hcall₁ : st₁.surface.call = .enqueueBuffer b := by rw [hsurface]
  obtain ⟨surface, hend, -, -, -, hcalls⟩ := exists_step_enqueueEnd hcall₁
  refine mayCallStale_of_call ((hstale₁ b).trans hstale) (handsOutFresh_refused st₁) hend ?_
  have hrecord₁ : st₁.surface.getBuffer b = some false := by
    rw [hsurface]
    exact hrecord
  rw [hcalls, called_eq_callQueue hrecord₁]
  rfl

theorem mayCallStale_of_missed {st : GenState Buffer} {b : Buffer} (hstale : st.stale b = true)
    (hrecord : st.surface.getBuffer b = some false)
    (hplace : b ∈ st.surface.held ++ st.surface.committed) : MayCallStale st := by
  rcases List.mem_append.mp hplace with hheld | hcommitted
  · cases hcall : st.surface.call with
    | none => exact mayCallStale_enqueue hstale hrecord hheld hcall
    | dequeueBuffer =>
        have hend : step st.surface .dequeueWaitFailed =
            some { st.surface with call := .none } := by simp [step, hcall]
        obtain ⟨st₁, hgen, hsurface, hstale₁⟩ := exists_genStep hend rfl rfl
        refine MayCallStale.prepend (l := .dequeueWaitFailed) ?_ trivial hgen
        refine mayCallStale_enqueue ((hstale₁ b).trans hstale) ?_ ?_ ?_
        · rw [hsurface]
          exact hrecord
        · rw [hsurface]
          exact hheld
        · rw [hsurface]
    | enqueueBuffer c =>
        obtain ⟨surface, hend, hcall', hheld', hrecords, hcalls⟩ := exists_step_enqueueEnd hcall
        by_cases hbc : b = c
        · subst hbc
          refine mayCallStale_of_call hstale (handsOutFresh_refused st) hend ?_
          rw [hcalls, called_eq_callQueue hrecord]
          rfl
        · obtain ⟨st₁, hgen, hsurface, hstale₁⟩ := exists_genStep hend rfl rfl
          refine MayCallStale.prepend ?_ (handsOutFresh_refused st) hgen
          refine mayCallStale_enqueue ((hstale₁ b).trans hstale) ?_ ?_ ?_
          · rw [hsurface, hrecords]
            exact hrecord
          · rw [hsurface, hheld']
            exact (List.mem_erase_of_ne hbc).mpr hheld
          · rw [hsurface]
            exact hcall'
  · have hrelease : step st.surface (.release b) = some (State.releaseCallback
        { st.surface with committed := st.surface.committed.erase b } b) := by
      simp [step, hcommitted]
    refine mayCallStale_of_call (l := .release b) hstale trivial hrelease ?_
    rw [releaseCallback_recorded (by rw [hrecord]; rfl), called_eq_callQueue hrecord]
    rfl

/-- A reset that does not find what it has to flag may be followed by a call with a stale
tbm_surface. -/
theorem mayCallStale_of_not_tracked {st st' : GenState Buffer} {l : Label Buffer}
    (h : genSystem.ReachableWhen KeepsTrack st) (hmissed : ¬ ResetsTracked st l)
    (hstep : genStep st l = some st') : MayCallStale st' := by
  have hinv := (inv_reachable h).1
  simp only [ResetsTracked, not_forall, not_or] at hmissed
  obtain ⟨hreset, b, hplace, hdequeued, hattached, hflag⟩ := hmissed
  obtain ⟨surface, hsurface, rfl⟩ := Option.map_eq_some_iff.mp hstep
  have hrecord : st.surface.getBuffer b = some false := by
    have hflags := hinv.flags b (List.mem_append.mp hplace)
    cases hstale : st.stale b with
    | true => exact absurd (hflags.trans (congrArg some hstale)) hflag
    | false => rw [hflags, hstale]
  obtain ⟨n, hn, hdequeuedAt⟩ := hinv.dequeued b (by rw [hrecord]; rfl)
  have hmissed : st.surface.resetCallback.getBuffer b = some false := by
    rw [getBuffer_resetCallback, if_neg (not_or.mpr ⟨hdequeued, hattached⟩)]
    exact hrecord
  have hstale : ∀ surface calls, GenState.stale
      ⟨surface, if resetsQueue st.surface l then st.resets + 1 else st.resets, st.dequeuedAt,
        calls⟩ b = true := by
    intro surface _
    rw [if_pos hreset]
    exact stale_reset hn hdequeuedAt surface
  have hsame := sameTracking_resetCallback st.surface
  have hplace' : b ∈ st.surface.resetCallback.held ++ st.surface.resetCallback.committed := by
    rw [hsame.held, hsame.committed]
    exact hplace
  cases Fires.of_step hsurface with
  | queueReset => exact mayCallStale_of_missed (hstale _ _) hmissed hplace'
  | dequeueBegin =>
      have happly : st.surface.applyResize =
          { st.surface.resetCallback with resized := false, reset := false } := if_pos hreset
      rw [happly]
      exact mayCallStale_of_missed (hstale _ _) hmissed hplace'
  | _ => cases hreset

instance (st : GenState Buffer) (l : Label Buffer) : Decidable (ResetsTracked st l) :=
  inferInstanceAs (Decidable (_ → _))

instance (st : GenState Buffer) (l : Label Buffer) : Decidable (KeepsTrack st l) :=
  inferInstanceAs (Decidable (_ ∧ _))

def newGenState : GenState Nat :=
  ⟨newSurface (fun _ => true) fun _ => none, 0, fun _ => none, []⟩

def resetWhileTracked : List (Label Nat) :=
  [.dequeueBegin, .dequeueEnd ⟨some 1, true, true, true⟩, .enqueueBegin 1,
    .enqueueEnd ⟨.errorNone, some 1, true⟩, .dequeueBegin,
    .dequeueEnd ⟨some 2, true, true, true⟩, .queueReset, .dequeueBegin,
    .dequeueEnd ⟨some 3, true, true, true⟩]

theorem reset_generations_reset_while_tracked :
    ∃ st, genSystem.runWhen KeepsTrack newGenState resetWhileTracked = some st ∧
      (st.surface.dequeuedBuffers = [2, 3] ∧ st.surface.attachedBuffers = [1] ∧
        st.stale 1 = true ∧ st.stale 2 = true ∧ st.stale 3 = false) ∧
      FlagsStale st ∧ st.staleCalls = [] := by
  obtain ⟨st, hrun, hfacts⟩ := genSystem.exists_of_runWhen KeepsTrack
    (fun st => st.surface.dequeuedBuffers = [2, 3] ∧ st.surface.attachedBuffers = [1] ∧
      st.stale 1 = true ∧ st.stale 2 = true ∧ st.stale 3 = false)
    newGenState resetWhileTracked (by decide)
  exact ⟨st, hrun, hfacts, reset_generations (.of_runWhen (.initial ⟨_, rfl⟩) hrun)⟩

/-- A dequeue finds no memory for the node of its buffer, and the queue is reset before
the buffer is enqueued. -/
def resetWhileUntracked : List (Label Nat) :=
  [.dequeueBegin, .dequeueEnd ⟨some 1, true, true, false⟩, .queueReset, .enqueueBegin 1,
    .enqueueEnd ⟨.unknownSurface, none, true⟩]

/-- The buffer goes to `attached_buffers` without the reset flag, and it is given to the
queue that it is no longer of. -/
theorem not_reset_generations :
    (¬ ∀ st : GenState Nat, genSystem.ReachableWhen HandsOutFresh st → FlagsStale st) ∧
    (¬ ∀ st : GenState Nat, genSystem.ReachableWhen HandsOutFresh st → st.staleCalls = []) := by
  constructor
  · intro hall
    obtain ⟨st, hrun, hattached, hbuffer⟩ := genSystem.exists_of_runWhen HandsOutFresh
      (fun st => st.surface.attachedBuffers = [1] ∧
        st.surface.getBuffer 1 ≠ some (st.stale 1)) newGenState resetWhileUntracked (by decide)
    have hmem : 1 ∈ st.surface.attachedBuffers := by
      rw [hattached]
      exact List.mem_singleton.mpr rfl
    exact hbuffer (hall st (.of_runWhen (.initial ⟨_, rfl⟩) hrun) 1 (.inr hmem))
  · intro hall
    obtain ⟨st, hrun, hcalls⟩ := genSystem.exists_of_runWhen HandsOutFresh
      (fun st => st.staleCalls = [1]) newGenState resetWhileUntracked (by decide)
    have hnone := hall st (.of_runWhen (.initial ⟨_, rfl⟩) hrun)
    rw [hcalls] at hnone
    cases hnone

end

end LibtplEgl.ResetGeneration
