import LibtplEgl.WindowFrames

namespace LibtplEgl.CommitDamage

open LibtplEgl.LabelledSystem
open LibtplEgl.PixelRegion
open LibtplEgl.WaylandEglSurface (EnqueueOutcome)
open LibtplEgl.WindowCallbacks (WlEglWindow)
open LibtplEgl.WindowFrames

universe u v

section

variable {Surface : Type u} {Buffer : Type v}

/-- The attached size is the buffer's, a commit without rectangles damages the whole
buffer, and another one the mirror image of its rectangles. -/
structure Described (record : CommitRecord Buffer) : Prop where
  attachedSize : record.attachedSize = (record.size.width, record.size.height)
  whole : givenRects record.numRects record.rects = none →
    ∀ p, record.size.rect.Contains p → Covers record.damage p
  mirrored : ∀ rects, givenRects record.numRects record.rects = some rects →
    (∀ r ∈ rects, r.Inside record.size.rect) →
      ∀ p, Covers record.damage p ↔ Covers rects (p.1, record.size.height - 1 - p.2)

def CommitsDescribed (st : State Surface Buffer) : Prop :=
  ∀ record, .commit record ∈ st.history → Described record

/-- The window has the buffer's size and, where the whole buffer is damaged, no offset. -/
def Fits (window : WlEglWindow Surface) (size : TbmSize) (numRects : Int)
    (rects : Option (List Rect)) : Prop :=
  window.width = size.width ∧ window.height = size.height ∧
    (givenRects numRects rects = none → window.dx = 0 ∧ window.dy = 0)

instance (window : WlEglWindow Surface) (size : TbmSize) (numRects : Int)
    (rects : Option (List Rect)) : Decidable (Fits window size numRects rects) :=
  inferInstanceAs (Decidable (_ ∧ _ ∧ (_ → _)))

theorem damage_mirrored {window : WlEglWindow Surface} {numRects : Int}
    {rects : Option (List Rect)} {given : List Rect}
    (hgiven : givenRects numRects rects = some given) (p : Int × Int) :
    Covers (damage window numRects rects) p ↔ Covers given (p.1, window.height - 1 - p.2) := by
  have hflip : damage window numRects rects = given.map fun r => r.flip window.height := by
    simp only [damage, hgiven]
    rfl
  rw [hflip]
  exact covers_map_flip given window.height p

theorem damage_whole {window : WlEglWindow Surface} {numRects : Int}
    {rects : Option (List Rect)} (hgiven : givenRects numRects rects = none) :
    damage window numRects rects = [⟨window.dx, window.dy, window.width, window.height⟩] := by
  simp only [damage, hgiven]

/-- A commit describes its buffer exactly when the buffer fits the window. -/
theorem described_iff (st : State Surface Buffer) (b : Buffer) (numRects : Int)
    (rects : Option (List Rect)) :
    Described (st.commitRecord b numRects rects) ↔
      Fits st.window.window (st.bufferSize b) numRects rects := by
  constructor
  · intro h
    obtain ⟨hwidth, hheight⟩ := Prod.mk.inj h.attachedSize
    refine ⟨hwidth, hheight, fun hgiven => ?_⟩
    have hcovers : ∀ p, (st.bufferSize b).rect.Contains p →
        Rect.Contains ⟨st.window.window.dx, st.window.window.dy, st.window.window.width,
          st.window.window.height⟩ p := by
      intro p hp
      have hp' : Covers (damage st.window.window numRects rects) p := h.whole hgiven p hp
      rw [damage_whole hgiven, covers_singleton] at hp'
      exact hp'
    exact Rect.corner_eq_of_covers hwidth hheight
      ⟨(st.bufferSize b).width_pos, (st.bufferSize b).height_pos⟩ hcovers
  · rintro ⟨hwidth, hheight, hoffset⟩
    refine ⟨Prod.ext hwidth hheight, fun hgiven p hp => ?_, fun given hgiven _ p => ?_⟩
    · have hnone : givenRects numRects rects = none := hgiven
      show Covers (damage st.window.window numRects rects) p
      rw [damage_whole hnone, covers_singleton, (hoffset hnone).1, (hoffset hnone).2, hwidth,
        hheight]
      exact hp
    · show Covers (damage st.window.window numRects rects) p ↔
        Covers given (p.1, (st.bufferSize b).height - 1 - p.2)
      rw [← hheight]
      exact damage_mirrored hgiven p

variable [DecidableEq Buffer]

/-- The buffer that an enqueue commits fits the window. -/
def CommitsFitting (st : State Surface Buffer) : Label Surface Buffer → Prop
  | .enqueueBuffer b numRects rects out => ∀ committed ∈ st.toCommit b out,
      Fits st.window.window (st.bufferSize committed) numRects rects
  | _ => True

omit [DecidableEq Buffer] in
theorem commitsDescribed_newWindow (width height : Int) (bufferSize : Buffer → TbmSize) :
    CommitsDescribed (newWindow width height bufferSize : State Surface Buffer) := by
  rintro record ⟨⟩

variable [DecidableEq Surface]

theorem commitsDescribed_step {st st' : State Surface Buffer} {l : Label Surface Buffer}
    (h : CommitsDescribed st) (hallowed : CommitsFitting st l) (hstep : step st l = some st') :
    CommitsDescribed st' := by
  intro record hrecord
  cases Records.of_step hstep with
  | resize _ hhistory =>
      rw [hhistory] at hrecord
      rcases List.mem_cons.mp hrecord with heq | hold
      · cases heq
      · exact h record hold
  | commit hcommit _ hhistory =>
      rw [hhistory] at hrecord
      rcases List.mem_cons.mp hrecord with heq | hold
      · cases heq
        exact (described_iff st _ _ _).mpr (hallowed _ hcommit)
      · exact h record hold
  | quiet _ _ hhistory =>
      rw [hhistory] at hrecord
      exact h record hrecord

theorem commitsFitting_of_described {st st' : State Surface Buffer} {l : Label Surface Buffer}
    (hstep : step st l = some st') (h : CommitsDescribed st') : CommitsFitting st l := by
  cases Records.of_step hstep with
  | resize _ _ => trivial
  | commit hcommit _ hhistory =>
      intro committed hcommitted
      obtain rfl := Option.some.inj (hcommit.symm.trans hcommitted)
      refine (described_iff st _ _ _).mp (h _ ?_)
      rw [hhistory]
      exact List.mem_cons_self
  | quiet hcommit _ _ =>
      cases l with
      | enqueueBuffer b numRects rects out =>
          intro committed hcommitted
          cases (hcommit b numRects rects out rfl).symm.trans hcommitted
      | resize _ _ _ _ | setRotation _ | surfaceCreate _ | queueReset | dequeueBuffer _ _ _
      | release _ => trivial

/-- The commits describe their buffers in exactly the runs in which every buffer fits the
window when it is committed. -/
theorem commitsDescribed_iff (width height : Int) (bufferSize : Buffer → TbmSize)
    (ls : List (Label Surface Buffer)) (st : State Surface Buffer)
    (hrun : frameSystem.run (newWindow width height bufferSize) ls = some st) :
    frameSystem.Always CommitsDescribed (newWindow width height bufferSize) ls ↔
      frameSystem.EveryStep CommitsFitting (newWindow width height bufferSize) ls := by
  have hinit : CommitsDescribed (newWindow width height bufferSize : State Surface Buffer) :=
    commitsDescribed_newWindow width height bufferSize
  refine System.always_iff_everyStep hinit hrun ?_ ?_ ?_
  · intro _ _ _ h hallowed hstep
    exact commitsDescribed_step h hallowed hstep
  · intro _ h
    exact h
  · intro _ _ _ _ hstep h
    exact commitsFitting_of_described hstep h

def twoFrames : List (Label Nat Nat) :=
  [.surfaceCreate 0, .dequeueBuffer true (some 1) ⟨some 1, true, true, true⟩,
    .enqueueBuffer 1 0 none ⟨.errorNone, some 1, true⟩,
    .dequeueBuffer true (some 2) ⟨some 2, true, true, true⟩,
    .enqueueBuffer 2 1 (some [⟨0, 0, 10, 5⟩]) ⟨.errorNone, some 2, true⟩]

theorem commitsDescribed_twoFrames :
    ∃ st, frameSystem.run newPair twoFrames = some st ∧
      (frameSystem.Always CommitsDescribed newPair twoFrames ↔
        frameSystem.EveryStep CommitsFitting newPair twoFrames) := by
  obtain ⟨st, hrun, -⟩ := frameSystem.exists_of_run (fun st => st.history.length = 2) newPair
    twoFrames (by decide)
  exact ⟨st, hrun, commitsDescribed_iff 60 30 unitSize twoFrames st hrun⟩

/-- What is committed when the window is resized while the client draws. -/
def resizedCommit : CommitRecord Nat where
  buffer := 1
  size := ⟨60, 30, by decide, by decide⟩
  numRects := 0
  rects := none
  offset := (0, 0)
  damage := [⟨0, 0, 80, 40⟩]
  attachedSize := (80, 40)

theorem not_commitsDescribed :
    ¬ ∀ st : State Nat Nat, frameSystem.Reachable st → CommitsDescribed st := by
  intro hall
  obtain ⟨st, hrun, hrecord⟩ := frameSystem.exists_of_run
    (fun st => .commit resizedCommit ∈ st.history) newPair
    [.surfaceCreate 0, .dequeueBuffer true (some 1) ⟨some 1, true, true, true⟩, .resize 80 40 0 0,
      .enqueueBuffer 1 0 none ⟨.errorNone, some 1, true⟩] (by decide)
  have hdescribed := hall st (.of_run (.initial ⟨_, _, _, rfl⟩) hrun) _ hrecord
  exact absurd hdescribed.attachedSize (by decide)

end

end LibtplEgl.CommitDamage
