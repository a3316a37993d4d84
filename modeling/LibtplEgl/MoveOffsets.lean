import LibtplEgl.WindowFrames

namespace LibtplEgl.MoveOffsets

open LibtplEgl.LabelledSystem
open LibtplEgl.WindowFrames

universe u v

section

variable {Surface : Type u} {Buffer : Type v}

/-- The offset of the latest resize, when no commit has come since. -/
def pendingMove : List (Event Buffer) → Option (Int × Int)
  | .resize dx dy :: _ => some (dx, dy)
  | _ => none

/-- Every commit attaches at the offset of the resize before it, or at (0, 0). -/
def AttachesPending : List (Event Buffer) → Prop
  | [] => True
  | .resize _ _ :: older => AttachesPending older
  | .commit record :: older =>
      record.offset = (pendingMove older).getD (0, 0) ∧ AttachesPending older

/-- For each resize, and before them for the time without one, the number of commits up
to the next resize that attach at another offset than (0, 0). -/
def movingCommits : List (Event Buffer) → List Nat
  | [] => [0]
  | .resize _ _ :: older => 0 :: movingCommits older
  | .commit record :: older =>
      match movingCommits older with
      | [] => []
      | n :: rest => (if record.offset = (0, 0) then n else n + 1) :: rest

def shift (first second : Int × Int) : Int × Int := (first.1 + second.1, first.2 + second.2)

/-- The total of the offsets that the commits attach at. -/
def displacement : List (Event Buffer) → Int × Int
  | [] => (0, 0)
  | .resize _ _ :: older => displacement older
  | .commit record :: older => shift (displacement older) record.offset

/-- The offsets that were the latest at a commit following their resize. -/
def moves : List (Event Buffer) → List (Int × Int)
  | [] => []
  | .resize _ _ :: older => moves older
  | .commit _ :: older => moves older ++ (pendingMove older).toList

/-- The offset of a resize is attached at by one commit at most. -/
structure AppliedOnce (st : State Surface Buffer) : Prop where
  attaches : AttachesPending st.history
  once : ∀ n ∈ movingCommits st.history, n ≤ 1
  total : displacement st.history = (moves st.history).foldl shift (0, 0)

theorem once_of_attaches {history : List (Event Buffer)} (h : AttachesPending history) :
    ∃ n rest, movingCommits history = n :: rest ∧ (∀ m ∈ n :: rest, m ≤ 1) ∧
      (pendingMove history ≠ none → n = 0) := by
  induction history with
  | nil => exact ⟨0, [], rfl, by simp, fun _ => rfl⟩
  | cons event older ih =>
      cases event with
      | resize dx dy =>
          obtain ⟨n, rest, hmoving, hle, -⟩ := ih h
          refine ⟨0, n :: rest, by rw [movingCommits, hmoving], fun m hm => ?_, fun _ => rfl⟩
          rcases List.mem_cons.mp hm with rfl | hold
          · exact Nat.zero_le 1
          · exact hle m hold
      | commit record =>
          obtain ⟨hoffset, holder⟩ := h
          obtain ⟨n, rest, hmoving, hle, hzero⟩ := ih holder
          refine ⟨_, rest, by rw [movingCommits, hmoving], fun m hm => ?_,
            fun hne => (hne rfl).elim⟩
          rcases List.mem_cons.mp hm with rfl | hold
          · cases hpending : pendingMove older with
            | none =>
                rw [if_pos (by rw [hoffset, hpending]; rfl)]
                exact hle n List.mem_cons_self
            | some move =>
                have hn : n = 0 := hzero (by rw [hpending]; exact Option.some_ne_none move)
                split <;> omega
          · exact hle m (List.mem_cons_of_mem n hold)

theorem displacement_of_attaches {history : List (Event Buffer)} (h : AttachesPending history) :
    displacement history = (moves history).foldl shift (0, 0) := by
  induction history with
  | nil => rfl
  | cons event older ih =>
      cases event with
      | resize dx dy => exact ih h
      | commit record =>
          obtain ⟨hoffset, holder⟩ := h
          rw [displacement, moves, List.foldl_append, ← ih holder, hoffset]
          cases pendingMove older with
          | none => simp [shift]
          | some move => rfl

theorem appliedOnce_of_attaches {st : State Surface Buffer} (h : AttachesPending st.history) :
    AppliedOnce st := by
  obtain ⟨n, rest, hmoving, hle, -⟩ := once_of_attaches h
  refine ⟨h, ?_, displacement_of_attaches h⟩
  rw [hmoving]
  exact hle

variable [DecidableEq Buffer]

/-- A commit without a resize since the one before finds no offset in the window. -/
def MovesFresh (st : State Surface Buffer) : Label Surface Buffer → Prop
  | .enqueueBuffer b _ _ out =>
      st.toCommit b out ≠ none → pendingMove st.history = none → offset st.window = (0, 0)
  | _ => True

omit [DecidableEq Buffer] in
structure Inv (st : State Surface Buffer) : Prop where
  attaches : AttachesPending st.history
  pending : ∀ move ∈ pendingMove st.history, offset st.window = move

omit [DecidableEq Buffer] in
theorem inv_newWindow (width height : Int) (bufferSize : Buffer → TbmSize) :
    Inv (newWindow width height bufferSize : State Surface Buffer) :=
  ⟨trivial, by rintro move ⟨⟩⟩

variable [DecidableEq Surface]

theorem inv_step {st st' : State Surface Buffer} {l : Label Surface Buffer} (h : Inv st)
    (hallowed : MovesFresh st l) (hstep : step st l = some st') : Inv st' := by
  cases Records.of_step hstep with
  | resize hoffset hhistory =>
      refine ⟨?_, fun move hmove => ?_⟩
      · rw [hhistory]
        exact h.attaches
      · rw [hhistory] at hmove
        cases hmove
        exact hoffset
  | commit hcommit _ hhistory =>
      refine ⟨?_, fun move hmove => ?_⟩
      · rw [hhistory]
        refine ⟨?_, h.attaches⟩
        show offset st.window = _
        cases hpending : pendingMove st.history with
        | none => exact hallowed (by rw [hcommit]; exact Option.some_ne_none _) hpending
        | some move => exact h.pending move hpending
      · rw [hhistory] at hmove
        cases hmove
  | quiet _ hoffset hhistory =>
      refine ⟨?_, fun move hmove => ?_⟩
      · rw [hhistory]
        exact h.attaches
      · rw [hhistory] at hmove
        rw [hoffset]
        exact h.pending move hmove

theorem movesFresh_of_attaches {st st' : State Surface Buffer} {l : Label Surface Buffer}
    (hstep : step st l = some st') (h : AttachesPending st'.history) : MovesFresh st l := by
  cases Records.of_step hstep with
  | resize _ _ => trivial
  | commit _ _ hhistory =>
      intro _ hpending
      rw [hhistory] at h
      have hoffset : offset st.window = (pendingMove st.history).getD (0, 0) := h.1
      rw [hoffset, hpending]
      rfl
  | quiet hcommit _ _ =>
      cases l with
      | enqueueBuffer b numRects rects out =>
          intro hne
          exact (hne (hcommit b numRects rects out rfl)).elim
      | resize _ _ _ _ | setRotation _ | surfaceCreate _ | queueReset | dequeueBuffer _ _ _
      | release _ => trivial

/-- Every offset is applied once in exactly the runs in which no commit finds the offset
of a resize from before the commit before it. -/
theorem appliedOnce_iff (width height : Int) (bufferSize : Buffer → TbmSize)
    (ls : List (Label Surface Buffer)) (st : State Surface Buffer)
    (hrun : frameSystem.run (newWindow width height bufferSize) ls = some st) :
    frameSystem.Always AppliedOnce (newWindow width height bufferSize) ls ↔
      frameSystem.EveryStep MovesFresh (newWindow width height bufferSize) ls := by
  have hinit : Inv (newWindow width height bufferSize : State Surface Buffer) :=
    inv_newWindow width height bufferSize
  refine System.always_iff_everyStep hinit hrun ?_ ?_ ?_
  · intro _ _ _ h hallowed hstep
    exact inv_step h hallowed hstep
  · intro _ h
    exact appliedOnce_of_attaches h.attaches
  · intro _ _ _ _ hstep h
    exact movesFresh_of_attaches hstep h.attaches

def movedFrame : List (Label Nat Nat) :=
  [.surfaceCreate 0, .resize 60 30 5 0, .dequeueBuffer true (some 1) ⟨some 1, true, true, true⟩,
    .enqueueBuffer 1 0 none ⟨.errorNone, some 1, true⟩]

theorem appliedOnce_movedFrame :
    ∃ st, frameSystem.run newPair movedFrame = some st ∧
      (frameSystem.Always AppliedOnce newPair movedFrame ↔
        frameSystem.EveryStep MovesFresh newPair movedFrame) := by
  obtain ⟨st, hrun, -⟩ := frameSystem.exists_of_run (fun st => st.history.length = 2) newPair
    movedFrame (by decide)
  exact ⟨st, hrun, appliedOnce_iff 60 30 unitSize movedFrame st hrun⟩

/-- The second frame moves the window by the offset of the first one. -/
theorem not_appliedOnce :
    ¬ ∀ st : State Nat Nat, frameSystem.Reachable st → AppliedOnce st := by
  intro hall
  obtain ⟨st, hrun, htotal, hmoves⟩ := frameSystem.exists_of_run
    (fun st => displacement st.history = (10, 0) ∧ moves st.history = [(5, 0)]) newPair
    (movedFrame ++ [.dequeueBuffer true (some 2) ⟨some 2, true, true, true⟩,
      .enqueueBuffer 2 0 none ⟨.errorNone, some 2, true⟩]) (by decide)
  have happlied := (hall st (.of_run (.initial ⟨_, _, _, rfl⟩) hrun)).total
  rw [htotal, hmoves] at happlied
  exact absurd happlied (by decide)

end

end LibtplEgl.MoveOffsets
