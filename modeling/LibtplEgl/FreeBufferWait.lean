import LibtplEgl.LabelledSystem
import LibtplEgl.OwnedMutex
import Mathlib.Logic.Function.Basic

namespace LibtplEgl.FreeBufferWait

open LibtplEgl.LabelledSystem
open LibtplEgl.OwnedMutex

universe u

inductive Backend
  | waylandEgl
  | waylandVulkanWsi
  | tbm
  | gbm
  deriving DecidableEq, Repr

/-- Where the dequeuing thread is in `tpl_surface_dequeue_buffer_with_sync` and
the `dequeue_buffer` of the backend. -/
inductive DequeuePc
  | idle
  | entered
  | locked
  | testFree
  | dispatchWait
  | condWait
  | canDequeueWait
  | relock (ok : Bool)
  | take
  | unlock
  deriving DecidableEq, Repr

/-- Where a thread is in `tpl_surface_enqueue_buffer_with_damage_and_sync` and
the `enqueue_buffer` of the backend. -/
inductive EnqueuePc
  | idle
  | entered
  | locked
  | vblankWait
  | relock
  | unlock
  deriving DecidableEq, Repr

/-- Between `TPL_OBJECT_LOCK` and `TPL_OBJECT_UNLOCK`. -/
def DequeuePc.holds : DequeuePc → Bool
  | .locked | .testFree | .condWait | .canDequeueWait | .take | .unlock => true
  | _ => false

/-- Waiting for a free buffer: dispatching events, on `free_queue_cond`, or in
`tbm_surface_queue_can_dequeue(queue, 1)`. -/
def DequeuePc.waits : DequeuePc → Bool
  | .dispatchWait | .condWait | .canDequeueWait => true
  | _ => false

def EnqueuePc.holds : EnqueuePc → Bool
  | .locked | .unlock => true
  | _ => false

inductive Party (Client : Type u)
  | dequeuer
  | enqueuer (c : Client)
  deriving DecidableEq, Repr

structure State (Client : Type u) where
  backend : Backend
  mutex : Option (Party Client)
  free : Nat
  dequeuer : DequeuePc
  enqueuer : Client → EnqueuePc

inductive Label (Client : Type u)
  | dequeueBuffer
  | dequeueLock
  | frontbuffer (answered : Bool)
  | testFree
  | dispatched (ok : Bool)
  | condSignalled (timedOut : Bool)
  | canDequeue
  | dequeueRelock
  | take
  | dequeueUnlock
  | enqueueBuffer (c : Client)
  | enqueueLock (c : Client)
  | vblankUnlock (c : Client)
  | vblankDone (c : Client)
  | enqueueRelock (c : Client)
  | post (c : Client) (released : Nat)
  | enqueueUnlock (c : Client)
  | queueRelease
  | queueReset (free : Nat)
  deriving DecidableEq, Repr

/-- What a backend does when it finds no free buffer: wayland-egl unlocks the
surface before it waits, the others wait as they are. -/
def Backend.waitFree : Backend → DequeuePc
  | .waylandEgl => .dispatchWait
  | .waylandVulkanWsi => .condWait
  | .tbm | .gbm => .canDequeueWait

section

variable {Client : Type u} [DecidableEq Client]

def State.setEnqueuer (st : State Client) (c : Client) (pc : EnqueuePc) : State Client :=
  { st with enqueuer := Function.update st.enqueuer c pc }

def step (st : State Client) : Label Client → Option (State Client)
  | .dequeueBuffer =>
      match st.dequeuer with
      | .idle => some { st with dequeuer := .entered }
      | _ => none
  | .dequeueLock =>
      match st.dequeuer, st.mutex with
      | .entered, none => some { st with dequeuer := .locked, mutex := some .dequeuer }
      | _, _ => none
  | .frontbuffer answered =>
      match st.dequeuer with
      | .locked => some { st with dequeuer := if answered then .unlock else .testFree }
      | _ => none
  | .testFree =>
      match st.dequeuer with
      | .testFree =>
          if 0 < st.free then some { st with dequeuer := .take }
          else match st.backend with
            | .waylandEgl => some { st with dequeuer := .dispatchWait, mutex := none }
            | backend => some { st with dequeuer := backend.waitFree }
      | _ => none
  | .dispatched ok =>
      match st.dequeuer with
      | .dispatchWait =>
          if ok = false then some { st with dequeuer := .relock false }
          else if 0 < st.free then some { st with dequeuer := .relock true }
          else some st
      | _ => none
  | .condSignalled timedOut =>
      match st.dequeuer with
      | .condWait =>
          if timedOut then some { st with dequeuer := .unlock }
          else if 0 < st.free then some { st with dequeuer := .take }
          else some st
      | _ => none
  | .canDequeue =>
      match st.dequeuer with
      | .canDequeueWait => if 0 < st.free then some { st with dequeuer := .take } else none
      | _ => none
  | .dequeueRelock =>
      match st.dequeuer, st.mutex with
      | .relock ok, none =>
          some { st with
            dequeuer := if ok then .take else .unlock
            mutex := some .dequeuer }
      | _, _ => none
  | .take =>
      match st.dequeuer with
      | .take => some { st with dequeuer := .unlock, free := st.free - 1 }
      | _ => none
  | .dequeueUnlock =>
      match st.dequeuer with
      | .unlock => some { st with dequeuer := .idle, mutex := none }
      | _ => none
  | .enqueueBuffer c =>
      match st.enqueuer c with
      | .idle => some (st.setEnqueuer c .entered)
      | _ => none
  | .enqueueLock c =>
      match st.enqueuer c, st.mutex with
      | .entered, none =>
          some ({ st with mutex := some (.enqueuer c) }.setEnqueuer c .locked)
      | _, _ => none
  | .vblankUnlock c =>
      match st.enqueuer c, st.backend with
      | .locked, .waylandEgl => some ({ st with mutex := none }.setEnqueuer c .vblankWait)
      | _, _ => none
  | .vblankDone c =>
      match st.enqueuer c with
      | .vblankWait => some (st.setEnqueuer c .relock)
      | _ => none
  | .enqueueRelock c =>
      match st.enqueuer c, st.mutex with
      | .relock, none => some ({ st with mutex := some (.enqueuer c) }.setEnqueuer c .locked)
      | _, _ => none
  | .post c released =>
      match st.enqueuer c with
      | .locked => some ({ st with free := st.free + released }.setEnqueuer c .unlock)
      | _ => none
  | .enqueueUnlock c =>
      match st.enqueuer c with
      | .unlock => some ({ st with mutex := none }.setEnqueuer c .idle)
      | _ => none
  | .queueRelease => some { st with free := st.free + 1 }
  | .queueReset free => some { st with free := free }

def quiet (backend : Backend) (free : Nat) : State Client where
  backend := backend
  mutex := none
  free := free
  dequeuer := .idle
  enqueuer := fun _ => .idle

def surfaceSystem : System (State Client) (Label Client) where
  Initial st := ∃ backend free, st = quiet backend free
  step := step

end

section

variable {Client : Type u}

/-- Whose critical section of the object mutex is running. -/
def State.holds (st : State Client) : Party Client → Prop
  | .dequeuer => st.dequeuer.holds = true
  | .enqueuer c => (st.enqueuer c).holds = true

@[simp] theorem holds_dequeuer (st : State Client) :
    st.holds .dequeuer ↔ st.dequeuer.holds = true := Iff.rfl

@[simp] theorem holds_enqueuer (st : State Client) (c : Client) :
    st.holds (.enqueuer c) ↔ (st.enqueuer c).holds = true := Iff.rfl

theorem holds_others_of_enqueuer {st st' : State Client} (henq : st'.enqueuer = st.enqueuer)
    (q : Party Client) (hq : q ≠ .dequeuer) : st'.holds q ↔ st.holds q := by
  cases q with
  | dequeuer => exact absurd rfl hq
  | enqueuer c => rw [holds_enqueuer, holds_enqueuer, henq]

theorem owns_of_dequeuer {st st' : State Client} (h : Owns st.mutex st.holds)
    (hmutex : st'.mutex = st.mutex) (henq : st'.enqueuer = st.enqueuer)
    (hpc : st'.dequeuer.holds = st.dequeuer.holds) : Owns st'.mutex st'.holds := by
  rw [hmutex]
  refine h.keep fun q => ?_
  cases q with
  | dequeuer => rw [holds_dequeuer, holds_dequeuer, hpc]
  | enqueuer c => rw [holds_enqueuer, holds_enqueuer, henq]

theorem owns_dequeuer_acquire {st st' : State Client} (h : Owns st.mutex st.holds)
    (hfree : st.mutex = none) (hmutex : st'.mutex = some .dequeuer)
    (henq : st'.enqueuer = st.enqueuer) (hpc : st'.dequeuer.holds = true) :
    Owns st'.mutex st'.holds := by
  rw [hfree] at h
  rw [hmutex]
  exact h.acquire hpc (holds_others_of_enqueuer henq)

theorem owns_dequeuer_release {st st' : State Client} (h : Owns st.mutex st.holds)
    (hin : st.dequeuer.holds = true) (hmutex : st'.mutex = none)
    (henq : st'.enqueuer = st.enqueuer) (hpc : st'.dequeuer.holds = false) :
    Owns st'.mutex st'.holds := by
  rw [hmutex]
  refine h.release ((holds_dequeuer st).mpr hin) ?_ (holds_others_of_enqueuer henq)
  rw [holds_dequeuer, hpc]
  exact Bool.false_ne_true

/-- Only the thread of client `c` moves, to `pc`. -/
structure EnqueuerMoves [DecidableEq Client] (st st' : State Client) (c : Client)
    (pc : EnqueuePc) : Prop where
  dequeuer : st'.dequeuer = st.dequeuer
  enqueuer : st'.enqueuer = Function.update st.enqueuer c pc

section

variable [DecidableEq Client] {st st' : State Client} {c : Client} {pc : EnqueuePc}

theorem EnqueuerMoves.holds_self (h : EnqueuerMoves st st' c pc) :
    st'.holds (.enqueuer c) ↔ pc.holds = true := by
  rw [holds_enqueuer, h.enqueuer, Function.update_self]

theorem EnqueuerMoves.holds_others (h : EnqueuerMoves st st' c pc) (q : Party Client)
    (hq : q ≠ .enqueuer c) : st'.holds q ↔ st.holds q := by
  cases q with
  | dequeuer => rw [holds_dequeuer, holds_dequeuer, h.dequeuer]
  | enqueuer d =>
      have hne : d ≠ c := fun heq => hq (by rw [heq])
      rw [holds_enqueuer, holds_enqueuer, h.enqueuer, Function.update_of_ne hne]

theorem EnqueuerMoves.owns_keep (h : EnqueuerMoves st st' c pc) (howns : Owns st.mutex st.holds)
    (hmutex : st'.mutex = st.mutex) (hpc : pc.holds = (st.enqueuer c).holds) :
    Owns st'.mutex st'.holds := by
  rw [hmutex]
  refine howns.keep fun q => ?_
  by_cases hq : q = .enqueuer c
  · rw [hq, h.holds_self, hpc, holds_enqueuer]
  · exact h.holds_others q hq

theorem EnqueuerMoves.owns_acquire (h : EnqueuerMoves st st' c pc)
    (howns : Owns st.mutex st.holds) (hfree : st.mutex = none)
    (hmutex : st'.mutex = some (.enqueuer c)) (hpc : pc.holds = true) :
    Owns st'.mutex st'.holds := by
  rw [hfree] at howns
  rw [hmutex]
  exact howns.acquire (h.holds_self.mpr hpc) h.holds_others

theorem EnqueuerMoves.owns_release (h : EnqueuerMoves st st' c pc)
    (howns : Owns st.mutex st.holds) (hin : (st.enqueuer c).holds = true)
    (hmutex : st'.mutex = none) (hpc : pc.holds = false) : Owns st'.mutex st'.holds := by
  rw [hmutex]
  refine howns.release ((holds_enqueuer st c).mpr hin) ?_ h.holds_others
  rw [h.holds_self, hpc]
  exact Bool.false_ne_true

end

/-- What the object mutex is for: the dequeuing thread never waits for a free
buffer while it owns the mutex, so that an enqueue which has been called can
lock the surface, or the one that has locked it can go on. -/
structure LetsEnqueue [DecidableEq Client] (st : State Client) : Prop where
  apart : st.dequeuer.waits = true → st.mutex ≠ some .dequeuer
  progress : st.dequeuer.waits = true → ∀ c, st.enqueuer c = .entered →
    ∃ d st', step st (.enqueueLock d) = some st' ∨ step st (.post d 0) = some st' ∨
      step st (.enqueueUnlock d) = some st'

/-- A test of the free list by a backend that does not unlock the surface finds
a buffer. -/
def FindsFree (st : State Client) (l : Label Client) : Prop :=
  l = .testFree → st.backend = .waylandEgl ∨ 0 < st.free

structure Inv (st : State Client) : Prop where
  owns : Owns st.mutex st.holds
  apart : st.dequeuer.waits = true → st.dequeuer.holds = false

theorem inv_quiet (backend : Backend) (free : Nat) :
    Inv (quiet backend free : State Client) := by
  refine ⟨fun p => iff_of_false ?_ nofun, nofun⟩
  cases p with
  | dequeuer => exact nofun
  | enqueuer c => exact nofun

theorem Inv.dequeuer {st st' : State Client} {pc : DequeuePc} (h : Inv st)
    (hpc : st.dequeuer = pc) (hmutex : st'.mutex = st.mutex)
    (henq : st'.enqueuer = st.enqueuer) (hholds : st'.dequeuer.holds = pc.holds)
    (hwaits : st'.dequeuer.waits = false) : Inv st' := by
  refine ⟨owns_of_dequeuer h.owns hmutex henq (by rw [hpc, hholds]), fun htrue => ?_⟩
  rw [hwaits] at htrue
  cases htrue

end

section

variable {Client : Type u} [DecidableEq Client]

theorem Inv.enqueuer {st st' : State Client} {c : Client} {pc : EnqueuePc} (h : Inv st)
    (hmoves : EnqueuerMoves st st' c pc) (howns : Owns st'.mutex st'.holds) : Inv st' :=
  ⟨howns, by rw [hmoves.dequeuer]; exact h.apart⟩

theorem inv_step {st st' : State Client} {l : Label Client} (h : Inv st)
    (hallowed : FindsFree st l) (hstep : step st l = some st') : Inv st' := by
  cases l with
  | dequeueBuffer =>
      simp only [step] at hstep
      split at hstep
      · rename_i hpc
        cases hstep
        exact h.dequeuer hpc rfl rfl rfl rfl
      · cases hstep
  | dequeueLock =>
      simp only [step] at hstep
      split at hstep
      · rename_i hfree
        cases hstep
        exact ⟨owns_dequeuer_acquire h.owns hfree rfl rfl rfl, nofun⟩
      · cases hstep
  | frontbuffer answered =>
      simp only [step] at hstep
      split at hstep
      · rename_i hpc
        cases hstep
        cases answered with
        | false => exact h.dequeuer hpc rfl rfl rfl rfl
        | true => exact h.dequeuer hpc rfl rfl rfl rfl
      · cases hstep
  | testFree =>
      simp only [step] at hstep
      split at hstep
      · rename_i hpc
        split at hstep
        · cases hstep
          exact h.dequeuer hpc rfl rfl rfl rfl
        · rename_i hfree
          have hbackend : st.backend = .waylandEgl := (hallowed rfl).resolve_right hfree
          rw [hbackend] at hstep
          cases hstep
          exact ⟨owns_dequeuer_release h.owns (by rw [hpc]; rfl) rfl rfl rfl, fun _ => rfl⟩
      · cases hstep
  | dispatched ok =>
      simp only [step] at hstep
      split at hstep
      · rename_i hpc
        split at hstep
        · cases hstep
          exact h.dequeuer hpc rfl rfl rfl rfl
        · split at hstep
          · cases hstep
            exact h.dequeuer hpc rfl rfl rfl rfl
          · cases hstep
            exact h
      · cases hstep
  | condSignalled timedOut =>
      simp only [step] at hstep
      split at hstep
      · rename_i hpc
        split at hstep
        · cases hstep
          exact h.dequeuer hpc rfl rfl rfl rfl
        · split at hstep
          · cases hstep
            exact h.dequeuer hpc rfl rfl rfl rfl
          · cases hstep
            exact h
      · cases hstep
  | canDequeue =>
      simp only [step] at hstep
      split at hstep
      · rename_i hpc
        split at hstep
        · cases hstep
          exact h.dequeuer hpc rfl rfl rfl rfl
        · cases hstep
      · cases hstep
  | dequeueRelock =>
      simp only [step] at hstep
      split at hstep
      · rename_i ok hpc hfree
        cases hstep
        cases ok with
        | false => exact ⟨owns_dequeuer_acquire h.owns hfree rfl rfl rfl, nofun⟩
        | true => exact ⟨owns_dequeuer_acquire h.owns hfree rfl rfl rfl, nofun⟩
      · cases hstep
  | take =>
      simp only [step] at hstep
      split at hstep
      · rename_i hpc
        cases hstep
        exact h.dequeuer hpc rfl rfl rfl rfl
      · cases hstep
  | dequeueUnlock =>
      simp only [step] at hstep
      split at hstep
      · rename_i hpc
        cases hstep
        exact ⟨owns_dequeuer_release h.owns (by rw [hpc]; rfl) rfl rfl rfl, nofun⟩
      · cases hstep
  | enqueueBuffer c =>
      simp only [step] at hstep
      split at hstep
      · rename_i hpc
        cases hstep
        have hmoves : EnqueuerMoves st (st.setEnqueuer c .entered) c .entered := ⟨rfl, rfl⟩
        exact h.enqueuer hmoves (hmoves.owns_keep h.owns rfl (by rw [hpc]; rfl))
      · cases hstep
  | enqueueLock c =>
      simp only [step] at hstep
      split at hstep
      · rename_i hfree
        cases hstep
        have hmoves : EnqueuerMoves st
            ({ st with mutex := some (.enqueuer c) }.setEnqueuer c .locked) c .locked := ⟨rfl, rfl⟩
        exact h.enqueuer hmoves (hmoves.owns_acquire h.owns hfree rfl rfl)
      · cases hstep
  | vblankUnlock c =>
      simp only [step] at hstep
      split at hstep
      · rename_i hpc _
        cases hstep
        have hmoves : EnqueuerMoves st ({ st with mutex := none }.setEnqueuer c .vblankWait) c
            .vblankWait := ⟨rfl, rfl⟩
        exact h.enqueuer hmoves (hmoves.owns_release h.owns (by rw [hpc]; rfl) rfl rfl)
      · cases hstep
  | vblankDone c =>
      simp only [step] at hstep
      split at hstep
      · rename_i hpc
        cases hstep
        have hmoves : EnqueuerMoves st (st.setEnqueuer c .relock) c .relock := ⟨rfl, rfl⟩
        exact h.enqueuer hmoves (hmoves.owns_keep h.owns rfl (by rw [hpc]; rfl))
      · cases hstep
  | enqueueRelock c =>
      simp only [step] at hstep
      split at hstep
      · rename_i hfree
        cases hstep
        have hmoves : EnqueuerMoves st
            ({ st with mutex := some (.enqueuer c) }.setEnqueuer c .locked) c .locked := ⟨rfl, rfl⟩
        exact h.enqueuer hmoves (hmoves.owns_acquire h.owns hfree rfl rfl)
      · cases hstep
  | post c released =>
      simp only [step] at hstep
      split at hstep
      · rename_i hpc
        cases hstep
        have hmoves : EnqueuerMoves st
            ({ st with free := st.free + released }.setEnqueuer c .unlock) c .unlock := ⟨rfl, rfl⟩
        exact h.enqueuer hmoves (hmoves.owns_keep h.owns rfl (by rw [hpc]; rfl))
      · cases hstep
  | enqueueUnlock c =>
      simp only [step] at hstep
      split at hstep
      · rename_i hpc
        cases hstep
        have hmoves : EnqueuerMoves st ({ st with mutex := none }.setEnqueuer c .idle) c .idle :=
          ⟨rfl, rfl⟩
        exact h.enqueuer hmoves (hmoves.owns_release h.owns (by rw [hpc]; rfl) rfl rfl)
      · cases hstep
  | queueRelease =>
      cases hstep
      exact ⟨owns_of_dequeuer h.owns rfl rfl rfl, h.apart⟩
  | queueReset free =>
      cases hstep
      exact ⟨owns_of_dequeuer h.owns rfl rfl rfl, h.apart⟩

theorem Inv.letsEnqueue {st : State Client} (h : Inv st) : LetsEnqueue st := by
  have hapart : st.dequeuer.waits = true → st.mutex ≠ some .dequeuer := by
    intro hwaits hmutex
    have hin : st.dequeuer.holds = true := (h.owns .dequeuer).mpr hmutex
    rw [h.apart hwaits] at hin
    cases hin
  refine ⟨hapart, fun hwaits c hc => ?_⟩
  cases hmutex : st.mutex with
  | none => exact ⟨c, _, .inl (by simp only [step, hc, hmutex]; rfl)⟩
  | some p =>
      cases p with
      | dequeuer => exact absurd hmutex (hapart hwaits)
      | enqueuer d =>
          have hd : (st.enqueuer d).holds = true := (h.owns (.enqueuer d)).mpr hmutex
          refine ⟨d, ?_⟩
          cases hpc : st.enqueuer d with
          | locked => exact ⟨_, .inr (.inl (by simp only [step, hpc]; rfl))⟩
          | unlock => exact ⟨_, .inr (.inr (by simp only [step, hpc]; rfl))⟩
          | idle | entered | vblankWait | relock =>
              rw [hpc] at hd
              cases hd

theorem findsFree_of_apart {st st' : State Client} {l : Label Client} (h : Inv st)
    (hstep : step st l = some st')
    (hapart : st'.dequeuer.waits = true → st'.mutex ≠ some .dequeuer) : FindsFree st l := by
  rintro rfl
  simp only [step] at hstep
  split at hstep
  · rename_i hpc
    have hmutex : st.mutex = some .dequeuer :=
      (h.owns .dequeuer).mp (by rw [holds_dequeuer, hpc]; rfl)
    split at hstep
    · rename_i hfree
      exact .inr hfree
    · split at hstep
      · rename_i hbackend
        exact .inl hbackend
      · rename_i hbackend
        cases hstep
        refine absurd hmutex (hapart ?_)
        cases hb : st.backend with
        | waylandEgl => exact absurd hb hbackend
        | waylandVulkanWsi | tbm | gbm => rfl
  · cases hstep

/-- The mutex stays open to the enqueues in exactly the runs in which every
backend but wayland-egl finds a free buffer whenever it looks for one. -/
theorem letsEnqueue_iff (backend : Backend) (free : Nat) (ls : List (Label Client))
    (st : State Client) (hrun : surfaceSystem.run (quiet backend free) ls = some st) :
    surfaceSystem.Always LetsEnqueue (quiet backend free) ls ↔
      surfaceSystem.EveryStep FindsFree (quiet backend free) ls := by
  refine System.always_iff_everyStep (inv_quiet backend free) hrun ?_ ?_ ?_
  · intro _ _ _ hinv hallowed hstep
    exact inv_step hinv hallowed hstep
  · intro _ hinv
    exact hinv.letsEnqueue
  · intro _ _ _ hinv hstep hlets
    exact findsFree_of_apart hinv hstep hlets.apart

end

def enqueueBesideWait : List (Label Unit) :=
  [.dequeueBuffer, .dequeueLock, .frontbuffer false, .testFree, .enqueueBuffer (),
    .enqueueLock (), .post () 1, .enqueueUnlock (), .dispatched true, .dequeueRelock, .take,
    .dequeueUnlock]

theorem letsEnqueue_enqueue_beside_wait :
    ∃ st, surfaceSystem.run (quiet .waylandEgl 0) enqueueBesideWait = some st ∧
      (surfaceSystem.Always LetsEnqueue (quiet .waylandEgl 0) enqueueBesideWait ↔
        surfaceSystem.EveryStep FindsFree (quiet .waylandEgl 0) enqueueBesideWait) := by
  obtain ⟨st, hrun, -⟩ := surfaceSystem.exists_of_run (fun st => st.dequeuer = .idle)
    (quiet .waylandEgl 0) enqueueBesideWait (by decide)
  exact ⟨st, hrun, letsEnqueue_iff _ _ _ st hrun⟩

def dequeueAllOutstanding : List (Label Unit) :=
  [.enqueueBuffer (), .dequeueBuffer, .dequeueLock, .frontbuffer false, .testFree]

/-- The dequeuing thread then waits with the mutex that the enqueue needs. -/
theorem not_letsEnqueue :
    ¬ ∀ st : State Unit, surfaceSystem.Reachable st → LetsEnqueue st := by
  intro hall
  obtain ⟨st, hrun, hwaits, hmutex⟩ := surfaceSystem.exists_of_run
    (fun st => st.dequeuer.waits = true ∧ st.mutex = some .dequeuer)
    (quiet .tbm 0) dequeueAllOutstanding (by decide)
  exact (hall st (.of_run (.initial ⟨_, _, rfl⟩) hrun)).apart hwaits hmutex

end LibtplEgl.FreeBufferWait
