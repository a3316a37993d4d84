import LibtplEgl.TplTypes
import Mathlib.Data.List.Basic

namespace LibtplEgl.SwapchainEnumeration

open LibtplEgl.TplTypes

universe u

/-- What the enumeration uses of a `tbm_surface_queue_h`. -/
structure TbmSurfaceQueue (Buffer : Type u) where
  queueSize : Nat
  free : List Buffer
  deriving DecidableEq, Repr

/-- What the enumeration uses of a `tpl_wayland_vk_wsi_surface_t`. -/
structure WaylandVkWsiSurface (Buffer : Type u) where
  bufferCount : Nat
  tbmQueue : TbmSurfaceQueue Buffer
  deriving DecidableEq, Repr

/-- The calls that fail: of `calloc`, and of the dequeues and the releases in their order. -/
structure Faults where
  calloc : Bool
  dequeue : Nat → Bool
  release : Nat → Bool

/-- The free list, the buffers that were dequeued, and those that were passed to
`tbm_surface_queue_release`, with whether it succeeded. -/
structure State (Buffer : Type u) where
  free : List Buffer
  dequeued : List Buffer
  releases : List (Buffer × Bool)
  deriving DecidableEq, Repr

/-- The result, what is written to `*buffers` and `*buffer_count`, and the state. -/
structure Outcome (Buffer : Type u) where
  result : TplResult
  buffers : Option (List Buffer)
  bufferCount : Option Nat
  state : State Buffer
  deriving DecidableEq, Repr

section

variable {Buffer : Type u}

def tbmSurfaceQueueDequeue (fails : Bool) (st : State Buffer) : Option Buffer × State Buffer :=
  if fails then (none, st)
  else
    match st.free with
    | [] => (none, st)
    | buffer :: free =>
        (some buffer, { st with free := free, dequeued := st.dequeued ++ [buffer] })

def tbmSurfaceQueueRelease (fails : Bool) (buffer : Buffer) (st : State Buffer) :
    Bool × State Buffer :=
  if fails then (false, { st with releases := st.releases ++ [(buffer, false)] })
  else
    (true, { st with
      free := st.free ++ [buffer]
      releases := st.releases ++ [(buffer, true)] })

/-- The loop that dequeues: `i` is the number of buffers in the array. -/
def dequeueLoop (fails : Nat → Bool) : Nat → List Buffer → State Buffer →
    Bool × List Buffer × State Buffer
  | 0, swapchainBuffers, st => (true, swapchainBuffers, st)
  | left + 1, swapchainBuffers, st =>
      match tbmSurfaceQueueDequeue (fails swapchainBuffers.length) st with
      | (some buffer, st) => dequeueLoop fails left (swapchainBuffers ++ [buffer]) st
      | (none, st) => (false, swapchainBuffers, st)

/-- Both loops that release, the second one and that of `get_buffer_fail`. -/
def releaseLoop (fails : Nat → Bool) : Nat → List Buffer → State Buffer → Bool × State Buffer
  | _, [], st => (true, st)
  | i, buffer :: buffers, st =>
      match tbmSurfaceQueueRelease (fails i) buffer st with
      | (true, st) => releaseLoop fails (i + 1) buffers st
      | (false, st) => (false, st)

/-- The body that the two backends share. -/
def getSwapchainBuffers (faults : Faults) (count : Nat) (free : List Buffer) : Outcome Buffer :=
  if faults.calloc then ⟨.errorOutOfMemory, none, none, ⟨free, [], []⟩⟩
  else
    match dequeueLoop faults.dequeue count [] ⟨free, [], []⟩ with
    | (false, swapchainBuffers, st) =>
        ⟨.errorOutOfMemory, none, none, (releaseLoop faults.release 0 swapchainBuffers st).2⟩
    | (true, swapchainBuffers, st) =>
        match releaseLoop faults.release 0 swapchainBuffers st with
        | (true, st) => ⟨.errorNone, some swapchainBuffers, some count, st⟩
        | (false, st) => ⟨.errorInvalidOperation, none, none, st⟩

def tplTbmSurfaceGetSwapchainBuffers (faults : Faults) (tbmQueue : TbmSurfaceQueue Buffer) :
    Outcome Buffer :=
  getSwapchainBuffers faults tbmQueue.queueSize tbmQueue.free

def tplWaylandVkWsiSurfaceGetSwapchainBuffers (faults : Faults)
    (surface : WaylandVkWsiSurface Buffer) : Outcome Buffer :=
  getSwapchainBuffers faults surface.bufferCount surface.tbmQueue.free

/-- The enumeration gives back what it takes, and tells the buffers only if it succeeds. -/
structure PreservesQueue (count : Nat) (free : List Buffer) (out : Outcome Buffer) : Prop where
  released : (out.state.releases.map Prod.fst).Perm out.state.dequeued
  kept : (∀ call ∈ out.state.releases, call.2 = true) → out.state.free.Perm free
  order : out.result = .errorNone → free.length = count → out.state.free = free
  success : out.result = .errorNone → ∃ listed rest, free = listed ++ rest ∧
    listed.length = count ∧ out.buffers = some listed ∧ out.bufferCount = some count
  failure : out.result ≠ .errorNone → out.buffers = none ∧ out.bufferCount = none

/-- A release that fails is the last one: no further buffer was there to dequeue. -/
def FailsLast (faults : Faults) (count : Nat) (free : List Buffer) : Prop :=
  faults.calloc = true ∨ ∀ j, j + 1 < count → j + 1 < free.length →
    (∀ i ≤ j + 1, faults.dequeue i = false) → faults.release j = false

/-- What the loop that dequeues takes from the free list. -/
structure Taken (fails : Nat → Bool) (first left : Nat) (free taken rest : List Buffer)
    (ok : Bool) : Prop where
  split : free = taken ++ rest
  passed : ∀ i < taken.length, fails (first + i) = false
  all : ok = true → taken.length = left
  short : ok = false → taken.length < left ∧ (rest = [] ∨ fails (first + taken.length) = true)

theorem passed_succ {fails : Nat → Bool} {first n : Nat} (hfirst : fails first = false)
    (hlater : ∀ i < n, fails (first + 1 + i) = false) :
    ∀ i < n + 1, fails (first + i) = false := by
  intro i hi
  cases i with
  | zero => exact hfirst
  | succ i =>
      have hshift := hlater i (Nat.lt_of_succ_lt_succ hi)
      rw [Nat.add_assoc, Nat.add_comm 1 i] at hshift
      exact hshift

theorem dequeueLoop_spec (fails : Nat → Bool) (left : Nat) (swapchainBuffers : List Buffer)
    (st : State Buffer) :
    ∃ ok taken rest, Taken fails swapchainBuffers.length left st.free taken rest ok ∧
      dequeueLoop fails left swapchainBuffers st =
        (ok, swapchainBuffers ++ taken, ⟨rest, st.dequeued ++ taken, st.releases⟩) := by
  induction left generalizing swapchainBuffers st with
  | zero =>
      refine ⟨true, [], st.free, ⟨rfl, nofun, fun _ => rfl, nofun⟩, ?_⟩
      rw [dequeueLoop, List.append_nil, List.append_nil]
  | succ left ih =>
      obtain ⟨free, dequeued, releases⟩ := st
      cases hfails : fails swapchainBuffers.length with
      | true =>
          refine ⟨false, [], free,
            ⟨rfl, nofun, nofun, fun _ => ⟨Nat.zero_lt_succ _, .inr hfails⟩⟩, ?_⟩
          rw [dequeueLoop, hfails, List.append_nil, List.append_nil]
          rfl
      | false =>
          cases free with
          | nil =>
              refine ⟨false, [], [],
                ⟨rfl, nofun, nofun, fun _ => ⟨Nat.zero_lt_succ _, .inl rfl⟩⟩, ?_⟩
              rw [dequeueLoop, hfails, List.append_nil, List.append_nil]
              rfl
          | cons buffer free =>
              obtain ⟨ok, taken, rest, htaken, hloop⟩ := ih (swapchainBuffers ++ [buffer])
                ⟨free, dequeued ++ [buffer], releases⟩
              have hlength : (swapchainBuffers ++ [buffer]).length =
                  swapchainBuffers.length + 1 := List.length_append
              rw [hlength] at htaken
              refine ⟨ok, buffer :: taken, rest, ⟨?_, ?_, ?_, ?_⟩, ?_⟩
              · exact congrArg (buffer :: ·) htaken.split
              · exact passed_succ hfails htaken.passed
              · intro hok
                exact congrArg (· + 1) (htaken.all hok)
              · intro hok
                obtain ⟨hlt, hend⟩ := htaken.short hok
                rw [Nat.add_assoc, Nat.add_comm 1] at hend
                exact ⟨Nat.succ_lt_succ hlt, hend⟩
              · rw [dequeueLoop, hfails]
                show dequeueLoop fails left (swapchainBuffers ++ [buffer]) _ = _
                rw [hloop, List.append_assoc, List.append_assoc]
                rfl

/-- The buffers that a loop of releases puts back, and its calls. -/
inductive Releases (fails : Nat → Bool) (first : Nat) (buffers : List Buffer) :
    Bool → List Buffer → List (Buffer × Bool) → Prop
  | all : (∀ i < buffers.length, fails (first + i) = false) →
      Releases fails first buffers true buffers (buffers.map fun buffer => (buffer, true))
  | stopped (before after : List Buffer) (buffer : Buffer) :
      buffers = before ++ buffer :: after → fails (first + before.length) = true →
        (∀ i < before.length, fails (first + i) = false) →
          Releases fails first buffers false before
            (before.map (fun buffer => (buffer, true)) ++ [(buffer, false)])

theorem releaseLoop_spec (fails : Nat → Bool) (first : Nat) (buffers : List Buffer)
    (st : State Buffer) :
    ∃ ok back calls, Releases fails first buffers ok back calls ∧
      releaseLoop fails first buffers st =
        (ok, ⟨st.free ++ back, st.dequeued, st.releases ++ calls⟩) := by
  induction buffers generalizing first st with
  | nil =>
      refine ⟨true, [], [], .all nofun, ?_⟩
      rw [releaseLoop, List.append_nil, List.append_nil]
  | cons buffer buffers ih =>
      cases hfails : fails first with
      | true =>
          refine ⟨false, [], [(buffer, false)], .stopped [] buffers buffer rfl hfails nofun, ?_⟩
          rw [releaseLoop, hfails, List.append_nil]
          rfl
      | false =>
          obtain ⟨ok, back, calls, hreleases, hloop⟩ := ih (first + 1) { st with
            free := st.free ++ [buffer]
            releases := st.releases ++ [(buffer, true)] }
          refine ⟨ok, buffer :: back, (buffer, true) :: calls, ?_, ?_⟩
          · cases hreleases with
            | all hpassed => exact .all (passed_succ hfails hpassed)
            | stopped _ after stopper hsplit hstop hpassed =>
                refine .stopped (buffer :: back) after stopper ?_ ?_ ?_
                · exact congrArg (buffer :: ·) hsplit
                · rw [Nat.add_assoc, Nat.add_comm 1] at hstop
                  exact hstop
                · exact passed_succ hfails hpassed
          · rw [releaseLoop, hfails]
            show releaseLoop fails (first + 1) buffers _ = _
            rw [hloop, List.append_assoc, List.append_assoc]
            rfl

theorem Taken.lt_length_iff {fails : Nat → Bool} {left : Nat} {free taken rest : List Buffer}
    {ok : Bool} (h : Taken fails 0 left free taken rest ok) (j : Nat) :
    j < taken.length ↔ j < left ∧ j < free.length ∧ ∀ i ≤ j, fails i = false := by
  have hfree : free.length = taken.length + rest.length := by
    rw [h.split, List.length_append]
  have hpassed : ∀ i < taken.length, fails i = false := by
    intro i hi
    have hcall := h.passed i hi
    rw [Nat.zero_add] at hcall
    exact hcall
  constructor
  · intro hj
    have hle : taken.length ≤ left := by
      cases ok with
      | true => exact Nat.le_of_eq (h.all rfl)
      | false => exact Nat.le_of_lt (h.short rfl).1
    exact ⟨by omega, by omega, fun i hi => hpassed i (by omega)⟩
  · rintro ⟨hleft, hlength, hcalls⟩
    cases ok with
    | true =>
        rw [h.all rfl]
        exact hleft
    | false =>
        rcases (h.short rfl).2 with hempty | hfails
        · rw [hempty, List.length_nil] at hfree
          omega
        · rw [Nat.zero_add] at hfails
          by_contra hge
          rw [hcalls taken.length (by omega)] at hfails
          cases hfails

theorem Taken.failsLast_iff {faults : Faults} {count : Nat} {free taken rest : List Buffer}
    {ok : Bool} (h : Taken faults.dequeue 0 count free taken rest ok)
    (hcalloc : faults.calloc = false) :
    FailsLast faults count free ↔ ∀ j, j + 1 < taken.length → faults.release j = false := by
  constructor
  · rintro (hfailed | hlast) j hj
    · rw [hcalloc] at hfailed
      cases hfailed
    · obtain ⟨hcount, hlength, hcalls⟩ := (h.lt_length_iff (j + 1)).mp hj
      exact hlast j hcount hlength hcalls
  · intro hlast
    exact .inr fun j hcount hlength hcalls =>
      hlast j ((h.lt_length_iff (j + 1)).mpr ⟨hcount, hlength, hcalls⟩)

theorem Releases.perm_iff {fails : Nat → Bool} {buffers back : List Buffer}
    {calls : List (Buffer × Bool)} {ok : Bool} (h : Releases fails 0 buffers ok back calls) :
    (calls.map Prod.fst).Perm buffers ↔ ∀ j, j + 1 < buffers.length → fails j = false := by
  have hfst : ∀ back : List Buffer,
      (back.map fun buffer => (buffer, true)).map Prod.fst = back := by
    intro back
    rw [List.map_map]
    exact List.map_id back
  cases h with
  | all hpassed =>
      rw [hfst]
      constructor
      · intro _ j hj
        have hcall := hpassed j (by omega)
        rw [Nat.zero_add] at hcall
        exact hcall
      · intro _
        exact .refl _
  | stopped _ after buffer hsplit hstop hpassed =>
      rw [Nat.zero_add] at hstop
      rw [List.map_append, hfst, hsplit]
      constructor
      · intro hperm j hj
        have hlength := hperm.length_eq
        simp only [List.length_append, List.length_cons, List.length_map, List.length_nil]
          at hlength hj
        have hcall := hpassed j (by omega)
        rw [Nat.zero_add] at hcall
        exact hcall
      · intro hlast
        cases after with
        | nil => exact .refl _
        | cons next after =>
            have hcall := hlast back.length (by
              simp only [List.length_append, List.length_cons]
              omega)
            rw [hcall] at hstop
            cases hstop

theorem Releases.back_eq {fails : Nat → Bool} {buffers back : List Buffer}
    {calls : List (Buffer × Bool)} {ok : Bool} (h : Releases fails 0 buffers ok back calls)
    (hcalls : ∀ call ∈ calls, call.2 = true) : back = buffers := by
  cases h with
  | all _ => rfl
  | stopped _ _ buffer _ _ _ =>
      cases hcalls (buffer, false) (List.mem_append_right _ List.mem_cons_self)

/-- The enumeration in terms of what it takes and what it gives back. -/
theorem getSwapchainBuffers_spec (faults : Faults) (count : Nat) (free : List Buffer)
    (hcalloc : faults.calloc = false) :
    ∃ ok taken rest released back calls, Taken faults.dequeue 0 count free taken rest ok ∧
      Releases faults.release 0 taken released back calls ∧
      getSwapchainBuffers faults count free =
        (match ok, released with
          | false, _ => ⟨.errorOutOfMemory, none, none, ⟨rest ++ back, taken, calls⟩⟩
          | true, true => ⟨.errorNone, some taken, some count, ⟨rest ++ back, taken, calls⟩⟩
          | true, false => ⟨.errorInvalidOperation, none, none, ⟨rest ++ back, taken, calls⟩⟩) := by
  obtain ⟨ok, taken, rest, htaken, hdequeue⟩ :=
    dequeueLoop_spec faults.dequeue count [] ⟨free, [], []⟩
  obtain ⟨released, back, calls, hreleases, hrelease⟩ :=
    releaseLoop_spec faults.release 0 taken ⟨rest, taken, []⟩
  refine ⟨ok, taken, rest, released, back, calls, htaken, hreleases, ?_⟩
  rw [List.nil_append] at hdequeue hrelease
  rw [getSwapchainBuffers, hcalloc, hdequeue]
  cases ok with
  | false =>
      show Outcome.mk _ _ _ (releaseLoop faults.release 0 taken ⟨rest, taken, []⟩).2 = _
      rw [hrelease]
  | true =>
      show (match releaseLoop faults.release 0 taken ⟨rest, taken, []⟩ with
        | (true, st) => (⟨.errorNone, some taken, some count, st⟩ : Outcome Buffer)
        | (false, st) => ⟨.errorInvalidOperation, none, none, st⟩) = _
      rw [hrelease]
      cases released with
      | true | false => rfl

/-- Whatever fails, the outputs are those of the result, and a buffer that was
released is free again. -/
theorem getSwapchainBuffers_preserves_iff (faults : Faults) (count : Nat) (free : List Buffer) :
    PreservesQueue count free (getSwapchainBuffers faults count free) ↔
      FailsLast faults count free := by
  cases hcalloc : faults.calloc with
  | true =>
      have hout : getSwapchainBuffers faults count free =
          ⟨.errorOutOfMemory, none, none, ⟨free, [], []⟩⟩ := by
        rw [getSwapchainBuffers, hcalloc, if_pos rfl]
      rw [hout]
      exact ⟨fun _ => .inl hcalloc,
        fun _ => ⟨.refl _, fun _ => .refl _, nofun, nofun, fun _ => ⟨rfl, rfl⟩⟩⟩
  | false =>
      obtain ⟨ok, taken, rest, released, back, calls, htaken, hreleases, hout⟩ :=
        getSwapchainBuffers_spec faults count free hcalloc
      rw [htaken.failsLast_iff hcalloc, ← hreleases.perm_iff, hout]
      have hkept : (∀ call ∈ calls, call.2 = true) → (rest ++ back).Perm free := by
        intro hcalls
        rw [hreleases.back_eq hcalls, htaken.split]
        exact List.perm_append_comm
      cases ok with
      | false =>
          exact ⟨fun h => h.released,
            fun hperm => ⟨hperm, hkept, nofun, nofun, fun _ => ⟨rfl, rfl⟩⟩⟩
      | true =>
          cases released with
          | false =>
              exact ⟨fun h => h.released,
                fun hperm => ⟨hperm, hkept, nofun, nofun, fun _ => ⟨rfl, rfl⟩⟩⟩
          | true =>
              refine ⟨fun h => h.released, fun hperm => ⟨hperm, hkept, ?_, ?_, ?_⟩⟩
              · intro _ hfull
                cases hreleases with
                | all _ =>
                    have hlength := congrArg List.length htaken.split
                    rw [List.length_append, htaken.all rfl, hfull] at hlength
                    have hnone : rest = [] := List.eq_nil_of_length_eq_zero (by omega)
                    rw [hnone, htaken.split, hnone, List.nil_append, List.append_nil]
              · intro _
                exact ⟨taken, rest, htaken.split, htaken.all rfl, rfl, rfl⟩
              · intro hfailed
                exact absurd rfl hfailed

/-- Both backends preserve the queue exactly when no release but the last one fails. -/
theorem enumeration_preserves_iff (faults : Faults) (tbmQueue : TbmSurfaceQueue Buffer)
    (surface : WaylandVkWsiSurface Buffer) :
    (PreservesQueue tbmQueue.queueSize tbmQueue.free
        (tplTbmSurfaceGetSwapchainBuffers faults tbmQueue) ↔
      FailsLast faults tbmQueue.queueSize tbmQueue.free) ∧
    (PreservesQueue surface.bufferCount surface.tbmQueue.free
        (tplWaylandVkWsiSurfaceGetSwapchainBuffers faults surface) ↔
      FailsLast faults surface.bufferCount surface.tbmQueue.free) :=
  ⟨getSwapchainBuffers_preserves_iff faults _ _, getSwapchainBuffers_preserves_iff faults _ _⟩

end

def firstReleaseFails : Faults :=
  ⟨false, fun _ => false, fun i => i == 0⟩

/-- The second of two buffers is then never released. -/
theorem not_enumeration_preserves :
    ¬ PreservesQueue 2 [1, 2]
        (tplTbmSurfaceGetSwapchainBuffers firstReleaseFails ⟨2, [1, 2]⟩) ∧
      ¬ PreservesQueue 2 [1, 2]
        (tplWaylandVkWsiSurfaceGetSwapchainBuffers firstReleaseFails ⟨2, ⟨2, [1, 2]⟩⟩) := by
  refine ⟨fun h => ?_, fun h => ?_⟩
  · exact absurd h.released.length_eq (by decide)
  · exact absurd h.released.length_eq (by decide)

end LibtplEgl.SwapchainEnumeration
