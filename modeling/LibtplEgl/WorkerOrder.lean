import LibtplEgl.WorkerThread
import Mathlib.Data.Fintype.Basic
import Mathlib.Data.List.Forall2

namespace LibtplEgl.WorkerOrder

open LibtplEgl.LabelledSystem
open LibtplEgl.TplTypes
open LibtplEgl.WorkerThread

universe u v w

section

variable {Ws : Type u} {Buffer : Type v} {Client : Type w} [DecidableEq Ws]

/-- The buffer of `s` that the scan has in hand. -/
def inHand (pc : WorkerPc Ws Buffer) (s : Ws) : List Buffer :=
  match pc.hand with
  | some (t, b) => if t = s then [b] else []
  | none => []

def clears : WorkerPc Ws Buffer → Option Ws
  | .clear s _ => some s
  | _ => none

def waiting (st : State Ws Buffer Client) (s : Ws) : List Buffer :=
  inHand st.worker s ++
    ((if clears st.worker = some s then [] else (st.surface s).drawWaitBuffer.toList) ++
      (st.surface s).queue)

def Waits (st : State Ws Buffer Client) (b : Buffer) : Prop := ∃ s, b ∈ waiting st s

/-- The fence of a buffer stays the same while the buffer waits. -/
def Keeps (st st' : State Ws Buffer Client) : Prop :=
  ∀ b, Waits st b → Waits st' b → st'.waitSync b = st.waitSync b

/-- How a call of `draw_done` settles an enqueue: it passes its buffer, and
passes no error only if the fence of the enqueue was reported as signalled. -/
structure Settles (c : Completion Buffer) (e : Buffer × Fd) : Prop where
  buffer : c.buffer = e.1
  report : c.result = .errorNone → c.report = some e.2

/-- Every enqueue is settled, in order, or its buffer still waits with its fence. -/
structure Books (st : State Ws Buffer Client) (s : Ws) (completed pending : List (Buffer × Fd)) :
    Prop where
  split : st.enqueued s = completed ++ pending
  settled : List.Forall₂ Settles (st.done s) completed
  waits : pending.map Prod.fst = waiting st s
  fences : ∀ e ∈ pending, st.waitSync e.1 = e.2

def Unregistered (st : State Ws Buffer Client) (s : Ws) : Prop := ∀ r ∈ st.epoll, r.2 ≠ s

/-- A registered fence is the fence of the surface's `draw_wait_buffer`. -/
structure Registered (st : State Ws Buffer Client) (s : Ws) (r : Fd × Ws) : Prop where
  isFd : r.1 ≠ -1
  fence : (st.surface s).drawWaitBuffer.map st.waitSync = some r.1
  notCleared : clears st.worker ≠ some s

/-- What the place of the worker says about the surface. -/
def WorkerAt (st : State Ws Buffer Client) (s : Ws) : WorkerPc Ws Buffer → Prop
  | .scan rest => s ∈ rest → (st.surface s).swapchain = true
  | .prepare t rest | .popped t _ rest | .rejecting t _ rest =>
      (s ∈ t :: rest → (st.surface s).swapchain = true) ∧
        (t = s → (st.surface s).drawWaitBuffer = none)
  | .finish t result report _ =>
      t = s → Unregistered st s ∧ ∃ b, (st.surface s).drawWaitBuffer = some b ∧
        (result = .errorNone → report = some (st.waitSync b))
  | .clear t _ => t = s → Unregistered st s
  | _ => True

structure Inv (s : Ws) (st : State Ws Buffer Client) : Prop where
  listed : s ∈ st.surfaceList → (st.surface s).swapchain = true
  allocated : (st.surface s).swapchain = true → (st.surface s).allocated = true
  empty : (st.surface s).swapchain = false →
    (st.surface s).drawWaitBuffer = none ∧ (st.surface s).queue = []
  registered : ∀ r ∈ st.epoll, r.2 = s → Registered st s r
  worker : WorkerAt st s st.worker
  books : ∃ completed pending, Books st s completed pending

theorem mem_waiting_of_drawWaitBuffer {st : State Ws Buffer Client} {s : Ws} {b : Buffer}
    (hwait : (st.surface s).drawWaitBuffer = some b) (hclear : clears st.worker ≠ some s) :
    b ∈ waiting st s := by
  rw [waiting, if_neg hclear, hwait]
  exact List.mem_append_right _ (List.mem_append_left _ List.mem_cons_self)

theorem Books.frame {st st' : State Ws Buffer Client} {s : Ws}
    {completed pending : List (Buffer × Fd)} (h : Books st s completed pending)
    (hkeep : Keeps st st') (henqueued : st'.enqueued s = st.enqueued s)
    (hdone : st'.done s = st.done s) (hwaiting : waiting st' s = waiting st s) :
    Books st' s completed pending := by
  constructor
  · rw [henqueued]
    exact h.split
  · rw [hdone]
    exact h.settled
  · rw [hwaiting]
    exact h.waits
  · intro e he
    have hmem : e.1 ∈ waiting st s := by
      rw [← h.waits]
      exact List.mem_map_of_mem he
    rw [hkeep e.1 ⟨s, hmem⟩ ⟨s, by rw [hwaiting]; exact hmem⟩]
    exact h.fences e he

theorem Registered.frame {st st' : State Ws Buffer Client} {s : Ws} {r : Fd × Ws}
    (h : Registered st s r) (hkeep : Keeps st st')
    (hwait : (st'.surface s).drawWaitBuffer = (st.surface s).drawWaitBuffer)
    (hclear : clears st'.worker ≠ some s) : Registered st' s r := by
  refine ⟨h.isFd, ?_, hclear⟩
  obtain ⟨b, hb, hfd⟩ := Option.map_eq_some_iff.mp h.fence
  have hb' : (st'.surface s).drawWaitBuffer = some b := hwait.trans hb
  rw [hb', Option.map_some, hkeep b ⟨s, mem_waiting_of_drawWaitBuffer hb h.notCleared⟩
    ⟨s, mem_waiting_of_drawWaitBuffer hb' hclear⟩, hfd]

/-- A step that the surface does not take part in: its record, its books and its
part of the worker's place stay. -/
structure Beside (s : Ws) (st st' : State Ws Buffer Client) : Prop where
  surface : st'.surface s = st.surface s
  listed : s ∈ st'.surfaceList → s ∈ st.surfaceList
  epoll : ∀ r ∈ st'.epoll, r.2 = s → r ∈ st.epoll
  enqueued : st'.enqueued s = st.enqueued s
  done : st'.done s = st.done s
  hand : inHand st'.worker s = inHand st.worker s
  cleared : clears st'.worker = some s ↔ clears st.worker = some s

theorem Beside.waiting {s : Ws} {st st' : State Ws Buffer Client} (h : Beside s st st') :
    waiting st' s = waiting st s := by
  simp only [WorkerOrder.waiting, h.surface, h.hand, h.cleared]

theorem Inv.beside {s : Ws} {st st' : State Ws Buffer Client} (h : Inv s st)
    (hkeep : Keeps st st') (hbeside : Beside s st st') (hworker : WorkerAt st' s st'.worker) :
    Inv s st' := by
  constructor
  · rw [hbeside.surface]
    exact fun hs => h.listed (hbeside.listed hs)
  · rw [hbeside.surface]
    exact h.allocated
  · rw [hbeside.surface]
    exact h.empty
  · intro r hr hrs
    have hreg := h.registered r (hbeside.epoll r hr hrs) hrs
    exact hreg.frame hkeep (by rw [hbeside.surface]) fun hclear =>
      hreg.notCleared (hbeside.cleared.mp hclear)
  · exact hworker
  · obtain ⟨completed, pending, hbooks⟩ := h.books
    exact ⟨completed, pending, hbooks.frame hkeep hbeside.enqueued hbeside.done hbeside.waiting⟩

theorem Beside.of_worker {s : Ws} {st st' : State Ws Buffer Client}
    (hsurface : st'.surface = st.surface) (hlist : st'.surfaceList = st.surfaceList)
    (hepoll : ∀ r ∈ st'.epoll, r ∈ st.epoll) (henqueued : st'.enqueued = st.enqueued)
    (hdone : st'.done = st.done) (hhand : st'.worker.hand = st.worker.hand)
    (hclear : clears st'.worker = clears st.worker) : Beside s st st' := by
  constructor
  · rw [hsurface]
  · rw [hlist]
    exact id
  · exact fun r hr _ => hepoll r hr
  · rw [henqueued]
  · rw [hdone]
  · simp only [inHand, hhand]
  · rw [hclear]

theorem WorkerAt.frame {s : Ws} {st st' : State Ws Buffer Client}
    (h : WorkerAt st s st.worker) (hkeep : Keeps st st') (hworker : st'.worker = st.worker)
    (hswap : (st'.surface s).swapchain = (st.surface s).swapchain)
    (hwait : (st'.surface s).drawWaitBuffer = (st.surface s).drawWaitBuffer)
    (hepoll : st'.epoll = st.epoll) : WorkerAt st' s st'.worker := by
  have hunreg : Unregistered st s → Unregistered st' s := by
    unfold Unregistered
    rw [hepoll]
    exact id
  rw [hworker]
  cases hpc : st.worker with
  | scan rest =>
      rw [hpc] at h
      simpa only [WorkerAt, hswap, hwait] using h
  | prepare t rest =>
      rw [hpc] at h
      simpa only [WorkerAt, hswap, hwait] using h
  | popped t b rest =>
      rw [hpc] at h
      simpa only [WorkerAt, hswap, hwait] using h
  | rejecting t b rest =>
      rw [hpc] at h
      simpa only [WorkerAt, hswap, hwait] using h
  | finish t result report evs =>
      rw [hpc] at h
      intro hts
      obtain ⟨hreg, b, hb, hreport⟩ := h hts
      have hb' : (st'.surface s).drawWaitBuffer = some b := hwait.trans hb
      have hclear : clears st.worker ≠ some s := by
        rw [hpc]
        nofun
      have hsync := hkeep b ⟨s, mem_waiting_of_drawWaitBuffer hb hclear⟩
        ⟨s, mem_waiting_of_drawWaitBuffer hb' (by rw [hworker]; exact hclear)⟩
      refine ⟨hunreg hreg, b, hb', fun hnone => ?_⟩
      rw [hsync]
      exact hreport hnone
  | clear t evs =>
      rw [hpc] at h
      exact fun hts => hunreg (h hts)
  | start => trivial
  | loopTop => trivial
  | epollWait => trivial
  | handle evs => trivial
  | fenceWait t evs => trivial
  | exited => trivial

theorem Inv.client {s : Ws} {st st' : State Ws Buffer Client} (h : Inv s st)
    (hkeep : Keeps st st') (hworker : st'.worker = st.worker)
    (hsurface : st'.surface s = st.surface s) (hepoll : st'.epoll = st.epoll)
    (hlisted : s ∈ st'.surfaceList → s ∈ st.surfaceList)
    (henqueued : st'.enqueued s = st.enqueued s) (hdone : st'.done s = st.done s) :
    Inv s st' := by
  refine h.beside hkeep ⟨hsurface, hlisted, ?_, henqueued, hdone, by rw [hworker],
    by rw [hworker]⟩ (h.worker.frame hkeep hworker (by rw [hsurface]) (by rw [hsurface]) hepoll)
  intro r hr _
  rw [← hepoll]
  exact hr

theorem Inv.fresh {s : Ws} {st st' : State Ws Buffer Client} (h : Inv s st)
    (hswap : (st.surface s).swapchain = false) (hworker : st'.worker = st.worker)
    (hepoll : st'.epoll = st.epoll) (halloc : (st'.surface s).allocated = true)
    (hlisted : s ∈ st'.surfaceList → (st'.surface s).swapchain = true)
    (hwait : (st'.surface s).drawWaitBuffer = none) (hqueue : (st'.surface s).queue = [])
    (hbooks : ∃ completed pending, Books st' s completed pending) : Inv s st' := by
  have hnone := (h.empty hswap).1
  have hnot : (st.surface s).swapchain ≠ true := by
    rw [hswap]
    nofun
  refine ⟨hlisted, fun _ => halloc, fun _ => ⟨hwait, hqueue⟩, ?_, ?_, hbooks⟩
  · intro r hr hrs
    rw [hepoll] at hr
    have hfence := (h.registered r hr hrs).fence
    rw [hnone] at hfence
    cases hfence
  · have hat := h.worker
    rw [hworker]
    cases hpc : st.worker with
    | scan rest =>
        rw [hpc] at hat
        exact fun hs => absurd (hat hs) hnot
    | prepare t rest =>
        rw [hpc] at hat
        exact ⟨fun hs => absurd (hat.1 hs) hnot, fun _ => hwait⟩
    | popped t b rest =>
        rw [hpc] at hat
        exact ⟨fun hs => absurd (hat.1 hs) hnot, fun _ => hwait⟩
    | rejecting t b rest =>
        rw [hpc] at hat
        exact ⟨fun hs => absurd (hat.1 hs) hnot, fun _ => hwait⟩
    | finish t result report evs =>
        rw [hpc] at hat
        intro hts
        obtain ⟨-, b, hb, -⟩ := hat hts
        rw [hnone] at hb
        cases hb
    | clear t evs =>
        rw [hpc] at hat
        intro hts
        unfold Unregistered
        rw [hepoll]
        exact hat hts
    | start => trivial
    | loopTop => trivial
    | epollWait => trivial
    | handle evs => trivial
    | fenceWait t evs => trivial
    | exited => trivial

theorem Inv.own {s : Ws} {st st' : State Ws Buffer Client} (h : Inv s st)
    (hswap : (st.surface s).swapchain = true) (hswap' : (st'.surface s).swapchain = true)
    (halloc : (st'.surface s).allocated = (st.surface s).allocated)
    (hregistered : ∀ r ∈ st'.epoll, r.2 = s → Registered st' s r)
    (hworker : WorkerAt st' s st'.worker)
    (hbooks : ∃ completed pending, Books st' s completed pending) : Inv s st' := by
  refine ⟨fun _ => hswap', fun _ => halloc.trans (h.allocated hswap), ?_, hregistered, hworker,
    hbooks⟩
  intro hfalse
  rw [hswap'] at hfalse
  cases hfalse

theorem Books.append {st st' : State Ws Buffer Client} {s : Ws} {b : Buffer} {fd : Fd}
    {completed pending : List (Buffer × Fd)} (h : Books st s completed pending)
    (hkeep : Keeps st st') (henqueued : st'.enqueued s = st.enqueued s ++ [(b, fd)])
    (hdone : st'.done s = st.done s) (hwaiting : waiting st' s = waiting st s ++ [b])
    (hsync : st'.waitSync b = fd) : Books st' s completed (pending ++ [(b, fd)]) := by
  constructor
  · rw [henqueued, h.split, List.append_assoc]
  · rw [hdone]
    exact h.settled
  · rw [hwaiting, ← h.waits, List.map_append, List.map_singleton]
  · intro e he
    rcases List.mem_append.mp he with hold | hnew
    · have hmem : e.1 ∈ waiting st s := by
        rw [← h.waits]
        exact List.mem_map_of_mem hold
      rw [hkeep e.1 ⟨s, hmem⟩ ⟨s, by rw [hwaiting]; exact List.mem_append_left _ hmem⟩]
      exact h.fences e hold
    · obtain rfl := List.mem_singleton.mp hnew
      exact hsync

theorem Books.complete {st st' : State Ws Buffer Client} {s : Ws} {b : Buffer}
    {completed pending : List (Buffer × Fd)} {result : TplResult} {report : Option Fd}
    (h : Books st s completed pending) (hkeep : Keeps st st')
    (henqueued : st'.enqueued s = st.enqueued s)
    (hdone : st'.done s = st.done s ++ [⟨b, result, report⟩])
    (hwaiting : waiting st s = b :: waiting st' s)
    (hreport : result = .errorNone → report = some (st.waitSync b)) :
    ∃ completed' pending', Books st' s completed' pending' := by
  have hwaits := h.waits
  rw [hwaiting] at hwaits
  cases pending with
  | nil => cases hwaits
  | cons e rest =>
      obtain ⟨hb, hrest⟩ := List.cons.inj hwaits
      refine ⟨completed ++ [e], rest, ?_, ?_, hrest, ?_⟩
      · rw [henqueued, h.split, List.append_assoc, List.singleton_append]
      · rw [hdone]
        refine List.rel_append h.settled (.cons ⟨hb.symm, fun hnone => ?_⟩ .nil)
        have hfence := h.fences e List.mem_cons_self
        rw [hb] at hfence
        rw [hreport hnone, hfence]
      · intro f hf
        have hmem' : f.1 ∈ waiting st' s := by
          rw [← hrest]
          exact List.mem_map_of_mem hf
        have hmem : f.1 ∈ waiting st s := by
          rw [hwaiting]
          exact List.mem_cons_of_mem _ hmem'
        rw [hkeep f.1 ⟨s, hmem⟩ ⟨s, hmem'⟩]
        exact h.fences f (List.mem_cons_of_mem _ hf)

variable {s t : Ws} {st : State Ws Buffer Client} {b : Buffer} {rest : List Ws}
  {evs : List (EpollEvent Ws)}

theorem Inv.workerAt {pc : WorkerPc Ws Buffer} (h : Inv s st) (hpc : st.worker = pc) :
    WorkerAt st s pc := by
  rw [← hpc]
  exact h.worker

theorem Inv.goto {pc : WorkerPc Ws Buffer} (h : Inv s st) (hkeep : Keeps st (st.goto pc))
    (hhand : pc.hand = st.worker.hand) (hclear : clears pc = clears st.worker)
    (hat : WorkerAt (st.goto pc) s pc) : Inv s (st.goto pc) :=
  h.beside hkeep (.of_worker rfl rfl (fun _ => id) rfl rfl hhand hclear) hat

theorem Inv.createSurface {hasGet : Bool} (h : Inv s st)
    (hfree : (st.surface t).allocated = false)
    (hkeep : Keeps st (st.setSurface t (.zero hasGet true))) :
    Inv s (st.setSurface t (.zero hasGet true)) := by
  by_cases hts : t = s
  · subst hts
    have hswap : (st.surface t).swapchain = false := by
      by_contra hne
      rw [h.allocated (by simpa using hne)] at hfree
      cases hfree
    obtain ⟨completed, pending, hbooks⟩ := h.books
    refine h.fresh hswap rfl rfl ?_ ?_ ?_ ?_ ⟨completed, pending,
      hbooks.frame hkeep rfl rfl ?_⟩
    · simp [State.setSurface, WorkerSurface.zero]
    · intro hs
      rw [h.listed hs] at hswap
      cases hswap
    · simp [State.setSurface, WorkerSurface.zero]
    · simp [State.setSurface, WorkerSurface.zero]
    · simp [waiting, State.setSurface, WorkerSurface.zero, h.empty hswap]
  · exact h.client hkeep rfl (Function.update_of_ne (Ne.symm hts) _ _) rfl id rfl rfl

theorem Inv.createSwapchain (h : Inv s st) (halloc : (st.surface t).allocated = true)
    (hmutex : st.worker.holdsSurfaceMutex = false)
    (honce : t = s → (st.surface s).swapchain = false)
    (hkeep : Keeps st (st.surfaceListInsert t)) : Inv s (st.surfaceListInsert t) := by
  by_cases hts : t = s
  · subst hts
    refine h.fresh (honce rfl) rfl rfl ?_ ?_ ?_ ?_ ⟨[], [], ?_⟩
    · simpa [State.surfaceListInsert, State.setSurface] using halloc
    · simp [State.surfaceListInsert, State.setSurface]
    · simp [State.surfaceListInsert, State.setSurface]
    · simp [State.surfaceListInsert, State.setSurface]
    · have hhand : inHand st.worker t = [] := by
        unfold inHand
        cases hpc : st.worker <;> first | rfl | (rw [hpc] at hmutex; cases hmutex)
      refine ⟨?_, ?_, ?_, nofun⟩
      · simp [State.surfaceListInsert]
      · simp [State.surfaceListInsert]
      · simp [waiting, State.surfaceListInsert, State.setSurface, hhand]
  · have hst : s ≠ t := Ne.symm hts
    refine h.client hkeep rfl (Function.update_of_ne hst _ _) rfl ?_
      (Function.update_of_ne hst _ _) (Function.update_of_ne hst _ _)
    intro hs
    rcases List.mem_append.mp hs with hold | hnew
    · exact hold
    · exact absurd (List.mem_singleton.mp hnew) hst

theorem Inv.popBuffer {queue : List Buffer} (h : Inv s st) (hpc : st.worker = .prepare t rest)
    (hqueue : (st.surface t).queue = b :: queue)
    (hkeep : Keeps st ((st.setSurface t { st.surface t with queue := queue }).goto
      (.popped t b rest))) :
    Inv s ((st.setSurface t { st.surface t with queue := queue }).goto (.popped t b rest)) := by
  have hat := h.workerAt hpc
  by_cases hts : t = s
  · subst hts
    have hswap := hat.1 List.mem_cons_self
    have hsurface : ((st.setSurface t { st.surface t with queue := queue }).goto
        (.popped t b rest)).surface t = { st.surface t with queue := queue } :=
      Function.update_self _ _ _
    obtain ⟨completed, pending, hbooks⟩ := h.books
    refine h.own hswap (by rw [hsurface]; exact hswap) (by rw [hsurface])
      (fun r hr hrs => (h.registered r hr hrs).frame hkeep (by rw [hsurface]) nofun)
      ⟨fun _ => by rw [hsurface]; exact hswap, fun _ => by rw [hsurface]; exact hat.2 rfl⟩
      ⟨completed, pending, hbooks.frame hkeep rfl rfl ?_⟩
    simp [waiting, inHand, clears, WorkerPc.hand, hpc, hqueue, hat.2 rfl, State.setSurface,
      State.goto]
  · have hbeside : Beside s st ((st.setSurface t { st.surface t with queue := queue }).goto
        (.popped t b rest)) := by
      refine ⟨Function.update_of_ne (Ne.symm hts) _ _, id, fun _ hr _ => hr, rfl, rfl, ?_, ?_⟩
      · simp [inHand, WorkerPc.hand, hpc, hts, State.goto]
      · simp [clears, hpc, State.goto]
    refine h.beside hkeep hbeside ⟨?_, fun heq => absurd heq hts⟩
    rw [hbeside.surface]
    exact hat.1

theorem Inv.fenceAdded (h : Inv s st) (hpc : st.worker = .popped t b rest)
    (hfence : st.waitSync b ≠ -1)
    (hkeep : Keeps st (({ st with epoll := (st.waitSync b, t) :: st.epoll }.setSurface t
      { st.surface t with drawWaitBuffer := some b }).goto (.scan rest))) :
    Inv s (({ st with epoll := (st.waitSync b, t) :: st.epoll }.setSurface t
      { st.surface t with drawWaitBuffer := some b }).goto (.scan rest)) := by
  have hat := h.workerAt hpc
  by_cases hts : t = s
  · subst hts
    have hswap := hat.1 List.mem_cons_self
    have hsurface : (({ st with epoll := (st.waitSync b, t) :: st.epoll }.setSurface t
        { st.surface t with drawWaitBuffer := some b }).goto (.scan rest)).surface t =
        { st.surface t with drawWaitBuffer := some b } := Function.update_self _ _ _
    obtain ⟨completed, pending, hbooks⟩ := h.books
    refine h.own hswap (by rw [hsurface]; exact hswap) (by rw [hsurface]) ?_
      (fun _ => by rw [hsurface]; exact hswap)
      ⟨completed, pending, hbooks.frame hkeep rfl rfl ?_⟩
    · intro r hr hrs
      rcases List.mem_cons.mp hr with rfl | hold
      · exact ⟨hfence, by rw [hsurface]; rfl, nofun⟩
      · -- no fence was registered beside an empty `draw_wait_buffer`
        have hnone := (h.registered r hold hrs).fence
        rw [hat.2 rfl] at hnone
        cases hnone
    · simp [waiting, inHand, clears, WorkerPc.hand, hpc, hat.2 rfl, State.setSurface, State.goto]
  · have hbeside : Beside s st (({ st with epoll := (st.waitSync b, t) :: st.epoll }.setSurface
        t { st.surface t with drawWaitBuffer := some b }).goto (.scan rest)) := by
      refine ⟨Function.update_of_ne (Ne.symm hts) _ _, id, ?_, rfl, rfl, ?_, ?_⟩
      · intro r hr hrs
        rcases List.mem_cons.mp hr with rfl | hold
        · exact absurd hrs hts
        · exact hold
      · simp [inHand, WorkerPc.hand, hpc, hts, State.goto]
      · simp [clears, hpc, State.goto]
    refine h.beside hkeep hbeside fun hs => ?_
    rw [hbeside.surface]
    exact hat.1 (List.mem_cons_of_mem _ hs)

theorem Inv.unregistered (h : Inv s st) (hwait : (st.surface s).drawWaitBuffer = some b)
    (hnone : st.waitSync b = -1) : Unregistered st s := by
  intro r hr hrs
  have hreg := h.registered r hr hrs
  have hfence := hreg.fence
  rw [hwait, Option.map_some, hnone] at hfence
  exact hreg.isFd (Option.some.inj hfence).symm

theorem Inv.fenceSignalled (h : Inv s st) (hpc : st.worker = .fenceWait t evs)
    (hwait : (st.surface t).drawWaitBuffer = some b)
    (hkeep : Keeps st ((st.epollDel (st.waitSync b)).goto
      (.finish t .errorNone (some (st.waitSync b)) evs))) :
    Inv s ((st.epollDel (st.waitSync b)).goto
      (.finish t .errorNone (some (st.waitSync b)) evs)) := by
  refine h.beside hkeep (.of_worker rfl rfl (fun r hr => (List.mem_filter.mp hr).1) rfl rfl
    (by rw [hpc]; rfl) (by rw [hpc]; rfl)) ?_
  rintro rfl
  refine ⟨fun r hr hrs => ?_, b, hwait, fun _ => rfl⟩
  obtain ⟨hmem, hne⟩ := List.mem_filter.mp hr
  have hfence := (h.registered r hmem hrs).fence
  rw [hwait, Option.map_some] at hfence
  exact of_decide_eq_true hne (Option.some.inj hfence).symm

theorem Inv.clearDrawWaitBuffer (h : Inv s st) (hpc : st.worker = .clear t evs)
    (hkeep : Keeps st ((st.setSurface t { st.surface t with drawWaitBuffer := none }).goto
      (.handle evs))) :
    Inv s ((st.setSurface t { st.surface t with drawWaitBuffer := none }).goto
      (.handle evs)) := by
  have hat := h.workerAt hpc
  by_cases hts : t = s
  · subst hts
    have hsurface : ((st.setSurface t { st.surface t with drawWaitBuffer := none }).goto
        (.handle evs)).surface t = { st.surface t with drawWaitBuffer := none } :=
      Function.update_self _ _ _
    obtain ⟨completed, pending, hbooks⟩ := h.books
    refine ⟨?_, ?_, ?_, fun r hr hrs => absurd hrs (hat rfl r hr), trivial,
      completed, pending, hbooks.frame hkeep rfl rfl ?_⟩
    · rw [hsurface]
      exact h.listed
    · rw [hsurface]
      exact h.allocated
    · rw [hsurface]
      exact fun hswap => ⟨rfl, (h.empty hswap).2⟩
    · simp [waiting, inHand, clears, WorkerPc.hand, hpc, State.setSurface, State.goto]
  · refine h.beside hkeep ⟨Function.update_of_ne (Ne.symm hts) _ _, id, fun _ hr _ => hr, rfl,
      rfl, ?_, ?_⟩ trivial
    · simp [inHand, WorkerPc.hand, hpc, State.goto]
    · simp [clears, hpc, hts, State.goto]

variable [DecidableEq Buffer]

theorem Inv.drawDoneRejected (h : Inv s st) (hpc : st.worker = .rejecting t b rest)
    (hkeep : Keeps st ((st.drawDone t b .errorInvalidOperation none).goto (.prepare t rest))) :
    Inv s ((st.drawDone t b .errorInvalidOperation none).goto (.prepare t rest)) := by
  have hat := h.workerAt hpc
  by_cases hts : t = s
  · subst hts
    have hswap := hat.1 List.mem_cons_self
    obtain ⟨completed, pending, hbooks⟩ := h.books
    refine h.own hswap hswap rfl
      (fun r hr hrs => (h.registered r hr hrs).frame hkeep rfl nofun) hat
      (hbooks.complete hkeep rfl (Function.update_self _ _ _) ?_ nofun)
    simp [waiting, inHand, clears, WorkerPc.hand, hpc, hat.2 rfl, State.goto, State.drawDone]
  · refine h.beside hkeep ⟨rfl, id, fun _ hr _ => hr, rfl,
      Function.update_of_ne (Ne.symm hts) _ _, ?_, ?_⟩ hat
    · simp [inHand, WorkerPc.hand, hpc, hts, State.goto]
    · simp [clears, hpc, State.goto]

theorem Inv.drawDone {result : TplResult} {report : Option Fd} (h : Inv s st)
    (hpc : st.worker = .finish t result report evs)
    (hwait : (st.surface t).drawWaitBuffer = some b)
    (hkeep : Keeps st ((st.drawDone t b result report).goto (.clear t evs))) :
    Inv s ((st.drawDone t b result report).goto (.clear t evs)) := by
  have hat := h.workerAt hpc
  by_cases hts : t = s
  · subst hts
    obtain ⟨hunreg, b', hb', hreport⟩ := hat rfl
    obtain rfl : b = b' := Option.some.inj (hwait.symm.trans hb')
    have hswap : (st.surface t).swapchain = true := by
      by_contra hne
      rw [(h.empty (by simpa using hne)).1] at hwait
      cases hwait
    obtain ⟨completed, pending, hbooks⟩ := h.books
    refine h.own hswap hswap rfl (fun r hr hrs => absurd hrs (hunreg r hr))
      (fun _ => hunreg)
      (hbooks.complete hkeep rfl (Function.update_self _ _ _) ?_ hreport)
    simp [waiting, inHand, clears, WorkerPc.hand, hpc, hwait, State.goto, State.drawDone]
  · refine h.beside hkeep ⟨rfl, id, fun _ hr _ => hr, rfl,
      Function.update_of_ne (Ne.symm hts) _ _, ?_, ?_⟩ fun heq => absurd heq hts
    · simp [inHand, WorkerPc.hand, hpc, State.goto]
    · simp [clears, hpc, hts, State.goto]

variable [DecidableEq Client]

theorem Inv.enqueueBuffer {c : Client} {fd : Fd} {signalled : Bool} (h : Inv s st)
    (hswap : (st.surface t).swapchain = true)
    (hkeep : Keeps st (st.enqueueBuffer c t b fd signalled)) :
    Inv s (st.enqueueBuffer c t b fd signalled) := by
  by_cases hts : t = s
  · subst hts
    have hsurface : (st.enqueueBuffer c t b fd signalled).surface t =
        { st.surface t with queue := (st.surface t).queue ++ [b] } :=
      Function.update_self _ _ _
    have hwait : waiting (st.enqueueBuffer c t b fd signalled) t = waiting st t ++ [b] := by
      simp only [waiting, hsurface, List.append_assoc]
      rfl
    obtain ⟨completed, pending, hbooks⟩ := h.books
    refine h.own hswap (by rw [hsurface]; exact hswap) (by rw [hsurface]) ?_ ?_
      ⟨completed, _, hbooks.append hkeep (Function.update_self _ _ _) rfl hwait
        (Function.update_self _ _ _)⟩
    · exact fun r hr hrs => (h.registered r hr hrs).frame hkeep (by rw [hsurface])
        (h.registered r hr hrs).notCleared
    · exact h.worker.frame hkeep rfl (by rw [hsurface]) (by rw [hsurface]) rfl
  · have hst : s ≠ t := Ne.symm hts
    exact h.client hkeep rfl (Function.update_of_ne hst _ _) rfl id
      (Function.update_of_ne hst _ _) rfl

end

section

variable {Ws : Type u} {Buffer : Type v} {Client : Type w}
variable [DecidableEq Ws] [DecidableEq Buffer] [DecidableEq Client]

/-- The surface stays in `surface_list` once its swapchain is created, and no
fence changes while its buffer waits. -/
structure StaysListed (s : Ws) (st : State Ws Buffer Client) (l : Label Ws Buffer Client) :
    Prop where
  stays : l.destroyed ≠ some s
  once : l = .createSwapchain s → (st.surface s).swapchain = false
  keeps : ∀ st' ∈ step st l, Keeps st st'

theorem inv_step {s : Ws} {st st' : State Ws Buffer Client} {l : Label Ws Buffer Client}
    (h : Inv s st) (hallowed : StaysListed s st l) (hstep : step st l = some st') :
    Inv s st' := by
  have hkeep := hallowed.keeps st' hstep
  cases Fires.of_step hstep with
  | createSurface hfree => exact h.createSurface hfree hkeep
  | createSwapchain halloc hmutex =>
      refine h.createSwapchain halloc hmutex ?_ hkeep
      rintro rfl
      exact hallowed.once rfl
  | @destroySwapchain t hmutex =>
      have hst : s ≠ t := by
        rintro rfl
        exact hallowed.stays rfl
      exact h.client hkeep rfl (Function.update_of_ne hst _ _) rfl List.mem_of_mem_erase rfl rfl
  | @destroySurface t hmutex hswap =>
      have hst : s ≠ t := by
        rintro rfl
        exact hallowed.stays rfl
      exact h.client hkeep rfl (Function.update_of_ne hst _ _) rfl id rfl rfl
  | @destroySurfaceSwapchain t hmutex =>
      have hst : s ≠ t := by
        rintro rfl
        exact hallowed.stays rfl
      refine h.client hkeep rfl ?_ rfl List.mem_of_mem_erase rfl rfl
      simp [State.surfaceListRemove, State.setSurface, hst]
  | enqueueBuffer hidle hswap => exact h.enqueueBuffer hswap hkeep
  | newBufferNotify hc => exact h.client hkeep rfl rfl rfl id rfl rfl
  | fenceSignal => exact h.client hkeep rfl rfl rfl id rfl rfl
  | workerFini => exact h.client hkeep rfl rfl rfl id rfl rfl
  | eventFdCreated hpc =>
      exact h.beside hkeep (.of_worker rfl rfl (fun _ => id) rfl rfl (by rw [hpc]; rfl)
        (by rw [hpc]; rfl)) trivial
  | eventFdFailed hpc =>
      exact h.beside hkeep (.of_worker rfl rfl (fun _ => id) rfl rfl (by rw [hpc]; rfl)
        (by rw [hpc]; rfl)) trivial
  | scanStart hpc =>
      exact h.beside hkeep (.of_worker rfl rfl (fun _ => id) rfl rfl (by rw [hpc]; rfl)
        (by rw [hpc]; rfl)) h.listed
  | loopEnd hpc =>
      exact h.beside hkeep (.of_worker rfl rfl nofun rfl rfl (by rw [hpc]; rfl)
        (by rw [hpc]; rfl)) trivial
  | scanEnd hpc => exact h.goto hkeep (by rw [hpc]; rfl) (by rw [hpc]; rfl) trivial
  | scanWaiting hpc hwait =>
      exact h.goto hkeep (by rw [hpc]; rfl) (by rw [hpc]; rfl) fun hs =>
        h.workerAt hpc (List.mem_cons_of_mem _ hs)
  | scanPrepare hpc hwait =>
      refine h.goto hkeep (by rw [hpc]; rfl) (by rw [hpc]; rfl) ⟨h.workerAt hpc, ?_⟩
      rintro rfl
      exact hwait
  | popEmpty hpc hqueue =>
      exact h.goto hkeep (by rw [hpc]; rfl) (by rw [hpc]; rfl) fun hs =>
        (h.workerAt hpc).1 (List.mem_cons_of_mem _ hs)
  | popBuffer hpc hqueue => exact h.popBuffer hpc hqueue hkeep
  | fenceAdded hpc hfence hnew => exact h.fenceAdded hpc hfence hkeep
  | fenceNotAdded hpc =>
      exact h.goto hkeep (by rw [hpc]; rfl) (by rw [hpc]; rfl) (h.workerAt hpc)
  | drawDoneRejected hpc => exact h.drawDoneRejected hpc hkeep
  | epollWait hpc hready => exact h.goto hkeep (by rw [hpc]; rfl) (by rw [hpc]; rfl) trivial
  | batchEnd hpc => exact h.goto hkeep (by rw [hpc]; rfl) (by rw [hpc]; rfl) trivial
  | readEventFd hpc =>
      exact h.beside hkeep (.of_worker rfl rfl (fun _ => id) rfl rfl (by rw [hpc]; rfl)
        (by rw [hpc]; rfl)) trivial
  | noEpollin hpc => exact h.goto hkeep (by rw [hpc]; rfl) (by rw [hpc]; rfl) trivial
  | drawWaiting hpc hwait => exact h.goto hkeep (by rw [hpc]; rfl) (by rw [hpc]; rfl) trivial
  | alreadySignalled hpc => exact h.goto hkeep (by rw [hpc]; rfl) (by rw [hpc]; rfl) trivial
  | noFence hpc hwait hnone =>
      refine h.goto hkeep (by rw [hpc]; rfl) (by rw [hpc]; rfl) ?_
      rintro rfl
      exact ⟨h.unregistered hwait hnone, _, hwait, nofun⟩
  | fenceSignalled hpc hwait => exact h.fenceSignalled hpc hwait hkeep
  | fenceNotSignalled hpc => exact h.goto hkeep (by rw [hpc]; rfl) (by rw [hpc]; rfl) trivial
  | drawDone hpc hwait => exact h.drawDone hpc hwait hkeep
  | clearDrawWaitBuffer hpc => exact h.clearDrawWaitBuffer hpc hkeep

theorem inv_reachable {s : Ws} {st : State Ws Buffer Client}
    (h : workerSystem.ReachableWhen (StaysListed s) st) : Inv s st := by
  refine h.invariant ?_ fun _ _ _ hinv hallowed hstep => inv_step hinv hallowed hstep
  rintro _ ⟨waitSync, signalled, rfl⟩
  exact ⟨nofun, nofun, fun _ => ⟨rfl, rfl⟩, nofun, trivial, [], [], rfl, .nil, rfl, nofun⟩

/-- The calls of `draw_done` settle the enqueues of a surface in order, and the
only fence registered for it is the one of its `draw_wait_buffer`. -/
theorem draw_done_in_order {s : Ws} {st : State Ws Buffer Client}
    (h : workerSystem.ReachableWhen (StaysListed s) st) :
    (∃ completed, completed <+: st.enqueued s ∧
      List.Forall₂ Settles (st.done s) completed) ∧
    (∀ r ∈ st.epoll, r.2 = s → (st.surface s).drawWaitBuffer.map st.waitSync = some r.1) ∧
    (∀ r ∈ st.epoll, ∀ r' ∈ st.epoll, r.2 = s → r'.2 = s → r = r') := by
  have hinv := inv_reachable h
  refine ⟨?_, fun r hr hrs => (hinv.registered r hr hrs).fence, ?_⟩
  · obtain ⟨completed, pending, hbooks⟩ := hinv.books
    exact ⟨completed, ⟨pending, hbooks.split.symm⟩, hbooks.settled⟩
  · intro r hr r' hr' hrs hrs'
    have hfd : some r.1 = some r'.1 :=
      (hinv.registered r hr hrs).fence.symm.trans (hinv.registered r' hr' hrs').fence
    exact Prod.ext (Option.some.inj hfd) (hrs.trans hrs'.symm)

section

variable [Fintype Ws] [Fintype Buffer]

instance (st : State Ws Buffer Client) (b : Buffer) : Decidable (Waits st b) :=
  inferInstanceAs (Decidable (∃ s, b ∈ waiting st s))

instance (st st' : State Ws Buffer Client) : Decidable (Keeps st st') :=
  inferInstanceAs (Decidable (∀ b, Waits st b → Waits st' b → st'.waitSync b = st.waitSync b))

instance (s : Ws) (st : State Ws Buffer Client) (l : Label Ws Buffer Client) :
    Decidable (StaysListed s st l) :=
  decidable_of_iff (l.destroyed ≠ some s ∧
      (l = .createSwapchain s → (st.surface s).swapchain = false) ∧
      ∀ st' ∈ step st l, Keeps st st')
    ⟨fun h => ⟨h.1, h.2.1, h.2.2⟩, fun h => ⟨h.stays, h.once, h.keeps⟩⟩

end

def fenceThenNone : List (Label Unit Bool Unit) :=
  [.createSurface () true, .createSwapchain (), .prepareEventFd true,
    .enqueueBuffer () () false 3 false, .newBufferNotify (), .enqueueBuffer () () true (-1) false,
    .newBufferNotify (), .loopStart, .scanNext, .popBuffer, .pollFence true, .scanNext,
    .fenceSignal 3, .epollWait [.worker, .surface () true], .handleEvent, .handleEvent,
    .fenceWait 1, .drawDone, .clearDrawWaitBuffer, .handleEvent, .loopStart, .scanNext,
    .popBuffer, .pollFence false, .drawDoneRejected]

theorem draw_done_in_order_fence_then_none :
    ∃ st, workerSystem.runWhen (StaysListed ()) (workerInit (fun _ => -1) fun _ => false)
        fenceThenNone = some st ∧
      st.done () = [⟨false, .errorNone, some 3⟩, ⟨true, .errorInvalidOperation, none⟩] ∧
      ∃ completed, completed <+: st.enqueued () ∧
        List.Forall₂ Settles (st.done ()) completed := by
  obtain ⟨st, hrun, hdone⟩ := workerSystem.exists_of_runWhen (StaysListed ())
    (fun st => st.done () =
      [⟨false, .errorNone, some 3⟩, ⟨true, .errorInvalidOperation, none⟩])
    (workerInit (fun _ => -1) fun _ => false) fenceThenNone (by decide)
  exact ⟨st, hrun, hdone, (draw_done_in_order (.of_runWhen (.initial ⟨_, _, rfl⟩) hrun)).1⟩

end

end LibtplEgl.WorkerOrder
