import LibtplEgl.BufferQueue
import LibtplEgl.WaylandEglSurface

namespace LibtplEgl

open LibtplEgl.BufferQueue (Queue)
open LibtplEgl.WaylandEglSurface (TsqError)

universe u v w

namespace TbmSurfaceQueue

variable {Buffer : Type u}

/-- `tbm_surface_queue_dequeue` takes the oldest free buffer or fails. -/
inductive Dequeued (q : Queue Buffer) : Option Buffer → Queue Buffer → Prop
  | failed : Dequeued q none q
  | taken {b : Buffer} {q' : Queue Buffer} (h : q.dequeue = some (b, q')) :
      Dequeued q (some b) q'

/-- `tbm_surface_queue_enqueue` takes a buffer that is outside or fails. -/
inductive Enqueued (q : Queue Buffer) (b : Buffer) : TsqError → Queue Buffer → Prop
  | failed {error : TsqError} (herror : error ≠ .errorNone) : Enqueued q b error q
  | taken (h : q.Outside b) : Enqueued q b .errorNone (q.enqueue b h)

/-- `tbm_surface_queue_acquire` takes the oldest buffer that waits or fails. -/
inductive Acquired (q : Queue Buffer) : Option Buffer → Queue Buffer → Prop
  | failed : Acquired q none q
  | taken {b : Buffer} {q' : Queue Buffer} (h : q.acquire = some (b, q')) :
      Acquired q (some b) q'

/-- `tbm_surface_queue_release` takes back a buffer that is outside or fails. -/
inductive Released (q : Queue Buffer) (b : Buffer) : Bool → Queue Buffer → Prop
  | failed : Released q b false q
  | taken (h : q.Outside b) : Released q b true (q.giveBack b h)

end TbmSurfaceQueue

open TbmSurfaceQueue (Dequeued Enqueued Acquired Released)

/-- The queue of libtbm, which the repository only calls: `view` is what it holds, a
`Choice` decides how a call goes. When a call fails, and with which error, is left open. -/
structure TbmSurfaceQueue (Q : Type v) (Choice : Type w) (Buffer : Type u) where
  view : Q → Queue Buffer
  create : Q
  attach : Q → Buffer → Q
  dequeue : Q → Choice → Option Buffer × Q
  enqueue : Q → Buffer → Choice → TsqError × Q
  acquire : Q → Choice → Option Buffer × Q
  release : Q → Buffer → Choice → Bool × Q
  reset : Q → Q
  view_create : view create = .empty
  view_attach : ∀ q b, ∀ h : b ∉ (view q).known, view (attach q b) = (view q).attach b h
  dequeued : ∀ q c, Dequeued (view q) (dequeue q c).1 (view (dequeue q c).2)
  enqueued : ∀ q b c, Enqueued (view q) b (enqueue q b c).1 (view (enqueue q b c).2)
  acquired : ∀ q c, Acquired (view q) (acquire q c).1 (view (acquire q c).2)
  released : ∀ q b c, Released (view q) b (release q b c).1 (view (release q b c).2)
  view_reset : ∀ q, view (reset q) = .empty

namespace TbmSurfaceQueue

section

variable {Buffer : Type u}

def failing {α : Type w} (q : Queue Buffer) (fails : Bool)
    (call : Option (α × Queue Buffer)) : Option α × Queue Buffer :=
  if fails then (none, q)
  else
    match call with
    | some (b, q') => (some b, q')
    | none => (none, q)

theorem failing_cases {α : Type w} (q : Queue Buffer) (fails : Bool)
    (call : Option (α × Queue Buffer)) :
    failing q fails call = (none, q) ∨
      ∃ b q', call = some (b, q') ∧ failing q fails call = (some b, q') := by
  cases fails with
  | true => exact Or.inl rfl
  | false =>
      cases call with
      | none => exact Or.inl rfl
      | some taken => exact Or.inr ⟨taken.1, taken.2, rfl, rfl⟩

theorem dequeued_failing (q : Queue Buffer) (fails : Bool) :
    Dequeued q (failing q fails q.dequeue).1 (failing q fails q.dequeue).2 := by
  rcases failing_cases q fails q.dequeue with hfailed | ⟨b, q', hq, htaken⟩
  · rw [hfailed]
    exact .failed
  · rw [htaken]
    exact .taken hq

theorem acquired_failing (q : Queue Buffer) (fails : Bool) :
    Acquired q (failing q fails q.acquire).1 (failing q fails q.acquire).2 := by
  rcases failing_cases q fails q.acquire with hfailed | ⟨b, q', hq, htaken⟩
  · rw [hfailed]
    exact .failed
  · rw [htaken]
    exact .taken hq

variable [DecidableEq Buffer]

def enqueueOutside (q : Queue Buffer) (b : Buffer) (fails : Bool) : TsqError × Queue Buffer :=
  if b ∉ q.known then (.unknownSurface, q)
  else if h : q.Outside b ∧ fails = false then (.errorNone, q.enqueue b h.1)
  else (.other, q)

def releaseOutside (q : Queue Buffer) (b : Buffer) (fails : Bool) : Bool × Queue Buffer :=
  if h : q.Outside b ∧ fails = false then (true, q.giveBack b h.1) else (false, q)

theorem enqueued_enqueueOutside (q : Queue Buffer) (b : Buffer) (fails : Bool) :
    Enqueued q b (enqueueOutside q b fails).1 (enqueueOutside q b fails).2 := by
  unfold enqueueOutside
  split
  · exact .failed nofun
  · split
    · rename_i h
      exact .taken h.1
    · exact .failed nofun

theorem released_releaseOutside (q : Queue Buffer) (b : Buffer) (fails : Bool) :
    Released q b (releaseOutside q b fails).1 (releaseOutside q b fails).2 := by
  unfold releaseOutside
  split
  · rename_i h
    exact .taken h.1
  · exact .failed

/-- A queue whose calls fail when they are told to. -/
def ofQueue : TbmSurfaceQueue (Queue Buffer) Bool Buffer where
  view q := q
  create := .empty
  attach q b := if h : b ∉ q.known then q.attach b h else q
  dequeue q fails := failing q fails q.dequeue
  enqueue := enqueueOutside
  acquire q fails := failing q fails q.acquire
  release := releaseOutside
  reset _ := .empty
  view_create := rfl
  view_attach _ _ h := dif_pos h
  dequeued := dequeued_failing
  enqueued := enqueued_enqueueOutside
  acquired := acquired_failing
  released := released_releaseOutside
  view_reset _ := rfl

end

end TbmSurfaceQueue

end LibtplEgl
