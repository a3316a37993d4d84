import Mathlib.Logic.Function.Basic
import Mathlib.Tactic.TypeStar

namespace LibtplEgl.ProxyQueues

universe u v

/-- The objects of a client, each with the queue that its events go to, `none` for the
default queue. An operation on something that is not alive is `none`. -/
@[ext]
structure Connection (Proxy : Type u) (Queue : Type v) where
  proxies : Proxy → Option (Option Queue)
  queues : Queue → Bool

namespace Connection

variable {Proxy : Type u} {Queue : Type v}

def empty : Connection Proxy Queue := ⟨fun _ => none, fun _ => false⟩

/-- No object is on a queue that is gone. -/
def Attached (c : Connection Proxy Queue) : Prop :=
  ∀ p q, c.proxies p = some (some q) → c.queues q = true

section

variable [DecidableEq Queue]

def createQueue (c : Connection Proxy Queue) (q : Queue) : Option (Connection Proxy Queue) :=
  if c.queues q then none else some { c with queues := Function.update c.queues q true }

def destroyQueue (c : Connection Proxy Queue) (q : Queue) : Option (Connection Proxy Queue) :=
  if c.queues q then some { c with queues := Function.update c.queues q false } else none

variable {c : Connection Proxy Queue} {q : Queue}

theorem createQueue_eq (h : c.queues q = false) :
    c.createQueue q = some { c with queues := Function.update c.queues q true } := by
  simp [createQueue, h]

theorem destroyQueue_eq (h : c.queues q = true) :
    c.destroyQueue q = some { c with queues := Function.update c.queues q false } := by
  simp [destroyQueue, h]

end

section

variable [DecidableEq Proxy]

def create (c : Connection Proxy Queue) (p : Proxy) : Option (Connection Proxy Queue) :=
  match c.proxies p with
  | none => some { c with proxies := Function.update c.proxies p (some none) }
  | some _ => none

/-- An object that `parent` makes: it is on the queue of `parent`. -/
def createFrom (c : Connection Proxy Queue) (parent p : Proxy) :
    Option (Connection Proxy Queue) :=
  match c.proxies parent, c.proxies p with
  | some queue, none => some { c with proxies := Function.update c.proxies p (some queue) }
  | _, _ => none

def setQueue (c : Connection Proxy Queue) (p : Proxy) (queue : Option Queue) :
    Option (Connection Proxy Queue) :=
  match c.proxies p with
  | none => none
  | some _ =>
      if queue.all c.queues then
        some { c with proxies := Function.update c.proxies p (some queue) }
      else none

def destroy (c : Connection Proxy Queue) (p : Proxy) : Option (Connection Proxy Queue) :=
  match c.proxies p with
  | none => none
  | some _ => some { c with proxies := Function.update c.proxies p none }

variable {c : Connection Proxy Queue} {p parent : Proxy} {queue : Option Queue}

theorem create_eq (h : c.proxies p = none) :
    c.create p = some { c with proxies := Function.update c.proxies p (some none) } := by
  simp [create, h]

theorem createFrom_eq (hparent : c.proxies parent = some queue) (h : c.proxies p = none) :
    c.createFrom parent p =
      some { c with proxies := Function.update c.proxies p (some queue) } := by
  simp only [createFrom, hparent, h]

theorem setQueue_eq (h : c.proxies p ≠ none) (hqueue : queue.all c.queues = true) :
    c.setQueue p queue = some { c with proxies := Function.update c.proxies p (some queue) } := by
  obtain ⟨old, hold⟩ := Option.ne_none_iff_exists'.mp h
  simp only [setQueue, hold, hqueue, if_true]

theorem destroy_eq (h : c.proxies p ≠ none) :
    c.destroy p = some { c with proxies := Function.update c.proxies p none } := by
  obtain ⟨old, hold⟩ := Option.ne_none_iff_exists'.mp h
  simp only [destroy, hold]

end

end Connection

end LibtplEgl.ProxyQueues
