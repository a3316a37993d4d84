import Mathlib.Logic.Function.Basic
import Mathlib.Tactic.TypeStar

namespace LibtplEgl.ScopedUse

universe u

/-- An operation on an object that has to be initialised before it is used and is
not used any more after it has been destroyed. -/
inductive Op (Object : Type u)
  | init (o : Object)
  | use (o : Object)
  | destroy (o : Object)
  deriving DecidableEq, Repr

/-- The objects that are initialised, and whether some operation came outside the
scope of its object. -/
structure Scopes (Object : Type u) where
  initialised : Object → Bool
  outside : Bool

namespace Scopes

variable {Object : Type u}

def zero : Scopes Object := ⟨fun _ => false, false⟩

variable [DecidableEq Object]

def perform (sc : Scopes Object) : Op Object → Scopes Object
  | .init o => { sc with initialised := Function.update sc.initialised o true }
  | .use o => { sc with outside := sc.outside || !sc.initialised o }
  | .destroy o =>
      { initialised := Function.update sc.initialised o false
        outside := sc.outside || !sc.initialised o }

def performAll (sc : Scopes Object) (ops : List (Op Object)) : Scopes Object :=
  ops.foldl perform sc

variable {sc : Scopes Object}

@[simp] theorem performAll_nil : sc.performAll [] = sc := rfl

@[simp] theorem performAll_cons (op : Op Object) (ops : List (Op Object)) :
    sc.performAll (op :: ops) = (sc.perform op).performAll ops := rfl

@[simp] theorem outside_init (o : Object) : (sc.perform (.init o)).outside = sc.outside := rfl

@[simp] theorem outside_use (o : Object) :
    (sc.perform (.use o)).outside = (sc.outside || !sc.initialised o) := rfl

@[simp] theorem outside_destroy (o : Object) :
    (sc.perform (.destroy o)).outside = (sc.outside || !sc.initialised o) := rfl

@[simp] theorem initialised_init (o p : Object) :
    (sc.perform (.init o)).initialised p = if p = o then true else sc.initialised p := by
  simp [perform, Function.update_apply]

@[simp] theorem initialised_use (o : Object) :
    (sc.perform (.use o)).initialised = sc.initialised := rfl

@[simp] theorem initialised_destroy (o p : Object) :
    (sc.perform (.destroy o)).initialised p = if p = o then false else sc.initialised p := by
  simp [perform, Function.update_apply]

theorem outside_perform (h : sc.outside = true) (op : Op Object) :
    (sc.perform op).outside = true := by
  cases op with
  | init o => exact h
  | use o => simp [h]
  | destroy o => simp [h]

theorem outside_performAll (h : sc.outside = true) (ops : List (Op Object)) :
    (sc.performAll ops).outside = true := by
  induction ops generalizing sc with
  | nil => exact h
  | cons op ops ih => exact ih (outside_perform h op)

theorem performAll_use {os : List Object} (h : ∀ o ∈ os, sc.initialised o = true) :
    sc.performAll (os.map .use) = sc := by
  induction os with
  | nil => rfl
  | cons o os ih =>
      have hperform : sc.perform (.use o) = sc := by
        simp [perform, h o List.mem_cons_self]
      rw [List.map_cons, performAll_cons, hperform]
      exact ih fun p hp => h p (List.mem_cons_of_mem o hp)

theorem outside_performAll_use {o : Object} {os : List Object} (ho : o ∈ os)
    (h : sc.initialised o = false) : (sc.performAll (os.map .use)).outside = true := by
  induction os generalizing sc with
  | nil => cases ho
  | cons p os ih =>
      rcases List.mem_cons.mp ho with rfl | hmem
      · have hp : (sc.perform (.use o)).outside = true := by simp [h]
        exact outside_performAll hp _
      · exact ih hmem h

end Scopes

end LibtplEgl.ScopedUse
