import Mathlib.Algebra.GroupWithZero.Nat
import Mathlib.Logic.Function.Basic
import Mathlib.Tactic.TypeStar

namespace LibtplEgl.LabelledSystem

universe u v

/-- A labelled transition system. A label carries every choice that the
environment makes in a step, so that a step is a partial function of the state
and the label; `none` means that the step cannot be taken. -/
structure System (State : Type u) (Label : Type v) where
  Initial : State → Prop
  step : State → Label → Option State

variable {State : Type u} {Label : Type v}

namespace System

/-- States reached by steps that are each allowed in the state they leave. -/
inductive ReachableWhen (S : System State Label) (allowed : State → Label → Prop) :
    State → Prop
  | initial {s : State} : S.Initial s → ReachableWhen S allowed s
  | step {s s' : State} {l : Label} : ReachableWhen S allowed s → allowed s l →
      S.step s l = some s' → ReachableWhen S allowed s'

abbrev Reachable (S : System State Label) : State → Prop :=
  S.ReachableWhen fun _ _ => True

variable {S : System State Label} {allowed : State → Label → Prop}

/-- The induction behind every safety result: what holds initially and is
preserved by the allowed steps holds in every state they reach. -/
theorem ReachableWhen.invariant {I : State → Prop} {s : State}
    (hs : S.ReachableWhen allowed s) (hinit : ∀ s, S.Initial s → I s)
    (hstep : ∀ s l s', I s → allowed s l → S.step s l = some s' → I s') : I s := by
  induction hs with
  | initial h => exact hinit _ h
  | step _ hallowed h ih => exact hstep _ _ _ ih hallowed h

def run (S : System State Label) : State → List Label → Option State
  | s, [] => some s
  | s, l :: ls => (S.step s l).bind fun s' => run S s' ls

/-- Every step of a run leaves its state in an allowed way. -/
def EveryStep (S : System State Label) (allowed : State → Label → Prop) :
    State → List Label → Prop
  | _, [] => True
  | s, l :: ls => allowed s l ∧ ∀ s' ∈ S.step s l, EveryStep S allowed s' ls

/-- A predicate holds in every state a run visits, the first and the last included. -/
def Always (S : System State Label) (P : State → Prop) : State → List Label → Prop
  | s, [] => P s
  | s, l :: ls => P s ∧ ∀ s' ∈ S.step s l, Always S P s' ls

/-- A run that also checks that every step is allowed. -/
def runWhen (S : System State Label) (allowed : State → Label → Prop)
    [∀ s l, Decidable (allowed s l)] : State → List Label → Option State
  | s, [] => some s
  | s, l :: ls =>
      if allowed s l then (S.step s l).bind fun s' => runWhen S allowed s' ls else none

@[simp] theorem run_nil (s : State) : S.run s [] = some s := rfl

theorem run_cons (s : State) (l : Label) (ls : List Label) :
    S.run s (l :: ls) = (S.step s l).bind fun s' => S.run s' ls := rfl

theorem Always.head {P : State → Prop} {s : State} {ls : List Label} (h : S.Always P s ls) :
    P s := by
  cases ls with
  | nil => exact h
  | cons => exact h.1

theorem Reachable.of_run {s s' : State} {ls : List Label}
    (hs : S.Reachable s) (hrun : S.run s ls = some s') : S.Reachable s' := by
  induction ls generalizing s with
  | nil =>
      obtain rfl : s = s' := by simpa using hrun
      exact hs
  | cons l ls ih =>
      rw [run_cons, Option.bind_eq_some_iff] at hrun
      obtain ⟨t, ht, hrest⟩ := hrun
      exact ih (.step hs trivial ht) hrest

theorem ReachableWhen.of_runWhen [∀ s l, Decidable (allowed s l)] {s s' : State}
    {ls : List Label} (hs : S.ReachableWhen allowed s)
    (hrun : S.runWhen allowed s ls = some s') : S.ReachableWhen allowed s' := by
  induction ls generalizing s with
  | nil =>
      obtain rfl : s = s' := by simpa [runWhen] using hrun
      exact hs
  | cons l ls ih =>
      rw [runWhen] at hrun
      split at hrun
      · rename_i hl
        obtain ⟨t, ht, hrest⟩ := Option.bind_eq_some_iff.mp hrun
        exact ih (.step hs hl ht) hrest
      · cases hrun

theorem run_of_runWhen [∀ s l, Decidable (allowed s l)] {s s' : State} {ls : List Label}
    (hrun : S.runWhen allowed s ls = some s') : S.run s ls = some s' := by
  induction ls generalizing s with
  | nil => exact hrun
  | cons l ls ih =>
      rw [runWhen] at hrun
      split at hrun
      · obtain ⟨t, ht, hrest⟩ := Option.bind_eq_some_iff.mp hrun
        rw [run_cons, ht]
        exact ih hrest
      · cases hrun

theorem EveryStep.of_runWhen [∀ s l, Decidable (allowed s l)] {s s' : State} {ls : List Label}
    (hrun : S.runWhen allowed s ls = some s') : S.EveryStep allowed s ls := by
  induction ls generalizing s with
  | nil => trivial
  | cons l ls ih =>
      rw [runWhen] at hrun
      split at hrun
      · rename_i hl
        obtain ⟨t, ht, hrest⟩ := Option.bind_eq_some_iff.mp hrun
        refine ⟨hl, fun u hu => ?_⟩
        obtain rfl : t = u := Option.some.inj (ht.symm.trans hu)
        exact ih hrest
      · cases hrun

def restrict (S : System State Label) (allowed : State → Label → Prop)
    [∀ s l, Decidable (allowed s l)] : System State Label where
  Initial := S.Initial
  step s l := if allowed s l then S.step s l else none

theorem restrict_step_eq_some [∀ s l, Decidable (allowed s l)] {s s' : State} {l : Label} :
    (S.restrict allowed).step s l = some s' ↔ allowed s l ∧ S.step s l = some s' := by
  show (if allowed s l then S.step s l else none) = some s' ↔ _
  split
  · rename_i hl
    exact (and_iff_right hl).symm
  · rename_i hl
    constructor
    · intro h
      cases h
    · intro h
      exact absurd h.1 hl

theorem exists_of_run (p : State → Prop) [DecidablePred p] (s : State) (ls : List Label)
    (h : (S.run s ls).any (fun t => decide (p t)) = true) :
    ∃ t, S.run s ls = some t ∧ p t := by
  cases hrun : S.run s ls with
  | none =>
      rw [hrun] at h
      cases h
  | some t =>
      rw [hrun] at h
      exact ⟨t, rfl, of_decide_eq_true h⟩

theorem exists_of_runWhen (allowed : State → Label → Prop)
    [∀ s l, Decidable (allowed s l)] (p : State → Prop) [DecidablePred p] (s : State)
    (ls : List Label)
    (h : (S.runWhen allowed s ls).any (fun t => decide (p t)) = true) :
    ∃ t, S.runWhen allowed s ls = some t ∧ p t := by
  cases hrun : S.runWhen allowed s ls with
  | none =>
      rw [hrun] at h
      cases h
  | some t =>
      rw [hrun] at h
      exact ⟨t, rfl, of_decide_eq_true h⟩

/-- Invariants along one run: the inductive invariant `I` is what the steps
preserve, `P` is what it says about the visited states. -/
theorem always_of_invariant {I P : State → Prop} {s : State} {ls : List Label}
    (hs : I s) (hall : S.EveryStep allowed s ls)
    (hstep : ∀ s l s', I s → allowed s l → S.step s l = some s' → I s')
    (himp : ∀ s, I s → P s) : S.Always P s ls := by
  induction ls generalizing s with
  | nil => exact himp s hs
  | cons l ls ih =>
      exact ⟨himp s hs, fun s' hs' => ih (hstep s l s' hs hall.1 hs') (hall.2 s' hs')⟩

/-- The converse direction along one run: if every visited state satisfies `P`
and a step that leaves an `I`-state for a `P`-state is allowed, then every step
of a complete run is allowed. -/
theorem everyStep_of_always {I P : State → Prop} {s t : State} {ls : List Label}
    (hs : I s) (hP : S.Always P s ls) (hrun : S.run s ls = some t)
    (hstep : ∀ s l s', I s → allowed s l → S.step s l = some s' → I s')
    (hallowed : ∀ s l s', I s → S.step s l = some s' → P s' → allowed s l) :
    S.EveryStep allowed s ls := by
  induction ls generalizing s with
  | nil => trivial
  | cons l ls ih =>
      rw [run_cons, Option.bind_eq_some_iff] at hrun
      obtain ⟨s', hs', hrest⟩ := hrun
      have hP' := hP.2 s' hs'
      have hl : allowed s l := hallowed s l s' hs hs' hP'.head
      refine ⟨hl, fun u hu => ?_⟩
      obtain rfl : s' = u := by
        rw [hs'] at hu
        exact Option.some.inj hu
      exact ih (hstep s l s' hs hl hs') hP' hrest

/-- What the labels of a run spend is paid from the rank of its first state and
from what the labels earn. -/
theorem run_budget {I : State → Prop} (rank : State → Nat) (spend earn : Label → Nat)
    (hstep : ∀ s l s', I s → S.step s l = some s' →
      I s' ∧ rank s' + spend l ≤ rank s + earn l)
    {s t : State} {ls : List Label} (hs : I s) (hrun : S.run s ls = some t) :
    rank t + (ls.map spend).sum ≤ rank s + (ls.map earn).sum := by
  induction ls generalizing s with
  | nil =>
      obtain rfl : s = t := by simpa using hrun
      simp
  | cons l ls ih =>
      rw [run_cons, Option.bind_eq_some_iff] at hrun
      obtain ⟨s', hs', hrest⟩ := hrun
      obtain ⟨hinv, hpaid⟩ := hstep s l s' hs hs'
      have hlater := ih hinv hrest
      simp only [List.map_cons, List.sum_cons]
      omega

/-- Both directions for a complete run. -/
theorem always_iff_everyStep {I P : State → Prop} {s t : State} {ls : List Label}
    (hs : I s) (hrun : S.run s ls = some t)
    (hstep : ∀ s l s', I s → allowed s l → S.step s l = some s' → I s')
    (himp : ∀ s, I s → P s)
    (hallowed : ∀ s l s', I s → S.step s l = some s' → P s' → allowed s l) :
    S.Always P s ls ↔ S.EveryStep allowed s ls := by
  constructor
  · intro halways
    exact everyStep_of_always hs halways hrun hstep hallowed
  · intro hall
    exact always_of_invariant hs hall hstep himp

end System

end LibtplEgl.LabelledSystem
