import Mathlib.Tactic.TypeStar

namespace LibtplEgl.StraightLine

universe u

/-- A program without branches, taken one step at a time: every state knows how
many steps are left. -/
structure Program (State : Type u) where
  step : State → Option State
  rank : State → Nat
  rank_step : ∀ {s s' : State}, step s = some s' → rank s = rank s' + 1

namespace Program

variable {State : Type u} (P : Program State)

def iterate : Nat → State → Option State
  | 0, s => some s
  | n + 1, s => (P.step s).bind (iterate n)

def complete (s : State) : Option State := P.iterate (P.rank s) s

variable {P}

/-- A step does not change what the program completes to, so a fact about the
completed program is an invariant of its steps. -/
theorem complete_of_step {s s' : State} (h : P.step s = some s') :
    P.complete s' = P.complete s := by
  rw [complete, complete, P.rank_step h, iterate, h, Option.bind_some]

theorem complete_of_rank_zero {s : State} (h : P.rank s = 0) : P.complete s = some s := by
  rw [complete, h, iterate]

end Program

end LibtplEgl.StraightLine
