import Mathlib.Tactic.TypeStar

namespace LibtplEgl.OwnedMutex

universe u

/-- A mutex names its owner, who is the one party in a critical section. -/
def Owns {Party : Type u} (mutex : Option Party) (holds : Party → Prop) : Prop :=
  ∀ p, holds p ↔ mutex = some p

variable {Party : Type u} {mutex : Option Party} {holds holds' : Party → Prop}

theorem Owns.unique (h : Owns mutex holds) {p q : Party} (hp : holds p) (hq : holds q) :
    p = q :=
  Option.some.inj (((h p).mp hp).symm.trans ((h q).mp hq))

theorem Owns.keep (h : Owns mutex holds) (hsame : ∀ p, holds' p ↔ holds p) :
    Owns mutex holds' :=
  fun p => (hsame p).trans (h p)

theorem Owns.acquire (h : Owns none holds) {p : Party} (hin : holds' p)
    (hothers : ∀ q, q ≠ p → (holds' q ↔ holds q)) : Owns (some p) holds' := by
  intro q
  by_cases hqp : q = p
  · subst hqp
    exact iff_of_true hin rfl
  · rw [hothers q hqp, h q]
    exact iff_of_false nofun fun heq => hqp (Option.some.inj heq).symm

theorem Owns.release (h : Owns mutex holds) {p : Party} (hp : holds p) (hout : ¬ holds' p)
    (hothers : ∀ q, q ≠ p → (holds' q ↔ holds q)) : Owns none holds' := by
  intro q
  refine iff_of_false (fun hq => ?_) nofun
  by_cases hqp : q = p
  · subst hqp
    exact hout hq
  · exact hqp (h.unique ((hothers q hqp).mp hq) hp)

end LibtplEgl.OwnedMutex
