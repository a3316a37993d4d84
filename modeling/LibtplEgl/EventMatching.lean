import Mathlib.Logic.Function.Basic
import Mathlib.Tactic.TypeStar

namespace LibtplEgl.EventMatching

universe u

inductive Event (Item : Type u)
  | out (x : Item)
  | back (x : Item)
  deriving DecidableEq, Repr

variable {Item : Type u}

/-- `partner` sends the position of every `back x` to an earlier `out x`, and no
two of them to the same one. -/
structure MatchedBy (events : List (Event Item)) (partner : Nat → Nat) : Prop where
  earlier : ∀ i x, events[i]? = some (.back x) →
    partner i < i ∧ events[partner i]? = some (.out x)
  distinct : ∀ i j x y, events[i]? = some (.back x) → events[j]? = some (.back y) →
    partner i = partner j → i = j

/-- Every item given back was handed out by an earlier event of its own. -/
def Matched (events : List (Event Item)) : Prop := ∃ partner, MatchedBy events partner

/-- The position `j` hands out `x` and is nobody's partner. -/
structure Spare (events : List (Event Item)) (partner : Nat → Nat) (x : Item) (j : Nat) :
    Prop where
  out : events[j]? = some (.out x)
  unused : ∀ i y, events[i]? = some (.back y) → partner i ≠ j

theorem matchedBy_nil (partner : Nat → Nat) : MatchedBy ([] : List (Event Item)) partner :=
  ⟨nofun, nofun⟩

theorem getElem?_concat {events : List (Event Item)} {e f : Event Item} {i : Nat}
    (h : (events ++ [e])[i]? = some f) :
    i = events.length ∧ e = f ∨ i < events.length ∧ events[i]? = some f := by
  rcases Nat.lt_trichotomy i events.length with hlt | rfl | hgt
  · rw [List.getElem?_append_left hlt] at h
    exact .inr ⟨hlt, h⟩
  · rw [List.getElem?_concat_length] at h
    exact .inl ⟨rfl, Option.some.inj h⟩
  · rw [List.getElem?_eq_none (by simp; omega)] at h
    cases h

theorem getElem?_concat_of_some {events : List (Event Item)} {e f : Event Item} {i : Nat}
    (h : events[i]? = some f) : (events ++ [e])[i]? = some f := by
  rw [List.getElem?_append_left (List.getElem?_eq_some_iff.mp h).1]
  exact h

theorem MatchedBy.out {events : List (Event Item)} {partner : Nat → Nat}
    (h : MatchedBy events partner) (x : Item) : MatchedBy (events ++ [.out x]) partner := by
  have hold : ∀ {i : Nat} {y : Item}, (events ++ [.out x])[i]? = some (Event.back y) →
      events[i]? = some (Event.back y) := by
    intro i y hi
    obtain ⟨-, ⟨⟩⟩ | ⟨-, hi⟩ := getElem?_concat hi
    exact hi
  refine ⟨fun i y hi => ?_, fun i j y z hi hj => h.distinct i j y z (hold hi) (hold hj)⟩
  obtain ⟨hlt, hout⟩ := h.earlier i y (hold hi)
  exact ⟨hlt, getElem?_concat_of_some hout⟩

theorem Spare.out_other {events : List (Event Item)} {partner : Nat → Nat} {y : Item} {j : Nat}
    (h : Spare events partner y j) (x : Item) : Spare (events ++ [.out x]) partner y j := by
  refine ⟨getElem?_concat_of_some h.out, fun i z hi => ?_⟩
  obtain ⟨-, ⟨⟩⟩ | ⟨-, hi⟩ := getElem?_concat hi
  exact h.unused i z hi

theorem MatchedBy.spare_out {events : List (Event Item)} {partner : Nat → Nat}
    (h : MatchedBy events partner) (x : Item) :
    Spare (events ++ [.out x]) partner x events.length := by
  refine ⟨List.getElem?_concat_length, fun i y hi => ?_⟩
  obtain ⟨-, ⟨⟩⟩ | ⟨hlt, hi⟩ := getElem?_concat hi
  exact Nat.ne_of_lt (Nat.lt_trans (h.earlier i y hi).1 hlt)

theorem MatchedBy.back {events : List (Event Item)} {partner : Nat → Nat} {x : Item} {j : Nat}
    (h : MatchedBy events partner) (hj : Spare events partner x j) :
    MatchedBy (events ++ [.back x]) (Function.update partner events.length j) := by
  have hjlt : j < events.length := (List.getElem?_eq_some_iff.mp hj.out).1
  have hold : ∀ {i}, i < events.length →
      Function.update partner events.length j i = partner i :=
    fun hlt => Function.update_of_ne (Nat.ne_of_lt hlt) _ _
  refine ⟨fun i y hi => ?_, fun i k y z hi hk hsame => ?_⟩
  · obtain ⟨rfl, ⟨⟩⟩ | ⟨hlt, hi⟩ := getElem?_concat hi
    · rw [Function.update_self]
      exact ⟨hjlt, getElem?_concat_of_some hj.out⟩
    · rw [hold hlt]
      exact ⟨(h.earlier i y hi).1, getElem?_concat_of_some (h.earlier i y hi).2⟩
  · obtain ⟨rfl, -⟩ | ⟨hilt, hi⟩ := getElem?_concat hi
    · obtain ⟨rfl, -⟩ | ⟨hklt, hk⟩ := getElem?_concat hk
      · rfl
      · rw [Function.update_self, hold hklt] at hsame
        exact absurd hsame.symm (hj.unused k z hk)
    · obtain ⟨rfl, -⟩ | ⟨hklt, hk⟩ := getElem?_concat hk
      · rw [Function.update_self, hold hilt] at hsame
        exact absurd hsame (hj.unused i y hi)
      · rw [hold hilt, hold hklt] at hsame
        exact h.distinct i k y z hi hk hsame

theorem Spare.back_other {events : List (Event Item)} {partner : Nat → Nat} {x y : Item}
    {j k : Nat} (hj : Spare events partner x j) (hk : Spare events partner y k) (hne : y ≠ x) :
    Spare (events ++ [.back x]) (Function.update partner events.length j) y k := by
  refine ⟨getElem?_concat_of_some hk.out, fun i z hi => ?_⟩
  obtain ⟨rfl, -⟩ | ⟨hlt, hi⟩ := getElem?_concat hi
  · rw [Function.update_self]
    rintro rfl
    have hsame := hj.out.symm.trans hk.out
    cases hsame
    exact hne rfl
  · rw [Function.update_of_ne (Nat.ne_of_lt hlt)]
    exact hk.unused i z hi

end LibtplEgl.EventMatching
