import Mathlib.Data.Multiset.AddSub
import Mathlib.Data.Multiset.Filter
import Mathlib.Logic.Function.Basic
import Mathlib.Tactic.TypeStar

namespace LibtplEgl.HeldTokens

universe u v

variable {Slot : Type u} {Token : Type v}

/-- The tokens in the slots are among the owned ones, each slot with an owned token of its
own: however many slots are looked at, together they hold no more than what is owned. -/
def Backed (held : Slot → Option Token) (owned : Multiset Token) : Prop :=
  ∀ slots : List Slot, slots.Nodup → (slots.filterMap held : Multiset Token) ≤ owned

variable {held held' : Slot → Option Token} {owned : Multiset Token}

theorem backed_of_none (h : ∀ s, held s = none) : Backed held owned := by
  intro slots _
  have hnil : slots.filterMap held = [] := List.filterMap_eq_nil_iff.mpr fun s _ => h s
  rw [hnil]
  exact Multiset.zero_le owned

theorem Backed.mem (h : Backed held owned) {s : Slot} {token : Token}
    (hs : held s = some token) : token ∈ owned := by
  have hle := h [s] (List.nodup_singleton s)
  rw [List.filterMap_cons_some hs] at hle
  exact Multiset.mem_of_le hle (Multiset.mem_cons_self token 0)

theorem Backed.put (h : Backed held owned) {s : Slot} {token : Token}
    (hother : ∀ s', s' ≠ s → held' s' = held s') (hs : held' s = some token) :
    Backed held' (token ::ₘ owned) := by
  classical
  intro slots hslots
  by_cases hmem : s ∈ slots
  · have hperm := (List.perm_cons_erase hmem).filterMap held'
    have hrest : (slots.erase s).filterMap held' = (slots.erase s).filterMap held :=
      List.filterMap_congr fun s' hs' => hother s' (hslots.mem_erase_iff.mp hs').1
    rw [List.filterMap_cons_some hs, hrest] at hperm
    rw [Multiset.coe_eq_coe.mpr hperm, ← Multiset.cons_coe]
    exact Multiset.cons_le_cons token (h _ (hslots.erase s))
  · have hsame : slots.filterMap held' = slots.filterMap held :=
      List.filterMap_congr fun s' hs' => hother s' fun heq => hmem (heq ▸ hs')
    rw [hsame]
    exact (h slots hslots).trans (Multiset.le_cons_self owned token)

theorem Backed.mono (h : Backed held owned) {owned' : Multiset Token} (hle : owned ≤ owned')
    (hheld : ∀ s, held' s = held s ∨ held' s = none) : Backed held' owned' := by
  intro slots hslots
  have hsub : (slots.filterMap held').Sublist (slots.filterMap held) := by
    clear hslots
    induction slots with
    | nil => exact List.Sublist.slnil
    | cons s slots ih =>
        rw [List.filterMap_cons, List.filterMap_cons]
        rcases hheld s with hsame | hnone
        · rw [hsame]
          cases held s with
          | none => exact ih
          | some token => exact ih.cons_cons token
        · rw [hnone]
          cases held s with
          | none => exact ih
          | some token => exact ih.cons token
  exact (Multiset.coe_le.mpr hsub.subperm).trans ((h slots hslots).trans hle)

variable [DecidableEq Token]

theorem Backed.take (h : Backed held owned) {s : Slot} {token : Token}
    (hs : held s = some token) (hother : ∀ s', s' ≠ s → held' s' = held s')
    (hnone : held' s = none) : Backed held' (owned.erase token) := by
  classical
  intro slots hslots
  have hnotMem : s ∉ slots.erase s := fun hmem => (hslots.mem_erase_iff.mp hmem).1 rfl
  have hperm : (slots.filterMap held').Perm ((slots.erase s).filterMap held) := by
    have hrest : (slots.erase s).filterMap held' = (slots.erase s).filterMap held :=
      List.filterMap_congr fun s' hs' => hother s' fun heq => hnotMem (heq ▸ hs')
    rw [← hrest]
    by_cases hmem : s ∈ slots
    · have hfirst := (List.perm_cons_erase hmem).filterMap held'
      rwa [List.filterMap_cons_none hnone] at hfirst
    · rw [List.erase_of_not_mem hmem]
  have hall := h (s :: slots.erase s) (List.nodup_cons.mpr ⟨hnotMem, hslots.erase s⟩)
  rw [List.filterMap_cons_some hs, ← Multiset.cons_coe] at hall
  have herase := Multiset.erase_le_erase token hall
  rw [Multiset.erase_cons_head] at herase
  rwa [Multiset.coe_eq_coe.mpr hperm]

end LibtplEgl.HeldTokens
