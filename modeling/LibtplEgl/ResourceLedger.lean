import Mathlib.Logic.Function.Basic
import Mathlib.Tactic.TypeStar

namespace LibtplEgl.ResourceLedger

universe u v

/-- Resources that calls hand over to a component. A call that accepts its resource
closes it or stores it in a slot that is due, whose resource is closed when the slot
is finished; a call that refuses leaves its resource to the caller. -/
structure Ledger (Slot : Type u) (Resource : Type v) where
  closed : List Resource
  stored : Slot → Option Resource
  due : List Slot
  passed : List (Resource × Bool)

namespace Ledger

variable {Slot : Type u} {Resource : Type v}

def Passed (L : Ledger Slot Resource) (r : Resource) : Prop := ∃ accepted, (r, accepted) ∈ L.passed

/-- No call has handed the resource over and it is open. -/
def Fresh (L : Ledger Slot Resource) (r : Resource) : Prop := ¬ L.Passed r ∧ r ∉ L.closed

def Pending (L : Ledger Slot Resource) (r : Resource) : Prop :=
  ∃ s ∈ L.due, L.stored s = some r

variable [DecidableEq Resource]

/-- What has been accepted is closed once or is going to be, what has been refused is
not. -/
def Settled (L : Ledger Slot Resource) (r : Resource) : Bool → Prop
  | true => L.closed.count r = 1 ∧ ¬ L.Pending r ∨ L.closed.count r = 0 ∧ L.Pending r
  | false => L.closed.count r = 0 ∧ ¬ L.Pending r

def Balanced (L : Ledger Slot Resource) : Prop :=
  ∀ r accepted, (r, accepted) ∈ L.passed → L.Settled r accepted

/-- A balanced ledger that stores resources of the calls, each in one slot. -/
structure Kept (L : Ledger Slot Resource) : Prop where
  balanced : L.Balanced
  stored : ∀ s r, L.stored s = some r → L.Passed r
  single : ∀ s t r, L.stored s = some r → L.stored t = some r → s = t

variable {L L' : Ledger Slot Resource}

theorem Settled.of_pending {r : Resource} {accepted : Bool} (h : L.Settled r accepted)
    (hpending : L.Pending r) : accepted = true ∧ L.closed.count r = 0 := by
  cases accepted with
  | false => exact (h.2 hpending).elim
  | true =>
      rcases h with ⟨-, hnot⟩ | ⟨hcount, -⟩
      · exact (hnot hpending).elim
      · exact ⟨rfl, hcount⟩

theorem Settled.congr {r : Resource} {accepted : Bool} (h : L.Settled r accepted)
    (hcount : L'.closed.count r = L.closed.count r) (hpending : L'.Pending r ↔ L.Pending r) :
    L'.Settled r accepted := by
  cases accepted with
  | false => simpa only [Settled, hcount, hpending] using h
  | true => simpa only [Settled, hcount, hpending] using h

theorem Fresh.count {r : Resource} (hr : L.Fresh r) : L.closed.count r = 0 :=
  List.count_eq_zero.mpr hr.2

theorem Kept.not_pending_of_not_passed (h : L.Kept) {r : Resource} (hr : ¬ L.Passed r) :
    ¬ L.Pending r :=
  fun ⟨s, _, hs⟩ => hr (h.stored s r hs)

/-- A call hands over `resource`, if any. -/
def pass (L : Ledger Slot Resource) (resource : Option Resource) (accepted : Bool) :
    Ledger Slot Resource :=
  { L with passed := (resource.map (·, accepted)).toList ++ L.passed }

def close (L : Ledger Slot Resource) (resource : Option Resource) : Ledger Slot Resource :=
  { L with closed := resource.toList ++ L.closed }

def drop (L : Ledger Slot Resource) (due : List Slot) : Ledger Slot Resource :=
  { L with due := due }

omit [DecidableEq Resource] in
theorem passed_pass {resource : Option Resource} {accepted : Bool} {r : Resource}
    (h : L.Passed r) : (L.pass resource accepted).Passed r := by
  obtain ⟨a, ha⟩ := h
  exact ⟨a, List.mem_append_right _ ha⟩

omit [DecidableEq Resource] in
theorem passed_pass_self (r : Resource) (accepted : Bool) :
    (L.pass (some r) accepted).Passed r :=
  ⟨accepted, List.mem_append_left _ (List.mem_singleton_self _)⟩

theorem balanced_pass {resource : Option Resource} {accepted : Bool}
    (hnew : ∀ r ∈ resource, L'.Settled r accepted)
    (hold : ∀ r a, (r, a) ∈ L.passed → L'.Settled r a)
    (hpassed : L'.passed = (L.pass resource accepted).passed) : L'.Balanced := by
  intro r a hmem
  rw [hpassed] at hmem
  rcases List.mem_append.mp hmem with hfirst | hrest
  · obtain ⟨r', hr', heq⟩ := Option.map_eq_some_iff.mp (Option.mem_toList.mp hfirst)
    cases heq
    exact hnew r hr'
  · exact hold r a hrest

theorem Kept.refuse (h : L.Kept) {resource : Option Resource}
    (hfresh : ∀ r ∈ resource, L.Fresh r) : (L.pass resource false).Kept where
  balanced := by
    refine balanced_pass (L := L) (fun r hr => ?_) h.balanced rfl
    exact ⟨(hfresh r hr).count, h.not_pending_of_not_passed (hfresh r hr).1⟩
  stored s r hs := passed_pass (h.stored s r hs)
  single := h.single

theorem Kept.closeAccepted (h : L.Kept) {resource : Option Resource}
    (hfresh : ∀ r ∈ resource, L.Fresh r) : ((L.close resource).pass resource true).Kept := by
  cases resource with
  | none => exact h
  | some r =>
      have hnew := hfresh r rfl
      refine ⟨balanced_pass (L := L) ?_ ?_ rfl, ?_, h.single⟩
      · rintro _ ⟨⟩
        refine .inl ⟨?_, h.not_pending_of_not_passed hnew.1⟩
        show (r :: L.closed).count r = 1
        rw [List.count_cons_self, hnew.count]
      · intro r' a hmem
        have hne : r ≠ r' := by
          rintro rfl
          exact hnew.1 ⟨a, hmem⟩
        exact (h.balanced r' a hmem).congr (List.count_cons_of_ne hne) Iff.rfl
      · exact fun s r' hs => passed_pass (h.stored s r' hs)

theorem Kept.closeStray (h : L.Kept) {resource : Option Resource}
    (hstray : ∀ r ∈ resource, ¬ L.Passed r) : (L.close resource).Kept := by
  cases resource with
  | none => exact h
  | some r =>
      refine ⟨fun r' a hmem => ?_, h.stored, h.single⟩
      have hne : r ≠ r' := by
        rintro rfl
        exact hstray r rfl ⟨a, hmem⟩
      exact (h.balanced r' a hmem).congr (List.count_cons_of_ne hne) Iff.rfl

theorem Kept.drop (h : L.Kept) {due : List Slot} (hsub : ∀ s ∈ due, s ∈ L.due)
    (hnone : ∀ s ∈ L.due, s ∉ due → L.stored s = none) : (L.drop due).Kept where
  balanced r a hmem := by
    refine (h.balanced r a hmem).congr rfl ⟨?_, ?_⟩
    · rintro ⟨s, hs, hr⟩
      exact ⟨s, hsub s hs, hr⟩
    · rintro ⟨s, hs, hr⟩
      refine ⟨s, Classical.byContradiction fun hout => ?_, hr⟩
      cases (hnone s hs hout).symm.trans hr
  stored := h.stored
  single := h.single

variable [DecidableEq Slot]

def store (L : Ledger Slot Resource) (s : Slot) (resource : Option Resource) :
    Ledger Slot Resource :=
  { L with stored := Function.update L.stored s resource }

def finish (L : Ledger Slot Resource) (s : Slot) (due : List Slot) : Ledger Slot Resource :=
  { (L.close (L.stored s)).store s none with due := due }

theorem Kept.finish (h : L.Kept) {s : Slot} {due : List Slot}
    (hdue : ∀ t, t ∈ L.due ↔ t = s ∨ t ∈ due) : (L.finish s due).Kept := by
  have hstored : ∀ t r, (L.finish s due).stored t = some r → t ≠ s ∧ L.stored t = some r := by
    intro t r ht
    have ht' : Function.update L.stored s none t = some r := ht
    by_cases hts : t = s
    · rw [hts, Function.update_self] at ht'
      cases ht'
    · rw [Function.update_of_ne hts] at ht'
      exact ⟨hts, ht'⟩
  refine ⟨fun r a hmem => ?_, fun t r ht => h.stored t r (hstored t r ht).2,
    fun t u r ht hu => h.single t u r (hstored t r ht).2 (hstored u r hu).2⟩
  · have hold := h.balanced r a hmem
    by_cases hr : L.stored s = some r
    · obtain ⟨rfl, hcount⟩ := hold.of_pending ⟨s, (hdue s).mpr (.inl rfl), hr⟩
      refine .inl ⟨?_, ?_⟩
      · show ((L.stored s).toList ++ L.closed).count r = 1
        rw [hr, List.count_append, hcount]
        simp
      · rintro ⟨t, -, ht⟩
        obtain ⟨hts, htr⟩ := hstored t r ht
        exact hts (h.single t s r htr hr)
    · refine hold.congr ?_ ⟨?_, ?_⟩
      · show ((L.stored s).toList ++ L.closed).count r = L.closed.count r
        rw [List.count_append, List.count_eq_zero.mpr, Nat.zero_add]
        exact fun hmem => hr (Option.mem_toList.mp hmem)
      · rintro ⟨t, ht, htr⟩
        obtain ⟨-, htr'⟩ := hstored t r htr
        exact ⟨t, (hdue t).mpr (.inr ht), htr'⟩
      · rintro ⟨t, ht, htr⟩
        rcases (hdue t).mp ht with rfl | hrest
        · exact (hr htr).elim
        · refine ⟨t, hrest, ?_⟩
          have hts : t ≠ s := by
            rintro rfl
            exact hr htr
          exact (Function.update_of_ne hts _ _).trans htr

theorem Kept.replace (h : L.Kept) {s : Slot} {resource : Option Resource} {accepted : Bool}
    {due : List Slot} (hfresh : ∀ r ∈ resource, L.Fresh r)
    (hslot : s ∈ L.due → L.stored s = none) (hdue : ∀ t, t ≠ s → (t ∈ due ↔ t ∈ L.due))
    (hpending : ∀ r ∈ resource, s ∈ due ↔ accepted = true) :
    (((L.store s resource).drop due).pass resource accepted).Kept := by
  have hstored : ∀ t r, (Function.update L.stored s resource) t = some r →
      t = s ∧ resource = some r ∨ t ≠ s ∧ L.stored t = some r := by
    intro t r ht
    by_cases hts : t = s
    · rw [hts, Function.update_self] at ht
      exact .inl ⟨hts, ht⟩
    · rw [Function.update_of_ne hts] at ht
      exact .inr ⟨hts, ht⟩
  refine ⟨balanced_pass (L := L) ?_ ?_ rfl, ?_, ?_⟩
  · intro r hr
    have hcount := (hfresh r hr).count
    have hiff : (((L.store s resource).drop due).pass resource accepted).Pending r ↔ s ∈ due := by
      constructor
      · rintro ⟨t, ht, htr⟩
        rcases hstored t r htr with ⟨rfl, -⟩ | ⟨-, hold⟩
        · exact ht
        · exact ((hfresh r hr).1 (h.stored t r hold)).elim
      · intro hs
        exact ⟨s, hs, (Function.update_self s _ _).trans hr⟩
    have hs := hpending r hr
    cases accepted with
    | true => exact .inr ⟨hcount, hiff.mpr (hs.mpr rfl)⟩
    | false => exact ⟨hcount, fun hp => Bool.false_ne_true (hs.mp (hiff.mp hp))⟩
  · intro r a hmem
    refine (h.balanced r a hmem).congr rfl ⟨?_, ?_⟩
    · rintro ⟨t, ht, htr⟩
      rcases hstored t r htr with ⟨-, hnew⟩ | ⟨hts, hold⟩
      · exact ((hfresh r hnew).1 ⟨a, hmem⟩).elim
      · exact ⟨t, (hdue t hts).mp ht, hold⟩
    · rintro ⟨t, ht, htr⟩
      have hts : t ≠ s := by
        rintro rfl
        cases (hslot ht).symm.trans htr
      exact ⟨t, (hdue t hts).mpr ht, (Function.update_of_ne hts _ _).trans htr⟩
  · intro t r ht
    rcases hstored t r ht with ⟨-, rfl⟩ | ⟨-, hold⟩
    · exact passed_pass_self r accepted
    · exact passed_pass (h.stored t r hold)
  · intro t u r ht hu
    rcases hstored t r ht with ⟨rfl, hnew⟩ | ⟨-, hold⟩ <;>
      rcases hstored u r hu with ⟨rfl, hnew'⟩ | ⟨-, hold'⟩
    · rfl
    · exact ((hfresh r hnew).1 (h.stored u r hold')).elim
    · exact ((hfresh r hnew').1 (h.stored t r hold)).elim
    · exact h.single t u r hold hold'

theorem Kept.clear (h : L.Kept) {s : Slot} (hs : s ∉ L.due) : (L.store s none).Kept := by
  have hkept : (((L.store s none).drop L.due).pass none true).Kept :=
    h.replace nofun (fun hdue => (hs hdue).elim) (fun _ _ => Iff.rfl) nofun
  exact hkept

end Ledger

end LibtplEgl.ResourceLedger
