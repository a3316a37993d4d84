import LibtplEgl.LabelledSystem
import LibtplEgl.ObjectUserData
import Mathlib.Algebra.Group.Nat.Defs

namespace LibtplEgl.ObjectLifetime

open LibtplEgl.LabelledSystem
open LibtplEgl.ObjectUserData
open LibtplEgl.UtilMap

universe u

def tplObjectMagicFreed : CInt := 0xe0bf6eed#32

inductive Call
  | reference
  | unreference
  | getReference
  deriving DecidableEq, Repr

/-- The value that the atomic step of a call produced. `outstanding` records how
many references were owned right after that step. -/
structure Count where
  reference : BitVec 32
  outstanding : Nat
  deriving DecidableEq, Repr

/-- Where a thread is in its call: the two reads of `__tpl_object_is_valid`, the
atomic step, and for the last reference `__tpl_object_fini` and `object->free`. -/
inductive Pc
  | idle
  | checkMagic (call : Call)
  | checkReference (call : Call)
  | valid (call : Call)
  | setMagicFreed (count : Count)
  | mutexDestroy (count : Count)
  | mapFini (count : Count)
  | free (count : Count)
  | returned (call : Call) (count : Count)
  | rejected (call : Call)
  deriving DecidableEq, Repr

namespace Pc

def calling : Pc → Option Call
  | .checkMagic c | .checkReference c | .valid c => some c
  | _ => none

def finalizing : Pc → Option Count
  | .setMagicFreed n | .mutexDestroy n | .mapFini n | .free n => some n
  | _ => none

def accesses (p : Pc) : Option Call :=
  match p.finalizing with
  | some _ => some .unreference
  | none => p.calling

/-- The `int` that the call returns. -/
def result : Pc → Option Int
  | .returned _ n => some n.reference.toInt
  | .rejected _ => some (-1)
  | _ => none

end Pc

/-- The object and the threads that call on it. `owners` has one entry for every
reference, `frees` counts the runs of `object->free`. -/
structure State (Thread : Type u) where
  magic : CInt
  reference : BitVec 32
  allocated : Bool
  frees : Nat
  pc : Thread → Pc
  owners : List Thread

/-- A thread starts a call, hands a reference to another thread between its calls,
or takes the next step of its call, where `pthread_mutex_destroy` may fail. -/
inductive Label (Thread : Type u)
  | call (t : Thread) (c : Call)
  | give (t u : Thread)
  | advance (t : Thread) (destroyed : Bool)
  deriving DecidableEq, Repr

section

variable {Thread : Type u}

/-- The object after `__tpl_object_init`: its creator owns the one reference. -/
def newObject (creator : Thread) : State Thread where
  magic := tplObjectMagic
  reference := 1#32
  allocated := true
  frees := 0
  pc := fun _ => .idle
  owners := [creator]

/-- A thread references and unreferences only while it owns a reference, and
fewer than `2 ^ 31` references are outstanding. -/
def CallsOwned (st : State Thread) : Label Thread → Prop
  | .call t .reference | .call t .unreference => t ∈ st.owners
  | .advance t _ => st.pc t = .valid .reference → st.owners.length + 1 < 2 ^ 31
  | _ => True

/-- What the callers of the object rely on, for the calls in `covered`. -/
structure LifetimeSafe (st : State Thread) (covered : Thread → Call → Prop) : Prop where
  valid : ∀ t c, covered t c → st.pc t ≠ .rejected c
  accesses : ∀ t c, covered t c → (st.pc t).accesses = some c → st.allocated = true
  freedOnce : st.frees ≤ 1
  freeing : ∀ t n, st.pc t = .free n → n.reference = 0#32 ∧ st.owners = []
  counted : ∀ t c n, st.pc t = .returned c n → c ≠ .getReference →
    (st.pc t).result = some (n.reference.toNat : Int) ∧ n.reference.toNat = n.outstanding

/-- `tpl_object_get_reference` is covered when its thread owns a reference. -/
def GetsOwned (st : State Thread) (t : Thread) (c : Call) : Prop :=
  c = .getReference → t ∈ st.owners

/-- The counter is the number of references owned. While there is one, the object
is alive and nobody finalizes it; the last one leaves one finalizing thread. -/
structure Inv (st : State Thread) : Prop where
  count : st.reference.toNat = st.owners.length
  bound : st.owners.length < 2 ^ 31
  live : st.owners ≠ [] → st.magic = tplObjectMagic ∧ st.allocated = true
  calling : ∀ t c, (st.pc t).calling = some c → c ≠ .getReference → t ∈ st.owners
  rejected : ∀ t c, st.pc t = .rejected c → c = .getReference ∧ st.owners = []
  finalizing : ∀ t n, (st.pc t).finalizing = some n →
    n.reference = 0#32 ∧ n.outstanding = 0 ∧ st.owners = [] ∧ st.allocated = true
  finalizer : ∀ t u, (st.pc t).finalizing ≠ none → (st.pc u).finalizing ≠ none → t = u
  frees : st.frees = if st.allocated then 0 else 1
  returned : ∀ t c n, st.pc t = .returned c n → c ≠ .getReference →
    n.reference.toNat = n.outstanding ∧ n.outstanding < 2 ^ 31

theorem Inv.owners_eq_nil_iff {st : State Thread} (h : Inv st) :
    st.owners = [] ↔ st.reference = 0#32 := by
  rw [← List.length_eq_zero_iff, ← h.count, ← BitVec.toNat_inj]
  rfl

theorem Inv.not_finalizing {st : State Thread} (h : Inv st) (howners : st.owners ≠ [])
    (u : Thread) : (st.pc u).finalizing = none := by
  cases hu : (st.pc u).finalizing with
  | none => rfl
  | some n => exact absurd (h.finalizing u n hu).2.2.1 howners

theorem Inv.setMagic {st : State Thread} (h : Inv st) (howners : st.owners = []) (magic : CInt) :
    Inv { st with magic := magic } :=
  ⟨h.count, h.bound, fun hne => absurd howners hne, h.calling, h.rejected, h.finalizing,
    h.finalizer, h.frees, h.returned⟩

theorem inv_newObject (creator : Thread) : Inv (newObject creator) where
  count := rfl
  bound := Nat.one_lt_two_pow (by decide)
  live := fun _ => ⟨rfl, rfl⟩
  calling := nofun
  rejected := nofun
  finalizing := nofun
  finalizer := fun _ _ hu => absurd rfl hu
  frees := rfl
  returned := nofun

theorem Inv.allocated {st : State Thread} (h : Inv st) {t : Thread} {c : Call}
    (hcovered : GetsOwned st t c) (haccess : (st.pc t).accesses = some c) :
    st.allocated = true := by
  cases hfinal : (st.pc t).finalizing with
  | some n => exact (h.finalizing t n hfinal).2.2.2
  | none =>
      have hcalling : (st.pc t).calling = some c := by
        rwa [Pc.accesses, hfinal] at haccess
      have howner : t ∈ st.owners := by
        by_cases hget : c = .getReference
        · exact hcovered hget
        · exact h.calling t c hcalling hget
      exact (h.live (List.ne_nil_of_mem howner)).2

variable [DecidableEq Thread]

namespace State

def goto (st : State Thread) (t : Thread) (p : Pc) : State Thread :=
  { st with pc := Function.update st.pc t p }

/-- `__tpl_util_atomic_inc` in `tpl_object_reference`. -/
def atomicInc (st : State Thread) (t : Thread) : State Thread :=
  let reference := st.reference + 1#32
  { st with
    reference := reference
    owners := t :: st.owners
    pc := Function.update st.pc t (.returned .reference ⟨reference, st.owners.length + 1⟩) }

/-- `__tpl_util_atomic_dec` in `tpl_object_unreference` and the branch on its result. -/
def atomicDec (st : State Thread) (t : Thread) : State Thread :=
  let reference := st.reference - 1#32
  let count : Count := ⟨reference, (st.owners.erase t).length⟩
  { st with
    reference := reference
    owners := st.owners.erase t
    pc := Function.update st.pc t
      (if reference = 0#32 then .setMagicFreed count else .returned .unreference count) }

/-- The next step of the thread's call. Freed memory keeps what it held. -/
def advance (st : State Thread) (t : Thread) (destroyed : Bool) : Option (State Thread) :=
  match st.pc t with
  | .idle => none
  | .checkMagic c =>
      some (st.goto t (if st.magic = tplObjectMagic then .checkReference c else .rejected c))
  | .checkReference c =>
      some (st.goto t (if st.reference ≠ 0#32 then .valid c else .rejected c))
  | .valid .reference => some (st.atomicInc t)
  | .valid .unreference => some (st.atomicDec t)
  | .valid .getReference =>
      some (st.goto t (.returned .getReference ⟨st.reference, st.owners.length⟩))
  | .setMagicFreed n => some ({ st with magic := tplObjectMagicFreed }.goto t (.mutexDestroy n))
  | .mutexDestroy n => some (st.goto t (if destroyed then .mapFini n else .free n))
  | .mapFini n => some (st.goto t (.free n))
  | .free n =>
      some ({ st with allocated := false, frees := st.frees + 1 }.goto t (.returned .unreference n))
  | .returned _ _ | .rejected _ => some (st.goto t .idle)

end State

def step (st : State Thread) : Label Thread → Option (State Thread)
  | .call t c => if st.pc t = .idle then some (st.goto t (.checkMagic c)) else none
  | .give t u =>
      if st.pc t = .idle ∧ t ∈ st.owners then
        some { st with owners := u :: st.owners.erase t }
      else none
  | .advance t destroyed => st.advance t destroyed

def objectSystem : System (State Thread) (Label Thread) where
  Initial st := ∃ creator, st = newObject creator
  step := step

theorem goto_pc_self (st : State Thread) (t : Thread) (p : Pc) : (st.goto t p).pc t = p :=
  Function.update_self _ _ _

theorem goto_pc_of_ne (st : State Thread) {t u : Thread} (h : u ≠ t) (p : Pc) :
    (st.goto t p).pc u = st.pc u :=
  Function.update_of_ne h _ _

theorem Inv.goto {st : State Thread} (h : Inv st) {t : Thread} {p : Pc}
    (hcalling : ∀ c, p.calling = some c → c ≠ .getReference → t ∈ st.owners)
    (hrejected : ∀ c, p = .rejected c → c = .getReference ∧ st.owners = [])
    (hfinalizing : ∀ n, p.finalizing = some n → (st.pc t).finalizing = some n)
    (hreturned : ∀ c n, p = .returned c n → c ≠ .getReference →
      n.reference.toNat = n.outstanding ∧ n.outstanding < 2 ^ 31) : Inv (st.goto t p) := by
  -- The finalizing threads afterwards were finalizing before.
  have hbefore : ∀ u, ((st.goto t p).pc u).finalizing ≠ none →
      (st.pc u).finalizing = ((st.goto t p).pc u).finalizing := by
    intro u hu
    by_cases hut : u = t
    · subst hut
      rw [goto_pc_self] at hu ⊢
      obtain ⟨n, hn⟩ := Option.ne_none_iff_exists'.mp hu
      rw [hn, hfinalizing n hn]
    · rw [goto_pc_of_ne st hut]
  refine ⟨h.count, h.bound, h.live, ?_, ?_, ?_, ?_, h.frees, ?_⟩
  · exact (Function.forall_update_iff st.pc fun u q =>
      ∀ c, q.calling = some c → c ≠ .getReference → u ∈ st.owners).mpr
      ⟨hcalling, fun u _ => h.calling u⟩
  · exact (Function.forall_update_iff st.pc fun _ q =>
      ∀ c, q = .rejected c → c = .getReference ∧ st.owners = []).mpr
      ⟨hrejected, fun u _ => h.rejected u⟩
  · intro u n hu
    exact h.finalizing u n ((hbefore u (by rw [hu]; exact nofun)).trans hu)
  · intro u v hu hv
    refine h.finalizer u v ?_ ?_
    · rw [hbefore u hu]
      exact hu
    · rw [hbefore v hv]
      exact hv
  · exact (Function.forall_update_iff st.pc fun _ q =>
      ∀ c n, q = .returned c n → c ≠ .getReference →
        n.reference.toNat = n.outstanding ∧ n.outstanding < 2 ^ 31).mpr
      ⟨hreturned, fun u _ => h.returned u⟩

theorem Inv.atomicInc {st : State Thread} (h : Inv st) {t : Thread}
    (ht : t ∈ st.owners) (hbound : st.owners.length + 1 < 2 ^ 31) : Inv (st.atomicInc t) := by
  have howners : st.owners ≠ [] := List.ne_nil_of_mem ht
  have hcount : (st.reference + 1#32).toNat = st.owners.length + 1 := by
    have := h.count
    rw [BitVec.toNat_add, h.count]
    exact Nat.mod_eq_of_lt (by simp only [BitVec.toNat_ofNat]; omega)
  have hnone : ∀ u, ((st.atomicInc t).pc u).finalizing = none := by
    exact (Function.forall_update_iff st.pc fun _ q => q.finalizing = none).mpr
      ⟨rfl, fun u _ => h.not_finalizing howners u⟩
  constructor
  · exact hcount
  · exact hbound
  · exact fun _ => h.live howners
  · exact (Function.forall_update_iff st.pc fun u q =>
      ∀ c, q.calling = some c → c ≠ .getReference → u ∈ t :: st.owners).mpr
      ⟨nofun, fun u _ c hc hne => List.mem_cons_of_mem t (h.calling u c hc hne)⟩
  · refine (Function.forall_update_iff st.pc fun _ q =>
      ∀ c, q = .rejected c → c = .getReference ∧ t :: st.owners = []).mpr ⟨nofun, ?_⟩
    intro u _ c hc
    exact absurd (h.rejected u c hc).2 howners
  · intro u n hu
    rw [hnone u] at hu
    cases hu
  · exact fun u _ hu => absurd (hnone u) hu
  · exact h.frees
  · refine (Function.forall_update_iff st.pc fun _ q =>
      ∀ c n, q = .returned c n → c ≠ .getReference →
        n.reference.toNat = n.outstanding ∧ n.outstanding < 2 ^ 31).mpr
      ⟨?_, fun u _ => h.returned u⟩
    rintro c n ⟨⟩ -
    exact ⟨hcount, hbound⟩

theorem Inv.atomicDec {st : State Thread} (h : Inv st) {t : Thread}
    (ht : t ∈ st.owners) : Inv (st.atomicDec t) := by
  have howners : st.owners ≠ [] := List.ne_nil_of_mem ht
  have hlength : (st.owners.erase t).length + 1 = st.owners.length := by
    rw [List.length_erase_of_mem ht]
    exact Nat.sub_add_cancel (List.length_pos_of_mem ht)
  have hcount : (st.reference - 1#32).toNat = (st.owners.erase t).length := by
    have hbound := h.bound
    rw [BitVec.toNat_sub, h.count, BitVec.toNat_ofNat]
    omega
  have hothers : ∀ u, u ≠ t → ((st.atomicDec t).pc u).finalizing = none := by
    intro u hut
    simp only [State.atomicDec, Function.update_of_ne hut]
    exact h.not_finalizing howners u
  have hself : ∀ n, ((st.atomicDec t).pc t).finalizing = some n →
      n = ⟨st.reference - 1#32, (st.owners.erase t).length⟩ ∧ st.reference - 1#32 = 0#32 := by
    intro n hn
    simp only [State.atomicDec, Function.update_self] at hn
    split at hn
    · rename_i hzero
      exact ⟨(Option.some.inj hn).symm, hzero⟩
    · cases hn
  constructor
  · exact hcount
  · have hbound := h.bound
    show (st.owners.erase t).length < 2 ^ 31
    omega
  · exact fun _ => h.live howners
  · refine (Function.forall_update_iff st.pc fun u q =>
      ∀ c, q.calling = some c → c ≠ .getReference → u ∈ st.owners.erase t).mpr ⟨?_, ?_⟩
    · intro c hc
      split at hc
      · cases hc
      · cases hc
    · intro u hut c hc hne
      exact (List.mem_erase_of_ne hut).mpr (h.calling u c hc hne)
  · refine (Function.forall_update_iff st.pc fun _ q =>
      ∀ c, q = .rejected c → c = .getReference ∧ st.owners.erase t = []).mpr ⟨?_, ?_⟩
    · intro c hc
      split at hc
      · cases hc
      · cases hc
    · intro u _ c hc
      exact absurd (h.rejected u c hc).2 howners
  · intro u n hu
    by_cases hut : u = t
    · subst hut
      obtain ⟨rfl, hzero⟩ := hself n hu
      have hnil : st.owners.erase u = [] := by
        rw [← List.length_eq_zero_iff, ← hcount, hzero]
        rfl
      exact ⟨hzero, List.length_eq_zero_iff.mpr hnil, hnil, (h.live howners).2⟩
    · rw [hothers u hut] at hu
      cases hu
  · intro u v hu hv
    have hut : u = t := by
      by_contra hne
      exact hu (hothers u hne)
    have hvt : v = t := by
      by_contra hne
      exact hv (hothers v hne)
    rw [hut, hvt]
  · exact h.frees
  · refine (Function.forall_update_iff st.pc fun _ q =>
      ∀ c n, q = .returned c n → c ≠ .getReference →
        n.reference.toNat = n.outstanding ∧ n.outstanding < 2 ^ 31).mpr
      ⟨?_, fun u _ => h.returned u⟩
    intro c n hc _
    split at hc
    · cases hc
    · cases hc
      have hbound := h.bound
      refine ⟨hcount, ?_⟩
      show (st.owners.erase t).length < 2 ^ 31
      omega

theorem Inv.free {st : State Thread} (h : Inv st) {t : Thread} {n : Count}
    (hpc : st.pc t = .free n) :
    Inv ({ st with allocated := false, frees := st.frees + 1 }.goto t
      (.returned .unreference n)) := by
  have htfinal : (st.pc t).finalizing = some n := by rw [hpc]; rfl
  obtain ⟨hzero, houtstanding, howners, hallocated⟩ := h.finalizing t n htfinal
  have hnone : ∀ u, ((st.goto t (.returned .unreference n)).pc u).finalizing = none := by
    intro u
    by_cases hut : u = t
    · subst hut
      rw [goto_pc_self]
      rfl
    · rw [goto_pc_of_ne st hut]
      by_contra hu
      exact hut (h.finalizer u t hu (by rw [htfinal]; exact nofun))
  have hreturned : Inv (st.goto t (.returned .unreference n)) := by
    refine h.goto nofun nofun nofun ?_
    rintro c m ⟨⟩ -
    rw [hzero, houtstanding]
    exact ⟨rfl, by decide⟩
  refine ⟨hreturned.count, hreturned.bound, fun hne => absurd howners hne, hreturned.calling,
    hreturned.rejected, ?_, hreturned.finalizer, ?_, hreturned.returned⟩
  · intro u m hu
    cases (hnone u).symm.trans hu
  · show st.frees + 1 = 1
    rw [h.frees, hallocated]
    rfl

theorem Inv.give {st : State Thread} (h : Inv st) {t u : Thread} (hpc : st.pc t = .idle)
    (ht : t ∈ st.owners) : Inv { st with owners := u :: st.owners.erase t } := by
  have howners : st.owners ≠ [] := List.ne_nil_of_mem ht
  have hlength : (u :: st.owners.erase t).length = st.owners.length := by
    rw [List.length_cons, List.length_erase_of_mem ht]
    exact Nat.sub_add_cancel (List.length_pos_of_mem ht)
  refine ⟨h.count.trans hlength.symm, Nat.lt_of_le_of_lt (Nat.le_of_eq hlength) h.bound,
    fun _ => h.live howners, ?_, ?_, ?_, h.finalizer, h.frees, h.returned⟩
  · intro v c hc hne
    have hvt : v ≠ t := by
      rintro rfl
      rw [hpc] at hc
      cases hc
    exact List.mem_cons_of_mem u ((List.mem_erase_of_ne hvt).mpr (h.calling v c hc hne))
  · intro v c hc
    exact absurd (h.rejected v c hc).2 howners
  · intro v n hv
    rw [h.not_finalizing howners v] at hv
    cases hv

theorem Inv.reject {st : State Thread} (h : Inv st) {t : Thread} {c : Call}
    (hcalling : (st.pc t).calling = some c) (howners : st.owners = []) :
    Inv (st.goto t (.rejected c)) := by
  refine h.goto nofun ?_ nofun nofun
  rintro _ ⟨⟩
  refine ⟨?_, howners⟩
  by_contra hne
  have hmem := h.calling t c hcalling hne
  rw [howners] at hmem
  cases hmem

theorem Inv.finalize {st : State Thread} (h : Inv st) {t : Thread} {n : Count} {p : Pc}
    (hfinal : (st.pc t).finalizing = some n) (hp : p.finalizing = some n) :
    Inv (st.goto t p) := by
  refine h.goto ?_ ?_ (fun m hm => by rw [hfinal, ← hp, hm]) ?_
  all_goals
    cases p with
    | setMagicFreed | mutexDestroy | mapFini | free => nofun
    | _ => cases hp

theorem inv_advance {st st' : State Thread} {t : Thread} {destroyed : Bool} (h : Inv st)
    (hallowed : CallsOwned st (.advance t destroyed))
    (hstep : st.advance t destroyed = some st') : Inv st' := by
  cases hpc : st.pc t with
  | idle => simp [State.advance, hpc] at hstep
  | checkMagic c =>
      have hcalling : (st.pc t).calling = some c := by rw [hpc]; rfl
      simp only [State.advance, hpc] at hstep
      cases hstep
      split
      · refine h.goto ?_ nofun nofun nofun
        rintro _ ⟨⟩
        exact h.calling t c hcalling
      · rename_i hmagic
        refine h.reject hcalling ?_
        by_contra howners
        exact hmagic (h.live howners).1
  | checkReference c =>
      have hcalling : (st.pc t).calling = some c := by rw [hpc]; rfl
      simp only [State.advance, hpc] at hstep
      cases hstep
      split
      · refine h.goto ?_ nofun nofun nofun
        rintro _ ⟨⟩
        exact h.calling t c hcalling
      · rename_i hreference
        exact h.reject hcalling (h.owners_eq_nil_iff.mpr (not_not.mp hreference))
  | valid c =>
      have howned : c ≠ .getReference → t ∈ st.owners := h.calling t c (by rw [hpc]; rfl)
      cases c with
      | reference =>
          simp only [State.advance, hpc] at hstep
          cases hstep
          exact h.atomicInc (howned nofun) (hallowed hpc)
      | unreference =>
          simp only [State.advance, hpc] at hstep
          cases hstep
          exact h.atomicDec (howned nofun)
      | getReference =>
          simp only [State.advance, hpc] at hstep
          cases hstep
          refine h.goto nofun nofun nofun ?_
          rintro _ _ ⟨⟩ hne
          exact absurd rfl hne
  | setMagicFreed n =>
      have hfinal : (st.pc t).finalizing = some n := by rw [hpc]; rfl
      simp only [State.advance, hpc] at hstep
      cases hstep
      exact (h.setMagic (h.finalizing t n hfinal).2.2.1 _).finalize hfinal rfl
  | mutexDestroy n =>
      have hfinal : (st.pc t).finalizing = some n := by rw [hpc]; rfl
      simp only [State.advance, hpc] at hstep
      cases hstep
      split
      · exact h.finalize hfinal rfl
      · exact h.finalize hfinal rfl
  | mapFini n =>
      have hfinal : (st.pc t).finalizing = some n := by rw [hpc]; rfl
      simp only [State.advance, hpc] at hstep
      cases hstep
      exact h.finalize hfinal rfl
  | free n =>
      simp only [State.advance, hpc] at hstep
      cases hstep
      exact h.free hpc
  | returned c n =>
      simp only [State.advance, hpc] at hstep
      cases hstep
      exact h.goto nofun nofun nofun nofun
  | rejected c =>
      simp only [State.advance, hpc] at hstep
      cases hstep
      exact h.goto nofun nofun nofun nofun

theorem inv_step {st st' : State Thread} {l : Label Thread} (h : Inv st)
    (hallowed : CallsOwned st l) (hstep : step st l = some st') : Inv st' := by
  cases l with
  | call t c =>
      simp only [step] at hstep
      split at hstep
      · cases hstep
        refine h.goto ?_ nofun nofun nofun
        rintro _ ⟨⟩ hne
        cases c with
        | reference => exact hallowed
        | unreference => exact hallowed
        | getReference => exact absurd rfl hne
      · cases hstep
  | give t u =>
      simp only [step] at hstep
      split at hstep
      · rename_i hgive
        cases hstep
        exact h.give hgive.1 hgive.2
      · cases hstep
  | advance t destroyed => exact inv_advance h hallowed hstep

theorem inv_reachable {st : State Thread} (h : objectSystem.ReachableWhen CallsOwned st) :
    Inv st := by
  refine h.invariant ?_ fun _ _ _ hinv hallowed hstep => inv_step hinv hallowed hstep
  rintro _ ⟨creator, rfl⟩
  exact inv_newObject creator

/-- Lifetime of an object under concurrent calls of any number of threads. -/
theorem lifetime_safe {st : State Thread} (hst : objectSystem.ReachableWhen CallsOwned st) :
    LifetimeSafe st (GetsOwned st) := by
  have h := inv_reachable hst
  constructor
  · intro t c hcovered hpc
    obtain ⟨hget, howners⟩ := h.rejected t c hpc
    have hmem := hcovered hget
    rw [howners] at hmem
    cases hmem
  · exact fun _ _ => h.allocated
  · rw [h.frees]
    split <;> decide
  · intro t n hpc
    obtain ⟨hzero, -, howners, -⟩ := h.finalizing t n (by rw [hpc]; rfl)
    exact ⟨hzero, howners⟩
  · intro t c n hpc hget
    obtain ⟨hcount, hbound⟩ := h.returned t c n hpc hget
    refine ⟨?_, hcount⟩
    rw [hpc, Pc.result, BitVec.toInt_eq_toNat_of_lt (by omega)]

instance (st : State Thread) (l : Label Thread) : Decidable (CallsOwned st l) :=
  match l with
  | .call t .reference | .call t .unreference => inferInstanceAs (Decidable (t ∈ st.owners))
  | .advance t _ =>
      inferInstanceAs
        (Decidable (st.pc t = .valid .reference → st.owners.length + 1 < 2 ^ 31))
  | .call _ .getReference | .give _ _ => isTrue trivial

def stepsOf (t n : Nat) : List (Label Nat) := List.replicate n (.advance t true)

def sharedAndReleased : List (Label Nat) :=
  .call 0 .reference :: stepsOf 0 4 ++ [.give 0 1, .call 0 .unreference, .call 1 .unreference] ++
    stepsOf 1 2 ++ stepsOf 0 3 ++ stepsOf 1 5

theorem lifetime_safe_shared :
    ∃ st, objectSystem.runWhen CallsOwned (newObject 0) sharedAndReleased = some st ∧
      (st.pc 0 = .returned .unreference ⟨1#32, 1⟩ ∧
        st.pc 1 = .returned .unreference ⟨0#32, 0⟩ ∧ st.frees = 1) ∧
      LifetimeSafe st (GetsOwned st) := by
  obtain ⟨st, hrun, hfacts⟩ := objectSystem.exists_of_runWhen CallsOwned
    (fun st => st.pc 0 = .returned .unreference ⟨1#32, 1⟩ ∧
      st.pc 1 = .returned .unreference ⟨0#32, 0⟩ ∧ st.frees = 1)
    (newObject 0) sharedAndReleased (by decide +kernel)
  exact ⟨st, hrun, hfacts, lifetime_safe (.of_runWhen (.initial ⟨0, rfl⟩) hrun)⟩

/-- A thread without a reference asks for the count while the owner unreferences. -/
def countedWhileReleased : List (Label Nat) :=
  .call 1 .getReference :: stepsOf 1 1 ++ .call 0 .unreference :: stepsOf 0 7

theorem lifetime_not_safe_for_every_call :
    ¬ ∀ st : State Nat, objectSystem.ReachableWhen CallsOwned st →
      LifetimeSafe st fun _ _ => True := by
  intro hall
  obtain ⟨st, hrun, hpc, hfreed⟩ := objectSystem.exists_of_runWhen CallsOwned
    (fun st => (st.pc 1).accesses = some .getReference ∧ st.allocated = false)
    (newObject 0) countedWhileReleased (by decide +kernel)
  have hsafe := hall st (.of_runWhen (.initial ⟨0, rfl⟩) hrun)
  exact absurd (hsafe.accesses 1 .getReference trivial hpc) (by rw [hfreed]; decide)

end

end LibtplEgl.ObjectLifetime
