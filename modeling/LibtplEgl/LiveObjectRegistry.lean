import LibtplEgl.HashList
import LibtplEgl.ObjectLifetime

namespace LibtplEgl.LiveObjectRegistry

open LibtplEgl.HashList
open LibtplEgl.ObjectLifetime (tplObjectMagicFreed)
open LibtplEgl.ObjectUserData (tplObjectMagic)
open LibtplEgl.TplTypes
open LibtplEgl.UtilMap (CInt)

structure ObjectMemory where
  magic : CInt
  reference : CInt
  deriving DecidableEq, Repr

/-- `tpl_obj_hash` with `tpl_obj_hash_check` on, the memory at each address, and the addresses
of the objects that were initialised and are not finalised. -/
structure State (w : Nat) (Addr : Type) where
  objHash : HashState w Addr (BitVec w)
  memory : BitVec w → ObjectMemory
  live : BitVec w → Bool

section

variable {w : Nat} {Addr : Type}

def objectHashFind (fuel : Nat) (s : State w Addr) (object : BitVec w) :
    Option (Option (BitVec w)) :=
  hashlistLookup fuel s.objHash object

/-- `__tpl_object_is_valid`, and whether it reads the memory of the object. -/
def objectIsValid (fuel : Nat) (s : State w Addr) (object : BitVec w) : Option (Bool × Bool) :=
  if object = 0 then some (false, false)
  else do
    match ← objectHashFind fuel s object with
    | none => some (false, false)
    | some _ =>
        if (s.memory object).magic ≠ tplObjectMagic then some (false, true)
        else some ((s.memory object).reference ≠ 0#32, true)

/-- A call on an object, or what other code allocates, frees and writes between two calls. -/
inductive Op (w : Nat) (Addr : Type)
  | init (object : BitVec w) (node : Addr) (mutexInit : Bool)
  | fini (object : BitVec w) (mutexDestroy : Bool)
  | elsewhere (allocated : Addr → Bool) (memory : BitVec w → ObjectMemory)

def State.setLive (s : State w Addr) (object : BitVec w) (live : Bool) : State w Addr :=
  { s with live := Function.update s.live object live }

/-- An object is made at an address without a live one, only live objects are finalised,
`malloc` returns memory that is not in use, and other code frees no node of the hash list. -/
def Permitted (s : State w Addr) : Op w Addr → Prop
  | .init object node _ => object ≠ 0 ∧ s.live object = false ∧ s.objHash.allocated node = false
  | .fini object _ => s.live object = true
  | .elsewhere allocated _ => ∀ a, Listed s.objHash a → allocated a = true

/-- The hash list maps the addresses of the live objects, and no other ones, to themselves, and
every other address is rejected without a look at its memory. -/
def Tracks (s : State w Addr) : Prop :=
  ∃ n, ∀ fuel ≥ n, ∀ object,
    (objectHashFind fuel s object = some (some object) ↔ s.live object = true) ∧
      (s.live object = false → objectIsValid fuel s object = some (false, false))

def MutexInitialised : Op w Addr → Prop
  | .init _ _ mutexInit => mutexInit = true
  | _ => True

/-- `__tpl_object_hash_init`, in any memory. -/
def objectHashInit (objHash : HashState w Addr (BitVec w)) (memory : BitVec w → ObjectMemory) :
    State w Addr where
  objHash := hashlistCreate objHash
  memory := memory
  live := fun _ => false

variable [DecidableEq Addr]

/-- `__tpl_object_init`, with the node that `malloc` returns for the hash list, where
`pthread_mutex_init` may fail. The result of the insertion is only logged. -/
def objectInit (fuel : Nat) (s : State w Addr) (object : BitVec w) (node : Addr)
    (mutexInit : Bool) : Option (TplResult × State w Addr) := do
  let out ← hashlistInsert fuel s.objHash object (some object) (some node)
  let s := { s with
    objHash := out.2
    memory := Function.update s.memory object { magic := tplObjectMagic, reference := 1#32 } }
  if mutexInit then some (.errorNone, s) else some (.errorInvalidOperation, s)

/-- `__tpl_object_fini`, where `pthread_mutex_destroy` may fail. -/
def objectFini (fuel : Nat) (s : State w Addr) (object : BitVec w) (mutexDestroy : Bool) :
    Option (TplResult × State w Addr) := do
  let hash ← hashlistDelete fuel s.objHash object
  let s := { s with
    objHash := hash
    memory := Function.update s.memory object
      { (s.memory object) with magic := tplObjectMagicFreed } }
  if mutexDestroy then some (.errorNone, s) else some (.errorInvalidOperation, s)

/-- A call, after which the object is live if it was initialised and gone if it was finalised. -/
def step (fuel : Nat) (s : State w Addr) : Op w Addr → Option (State w Addr)
  | .init object node mutexInit =>
      (objectInit fuel s object node mutexInit).map fun out =>
        if out.1 = .errorNone then out.2.setLive object true else out.2
  | .fini object mutexDestroy =>
      (objectFini fuel s object mutexDestroy).map fun out => out.2.setLive object false
  | .elsewhere allocated memory =>
      some { s with objHash := { s.objHash with allocated := allocated }, memory := memory }

def run (fuel : Nat) : State w Addr → List (Op w Addr) → Option (List (State w Addr))
  | _, [] => some []
  | s, op :: ops => do
      let s ← step fuel s op
      let rest ← run fuel s ops
      some (s :: rest)

def PermittedRun : State w Addr → List (Op w Addr) → Prop
  | _, [] => True
  | s, op :: ops => Permitted s op ∧ ∀ fuel s', step fuel s op = some s' → PermittedRun s' ops

end

section

variable {w : Nat} {Addr : Type}

/-- The hash list maps addresses to themselves only, and every live object is in it. -/
structure Inv (s : State w Addr) (chains : HeadIndex → List Addr) (m : KeyMap w (BitVec w)) :
    Prop where
  refines : Refines s.objHash chains m
  self : ∀ object d, m object = some d → d = some object
  live : ∀ object, s.live object = true → m object = some (some object)

def Clean (s : State w Addr) (m : KeyMap w (BitVec w)) : Prop :=
  ∀ object, s.live object = false → m object = none

variable {s : State w Addr} {chains : HeadIndex → List Addr} {m : KeyMap w (BitVec w)}

theorem Inv.find (h : Inv s chains m) {fuel : Nat} (hfuel : (allNodes chains).length < fuel)
    (object : BitVec w) : objectHashFind fuel s object = some (m object).join := by
  have hsub : (chains (headOf object)).Sublist (allNodes chains) :=
    List.sublist_flatten_of_mem (List.mem_map_of_mem (List.mem_finRange _))
  exact h.refines.lookup object (lt_of_le_of_lt hsub.length_le hfuel)

theorem Inv.tracks (h : Inv s chains m) (hclean : Clean s m) : Tracks s := by
  refine ⟨(allNodes chains).length + 1, fun fuel hfuel object => ?_⟩
  have hfind := h.find hfuel object
  cases hlive : s.live object with
  | true =>
      rw [hfind, h.live object hlive]
      simp
  | false =>
      rw [hfind, hclean object hlive]
      refine ⟨by simp, fun _ => ?_⟩
      rw [objectIsValid, hfind, hclean object hlive]
      split
      · rfl
      · rfl

theorem Inv.not_tracks (h : Inv s chains m) {object : BitVec w} (hlive : s.live object = false)
    (hstale : m object = some (some object)) : ¬ Tracks s := by
  rintro ⟨n, htracks⟩
  have hfuel : (allNodes chains).length < max n ((allNodes chains).length + 1) :=
    lt_of_lt_of_le (Nat.lt_succ_self _) (le_max_right _ _)
  have hfind := h.find hfuel object
  have hiff := (htracks (max n ((allNodes chains).length + 1)) (le_max_left _ _) object).1
  rw [hfind, hstale, hlive] at hiff
  exact absurd (hiff.mp rfl) Bool.false_ne_true

theorem Inv.update (h : Inv s chains m) {hash : HashState w Addr (BitVec w)}
    {chains' : HeadIndex → List Addr} {object : BitVec w} {entry : Option (Option (BitVec w))}
    {live : Bool} (hrefines : Refines hash chains' (Function.update m object entry))
    (hself : ∀ d, entry = some d → d = some object)
    (hlive : live = true → entry = some (some object)) (memory : BitVec w → ObjectMemory) :
    Inv { objHash := hash, memory, live := Function.update s.live object live } chains'
      (Function.update m object entry) := by
  refine ⟨hrefines, fun b d hd => ?_, fun b hb => ?_⟩
  · by_cases hbo : b = object
    · subst hbo
      rw [Function.update_self] at hd
      exact hself d hd
    · rw [Function.update_of_ne hbo] at hd
      exact h.self b d hd
  · change Function.update s.live object live b = true at hb
    by_cases hbo : b = object
    · subst hbo
      rw [Function.update_self] at hb ⊢
      exact hlive hb
    · rw [Function.update_of_ne hbo] at hb ⊢
      exact h.live b hb

theorem Clean.update (h : Clean s m) {object : BitVec w} {entry : Option (Option (BitVec w))}
    {live : Bool} (hdead : live = false → entry = none) (hash : HashState w Addr (BitVec w))
    (memory : BitVec w → ObjectMemory) :
    Clean { objHash := hash, memory, live := Function.update s.live object live }
      (Function.update m object entry) := by
  intro b hb
  change Function.update s.live object live b = false at hb
  by_cases hbo : b = object
  · subst hbo
    rw [Function.update_self] at hb ⊢
    exact hdead hb
  · rw [Function.update_of_ne hbo] at hb ⊢
    exact h b hb

variable [DecidableEq Addr]

theorem Inv.init (h : Inv s chains m) {object : BitVec w} {node : Addr} {mutexInit : Bool}
    (hop : Permitted s (.init object node mutexInit)) :
    ∃ n s' chains' m', (∀ fuel ≥ n, step fuel s (.init object node mutexInit) = some s') ∧
      Inv s' chains' m' ∧ m' object = some (some object) ∧ s'.live object = mutexInit ∧
      (mutexInit = true → Clean s m → Clean s' m') := by
  obtain ⟨-, hdead, hfresh⟩ := hop
  have hnode : ∀ a, some node = some a → s.objHash.allocated a = false := by
    rintro a ⟨⟩
    exact hfresh
  obtain ⟨hash, chains', hinsert, hrefines, -⟩ := h.refines.insert_refines hnode object (some object)
  have hmap : insertMap m object (some object) (some node) =
      Function.update m object (some (some object)) := by
    -- a stale address is refused, but then it is in the list already
    by_cases hpresent : (m object).isSome = true
    · obtain ⟨d, hd⟩ := Option.isSome_iff_exists.mp hpresent
      have hold : Function.update m object (some (some object)) = m := by
        rw [← h.self object d hd, ← hd, Function.update_eq_self]
      rw [hold, insertMap, if_neg]
      simp [insertResult, hpresent]
    · rw [insertMap, if_pos]
      simp [insertResult, hpresent]
  rw [hmap] at hrefines
  refine ⟨(chains (headOf object)).length + 1, _, chains', _, fun fuel hfuel => ?_,
    h.update hrefines (fun d hd => (Option.some.inj hd).symm) (fun _ => rfl)
      (Function.update s.memory object { magic := tplObjectMagic, reference := 1#32 }),
    Function.update_self _ _ _, Function.update_self _ _ _, fun hinit hclean =>
      hclean.update (fun hfailed => ?_) _ _⟩
  · cases mutexInit with
    | true => simp [LiveObjectRegistry.step, objectInit, hinsert fuel hfuel, State.setLive]
    | false =>
        have hsame : Function.update s.live object false = s.live := by
          rw [← hdead, Function.update_eq_self]
        simp [LiveObjectRegistry.step, objectInit, hinsert fuel hfuel, hsame]
  · rw [hinit] at hfailed
    cases hfailed

theorem Inv.fini (h : Inv s chains m) {object : BitVec w} {mutexDestroy : Bool} :
    ∃ n s' chains' m', (∀ fuel ≥ n, step fuel s (.fini object mutexDestroy) = some s') ∧
      Inv s' chains' m' ∧ (Clean s m → Clean s' m') := by
  obtain ⟨hash, chains', hdelete, hrefines⟩ := h.refines.delete_refines object
  refine ⟨(chains (headOf object)).length + 1, _, chains', _, fun fuel hfuel => ?_,
    h.update hrefines nofun (absurd · Bool.false_ne_true) (Function.update s.memory object
      { (s.memory object) with magic := tplObjectMagicFreed }),
    fun hclean => hclean.update (fun _ => rfl) _ _⟩
  cases mutexDestroy with
  | true | false =>
      simp [LiveObjectRegistry.step, objectFini, hdelete fuel hfuel, State.setLive]

theorem Inv.step (h : Inv s chains m) {op : Op w Addr} (hop : Permitted s op) :
    ∃ n s' chains' m', (∀ fuel ≥ n, LiveObjectRegistry.step fuel s op = some s') ∧
      Inv s' chains' m' ∧ (MutexInitialised op → Clean s m → Clean s' m') ∧
      (Tracks s' → MutexInitialised op) := by
  cases op with
  | init object node mutexInit =>
      obtain ⟨n, s', chains', m', hstep, hinv, hstored, hlive, hclean⟩ := h.init hop
      refine ⟨n, s', chains', m', hstep, hinv, hclean, fun htracks => ?_⟩
      cases mutexInit with
      | true => exact rfl
      | false => exact absurd htracks (hinv.not_tracks hlive hstored)
  | fini object mutexDestroy =>
      obtain ⟨n, s', chains', m', hstep, hinv, hclean⟩ := h.fini
      exact ⟨n, s', chains', m', hstep, hinv, fun _ => hclean, fun _ => trivial⟩
  | elsewhere allocated memory =>
      refine ⟨0, _, chains, m, fun fuel _ => rfl, ⟨?_, h.self, h.live⟩, fun _ => id,
        fun _ => trivial⟩
      exact ⟨h.refines.linked, h.refines.backs, h.refines.bucket, h.refines.keys,
        fun i a ha => hop a ⟨i, _, h.refines.linked.chain i, ha⟩, h.refines.content⟩

theorem run_from {ops : List (Op w Addr)} (h : Inv s chains m) (hops : PermittedRun s ops) :
    ∃ n trace, (∀ fuel ≥ n, run fuel s ops = some trace) ∧
      (Clean s m → (∀ op ∈ ops, MutexInitialised op) → ∀ s' ∈ trace, Tracks s') ∧
      ((∀ s' ∈ trace, Tracks s') → ∀ op ∈ ops, MutexInitialised op) := by
  induction ops generalizing s chains m with
  | nil => exact ⟨0, [], fun fuel _ => rfl, by simp, by simp⟩
  | cons op ops ih =>
      obtain ⟨hop, hrest⟩ := hops
      obtain ⟨n₁, s₁, chains₁, m₁, hstep, hinv, hclean, hnecessary⟩ := h.step hop
      obtain ⟨n₂, trace, hrun, hsufficient, hlater⟩ := ih hinv (hrest _ _ (hstep n₁ (le_refl _)))
      refine ⟨max n₁ n₂, s₁ :: trace, fun fuel hfuel => ?_, fun hc hall => ?_, fun hall => ?_⟩
      · have hfirst := hstep fuel (le_trans (le_max_left _ _) hfuel)
        have hremaining := hrun fuel (le_trans (le_max_right _ _) hfuel)
        simp [run, hfirst, hremaining]
      · have hc₁ := hclean (hall op List.mem_cons_self) hc
        intro s' hs'
        rcases List.mem_cons.mp hs' with rfl | hs'
        · exact hinv.tracks hc₁
        · exact hsufficient hc₁ (fun op' hop' => hall op' (List.mem_cons_of_mem _ hop')) s' hs'
      · intro op' hop'
        rcases List.mem_cons.mp hop' with rfl | hop'
        · exact hnecessary (hall s₁ List.mem_cons_self)
        · exact hlater (fun s' hs' => hall s' (List.mem_cons_of_mem _ hs')) op' hop'

/-- In every run the registry is right after every call if and only if every initialisation
finds a mutex: otherwise the address of the failed object stays in the hash list. -/
theorem tracks_iff (objHash : HashState w Addr (BitVec w)) (memory : BitVec w → ObjectMemory)
    {ops : List (Op w Addr)} (hops : PermittedRun (objectHashInit objHash memory) ops) :
    ∃ n trace, (∀ fuel ≥ n, run fuel (objectHashInit objHash memory) ops = some trace) ∧
      ((∀ s ∈ trace, Tracks s) ↔ ∀ op ∈ ops, MutexInitialised op) := by
  have hstart : Inv (objectHashInit objHash memory) (fun _ => []) fun _ => none :=
    ⟨hashlistCreate_refines objHash, by simp, by simp [objectHashInit]⟩
  obtain ⟨n, trace, hrun, hsufficient, hnecessary⟩ := run_from hstart hops
  exact ⟨n, trace, hrun, hnecessary, hsufficient fun _ _ => rfl⟩

end

def exampleHash : HashState 64 Nat (BitVec 64) where
  cells := fun _ => none
  pprev := fun _ => none
  key := fun _ => 0
  data := fun _ => none
  allocated := fun _ => false

def exampleState : State 64 Nat := objectHashInit exampleHash fun _ => { magic := 0, reference := 0 }

theorem init_live {fuel : Nat} {s s' : State 64 Nat} {object : BitVec 64} {node : Nat}
    (h : step fuel s (.init object node true) = some s') : s'.live object = true := by
  obtain ⟨out, hinit, rfl⟩ := Option.map_eq_some_iff.mp h
  obtain ⟨inserted, -, hout⟩ := Option.bind_eq_some_iff.mp hinit
  cases hout
  exact Function.update_self _ _ _

theorem tracks_iff_example :
    ∃ n trace, (∀ fuel ≥ n, run fuel exampleState [.init 0x1000 1 true, .fini 0x1000 true] =
        some trace) ∧ ∀ s ∈ trace, Tracks s := by
  have hops : PermittedRun exampleState [.init 0x1000 1 true, .fini 0x1000 true] :=
    ⟨⟨by decide, rfl, rfl⟩, fun _ _ hstep => ⟨init_live hstep, fun _ _ _ => trivial⟩⟩
  obtain ⟨n, trace, hrun, hiff⟩ := tracks_iff exampleHash _ hops
  exact ⟨n, trace, hrun, hiff.mpr (by simp [MutexInitialised])⟩

/-- A surface whose mutex cannot be initialised is freed, and its address stays registered. -/
theorem not_tracks_example :
    ¬ ∀ ops : List (Op 64 Nat), PermittedRun exampleState ops →
      ∃ n trace, (∀ fuel ≥ n, run fuel exampleState ops = some trace) ∧ ∀ s ∈ trace, Tracks s := by
  intro h
  have hops : PermittedRun exampleState [.init 0x1000 1 false] :=
    ⟨⟨by decide, rfl, rfl⟩, fun _ _ _ => trivial⟩
  have hstart : Inv exampleState (fun _ => []) fun _ => none :=
    ⟨hashlistCreate_refines exampleHash, by simp, by simp [exampleState, objectHashInit]⟩
  obtain ⟨n₁, trace₁, hrun₁, htracks⟩ := h _ hops
  obtain ⟨n₂, trace₂, hrun₂, -, hnecessary⟩ := run_from hstart hops
  have hsame : some trace₁ = some trace₂ :=
    (hrun₁ (max n₁ n₂) (le_max_left _ _)).symm.trans (hrun₂ (max n₁ n₂) (le_max_right _ _))
  cases hsame
  have hinit : false = true := hnecessary htracks _ List.mem_cons_self
  cases hinit

end LibtplEgl.LiveObjectRegistry
