import LibtplEgl.LabelledSystem
import LibtplEgl.MapOwnership
import LibtplEgl.ObjectLifetime
import Mathlib.Data.List.Nodup

namespace LibtplEgl.UserDataLoss

open LibtplEgl.LabelledSystem
open LibtplEgl.MapOwnership
open LibtplEgl.ObjectLifetime (tplObjectMagicFreed)
open LibtplEgl.ObjectUserData
open LibtplEgl.TplTypes
open LibtplEgl.UtilMap

universe u v

inductive Event (Data : Type u) (FreeFunc : Type v)
  | dataFreed (call : FreeFunc × Data)
  | objectFreed
  deriving DecidableEq, Repr

section

variable {Data : Type u} {FreeFunc : Type v}

/-- `__tpl_object_fini`, where `pthread_mutex_destroy` may fail: the object and the free
calls made. -/
def objectFini (object : TplObject Data FreeFunc) (destroyed : Bool) :
    TplObject Data FreeFunc × List (FreeFunc × Data) :=
  let object := { object with magic := tplObjectMagicFreed }
  if destroyed then
    let (map, freed) := tplUtilMapClear object.userDataMap
    ({ object with userDataMap := map }, freed)
  else (object, [])

def tplObjectReference (object : TplObject Data FreeFunc) : TplObject Data FreeFunc :=
  if objectIsValid object then { object with reference := object.reference + 1#32 } else object

/-- An object, the data whose set returned `TPL_ERROR_NONE`, and the calls that were made
of their free functions and of `object->free`. -/
structure State (Data : Type u) (FreeFunc : Type v) where
  object : TplObject Data FreeFunc
  alive : Bool
  accepted : List (FreeFunc × Data)
  log : List (Event Data FreeFunc)

inductive Label (Data : Type u) (FreeFunc : Type v)
  | setUserData (key : Key64) (data : Data) (freeFunc : FreeFunc) (alloc : Bool)
  | reference
  | unreference (destroyed : Bool)
  deriving DecidableEq, Repr

/-- `tpl_object_unreference`, which frees the object with its last reference. -/
def State.unreference (st : State Data FreeFunc) (destroyed : Bool) : State Data FreeFunc :=
  if objectIsValid st.object then
    let object := { st.object with reference := st.object.reference - 1#32 }
    if object.reference = 0#32 then
      let (object, freed) := objectFini object destroyed
      { st with
        object := object
        alive := false
        log := st.log ++ freed.map .dataFreed ++ [.objectFreed] }
    else { st with object := object }
  else st

def State.setUserData (st : State Data FreeFunc) (key : Key64) (data : Data)
    (freeFunc : FreeFunc) (alloc : Bool) : State Data FreeFunc :=
  let (result, object, freed) :=
    tplObjectSetUserData st.object key (some data) (some freeFunc) alloc
  { st with
    object := object
    accepted := if result = .errorNone then st.accepted ++ [(freeFunc, data)] else st.accepted
    log := st.log ++ freed.map .dataFreed }

def step (st : State Data FreeFunc) (l : Label Data FreeFunc) : Option (State Data FreeFunc) :=
  if st.alive then
    match l with
    | .setUserData key data freeFunc alloc => some (st.setUserData key data freeFunc alloc)
    | .reference => some { st with object := tplObjectReference st.object }
    | .unreference destroyed => some (st.unreference destroyed)
  else none

def newObject : State Data FreeFunc where
  object := objectInit
  alive := true
  accepted := []
  log := []

def objectSystem : System (State Data FreeFunc) (Label Data FreeFunc) where
  Initial st := st = newObject
  step := step

def Label.datum : Label Data FreeFunc → Option Data
  | .setUserData _ data _ _ => some data
  | .reference | .unreference _ => none

/-- A set finds an entry for its key or gets the memory for one, and the mutex of the
object is destroyed unless no datum is left in its map. -/
def NothingLost (st : State Data FreeFunc) : Label Data FreeFunc → Prop
  | .setUserData key _ _ alloc =>
      objectIsValid st.object = true → Stores st.object.userDataMap key alloc
  | .reference => True
  | .unreference destroyed =>
      objectIsValid st.object = true → st.object.reference = 1#32 → destroyed = false →
        owed st.object.userDataMap = []

/-- The calls that no one is going to make after a step. -/
def loss (st : State Data FreeFunc) : Label Data FreeFunc → List (FreeFunc × Data)
  | .setUserData key data freeFunc alloc =>
      if objectIsValid st.object = true ∧ ¬ Stores st.object.userDataMap key alloc then
        [(freeFunc, data)]
      else []
  | .reference => []
  | .unreference destroyed =>
      if objectIsValid st.object = true ∧ st.object.reference = 1#32 ∧ destroyed = false then
        owed st.object.userDataMap
      else []

theorem loss_eq_nil_iff (st : State Data FreeFunc) (l : Label Data FreeFunc) :
    loss st l = [] ↔ NothingLost st l := by
  cases l with
  | setUserData key data freeFunc alloc =>
      unfold loss NothingLost
      dsimp only
      split
      · rename_i hlost
        exact iff_of_false (List.cons_ne_nil _ _) fun h => hlost.2 (h hlost.1)
      · rename_i hkept
        refine iff_of_true rfl fun hvalid => ?_
        by_contra hnot
        exact hkept ⟨hvalid, hnot⟩
  | reference => exact iff_of_true rfl trivial
  | unreference destroyed =>
      unfold loss NothingLost
      dsimp only
      split
      · rename_i hlast
        exact ⟨fun h _ _ _ => h, fun h => h hlast.1 hlast.2.1 hlast.2.2⟩
      · rename_i hother
        exact iff_of_true rfl fun hvalid hone hfailed =>
          absurd ⟨hvalid, hone, hfailed⟩ hother

/-- The accepted data are those freed, those in the map of the live object, and `lost`. -/
structure Inv (lost : List (FreeFunc × Data)) (st : State Data FreeFunc) : Prop where
  accounted : ∃ freed, st.log = freed.map .dataFreed ++ (if st.alive then [] else [.objectFreed]) ∧
    (freed ++ ((if st.alive then owed st.object.userDataMap else []) ++ lost)).Perm st.accepted

theorem inv_newObject : Inv [] (newObject : State Data FreeFunc) := by
  refine ⟨[], rfl, ?_⟩
  have hnone : owed (newObject : State Data FreeFunc).object.userDataMap = [] := by
    unfold owed
    rw [List.flatMap_eq_nil_iff]
    intro entry hentry
    obtain ⟨_, _, hmem⟩ := List.mem_flatMap.mp hentry
    cases hmem
  show (([] : List (FreeFunc × Data)) ++ (owed _ ++ [])).Perm []
  rw [hnone]
  exact List.Perm.refl _

theorem inv_setUserData {lost : List (FreeFunc × Data)} {st : State Data FreeFunc}
    (h : Inv lost st) (halive : st.alive = true) (key : Key64) (data : Data)
    (freeFunc : FreeFunc) (alloc : Bool) :
    Inv (loss st (.setUserData key data freeFunc alloc) ++ lost)
      (st.setUserData key data freeFunc alloc) := by
  classical
  obtain ⟨freed, hlog, hperm⟩ := h.accounted
  rw [halive] at hlog hperm
  simp only [if_true, List.append_nil] at hlog hperm
  cases hvalid : objectIsValid st.object with
  | false =>
      have hsame : st.setUserData key data freeFunc alloc = st := by
        simp [State.setUserData, tplObjectSetUserData, hvalid]
      have hloss : loss st (.setUserData key data freeFunc alloc) = [] := by
        simp [loss, hvalid]
      rw [hsame, hloss]
      exact h
  | true =>
      have hset := owed_set_perm st.object.userDataMap key (some data) (some freeFunc) alloc
      refine ⟨freed ++ (tplUtilMapSet st.object.userDataMap key (some data) (some freeFunc)
        alloc).2, ?_, ?_⟩
      · simp [State.setUserData, tplObjectSetUserData, hvalid, halive, hlog]
      · have haccepted : (st.setUserData key data freeFunc alloc).accepted =
            st.accepted ++ [(freeFunc, data)] := by
          simp [State.setUserData, tplObjectSetUserData, hvalid]
        have hmap : (st.setUserData key data freeFunc alloc).object.userDataMap =
            (tplUtilMapSet st.object.userDataMap key (some data) (some freeFunc) alloc).1 := by
          simp [State.setUserData, tplObjectSetUserData, hvalid]
        have halive' : (st.setUserData key data freeFunc alloc).alive = true := halive
        rw [haccepted, hmap, halive']
        simp only [if_true]
        have hpair : (if Stores st.object.userDataMap key alloc then
            freePair (some data) (some freeFunc) else []) ++
            loss st (.setUserData key data freeFunc alloc) = [(freeFunc, data)] := by
          by_cases hstores : Stores st.object.userDataMap key alloc
          · simp [loss, hvalid, hstores, freePair]
          · simp [loss, hvalid, hstores]
        rw [List.perm_iff_count] at hset hperm ⊢
        intro pair
        have hs := hset pair
        have hp := hperm pair
        have hone := congrArg (List.count pair) hpair
        simp only [List.count_append] at hs hp hone ⊢
        omega

theorem inv_unreference {lost : List (FreeFunc × Data)} {st : State Data FreeFunc}
    (h : Inv lost st) (halive : st.alive = true) (destroyed : Bool) :
    Inv (loss st (.unreference destroyed) ++ lost) (st.unreference destroyed) := by
  obtain ⟨freed, hlog, hperm⟩ := h.accounted
  rw [halive] at hlog hperm
  simp only [if_true, List.append_nil] at hlog hperm
  have hlast : st.object.reference - 1#32 = 0#32 ↔ st.object.reference = 1#32 := by
    constructor
    · intro hzero
      bv_omega
    · rintro hone
      rw [hone]
      decide
  cases hvalid : objectIsValid st.object with
  | false =>
      have hsame : st.unreference destroyed = st := by simp [State.unreference, hvalid]
      have hloss : loss st (.unreference destroyed) = [] := by simp [loss, hvalid]
      rw [hsame, hloss]
      exact h
  | true =>
      by_cases hone : st.object.reference = 1#32
      · cases destroyed with
        | false =>
            have hloss : loss st (.unreference false) = owed st.object.userDataMap := by
              simp [loss, hvalid, hone]
            rw [hloss]
            refine ⟨freed, ?_, ?_⟩
            · simp [State.unreference, hvalid, hlast.mpr hone, objectFini, hlog]
            · have hdead : (st.unreference false).alive = false := by
                simp [State.unreference, hvalid, hlast.mpr hone, objectFini]
              have hsame : (st.unreference false).accepted = st.accepted := by
                simp [State.unreference, hvalid, hlast.mpr hone, objectFini]
              rw [hdead, hsame]
              exact hperm
        | true =>
            have hloss : loss st (.unreference true) = [] := by
              simp [loss]
            rw [hloss]
            refine ⟨freed ++ owed st.object.userDataMap, ?_, ?_⟩
            · simp [State.unreference, hvalid, hlast.mpr hone, objectFini, hlog, ← clear_freed]
            · have hdead : (st.unreference true).alive = false := by
                simp [State.unreference, hvalid, hlast.mpr hone, objectFini]
              have hsame : (st.unreference true).accepted = st.accepted := by
                simp [State.unreference, hvalid, hlast.mpr hone, objectFini]
              rw [hdead, hsame, List.append_assoc]
              exact hperm
      · have hloss : loss st (.unreference destroyed) = [] := by simp [loss, hone]
        have hkept : st.unreference destroyed =
            { st with object := { st.object with reference := st.object.reference - 1#32 } } := by
          simp [State.unreference, hvalid, hlast, hone]
        rw [hloss, hkept]
        refine ⟨freed, ?_, ?_⟩
        · simpa [halive] using hlog
        · simpa [halive] using hperm

theorem inv_step {lost : List (FreeFunc × Data)} {st st' : State Data FreeFunc}
    {l : Label Data FreeFunc} (h : Inv lost st) (hstep : step st l = some st') :
    Inv (loss st l ++ lost) st' := by
  unfold step at hstep
  split at hstep
  · rename_i halive
    cases l with
    | setUserData key data freeFunc alloc =>
        obtain rfl := Option.some.inj hstep
        exact inv_setUserData h halive key data freeFunc alloc
    | reference =>
        obtain rfl := Option.some.inj hstep
        obtain ⟨freed, hlog, hperm⟩ := h.accounted
        refine ⟨freed, hlog, ?_⟩
        have hmap : (tplObjectReference st.object).userDataMap = st.object.userDataMap := by
          unfold tplObjectReference
          split
          · rfl
          · rfl
        dsimp only
        rw [hmap]
        exact hperm
    | unreference destroyed =>
        obtain rfl := Option.some.inj hstep
        exact inv_unreference h halive destroyed
  · cases hstep

theorem inv_run {lost : List (FreeFunc × Data)} {st t : State Data FreeFunc}
    {ls : List (Label Data FreeFunc)} (h : Inv lost st) (hrun : objectSystem.run st ls = some t) :
    ∃ lost', Inv lost' t ∧ (lost' = [] ↔ lost = [] ∧ objectSystem.EveryStep NothingLost st ls) := by
  induction ls generalizing st lost with
  | nil =>
      obtain rfl := Option.some.inj hrun
      exact ⟨lost, h, (and_iff_left trivial).symm⟩
  | cons l ls ih =>
      rw [System.run_cons, Option.bind_eq_some_iff] at hrun
      obtain ⟨st', hstep, hrest⟩ := hrun
      obtain ⟨lost', hlost', hiff⟩ := ih (inv_step h hstep) hrest
      refine ⟨lost', hlost', hiff.trans ?_⟩
      rw [List.append_eq_nil_iff, loss_eq_nil_iff]
      constructor
      · rintro ⟨⟨hnothing, hlost⟩, hevery⟩
        refine ⟨hlost, hnothing, fun u hu => ?_⟩
        obtain rfl := Option.some.inj (hstep.symm.trans hu)
        exact hevery
      · rintro ⟨hlost, hnothing, hevery⟩
        exact ⟨⟨hnothing, hlost⟩, hevery st' hstep⟩

theorem accepted_run {st t : State Data FreeFunc} {ls : List (Label Data FreeFunc)}
    (hrun : objectSystem.run st ls = some t) :
    ∃ pairs, t.accepted = st.accepted ++ pairs ∧
      (pairs.map Prod.snd).Sublist (ls.filterMap Label.datum) := by
  induction ls generalizing st with
  | nil =>
      obtain rfl := Option.some.inj hrun
      exact ⟨[], (List.append_nil _).symm, List.Sublist.refl _⟩
  | cons l ls ih =>
      rw [System.run_cons, Option.bind_eq_some_iff] at hrun
      obtain ⟨st', hstep, hrest⟩ := hrun
      obtain ⟨pairs, haccepted, hsub⟩ := ih hrest
      have hone : ∃ first, st'.accepted = st.accepted ++ first ∧
          (first.map Prod.snd).Sublist l.datum.toList := by
        change step st l = some st' at hstep
        unfold step at hstep
        split at hstep
        · cases l with
          | setUserData key data freeFunc alloc =>
              obtain rfl := Option.some.inj hstep
              unfold State.setUserData
              dsimp only
              split
              · exact ⟨[(freeFunc, data)], rfl, List.Sublist.refl _⟩
              · exact ⟨[], (List.append_nil _).symm, List.nil_sublist _⟩
          | reference =>
              obtain rfl := Option.some.inj hstep
              exact ⟨[], (List.append_nil _).symm, List.Sublist.refl _⟩
          | unreference destroyed =>
              obtain rfl := Option.some.inj hstep
              refine ⟨[], ?_, List.Sublist.refl _⟩
              rw [List.append_nil]
              unfold State.unreference
              dsimp only
              split
              · split
                · rfl
                · rfl
              · rfl
        · cases hstep
      obtain ⟨first, hfirst, hdatum⟩ := hone
      refine ⟨first ++ pairs, ?_, ?_⟩
      · rw [haccepted, hfirst, List.append_assoc]
      · rw [List.map_append]
        have hcons : (l :: ls).filterMap Label.datum =
            l.datum.toList ++ ls.filterMap Label.datum := by
          cases hl : l.datum with
          | none => simp [hl]
          | some data => simp [hl]
        rw [hcons]
        exact hdatum.append hsub

variable [DecidableEq Data] [DecidableEq FreeFunc]

/-- Every accepted datum is freed once, before the object is. -/
def AllFreed (st : State Data FreeFunc) : Prop :=
  ∃ log, st.log = log ++ [.objectFreed] ∧ ∀ call ∈ st.accepted, log.count (.dataFreed call) = 1

theorem count_dataFreed (freed : List (FreeFunc × Data)) (call : FreeFunc × Data) :
    (freed.map Event.dataFreed).count (.dataFreed call) = freed.count call :=
  List.count_map_of_injective freed Event.dataFreed (fun _ _ h => Event.dataFreed.inj h) call

theorem Inv.allFreed_iff_nothing_lost {lost : List (FreeFunc × Data)} {st : State Data FreeFunc}
    (h : Inv lost st) (hdead : st.alive = false) (hnodup : st.accepted.Nodup) :
    AllFreed st ↔ lost = [] := by
  obtain ⟨freed, hlog, hperm⟩ := h.accounted
  rw [hdead] at hlog hperm
  simp only [Bool.false_eq_true, if_false, List.nil_append] at hlog hperm
  constructor
  · rintro ⟨log, hlog', hcount⟩
    obtain rfl : freed.map Event.dataFreed = log := List.append_cancel_right (hlog.symm.trans hlog')
    rw [List.eq_nil_iff_forall_not_mem]
    intro call hcall
    have hmem : call ∈ st.accepted := hperm.subset (List.mem_append_right _ hcall)
    have hfreed := hcount call hmem
    rw [count_dataFreed] at hfreed
    have htotal := hperm.count_eq call
    rw [List.count_append, hfreed, List.count_eq_one_of_mem hnodup hmem] at htotal
    have hpos := List.count_pos_iff.mpr hcall
    omega
  · rintro rfl
    rw [List.append_nil] at hperm
    refine ⟨_, hlog, fun call hcall => ?_⟩
    rw [count_dataFreed, hperm.count_eq]
    exact List.count_eq_one_of_mem hnodup hcall

/-- Every accepted datum is freed in exactly the runs in which every set stores its datum,
and the mutex is destroyed or the map is empty in the end. -/
theorem allFreed_iff (ls : List (Label Data FreeFunc)) (st : State Data FreeFunc)
    (hrun : objectSystem.run newObject ls = some st) (hdead : st.alive = false)
    (hdistinct : (ls.filterMap Label.datum).Nodup) :
    AllFreed st ↔ objectSystem.EveryStep NothingLost newObject ls := by
  obtain ⟨lost, hinv, hiff⟩ := inv_run inv_newObject hrun
  obtain ⟨pairs, haccepted, hsub⟩ := accepted_run hrun
  have hnodup : st.accepted.Nodup := by
    rw [haccepted]
    exact List.Nodup.of_map _ (hdistinct.sublist hsub)
  rw [hinv.allFreed_iff_nothing_lost hdead hnodup, hiff]
  exact and_iff_right rfl

end

def replaced : List (Label Nat Nat) :=
  [.setUserData 8#64 1 7 true, .setUserData 8#64 2 7 false, .reference,
    .setUserData 16#64 3 7 true, .unreference true, .unreference true]

theorem allFreed_replaced :
    ∃ st, objectSystem.run newObject replaced = some st ∧
      (AllFreed st ↔ objectSystem.EveryStep NothingLost newObject replaced) := by
  obtain ⟨st, hrun, hdead⟩ := objectSystem.exists_of_run (fun st => st.alive = false) newObject
    replaced (by decide)
  exact ⟨st, hrun, allFreed_iff replaced st hrun hdead (by decide)⟩

/-- A set that gets no memory returns `TPL_ERROR_NONE`, and its datum is never freed. -/
theorem not_allFreed :
    ¬ ∀ (ls : List (Label Nat Nat)) (st : State Nat Nat),
      objectSystem.run newObject ls = some st → st.alive = false →
      (ls.filterMap Label.datum).Nodup → AllFreed st := by
  intro hall
  obtain ⟨st, hrun, hdead, haccepted, hlog⟩ := objectSystem.exists_of_run
    (fun st => st.alive = false ∧ (7, 1) ∈ st.accepted ∧ st.log = [.objectFreed]) newObject
    [.setUserData 8#64 1 7 false, .unreference true] (by decide)
  obtain ⟨log, hsplit, hcount⟩ := hall _ st hrun hdead (by decide)
  have hnone : log = [] := by
    have hlength := congrArg List.length (hlog.symm.trans hsplit)
    simpa using hlength
  have hone := hcount (7, 1) haccepted
  rw [hnone] at hone
  exact absurd hone (by decide)

end LibtplEgl.UserDataLoss
