import LibtplEgl.LabelledSystem
import Mathlib.Data.List.Basic
import Mathlib.Logic.Function.Basic
import Mathlib.Logic.Relation
import Mathlib.Order.WithBot

namespace LibtplEgl.RankedLocks

open LibtplEgl.LabelledSystem

universe u v w x y

section

variable {Thread : Type u} {Rank : Type v} [Preorder Rank]

/-- A relation along which a rank grows has no cycle. -/
theorem not_transGen_self {R : Thread → Thread → Prop} {rank : Thread → Rank}
    (hrank : ∀ t s r, R t s → R s r → rank t < rank s) (t : Thread) :
    ¬ Relation.TransGen R t t := by
  have hgrows : ∀ {s r q}, Relation.TransGen R s r → R r q → rank s < rank r := by
    intro s r q hpath hlast
    induction hpath generalizing q with
    | single hfirst => exact hrank _ _ _ hfirst hlast
    | tail _ hstep ih => exact (ih hstep).trans (hrank _ _ _ hstep hlast)
  intro hcycle
  obtain ⟨s, hfirst, _⟩ := Relation.TransGen.head'_iff.mp hcycle
  exact lt_irrefl _ (hgrows hcycle hfirst)

/-- When no rank grows for ever, every path of the relation comes to an end. -/
theorem exists_end [WellFoundedGT Rank] {R : Thread → Thread → Prop} {rank : Thread → Rank}
    (hrank : ∀ t s r, R t s → R s r → rank t < rank s) (t : Thread) :
    ∃ s, Relation.ReflTransGen R t s ∧ ∀ r, ¬ R s r := by
  induction hn : rank t using WellFoundedGT.induction generalizing t with
  | ind n ih =>
      subst hn
      by_cases hends : ∃ s, R t s
      · obtain ⟨s, hfirst⟩ := hends
        by_cases hstops : ∃ r, R s r
        · obtain ⟨r, hsecond⟩ := hstops
          obtain ⟨q, hpath, hlast⟩ := ih (rank s) (hrank t s r hfirst hsecond) s rfl
          exact ⟨q, .head hfirst hpath, hlast⟩
        · exact ⟨s, .single hfirst, not_exists.mp hstops⟩
      · exact ⟨t, .refl, not_exists.mp hends⟩

end

/-- Code, as far as the locks that it takes go. `init` makes a lock free whoever has
it; `either`, `any` and `loop` leave the choice to the environment. -/
inductive Code (Lock : Type u) (Index : Type v)
  | skip
  | lock (m : Lock)
  | unlock (m : Lock)
  | init (m : Lock)
  | seq (first second : Code Lock Index)
  | either (one other : Code Lock Index)
  | any (branch : Index → Code Lock Index)
  | loop (body : Code Lock Index)

namespace Code

variable {Lock : Type u} {Index : Type v}

def block : List (Code Lock Index) → Code Lock Index
  | [] => skip
  | code :: rest => seq code (block rest)

def optional (code : Code Lock Index) : Code Lock Index := either code skip

def locked (m : Lock) (code : Code Lock Index) : Code Lock Index :=
  block [lock m, code, unlock m]

variable {Rank : Type w} [Preorder Rank] [DecidableEq Lock]

/-- Every lock that the code takes ranks above those that are held then, and `post`
holds of those that are held when it is done. -/
def Safe (rank : Lock → Rank) : Code Lock Index → List Lock → (List Lock → Prop) → Prop
  | skip, held, post => post held
  | lock m, held, post => (∀ l ∈ held, rank l < rank m) ∧ post (m :: held)
  | unlock m, held, post => post (held.erase m)
  | init _, held, post => post held
  | seq first second, held, post =>
      first.Safe rank held fun held => second.Safe rank held post
  | either one other, held, post => one.Safe rank held post ∧ other.Safe rank held post
  | any branch, held, post => ∀ i, (branch i).Safe rank held post
  | loop body, held, post => body.Safe rank held (· = held) ∧ post held

variable {rank : Lock → Rank} {held : List Lock} {post post' : List Lock → Prop}

theorem Safe.mono {code : Code Lock Index} (h : code.Safe rank held post)
    (hpost : ∀ held, post held → post' held) : code.Safe rank held post' := by
  induction code generalizing held post post' with
  | skip | unlock _ | init _ => exact hpost _ h
  | lock m => exact ⟨h.1, hpost _ h.2⟩
  | seq first second ihFirst ihSecond =>
      exact ihFirst h fun held hsecond => ihSecond hsecond hpost
  | either one other ihOne ihOther => exact ⟨ihOne h.1 hpost, ihOther h.2 hpost⟩
  | any branch ih => exact fun i => ih i (h i) hpost
  | loop body _ => exact ⟨h.1, hpost _ h.2⟩

/-- Safe code that holds what it held when it is done. -/
def Neutral (rank : Lock → Rank) (code : Code Lock Index) (held : List Lock) : Prop :=
  code.Safe rank held (· = held)

variable {code rest : Code Lock Index} {codes : List (Code Lock Index)}

theorem Neutral.then (h : code.Neutral rank held) (hpost : post held) :
    code.Safe rank held post := by
  refine Safe.mono h fun held' hheld => ?_
  subst hheld
  exact hpost

theorem neutral_skip : (skip : Code Lock Index).Neutral rank held := rfl

theorem neutral_init (m : Lock) : (init m : Code Lock Index).Neutral rank held := rfl

theorem neutral_unlock {m : Lock} (h : m ∉ held) :
    (unlock m : Code Lock Index).Neutral rank held :=
  List.erase_of_not_mem h

theorem neutral_block (h : ∀ code ∈ codes, code.Neutral rank held) :
    (block codes).Neutral rank held := by
  induction codes with
  | nil => exact neutral_skip
  | cons code codes ih =>
      have hrest := ih fun other hother => h other (List.mem_cons_of_mem code hother)
      exact (h code List.mem_cons_self).then hrest

theorem Neutral.either (h : code.Neutral rank held) (hrest : rest.Neutral rank held) :
    (either code rest).Neutral rank held :=
  ⟨h, hrest⟩

theorem Neutral.optional (h : code.Neutral rank held) : (optional code).Neutral rank held :=
  h.either neutral_skip

theorem neutral_any {branch : Index → Code Lock Index} (h : ∀ i, (branch i).Neutral rank held) :
    (any branch).Neutral rank held :=
  h

theorem Neutral.loop (h : code.Neutral rank held) : (loop code).Neutral rank held :=
  ⟨h, rfl⟩

theorem Neutral.locked {m : Lock} (h : code.Neutral rank (m :: held))
    (hlt : ∀ l ∈ held, rank l < rank m) : (locked m code).Neutral rank held := by
  refine ⟨hlt, h.then ?_⟩
  exact List.erase_cons_head m held

theorem Neutral.unlocked {m : Lock} (h : code.Neutral rank held)
    (hlt : ∀ l ∈ held, rank l < rank m) :
    (block [unlock m, code, lock m]).Neutral rank (m :: held) := by
  show code.Safe rank ((m :: held).erase m) _
  rw [List.erase_cons_head]
  exact h.then ⟨hlt, rfl⟩

def SafeAll (rank : Lock → Rank) : List (Code Lock Index) → List Lock → Prop
  | [], held => held = []
  | code :: rest, held => code.Safe rank held (SafeAll rank rest)

end Code

structure State (Thread : Type u) (Lock : Type v) (Index : Type w) where
  owner : Lock → Option Thread
  left : Thread → List (Code Lock Index)

inductive Label (Thread : Type u) (Call : Type v) (Index : Type w)
  | call (t : Thread) (c : Call)
  | step (t : Thread)
  | branch (t : Thread) (taken : Bool)
  | pick (t : Thread) (i : Index)
  deriving DecidableEq, Repr

section

variable {Thread : Type u} {Lock : Type v} {Index : Type w} {Call : Type x}
variable [DecidableEq Thread] [DecidableEq Lock]

def State.setLeft (st : State Thread Lock Index) (t : Thread) (codes : List (Code Lock Index)) :
    State Thread Lock Index :=
  { st with left := Function.update st.left t codes }

def State.setOwner (st : State Thread Lock Index) (m : Lock) (owner : Option Thread) :
    State Thread Lock Index :=
  { st with owner := Function.update st.owner m owner }

/-- One step of a thread. A thread that has nothing left begins a call, and a lock that
is owned is not taken. -/
def step (body : Call → Code Lock Index) (st : State Thread Lock Index) :
    Label Thread Call Index → Option (State Thread Lock Index)
  | .call t c =>
      match st.left t with
      | [] => some (st.setLeft t [body c])
      | _ :: _ => none
  | .step t =>
      match st.left t with
      | .skip :: rest => some (st.setLeft t rest)
      | .lock m :: rest =>
          match st.owner m with
          | none => some ((st.setOwner m (some t)).setLeft t rest)
          | some _ => none
      | .unlock m :: rest => some ((st.setOwner m none).setLeft t rest)
      | .init m :: rest => some ((st.setOwner m none).setLeft t rest)
      | .seq first second :: rest => some (st.setLeft t (first :: second :: rest))
      | _ => none
  | .branch t taken =>
      match st.left t with
      | .either one other :: rest => some (st.setLeft t ((if taken then one else other) :: rest))
      | .loop code :: rest =>
          some (st.setLeft t (if taken then code :: .loop code :: rest else rest))
      | _ => none
  | .pick t i =>
      match st.left t with
      | .any branch :: rest => some (st.setLeft t (branch i :: rest))
      | _ => none

def quiet : State Thread Lock Index where
  owner := fun _ => none
  left := fun _ => []

def lockSystem (body : Call → Code Lock Index) :
    System (State Thread Lock Index) (Label Thread Call Index) where
  Initial st := st = quiet
  step := step body

omit [DecidableEq Thread] [DecidableEq Lock] in
/-- The thread `t` cannot go on because `s` owns the lock that it takes next. -/
def State.WaitsFor (st : State Thread Lock Index) (t s : Thread) : Prop :=
  ∃ m rest, st.left t = .lock m :: rest ∧ st.owner m = some s

variable {Rank : Type y} [Preorder Rank] {rank : Lock → Rank}

/-- What the threads have left is safe for the locks that they own. -/
def Inv (rank : Lock → Rank) (st : State Thread Lock Index) : Prop :=
  ∀ t, ∃ held, Code.SafeAll rank (st.left t) held ∧ ∀ m, st.owner m = some t → m ∈ held

omit [DecidableEq Thread] in
theorem inv_quiet : Inv rank (quiet : State Thread Lock Index) := by
  intro t
  exact ⟨[], rfl, nofun⟩

theorem Inv.goOn {st : State Thread Lock Index} (h : Inv rank st) {t : Thread}
    {codes : List (Code Lock Index)}
    (hsafe : ∀ held, Code.SafeAll rank (st.left t) held → Code.SafeAll rank codes held) :
    Inv rank (st.setLeft t codes) := by
  intro s
  obtain ⟨held, hleft, howned⟩ := h s
  refine ⟨held, ?_, howned⟩
  rcases eq_or_ne s t with rfl | hs
  · show Code.SafeAll rank (Function.update st.left s codes s) held
    rw [Function.update_self]
    exact hsafe held hleft
  · show Code.SafeAll rank (Function.update st.left t codes s) held
    rw [Function.update_of_ne hs]
    exact hleft

theorem Inv.free {st : State Thread Lock Index} (h : Inv rank st) {t : Thread} {m : Lock}
    {codes : List (Code Lock Index)}
    (hsafe : ∀ held, Code.SafeAll rank (st.left t) held →
      Code.SafeAll rank codes (held.erase m) ∨ Code.SafeAll rank codes held) :
    Inv rank ((st.setOwner m none).setLeft t codes) := by
  intro s
  obtain ⟨held, hleft, howned⟩ := h s
  have hother : ∀ l, Function.update st.owner m none l = some s → l ≠ m ∧ l ∈ held := by
    intro l hl
    rcases eq_or_ne l m with rfl | hne
    · rw [Function.update_self] at hl
      cases hl
    · rw [Function.update_of_ne hne] at hl
      exact ⟨hne, howned l hl⟩
  rcases eq_or_ne s t with rfl | hs
  · rcases hsafe held hleft with herased | hkept
    · refine ⟨held.erase m, ?_, fun l hl => ?_⟩
      · show Code.SafeAll rank (Function.update st.left s codes s) _
        rw [Function.update_self]
        exact herased
      · obtain ⟨hne, hmem⟩ := hother l hl
        exact (List.mem_erase_of_ne hne).mpr hmem
    · refine ⟨held, ?_, fun l hl => (hother l hl).2⟩
      show Code.SafeAll rank (Function.update st.left s codes s) held
      rw [Function.update_self]
      exact hkept
  · refine ⟨held, ?_, fun l hl => (hother l hl).2⟩
    show Code.SafeAll rank (Function.update st.left t codes s) held
    rw [Function.update_of_ne hs]
    exact hleft

theorem Inv.take {st : State Thread Lock Index} (h : Inv rank st) {t : Thread} {m : Lock}
    {rest : List (Code Lock Index)} (hleft : st.left t = .lock m :: rest) :
    Inv rank ((st.setOwner m (some t)).setLeft t rest) := by
  intro s
  obtain ⟨held, hsafe, howned⟩ := h s
  rcases eq_or_ne s t with rfl | hs
  · rw [hleft] at hsafe
    refine ⟨m :: held, ?_, fun l hl => ?_⟩
    · show Code.SafeAll rank (Function.update st.left s rest s) _
      rw [Function.update_self]
      exact hsafe.2
    · rcases eq_or_ne l m with rfl | hne
      · exact List.mem_cons_self
      · have hl' : Function.update st.owner m (some s) l = some s := hl
        rw [Function.update_of_ne hne] at hl'
        exact List.mem_cons_of_mem m (howned l hl')
  · refine ⟨held, ?_, fun l hl => ?_⟩
    · show Code.SafeAll rank (Function.update st.left t rest s) held
      rw [Function.update_of_ne hs]
      exact hsafe
    · have hl' : Function.update st.owner m (some t) l = some s := hl
      rcases eq_or_ne l m with rfl | hne
      · rw [Function.update_self] at hl'
        exact absurd (Option.some.inj hl').symm hs
      · rw [Function.update_of_ne hne] at hl'
        exact howned l hl'

theorem inv_step {body : Call → Code Lock Index} (hbody : ∀ c, (body c).Neutral rank [])
    {st st' : State Thread Lock Index} {l : Label Thread Call Index} (h : Inv rank st)
    (hstep : step body st l = some st') : Inv rank st' := by
  cases l with
  | call t c =>
      simp only [step] at hstep
      split at hstep
      · rename_i hleft
        obtain rfl := Option.some.inj hstep
        refine h.goOn fun held hnone => ?_
        rw [hleft] at hnone
        obtain rfl : held = [] := hnone
        exact hbody c
      · cases hstep
  | step t =>
      simp only [step] at hstep
      split at hstep
      · rename_i rest hleft
        obtain rfl := Option.some.inj hstep
        refine h.goOn fun held hsafe => ?_
        rw [hleft] at hsafe
        exact hsafe
      · rename_i m rest hleft
        split at hstep
        · obtain rfl := Option.some.inj hstep
          exact h.take hleft
        · cases hstep
      · rename_i m rest hleft
        obtain rfl := Option.some.inj hstep
        refine h.free fun held hsafe => .inl ?_
        rw [hleft] at hsafe
        exact hsafe
      · rename_i m rest hleft
        obtain rfl := Option.some.inj hstep
        refine h.free fun held hsafe => .inr ?_
        rw [hleft] at hsafe
        exact hsafe
      · rename_i first second rest hleft
        obtain rfl := Option.some.inj hstep
        refine h.goOn fun held hsafe => ?_
        rw [hleft] at hsafe
        exact hsafe
      · cases hstep
  | branch t taken =>
      simp only [step] at hstep
      split at hstep
      · rename_i one other rest hleft
        obtain rfl := Option.some.inj hstep
        refine h.goOn fun held hsafe => ?_
        rw [hleft] at hsafe
        cases taken with
        | true => exact hsafe.1
        | false => exact hsafe.2
      · rename_i code rest hleft
        obtain rfl := Option.some.inj hstep
        refine h.goOn fun held hsafe => ?_
        rw [hleft] at hsafe
        cases taken with
        | true => exact Code.Neutral.then hsafe.1 hsafe
        | false => exact hsafe.2
      · cases hstep
  | pick t i =>
      simp only [step] at hstep
      split at hstep
      · rename_i branch rest hleft
        obtain rfl := Option.some.inj hstep
        refine h.goOn fun held hsafe => ?_
        rw [hleft] at hsafe
        exact hsafe i
      · cases hstep

theorem inv_reachable {body : Call → Code Lock Index} (hbody : ∀ c, (body c).Neutral rank [])
    {st : State Thread Lock Index} (hst : (lockSystem body).Reachable st) : Inv rank st := by
  refine hst.invariant ?_ ?_
  · rintro _ rfl
    exact inv_quiet
  · intro _ _ _ h _ hstep
    exact inv_step hbody h hstep

omit [DecidableEq Thread] in
theorem Inv.released {st : State Thread Lock Index} (h : Inv rank st) {t : Thread}
    (hdone : st.left t = []) (m : Lock) : st.owner m ≠ some t := by
  intro howner
  obtain ⟨held, hsafe, howned⟩ := h t
  rw [hdone] at hsafe
  obtain rfl : held = [] := hsafe
  exact List.not_mem_nil (howned m howner)

def wanted : List (Code Lock Index) → Option Lock
  | .lock m :: _ => some m
  | _ => none

omit [DecidableEq Lock] in
theorem wanted_eq_some {codes : List (Code Lock Index)} {m : Lock} (h : wanted codes = some m) :
    ∃ rest, codes = .lock m :: rest := by
  unfold wanted at h
  split at h
  · rename_i rest
    obtain rfl := Option.some.inj h
    exact ⟨rest, rfl⟩
  · cases h

omit [DecidableEq Thread] in
theorem Inv.wanted_lt {st : State Thread Lock Index} (h : Inv rank st) {t s r : Thread}
    (hts : st.WaitsFor t s) (hsr : st.WaitsFor s r) :
    ∃ m l, wanted (st.left t) = some m ∧ wanted (st.left s) = some l ∧ rank m < rank l := by
  obtain ⟨m, restT, hleftT, hownerM⟩ := hts
  obtain ⟨l, restS, hleftS, -⟩ := hsr
  obtain ⟨held, hsafe, howned⟩ := h s
  rw [hleftS] at hsafe
  refine ⟨m, l, ?_, ?_, hsafe.1 m (howned m hownerM)⟩
  · rw [hleftT]
    rfl
  · rw [hleftS]
    rfl

/-- The rank of the lock that a thread takes next; a thread that takes none ranks below. -/
def State.waitRank (rank : Lock → Rank) (st : State Thread Lock Index) (t : Thread) :
    WithBot Rank :=
  (wanted (st.left t)).elim ⊥ fun m => (rank m : WithBot Rank)

omit [DecidableEq Thread] in
theorem Inv.waitRank_lt {st : State Thread Lock Index} (h : Inv rank st) {t s r : Thread}
    (hts : st.WaitsFor t s) (hsr : st.WaitsFor s r) :
    st.waitRank rank t < st.waitRank rank s := by
  obtain ⟨m, l, hm, hl, hlt⟩ := h.wanted_lt hts hsr
  unfold State.waitRank
  rw [hm, hl]
  exact WithBot.coe_lt_coe.mpr hlt

omit [DecidableEq Thread] in
/-- No thread waits for itself, directly or through others. -/
theorem Inv.acyclic {st : State Thread Lock Index} (h : Inv rank st) (t : Thread) :
    ¬ Relation.TransGen st.WaitsFor t t :=
  not_transGen_self (fun _ _ _ hts hsr => h.waitRank_lt hts hsr) t

omit [DecidableEq Thread] in
/-- Threads that wait for each other end at one that is in the middle of its code and
does not wait. -/
theorem Inv.exists_unblocked [WellFoundedGT Rank] {st : State Thread Lock Index}
    (h : Inv rank st) {t s : Thread} (hts : st.WaitsFor t s) :
    ∃ r, Relation.TransGen st.WaitsFor t r ∧ st.left r ≠ [] ∧ ∀ q, ¬ st.WaitsFor r q := by
  obtain ⟨r, hpath, hlast⟩ := exists_end (fun _ _ _ hts hsr => h.waitRank_lt hts hsr) s
  have hall : Relation.TransGen st.WaitsFor t r := Relation.TransGen.head' hts hpath
  refine ⟨r, hall, fun hdone => ?_, hlast⟩
  obtain ⟨q, _, m, _, _, howner⟩ := Relation.TransGen.tail'_iff.mp hall
  exact h.released hdone m howner

end

end LibtplEgl.RankedLocks
