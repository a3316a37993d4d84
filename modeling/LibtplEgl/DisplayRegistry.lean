import LibtplEgl.LabelledSystem
import LibtplEgl.TplTypes
import Mathlib.Logic.Function.Basic

namespace LibtplEgl.DisplayRegistry

open LibtplEgl.LabelledSystem
open LibtplEgl.TplTypes

universe u v w

structure TplDisplay (Handle : Type u) where
  type : TplBackend
  nativeHandle : Handle
  reference : Nat
  deriving DecidableEq, Repr

/-- The hash list and the key in it under which a display is registered. -/
def TplDisplay.key {Handle : Type u} (x : TplDisplay Handle) : TplBackend × Handle :=
  (x.type, x.nativeHandle)

/-- Where a thread is in `tpl_display_create`, `tpl_display_get` or
`tpl_object_unreference`. -/
inductive Pc (Handle : Type u) (Display : Type v)
  | idle
  | createFind (type : Option TplBackend) (nativeDpy : Handle)
  | createAlloc (type : Option TplBackend) (nativeDpy : Handle)
  | initBackend (d : Display)
  | addDisplay (d : Display)
  | unreferenceFailed (d : Display)
  | getFind (nativeDpy : Handle)
  | unreference (d : Display)
  | removeDisplay (d : Display)
  deriving DecidableEq, Repr

/-- What a thread still has to do with a display: register or discard the one it
creates, drop a reference of a client, or unregister one without references. -/
inductive Duty (Display : Type v)
  | create (d : Display)
  | drop (d : Display)
  | remove (d : Display)
  deriving DecidableEq, Repr

def Duty.display {Display : Type v} : Duty Display → Display
  | .create d | .drop d | .remove d => d

def Pc.duty {Handle : Type u} {Display : Type v} : Pc Handle Display → Option (Duty Display)
  | .initBackend d | .addDisplay d | .unreferenceFailed d => some (.create d)
  | .unreference d => some (.drop d)
  | .removeDisplay d => some (.remove d)
  | .idle | .createFind _ _ | .createAlloc _ _ | .getFind _ => none

/-- `runtime` holds the hash lists `runtime->displays[type]`, `result` what the
last create or get of a thread returned, `returned` the displays that some
`tpl_display_create` has returned. -/
structure State (Handle : Type u) (Display : Type v) (Thread : Type w) where
  runtime : TplBackend × Handle → Option Display
  displays : Display → Option (TplDisplay Handle)
  returned : Display → Bool
  result : Thread → Option Display
  threads : Thread → Pc Handle Display

/-- `initBackend` carries the outcome of `backend.init` and the handle that it
leaves in the display, `createAlloc` the backend that is chosen for an unknown
type and the display that is allocated, if it can be. -/
inductive Label (Handle : Type u) (Display : Type v) (Thread : Type w)
  | displayCreate (t : Thread) (type : Option TplBackend) (nativeDpy : Handle)
  | createFind (t : Thread)
  | createAlloc (t : Thread) (chosen : Option TplBackend) (allocated : Option Display)
  | initBackend (t : Thread) (ok : Bool) (nativeHandle : Handle)
  | addDisplay (t : Thread) (ok : Bool)
  | displayGet (t : Thread) (nativeDpy : Handle)
  | getFind (t : Thread)
  | objectReference (t : Thread) (d : Display)
  | objectUnreference (t : Thread) (d : Display)
  | unreference (t : Thread)
  | removeDisplay (t : Thread)
  deriving DecidableEq, Repr

def backends : List TplBackend :=
  [.wayland, .gbm, .x11Dri2, .x11Dri3, .tbm, .waylandVulkanWsi, .tbmVulkanWsi]

section

variable {Handle : Type u} {Display : Type v} {Thread : Type w}

/-- `__tpl_runtime_find_display`. -/
def State.findDisplay (st : State Handle Display Thread) (type : Option TplBackend)
    (nativeDisplay : Handle) : Option Display :=
  match type with
  | some type => st.runtime (type, nativeDisplay)
  | none => backends.findSome? fun type => st.runtime (type, nativeDisplay)

section

variable [DecidableEq Thread]

def State.setThread (st : State Handle Display Thread) (t : Thread) (pc : Pc Handle Display) :
    State Handle Display Thread :=
  { st with threads := Function.update st.threads t pc }

def State.return (st : State Handle Display Thread) (t : Thread) (result : Option Display) :
    State Handle Display Thread :=
  { st with result := Function.update st.result t result }.setThread t .idle

end

section

variable [DecidableEq Display]

def State.setDisplay (st : State Handle Display Thread) (d : Display) (x : TplDisplay Handle) :
    State Handle Display Thread :=
  { st with displays := Function.update st.displays d (some x) }

end

variable [DecidableEq Handle] [DecidableEq Display] [DecidableEq Thread]

/-- `tpl_object_unreference`, up to the call of `__tpl_display_free`: a display
whose count is 0 is no valid object any more. -/
def State.unreference (st : State Handle Display Thread) (t : Thread) (d : Display) :
    Option (State Handle Display Thread) :=
  match st.displays d with
  | some x =>
      match x.reference with
      | 0 => some (st.setThread t .idle)
      | 1 => some ((st.setDisplay d { x with reference := 0 }).setThread t (.removeDisplay d))
      | reference + 1 => some ((st.setDisplay d { x with reference := reference }).setThread t .idle)
  | none => none

def step (st : State Handle Display Thread) :
    Label Handle Display Thread → Option (State Handle Display Thread)
  | .displayCreate t type nativeDpy =>
      match st.threads t with
      | .idle => some (st.setThread t (.createFind type nativeDpy))
      | _ => none
  | .createFind t =>
      match st.threads t with
      | .createFind type nativeDpy =>
          match st.findDisplay type nativeDpy with
          | some d =>
              some ({ st with returned := Function.update st.returned d true }.return t (some d))
          | none => some (st.setThread t (.createAlloc type nativeDpy))
      | _ => none
  | .createAlloc t chosen allocated =>
      match st.threads t with
      | .createAlloc type nativeDpy =>
          match type.or chosen, allocated with
          | some type, some d =>
              if st.displays d = none then
                some ((st.setDisplay d ⟨type, nativeDpy, 1⟩).setThread t (.initBackend d))
              else none
          | _, _ => some (st.return t none)
      | _ => none
  | .initBackend t ok nativeHandle =>
      match st.threads t with
      | .initBackend d =>
          match st.displays d with
          | some x =>
              some ((st.setDisplay d { x with nativeHandle := nativeHandle }).setThread t
                (if ok then .addDisplay d else .unreferenceFailed d))
          | none => none
      | _ => none
  | .addDisplay t ok =>
      match st.threads t with
      | .addDisplay d =>
          match st.displays d with
          | some x =>
              if ok = true ∧ st.runtime x.key = none then
                some ({ st with
                  runtime := Function.update st.runtime x.key (some d)
                  returned := Function.update st.returned d true }.return t (some d))
              else some (st.setThread t (.unreferenceFailed d))
          | none => none
      | _ => none
  | .displayGet t nativeDpy =>
      match st.threads t with
      | .idle => some (st.setThread t (.getFind nativeDpy))
      | _ => none
  | .getFind t =>
      match st.threads t with
      | .getFind nativeDpy => some (st.return t (st.findDisplay none nativeDpy))
      | _ => none
  | .objectReference t d =>
      match st.threads t, st.returned d, st.displays d with
      | .idle, true, some x =>
          if x.reference = 0 then some st
          else some (st.setDisplay d { x with reference := x.reference + 1 })
      | _, _, _ => none
  | .objectUnreference t d =>
      match st.threads t, st.returned d with
      | .idle, true => some (st.setThread t (.unreference d))
      | _, _ => none
  | .unreference t =>
      match st.threads t with
      | .unreference d => st.unreference t d
      | .unreferenceFailed d =>
          { st with result := Function.update st.result t none }.unreference t d
      | _ => none
  | .removeDisplay t =>
      match st.threads t with
      | .removeDisplay d =>
          match st.displays d with
          | some x =>
              some ({ st with runtime := Function.update st.runtime x.key none }.setThread t .idle)
          | none => none
      | _ => none

def start : State Handle Display Thread where
  runtime := fun _ => none
  displays := fun _ => none
  returned := fun _ => false
  result := fun _ => none
  threads := fun _ => .idle

def registrySystem : System (State Handle Display Thread) (Label Handle Display Thread) where
  Initial st := st = start
  step := step

end

section

variable {Handle : Type u} {Display : Type v} {Thread : Type w}

def State.Quiet (st : State Handle Display Thread) : Prop := ∀ t, st.threads t = .idle

/-- The registry names exactly the returned displays that are still referenced. -/
def Exact (st : State Handle Display Thread) : Prop :=
  ∀ type handle d, st.runtime (type, handle) = some d ↔
    st.returned d = true ∧ ∃ x, st.displays d = some x ∧ x.type = type ∧
      x.nativeHandle = handle ∧ x.reference ≠ 0

/-- What the registry promises: a returned display stays registered while it is
referenced, whatever the calls in progress do, and when none is in progress
nothing else is registered. -/
structure Registered (st : State Handle Display Thread) : Prop where
  kept : ∀ d x, st.displays d = some x → st.returned d = true → x.reference ≠ 0 →
    st.runtime x.key = some d
  exact : st.Quiet → Exact st

/-- `__tpl_runtime_remove_display` finds under the key of its display nothing, the
display itself, or one whose count has dropped to 0 already. -/
def RemovesOwn (st : State Handle Display Thread) : Label Handle Display Thread → Prop
  | .removeDisplay t => ∀ d x, st.threads t = .removeDisplay d → st.displays d = some x →
      ∀ e, st.runtime x.key = some e → e = d ∨ ∀ y, st.displays e = some y → y.reference = 0
  | _ => True

theorem findDisplay_eq_some {st : State Handle Display Thread} {type : Option TplBackend}
    {nativeDpy : Handle} {d : Display} (h : st.findDisplay type nativeDpy = some d) :
    ∃ type, st.runtime (type, nativeDpy) = some d := by
  cases type with
  | some type => exact ⟨type, h⟩
  | none =>
      obtain ⟨type, -, hentry⟩ := List.exists_of_findSome?_eq_some h
      exact ⟨type, hentry⟩

/-- The life of one display: it is created by one thread, then registered under
its key for as long as it is referenced, and may stay registered until the
thread that dropped the last reference has removed it. -/
structure InvAt (st : State Handle Display Thread) (d : Display) : Prop where
  entry : ∀ key, st.runtime key = some d →
    st.returned d = true ∧ ∃ x, st.displays d = some x ∧ x.key = key
  kept : ∀ x, st.displays d = some x → st.returned d = true → x.reference ≠ 0 →
    st.runtime x.key = some d
  leaving : ∀ key x, st.runtime key = some d → st.displays d = some x → x.reference = 0 →
    ∃ t, (st.threads t).duty = some (.remove d)
  creating : ∀ t, (st.threads t).duty = some (.create d) →
    st.returned d = false ∧ ∃ x, st.displays d = some x ∧ x.reference = 1
  alone : ∀ t t', (st.threads t).duty = some (.create d) →
    (st.threads t').duty = some (.create d) → t = t'
  dropping : ∀ t, (st.threads t).duty = some (.drop d) → st.returned d = true
  removing : ∀ t, (st.threads t).duty = some (.remove d) →
    ∃ x, st.displays d = some x ∧ x.reference = 0
  allocated : st.returned d = true → st.displays d ≠ none

def Inv (st : State Handle Display Thread) : Prop := ∀ d, InvAt st d

theorem inv_start : Inv (start : State Handle Display Thread) :=
  fun _ => ⟨nofun, nofun, nofun, nofun, nofun, nofun, nofun, nofun⟩

theorem Inv.registered {st : State Handle Display Thread} (h : Inv st) : Registered st := by
  refine ⟨fun d => (h d).kept, fun hquiet type handle d => ⟨fun hentry => ?_, ?_⟩⟩
  · obtain ⟨hreturned, x, hx, hkey⟩ := (h d).entry _ hentry
    cases hkey
    refine ⟨hreturned, x, hx, rfl, rfl, fun hzero => ?_⟩
    obtain ⟨t, ht⟩ := (h d).leaving _ _ hentry hx hzero
    rw [hquiet t] at ht
    cases ht
  · rintro ⟨hreturned, x, hx, rfl, rfl, hzero⟩
    exact (h d).kept x hx hreturned hzero

/-- Two states agree on a display and on the duties towards it. -/
structure SameAt (st st' : State Handle Display Thread) (d : Display) : Prop where
  displays : st'.displays d = st.displays d
  returned : st'.returned d = st.returned d
  runtime : ∀ key, st'.runtime key = some d ↔ st.runtime key = some d
  duty : ∀ t duty, duty.display = d →
    ((st'.threads t).duty = some duty ↔ (st.threads t).duty = some duty)

theorem SameAt.trans {st st' st'' : State Handle Display Thread} {d : Display}
    (h : SameAt st st' d) (h' : SameAt st' st'' d) : SameAt st st'' d :=
  ⟨h'.displays.trans h.displays, h'.returned.trans h.returned,
    fun key => (h'.runtime key).trans (h.runtime key),
    fun t duty hd => (h'.duty t duty hd).trans (h.duty t duty hd)⟩

theorem InvAt.same {st st' : State Handle Display Thread} {d : Display} (h : InvAt st d)
    (hsame : SameAt st st' d) : InvAt st' d := by
  obtain ⟨hdisplays, hreturned, hruntime, hduty⟩ := hsame
  refine ⟨?_, ?_, ?_, ?_, ?_, ?_, ?_, ?_⟩
  · simp only [hruntime, hdisplays, hreturned]
    exact h.entry
  · simp only [hruntime, hdisplays, hreturned]
    exact h.kept
  · simp only [hruntime, hdisplays, hduty _ (.remove d) rfl]
    exact h.leaving
  · simp only [hdisplays, hreturned, hduty _ (.create d) rfl]
    exact h.creating
  · simp only [hduty _ (.create d) rfl]
    exact h.alone
  · simp only [hreturned, hduty _ (.drop d) rfl]
    exact h.dropping
  · simp only [hdisplays, hduty _ (.remove d) rfl]
    exact h.removing
  · rw [hdisplays, hreturned]
    exact h.allocated

section

variable [DecidableEq Thread]

@[simp] theorem threads_setThread_self (st : State Handle Display Thread) (t : Thread)
    (pc : Pc Handle Display) : (st.setThread t pc).threads t = pc := by
  simp [State.setThread]

theorem threads_setThread_of_ne (st : State Handle Display Thread) {t t' : Thread}
    (hne : t' ≠ t) (pc : Pc Handle Display) :
    (st.setThread t pc).threads t' = st.threads t' := by
  simp [State.setThread, hne]

theorem duty_setThread {st : State Handle Display Thread} {t t' : Thread}
    {pc : Pc Handle Display} {duty : Duty Display}
    (h : ((st.setThread t pc).threads t').duty = some duty) :
    t' = t ∧ pc.duty = some duty ∨ t' ≠ t ∧ (st.threads t').duty = some duty := by
  by_cases hne : t' = t
  · rw [hne, threads_setThread_self] at h
    exact .inl ⟨hne, h⟩
  · rw [threads_setThread_of_ne st hne] at h
    exact .inr ⟨hne, h⟩

theorem sameAt_setThread {st : State Handle Display Thread} {t : Thread}
    {pc : Pc Handle Display} {d : Display}
    (hold : ∀ duty, (st.threads t).duty = some duty → duty.display ≠ d)
    (hnew : ∀ duty, pc.duty = some duty → duty.display ≠ d) :
    SameAt st (st.setThread t pc) d := by
  refine ⟨rfl, rfl, fun _ => Iff.rfl, fun t' duty hd => ?_⟩
  by_cases hne : t' = t
  · rw [hne, threads_setThread_self]
    exact iff_of_false (fun h => hnew _ h hd) fun h => hold _ h hd
  · rw [threads_setThread_of_ne st hne]

theorem sameAt_setThread_of_duty {st : State Handle Display Thread} {t : Thread}
    {pc : Pc Handle Display} (hpc : pc.duty = (st.threads t).duty) (d : Display) :
    SameAt st (st.setThread t pc) d := by
  refine ⟨rfl, rfl, fun _ => Iff.rfl, fun t' duty _ => ?_⟩
  by_cases hne : t' = t
  · rw [hne, threads_setThread_self, hpc]
  · rw [threads_setThread_of_ne st hne]

theorem sameAt_return {st : State Handle Display Thread} {t : Thread}
    (result : Option Display) {d : Display}
    (hold : ∀ duty, (st.threads t).duty = some duty → duty.display ≠ d) :
    SameAt st (st.return t result) d := by
  have hresult : SameAt st { st with result := Function.update st.result t result } d :=
    ⟨rfl, rfl, fun _ => Iff.rfl, fun _ _ _ => Iff.rfl⟩
  exact hresult.trans (sameAt_setThread hold nofun)

theorem Inv.setThread {st : State Handle Display Thread} (h : Inv st) {t : Thread}
    {pc : Pc Handle Display} (hpc : pc.duty = (st.threads t).duty) : Inv (st.setThread t pc) :=
  fun d => (h d).same (sameAt_setThread_of_duty hpc d)

theorem Inv.return {st : State Handle Display Thread} (h : Inv st) {t : Thread}
    (result : Option Display) (hpc : (st.threads t).duty = none) : Inv (st.return t result) := by
  refine fun d => (h d).same (sameAt_return result fun duty hduty => ?_)
  rw [hpc] at hduty
  cases hduty

end

section

variable [DecidableEq Display]

@[simp] theorem displays_setDisplay_self (st : State Handle Display Thread) (d : Display)
    (x : TplDisplay Handle) : (st.setDisplay d x).displays d = some x := by
  simp [State.setDisplay]

theorem sameAt_setDisplay (st : State Handle Display Thread) {d e : Display} (hne : e ≠ d)
    (x : TplDisplay Handle) : SameAt st (st.setDisplay d x) e :=
  ⟨Function.update_of_ne hne _ _, rfl, fun _ => Iff.rfl, fun _ _ _ => Iff.rfl⟩

theorem Inv.setReference {st : State Handle Display Thread} (h : Inv st) {d : Display}
    {x : TplDisplay Handle} {n : Nat} (hx : st.displays d = some x)
    (hreturned : st.returned d = true) (hpos : x.reference ≠ 0) (hn : n ≠ 0) :
    Inv (st.setDisplay d { x with reference := n }) := by
  intro e
  by_cases he : e = d
  · subst he
    refine ⟨?_, ?_, ?_, ?_, (h e).alone, (h e).dropping, ?_, ?_⟩
    · intro key hentry
      obtain ⟨-, y, hy, hkey⟩ := (h e).entry key hentry
      rw [hx] at hy
      cases hy
      exact ⟨hreturned, _, displays_setDisplay_self st e _, hkey⟩
    · rintro y hy - -
      rw [displays_setDisplay_self] at hy
      cases hy
      exact (h e).kept x hx hreturned hpos
    · intro key y hentry hy hzero
      rw [displays_setDisplay_self] at hy
      cases hy
      exact absurd hzero hn
    · intro t ht
      have hfresh := ((h e).creating t ht).1
      rw [hreturned] at hfresh
      cases hfresh
    · intro t ht
      obtain ⟨y, hy, hzero⟩ := (h e).removing t ht
      rw [hx] at hy
      cases hy
      exact absurd hzero hpos
    · rw [displays_setDisplay_self]
      exact nofun
  · exact (h e).same (sameAt_setDisplay st he _)

theorem Inv.setHandle {st : State Handle Display Thread} (h : Inv st) {t : Thread}
    {d : Display} {x : TplDisplay Handle} (ht : (st.threads t).duty = some (.create d))
    (hx : st.displays d = some x) (nativeHandle : Handle) :
    Inv (st.setDisplay d { x with nativeHandle := nativeHandle }) := by
  obtain ⟨hunreturned, x', hx', hone⟩ := (h d).creating t ht
  rw [hx] at hx'
  cases hx'
  intro e
  by_cases he : e = d
  · subst he
    have hnoentry : ∀ key, st.runtime key ≠ some e := by
      intro key hentry
      cases hunreturned.symm.trans ((h e).entry key hentry).1
    refine ⟨fun key hentry => absurd hentry (hnoentry key), ?_,
      fun key _ hentry => absurd hentry (hnoentry key), ?_, (h e).alone, (h e).dropping, ?_, ?_⟩
    · intro y _ hreturned
      cases hunreturned.symm.trans hreturned
    · exact fun t' _ => ⟨hunreturned, _, displays_setDisplay_self st e _, hone⟩
    · intro t' ht'
      obtain ⟨y, hy, hzero⟩ := (h e).removing t' ht'
      rw [hx] at hy
      cases hy
      rw [hone] at hzero
      cases hzero
    · rw [displays_setDisplay_self]
      exact nofun
  · exact (h e).same (sameAt_setDisplay st he _)

end

end

section

variable {Handle : Type u} {Display : Type v} {Thread : Type w} [DecidableEq Handle]
  [DecidableEq Thread]

theorem Inv.unregister {st : State Handle Display Thread} (h : Inv st) {t : Thread}
    {d : Display} {x : TplDisplay Handle} (ht : st.threads t = .removeDisplay d)
    (hx : st.displays d = some x)
    (hown : ∀ e, st.runtime x.key = some e →
      e = d ∨ ∀ y, st.displays e = some y → y.reference = 0) :
    Inv ({ st with runtime := Function.update st.runtime x.key none }.setThread t .idle) := by
  have hduty : (st.threads t).duty = some (.remove d) := by rw [ht]; rfl
  obtain ⟨x', hx', hzero⟩ := (h d).removing t hduty
  rw [hx] at hx'
  cases hx'
  have hkept : ∀ key e, Function.update st.runtime x.key none key = some e →
      key ≠ x.key ∧ st.runtime key = some e := by
    intro key e hentry
    by_cases hkey : key = x.key
    · rw [hkey, Function.update_self] at hentry
      cases hentry
    · exact ⟨hkey, by rwa [Function.update_of_ne hkey] at hentry⟩
  intro e
  refine ⟨?_, ?_, ?_, ?_, ?_, ?_, ?_, (h e).allocated⟩
  · exact fun key hentry => (h e).entry key (hkept key e hentry).2
  · intro y hy hreturned hpos
    have hentry : st.runtime y.key = some e := (h e).kept y hy hreturned hpos
    have hkey : y.key ≠ x.key := by
      intro heq
      rw [heq] at hentry
      obtain rfl | hdead := hown e hentry
      · cases hx.symm.trans hy
        exact hpos hzero
      · exact hpos (hdead y hy)
    exact (Function.update_of_ne hkey _ _).trans hentry
  · intro key y hentry hy hzero'
    obtain ⟨hkey, hentry'⟩ := hkept key e hentry
    obtain ⟨t', ht'⟩ := (h e).leaving key y hentry' hy hzero'
    refine ⟨t', ?_⟩
    rwa [threads_setThread_of_ne]
    rintro rfl
    cases hduty.symm.trans ht'
    obtain ⟨-, y', hy', hkey'⟩ := (h d).entry key hentry'
    cases hx.symm.trans hy'
    exact hkey hkey'.symm
  · intro t' ht'
    obtain ⟨-, ⟨⟩⟩ | ⟨-, ht'⟩ := duty_setThread ht'
    exact (h e).creating t' ht'
  · intro t' t'' ht' ht''
    obtain ⟨-, ⟨⟩⟩ | ⟨-, ht'⟩ := duty_setThread ht'
    obtain ⟨-, ⟨⟩⟩ | ⟨-, ht''⟩ := duty_setThread ht''
    exact (h e).alone t' t'' ht' ht''
  · intro t' ht'
    obtain ⟨-, ⟨⟩⟩ | ⟨-, ht'⟩ := duty_setThread ht'
    exact (h e).dropping t' ht'
  · intro t' ht'
    obtain ⟨-, ⟨⟩⟩ | ⟨-, ht'⟩ := duty_setThread ht'
    exact (h e).removing t' ht'

end

section

variable {Handle : Type u} {Display : Type v} {Thread : Type w} [DecidableEq Display]
  [DecidableEq Thread]

theorem Inv.alloc {st : State Handle Display Thread} (h : Inv st) {t : Thread} {d : Display}
    {x : TplDisplay Handle} (hfresh : st.displays d = none)
    (hduty : (st.threads t).duty = none) (hx : x.reference = 1) :
    Inv ((st.setDisplay d x).setThread t (.initBackend d)) := by
  have hunreturned : st.returned d = false := by
    by_contra hne
    exact (h d).allocated (by simpa using hne) hfresh
  have hnobody : ∀ t', (st.threads t').duty ≠ some (.create d) := by
    intro t' ht'
    obtain ⟨-, y, hy, -⟩ := (h d).creating t' ht'
    rw [hfresh] at hy
    cases hy
  intro e
  by_cases he : e = d
  · subst he
    refine ⟨?_, ?_, ?_, ?_, ?_, ?_, ?_, ?_⟩
    · intro key hentry
      obtain ⟨-, y, hy, -⟩ := (h e).entry key hentry
      rw [hfresh] at hy
      cases hy
    · intro y _ hreturned
      cases hunreturned.symm.trans hreturned
    · intro key y hentry
      obtain ⟨-, y', hy', -⟩ := (h e).entry key hentry
      rw [hfresh] at hy'
      cases hy'
    · exact fun t' _ => ⟨hunreturned, x, displays_setDisplay_self st e x, hx⟩
    · intro t' t'' ht' ht''
      obtain ⟨rfl, -⟩ | ⟨-, ht'⟩ := duty_setThread ht'
      · obtain ⟨rfl, -⟩ | ⟨-, ht''⟩ := duty_setThread ht''
        · rfl
        · exact absurd ht'' (hnobody t'')
      · exact absurd ht' (hnobody t')
    · intro t' ht'
      obtain ⟨-, ⟨⟩⟩ | ⟨-, ht'⟩ := duty_setThread ht'
      exact (h e).dropping t' ht'
    · intro t' ht'
      obtain ⟨-, ⟨⟩⟩ | ⟨-, ht'⟩ := duty_setThread ht'
      obtain ⟨y, hy, -⟩ := (h e).removing t' ht'
      rw [hfresh] at hy
      cases hy
    · intro _
      rw [show ((st.setDisplay e x).setThread t (.initBackend e)).displays e = some x from
        displays_setDisplay_self st e x]
      exact nofun
  · refine (h e).same ((sameAt_setDisplay st he x).trans (sameAt_setThread ?_ ?_))
    · intro duty hd
      cases hduty.symm.trans hd
    · rintro duty ⟨⟩
      exact fun hd => he hd.symm

theorem Inv.dropLast {st : State Handle Display Thread} (h : Inv st) {t : Thread}
    {d : Display} {x : TplDisplay Handle} (hx : st.displays d = some x)
    (ht : (st.threads t).duty = some (.create d) ∨ (st.threads t).duty = some (.drop d)) :
    Inv ((st.setDisplay d { x with reference := 0 }).setThread t (.removeDisplay d)) := by
  have hnotcreating : ∀ t', t' ≠ t → (st.threads t').duty ≠ some (.create d) := by
    intro t' hne ht'
    cases ht with
    | inl ht => exact hne ((h d).alone t' t ht' ht)
    | inr ht => cases ((h d).creating t' ht').1.symm.trans ((h d).dropping t ht)
  intro e
  by_cases he : e = d
  · subst he
    refine ⟨?_, ?_, ?_, ?_, ?_, ?_, ?_, ?_⟩
    · intro key hentry
      obtain ⟨hreturned, y, hy, hkey⟩ := (h e).entry key hentry
      rw [hx] at hy
      cases hy
      exact ⟨hreturned, _, displays_setDisplay_self st e _, hkey⟩
    · intro y hy _ hzero
      cases (displays_setDisplay_self st e _).symm.trans hy
      exact absurd rfl hzero
    · exact fun _ _ _ _ _ => ⟨t, by rw [threads_setThread_self]; rfl⟩
    · intro t' ht'
      obtain ⟨-, ⟨⟩⟩ | ⟨hne, ht'⟩ := duty_setThread ht'
      exact absurd ht' (hnotcreating t' hne)
    · intro t' _ ht'
      obtain ⟨-, ⟨⟩⟩ | ⟨hne, ht'⟩ := duty_setThread ht'
      exact absurd ht' (hnotcreating t' hne)
    · intro t' ht'
      obtain ⟨-, ⟨⟩⟩ | ⟨-, ht'⟩ := duty_setThread ht'
      exact (h e).dropping t' ht'
    · exact fun _ _ => ⟨_, displays_setDisplay_self st e _, rfl⟩
    · exact fun _ hnone => nomatch (displays_setDisplay_self st e _).symm.trans hnone
  · refine (h e).same ((sameAt_setDisplay st he _).trans (sameAt_setThread ?_ ?_))
    · rintro duty hd rfl
      cases ht with
      | inl ht =>
          cases ht.symm.trans hd
          exact he rfl
      | inr ht =>
          cases ht.symm.trans hd
          exact he rfl
    · rintro duty ⟨⟩
      exact fun hd => he hd.symm

theorem Inv.setThread_drop {st : State Handle Display Thread} (h : Inv st) {t : Thread}
    {pc : Pc Handle Display} {d : Display} (hreturned : st.returned d = true)
    (hold : ∀ duty, (st.threads t).duty = some duty → duty = .drop d)
    (hnew : ∀ duty, pc.duty = some duty → duty = .drop d) : Inv (st.setThread t pc) := by
  intro e
  by_cases he : e = d
  · subst he
    refine ⟨(h e).entry, (h e).kept, ?_, ?_, ?_, fun _ _ => hreturned, ?_, (h e).allocated⟩
    · intro key y hentry hy hzero
      obtain ⟨t', ht'⟩ := (h e).leaving key y hentry hy hzero
      refine ⟨t', ?_⟩
      rwa [threads_setThread_of_ne]
      rintro rfl
      cases hold _ ht'
    · intro t' ht'
      obtain ⟨-, hpc⟩ | ⟨-, ht'⟩ := duty_setThread ht'
      · cases hnew _ hpc
      · exact (h e).creating t' ht'
    · intro t' t'' ht' ht''
      obtain ⟨-, hpc⟩ | ⟨-, ht'⟩ := duty_setThread ht'
      · cases hnew _ hpc
      · obtain ⟨-, hpc⟩ | ⟨-, ht''⟩ := duty_setThread ht''
        · cases hnew _ hpc
        · exact (h e).alone t' t'' ht' ht''
    · intro t' ht'
      obtain ⟨-, hpc⟩ | ⟨-, ht'⟩ := duty_setThread ht'
      · cases hnew _ hpc
      · exact (h e).removing t' ht'
  · refine (h e).same (sameAt_setThread (fun duty hd => ?_) fun duty hd => ?_)
    · rw [hold duty hd]
      exact fun heq => he heq.symm
    · rw [hnew duty hd]
      exact fun heq => he heq.symm

theorem Inv.unreference {st st' : State Handle Display Thread} (h : Inv st) {t : Thread}
    {d : Display} (ht : (st.threads t).duty = some (.create d) ∨
      (st.threads t).duty = some (.drop d)) (hstep : st.unreference t d = some st') : Inv st' := by
  rw [State.unreference] at hstep
  cases hx : st.displays d with
  | none =>
      rw [hx] at hstep
      cases hstep
  | some x =>
      rw [hx] at hstep
      have hdrop : x.reference ≠ 1 → (st.threads t).duty = some (.drop d) := by
        intro hone
        refine ht.resolve_left fun ht => ?_
        obtain ⟨-, y, hy, hy'⟩ := (h d).creating t ht
        cases hx.symm.trans hy
        exact hone hy'
      have hold : x.reference ≠ 1 →
          ∀ duty, (st.threads t).duty = some duty → duty = .drop d := by
        intro hone duty hd
        cases (hdrop hone).symm.trans hd
        rfl
      dsimp only at hstep
      split at hstep
      · rename_i hzero
        cases hstep
        have hone : x.reference ≠ 1 := by omega
        exact h.setThread_drop ((h d).dropping t (hdrop hone)) (hold hone) nofun
      · cases hstep
        exact h.dropLast hx ht
      · rename_i n hpos hn
        cases hstep
        have hone : x.reference ≠ 1 := fun heq => hpos (by omega)
        have hreturned : st.returned d = true := (h d).dropping t (hdrop hone)
        have hdecrement := h.setReference hx hreturned (by omega) (fun heq => hpos heq)
        exact hdecrement.setThread_drop hreturned (hold hone) nofun

variable [DecidableEq Handle]

theorem Inv.register {st : State Handle Display Thread} (h : Inv st) {t : Thread}
    {d : Display} {x : TplDisplay Handle} (ht : (st.threads t).duty = some (.create d))
    (hx : st.displays d = some x) (hfree : st.runtime x.key = none) :
    Inv ({ st with
      runtime := Function.update st.runtime x.key (some d)
      returned := Function.update st.returned d true }.return t (some d)) := by
  obtain ⟨hunreturned, x', hx', hone⟩ := (h d).creating t ht
  rw [hx] at hx'
  cases hx'
  intro e
  by_cases he : e = d
  · subst he
    have hkey : ∀ key, Function.update st.runtime x.key (some e) key = some e → x.key = key := by
      intro key hentry
      by_contra hne
      rw [Function.update_of_ne (Ne.symm hne)] at hentry
      cases hunreturned.symm.trans ((h e).entry key hentry).1
    have hothers : ∀ t', t' ≠ t → (st.threads t').duty ≠ some (.create e) :=
      fun t' hne ht' => hne ((h e).alone t' t ht' ht)
    refine ⟨?_, ?_, ?_, ?_, ?_, ?_, ?_, ?_⟩
    · exact fun key hentry => ⟨Function.update_self .., x, hx, hkey key hentry⟩
    · intro y hy _ _
      cases hx.symm.trans hy
      exact Function.update_self ..
    · intro key y _ hy hzero
      cases hx.symm.trans hy
      cases hone.symm.trans hzero
    · intro t' ht'
      obtain ⟨-, ⟨⟩⟩ | ⟨hne, ht'⟩ := duty_setThread ht'
      exact absurd ht' (hothers t' hne)
    · intro t' _ ht'
      obtain ⟨-, ⟨⟩⟩ | ⟨hne, ht'⟩ := duty_setThread ht'
      exact absurd ht' (hothers t' hne)
    · exact fun _ _ => Function.update_self ..
    · intro t' ht'
      obtain ⟨-, ⟨⟩⟩ | ⟨-, ht'⟩ := duty_setThread ht'
      exact (h e).removing t' ht'
    · exact fun _ hnone => nomatch hx.symm.trans hnone
  · have hregister : SameAt st { st with
        runtime := Function.update st.runtime x.key (some d)
        returned := Function.update st.returned d true } e := by
      refine ⟨rfl, Function.update_of_ne he _ _, fun key => ?_, fun _ _ _ => Iff.rfl⟩
      by_cases hkey : key = x.key
      · rw [hkey, hfree]
        exact iff_of_false (fun heq => he (by simpa using heq.symm)) nofun
      · exact iff_of_eq (congrArg (· = some e) (Function.update_of_ne hkey _ _))
    refine (h e).same (hregister.trans (sameAt_return _ fun duty hd => ?_))
    cases ht.symm.trans hd
    exact fun hd => he hd.symm

theorem inv_step {st st' : State Handle Display Thread} {l : Label Handle Display Thread}
    (h : Inv st) (hallowed : RemovesOwn st l) (hstep : step st l = some st') : Inv st' := by
  cases l with
  | displayCreate t type nativeDpy =>
      simp only [step] at hstep
      split at hstep
      · rename_i hpc
        cases hstep
        exact h.setThread (by rw [hpc]; rfl)
      · cases hstep
  | createFind t =>
      simp only [step] at hstep
      split at hstep
      · rename_i type nativeDpy hpc
        split at hstep
        · rename_i d hfind
          cases hstep
          obtain ⟨type, hentry⟩ := findDisplay_eq_some hfind
          have hreturned : Function.update st.returned d true = st.returned := by
            rw [← ((h d).entry _ hentry).1, Function.update_eq_self]
          rw [hreturned]
          exact h.return (some d) (by rw [hpc]; rfl)
        · cases hstep
          exact h.setThread (by rw [hpc]; rfl)
      · cases hstep
  | createAlloc t chosen allocated =>
      simp only [step] at hstep
      split at hstep
      · rename_i type nativeDpy hpc
        split at hstep
        · split at hstep
          · rename_i hfresh
            cases hstep
            exact h.alloc hfresh (by rw [hpc]; rfl) rfl
          · cases hstep
        · cases hstep
          exact h.return none (by rw [hpc]; rfl)
      · cases hstep
  | initBackend t ok nativeHandle =>
      simp only [step] at hstep
      split at hstep
      · rename_i d hpc
        split at hstep
        · rename_i x hx
          cases hstep
          have hduty : (st.threads t).duty = some (.create d) := by rw [hpc]; rfl
          refine (h.setHandle hduty hx nativeHandle).setThread ?_
          show _ = (st.threads t).duty
          rw [hduty]
          cases ok with
          | false => rfl
          | true => rfl
        · cases hstep
      · cases hstep
  | addDisplay t ok =>
      simp only [step] at hstep
      split at hstep
      · rename_i d hpc
        split at hstep
        · rename_i x hx
          split at hstep
          · rename_i hfree
            cases hstep
            exact h.register (by rw [hpc]; rfl) hx hfree.2
          · cases hstep
            exact h.setThread (by rw [hpc]; rfl)
        · cases hstep
      · cases hstep
  | displayGet t nativeDpy =>
      simp only [step] at hstep
      split at hstep
      · rename_i hpc
        cases hstep
        exact h.setThread (by rw [hpc]; rfl)
      · cases hstep
  | getFind t =>
      simp only [step] at hstep
      split at hstep
      · rename_i nativeDpy hpc
        cases hstep
        exact h.return _ (by rw [hpc]; rfl)
      · cases hstep
  | objectReference t d =>
      simp only [step] at hstep
      split at hstep
      · rename_i x _ hreturned hx
        split at hstep
        · cases hstep
          exact h
        · rename_i hpos
          cases hstep
          exact h.setReference hx hreturned hpos (Nat.succ_ne_zero _)
      · cases hstep
  | objectUnreference t d =>
      simp only [step] at hstep
      split at hstep
      · rename_i hpc hreturned
        cases hstep
        refine h.setThread_drop hreturned (fun duty hd => ?_) fun duty hd => ?_
        · rw [hpc] at hd
          cases hd
        · cases hd
          rfl
      · cases hstep
  | unreference t =>
      simp only [step] at hstep
      split at hstep
      · rename_i d hpc
        exact h.unreference (.inr (by rw [hpc]; rfl)) hstep
      · rename_i d hpc
        have hresult : Inv { st with result := Function.update st.result t none } :=
          fun e => (h e).same ⟨rfl, rfl, fun _ => Iff.rfl, fun _ _ _ => Iff.rfl⟩
        refine hresult.unreference (.inl ?_) hstep
        show (st.threads t).duty = _
        rw [hpc]
        rfl
      · cases hstep
  | removeDisplay t =>
      simp only [step] at hstep
      split at hstep
      · rename_i d hpc
        split at hstep
        · rename_i x hx
          cases hstep
          exact h.unregister hpc hx (hallowed d x hpc hx)
        · cases hstep
      · cases hstep

theorem removesOwn_of_registered {st st' : State Handle Display Thread}
    {l : Label Handle Display Thread} (h : Inv st) (hstep : step st l = some st')
    (hregistered : Registered st') : RemovesOwn st l := by
  cases l with
  | removeDisplay t =>
      intro d x hpc hx e hentry
      by_contra hother
      simp only [step, hpc, hx] at hstep
      cases hstep
      obtain ⟨hreturned, y, hy, hkey⟩ := (h e).entry _ hentry
      have hpos : y.reference ≠ 0 := by
        intro hzero
        refine hother (.inr fun y' hy' => ?_)
        cases hy.symm.trans hy'
        exact hzero
      have hkept := hregistered.kept e y hy hreturned hpos
      have hgone : Function.update st.runtime x.key none y.key = some e := hkept
      rw [hkey, Function.update_self] at hgone
      cases hgone
  | _ => trivial

/-- The registry keeps its promise in exactly the runs in which no removal
deletes the entry of another display that is still referenced. -/
theorem registered_iff (ls : List (Label Handle Display Thread))
    (st : State Handle Display Thread) (hrun : registrySystem.run start ls = some st) :
    registrySystem.Always Registered start ls ↔ registrySystem.EveryStep RemovesOwn start ls := by
  refine System.always_iff_everyStep inv_start hrun ?_ ?_ ?_
  · intro _ _ _ hinv hallowed hstep
    exact inv_step hinv hallowed hstep
  · intro _ hinv
    exact hinv.registered
  · intro _ _ _ hinv hstep hregistered
    exact removesOwn_of_registered hinv hstep hregistered

def createThenUnreference : List (Label Nat Nat Unit) :=
  [.displayCreate () (some .tbm) 0, .createFind (), .createAlloc () none (some 1),
    .initBackend () true 7, .addDisplay () true, .objectUnreference () 1, .unreference (),
    .removeDisplay ()]

theorem registered_create_then_unreference :
    ∃ st, registrySystem.run start createThenUnreference = some st ∧
      (registrySystem.Always Registered start createThenUnreference ↔
        registrySystem.EveryStep RemovesOwn start createThenUnreference) := by
  obtain ⟨st, hrun, -⟩ := registrySystem.exists_of_run (fun st => st.threads () = .idle)
    start createThenUnreference (by decide)
  exact ⟨st, hrun, registered_iff _ st hrun⟩

/-- The tbm display of `NULL` is created twice: the second add finds the buffer
manager's key taken, and the cleanup deletes the first display's entry. -/
def createTwice : List (Label Nat Nat Unit) :=
  [.displayCreate () (some .tbm) 0, .createFind (), .createAlloc () none (some 1),
    .initBackend () true 7, .addDisplay () true, .displayCreate () (some .tbm) 0,
    .createFind (), .createAlloc () none (some 2), .initBackend () true 7, .addDisplay () true,
    .unreference (), .removeDisplay ()]

/-- The first display is then referenced and no longer found. -/
theorem not_exact :
    ¬ ∀ st : State Nat Nat Unit, registrySystem.Reachable st → st.Quiet → Exact st := by
  intro hall
  obtain ⟨st, hrun, hquiet, hdisplay, hreturned, hnone⟩ := registrySystem.exists_of_run
    (fun st => st.threads () = .idle ∧ st.displays 1 = some ⟨.tbm, 7, 1⟩ ∧
      st.returned 1 = true ∧ st.runtime (.tbm, 7) = none) start createTwice (by decide)
  have hentry : st.runtime (.tbm, 7) = some 1 :=
    (hall st (.of_run (.initial rfl) hrun) (fun _ => hquiet) .tbm 7 1).mpr
      ⟨hreturned, _, hdisplay, rfl, rfl, Nat.one_ne_zero⟩
  rw [hnone] at hentry
  cases hentry

end

end LibtplEgl.DisplayRegistry
