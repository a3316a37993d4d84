import LibtplEgl.DisplayRegistry
import Mathlib.Data.Fintype.Basic

namespace LibtplEgl.HandleLifetime

open LibtplEgl.DisplayRegistry
open LibtplEgl.LabelledSystem
open LibtplEgl.TplTypes

universe u v w x

structure TplSurface (Display : Type v) where
  display : Display
  reference : Nat
  deriving DecidableEq, Repr

/-- The displays, with a thread of the registry for each client, and the surfaces.
`displayHandles` and `surfaceHandles` have an entry for every successful create
whose client has not unreferenced the object since. -/
structure ClientState (Handle : Type u) (Display : Type v) (Surface : Type w)
    (Client : Type x) where
  registry : State Handle Display Client
  surfaces : Surface → Option (TplSurface Display)
  displayHandles : List (Client × Display)
  surfaceHandles : List (Client × Surface)

/-- The outcomes of what `tpl_display_create` calls for a display that is not found:
the backend chosen for an unknown type, the allocation, `backend.init` with the
handle it leaves in the display, and `__tpl_runtime_add_display`. -/
structure CreateOutcome (Handle : Type u) (Display : Type v) where
  chosen : Option TplBackend
  allocated : Option Display
  initBackend : Bool
  nativeHandle : Handle
  addDisplay : Bool
  deriving DecidableEq, Repr

/-- A call of a client. `created` is the surface that `tpl_surface_create` makes when
its allocation, its object and its backend can be initialized. -/
inductive Call (Handle : Type u) (Display : Type v) (Surface : Type w) (Client : Type x)
  | displayCreate (c : Client) (type : Option TplBackend) (nativeDpy : Handle)
      (out : CreateOutcome Handle Display)
  | surfaceCreate (c : Client) (d : Display) (created : Option Surface)
  | unreferenceDisplay (c : Client) (d : Display)
  | unreferenceSurface (c : Client) (s : Surface)
  deriving DecidableEq, Repr

section

variable {Handle : Type u} {Display : Type v} {Surface : Type w} {Client : Type x}

/-- The memory of the display has not been freed. -/
def LiveDisplay (registry : State Handle Display Client) (d : Display) : Prop :=
  ∃ x, registry.displays d = some x ∧ x.reference ≠ 0

/-- No display that a client has not released, and no display of a surface, is freed. -/
structure HandlesLive (st : ClientState Handle Display Surface Client) : Prop where
  clients : ∀ h ∈ st.displayHandles, LiveDisplay st.registry h.2
  surfaces : ∀ s x, st.surfaces s = some x → LiveDisplay st.registry x.display

variable [DecidableEq Handle] [DecidableEq Display] [DecidableEq Surface] [DecidableEq Client]

/-- The registry steps of `tpl_display_create` once it has allocated a display. -/
def initSteps (registry : State Handle Display Client) (c : Client) (type : TplBackend)
    (out : CreateOutcome Handle Display) : List (Label Handle Display Client) :=
  .initBackend c out.initBackend out.nativeHandle ::
    if out.initBackend = false then [.unreference c, .removeDisplay c]
    else .addDisplay c out.addDisplay ::
      if out.addDisplay = true ∧ registry.runtime (type, out.nativeHandle) = none then []
      else [.unreference c, .removeDisplay c]

/-- The registry steps of `tpl_display_create` after it has found no display. -/
def newDisplaySteps (registry : State Handle Display Client) (c : Client)
    (type : Option TplBackend) (out : CreateOutcome Handle Display) :
    List (Label Handle Display Client) :=
  .createAlloc c out.chosen out.allocated ::
    match type.or out.chosen, out.allocated with
    | some type, some _ => initSteps registry c type out
    | _, _ => []

/-- `tpl_display_create` without another call beside it. -/
def displayCreateSteps (registry : State Handle Display Client) (c : Client)
    (type : Option TplBackend) (nativeDpy : Handle) (out : CreateOutcome Handle Display) :
    List (Label Handle Display Client) :=
  [.displayCreate c type nativeDpy, .createFind c] ++
    match registry.findDisplay type nativeDpy with
    | some _ => []
    | none => newDisplaySteps registry c type out

/-- `tpl_object_unreference` on a display without another call beside it. -/
def unreferenceSteps (registry : State Handle Display Client) (c : Client) (d : Display) :
    List (Label Handle Display Client) :=
  [.objectUnreference c d, .unreference c] ++
    match registry.displays d with
    | some x => if x.reference = 1 then [.removeDisplay c] else []
    | none => []

/-- `tpl_object_unreference` on a surface: the last reference frees it. -/
def unreferenceSurface (x : TplSurface Display) : Option (TplSurface Display) :=
  if x.reference = 1 then none else some { x with reference := x.reference - 1 }

def clientStep (st : ClientState Handle Display Surface Client) :
    Call Handle Display Surface Client → Option (ClientState Handle Display Surface Client)
  | .displayCreate c type nativeDpy out =>
      (registrySystem.run st.registry (displayCreateSteps st.registry c type nativeDpy out)).map
        fun registry => { st with
          registry := registry
          displayHandles := match registry.result c with
            | some d => (c, d) :: st.displayHandles
            | none => st.displayHandles }
  | .surfaceCreate c d created =>
      if (c, d) ∈ st.displayHandles then
        match created with
        | none => some st
        | some s =>
            if st.surfaces s = none then
              some { st with
                surfaces := Function.update st.surfaces s (some ⟨d, 1⟩)
                surfaceHandles := (c, s) :: st.surfaceHandles }
            else none
      else none
  | .unreferenceDisplay c d =>
      if (c, d) ∈ st.displayHandles then
        (registrySystem.run st.registry (unreferenceSteps st.registry c d)).map
          fun registry => { st with
            registry := registry
            displayHandles := st.displayHandles.erase (c, d) }
      else none
  | .unreferenceSurface c s =>
      match st.surfaces s with
      | some x =>
          if (c, s) ∈ st.surfaceHandles then
            some { st with
              surfaces := Function.update st.surfaces s (unreferenceSurface x)
              surfaceHandles := st.surfaceHandles.erase (c, s) }
          else none
      | none => none

def noClients : ClientState Handle Display Surface Client where
  registry := start
  surfaces := fun _ => none
  displayHandles := []
  surfaceHandles := []

def clientSystem : System (ClientState Handle Display Surface Client)
    (Call Handle Display Surface Client) where
  Initial st := st = noClients
  step := clientStep

omit [DecidableEq Handle] [DecidableEq Surface] in
/-- A display is unreferenced when nobody else has it from a create and no surface
is on it. -/
def LastHandle (st : ClientState Handle Display Surface Client) :
    Call Handle Display Surface Client → Prop
  | .unreferenceDisplay c d =>
      (∀ h ∈ st.displayHandles.erase (c, d), h.2 ≠ d) ∧
        ∀ s, ∀ x ∈ st.surfaces s, x.display ≠ d
  | _ => True

end

section

variable {Handle : Type u} {Display : Type v} {Client : Type x}

/-- No call is in progress, a display has one reference or none, and the registry
names displays that are alive. -/
structure RegistryInv (registry : State Handle Display Client) : Prop where
  quiet : registry.Quiet
  single : ∀ d x, registry.displays d = some x → x.reference ≤ 1
  registered : ∀ key d, registry.runtime key = some d →
    ∃ x, registry.displays d = some x ∧ x.key = key ∧ x.reference ≠ 0

variable [DecidableEq Handle] [DecidableEq Display] [DecidableEq Client]

/-- What `tpl_display_create` leaves behind: it returns a registered display or none,
or discards the display that it has made, or registers and returns it. -/
inductive CreateEffect (registry registry' : State Handle Display Client) (c : Client) : Prop
  | unchanged (hdisplays : registry'.displays = registry.displays)
      (hruntime : registry'.runtime = registry.runtime)
      (hresult : ∀ d, registry'.result c = some d → ∃ key, registry.runtime key = some d)
  | discarded (d : Display) (x : TplDisplay Handle) (hzero : x.reference = 0)
      (hdisplays : registry'.displays = Function.update registry.displays d (some x))
      (hruntime : registry'.runtime = Function.update registry.runtime x.key none)
      (hfresh : registry.displays d = none) (hresult : registry'.result c = none)
  | registered (d : Display) (x : TplDisplay Handle) (hone : x.reference = 1)
      (hdisplays : registry'.displays = Function.update registry.displays d (some x))
      (hruntime : registry'.runtime = Function.update registry.runtime x.key (some d))
      (hfresh : registry.displays d = none) (hresult : registry'.result c = some d)

omit [DecidableEq Handle] [DecidableEq Display] in
theorem threads_back {registry : State Handle Display Client} {c : Client}
    (hidle : registry.threads c = .idle) (pc : Pc Handle Display) :
    Function.update (Function.update registry.threads c pc) c .idle = registry.threads := by
  rw [Function.update_idem, ← hidle, Function.update_eq_self]

theorem step_displayCreate {registry : State Handle Display Client} {c : Client}
    (hidle : registry.threads c = .idle) (type : Option TplBackend) (nativeDpy : Handle) :
    registrySystem.step registry (.displayCreate c type nativeDpy) =
      some (registry.setThread c (.createFind type nativeDpy)) := by
  simp only [registrySystem, step, hidle]

theorem run_found {registry : State Handle Display Client} {c : Client}
    (hidle : registry.threads c = .idle) {type : Option TplBackend} {nativeDpy : Handle}
    {d : Display} (hfind : registry.findDisplay type nativeDpy = some d)
    (out : CreateOutcome Handle Display) :
    registrySystem.run registry (displayCreateSteps registry c type nativeDpy out) = some
      { registry with
        returned := Function.update registry.returned d true
        result := Function.update registry.result c (some d) } := by
  have hfind' : (registry.setThread c (.createFind type nativeDpy)).findDisplay type nativeDpy =
      some d := hfind
  have hpc : (registry.setThread c (.createFind type nativeDpy)).threads c =
      .createFind type nativeDpy := Function.update_self _ _ _
  have hend : registrySystem.step (registry.setThread c (.createFind type nativeDpy))
      (.createFind c) = some { registry with
        returned := Function.update registry.returned d true
        result := Function.update registry.result c (some d) } := by
    simp only [registrySystem, step, hpc, hfind']
    simp only [State.return, State.setThread, threads_back hidle]
  simp only [displayCreateSteps, hfind, List.append_nil, System.run_cons,
    step_displayCreate hidle, hend, Option.bind_some, System.run_nil]

theorem run_notFound {registry : State Handle Display Client} {c : Client}
    (hidle : registry.threads c = .idle) {type : Option TplBackend} {nativeDpy : Handle}
    (hfind : registry.findDisplay type nativeDpy = none) (out : CreateOutcome Handle Display) :
    registrySystem.run registry (displayCreateSteps registry c type nativeDpy out) =
      registrySystem.run (registry.setThread c (.createAlloc type nativeDpy))
        (newDisplaySteps registry c type out) := by
  have hfind' : (registry.setThread c (.createFind type nativeDpy)).findDisplay type nativeDpy =
      none := hfind
  have hpc : (registry.setThread c (.createFind type nativeDpy)).threads c =
      .createFind type nativeDpy := Function.update_self _ _ _
  have hend : registrySystem.step (registry.setThread c (.createFind type nativeDpy))
      (.createFind c) = some (registry.setThread c (.createAlloc type nativeDpy)) := by
    simp only [registrySystem, step, hpc, hfind']
    simp only [State.setThread, Function.update_idem]
  simp only [displayCreateSteps, hfind, List.cons_append, List.nil_append, System.run_cons,
    step_displayCreate hidle, hend, Option.bind_some]

theorem run_unreference {registry : State Handle Display Client} {c : Client} {d : Display}
    {x : TplDisplay Handle}
    (hdrop : registry.threads c = .unreference d ∨ registry.threads c = .unreferenceFailed d)
    (hx : registry.displays d = some x) (hone : x.reference = 1) :
    ∃ result, registrySystem.run registry [.unreference c, .removeDisplay c] = some
      { registry with
        displays := Function.update registry.displays d (some { x with reference := 0 })
        runtime := Function.update registry.runtime x.key none
        result := result
        threads := Function.update registry.threads c .idle } ∧
      (registry.threads c = .unreferenceFailed d → result c = none) := by
  obtain ⟨type, handle, reference⟩ := x
  subst hone
  rcases hdrop with hpc | hpc
  · refine ⟨registry.result, ?_, by rw [hpc]; nofun⟩
    simp [System.run_cons, registrySystem, step, hpc, State.unreference, hx, State.setDisplay,
      State.setThread, TplDisplay.key]
  · refine ⟨Function.update registry.result c none, ?_, fun _ => Function.update_self _ _ _⟩
    simp [System.run_cons, registrySystem, step, hpc, State.unreference, hx, State.setDisplay,
      State.setThread, TplDisplay.key]

/-- The steps after the allocation discard the display `d` or register it. -/
def Finished (registry registry' : State Handle Display Client) (c : Client) (d : Display) :
    Prop :=
  registry'.threads = Function.update registry.threads c .idle ∧
    ∃ x : TplDisplay Handle, registry'.displays = Function.update registry.displays d (some x) ∧
      (x.reference = 0 ∧ registry'.runtime = Function.update registry.runtime x.key none ∧
          registry'.result c = none ∨
        x.reference = 1 ∧ registry'.runtime = Function.update registry.runtime x.key (some d) ∧
          registry'.result c = some d)

theorem finished_discard {registry r registry' : State Handle Display Client} {c : Client}
    {d : Display}
    (hrun : registrySystem.run r [.unreference c, .removeDisplay c] = some registry')
    (x : TplDisplay Handle) (hone : x.reference = 1) (hruntime : r.runtime = registry.runtime)
    (hthreads : r.threads = Function.update registry.threads c (.unreferenceFailed d))
    (hdisplays : r.displays = Function.update registry.displays d (some x)) :
    Finished registry registry' c d := by
  have hfailed : r.threads c = .unreferenceFailed d := by rw [hthreads, Function.update_self]
  have hx : r.displays d = some x := by rw [hdisplays, Function.update_self]
  obtain ⟨result, hlast, hresult⟩ := run_unreference (.inr hfailed) hx hone
  cases Option.some.inj (hlast.symm.trans hrun)
  refine ⟨by rw [hthreads, Function.update_idem], { x with reference := 0 }, ?_,
    .inl ⟨rfl, ?_, hresult hfailed⟩⟩
  · rw [hdisplays, Function.update_idem]
  · rw [hruntime]
    rfl

theorem finished_initSteps {registry registry' : State Handle Display Client} {c : Client}
    {d : Display} {type : TplBackend} {nativeDpy : Handle} {out : CreateOutcome Handle Display}
    (hpc : registry.threads c = .initBackend d)
    (hd : registry.displays d = some ⟨type, nativeDpy, 1⟩)
    (hrun : registrySystem.run registry (initSteps registry c type out) = some registry') :
    Finished registry registry' c d := by
  have hinit : registrySystem.step registry (.initBackend c out.initBackend out.nativeHandle) =
      some ((registry.setDisplay d ⟨type, out.nativeHandle, 1⟩).setThread c
        (if out.initBackend then .addDisplay d else .unreferenceFailed d)) := by
    simp only [registrySystem, step, hpc, hd]
  rw [initSteps, System.run_cons, hinit, Option.bind_some] at hrun
  cases hok : out.initBackend with
  | false =>
      simp only [hok, Bool.false_eq_true, if_false, if_true] at hrun
      exact finished_discard hrun ⟨type, out.nativeHandle, 1⟩ rfl rfl rfl rfl
  | true =>
      simp only [hok, Bool.true_eq_false, if_false, if_true, System.run_cons] at hrun
      have hadd : registrySystem.step ((registry.setDisplay d ⟨type, out.nativeHandle, 1⟩).setThread
          c (.addDisplay d)) (.addDisplay c out.addDisplay) =
          if out.addDisplay = true ∧ registry.runtime (type, out.nativeHandle) = none then
            some ({ (registry.setDisplay d ⟨type, out.nativeHandle, 1⟩).setThread c
                (.addDisplay d) with
              runtime := Function.update registry.runtime (type, out.nativeHandle) (some d)
              returned := Function.update registry.returned d true }.return c (some d))
          else some (((registry.setDisplay d ⟨type, out.nativeHandle, 1⟩).setThread c
            (.addDisplay d)).setThread c (.unreferenceFailed d)) := by
        simp [registrySystem, step, State.setThread, State.setDisplay, TplDisplay.key]
      rw [hadd] at hrun
      by_cases hfree : out.addDisplay = true ∧ registry.runtime (type, out.nativeHandle) = none
      · rw [if_pos hfree, if_pos hfree, Option.bind_some, System.run_nil] at hrun
        cases hrun
        refine ⟨Function.update_idem _ _ _, ⟨type, out.nativeHandle, 1⟩, rfl, .inr ⟨rfl, rfl, ?_⟩⟩
        exact Function.update_self _ _ _
      · rw [if_neg hfree, if_neg hfree, Option.bind_some] at hrun
        exact finished_discard hrun ⟨type, out.nativeHandle, 1⟩ rfl rfl
          (Function.update_idem _ _ _) rfl

theorem newDisplay_effect {registry registry' : State Handle Display Client} {c : Client}
    (hidle : registry.threads c = .idle) {type : Option TplBackend} {nativeDpy : Handle}
    {out : CreateOutcome Handle Display}
    (hrun : registrySystem.run (registry.setThread c (.createAlloc type nativeDpy))
      (newDisplaySteps registry c type out) = some registry') :
    CreateEffect registry registry' c ∧ registry'.threads = registry.threads := by
  have hpc : (registry.setThread c (.createAlloc type nativeDpy)).threads c =
      .createAlloc type nativeDpy := Function.update_self _ _ _
  have hfailed : registrySystem.run ((registry.setThread c (.createAlloc type nativeDpy)).return
      c none) [] = some registry' →
      CreateEffect registry registry' c ∧ registry'.threads = registry.threads := by
    rintro ⟨⟩
    refine ⟨.unchanged rfl rfl ?_, threads_back hidle _⟩
    intro d hd
    have hnone : Function.update registry.result c none c = some d := hd
    rw [Function.update_self] at hnone
    cases hnone
  rw [newDisplaySteps, System.run_cons] at hrun
  obtain ⟨r, hr, hrest⟩ := Option.bind_eq_some_iff.mp hrun
  simp only [registrySystem, step, hpc] at hr
  cases htype : type.or out.chosen with
  | none =>
      simp only [htype] at hr hrest
      cases hr
      exact hfailed hrest
  | some backend =>
      cases hallocated : out.allocated with
      | none =>
          simp only [htype, hallocated] at hr hrest
          cases hr
          exact hfailed hrest
      | some d =>
          simp only [htype, hallocated] at hr hrest
          split at hr
          · rename_i hfresh
            cases hr
            obtain ⟨hthreads, x, hdisplays, hend⟩ := finished_initSteps
              (Function.update_self _ _ _) (Function.update_self _ _ _) hrest
            have hdisplays' : registry'.displays = Function.update registry.displays d (some x) :=
              hdisplays.trans (Function.update_idem _ _ _)
            refine ⟨?_, ?_⟩
            · rcases hend with ⟨hzero, hruntime, hresult⟩ | ⟨hone, hruntime, hresult⟩
              · exact .discarded d x hzero hdisplays' hruntime hfresh hresult
              · exact .registered d x hone hdisplays' hruntime hfresh hresult
            · rw [hthreads]
              simp only [State.setThread, State.setDisplay, Function.update_idem]
              rw [← hidle, Function.update_eq_self]
          · cases hr

theorem displayCreate_effect {registry registry' : State Handle Display Client} {c : Client}
    (hidle : registry.threads c = .idle) {type : Option TplBackend} {nativeDpy : Handle}
    {out : CreateOutcome Handle Display}
    (hrun : registrySystem.run registry (displayCreateSteps registry c type nativeDpy out) =
      some registry') :
    CreateEffect registry registry' c ∧ registry'.threads = registry.threads := by
  cases hfind : registry.findDisplay type nativeDpy with
  | none =>
      rw [run_notFound hidle hfind] at hrun
      exact newDisplay_effect hidle hrun
  | some d =>
      rw [run_found hidle hfind] at hrun
      cases hrun
      refine ⟨.unchanged rfl rfl ?_, rfl⟩
      intro e he
      have hsome : Function.update registry.result c (some d) c = some e := he
      rw [Function.update_self] at hsome
      cases hsome
      obtain ⟨type, hentry⟩ := findDisplay_eq_some hfind
      exact ⟨_, hentry⟩

theorem unreferenceDisplay_effect {registry registry' : State Handle Display Client} {c : Client}
    {d : Display} {x : TplDisplay Handle} (hidle : registry.threads c = .idle)
    (hx : registry.displays d = some x) (hone : x.reference = 1)
    (hrun : registrySystem.run registry (unreferenceSteps registry c d) = some registry') :
    registry'.threads = registry.threads ∧
      registry'.displays =
        Function.update registry.displays d (some { x with reference := 0 }) ∧
      registry'.runtime = Function.update registry.runtime x.key none := by
  simp only [unreferenceSteps, hx, if_pos hone, List.cons_append, List.nil_append,
    System.run_cons registry] at hrun
  obtain ⟨r, hr, hrest⟩ := Option.bind_eq_some_iff.mp hrun
  simp only [registrySystem, step, hidle] at hr
  split at hr
  · cases hr
    have hpc : (registry.setThread c (.unreference d)).threads c = .unreference d :=
      Function.update_self _ _ _
    have hx' : (registry.setThread c (.unreference d)).displays d = some x := hx
    obtain ⟨result, hlast, -⟩ := run_unreference (.inl hpc) hx' hone
    cases Option.some.inj (hlast.symm.trans hrest)
    exact ⟨threads_back hidle _, rfl, rfl⟩
  · cases hr

omit [DecidableEq Handle] [DecidableEq Client] in
theorem LiveDisplay.update {registry registry' : State Handle Display Client} {d e : Display}
    {x : TplDisplay Handle} (h : LiveDisplay registry e)
    (hdisplays : registry'.displays = Function.update registry.displays d (some x))
    (hne : e ≠ d) : LiveDisplay registry' e := by
  obtain ⟨y, hy, hreference⟩ := h
  refine ⟨y, ?_, hreference⟩
  rw [hdisplays, Function.update_of_ne hne, hy]

omit [DecidableEq Handle] [DecidableEq Display] [DecidableEq Client] in
theorem LiveDisplay.ne_fresh {registry : State Handle Display Client} {d e : Display}
    (h : LiveDisplay registry e) (hfresh : registry.displays d = none) : e ≠ d := by
  rintro rfl
  obtain ⟨y, hy, -⟩ := h
  cases hfresh.symm.trans hy

omit [DecidableEq Client] in
theorem RegistryInv.update {registry registry' : State Handle Display Client} {d : Display}
    {x : TplDisplay Handle} {owner : Option Display} (h : RegistryInv registry)
    (hthreads : registry'.threads = registry.threads) (hsingle : x.reference ≤ 1)
    (hdisplays : registry'.displays = Function.update registry.displays d (some x))
    (hruntime : registry'.runtime = Function.update registry.runtime x.key owner)
    (howner : ∀ e, owner = some e → e = d ∧ x.reference ≠ 0)
    (hkey : ∀ y, registry.displays d = some y → y.key = x.key) : RegistryInv registry' := by
  refine ⟨fun t => by rw [hthreads]; exact h.quiet t, ?_, ?_⟩
  · intro e y hy
    rcases eq_or_ne e d with rfl | hed
    · rw [hdisplays, Function.update_self] at hy
      obtain rfl := Option.some.inj hy
      exact hsingle
    · rw [hdisplays, Function.update_of_ne hed] at hy
      exact h.single e y hy
  · intro key e he
    rw [hruntime] at he
    rcases eq_or_ne key x.key with rfl | hkx
    · rw [Function.update_self] at he
      obtain ⟨rfl, hreference⟩ := howner e he
      refine ⟨x, ?_, rfl, hreference⟩
      rw [hdisplays, Function.update_self]
    · rw [Function.update_of_ne hkx] at he
      obtain ⟨y, hy, hykey, hreference⟩ := h.registered key e he
      have hed : e ≠ d := by
        rintro rfl
        exact hkx (hykey.symm.trans (hkey y hy))
      refine ⟨y, ?_, hykey, hreference⟩
      rw [hdisplays, Function.update_of_ne hed, hy]

end

section

variable {Handle : Type u} {Display : Type v} {Surface : Type w} {Client : Type x}

structure Inv (st : ClientState Handle Display Surface Client) : Prop where
  registry : RegistryInv st.registry
  live : HandlesLive st

theorem HandlesLive.same {st st' : ClientState Handle Display Surface Client}
    (h : HandlesLive st)
    (hlive : ∀ d, LiveDisplay st.registry d → LiveDisplay st'.registry d)
    (hclients : ∀ h ∈ st'.displayHandles, h ∈ st.displayHandles ∨ LiveDisplay st'.registry h.2)
    (hsurfaces : st'.surfaces = st.surfaces) : HandlesLive st' := by
  constructor
  · intro handle hhandle
    rcases hclients handle hhandle with hold | hnew
    · exact hlive _ (h.clients handle hold)
    · exact hnew
  · intro s x hs
    rw [hsurfaces] at hs
    exact hlive _ (h.surfaces s x hs)

variable [DecidableEq Handle] [DecidableEq Display] [DecidableEq Surface] [DecidableEq Client]

omit [DecidableEq Surface] [DecidableEq Client] in
theorem Inv.displayCreate {st : ClientState Handle Display Surface Client} (h : Inv st)
    {registry : State Handle Display Client} {c : Client}
    (heffect : CreateEffect st.registry registry c)
    (hthreads : registry.threads = st.registry.threads) :
    Inv { st with
      registry := registry
      displayHandles := match registry.result c with
        | some d => (c, d) :: st.displayHandles
        | none => st.displayHandles } := by
  cases heffect with
  | unchanged hdisplays hruntime hresult =>
      have hlive : ∀ d, LiveDisplay st.registry d → LiveDisplay registry d := by
        intro d hd
        rwa [LiveDisplay, hdisplays]
      have hinv : RegistryInv registry := by
        refine ⟨fun t => by rw [hthreads]; exact h.registry.quiet t, ?_, ?_⟩
        · rw [hdisplays]
          exact h.registry.single
        · rw [hdisplays, hruntime]
          exact h.registry.registered
      refine ⟨hinv, h.live.same hlive (fun handle hhandle => ?_) rfl⟩
      cases hreturn : registry.result c with
      | none =>
          simp only [hreturn] at hhandle
          exact .inl hhandle
      | some d =>
          simp only [hreturn] at hhandle
          rcases List.mem_cons.mp hhandle with rfl | hold
          · obtain ⟨key, hkey⟩ := hresult d hreturn
            obtain ⟨x, hx, -, hreference⟩ := h.registry.registered key d hkey
            exact .inr (hlive d ⟨x, hx, hreference⟩)
          · exact .inl hold
  | discarded d x hzero hdisplays hruntime hfresh hresult =>
      refine ⟨h.registry.update hthreads (by omega) hdisplays hruntime nofun
        (fun y hy => by cases hfresh.symm.trans hy), h.live.same ?_ ?_ rfl⟩
      · exact fun e he => he.update hdisplays (he.ne_fresh hfresh)
      · intro handle hhandle
        simp only [hresult] at hhandle
        exact .inl hhandle
  | registered d x hone hdisplays hruntime hfresh hresult =>
      refine ⟨h.registry.update hthreads (by omega) hdisplays hruntime
        (fun e he => ⟨(Option.some.inj he).symm, by omega⟩)
        (fun y hy => by cases hfresh.symm.trans hy), h.live.same ?_ ?_ rfl⟩
      · exact fun e he => he.update hdisplays (he.ne_fresh hfresh)
      · intro handle hhandle
        simp only [hresult] at hhandle
        rcases List.mem_cons.mp hhandle with rfl | hold
        · exact .inr ⟨x, by rw [hdisplays, Function.update_self], by omega⟩
        · exact .inl hold

omit [DecidableEq Surface] in
theorem Inv.unreferenceDisplay {st : ClientState Handle Display Surface Client} (h : Inv st)
    {registry : State Handle Display Client} {c : Client} {d : Display}
    (hhandle : (c, d) ∈ st.displayHandles)
    (hrun : registrySystem.run st.registry (unreferenceSteps st.registry c d) = some registry) :
    RegistryInv registry ∧ ¬ LiveDisplay registry d ∧
      ∀ e, e ≠ d → LiveDisplay st.registry e → LiveDisplay registry e := by
  obtain ⟨x, hx, hreference⟩ := h.live.clients _ hhandle
  have hsingle := h.registry.single d x hx
  obtain ⟨hthreads, hdisplays, hruntime⟩ :=
    unreferenceDisplay_effect (h.registry.quiet c) hx (by omega) hrun
  refine ⟨h.registry.update hthreads (Nat.zero_le 1) hdisplays hruntime nofun ?_, ?_, ?_⟩
  · intro y hy
    cases Option.some.inj (hx.symm.trans hy)
    rfl
  · rintro ⟨y, hy, hpos⟩
    rw [hdisplays, Function.update_self] at hy
    cases hy
    exact hpos rfl
  · exact fun e hed he => he.update hdisplays hed

theorem inv_step {st st' : ClientState Handle Display Surface Client}
    {l : Call Handle Display Surface Client} (h : Inv st) (hallowed : LastHandle st l)
    (hstep : clientStep st l = some st') : Inv st' := by
  cases l with
  | displayCreate c type nativeDpy out =>
      obtain ⟨registry, hrun, rfl⟩ := Option.map_eq_some_iff.mp hstep
      obtain ⟨heffect, hthreads⟩ := displayCreate_effect (h.registry.quiet c) hrun
      exact h.displayCreate heffect hthreads
  | surfaceCreate c d created =>
      simp only [clientStep] at hstep
      split at hstep
      · rename_i hheld
        split at hstep
        · cases hstep
          exact h
        · split at hstep
          · cases hstep
            refine ⟨h.registry, h.live.clients, ?_⟩
            exact (Function.forall_update_iff st.surfaces fun _ y =>
              ∀ x, y = some x → LiveDisplay st.registry x.display).mpr
              ⟨by rintro _ ⟨⟩; exact h.live.clients _ hheld, fun s _ => h.live.surfaces s⟩
          · cases hstep
      · cases hstep
  | unreferenceDisplay c d =>
      simp only [clientStep] at hstep
      split at hstep
      · rename_i hheld
        obtain ⟨registry, hrun, rfl⟩ := Option.map_eq_some_iff.mp hstep
        obtain ⟨hregistry, -, hothers⟩ := h.unreferenceDisplay hheld hrun
        refine ⟨hregistry, ?_, ?_⟩
        · intro handle hhandle
          exact hothers _ (hallowed.1 handle hhandle)
            (h.live.clients handle (List.mem_of_mem_erase hhandle))
        · intro s x hs
          exact hothers _ (hallowed.2 s x hs) (h.live.surfaces s x hs)
      · cases hstep
  | unreferenceSurface c s =>
      simp only [clientStep] at hstep
      split at hstep
      · rename_i x hx
        split at hstep
        · cases hstep
          refine ⟨h.registry, h.live.clients, ?_⟩
          refine (Function.forall_update_iff st.surfaces fun _ y =>
            ∀ x, y = some x → LiveDisplay st.registry x.display).mpr
            ⟨?_, fun s _ => h.live.surfaces s⟩
          intro y hy
          unfold unreferenceSurface at hy
          split at hy
          · cases hy
          · cases hy
            exact h.live.surfaces s x hx
        · cases hstep
      · cases hstep

/-- An unreference that leaves a handle or a surface behind leaves it dangling. -/
theorem lastHandle_of_live {st st' : ClientState Handle Display Surface Client}
    {l : Call Handle Display Surface Client} (h : Inv st) (hstep : clientStep st l = some st')
    (hlive : HandlesLive st') : LastHandle st l := by
  cases l with
  | unreferenceDisplay c d =>
      simp only [clientStep] at hstep
      split at hstep
      · rename_i hheld
        obtain ⟨registry, hrun, rfl⟩ := Option.map_eq_some_iff.mp hstep
        obtain ⟨-, hfreed, -⟩ := h.unreferenceDisplay hheld hrun
        constructor
        · rintro handle hhandle rfl
          exact hfreed (hlive.clients handle hhandle)
        · rintro s x hx rfl
          exact hfreed (hlive.surfaces s x hx)
      · cases hstep
  | _ => trivial

omit [DecidableEq Handle] [DecidableEq Display] [DecidableEq Surface] [DecidableEq Client] in
theorem inv_noClients : Inv (noClients : ClientState Handle Display Surface Client) :=
  ⟨⟨fun _ => rfl, nofun, nofun⟩, nofun, nofun⟩

/-- No handle dangles in exactly the runs in which a display is unreferenced by its
last client and after its surfaces. -/
theorem handlesLive_iff {ls : List (Call Handle Display Surface Client)}
    {st : ClientState Handle Display Surface Client} (hrun : clientSystem.run noClients ls = some st) :
    clientSystem.Always HandlesLive noClients ls ↔
      clientSystem.EveryStep LastHandle noClients ls := by
  refine System.always_iff_everyStep inv_noClients hrun ?_ ?_ ?_
  · intro _ _ _ h hallowed hstep
    exact inv_step h hallowed hstep
  · intro _ h
    exact h.live
  · intro _ _ _ h hstep hlive
    exact lastHandle_of_live h hstep hlive

instance [Fintype Surface] (st : ClientState Handle Display Surface Client)
    (l : Call Handle Display Surface Client) : Decidable (LastHandle st l) :=
  match l with
  | .unreferenceDisplay c d =>
      inferInstanceAs (Decidable ((∀ h ∈ st.displayHandles.erase (c, d), h.2 ≠ d) ∧
        ∀ s, ∀ x ∈ st.surfaces s, x.display ≠ d))
  | .displayCreate _ _ _ _ | .surfaceCreate _ _ _ | .unreferenceSurface _ _ => isTrue trivial

end

def createDisplay (c : Bool) : Call Nat Nat Bool Bool :=
  .displayCreate c (some .wayland) 5 ⟨none, some 1, true, 5, true⟩

def surfaceThenDisplay : List (Call Nat Nat Bool Bool) :=
  [createDisplay true, .surfaceCreate true 1 (some false), .unreferenceSurface true false,
    .unreferenceDisplay true 1]

theorem handlesLive_surface_then_display :
    ∃ st, clientSystem.run noClients surfaceThenDisplay = some st ∧ st.displayHandles = [] ∧
      clientSystem.Always HandlesLive noClients surfaceThenDisplay := by
  obtain ⟨st, hrun, hhandles⟩ := clientSystem.exists_of_runWhen LastHandle
    (fun st => st.displayHandles = []) noClients surfaceThenDisplay (by decide)
  have hrun' := System.run_of_runWhen hrun
  exact ⟨st, hrun', hhandles, (handlesLive_iff hrun').mpr (.of_runWhen hrun)⟩

/-- Two clients create the same display and one of them is done with it. -/
def sharedDisplay : List (Call Nat Nat Bool Bool) :=
  [createDisplay true, createDisplay false, .unreferenceDisplay true 1]

theorem handles_not_live :
    ¬ ∀ st : ClientState Nat Nat Bool Bool, clientSystem.Reachable st → HandlesLive st := by
  intro hall
  obtain ⟨st, hrun, hheld, hfreed⟩ := clientSystem.exists_of_run
    (fun st => (false, 1) ∈ st.displayHandles ∧
      st.registry.displays 1 = some ⟨.wayland, 5, 0⟩) noClients sharedDisplay (by decide)
  obtain ⟨x, hx, hreference⟩ := (hall st (.of_run (.initial rfl) hrun)).clients _ hheld
  cases Option.some.inj (hfreed.symm.trans hx)
  exact hreference rfl

end LibtplEgl.HandleLifetime
