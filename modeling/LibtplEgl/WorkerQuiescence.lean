import LibtplEgl.WorkerOrder
import LibtplEgl.WorkerWakeup

namespace LibtplEgl.WorkerQuiescence

open LibtplEgl.LabelledSystem
open LibtplEgl.TplTypes
open LibtplEgl.WorkerThread
open LibtplEgl.WorkerOrder (Keeps Settles StaysListed clears mem_waiting_of_drawWaitBuffer)
open LibtplEgl.WorkerWakeup (EventPending Notified Served sinceScan sinceScan_opens
  eventSend_opened)

universe u v w

section

variable {Ws : Type u} {Buffer : Type v} {Client : Type w}

/-- The surface whose `draw_wait_buffer` the worker completes. -/
def finishing : WorkerPc Ws Buffer → Option Ws
  | .finish s _ _ _ | .clear s _ => some s
  | _ => none

theorem not_clears {pc : WorkerPc Ws Buffer} {s : Ws} (h : finishing pc ≠ some s) :
    clears pc ≠ some s := by
  cases pc with
  | clear t evs => exact h
  | _ => nofun

theorem unscanned_of_unlocked {pc : WorkerPc Ws Buffer} (h : pc.holdsSurfaceMutex = false) :
    pc.unscanned = [] := by
  cases pc <;> first | rfl | cases h

/-- The epoll set has one entry for a descriptor, and one for the fence of every
`draw_wait_buffer` that is not being completed. -/
structure Polled (st : State Ws Buffer Client) : Prop where
  keys : (st.epoll.map Prod.fst).Nodup
  polled : st.worker ≠ .exited → ∀ s b, (st.surface s).drawWaitBuffer = some b →
    finishing st.worker ≠ some s → (st.waitSync b, s) ∈ st.epoll

variable [DecidableEq Ws]

theorem fence_kept {st st' : State Ws Buffer Client} (hkeep : Keeps st st') {s : Ws} {b : Buffer}
    (hwait : (st.surface s).drawWaitBuffer = some b)
    (hwait' : (st'.surface s).drawWaitBuffer = some b) (hfinish : finishing st.worker ≠ some s)
    (hfinish' : finishing st'.worker ≠ some s) : st'.waitSync b = st.waitSync b :=
  hkeep b ⟨s, mem_waiting_of_drawWaitBuffer hwait (not_clears hfinish)⟩
    ⟨s, mem_waiting_of_drawWaitBuffer hwait' (not_clears hfinish')⟩

theorem Polled.frame {st st' : State Ws Buffer Client} (h : Polled st) (hkeep : Keeps st st')
    (hepoll : st'.epoll = st.epoll)
    (hrunning : st'.worker ≠ .exited → st.worker ≠ .exited)
    (hwait : ∀ s b, (st'.surface s).drawWaitBuffer = some b →
      (st.surface s).drawWaitBuffer = some b ∧
        (finishing st'.worker ≠ some s → finishing st.worker ≠ some s)) : Polled st' := by
  constructor
  · rw [hepoll]
    exact h.keys
  · intro hexited s b hb hfinish
    obtain ⟨hold, hnot⟩ := hwait s b hb
    rw [hepoll, fence_kept hkeep hold hb (hnot hfinish) hfinish]
    exact h.polled (hrunning hexited) s b hold (hnot hfinish)

theorem Polled.goto {st st' : State Ws Buffer Client} (h : Polled st) (hkeep : Keeps st st')
    (hepoll : st'.epoll = st.epoll) (hsurface : ∀ s,
      (st'.surface s).drawWaitBuffer = (st.surface s).drawWaitBuffer)
    (hrunning : st.worker ≠ .exited) (hfinish : finishing st.worker = none) : Polled st' := by
  refine h.frame hkeep hepoll (fun _ => hrunning) fun s b hb => ⟨?_, fun _ => ?_⟩
  · rw [← hsurface]
    exact hb
  · rw [hfinish]
    nofun

theorem Polled.client {st st' : State Ws Buffer Client} (h : Polled st) (hkeep : Keeps st st')
    (hepoll : st'.epoll = st.epoll) (hworker : st'.worker = st.worker)
    (hwait : ∀ s, (st'.surface s).drawWaitBuffer = (st.surface s).drawWaitBuffer ∨
      (st'.surface s).drawWaitBuffer = none) : Polled st' := by
  refine h.frame hkeep hepoll (fun hexited => hworker ▸ hexited) fun s b hb => ⟨?_, ?_⟩
  · rcases hwait s with hsame | hnone
    · exact hsame ▸ hb
    · rw [hnone] at hb
      cases hb
  · rw [hworker]
    exact fun hfinish => hfinish

end

section

variable {Ws : Type u} {Buffer : Type v} {Client : Type w}
variable [DecidableEq Ws] [DecidableEq Buffer] [DecidableEq Client]

theorem polled_step {st st' : State Ws Buffer Client} {l : Label Ws Buffer Client}
    (h : Polled st) (hkeep : Keeps st st') (hstep : step st l = some st') : Polled st' := by
  cases Fires.of_step hstep with
  | @createSurface t hasGet hfree =>
      refine h.client hkeep rfl rfl fun s => ?_
      by_cases hst : s = t
      · subst hst
        exact Or.inr (by simp [State.setSurface, WorkerSurface.zero])
      · exact Or.inl (by simp [State.setSurface, hst])
  | @createSwapchain t halloc hmutex =>
      refine h.client hkeep rfl rfl fun s => ?_
      by_cases hst : s = t
      · subst hst
        exact Or.inr (by simp [State.surfaceListInsert, State.setSurface])
      · exact Or.inl (by simp [State.surfaceListInsert, State.setSurface, hst])
  | @destroySwapchain t hmutex =>
      refine h.client hkeep rfl rfl fun s => Or.inl ?_
      by_cases hst : s = t
      · subst hst
        simp [State.surfaceListRemove, State.setSurface]
      · simp [State.surfaceListRemove, State.setSurface, hst]
  | @destroySurface t hmutex hswap =>
      refine h.client hkeep rfl rfl fun s => Or.inl ?_
      by_cases hst : s = t
      · subst hst
        simp [State.setSurface]
      · simp [State.setSurface, hst]
  | @destroySurfaceSwapchain t hmutex =>
      refine h.client hkeep rfl rfl fun s => Or.inl ?_
      by_cases hst : s = t
      · subst hst
        simp [State.surfaceListRemove, State.setSurface]
      · simp [State.surfaceListRemove, State.setSurface, hst]
  | @enqueueBuffer c t b fd sig hidle hswap =>
      refine h.client hkeep rfl rfl fun s => Or.inl ?_
      by_cases hst : s = t
      · subst hst
        simp [State.enqueueBuffer, State.setSurface]
      · simp [State.enqueueBuffer, State.setSurface, hst]
  | newBufferNotify | fenceSignal | workerFini =>
      exact h.client hkeep rfl rfl fun _ => Or.inl rfl
  | eventFdFailed hpc => exact ⟨h.keys, fun hexited => absurd rfl hexited⟩
  | loopEnd hpc => exact ⟨List.nodup_nil, fun hexited => absurd rfl hexited⟩
  | eventFdCreated hpc | scanStart hpc | scanEnd hpc | scanWaiting hpc | scanPrepare hpc
  | popEmpty hpc | fenceNotAdded hpc | drawDoneRejected hpc | epollWait hpc | batchEnd hpc
  | readEventFd hpc | noEpollin hpc | drawWaiting hpc | alreadySignalled hpc | noFence hpc
  | fenceNotSignalled hpc =>
      exact h.goto hkeep rfl (fun _ => rfl) (by simp [hpc]) (by rw [hpc]; rfl)
  | @popBuffer t rest b queue hpc hqueue =>
      refine h.goto hkeep rfl (fun s => ?_) (by simp [hpc]) (by rw [hpc]; rfl)
      by_cases hst : s = t
      · subst hst
        simp [State.setSurface, State.goto]
      · simp [State.setSurface, State.goto, hst]
  | @fenceAdded t b rest hpc hfence hnew =>
      refine ⟨List.nodup_cons.mpr ⟨hnew, h.keys⟩, fun _ s c hc _ => ?_⟩
      have hrunning : st.worker ≠ .exited := by simp [hpc]
      have hfinish : finishing st.worker ≠ some s := by simp [hpc, finishing]
      by_cases hst : s = t
      · subst hst
        obtain rfl : b = c := by simpa [State.setSurface, State.goto] using hc
        exact List.mem_cons_self
      · have hold : (st.surface s).drawWaitBuffer = some c := by
          simpa [State.setSurface, State.goto, hst] using hc
        exact List.mem_cons_of_mem _ (h.polled hrunning s c hold hfinish)
  | @fenceSignalled t evs b hpc hwait =>
      have hrunning : st.worker ≠ .exited := by simp [hpc]
      have hfinish : ∀ s, finishing st.worker ≠ some s := by simp [hpc, finishing]
      refine ⟨?_, fun _ s c hc hnot => ?_⟩
      · exact h.keys.sublist ((List.filter_sublist).map Prod.fst)
      · have hst : s ≠ t := by
          rintro rfl
          exact hnot rfl
        have hmem := h.polled hrunning s c hc (hfinish s)
        refine List.mem_filter.mpr ⟨hmem, decide_eq_true fun heq => hst ?_⟩
        -- the descriptor has one entry, which is the one of `t`
        have hentry := h.polled hrunning t b hwait (hfinish t)
        rw [show st.waitSync c = st.waitSync b from heq] at hmem
        exact congrArg Prod.snd (List.inj_on_of_nodup_map h.keys hmem hentry rfl)
  | drawDone hpc hwait =>
      refine h.frame hkeep rfl (fun _ => by simp [hpc]) fun s b hb => ⟨hb, fun hnot => ?_⟩
      rw [hpc]
      exact hnot
  | @clearDrawWaitBuffer t evs hpc =>
      refine h.frame hkeep rfl (fun _ => by simp [hpc]) fun s b hb => ?_
      have hst : s ≠ t := by
        rintro rfl
        simp [State.setSurface, State.goto] at hb
      refine ⟨by simpa [State.setSurface, State.goto, hst] using hb, fun _ => ?_⟩
      rw [hpc]
      exact fun heq => hst (Option.some.inj heq).symm

/-- A surface that was not in `surface_list` when the scan began: the worker does not touch
it, and is told of what is enqueued on it. -/
structure Fresh (s : Ws) (st : State Ws Buffer Client) : Prop where
  listed : (st.surface s).swapchain = true → s ∈ st.surfaceList
  scans : ∀ t ∈ st.worker.unscanned, t ∈ st.listedSince
  served : sinceScan st.worker = true → s ∉ st.listedSince → Served st s

namespace Fresh

variable {s : Ws} {st st' : State Ws Buffer Client}

omit [DecidableEq Ws] [DecidableEq Buffer] [DecidableEq Client] in
theorem frame (h : Fresh s st)
    (hswap : (st'.surface s).swapchain = true → (st.surface s).swapchain = true)
    (hlist : st'.surfaceList = st.surfaceList) (hlisted : st'.listedSince = st.listedSince)
    (hscans : ∀ t ∈ st'.worker.unscanned, t ∈ st.worker.unscanned)
    (hserved : sinceScan st'.worker = true → s ∉ st.listedSince →
      (sinceScan st.worker = true → Served st s) → Served st' s) : Fresh s st' := by
  refine ⟨fun hs => ?_, fun t ht => ?_, fun hscan hs => ?_⟩
  · rw [hlist]
    exact h.listed (hswap hs)
  · rw [hlisted]
    exact h.scans t (hscans t ht)
  · rw [hlisted] at hs
    exact hserved hscan hs fun hscan' => h.served hscan' hs

omit [DecidableEq Ws] [DecidableEq Buffer] [DecidableEq Client] in
theorem goto (h : Fresh s st) (hsurface : s ∉ st.listedSince → st'.surface s = st.surface s)
    (hswap : (st'.surface s).swapchain = (st.surface s).swapchain)
    (hlist : st'.surfaceList = st.surfaceList) (hlisted : st'.listedSince = st.listedSince)
    (hevent : st'.eventFd = st.eventFd) (hclient : st'.notifying = st.notifying)
    (hscans : ∀ t ∈ st'.worker.unscanned, t ∈ st.worker.unscanned)
    (hscan : sinceScan st'.worker = true → sinceScan st.worker = true) : Fresh s st' :=
  h.frame (fun hs => hswap ▸ hs) hlist hlisted hscans fun hscan' hs hserved =>
    (hserved (hscan hscan')).frame (hsurface hs) hevent hclient

omit [DecidableEq Ws] [DecidableEq Buffer] [DecidableEq Client] in
theorem leave (h : Fresh s st)
    (hswap : (st'.surface s).swapchain = true → (st.surface s).swapchain = true)
    (hlist : st'.surfaceList = st.surfaceList) (hunscanned : st'.worker.unscanned = [])
    (hscan : sinceScan st'.worker = false) : Fresh s st' := by
  refine ⟨fun hs => ?_, fun t ht => ?_, fun hscan' => ?_⟩
  · rw [hlist]
    exact h.listed (hswap hs)
  · rw [hunscanned] at ht
    cases ht
  · rw [hscan] at hscan'
    cases hscan'

omit [DecidableEq Ws] [DecidableEq Buffer] [DecidableEq Client] in
theorem eventSend (h : Fresh s st) (hwakeup : WorkerWakeup.Inv st)
    (hsurface : st'.surface = st.surface) (hlist : st'.surfaceList = st.surfaceList)
    (hlisted : st'.listedSince = st.listedSince) (hworker : st'.worker = st.worker)
    (hevent : st'.eventFd = st.eventFd.eventSend) : Fresh s st' := by
  refine h.frame (by rw [hsurface]; exact fun hs => hs) hlist hlisted
    (by rw [hworker]; exact fun _ ht => ht) fun hscan _ _ => ?_
  rw [hworker] at hscan
  obtain ⟨counter, hcounter⟩ := eventSend_opened (hwakeup.opened (sinceScan_opens hscan))
  exact Or.inr (Or.inr (Or.inl ⟨counter, hevent.trans hcounter⟩))

omit [DecidableEq Buffer] [DecidableEq Client] in
theorem remove (h : Fresh s st) {t : Ws} (hst : s ≠ t)
    (hmutex : st.worker.holdsSurfaceMutex = false) (hworker : st'.worker = st.worker)
    (hsurface : st'.surface s = st.surface s) (hlist : st'.surfaceList = st.surfaceList.erase t)
    (hlisted : st'.listedSince = st.listedSince.erase t) (hevent : st'.eventFd = st.eventFd)
    (hclient : st'.notifying = st.notifying) : Fresh s st' := by
  refine ⟨fun hs => ?_, fun x hx => ?_, fun hscan hs => ?_⟩
  · rw [hlist]
    rw [hsurface] at hs
    exact (List.mem_erase_of_ne hst).mpr (h.listed hs)
  · rw [hworker, unscanned_of_unlocked hmutex] at hx
    cases hx
  · rw [hlisted, List.mem_erase_of_ne hst] at hs
    rw [hworker] at hscan
    exact (h.served hscan hs).frame hsurface hevent hclient

end Fresh

theorem fresh_step {s : Ws} {st st' : State Ws Buffer Client} {l : Label Ws Buffer Client}
    (h : Fresh s st) (hwakeup : WorkerWakeup.Inv st) (horder : WorkerOrder.Inv s st)
    (hstays : l.destroyed ≠ some s) (hstep : step st l = some st') : Fresh s st' := by
  cases Fires.of_step hstep with
  | @createSurface t hasGet hfree =>
      by_cases hst : s = t
      · subst hst
        refine h.frame ?_ rfl rfl (fun _ ht => ht) fun _ _ _ => Or.inl ?_
        · simp [State.setSurface, WorkerSurface.zero]
        · simp [State.setSurface, WorkerSurface.zero]
      · have hsurface : (st.setSurface t (.zero hasGet true)).surface s = st.surface s :=
          Function.update_of_ne hst _ _
        exact h.goto (fun _ => hsurface) (congrArg _ hsurface) rfl rfl rfl rfl
          (fun _ ht => ht) fun hscan => hscan
  | @createSwapchain t halloc hmutex =>
      refine ⟨fun hs => ?_, h.scans, fun hscan hs => ?_⟩
      · by_cases hst : s = t
        · exact List.mem_append_right _ (List.mem_singleton.mpr hst)
        · refine List.mem_append_left _ (h.listed ?_)
          simpa [State.surfaceListInsert, State.setSurface, hst] using hs
      · by_cases hst : s = t
        · subst hst
          exact Or.inl (by simp [State.surfaceListInsert, State.setSurface])
        · refine (h.served hscan hs).frame ?_ rfl rfl
          simp [State.surfaceListInsert, State.setSurface, hst]
  | @destroySwapchain t hmutex =>
      have hst : s ≠ t := fun heq => hstays (congrArg some heq.symm)
      exact h.remove hst hmutex rfl (Function.update_of_ne hst _ _) rfl rfl rfl rfl
  | @destroySurface t hmutex hswap =>
      have hst : s ≠ t := fun heq => hstays (congrArg some heq.symm)
      have hsurface : (st.setSurface t { st.surface t with allocated := false }).surface s =
          st.surface s := Function.update_of_ne hst _ _
      exact h.goto (fun _ => hsurface) (congrArg _ hsurface) rfl rfl rfl rfl
        (fun _ ht => ht) fun hscan => hscan
  | @destroySurfaceSwapchain t hmutex =>
      have hst : s ≠ t := fun heq => hstays (congrArg some heq.symm)
      refine h.remove hst hmutex rfl ?_ rfl rfl rfl rfl
      simp [State.surfaceListRemove, State.setSurface, hst]
  | @enqueueBuffer c t b fd sig hidle hswap =>
      refine h.frame ?_ rfl rfl (fun _ ht => ht) fun hscan hs hserved => ?_
      · by_cases hst : s = t
        · subst hst
          simp [State.enqueueBuffer, State.setSurface]
        · simp [State.enqueueBuffer, State.setSurface, hst]
      · by_cases hst : s = t
        · subst hst
          exact Or.inr (Or.inr (Or.inr ⟨c, Function.update_self _ _ _⟩))
        · rcases hserved hscan with hempty | hwait | hpending | ⟨d, hd⟩
          · exact Or.inl (by simpa [State.enqueueBuffer, State.setSurface, hst] using hempty)
          · exact Or.inr (Or.inl
              (by simpa [State.enqueueBuffer, State.setSurface, hst] using hwait))
          · exact Or.inr (Or.inr (Or.inl hpending))
          · have hdc : d ≠ c := by
              rintro rfl
              rw [hidle] at hd
              cases hd
            exact Or.inr (Or.inr (Or.inr ⟨d, (Function.update_of_ne hdc _ _).trans hd⟩))
  | newBufferNotify | workerFini => exact h.eventSend hwakeup rfl rfl rfl rfl rfl
  | fenceSignal => exact ⟨h.listed, h.scans, h.served⟩
  | scanStart hpc =>
      refine ⟨h.listed, fun t ht => ht, fun _ hs => Or.inl ?_⟩
      have hswap : (st.surface s).swapchain = false := by
        by_contra hswap
        exact hs (h.listed (by simpa using hswap))
      exact (horder.empty hswap).2
  | eventFdCreated | eventFdFailed | loopEnd | epollWait | batchEnd | readEventFd | noEpollin
  | drawWaiting | alreadySignalled | noFence | fenceSignalled | fenceNotSignalled | drawDone =>
      exact h.leave (fun hs => hs) rfl rfl rfl
  | @clearDrawWaitBuffer t evs hpc =>
      refine h.leave ?_ rfl rfl rfl
      by_cases hst : s = t
      · subst hst
        simp [State.setSurface, State.goto]
      · simp [State.setSurface, State.goto, hst]
  | scanEnd hpc =>
      exact h.goto (fun _ => rfl) rfl rfl rfl rfl rfl (by simp [State.goto, WorkerPc.unscanned])
        fun _ => by rw [hpc]; rfl
  | @scanWaiting t rest b hpc hwait =>
      refine h.goto (fun _ => rfl) rfl rfl rfl rfl rfl ?_ fun _ => by rw [hpc]; rfl
      rw [hpc]
      exact fun x hx => List.mem_cons_of_mem t hx
  | scanPrepare hpc | fenceNotAdded hpc | drawDoneRejected hpc =>
      refine h.goto (fun _ => rfl) rfl rfl rfl rfl rfl ?_ fun _ => by rw [hpc]; rfl
      rw [hpc]
      exact fun x hx => hx
  | @popEmpty t rest hpc hqueue =>
      refine h.goto (fun _ => rfl) rfl rfl rfl rfl rfl ?_ fun _ => by rw [hpc]; rfl
      rw [hpc]
      exact fun x hx => List.mem_cons_of_mem t hx
  | @popBuffer t rest b queue hpc hqueue =>
      have ht : t ∈ st.listedSince := h.scans t (by rw [hpc]; exact List.mem_cons_self)
      refine h.goto (fun hs => ?_) ?_ rfl rfl rfl rfl ?_ fun _ => by rw [hpc]; rfl
      · have hst : s ≠ t := by
          rintro rfl
          exact hs ht
        simp [State.setSurface, State.goto, hst]
      · by_cases hst : s = t
        · subst hst
          simp [State.setSurface, State.goto]
        · simp [State.setSurface, State.goto, hst]
      · rw [hpc]
        exact fun x hx => hx
  | @fenceAdded t b rest hpc hfence hnew =>
      have ht : t ∈ st.listedSince := h.scans t (by rw [hpc]; exact List.mem_cons_self)
      refine h.goto (fun hs => ?_) ?_ rfl rfl rfl rfl ?_ fun _ => by rw [hpc]; rfl
      · have hst : s ≠ t := by
          rintro rfl
          exact hs ht
        simp [State.setSurface, State.goto, hst]
      · by_cases hst : s = t
        · subst hst
          simp [State.setSurface, State.goto]
        · simp [State.setSurface, State.goto, hst]
      · rw [hpc]
        exact fun x hx => List.mem_cons_of_mem t hx

/-- What holds of a surface that stays in `surface_list`. -/
structure Inv (s : Ws) (st : State Ws Buffer Client) : Prop where
  order : WorkerOrder.Inv s st
  wakeup : WorkerWakeup.Inv st
  polled : Polled st
  fresh : Fresh s st

theorem inv_reachable {s : Ws} {st : State Ws Buffer Client}
    (h : workerSystem.ReachableWhen (StaysListed s) st) : Inv s st := by
  refine h.invariant ?_ fun st l st' hinv hallowed hstep => ?_
  · intro st hinit
    refine ⟨WorkerOrder.inv_reachable (.initial hinit), WorkerWakeup.inv_initial hinit, ?_, ?_⟩
    · obtain ⟨waitSync, signalled, rfl⟩ := hinit
      exact ⟨List.nodup_nil, nofun⟩
    · obtain ⟨waitSync, signalled, rfl⟩ := hinit
      exact ⟨nofun, nofun, nofun⟩
  · exact ⟨WorkerOrder.inv_step hinv.order hallowed hstep,
      WorkerWakeup.inv_step hinv.wakeup hstep,
      polled_step hinv.polled (hallowed.keeps st' hstep) hstep,
      fresh_step hinv.fresh hinv.wakeup hinv.order hallowed.stays hstep⟩

end

end LibtplEgl.WorkerQuiescence
