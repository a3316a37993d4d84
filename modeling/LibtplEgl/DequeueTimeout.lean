import LibtplEgl.LabelledSystem
import Mathlib.Algebra.Group.Int.Defs
import Mathlib.Algebra.Group.Nat.Defs

namespace LibtplEgl.DequeueTimeout

open LibtplEgl.LabelledSystem

inductive Width
  | bits32
  | bits64
  deriving DecidableEq, Repr

def Width.bits : Width → Nat
  | .bits32 => 32
  | .bits64 => 64

/-- The widths of `time_t` and of `long`. -/
structure Target where
  time : Width
  long : Width
  deriving DecidableEq, Repr

/-- `struct timespec`. -/
structure Timespec where
  sec : Int
  nsec : Int
  deriving DecidableEq, Repr

def Timespec.nanoseconds (t : Timespec) : Int :=
  t.sec * 1000000000 + t.nsec

/-- A `uint64_t`, converted to a signed type. -/
def Width.convert (width : Width) (value : Int) : Int :=
  (value % 2 ^ 64).bmod (2 ^ width.bits)

/-- The deadline of `__tpl_wayland_vk_wsi_surface_dequeue_buffer`. The timeout is
added to a field in `uint64_t`; a carry that does not fit the type of the seconds
is taken to wrap. -/
def deadline (target : Target) (start : Timespec) (timeoutNs : BitVec 64) : Timespec :=
  let sec := target.time.convert (start.sec + (timeoutNs.toNat / 1000000000 : Nat))
  let nsec := target.long.convert (start.nsec + (timeoutNs.toNat % 1000000000 : Nat))
  if 1000000000 ≤ nsec then
    ⟨(sec + nsec / 1000000000).bmod (2 ^ target.time.bits), nsec % 1000000000⟩
  else ⟨sec, nsec⟩

/-- A clock value: normalised, with seconds that are a `time_t`. -/
structure Timespec.Valid (target : Target) (t : Timespec) : Prop where
  nsec_nonneg : 0 ≤ t.nsec
  nsec_lt : t.nsec < 1000000000
  le_sec : -2 ^ (target.time.bits - 1) ≤ t.sec
  sec_lt : t.sec < 2 ^ (target.time.bits - 1)

instance (target : Target) (t : Timespec) : Decidable (t.Valid target) :=
  decidable_of_iff
    (0 ≤ t.nsec ∧ t.nsec < 1000000000 ∧ -2 ^ (target.time.bits - 1) ≤ t.sec ∧
      t.sec < 2 ^ (target.time.bits - 1))
    ⟨fun ⟨h₁, h₂, h₃, h₄⟩ => ⟨h₁, h₂, h₃, h₄⟩, fun ⟨h₁, h₂, h₃, h₄⟩ => ⟨h₁, h₂, h₃, h₄⟩⟩

/-- What the wait loop works with. -/
structure Call where
  target : Target
  timeoutNs : BitVec 64
  absTime : Timespec
  deriving DecidableEq, Repr

/-- Where the thread is in the wait loop; `timedOut` records what the clock showed. -/
inductive WaitPc
  | canDequeue
  | wait
  | dequeue
  | timedOut (clock : Timespec)
  deriving DecidableEq, Repr

structure State where
  pc : WaitPc
  free : Nat
  clock : Timespec
  deriving DecidableEq, Repr

/-- The steps of the loop, and what goes on around it: the clock goes on or is
set, and other threads change the free queue. `wake` is a signal, a spurious
wake-up or an error of the wait. -/
inductive Label
  | canDequeue
  | wake
  | timeout
  | setClock (clock : Timespec)
  | setFree (free : Nat)
  deriving DecidableEq, Repr

def step (call : Call) (st : State) : Label → Option State
  | .canDequeue =>
      match st.pc with
      | .canDequeue => some { st with pc := if st.free = 0 then .wait else .dequeue }
      | .wait | .dequeue | .timedOut _ => none
  | .wake =>
      match st.pc with
      | .wait => some { st with pc := .canDequeue }
      | .canDequeue | .dequeue | .timedOut _ => none
  | .timeout =>
      match st.pc with
      | .wait =>
          -- Without a deadline `pthread_cond_wait` is called. With one the wait is
          -- over when the clock has reached it.
          if call.timeoutNs = BitVec.allOnes 64 then none
          else if call.absTime.nanoseconds ≤ st.clock.nanoseconds then
            some { st with pc := .timedOut st.clock }
          else none
      | .canDequeue | .dequeue | .timedOut _ => none
  | .setClock clock => if clock.Valid call.target then some { st with clock := clock } else none
  | .setFree free => some { st with free := free }

/-- The call at the time `start`, when `free` buffers are free. -/
def dequeueCall (target : Target) (start : Timespec) (timeoutNs : BitVec 64) : Call where
  target := target
  timeoutNs := timeoutNs
  absTime := deadline target start timeoutNs

def entered (start : Timespec) (free : Nat) : State :=
  ⟨.canDequeue, free, start⟩

def waitSystem (call : Call) (start : Timespec) : System State Label where
  Initial st := ∃ free, st = entered start free
  step := step call

/-- Every run that ends in a timeout ends when the clock has reached start plus timeout. -/
def Honoured (target : Target) (start : Timespec) (timeoutNs : BitVec 64) : Prop :=
  ∀ st, (waitSystem (dequeueCall target start timeoutNs) start).Reachable st →
    ∀ clock, st.pc = .timedOut clock → start.nanoseconds + timeoutNs.toNat ≤ clock.nanoseconds

/-- The deadline is normalised and exact, and it is waited for. -/
structure TimeoutHonoured (target : Target) (start : Timespec) (timeoutNs : BitVec 64) : Prop where
  nsec_nonneg : 0 ≤ (deadline target start timeoutNs).nsec
  nsec_lt : (deadline target start timeoutNs).nsec < 1000000000
  exact : (deadline target start timeoutNs).nanoseconds = start.nanoseconds + timeoutNs.toNat
  honoured : Honoured target start timeoutNs

theorem convert_eq (width : Width) (value : Int) :
    width.convert value = value.bmod (2 ^ width.bits) := by
  have hdvd : ((2 ^ width.bits : Nat) : Int) ∣ 2 ^ 64 := by
    cases width with
    | bits32 | bits64 => decide
  rw [Width.convert, ← Int.emod_bmod, Int.emod_emod_of_dvd _ hdvd, Int.emod_bmod]

theorem convert_of_lt (width : Width) {value : Int} (hnonneg : 0 ≤ value)
    (hlt : value < 2000000000) : width.convert value = value := by
  have hbits : 4294967296 ≤ 2 ^ width.bits := by
    cases width with
    | bits32 | bits64 => decide
  rw [convert_eq]
  exact Int.bmod_eq_of_le_mul_two (by omega) (by omega)

/-- The deadline in terms of the time that has to pass. -/
theorem deadline_eq {target : Target} {start : Timespec} (hstart : start.Valid target)
    (timeoutNs : BitVec 64) :
    deadline target start timeoutNs =
      ⟨((start.nanoseconds + timeoutNs.toNat) / 1000000000).bmod (2 ^ target.time.bits),
        (start.nanoseconds + timeoutNs.toNat) % 1000000000⟩ := by
  have hnonneg := hstart.nsec_nonneg
  have hlt := hstart.nsec_lt
  have hnsec : target.long.convert (start.nsec + (timeoutNs.toNat % 1000000000 : Nat)) =
      start.nsec + (timeoutNs.toNat % 1000000000 : Nat) :=
    convert_of_lt _ (by omega) (by omega)
  unfold deadline Timespec.nanoseconds
  rw [hnsec, convert_eq]
  dsimp only
  split
  · rename_i hcarry
    rw [Int.bmod_add_bmod]
    have hsec : start.sec + (timeoutNs.toNat / 1000000000 : Nat) +
        (start.nsec + (timeoutNs.toNat % 1000000000 : Nat)) / 1000000000 =
          (start.sec * 1000000000 + start.nsec + timeoutNs.toNat) / 1000000000 := by
      omega
    rw [hsec]
    congr 1
    omega
  · rename_i hcarry
    have hsec : start.sec + (timeoutNs.toNat / 1000000000 : Nat) =
        (start.sec * 1000000000 + start.nsec + timeoutNs.toNat) / 1000000000 := by
      omega
    rw [hsec]
    congr 1
    omega

/-- The end of the timeout is a time that `time_t` can tell. -/
def Representable (target : Target) (start : Timespec) (timeoutNs : BitVec 64) : Prop :=
  (start.nanoseconds + timeoutNs.toNat) / 1000000000 < 2 ^ (target.time.bits - 1)

theorem two_pow_bits (target : Target) :
    ((2 ^ target.time.bits : Nat) : Int) = 2 * 2 ^ (target.time.bits - 1) := by
  cases target.time with
  | bits32 | bits64 => decide

section

variable {target : Target} {start : Timespec}

theorem deadline_valid (hstart : start.Valid target) (timeoutNs : BitVec 64) :
    (deadline target start timeoutNs).Valid target := by
  have hpos : 0 < 2 ^ target.time.bits := Nat.two_pow_pos _
  have hpow := two_pow_bits target
  have hle := Int.le_bmod (x := (start.nanoseconds + timeoutNs.toNat) / 1000000000) hpos
  have hlt := Int.bmod_lt (x := (start.nanoseconds + timeoutNs.toNat) / 1000000000) hpos
  rw [deadline_eq hstart]
  refine ⟨?_, ?_, ?_, ?_⟩
  · show 0 ≤ (start.nanoseconds + timeoutNs.toNat) % 1000000000
    omega
  · show (start.nanoseconds + timeoutNs.toNat) % 1000000000 < 1000000000
    omega
  · show _ ≤ Int.bmod _ _
    omega
  · show Int.bmod _ _ < _
    omega

theorem deadline_exact (hstart : start.Valid target) {timeoutNs : BitVec 64}
    (hfits : Representable target start timeoutNs) :
    (deadline target start timeoutNs).nanoseconds = start.nanoseconds + timeoutNs.toNat := by
  have hpow := two_pow_bits target
  have hle := hstart.le_sec
  have hnonneg := hstart.nsec_nonneg
  unfold Representable at hfits
  have hsec : ((start.nanoseconds + timeoutNs.toNat) / 1000000000).bmod (2 ^ target.time.bits) =
      (start.nanoseconds + timeoutNs.toNat) / 1000000000 := by
    refine Int.bmod_eq_of_le_mul_two ?_ ?_
    · have hbound : start.sec ≤ (start.nanoseconds + timeoutNs.toNat) / 1000000000 := by
        unfold Timespec.nanoseconds
        omega
      omega
    · omega
  rw [deadline_eq hstart, Timespec.nanoseconds, hsec]
  dsimp only
  omega

theorem deadline_early (hstart : start.Valid target) {timeoutNs : BitVec 64}
    (hwraps : ¬ Representable target start timeoutNs) :
    (deadline target start timeoutNs).nanoseconds < start.nanoseconds + timeoutNs.toNat := by
  have hpow := two_pow_bits target
  have hlt := Int.bmod_lt (x := (start.nanoseconds + timeoutNs.toNat) / 1000000000)
    (Nat.two_pow_pos target.time.bits)
  unfold Representable at hwraps
  rw [deadline_eq hstart, Timespec.nanoseconds]
  dsimp only
  omega

theorem timedOut_step {call : Call} {st st' : State} {l : Label} (hstep : step call st l = some st')
    {clock : Timespec} (hout : st'.pc = .timedOut clock) :
    st.pc = .timedOut clock ∨
      (call.timeoutNs ≠ BitVec.allOnes 64 ∧
        call.absTime.nanoseconds ≤ clock.nanoseconds) := by
  obtain ⟨pc, free, now⟩ := st
  cases l with
  | canDequeue =>
      cases pc with
      | canDequeue =>
          obtain rfl := Option.some.inj hstep
          dsimp only at hout
          split at hout
          · cases hout
          · cases hout
      | wait | dequeue | timedOut _ => cases hstep
  | wake =>
      cases pc with
      | wait =>
          obtain rfl := Option.some.inj hstep
          cases hout
      | canDequeue | dequeue | timedOut _ => cases hstep
  | timeout =>
      cases pc with
      | wait =>
          simp only [step] at hstep
          split at hstep
          · cases hstep
          · rename_i hfinite
            split at hstep
            · rename_i hreached
              obtain rfl := Option.some.inj hstep
              cases hout
              exact .inr ⟨hfinite, hreached⟩
            · cases hstep
      | canDequeue | dequeue | timedOut _ => cases hstep
  | setClock time =>
      simp only [step] at hstep
      split at hstep
      · obtain rfl := Option.some.inj hstep
        exact .inl hout
      · cases hstep
  | setFree n =>
      obtain rfl := Option.some.inj hstep
      exact .inl hout

theorem timedOut_reachable {call : Call} {st : State} (hst : (waitSystem call start).Reachable st)
    {clock : Timespec} (hout : st.pc = .timedOut clock) :
    call.timeoutNs ≠ BitVec.allOnes 64 ∧ call.absTime.nanoseconds ≤ clock.nanoseconds := by
  refine hst.invariant (I := fun st => ∀ clock, st.pc = .timedOut clock →
    call.timeoutNs ≠ BitVec.allOnes 64 ∧ call.absTime.nanoseconds ≤ clock.nanoseconds)
    ?_ ?_ clock hout
  · rintro _ ⟨free, rfl⟩ _ ⟨⟩
  · intro st l st' ih _ hstep clock hout
    rcases timedOut_step hstep hout with hbefore | hnow
    · exact ih clock hbefore
    · exact hnow

/-- A call without a timeout does not time out. -/
theorem not_timedOut {call : Call} (hforever : call.timeoutNs = BitVec.allOnes 64) {st : State}
    (hst : (waitSystem call start).Reachable st) (clock : Timespec) :
    st.pc ≠ .timedOut clock :=
  fun hout => (timedOut_reachable hst hout).1 hforever

/-- With an early deadline a call can time out too early, though the clock only goes on. -/
theorem representable_of_honoured (hstart : start.Valid target) {timeoutNs : BitVec 64}
    (hfinite : timeoutNs ≠ BitVec.allOnes 64) (hhonoured : Honoured target start timeoutNs) :
    Representable target start timeoutNs := by
  by_contra hwraps
  have hearly := deadline_early hstart hwraps
  let call := dequeueCall target start timeoutNs
  have hentered : (waitSystem call start).Reachable (entered start 0) := .initial ⟨0, rfl⟩
  have hwaiting : (waitSystem call start).Reachable ⟨.wait, 0, start⟩ :=
    .step (l := .canDequeue) hentered trivial rfl
  have htimeout : ∀ clock : Timespec, (waitSystem call start).Reachable ⟨.wait, 0, clock⟩ →
      (deadline target start timeoutNs).nanoseconds ≤ clock.nanoseconds →
        start.nanoseconds + timeoutNs.toNat ≤ clock.nanoseconds := by
    intro clock hclock hreached
    refine hhonoured ⟨.timedOut clock, 0, clock⟩ (.step (l := .timeout) hclock trivial ?_) clock rfl
    exact (if_neg hfinite).trans (if_pos hreached)
  rcases Int.le_total (deadline target start timeoutNs).nanoseconds start.nanoseconds with
    hpast | hfuture
  · have hlate := htimeout start hwaiting hpast
    have hnonneg := hstart.nsec_nonneg
    have hlt := hstart.nsec_lt
    have hsec := hstart.sec_lt
    apply hwraps
    unfold Representable
    unfold Timespec.nanoseconds at hlate ⊢
    omega
  · have hset : (waitSystem call start).Reachable
        ⟨.wait, 0, deadline target start timeoutNs⟩ := by
      refine .step (l := .setClock (deadline target start timeoutNs)) hwaiting trivial ?_
      exact if_pos (deadline_valid hstart timeoutNs)
    have hlate := htimeout _ hset (Int.le_refl _)
    omega

/-- The timeout is honoured exactly when its end is a time that `time_t` can tell. -/
theorem timeoutHonoured_iff (target : Target) (start : Timespec) (timeoutNs : BitVec 64)
    (hstart : start.Valid target) (hfinite : timeoutNs ≠ BitVec.allOnes 64) :
    TimeoutHonoured target start timeoutNs ↔ Representable target start timeoutNs := by
  constructor
  · intro h
    exact representable_of_honoured hstart hfinite h.honoured
  · intro hfits
    have hvalid := deadline_valid hstart timeoutNs
    have hexact := deadline_exact hstart hfits
    refine ⟨hvalid.nsec_nonneg, hvalid.nsec_lt, hexact, ?_⟩
    intro st hst clock hout
    rw [← hexact]
    exact (timedOut_reachable hst hout).2

end

/-- 1.5 seconds after a start shortly before a full second. -/
theorem timeoutHonoured_second :
    TimeoutHonoured ⟨.bits32, .bits32⟩ ⟨1500000000, 999999999⟩ 1500000000#64 ↔
      Representable ⟨.bits32, .bits32⟩ ⟨1500000000, 999999999⟩ 1500000000#64 :=
  timeoutHonoured_iff _ _ _ (by decide) (by decide)

/-- With 32 bits a timeout of 2^32 seconds is over at once. -/
theorem not_timeoutHonoured :
    ¬ ∀ (target : Target) (start : Timespec) (timeoutNs : BitVec 64), start.Valid target →
      timeoutNs ≠ BitVec.allOnes 64 → TimeoutHonoured target start timeoutNs := by
  intro hall
  have hexact := (hall ⟨.bits32, .bits32⟩ ⟨1500000000, 0⟩ 4294967296000000000#64
    (by decide) (by decide)).exact
  exact absurd hexact (by decide)

end LibtplEgl.DequeueTimeout
