import Mathlib.Data.List.Nodup
import Mathlib.Data.Multiset.UnionInter

namespace LibtplEgl.BufferQueue

universe u

/-- A queue between a producer and a consumer: the buffers it knows, those that the
producer may take, and those that wait for the consumer. The others of the known ones
are outside. -/
structure Queue (Buffer : Type u) where
  known : List Buffer
  free : List Buffer
  dirty : List Buffer
  nodup : (free ++ dirty).Nodup
  known_of_mem : ∀ b ∈ free ++ dirty, b ∈ known

namespace Queue

variable {Buffer : Type u}

def empty : Queue Buffer := ⟨[], [], [], List.nodup_nil, fun _ h => h⟩

/-- The producer takes the oldest free buffer. -/
def dequeue (q : Queue Buffer) : Option (Buffer × Queue Buffer) :=
  match hfree : q.free with
  | [] => none
  | b :: rest =>
      some (b, {
        known := q.known
        free := rest
        dirty := q.dirty
        nodup := by
          have hnodup := q.nodup
          rw [hfree, List.cons_append] at hnodup
          exact hnodup.of_cons
        known_of_mem := fun x hx => q.known_of_mem x (by
          rw [hfree, List.cons_append]
          exact List.mem_cons_of_mem b hx) })

/-- The consumer takes the oldest buffer that waits for it. -/
def acquire (q : Queue Buffer) : Option (Buffer × Queue Buffer) :=
  match hdirty : q.dirty with
  | [] => none
  | b :: rest =>
      have hperm : (b :: (q.free ++ rest)).Perm (q.free ++ q.dirty) := by
        rw [hdirty]
        exact List.perm_middle.symm
      some (b, {
        known := q.known
        free := q.free
        dirty := rest
        nodup := (hperm.nodup_iff.mpr q.nodup).of_cons
        known_of_mem := fun x hx =>
          q.known_of_mem x (hperm.mem_iff.mp (List.mem_cons_of_mem b hx)) })

/-- A known buffer that is outside. -/
def Outside (q : Queue Buffer) (b : Buffer) : Prop := b ∈ q.known ∧ b ∉ q.free ++ q.dirty

instance [DecidableEq Buffer] (q : Queue Buffer) (b : Buffer) : Decidable (q.Outside b) :=
  inferInstanceAs (Decidable (b ∈ q.known ∧ b ∉ q.free ++ q.dirty))

/-- The producer hands over a buffer that is outside. -/
def enqueue (q : Queue Buffer) (b : Buffer) (h : q.Outside b) : Queue Buffer :=
  have hperm : (b :: (q.free ++ q.dirty)).Perm (q.free ++ (q.dirty ++ [b])) := by
    rw [← List.append_assoc]
    exact (List.perm_append_singleton b _).symm
  { known := q.known
    free := q.free
    dirty := q.dirty ++ [b]
    nodup := hperm.nodup_iff.mp (List.nodup_cons.mpr ⟨h.2, q.nodup⟩)
    known_of_mem := fun x hx => by
      rcases List.mem_cons.mp (hperm.mem_iff.mpr hx) with rfl | hx
      · exact h.1
      · exact q.known_of_mem x hx }

/-- The consumer gives back a buffer that is outside. -/
def giveBack (q : Queue Buffer) (b : Buffer) (h : q.Outside b) : Queue Buffer :=
  have hperm : (b :: (q.free ++ q.dirty)).Perm (q.free ++ [b] ++ q.dirty) := by
    rw [List.append_assoc, List.singleton_append]
    exact List.perm_middle.symm
  { known := q.known
    free := q.free ++ [b]
    dirty := q.dirty
    nodup := hperm.nodup_iff.mp (List.nodup_cons.mpr ⟨h.2, q.nodup⟩)
    known_of_mem := fun x hx => by
      rcases List.mem_cons.mp (hperm.mem_iff.mpr hx) with rfl | hx
      · exact h.1
      · exact q.known_of_mem x hx }

def attach (q : Queue Buffer) (b : Buffer) (h : b ∉ q.known) : Queue Buffer :=
  have hperm : (b :: (q.free ++ q.dirty)).Perm (q.free ++ [b] ++ q.dirty) := by
    rw [List.append_assoc, List.singleton_append]
    exact List.perm_middle.symm
  { known := b :: q.known
    free := q.free ++ [b]
    dirty := q.dirty
    nodup := hperm.nodup_iff.mp (List.nodup_cons.mpr ⟨fun hb => h (q.known_of_mem b hb), q.nodup⟩)
    known_of_mem := fun x hx => by
      rcases List.mem_cons.mp (hperm.mem_iff.mpr hx) with rfl | hx
      · exact List.mem_cons_self
      · exact List.mem_cons_of_mem b (q.known_of_mem x hx) }

theorem dequeue_eq_some {q q' : Queue Buffer} {b : Buffer} (h : q.dequeue = some (b, q')) :
    q.free = b :: q'.free ∧ q'.dirty = q.dirty ∧ q'.known = q.known := by
  unfold dequeue at h
  split at h
  · cases h
  · rename_i hfree
    cases h
    exact ⟨hfree, rfl, rfl⟩

theorem acquire_eq_some {q q' : Queue Buffer} {b : Buffer} (h : q.acquire = some (b, q')) :
    q.dirty = b :: q'.dirty ∧ q'.free = q.free ∧ q'.known = q.known := by
  unfold acquire at h
  split at h
  · cases h
  · rename_i hdirty
    cases h
    exact ⟨hdirty, rfl, rfl⟩

def contents (q : Queue Buffer) : Multiset Buffer := ↑(q.free ++ q.dirty)

theorem contents_dequeue {q q' : Queue Buffer} {b : Buffer} (h : q.dequeue = some (b, q')) :
    q.contents = b ::ₘ q'.contents := by
  obtain ⟨hfree, hdirty, -⟩ := dequeue_eq_some h
  rw [contents, contents, hfree, hdirty, List.cons_append, Multiset.cons_coe]

theorem contents_acquire {q q' : Queue Buffer} {b : Buffer} (h : q.acquire = some (b, q')) :
    q.contents = b ::ₘ q'.contents := by
  obtain ⟨hdirty, hfree, -⟩ := acquire_eq_some h
  rw [contents, contents, hdirty, hfree, Multiset.cons_coe]
  exact Multiset.coe_eq_coe.mpr List.perm_middle

theorem contents_enqueue (q : Queue Buffer) {b : Buffer} (h : q.Outside b) :
    (q.enqueue b h).contents = b ::ₘ q.contents := by
  rw [contents, contents, Multiset.cons_coe]
  refine Multiset.coe_eq_coe.mpr ?_
  show (q.free ++ (q.dirty ++ [b])).Perm (b :: (q.free ++ q.dirty))
  rw [← List.append_assoc]
  exact List.perm_append_singleton b _

theorem contents_giveBack (q : Queue Buffer) {b : Buffer} (h : q.Outside b) :
    (q.giveBack b h).contents = b ::ₘ q.contents := by
  rw [contents, contents, Multiset.cons_coe]
  refine Multiset.coe_eq_coe.mpr ?_
  show (q.free ++ [b] ++ q.dirty).Perm (b :: (q.free ++ q.dirty))
  rw [List.append_assoc, List.singleton_append]
  exact List.perm_middle

theorem contents_attach (q : Queue Buffer) {b : Buffer} (h : b ∉ q.known) :
    (q.attach b h).contents = b ::ₘ q.contents := by
  rw [contents, contents, Multiset.cons_coe]
  refine Multiset.coe_eq_coe.mpr ?_
  show (q.free ++ [b] ++ q.dirty).Perm (b :: (q.free ++ q.dirty))
  rw [List.append_assoc, List.singleton_append]
  exact List.perm_middle

/-- The buffers that someone outside holds and those inside are all different. -/
def Exclusive (q : Queue Buffer) (outside : Multiset Buffer) : Prop :=
  (outside + q.contents).Nodup

namespace Exclusive

variable {q q' : Queue Buffer} {outside outside' : Multiset Buffer} {b : Buffer}

theorem not_inside (h : Exclusive q outside) (hb : b ∈ outside) : b ∉ q.free ++ q.dirty := by
  intro hmem
  exact Multiset.disjoint_left.mp (Multiset.nodup_add.mp h).2.2 hb (Multiset.mem_coe.mpr hmem)

theorem mono (h : Exclusive q outside) (hle : outside' ≤ outside) : Exclusive q outside' :=
  Multiset.nodup_of_le (Multiset.add_le_add_right hle) h

theorem move (h : Exclusive q outside)
    (hmove : outside' + q'.contents = outside + q.contents) : Exclusive q' outside' := by
  unfold Exclusive
  rw [hmove]
  exact h

theorem dequeue (h : Exclusive q outside) (hq : q.dequeue = some (b, q')) :
    Exclusive q' (b ::ₘ outside) :=
  h.move (by rw [contents_dequeue hq, Multiset.cons_add, Multiset.add_cons])

theorem acquire (h : Exclusive q outside) (hq : q.acquire = some (b, q')) :
    Exclusive q' (b ::ₘ outside) :=
  h.move (by rw [contents_acquire hq, Multiset.cons_add, Multiset.add_cons])

variable [DecidableEq Buffer]

theorem enqueue (h : Exclusive q outside) (hb : b ∈ outside) (hq : q.Outside b) :
    Exclusive (q.enqueue b hq) (outside.erase b) := by
  refine h.move ?_
  rw [contents_enqueue, Multiset.add_cons, ← Multiset.cons_add, Multiset.cons_erase hb]

theorem giveBack (h : Exclusive q outside) (hb : b ∈ outside) (hq : q.Outside b) :
    Exclusive (q.giveBack b hq) (outside.erase b) := by
  refine h.move ?_
  rw [contents_giveBack, Multiset.add_cons, ← Multiset.cons_add, Multiset.cons_erase hb]

omit [DecidableEq Buffer] in
theorem attach (h : Exclusive q outside) (hb : b ∉ outside) (hq : b ∉ q.known) :
    Exclusive (q.attach b hq) outside := by
  have hinside : b ∉ q.contents := fun hmem => hq (q.known_of_mem b (Multiset.mem_coe.mp hmem))
  unfold Exclusive
  rw [contents_attach, Multiset.add_cons, Multiset.nodup_cons]
  refine ⟨fun hmem => ?_, h⟩
  exact (Multiset.mem_add.mp hmem).elim hb hinside

omit [DecidableEq Buffer] in
theorem empty (h : Exclusive q outside) :
    Exclusive (Queue.empty : Queue Buffer) outside :=
  Multiset.nodup_of_le (Multiset.add_le_add_left (Multiset.zero_le _)) h

end Exclusive

/-- Every buffer that the queue knows is inside or with someone outside. -/
def Complete (q : Queue Buffer) (outside : Multiset Buffer) : Prop :=
  ∀ b ∈ q.known, b ∈ outside + q.contents

namespace Complete

variable {q q' : Queue Buffer} {outside outside' : Multiset Buffer} {b : Buffer}

theorem move (h : Complete q outside) (hknown : q'.known = q.known)
    (hmove : outside' + q'.contents = outside + q.contents) : Complete q' outside' := by
  intro x hx
  rw [hmove]
  exact h x (hknown ▸ hx)

theorem dequeue (h : Complete q outside) (hq : q.dequeue = some (b, q')) :
    Complete q' (b ::ₘ outside) :=
  h.move (dequeue_eq_some hq).2.2
    (by rw [contents_dequeue hq, Multiset.cons_add, Multiset.add_cons])

theorem acquire (h : Complete q outside) (hq : q.acquire = some (b, q')) :
    Complete q' (b ::ₘ outside) :=
  h.move (acquire_eq_some hq).2.2
    (by rw [contents_acquire hq, Multiset.cons_add, Multiset.add_cons])

theorem attach (h : Complete q outside) (hq : b ∉ q.known) :
    Complete (q.attach b hq) outside := by
  intro x hx
  rw [contents_attach, Multiset.add_cons, Multiset.mem_cons]
  exact (List.mem_cons.mp hx).imp_right (h x)

theorem empty : Complete (Queue.empty : Queue Buffer) outside := nofun

variable [DecidableEq Buffer]

theorem enqueue (h : Complete q outside) (hb : b ∈ outside) (hq : q.Outside b) :
    Complete (q.enqueue b hq) (outside.erase b) := by
  refine h.move rfl ?_
  rw [contents_enqueue, Multiset.add_cons, ← Multiset.cons_add, Multiset.cons_erase hb]

theorem giveBack (h : Complete q outside) (hb : b ∈ outside) (hq : q.Outside b) :
    Complete (q.giveBack b hq) (outside.erase b) := by
  refine h.move rfl ?_
  rw [contents_giveBack, Multiset.add_cons, ← Multiset.cons_add, Multiset.cons_erase hb]

theorem forget (h : Complete q outside) (hb : b ∉ q.known) : Complete q (outside.erase b) := by
  intro x hx
  have hxb : x ≠ b := fun heq => hb (heq ▸ hx)
  exact Multiset.mem_add.mpr ((Multiset.mem_add.mp (h x hx)).imp_left
    (Multiset.mem_erase_of_ne hxb).mpr)

/-- Who forgets a buffer that the queue knows, loses it. -/
theorem not_complete_erase (h : Exclusive q outside) (hb : b ∈ outside) (hq : b ∈ q.known) :
    ¬ Complete q (outside.erase b) := by
  intro hcomplete
  rcases Multiset.mem_add.mp (hcomplete b hq) with hmem | hmem
  · exact ((Multiset.nodup_add.mp h).1.mem_erase_iff.mp hmem).1 rfl
  · exact h.not_inside hb (Multiset.mem_coe.mp hmem)

omit [DecidableEq Buffer] in
theorem not_complete_dequeue (h : Exclusive q outside) (hq : q.dequeue = some (b, q')) :
    ¬ Complete q' outside := by
  intro hcomplete
  have hknown : b ∈ q'.known := by
    rw [(dequeue_eq_some hq).2.2]
    refine q.known_of_mem b ?_
    rw [(dequeue_eq_some hq).1]
    exact List.mem_cons_self
  have hnew : (b ::ₘ (outside + q'.contents)).Nodup := by
    rw [← Multiset.cons_add]
    exact h.dequeue hq
  exact (Multiset.nodup_cons.mp hnew).1 (hcomplete b hknown)

end Complete

end Queue

end LibtplEgl.BufferQueue
