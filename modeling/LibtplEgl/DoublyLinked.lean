import Mathlib.Data.List.Chain
import Mathlib.Logic.Function.Basic
import Mathlib.Tactic.TypeStar

namespace LibtplEgl.DoublyLinked

universe u

/-- The two pointers of each node; `none` is a null pointer. -/
structure Links (Ref : Type u) where
  next : Ref → Option Ref
  prev : Ref → Option Ref

namespace Links

variable {Ref : Type u}

def Adjacent (L : Links Ref) (x y : Ref) : Prop := L.next x = some y ∧ L.prev y = some x

/-- A sequence of different nodes, each linked both ways with its neighbours. -/
structure Path (L : Links Ref) (path : List Ref) : Prop where
  chain : path.IsChain L.Adjacent
  nodup : path.Nodup

theorem Path.next_eq {L : Links Ref} {pre post : List Ref} {x y : Ref}
    (h : L.Path (pre ++ x :: y :: post)) : L.next x = some y :=
  (List.isChain_append_cons_cons.mp h.chain).2.1.1

theorem Path.prev_eq {L : Links Ref} {pre post : List Ref} {x y : Ref}
    (h : L.Path (pre ++ x :: y :: post)) : L.prev y = some x :=
  (List.isChain_append_cons_cons.mp h.chain).2.1.2

theorem chain_frame {L L' : Links Ref} {path : List Ref} (h : path.IsChain L.Adjacent)
    (hkeep : ∀ a ∈ path, ∀ b ∈ path, L.Adjacent a b → L'.next a = L.next a ∧ L'.prev b = L.prev b) :
    path.IsChain L'.Adjacent := by
  refine h.imp_of_mem_imp fun a b ha hb hab => ?_
  obtain ⟨hnext, hprev⟩ := hkeep a ha b hb hab
  exact ⟨hnext.trans hab.1, hprev.trans hab.2⟩

variable [DecidableEq Ref]

def setNext (L : Links Ref) (x : Ref) (y : Option Ref) : Links Ref :=
  { L with next := Function.update L.next x y }

def setPrev (L : Links Ref) (x : Ref) (y : Option Ref) : Links Ref :=
  { L with prev := Function.update L.prev x y }

@[simp] theorem setPrev_next (L : Links Ref) (x : Ref) (y : Option Ref) :
    (L.setPrev x y).next = L.next := rfl

@[simp] theorem setNext_prev (L : Links Ref) (x : Ref) (y : Option Ref) :
    (L.setNext x y).prev = L.prev := rfl

/-- The four writes that put a node between `pos` and `succ`. -/
def link (L : Links Ref) (pos node succ : Ref) : Links Ref :=
  (((L.setPrev succ (some node)).setNext node (some succ)).setNext pos (some node)).setPrev node
    (some pos)

/-- The two writes that take out the node between `pred` and `succ`. -/
def unlink (L : Links Ref) (pred succ : Ref) : Links Ref :=
  (L.setNext pred (some succ)).setPrev succ (some pred)

theorem Path.link {L : Links Ref} {pre post : List Ref} {pos node succ : Ref}
    (h : L.Path (pre ++ pos :: succ :: post)) (hnew : node ∉ pre ++ pos :: succ :: post) :
    (L.link pos node succ).Path (pre ++ pos :: node :: succ :: post) := by
  have hnodup := h.nodup
  simp only [List.nodup_append, List.nodup_cons, List.mem_cons, not_or] at hnodup
  simp only [List.mem_append, List.mem_cons, not_or] at hnew
  obtain ⟨hpre, ⟨⟨hps, hppost⟩, hspost, hpost⟩, hdisj⟩ := hnodup
  obtain ⟨hnpre, hnpos, hnsucc, hnpost⟩ := hnew
  obtain ⟨hleft, hmid, hright⟩ := List.isChain_append_cons_cons.mp h.chain
  constructor
  · refine List.isChain_append_cons_cons.mpr ⟨?_, ?_, List.isChain_cons_cons.mpr ⟨?_, ?_⟩⟩
    · -- a step from `pos` inside the left part would lead to `succ`
      refine chain_frame hleft fun a ha b hb hab => ?_
      have hbsucc : b ≠ succ := by
        rintro rfl
        rcases List.mem_append.mp hb with hb | hb
        · exact hdisj _ hb _ (Or.inr (Or.inl rfl)) rfl
        · exact hps (List.mem_singleton.mp hb).symm
      have hapos : a ≠ pos := by
        rintro rfl
        exact hbsucc (Option.some.inj (hab.1.symm.trans hmid.1))
      have hmem : ∀ c ∈ pre ++ [pos], c ≠ node := by
        rintro c hc rfl
        rcases List.mem_append.mp hc with hc | hc
        · exact hnpre hc
        · exact hnpos (List.mem_singleton.mp hc)
      have hanode := hmem a ha
      have hbnode := hmem b hb
      simp [Links.link, setNext, setPrev, hapos, hanode, hbnode, hbsucc]
    · simp [Adjacent, Links.link, setNext, setPrev]
    · have hpn : node ≠ pos := hnpos
      have hsn : succ ≠ node := Ne.symm hnsucc
      simp [Adjacent, Links.link, setNext, setPrev, hpn, hsn]
    · -- a step to `succ` inside the right part would come from `pos`
      refine chain_frame hright fun a ha b hb hab => ?_
      have hapos : a ≠ pos := by
        rintro rfl
        rcases List.mem_cons.mp ha with heq | ha
        · exact hps heq
        · exact hppost ha
      have hbsucc : b ≠ succ := by
        rintro rfl
        exact hapos (Option.some.inj (hab.2.symm.trans hmid.2))
      have hmem : ∀ c ∈ succ :: post, c ≠ node := by
        rintro c hc rfl
        rcases List.mem_cons.mp hc with heq | hc
        · exact hnsucc heq
        · exact hnpost hc
      have hanode := hmem a ha
      have hbnode := hmem b hb
      simp [Links.link, setNext, setPrev, hapos, hanode, hbnode, hbsucc]
  · have hperm : (pre ++ pos :: node :: succ :: post).Perm (node :: (pre ++ pos :: succ :: post)) := by
      have hswap : (pos :: node :: succ :: post).Perm (node :: pos :: succ :: post) :=
        List.Perm.swap _ _ _
      exact (hswap.append_left pre).trans List.perm_middle
    rw [hperm.nodup_iff, List.nodup_cons]
    refine ⟨?_, h.nodup⟩
    simp only [List.mem_append, List.mem_cons, not_or]
    exact ⟨hnpre, hnpos, hnsucc, hnpost⟩

theorem Path.unlink {L : Links Ref} {pre post : List Ref} {pred node succ : Ref}
    (h : L.Path (pre ++ pred :: node :: succ :: post)) :
    (L.unlink pred succ).Path (pre ++ pred :: succ :: post) := by
  have hnodup := h.nodup
  simp only [List.nodup_append, List.nodup_cons, List.mem_cons, not_or] at hnodup
  obtain ⟨hpre, ⟨⟨hpn, hps, hppost⟩, ⟨hns, hnpost⟩, hspost, hpost⟩, hdisj⟩ := hnodup
  obtain ⟨hleft, hpred, hrest⟩ := List.isChain_append_cons_cons.mp h.chain
  obtain ⟨hsucc, hright⟩ := List.isChain_cons_cons.mp hrest
  constructor
  · refine List.isChain_append_cons_cons.mpr ⟨?_, ?_, ?_⟩
    · -- a step from `pred` inside the left part would lead to the node
      refine chain_frame hleft fun a _ b hb hab => ?_
      have hb' : ∀ c ∈ node :: succ :: post, b ≠ c := by
        rintro c hc rfl
        rcases List.mem_append.mp hb with hb | hb
        · exact hdisj _ hb _ (Or.inr (by simpa using hc)) rfl
        · obtain rfl := List.mem_singleton.mp hb
          rcases List.mem_cons.mp hc with heq | hc
          · exact hpn heq
          · rcases List.mem_cons.mp hc with heq | hc
            · exact hps heq
            · exact hppost hc
      have hapred : a ≠ pred := by
        rintro rfl
        exact hb' node List.mem_cons_self (Option.some.inj (hab.1.symm.trans hpred.1))
      have hbsucc : b ≠ succ := hb' succ (List.mem_cons_of_mem _ List.mem_cons_self)
      simp [Links.unlink, setNext, setPrev, hapred, hbsucc]
    · simp [Adjacent, Links.unlink, setNext, setPrev]
    · -- a step to `succ` inside the right part would come from the node
      refine chain_frame hright fun a ha b _ hab => ?_
      have hanode : a ≠ node := by
        rintro rfl
        rcases List.mem_cons.mp ha with heq | ha
        · exact hns heq
        · exact hnpost ha
      have hapred : a ≠ pred := by
        rintro rfl
        rcases List.mem_cons.mp ha with heq | ha
        · exact hps heq
        · exact hppost ha
      have hbsucc : b ≠ succ := by
        rintro rfl
        exact hanode (Option.some.inj (hab.2.symm.trans hsucc.2))
      simp [Links.unlink, setNext, setPrev, hapred, hbsucc]
  · refine h.nodup.sublist ?_
    exact ((List.sublist_cons_self node (succ :: post)).cons_cons pred).append_left pre

end Links

end LibtplEgl.DoublyLinked
