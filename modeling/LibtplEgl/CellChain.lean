import Mathlib.Data.List.Nodup
import Mathlib.Logic.Function.Basic

/-!
Singly linked chains of nodes that start at heads. A chain is described by the cells that point
to its nodes: the first one by its head, each other one by the `next` of the node before.
-/

namespace LibtplEgl.CellChain

universe u v

/-- A place that holds a pointer to a node. -/
inductive Cell (Head : Type u) (Node : Type v)
  | head (h : Head)
  | next (a : Node)
  deriving DecidableEq, Repr

abbrev Cells (Head : Type u) (Node : Type v) := Cell Head Node → Option Node

variable {Head : Type u} {Node : Type v}

/-- The nodes from a cell to the null pointer. -/
def Chain (C : Cells Head Node) : Cell Head Node → List Node → Prop
  | c, [] => C c = none
  | c, a :: as => C c = some a ∧ Chain C (.next a) as

/-- The nodes from a cell, each of which knows the cell that points to it. -/
def Back (P : Node → Option (Cell Head Node)) : Cell Head Node → List Node → Prop
  | _, [] => True
  | c, a :: as => P a = some c ∧ Back P (.next a) as

def lastCell : Cell Head Node → List Node → Cell Head Node
  | c, [] => c
  | _, a :: as => lastCell (.next a) as

def sources : Cell Head Node → List Node → List (Cell Head Node)
  | _, [] => []
  | c, a :: as => c :: sources (.next a) as

theorem lastCell_concat (c : Cell Head Node) (as : List Node) (a : Node) :
    lastCell c (as ++ [a]) = .next a := by
  induction as generalizing c with
  | nil => rfl
  | cons b as ih => exact ih (.next b)

theorem lastCell_mem (c : Cell Head Node) (as : List Node) :
    lastCell c as = c ∨ ∃ a ∈ as, lastCell c as = .next a := by
  rcases List.eq_nil_or_concat' as with rfl | ⟨front, a, rfl⟩
  · exact .inl rfl
  · exact .inr ⟨a, by simp, lastCell_concat c front a⟩

theorem lastCell_notMem_sources {c : Cell Head Node} {as : List Node} (hc : ∀ a ∈ as, c ≠ .next a)
    (hnodup : as.Nodup) : lastCell c as ∉ sources c as := by
  induction as generalizing c with
  | nil => exact List.not_mem_nil
  | cons a as ih =>
      obtain ⟨ha, hrest⟩ := List.nodup_cons.mp hnodup
      have hnext : ∀ b ∈ as, (.next a : Cell Head Node) ≠ .next b := by
        intro b hb heq
        cases heq
        exact ha hb
      intro hmem
      rcases List.mem_cons.mp hmem with heq | hmem
      · rcases lastCell_mem (.next a) as with hlast | ⟨b, hb, hlast⟩
        · exact hc a List.mem_cons_self (heq.symm.trans hlast)
        · exact hc b (List.mem_cons_of_mem _ hb) (heq.symm.trans hlast)
      · exact ih hnext hrest hmem

theorem Chain.drop {C : Cells Head Node} {c : Cell Head Node} {front back : List Node}
    (h : Chain C c (front ++ back)) : Chain C (lastCell c front) back := by
  induction front generalizing c with
  | nil => exact h
  | cons a front ih => exact ih h.2

theorem Chain.replace {C C' : Cells Head Node} {c : Cell Head Node} {front back back' : List Node}
    (h : Chain C c (front ++ back)) (hsame : ∀ x ∈ sources c front, C' x = C x)
    (hback : Chain C' (lastCell c front) back') : Chain C' c (front ++ back') := by
  induction front generalizing c with
  | nil => exact hback
  | cons a front ih =>
      refine ⟨(hsame c List.mem_cons_self).trans h.1, ?_⟩
      exact ih h.2 (fun x hx => hsame x (List.mem_cons_of_mem _ hx)) hback

theorem Chain.congr {C C' : Cells Head Node} {c c' : Cell Head Node} {as : List Node}
    (h : Chain C c as) (hc : C' c' = C c) (hnext : ∀ a ∈ as, C' (.next a) = C (.next a)) :
    Chain C' c' as := by
  induction as generalizing c c' with
  | nil => exact hc.trans h
  | cons a as ih =>
      refine ⟨hc.trans h.1, ih h.2 (hnext a List.mem_cons_self) ?_⟩
      exact fun b hb => hnext b (List.mem_cons_of_mem _ hb)

theorem Chain.head_eq {C : Cells Head Node} {c : Cell Head Node} {as : List Node}
    (h : Chain C c as) : C c = as.head? := by
  cases as with
  | nil => exact h
  | cons a as => exact h.1

theorem Chain.next_eq {C : Cells Head Node} {c : Cell Head Node} {front back : List Node}
    {a : Node} (h : Chain C c (front ++ a :: back)) : C (.next a) = back.head? :=
  h.drop.2.head_eq

theorem Chain.unique {C : Cells Head Node} {c : Cell Head Node} {as bs : List Node}
    (h : Chain C c as) (h' : Chain C c bs) : as = bs := by
  induction as generalizing c bs with
  | nil =>
      cases bs with
      | nil => rfl
      | cons b bs => cases h.symm.trans h'.1
  | cons a as ih =>
      cases bs with
      | nil => cases h.1.symm.trans h'
      | cons b bs =>
          obtain rfl := Option.some.inj (h.1.symm.trans h'.1)
          rw [ih h.2 h'.2]

theorem Back.drop {P : Node → Option (Cell Head Node)} {c : Cell Head Node}
    {front back : List Node} (h : Back P c (front ++ back)) : Back P (lastCell c front) back := by
  induction front generalizing c with
  | nil => exact h
  | cons a front ih => exact ih h.2

theorem Back.replace {P P' : Node → Option (Cell Head Node)} {c : Cell Head Node}
    {front back back' : List Node} (h : Back P c (front ++ back))
    (hsame : ∀ a ∈ front, P' a = P a) (hback : Back P' (lastCell c front) back') :
    Back P' c (front ++ back') := by
  induction front generalizing c with
  | nil => exact hback
  | cons a front ih =>
      refine ⟨(hsame a List.mem_cons_self).trans h.1, ?_⟩
      exact ih h.2 (fun b hb => hsame b (List.mem_cons_of_mem _ hb)) hback

theorem Back.congr {P P' : Node → Option (Cell Head Node)} {c : Cell Head Node}
    {as : List Node} (h : Back P c as) (hsame : ∀ a ∈ as, P' a = P a) : Back P' c as := by
  rw [← List.append_nil as] at h ⊢
  exact h.replace hsame trivial

theorem Back.eq_of_split {P : Node → Option (Cell Head Node)} {c : Cell Head Node}
    {front back : List Node} {a : Node} (h : Back P c (front ++ a :: back)) :
    P a = some (lastCell c front) :=
  h.drop.1

theorem Back.points {C : Cells Head Node} {P : Node → Option (Cell Head Node)}
    {c : Cell Head Node} {as : List Node} (h : Chain C c as) (hback : Back P c as) {a : Node}
    (ha : a ∈ as) : ∃ x, P a = some x ∧ C x = some a := by
  obtain ⟨front, back, rfl⟩ := List.append_of_mem ha
  exact ⟨lastCell c front, hback.eq_of_split, h.drop.1⟩

/-- The chains of all heads, which share no node. -/
structure Chains (C : Cells Head Node) (chains : Head → List Node) : Prop where
  chain : ∀ h, Chain C (.head h) (chains h)
  nodup : ∀ h, (chains h).Nodup
  disjoint : ∀ {h h' a}, a ∈ chains h → a ∈ chains h' → h = h'

def Backs (P : Node → Option (Cell Head Node)) (chains : Head → List Node) : Prop :=
  ∀ h, Back P (.head h) (chains h)

theorem Chains.congr {C C' : Cells Head Node} {chains : Head → List Node} (h : Chains C chains)
    (hhead : ∀ i, C' (.head i) = C (.head i))
    (hnext : ∀ i, ∀ a ∈ chains i, C' (.next a) = C (.next a)) : Chains C' chains :=
  ⟨fun i => (h.chain i).congr (hhead i) (hnext i), h.nodup, h.disjoint⟩

theorem chains_empty {C : Cells Head Node} (hhead : ∀ i, C (.head i) = none) :
    Chains C fun _ => [] :=
  ⟨hhead, fun _ => List.nodup_nil, fun ha _ => absurd ha List.not_mem_nil⟩

theorem Chains.ne_of_mem {C : Cells Head Node} {chains : Head → List Node} (h : Chains C chains)
    {i : Head} {front back : List Node} {a b : Node} (hi : chains i = front ++ a :: back)
    (hb : b ∈ front ++ back) : b ≠ a := by
  have hnodup := h.nodup i
  rw [hi] at hnodup
  rintro rfl
  exact (List.nodup_middle.mp hnodup).notMem hb

variable [DecidableEq Head]

theorem mem_push_iff {chains : Head → List Node} {i j : Head} {a b : Node} :
    b ∈ Function.update chains i (a :: chains i) j ↔ j = i ∧ b = a ∨ b ∈ chains j := by
  by_cases hj : j = i
  · subst hj
    simp
  · simp [hj]

theorem mem_of_remove {chains : Head → List Node} {i j : Head} {front back : List Node}
    {a b : Node} (hi : chains i = front ++ a :: back)
    (hb : b ∈ Function.update chains i (front ++ back) j) : b ∈ chains j := by
  by_cases hj : j = i
  · subst hj
    rw [Function.update_self] at hb
    rw [hi]
    exact ((List.sublist_cons_self a back).append_left front).subset hb
  · rwa [Function.update_of_ne hj] at hb

theorem Chains.ne_of_remove {C : Cells Head Node} {chains : Head → List Node} (h : Chains C chains)
    {i j : Head} {front back : List Node} {a b : Node} (hi : chains i = front ++ a :: back)
    (hb : b ∈ Function.update chains i (front ++ back) j) : b ≠ a := by
  rintro rfl
  have hj : j = i := by
    refine h.disjoint (mem_of_remove hi hb) ?_
    rw [hi]
    exact List.mem_append_right _ List.mem_cons_self
  rw [hj, Function.update_self] at hb
  exact h.ne_of_mem hi hb rfl

theorem Chains.update {C C' : Cells Head Node} {chains : Head → List Node} (h : Chains C chains)
    {i : Head} {as : List Node} (hchain : Chain C' (.head i) as) (hnodup : as.Nodup)
    (hmem : ∀ a ∈ as, a ∈ chains i ∨ ∀ j, a ∉ chains j)
    (hhead : ∀ j, j ≠ i → C' (.head j) = C (.head j))
    (hnext : ∀ j, j ≠ i → ∀ b ∈ chains j, C' (.next b) = C (.next b)) :
    Chains C' (Function.update chains i as) := by
  have hother : ∀ {j a}, a ∈ as → a ∈ chains j → j = i := by
    intro j a ha haj
    rcases hmem a ha with hai | hnew
    · exact h.disjoint haj hai
    · exact absurd haj (hnew j)
  refine ⟨fun j => ?_, fun j => ?_, fun {j j' a} ha ha' => ?_⟩
  · by_cases hj : j = i
    · subst hj
      rw [Function.update_self]
      exact hchain
    · rw [Function.update_of_ne hj]
      exact (h.chain j).congr (hhead j hj) (hnext j hj)
  · by_cases hj : j = i
    · subst hj
      rw [Function.update_self]
      exact hnodup
    · rw [Function.update_of_ne hj]
      exact h.nodup j
  · rw [Function.update_apply] at ha ha'
    by_cases hj : j = i
    · by_cases hj' : j' = i
      · exact hj.trans hj'.symm
      · rw [if_pos hj] at ha
        rw [if_neg hj'] at ha'
        exact absurd (hother ha ha') hj'
    · rw [if_neg hj] at ha
      by_cases hj' : j' = i
      · rw [if_pos hj'] at ha'
        exact absurd (hother ha' ha) hj
      · rw [if_neg hj'] at ha'
        exact h.disjoint ha ha'

theorem Backs.update {P P' : Node → Option (Cell Head Node)} {chains : Head → List Node}
    (h : Backs P chains) {i : Head} {as : List Node} (hback : Back P' (.head i) as)
    (hsame : ∀ j, j ≠ i → ∀ b ∈ chains j, P' b = P b) : Backs P' (Function.update chains i as) := by
  intro j
  by_cases hj : j = i
  · subst hj
    rw [Function.update_self]
    exact hback
  · rw [Function.update_of_ne hj]
    exact (h j).congr (hsame j hj)

variable [DecidableEq Node]

def push (C : Cells Head Node) (i : Head) (a : Node) : Cells Head Node :=
  Function.update (Function.update C (.next a) (C (.head i))) (.head i) (some a)

theorem Chains.push {C : Cells Head Node} {chains : Head → List Node} (h : Chains C chains)
    (i : Head) {a : Node} (hnew : ∀ j, a ∉ chains j) :
    Chains (push C i a) (Function.update chains i (a :: chains i)) := by
  have hnext : ∀ j, ∀ b ∈ chains j, CellChain.push C i a (.next b) = C (.next b) := by
    intro j b hb
    have hne : b ≠ a := by
      rintro rfl
      exact hnew j hb
    simp [CellChain.push, hne]
  refine h.update ⟨Function.update_self _ _ _, ?_⟩ (List.nodup_cons.mpr ⟨hnew i, h.nodup i⟩) ?_
    (fun j hj => by simp [CellChain.push, hj]) (fun j _ => hnext j)
  · exact (h.chain i).congr (by simp [CellChain.push]) (hnext i)
  · intro b hb
    rcases List.mem_cons.mp hb with rfl | hb
    · exact .inr hnew
    · exact .inl hb

theorem Chains.remove {C : Cells Head Node} {chains : Head → List Node} (h : Chains C chains)
    {i : Head} {front back : List Node} {a : Node} (hi : chains i = front ++ a :: back) :
    Chains (Function.update C (lastCell (.head i) front) (C (.next a)))
      (Function.update chains i (front ++ back)) := by
  have hchain := h.chain i
  have hnodup := h.nodup i
  rw [hi] at hchain hnodup
  obtain ⟨hfront, hrest, hdisjoint⟩ := List.nodup_append.mp hnodup
  have hsub : (front ++ back).Sublist (front ++ a :: back) :=
    (List.sublist_cons_self a back).append_left front
  have hmem : ∀ b ∈ front ++ back, b ∈ chains i := by
    intro b hb
    rw [hi]
    exact hsub.subset hb
  have hlast : ∀ j b, (lastCell (.head i) front : Cell Head Node) = .next b → b ∈ chains j →
      j = i ∧ b ∈ front := by
    intro j b heq hb
    rcases lastCell_mem (.head i) front with hhead | ⟨d, hd, hnext⟩
    · rw [hhead] at heq
      cases heq
    · rw [hnext] at heq
      cases heq
      exact ⟨h.disjoint hb (hmem b (List.mem_append_left _ hd)), hd⟩
  refine h.update ?_ (hnodup.sublist hsub) (fun b hb => .inl (hmem b hb)) ?_ ?_
  · refine hchain.replace (fun x hx => ?_) (hchain.drop.2.congr (Function.update_self _ _ _) ?_)
    · refine Function.update_of_ne ?_ _ _
      rintro rfl
      exact lastCell_notMem_sources (fun _ _ => by simp) hfront hx
    · intro b hb
      refine Function.update_of_ne (fun heq => ?_) _ _
      have hbi := hmem b (List.mem_append_right _ hb)
      exact hdisjoint b (hlast i b heq.symm hbi).2 b (List.mem_cons_of_mem _ hb) rfl
  · intro j hj
    refine Function.update_of_ne (fun heq => ?_) _ _
    rcases lastCell_mem (.head i) front with hhead | ⟨d, _, hnext⟩
    · rw [hhead] at heq
      cases heq
      exact hj rfl
    · rw [hnext] at heq
      cases heq
  · intro j hj b hb
    exact Function.update_of_ne (fun heq => hj (hlast j b heq.symm hb).1) _ _

/-- A node, if there is one, is told the cell that points to it. -/
def tell (P : Node → Option (Cell Head Node)) (node : Option Node) (c : Cell Head Node) :
    Node → Option (Cell Head Node) :=
  match node with
  | some b => Function.update P b (some c)
  | none => P

omit [DecidableEq Head] in
theorem tell_of_ne {P : Node → Option (Cell Head Node)} {node : Option Node} {b : Node}
    (h : node ≠ some b) (c : Cell Head Node) : tell P node c b = P b := by
  cases node with
  | none => rfl
  | some d =>
      refine Function.update_of_ne ?_ _ _
      rintro rfl
      exact h rfl

theorem Backs.push {P : Node → Option (Cell Head Node)} {C : Cells Head Node}
    {chains : Head → List Node} (h : Backs P chains) (hchains : Chains C chains) (i : Head)
    {a : Node} (hnew : ∀ j, a ∉ chains j) :
    Backs (Function.update (tell P (C (.head i)) (.next a)) a (some (.head i)))
      (Function.update chains i (a :: chains i)) := by
  have hfirst := (hchains.chain i).head_eq
  have hother : ∀ j, ∀ b ∈ chains j, C (.head i) ≠ some b →
      Function.update (tell P (C (.head i)) (.next a)) a (some (.head i)) b = P b := by
    intro j b hb hne
    have hba : b ≠ a := by
      rintro rfl
      exact hnew j hb
    rw [Function.update_of_ne hba, tell_of_ne hne]
  refine Backs.update h ⟨Function.update_self _ _ _, ?_⟩ ?_
  · have hback := h i
    have hnodup := hchains.nodup i
    cases hi : chains i with
    | nil => trivial
    | cons b bs =>
        rw [hi] at hback hfirst hnodup
        have hba : b ≠ a := by
          rintro rfl
          exact hnew i (hi ▸ List.mem_cons_self)
        refine ⟨?_, hback.2.congr fun d hd => hother i d ?_ ?_⟩
        · rw [hfirst, Function.update_of_ne hba]
          exact Function.update_self _ _ _
        · exact hi ▸ List.mem_cons_of_mem _ hd
        · rw [hfirst]
          rintro ⟨⟩
          exact (List.nodup_cons.mp hnodup).1 hd
  · intro j hj b hb
    refine hother j b hb fun heq => ?_
    rw [hfirst] at heq
    exact hj (hchains.disjoint hb (List.mem_of_head? heq))

theorem Backs.remove {P : Node → Option (Cell Head Node)} {C : Cells Head Node}
    {chains : Head → List Node} (h : Backs P chains) (hchains : Chains C chains)
    {i : Head} {front back : List Node} {a : Node} (hi : chains i = front ++ a :: back) :
    Backs (tell P back.head? (lastCell (.head i) front))
      (Function.update chains i (front ++ back)) := by
  have hback := h i
  have hnodup := hchains.nodup i
  rw [hi] at hback hnodup
  obtain ⟨-, hrest, hdisjoint⟩ := List.nodup_append.mp hnodup
  refine Backs.update h (hback.replace (fun d hd => tell_of_ne (fun heq => ?_) _) ?_) ?_
  · exact hdisjoint d hd d (List.mem_cons_of_mem _ (List.mem_of_head? heq)) rfl
  · have hafter := hback.drop.2
    cases back with
    | nil => trivial
    | cons b back =>
        refine ⟨Function.update_self _ _ _, hafter.2.congr fun d hd => tell_of_ne ?_ _⟩
        rintro ⟨⟩
        exact (List.nodup_cons.mp (List.nodup_cons.mp hrest).2).1 hd
  · intro j hj d hd
    refine tell_of_ne (fun heq => hj (hchains.disjoint hd ?_)) _
    rw [hi]
    exact List.mem_append_right _ (List.mem_cons_of_mem _ (List.mem_of_head? heq))

end LibtplEgl.CellChain
