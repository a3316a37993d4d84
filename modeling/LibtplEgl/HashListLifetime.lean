import LibtplEgl.HashList

namespace LibtplEgl.HashListLifetime

open LibtplEgl.CellChain
open LibtplEgl.HashList
open LibtplEgl.TplTypes

section

variable {w : Nat} {Addr Data : Type} [DecidableEq Addr]

/-- `__tpl_hlist_del` and `free`. -/
def freeNode (s : HashState w Addr Data) (pos : Addr) : Option (HashState w Addr Data) := do
  let s ← hlistDel s pos
  if s.allocated pos then some (s.free pos) else none

/-- The inner loop of `__tpl_hashlist_destroy`. -/
def destroyNodes : Nat → Option Addr → HashState w Addr Data → Option (HashState w Addr Data)
  | 0, _, _ => none
  | _ + 1, none, s => some s
  | fuel + 1, some pos, s => do
      let next ← s.readCell (.next pos)
      let s ← freeNode s pos
      destroyNodes fuel next s

def destroyHeads (fuel : Nat) : List HeadIndex → HashState w Addr Data →
    Option (HashState w Addr Data)
  | [], s => some s
  | i :: rest, s => do
      match ← s.readCell (.head i) with
      | none => destroyHeads fuel rest s
      | some pos => do
          let s ← destroyNodes fuel (some pos) s
          destroyHeads fuel rest s

/-- `__tpl_hashlist_destroy` up to the `free` of the heads and of the list. -/
def hashlistDestroy (fuel : Nat) (s : HashState w Addr Data) : Option (HashState w Addr Data) :=
  destroyHeads fuel (List.finRange numOfHeads) s

variable {s : HashState w Addr Data} {chains : HeadIndex → List Addr} {m : KeyMap w Data}

theorem freeNode_eq (h : Refines s chains m) {i : HeadIndex} {a : Addr} {back : List Addr}
    (hi : chains i = a :: back) : freeNode s a = some (withoutNode s a (.head i)) := by
  have hchain := h.linked.chain i
  have hbacks := h.backs i
  rw [hi] at hchain hbacks
  have hmem : ∀ b ∈ a :: back, s.allocated b = true := fun b hb => h.live i b (hi ▸ hb)
  refine deleteNode_eq (hmem a List.mem_cons_self) rfl hbacks.1 fun b hb => ?_
  rw [hchain.2.head_eq] at hb
  exact hmem b (List.mem_cons_of_mem _ (List.mem_of_head? hb))

theorem destroyNodes_eq (h : Refines s chains m) (i : HeadIndex) :
    ∃ s' m', (∀ fuel > (chains i).length, destroyNodes fuel (chains i).head? s = some s') ∧
      Refines s' (Function.update chains i []) m' ∧
      ∀ a, s'.allocated a = true ↔ s.allocated a = true ∧ a ∉ chains i := by
  generalize hi : chains i = as
  induction as generalizing s chains m with
  | nil =>
      refine ⟨s, m, fun fuel hfuel => ?_, ?_, fun a => by simp⟩
      · obtain ⟨fuel, rfl⟩ := Nat.exists_eq_add_one.mpr hfuel
        rfl
      · rw [← hi, Function.update_eq_self]
        exact h
  | cons a back ih =>
      have hhead : headOf (s.key a) = i := h.bucket i a (hi ▸ List.mem_cons_self)
      have hsplit : chains (headOf (s.key a)) = [] ++ a :: back := by rw [hhead, hi]; rfl
      have hdelete := h.delete hsplit rfl
      rw [hhead] at hdelete
      obtain ⟨s', m', hloop, hrefines, hallocated⟩ := ih hdelete (Function.update_self _ _ _)
      rw [Function.update_idem] at hrefines
      refine ⟨s', m', fun fuel hfuel => ?_, hrefines, fun b => ?_⟩
      · obtain ⟨fuel, rfl⟩ := Nat.exists_eq_add_one.mpr (Nat.zero_lt_of_lt hfuel)
        have hchain := h.linked.chain i
        rw [hi] at hchain
        have hnext : s.readCell (.next a) = some back.head? := by
          rw [HashState.readCell, HashState.live, if_pos (h.live i a (hi ▸ List.mem_cons_self)),
            hchain.2.head_eq]
        have hrest := hloop fuel (Nat.lt_of_succ_lt_succ hfuel)
        simp [destroyNodes, hnext, freeNode_eq h hi, lastCell] at hrest ⊢
        exact hrest
      · rw [hallocated]
        show Function.update s.allocated a false b = true ∧ b ∉ back ↔ _
        by_cases hb : b = a
        · subst hb
          simp
        · simp [hb]

theorem destroyHeads_eq (h : Refines s chains m) (heads : List HeadIndex) :
    ∃ n s' m', (∀ fuel ≥ n, destroyHeads fuel heads s = some s') ∧
      Refines s' (fun i => if i ∈ heads then [] else chains i) m' ∧
      ∀ a, s'.allocated a = true ↔ s.allocated a = true ∧ ∀ i ∈ heads, a ∉ chains i := by
  induction heads generalizing s chains m with
  | nil => exact ⟨0, s, m, fun _ _ => rfl, by simpa using h, fun a => by simp⟩
  | cons i heads ih =>
      obtain ⟨s₁, m₁, hnodes, hrefines, hallocated⟩ := destroyNodes_eq h i
      obtain ⟨n, s', m', hheads, hrefines', hallocated'⟩ := ih hrefines
      have hread : s.readCell (.head i) = some (chains i).head? := by
        rw [← (h.linked.chain i).head_eq]
        rfl
      refine ⟨max n ((chains i).length + 1), s', m', fun fuel hfuel => ?_, ?_, fun a => ?_⟩
      · have hfirst := hnodes fuel (le_trans (le_max_right _ _) hfuel)
        have hrest := hheads fuel (le_trans (le_max_left _ _) hfuel)
        cases hhead : (chains i).head? with
        | none =>
            obtain ⟨fuel, rfl⟩ := Nat.exists_eq_add_one.mpr
              (Nat.lt_of_lt_of_le (Nat.succ_pos _) (le_trans (le_max_right _ _) hfuel))
            rw [hhead] at hread hfirst
            obtain rfl := Option.some.inj hfirst
            simp [destroyHeads, hread, hrest]
        | some pos =>
            rw [hhead] at hread hfirst
            simp [destroyHeads, hread, hfirst, hrest]
      · refine Eq.mp (congrArg (Refines s' · m') (funext fun j => ?_)) hrefines'
        by_cases hj : j = i
        · subst hj
          simp
        · simp [hj]
      · rw [hallocated', hallocated, and_assoc]
        refine and_congr_right fun _ => ?_
        constructor
        · rintro ⟨ha, hrest⟩ j hj
          rcases List.mem_cons.mp hj with rfl | hj
          · exact ha
          · by_cases hji : j = i
            · rw [hji]
              exact ha
            · have hja := hrest j hj
              rwa [Function.update_of_ne hji] at hja
        · intro hall
          refine ⟨hall i List.mem_cons_self, fun j hj => ?_⟩
          by_cases hji : j = i
          · rw [hji, Function.update_self]
            exact List.not_mem_nil
          · rw [Function.update_of_ne hji]
            exact hall j (List.mem_cons_of_mem _ hj)

def lastState (s : HashState w Addr Data) :
    List (Reply Data × HashState w Addr Data) → HashState w Addr Data
  | [] => s
  | out :: rest => lastState out.2 rest

/-- A list from `__tpl_hashlist_create` to `__tpl_hashlist_destroy`. -/
def life (fuel : Nat) (s : HashState w Addr Data) (ops : List (Op w Addr Data)) :
    Option (HashState w Addr Data) := do
  let trace ← run fuel (hashlistCreate s) ops
  hashlistDestroy fuel (lastState (hashlistCreate s) trace)

/-- The memory of other code once it has set `allocated`: what is not a node of the list. -/
def othersAfter (s : HashState w Addr Data) (others : Addr → Prop) : Op w Addr Data → Addr → Prop
  | .elsewhere allocated => fun a => allocated a = true ∧ ¬Listed s a
  | _ => others

def OthersAt : HashState w Addr Data → (Addr → Prop) → List (Op w Addr Data) →
    List (Reply Data × HashState w Addr Data) → Addr → Prop
  | s, others, op :: ops, out :: rest => OthersAt out.2 (othersAfter s others op) ops rest
  | _, others, _, _ => others

/-- The memory in use is the nodes of the list and what other code has. -/
structure Divided (s : HashState w Addr Data) (chains : HeadIndex → List Addr)
    (others : Addr → Prop) : Prop where
  allocated : ∀ a, s.allocated a = true ↔ others a ∨ ∃ i, a ∈ chains i
  apart : ∀ a, others a → ∀ i, a ∉ chains i

variable {others : Addr → Prop}

omit [DecidableEq Addr] in
theorem listed_iff (h : Refines s chains m) (a : Addr) : Listed s a ↔ ∃ i, a ∈ chains i := by
  constructor
  · rintro ⟨i, as, hchain, ha⟩
    rw [hchain.unique (h.linked.chain i)] at ha
    exact ⟨i, ha⟩
  · rintro ⟨i, ha⟩
    exact ⟨i, chains i, h.linked.chain i, ha⟩

theorem Divided.insert (h : Divided s chains others) {a : Addr} (hfresh : s.allocated a = false)
    (i : HeadIndex) (key : BitVec w) (data : Option Data) :
    Divided (withNode s a key data) (Function.update chains i (a :: chains i)) others := by
  have hother : ¬others a := fun ha => by
    rw [(h.allocated a).mpr (Or.inl ha)] at hfresh
    cases hfresh
  constructor
  · intro b
    show Function.update s.allocated a true b = true ↔ _
    by_cases hb : b = a
    · subst hb
      exact iff_of_true (Function.update_self _ _ _)
        (Or.inr ⟨i, mem_push_iff.mpr (Or.inl ⟨rfl, rfl⟩)⟩)
    · rw [Function.update_of_ne hb, h.allocated]
      refine or_congr_right (exists_congr fun j => ?_)
      rw [mem_push_iff]
      exact ⟨Or.inr, fun hmem => hmem.resolve_left fun heq => hb heq.2⟩
  · intro b hb j hj
    rcases mem_push_iff.mp hj with ⟨-, rfl⟩ | hj
    · exact hother hb
    · exact h.apart b hb j hj

theorem Divided.delete (h : Divided s chains others) (hlinked : Chains s.cells chains)
    {i : HeadIndex} {front back : List Addr} {a : Addr} (hi : chains i = front ++ a :: back)
    (c : Cell HeadIndex Addr) :
    Divided (withoutNode s a c) (Function.update chains i (front ++ back)) others := by
  have ha : a ∈ chains i := by
    rw [hi]
    exact List.mem_append_right _ List.mem_cons_self
  constructor
  · intro b
    show Function.update s.allocated a false b = true ↔ _
    by_cases hb : b = a
    · subst hb
      rw [Function.update_self]
      refine iff_of_false (by decide) ?_
      rintro (hother | ⟨j, hj⟩)
      · exact h.apart b hother i ha
      · exact hlinked.ne_of_remove hi hj rfl
    · rw [Function.update_of_ne hb, h.allocated]
      refine or_congr_right ⟨?_, fun ⟨j, hj⟩ => ⟨j, mem_of_remove hi hj⟩⟩
      rintro ⟨j, hj⟩
      by_cases hji : j = i
      · subst hji
        refine ⟨j, ?_⟩
        rw [hi] at hj
        rw [Function.update_self]
        rcases List.mem_append.mp hj with hfront | hback
        · exact List.mem_append_left _ hfront
        · exact List.mem_append_right _ ((List.mem_cons.mp hback).resolve_left hb)
      · exact ⟨j, by rwa [Function.update_of_ne hji]⟩
  · exact fun b hb j hj => h.apart b hb j (mem_of_remove hi hj)

theorem hashlistInsert_eq (h : Refines s chains m) {key : BitVec w} (hkey : m key = none)
    (a : Addr) (data : Option Data) {fuel : Nat} (hfuel : (chains (headOf key)).length < fuel) :
    hashlistInsert fuel s key data (some a) = some (.errorNone, withNode s a key data) := by
  have hnode := h.isSome_iff key
  rw [hkey, Option.isSome_none] at hnode
  have hfirst : ∀ b, s.cells (.head (headOf key)) = some b → s.allocated b = true := by
    intro b hb
    rw [(h.linked.chain (headOf key)).head_eq] at hb
    exact h.live _ b (List.mem_of_head? hb)
  obtain ⟨s₁, hinit, hwrites⟩ := Option.bind_eq_some_iff.mp (insertNode_eq a key data hfirst)
  obtain ⟨s₂, hentry, hadd⟩ := Option.bind_eq_some_iff.mp hwrites
  simp [hashlistInsert, h.getNode key hfuel, ← hnode, hinit, hentry, hadd]

theorem hashlistDelete_eq (h : Refines s chains m) {key : BitVec w} {front back : List Addr}
    {a : Addr} (hfind : (chains (headOf key)).find? (fun b => s.key b = key) = some a)
    (hi : chains (headOf key) = front ++ a :: back) {fuel : Nat}
    (hfuel : (chains (headOf key)).length < fuel) :
    hashlistDelete fuel s key =
      some (withoutNode s a (lastCell (.head (headOf key)) front)) := by
  have hmem : ∀ b ∈ front ++ a :: back, s.allocated b = true :=
    fun b hb => h.live (headOf key) b (hi ▸ hb)
  have hchain := h.linked.chain (headOf key)
  have hback := h.backs (headOf key)
  rw [hi] at hchain hback
  rw [hashlistDelete, h.getNode key hfuel, hfind]
  refine deleteNode_eq (hmem a (List.mem_append_right _ List.mem_cons_self)) ?_
    hback.eq_of_split fun b hb => ?_
  · rcases lastCell_mem (.head (headOf key)) front with hhead | ⟨b, hb, hnext⟩
    · rw [hhead]
      rfl
    · rw [hnext]
      exact hmem b (List.mem_append_left _ hb)
  · rw [hchain.next_eq] at hb
    exact hmem b (List.mem_append_right _ (List.mem_cons_of_mem _ (List.mem_of_head? hb)))

theorem step_divided (h : Refines s chains m) (hdivided : Divided s chains others)
    {op : Op w Addr Data} (hop : Permitted s op) :
    ∃ n reply s' chains' m', (∀ fuel ≥ n, step fuel s op = some (reply, s')) ∧
      Refines s' chains' m' ∧ Divided s' chains' (othersAfter s others op) := by
  cases op with
  | insert key data alloc =>
      obtain ⟨s', chains', hinsert, -, hsame⟩ := h.insert_refines hop key data
      by_cases hresult : insertResult m key alloc = .errorNone
      · have hkey : m key = none := by
          by_contra hne
          rw [insertResult, if_pos (Option.isSome_iff_ne_none.mpr hne)] at hresult
          cases hresult
        obtain ⟨a, rfl⟩ : ∃ a, alloc = some a := by
          cases alloc with
          | none => simp [insertResult, hkey] at hresult
          | some a => exact ⟨a, rfl⟩
        refine ⟨(chains (headOf key)).length + 1, .result .errorNone, _, _, _,
          fun fuel hfuel => ?_, h.insert (hop a rfl) hkey data, hdivided.insert (hop a rfl) _ _ _⟩
        simp [step, hashlistInsert_eq h hkey a data hfuel]
      · obtain rfl := hsame hresult
        refine ⟨(chains (headOf key)).length + 1, .result (insertResult m key alloc), s', chains, m,
          fun fuel hfuel => ?_, h, hdivided⟩
        simp [step, hinsert fuel hfuel]
  | delete key =>
      cases hfind : (chains (headOf key)).find? fun a => s.key a = key with
      | none =>
          refine ⟨(chains (headOf key)).length + 1, .void, s, chains, m, fun fuel hfuel => ?_, h,
            hdivided⟩
          simp [step, hashlistDelete, h.getNode key hfuel, hfind]
      | some a =>
          have hkey : s.key a = key := by simpa using List.find?_some hfind
          obtain ⟨front, back, hi⟩ := List.append_of_mem (List.mem_of_find?_eq_some hfind)
          refine ⟨(chains (headOf key)).length + 1, .void, _, _, _, fun fuel hfuel => ?_,
            h.delete hi hkey, hdivided.delete h.linked hi _⟩
          simp [step, hashlistDelete_eq h hfind hi hfuel]
  | lookup key =>
      refine ⟨(chains (headOf key)).length + 1, .data (m key).join, s, chains, m,
        fun fuel hfuel => ?_, h, hdivided⟩
      simp [step, h.lookup key hfuel]
  | doForAllNodes cbFunc =>
      obtain ⟨n, reply, s', -, hstep, -⟩ := step_refines h hop
      refine ⟨n, reply, s, chains, m, fun fuel hfuel => ?_, h, hdivided⟩
      have hstep' := hstep fuel hfuel
      obtain ⟨ds, hds, heq⟩ := Option.map_eq_some_iff.mp hstep'
      cases heq
      exact hstep'
  | elsewhere allocated =>
      refine ⟨0, .void, { s with allocated := allocated }, chains, m, fun fuel _ => rfl,
        ⟨h.linked, h.backs, h.bucket, h.keys, fun i a ha => hop a ⟨i, _, h.linked.chain i, ha⟩,
          h.content⟩, ⟨fun a => ?_, fun a ha i hi => ?_⟩⟩
      · by_cases hlisted : Listed s a
        · exact iff_of_true (hop a hlisted) (Or.inr ((listed_iff h a).mp hlisted))
        · constructor
          · exact fun ha => Or.inl ⟨ha, hlisted⟩
          · rintro (ha | hmem)
            · exact ha.1
            · exact absurd ((listed_iff h a).mpr hmem) hlisted
      · exact ha.2 ((listed_iff h a).mpr ⟨i, hi⟩)

theorem run_divided (h : Refines s chains m) (hdivided : Divided s chains others)
    {ops : List (Op w Addr Data)} (hops : PermittedRun s ops) :
    ∃ n trace chains' m', (∀ fuel ≥ n, run fuel s ops = some trace) ∧
      Refines (lastState s trace) chains' m' ∧
      Divided (lastState s trace) chains' (OthersAt s others ops trace) := by
  induction ops generalizing s chains m others with
  | nil => exact ⟨0, [], chains, m, fun _ _ => rfl, h, hdivided⟩
  | cons op ops ih =>
      obtain ⟨hop, hrest⟩ := hops
      obtain ⟨n₁, reply, s', chains₁, m₁, hstep, hrefines, hafter⟩ := step_divided h hdivided hop
      obtain ⟨n₂, trace, chains', m', hrun, hrefines', hat⟩ :=
        ih hrefines hafter (hrest _ _ _ (hstep n₁ (le_refl _)))
      refine ⟨max n₁ n₂, (reply, s') :: trace, chains', m', fun fuel hfuel => ?_, hrefines', hat⟩
      have hfirst := hstep fuel (le_trans (le_max_left _ _) hfuel)
      have hlater := hrun fuel (le_trans (le_max_right _ _) hfuel)
      simp [run, hfirst, hlater]

/-- The life of a list frees what it has allocated and nothing else, and reads no node that is
free: when it ends, the memory in use is that of other code. -/
theorem life_frees (s₀ : HashState w Addr Data) {ops : List (Op w Addr Data)}
    (hops : PermittedRun (hashlistCreate s₀) ops) :
    ∃ n trace s', (∀ fuel ≥ n, run fuel (hashlistCreate s₀) ops = some trace ∧
        life fuel s₀ ops = some s') ∧
      ∀ a, s'.allocated a = true ↔
        OthersAt (hashlistCreate s₀) (fun a => s₀.allocated a = true) ops trace a := by
  have hstart : Divided (hashlistCreate s₀) (fun _ => []) fun a => s₀.allocated a = true :=
    ⟨fun a => by simp [hashlistCreate], fun _ _ _ => List.not_mem_nil⟩
  obtain ⟨n₁, trace, chains, m, hrun, hrefines, hdivided⟩ :=
    run_divided (hashlistCreate_refines s₀) hstart hops
  obtain ⟨n₂, s', m', hdestroy, -, hallocated⟩ :=
    destroyHeads_eq hrefines (List.finRange numOfHeads)
  refine ⟨max n₁ n₂, trace, s', fun fuel hfuel => ?_, fun a => ?_⟩
  · have hfirst := hrun fuel (le_trans (le_max_left _ _) hfuel)
    have hlater := hdestroy fuel (le_trans (le_max_right _ _) hfuel)
    exact ⟨hfirst, by simp [life, hashlistDestroy, hfirst, hlater]⟩
  · rw [hallocated, hdivided.allocated]
    constructor
    · rintro ⟨hother | ⟨i, hi⟩, hnone⟩
      · exact hother
      · exact absurd hi (hnone i (List.mem_finRange i))
    · exact fun hother => ⟨Or.inl hother, fun i _ => hdivided.apart a hother i⟩

end

def busyHeap : HashState 64 Nat Nat where
  cells := fun _ => some 9
  pprev := fun _ => none
  key := fun _ => 0
  data := fun _ => none
  allocated := fun a => a = 7

def twoKeys : List (Op 64 Nat Nat) :=
  [.insert 5 (some 50) (some 1), .insert 6 none (some 2), .delete 5]

theorem life_frees_twoKeys :
    ∃ n trace s', (∀ fuel ≥ n, run fuel (hashlistCreate busyHeap) twoKeys = some trace ∧
        life fuel busyHeap twoKeys = some s') ∧
      ∀ a, s'.allocated a = true ↔
        OthersAt (hashlistCreate busyHeap) (fun a => busyHeap.allocated a = true) twoKeys trace a := by
  refine life_frees busyHeap ⟨?_, fun fuel reply s' hstep => ⟨?_, fun _ _ _ _ =>
    ⟨trivial, fun _ _ _ _ => trivial⟩⟩⟩
  · intro a ha
    cases ha
    rfl
  · intro a ha
    cases ha
    cases fuel with
    | zero => cases hstep
    | succ fuel =>
        have hinsert : hashlistInsert (fuel + 1) (hashlistCreate busyHeap) 5 (some 50) (some 1) =
            some (.errorNone, withNode (hashlistCreate busyHeap) 1 5 (some 50)) :=
          hashlistInsert_eq (hashlistCreate_refines busyHeap) rfl 1 (some 50) (Nat.succ_pos fuel)
        rw [step, hinsert] at hstep
        cases hstep
        decide

end LibtplEgl.HashListLifetime
