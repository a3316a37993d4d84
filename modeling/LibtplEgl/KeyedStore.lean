import Mathlib.Data.List.Induction
import Mathlib.Data.Set.Defs
import Mathlib.Tactic.TypeStar

namespace LibtplEgl.KeyedStore

universe u v w x

/-- One write to a keyed store: a value of `none` deletes what the key holds.
`extra` is what the store keeps beside the value and never reads back. -/
structure Write (Key : Type u) (Value : Type v) (Extra : Type x) where
  key : Key
  value : Option Value
  extra : Extra

section

variable {Key : Type u} {Value : Type v} {Store : Type w} {Extra : Type x}

/-- What the last write with a key related to `k` left there. -/
def lastWrite (same : Key → Key → Prop) [DecidableRel same]
    (writes : List (Write Key Value Extra)) (k : Key) : Option Value :=
  writes.foldl (fun found w => if same w.key k then w.value else found) none

/-- A store, given by its write and read functions, that behaves from `start`
on as a partial map from the classes of `same`. -/
def Realizes (same : Key → Key → Prop) [DecidableRel same] (start : Store)
    (write : Store → Write Key Value Extra → Store) (read : Store → Key → Option Value) : Prop :=
  ∀ writes k, read (writes.foldl write start) k = lastWrite same writes k

/-- Isolation of a set of keys: a key reads back what was last written with
exactly that key, and a write with another key does not change what it reads. -/
def Isolated [DecidableEq Key] (start : Store)
    (write : Store → Write Key Value Extra → Store) (read : Store → Key → Option Value)
    (keys : Set Key) : Prop :=
  ∀ writes : List (Write Key Value Extra), (∀ w ∈ writes, w.key ∈ keys) → ∀ k ∈ keys,
    read (writes.foldl write start) k = lastWrite (· = ·) writes k ∧
    ∀ w : Write Key Value Extra, w.key ∈ keys → w.key ≠ k →
      read (write (writes.foldl write start) w) k = read (writes.foldl write start) k

theorem lastWrite_concat (same : Key → Key → Prop) [DecidableRel same]
    (writes : List (Write Key Value Extra)) (w : Write Key Value Extra) (k : Key) :
    lastWrite same (writes ++ [w]) k =
      if same w.key k then w.value else lastWrite same writes k := by
  simp [lastWrite, List.foldl_append]

theorem lastWrite_congr (same same' : Key → Key → Prop) [DecidableRel same]
    [DecidableRel same'] (writes : List (Write Key Value Extra)) (k : Key)
    (h : ∀ w ∈ writes, (same w.key k ↔ same' w.key k)) :
    lastWrite same writes k = lastWrite same' writes k := by
  induction writes using List.reverseRecOn with
  | nil => rfl
  | append_singleton writes w ih =>
      rw [lastWrite_concat, lastWrite_concat, ih fun w' hw' => h w' (by simp [hw'])]
      simp only [h w (by simp)]

theorem Realizes.read_write {same : Key → Key → Prop} [DecidableRel same] {start : Store}
    {write : Store → Write Key Value Extra → Store} {read : Store → Key → Option Value}
    (h : Realizes same start write read) (writes : List (Write Key Value Extra))
    (w : Write Key Value Extra) (k : Key) :
    read (write (writes.foldl write start) w) k =
      if same w.key k then w.value else read (writes.foldl write start) k := by
  have hconcat := h (writes ++ [w]) k
  rw [List.foldl_append, List.foldl_cons, List.foldl_nil, lastWrite_concat] at hconcat
  rw [hconcat, h writes k]

/-- A store that is a map on classes of keys isolates exactly the sets of keys
that meet every class at most once. -/
theorem Realizes.isolated_iff [DecidableEq Key] [Inhabited Value] [Inhabited Extra]
    {same : Key → Key → Prop} [DecidableRel same] {start : Store}
    {write : Store → Write Key Value Extra → Store} {read : Store → Key → Option Value}
    (hrefl : ∀ k, same k k) (h : Realizes same start write read) (keys : Set Key) :
    Isolated start write read keys ↔
      ∀ k₁ ∈ keys, ∀ k₂ ∈ keys, same k₁ k₂ → k₁ = k₂ := by
  constructor
  · intro hiso k₁ hk₁ k₂ hk₂ hsame
    by_contra hne
    -- One write with `k₁` on the empty store is seen through `k₂`.
    have hkeep := (hiso [] (by simp) k₂ hk₂).2 ⟨k₁, some default, default⟩ hk₁ hne
    rw [h.read_write, if_pos hsame, h [] k₂] at hkeep
    cases hkeep
  · intro hkeys writes hwrites k hk
    have hclass : ∀ w : Write Key Value Extra, w.key ∈ keys → (same w.key k ↔ w.key = k) := by
      intro w hw
      refine ⟨hkeys w.key hw k hk, ?_⟩
      intro heq
      rw [heq]
      exact hrefl k
    refine ⟨?_, ?_⟩
    · rw [h writes k]
      exact lastWrite_congr _ _ writes k fun w hw => hclass w (hwrites w hw)
    · intro w hw hne
      rw [h.read_write, if_neg (fun hsame => hne ((hclass w hw).mp hsame))]

end

end LibtplEgl.KeyedStore
