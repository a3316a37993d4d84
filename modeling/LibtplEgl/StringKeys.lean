import LibtplEgl.MapOwnership
import Mathlib.Data.List.Find
import Mathlib.Data.List.Nodup

namespace LibtplEgl.StringKeys

open LibtplEgl.KeyedStore
open LibtplEgl.MapOwnership
open LibtplEgl.UtilMap

abbrev StringByte := { b : BitVec 8 // b ≠ 0#8 }

abbrev Text := List StringByte

/-- `key.ptr`: a buffer of a caller, or the bytes behind an entry. -/
inductive KeyRef (Buffer Addr : Type)
  | caller (b : Buffer)
  | stored (a : Addr)
  deriving DecidableEq, Repr

/-- The functions given to `tpl_util_map_create` beside `strlen`. Those of a key are given the
bytes before its end, whose number is the length; a compare returns 0 for equal strings only. -/
structure StringFuncs where
  hash : Text → CInt
  compare : Text → Text → CInt
  compare_eq_zero_iff : ∀ a b, compare a b = 0#32 ↔ a = b
  bucketBits : Nat
  bucketBits_le : bucketBits ≤ 30

/-- A map with string keys: its chains, the strings in the buffers of the callers, the bytes
copied behind each entry, and those that follow them up to the next byte that is zero. -/
structure State (Buffer Addr Data FreeFunc : Type) where
  buckets : Nat → List (MapEntry (KeyRef Buffer Addr) Data FreeFunc)
  buffer : Buffer → Text
  copy : Addr → Text
  following : Addr → Text

section

variable {Buffer Addr Data FreeFunc : Type}

/-- The string that `strlen` finds at a pointer. No zero byte is copied behind an entry. -/
def State.text (s : State Buffer Addr Data FreeFunc) : KeyRef Buffer Addr → Text
  | .caller b => s.buffer b
  | .stored a => s.copy a ++ s.following a

def State.strlen (s : State Buffer Addr Data FreeFunc) (key : KeyRef Buffer Addr) : Int :=
  (s.text key).length

variable (funcs : StringFuncs)

/-- `tpl_util_map_create`, in the memory of a state. -/
def config (s : State Buffer Addr Data FreeFunc) : MapConfig (KeyRef Buffer Addr) where
  hashFunc key _ := funcs.hash (s.text key)
  keyLengthFunc := some s.strlen
  keyCompareFunc key₀ _ key₁ _ := funcs.compare (s.text key₀) (s.text key₁)
  bucketBits := funcs.bucketBits
  bucketBits_le := funcs.bucketBits_le

def mapGet (s : State Buffer Addr Data FreeFunc) (key : Buffer) : Option Data :=
  mapGetLoop (config funcs s) (.caller key)
    (s.buckets ((config funcs s).getBucketIndex (.caller key)))

variable [DecidableEq Addr]

/-- The new entry of `tpl_util_map_set`: the bytes of a key that is not empty are copied behind
it, without the one that ends them, and it keeps the pointer to an empty key. -/
def newEntry (s : State Buffer Addr Data FreeFunc) (index : Nat) (key : Buffer) (data : Data)
    (freeFunc : Option FreeFunc) (curr : Addr) : State Buffer Addr Data FreeFunc :=
  let keyLength := s.strlen (.caller key)
  if keyLength > 0 then
    { s with
      copy := Function.update s.copy curr ((s.buffer key).take keyLength.toNat)
      buckets := Function.update s.buckets index
        ({ key := .stored curr, data, freeFunc } :: s.buckets index) }
  else
    { s with
      buckets := Function.update s.buckets index
        ({ key := .caller key, data, freeFunc } :: s.buckets index) }

/-- `tpl_util_map_set`, with the entry that `malloc` returns. -/
def mapSet (s : State Buffer Addr Data FreeFunc) (key : Buffer) (data : Option Data)
    (freeFunc : Option FreeFunc) (alloc : Option Addr) : State Buffer Addr Data FreeFunc :=
  let index := (config funcs s).getBucketIndex (.caller key)
  match mapSetLoop (config funcs s) (.caller key) data freeFunc (s.buckets index) with
  | some (chain, _) => { s with buckets := Function.update s.buckets index chain }
  | none =>
      match data, alloc with
      | some data, some curr => newEntry s index key data freeFunc curr
      | _, _ => s

def mapClear (s : State Buffer Addr Data FreeFunc) : State Buffer Addr Data FreeFunc :=
  { s with
    buckets := fun i => if i < (config funcs s).bucketSize.toNat then [] else s.buckets i }

end

section

variable {Buffer Addr Data FreeFunc : Type}

/-- The string under which an entry with the key was made: only empty keys are kept by their
pointer. -/
def State.origin (s : State Buffer Addr Data FreeFunc) : KeyRef Buffer Addr → Text
  | .caller _ => []
  | .stored a => s.copy a

variable (funcs : StringFuncs)

def StringFuncs.index (text : Text) : Nat :=
  (funcs.hash text &&& (1#32 <<< funcs.bucketBits - 1#32)).toNat

/-- Each entry in the bucket of the key is still equal to it if and only if the string was that
it was made under: the bytes that follow a copy and the buffer of an empty key have not made
another string of it that matters. -/
def Denotes (s : State Buffer Addr Data FreeFunc) (key : Buffer) : Prop :=
  ∀ e ∈ s.buckets (funcs.index (s.buffer key)),
    s.text e.key = s.buffer key ↔ s.origin e.key = s.buffer key

/-- A call on the map, a write of a caller to one of its buffers, or other changes of the heap. -/
inductive Op (Buffer Addr Data FreeFunc : Type)
  | set (key : Buffer) (data : Option Data) (freeFunc : Option FreeFunc) (alloc : Option Addr)
  | get (key : Buffer)
  | clear
  | write (buffer : Buffer) (text : Text)
  | elsewhere (following : Addr → Text)

/-- `malloc` does not return memory of an entry. -/
def Permitted (s : State Buffer Addr Data FreeFunc) : Op Buffer Addr Data FreeFunc → Prop
  | .set _ _ _ alloc => ∀ a, alloc = some a → ∀ i, ∀ e ∈ s.buckets i, e.key ≠ .stored a
  | _ => True

/-- The keys of the bucket that is searched still denote their strings, and a set that makes an
entry gets the memory for it. -/
def Meets (s : State Buffer Addr Data FreeFunc) : Op Buffer Addr Data FreeFunc → Prop
  | .set key data _ alloc =>
      Denotes funcs s key ∧ (data = none ∨ alloc ≠ none ∨
        ∃ e ∈ s.buckets (funcs.index (s.buffer key)), s.text e.key = s.buffer key)
  | .get key => Denotes funcs s key
  | _ => True

def writesAfter (s : State Buffer Addr Data FreeFunc)
    (writes : List (Write Text Data (Option FreeFunc))) :
    Op Buffer Addr Data FreeFunc → List (Write Text Data (Option FreeFunc))
  | .set key data freeFunc _ => writes ++ [⟨s.buffer key, data, freeFunc⟩]
  | .clear => []
  | _ => writes

def Answers (s : State Buffer Addr Data FreeFunc)
    (writes : List (Write Text Data (Option FreeFunc))) (op : Op Buffer Addr Data FreeFunc)
    (reply : Option (Option Data)) : Prop :=
  match op with
  | .get key => reply = some (lastWrite (· = ·) writes (s.buffer key))
  | _ => reply = none

variable [DecidableEq Buffer] [DecidableEq Addr]

def step (s : State Buffer Addr Data FreeFunc) :
    Op Buffer Addr Data FreeFunc → Option (Option Data) × State Buffer Addr Data FreeFunc
  | .set key data freeFunc alloc => (none, mapSet funcs s key data freeFunc alloc)
  | .get key => (some (mapGet funcs s key), s)
  | .clear => (none, mapClear funcs s)
  | .write b text => (none, { s with buffer := Function.update s.buffer b text })
  | .elsewhere following => (none, { s with following := following })

/-- Every call of a run is permitted, and meets a condition, in the state that it is made in. -/
def EveryCall (condition : State Buffer Addr Data FreeFunc → Op Buffer Addr Data FreeFunc → Prop) :
    State Buffer Addr Data FreeFunc → List (Op Buffer Addr Data FreeFunc) → Prop
  | _, [] => True
  | s, op :: ops => Permitted s op ∧ condition s op ∧ EveryCall condition (step funcs s op).2 ops

/-- Every get of a run returns the data of the last set of its string. -/
def Explains : State Buffer Addr Data FreeFunc → List (Write Text Data (Option FreeFunc)) →
    List (Op Buffer Addr Data FreeFunc) → Prop
  | _, _, [] => True
  | s, writes, op :: ops =>
      Answers s writes op (step funcs s op).1 ∧
        Explains (step funcs s op).2 (writesAfter s writes op) ops

end

section

variable {Buffer Addr Data FreeFunc : Type} {funcs : StringFuncs}
variable {s : State Buffer Addr Data FreeFunc} {writes : List (Write Text Data (Option FreeFunc))}

theorem getBucketIndex_eq (s : State Buffer Addr Data FreeFunc) (key : Buffer) :
    (config funcs s).getBucketIndex (.caller key) = funcs.index (s.buffer key) := rfl

theorem keyMatches_iff (s : State Buffer Addr Data FreeFunc) (r : KeyRef Buffer Addr)
    (key : Buffer) :
    (config funcs s).KeyMatches r (.caller key) ↔ s.text r = s.buffer key :=
  funcs.compare_eq_zero_iff _ _

/-- Every entry is in the bucket of the string it was made under, no two entries were made under
one string, and the entries hold the sets since the last clear. -/
structure Inv (funcs : StringFuncs) (s : State Buffer Addr Data FreeFunc)
    (writes : List (Write Text Data (Option FreeFunc))) : Prop where
  bucket : ∀ i, ∀ e ∈ s.buckets i, funcs.index (s.origin e.key) = i
  nodup : ∀ i, ((s.buckets i).map fun e => s.origin e.key).Nodup
  content : ∀ k, lastWrite (· = ·) writes k =
    ((s.buckets (funcs.index k)).find? fun e => s.origin e.key = k).map MapEntry.data

theorem mapGetLoop_find {Key : Type} {cfg : MapConfig Key} {key : Key}
    {chain : List (MapEntry Key Data FreeFunc)} {p : MapEntry Key Data FreeFunc → Bool}
    (h : ∀ e ∈ chain, cfg.KeyMatches e.key key ↔ p e = true) :
    mapGetLoop cfg key chain = (chain.find? p).map MapEntry.data := by
  induction chain with
  | nil => rfl
  | cons e chain ih =>
      have he := h e List.mem_cons_self
      have hrest := ih fun x hx => h x (List.mem_cons_of_mem _ hx)
      rw [mapGetLoop, hrest]
      by_cases hp : p e = true
      · rw [if_pos (he.mpr hp), List.find?_cons_of_pos hp]
        rfl
      · rw [if_neg (mt he.mp hp), List.find?_cons_of_neg hp]

theorem Inv.get (h : Inv funcs s writes) {key : Buffer} (hdenotes : Denotes funcs s key) :
    mapGet funcs s key = lastWrite (· = ·) writes (s.buffer key) := by
  rw [h.content, mapGet]
  refine mapGetLoop_find fun e he => ?_
  rw [keyMatches_iff, hdenotes e he, decide_eq_true_iff]

theorem Inv.replace (h : Inv funcs s writes) {s' : State Buffer Addr Data FreeFunc} {k : Text}
    {chain : List (MapEntry (KeyRef Buffer Addr) Data FreeFunc)} {data : Option Data}
    {freeFunc : Option FreeFunc}
    (hbuckets : s'.buckets = Function.update s.buckets (funcs.index k) chain)
    (horigin : ∀ j, ∀ e ∈ s.buckets j, s'.origin e.key = s.origin e.key)
    (hchain : ∀ e ∈ chain, funcs.index (s'.origin e.key) = funcs.index k)
    (hnodup : (chain.map fun e => s'.origin e.key).Nodup)
    (hself : (chain.find? fun e => s'.origin e.key = k).map MapEntry.data = data)
    (hother : ∀ k', k' ≠ k → (chain.find? fun e => s'.origin e.key = k').map MapEntry.data =
      ((s.buckets (funcs.index k)).find? fun e => s.origin e.key = k').map MapEntry.data) :
    Inv funcs s' (writes ++ [⟨k, data, freeFunc⟩]) := by
  have hkeep : ∀ j, j ≠ funcs.index k → s'.buckets j = s.buckets j := by
    intro j hj
    rw [hbuckets, Function.update_of_ne hj]
  have hset : s'.buckets (funcs.index k) = chain := by
    rw [hbuckets, Function.update_self]
  refine ⟨fun i e he => ?_, fun i => ?_, fun k' => ?_⟩
  · by_cases hi : i = funcs.index k
    · subst hi
      rw [hset] at he
      exact hchain e he
    · rw [hkeep i hi] at he
      rw [horigin i e he]
      exact h.bucket i e he
  · by_cases hi : i = funcs.index k
    · subst hi
      rw [hset]
      exact hnodup
    · rw [hkeep i hi, List.map_congr_left (horigin i)]
      exact h.nodup i
  · rw [lastWrite_concat]
    by_cases hk : k' = k
    · subst hk
      rw [if_pos rfl, hset]
      exact hself.symm
    · rw [if_neg (Ne.symm hk), h.content]
      by_cases hi : funcs.index k' = funcs.index k
      · rw [hi, hset]
        exact (hother k' hk).symm
      · have hfind : ((s.buckets (funcs.index k')).find? fun e => s'.origin e.key = k') =
            (s.buckets (funcs.index k')).find? fun e => s.origin e.key = k' :=
          List.find?_congr fun e he => by rw [horigin _ e he]
        rw [hkeep _ hi, hfind]

variable [DecidableEq Addr]

omit [DecidableEq Addr] in
theorem Inv.overwrite (h : Inv funcs s writes) {k : Text}
    {front back : List (MapEntry (KeyRef Buffer Addr) Data FreeFunc)}
    {e : MapEntry (KeyRef Buffer Addr) Data FreeFunc}
    (hsplit : s.buckets (funcs.index k) = front ++ e :: back)
    (hfront : ∀ x ∈ front, s.origin x.key ≠ k) (he : s.origin e.key = k) (d : Data)
    (freeFunc : Option FreeFunc) :
    Inv funcs
      { s with
        buckets := Function.update s.buckets (funcs.index k)
          (front ++ { e with data := d, freeFunc } :: back) }
      (writes ++ [⟨k, some d, freeFunc⟩]) := by
  have hbucket := h.bucket (funcs.index k)
  have hnodup := h.nodup (funcs.index k)
  rw [hsplit] at hbucket
  rw [hsplit, List.map_append, List.map_cons] at hnodup
  refine h.replace rfl (fun _ _ _ => rfl) (fun x hx => ?_) ?_ ?_ fun k' hk' => ?_
  · show funcs.index (s.origin x.key) = _
    rcases List.mem_cons.mp (List.perm_middle.subset hx) with rfl | hx
    · exact hbucket e (List.mem_append_right _ List.mem_cons_self)
    · exact hbucket x (((List.sublist_cons_self e back).append_left front).subset hx)
  · rw [List.map_append, List.map_cons]
    exact hnodup
  · have hnone : front.find? (fun x => s.origin x.key = k) = none := by
      rw [List.find?_eq_none]
      intro x hx
      simpa using hfront x hx
    show ((front ++ { e with data := d, freeFunc } :: back).find?
      fun x => s.origin x.key = k).map MapEntry.data = some d
    rw [List.find?_append, hnone, List.find?_cons_of_pos (by simpa using he)]
    rfl
  · have hskip : ¬ s.origin e.key = k' := by
      rw [he]
      exact Ne.symm hk'
    show ((front ++ { e with data := d, freeFunc } :: back).find?
      fun x => s.origin x.key = k').map MapEntry.data = _
    rw [hsplit, List.find?_append, List.find?_append,
      List.find?_cons_of_neg (by simpa using hskip), List.find?_cons_of_neg (by simpa using hskip)]

omit [DecidableEq Addr] in
theorem Inv.delete (h : Inv funcs s writes) {k : Text}
    {front back : List (MapEntry (KeyRef Buffer Addr) Data FreeFunc)}
    {e : MapEntry (KeyRef Buffer Addr) Data FreeFunc}
    (hsplit : s.buckets (funcs.index k) = front ++ e :: back) (he : s.origin e.key = k)
    (freeFunc : Option FreeFunc) :
    Inv funcs
      { s with buckets := Function.update s.buckets (funcs.index k) (front ++ back) }
      (writes ++ [⟨k, none, freeFunc⟩]) := by
  have hsub : (front ++ back).Sublist (front ++ e :: back) :=
    (List.sublist_cons_self e back).append_left front
  have hbucket := h.bucket (funcs.index k)
  have hnodup := h.nodup (funcs.index k)
  rw [hsplit] at hbucket hnodup
  refine h.replace rfl (fun _ _ _ => rfl) (fun x hx => hbucket x (hsub.subset hx))
    (hnodup.sublist (hsub.map _)) ?_ fun k' hk' => ?_
  · have hgone : (front ++ back).find? (fun x => s.origin x.key = k) = none := by
      rw [List.map_append, List.map_cons] at hnodup
      rw [List.find?_eq_none]
      intro x hx hxk
      refine (List.nodup_middle.mp hnodup).notMem ?_
      rw [← List.map_append, he]
      exact List.mem_map.mpr ⟨x, hx, by simpa using hxk⟩
    exact congrArg (Option.map MapEntry.data) hgone
  · have hskip : ¬ s.origin e.key = k' := by
      rw [he]
      exact Ne.symm hk'
    show ((front ++ back).find? fun x => s.origin x.key = k').map MapEntry.data = _
    rw [hsplit, List.find?_append, List.find?_append,
      List.find?_cons_of_neg (by simpa using hskip)]

theorem Inv.set_found (h : Inv funcs s writes) {key : Buffer} (hdenotes : Denotes funcs s key)
    {front back : List (MapEntry (KeyRef Buffer Addr) Data FreeFunc)}
    {e : MapEntry (KeyRef Buffer Addr) Data FreeFunc}
    (hsplit : s.buckets (funcs.index (s.buffer key)) = front ++ e :: back)
    (hfront : ∀ x ∈ front, s.origin x.key ≠ s.buffer key) (he : s.origin e.key = s.buffer key)
    (data : Option Data) (freeFunc : Option FreeFunc) (alloc : Option Addr) :
    Inv funcs (mapSet funcs s key data freeFunc alloc)
      (writes ++ [⟨s.buffer key, data, freeFunc⟩]) := by
  have hmatches : ∀ x ∈ front ++ e :: back, (config funcs s).KeyMatches x.key (.caller key) ↔
      s.origin x.key = s.buffer key := by
    intro x hx
    rw [← hsplit] at hx
    rw [keyMatches_iff, hdenotes x hx]
  have hself : (config funcs s).KeyMatches e.key (.caller key) :=
    (hmatches e (List.mem_append_right _ List.mem_cons_self)).mpr he
  have hpass : ∀ x ∈ front, ¬ (config funcs s).KeyMatches x.key (.caller key) := by
    intro x hx
    rw [hmatches x (List.mem_append_left _ hx)]
    exact hfront x hx
  have hloop := mapSetLoop_found hpass hself back data freeFunc
  cases data with
  | some d =>
      have hset : mapSet funcs s key (some d) freeFunc alloc =
          { s with
            buckets := Function.update s.buckets (funcs.index (s.buffer key))
              (front ++ { e with data := d, freeFunc } :: back) } := by
        simp [mapSet, getBucketIndex_eq, hsplit, hloop]
      rw [hset]
      exact h.overwrite hsplit hfront he d freeFunc
  | none =>
      have hset : mapSet funcs s key none freeFunc alloc =
          { s with
            buckets := Function.update s.buckets (funcs.index (s.buffer key)) (front ++ back) } := by
        simp [mapSet, getBucketIndex_eq, hsplit, hloop]
      rw [hset]
      exact h.delete hsplit he freeFunc

theorem newEntry_eq (s : State Buffer Addr Data FreeFunc) (index : Nat) (key : Buffer) (d : Data)
    (freeFunc : Option FreeFunc) {curr : Addr}
    (hfresh : ∀ i, ∀ e ∈ s.buckets i, e.key ≠ .stored curr) :
    ∃ r, (newEntry s index key d freeFunc curr).buckets = Function.update s.buckets index
          ({ key := r, data := d, freeFunc } :: s.buckets index) ∧
      (newEntry s index key d freeFunc curr).origin r = s.buffer key ∧
      ∀ i, ∀ e ∈ s.buckets i, (newEntry s index key d freeFunc curr).origin e.key = s.origin e.key := by
  by_cases hlength : s.strlen (.caller key) > 0
  · have hnew : newEntry s index key d freeFunc curr = { s with
        copy := Function.update s.copy curr
          ((s.buffer key).take (s.strlen (.caller key)).toNat)
        buckets := Function.update s.buckets index
          ({ key := .stored curr, data := d, freeFunc } :: s.buckets index) } := if_pos hlength
    have htake : (s.buffer key).take (s.strlen (.caller key)).toNat = s.buffer key :=
      List.take_length
    rw [hnew, htake]
    refine ⟨.stored curr, rfl, Function.update_self _ _ _, fun i e he => ?_⟩
    cases hkey : e.key with
    | caller b => rfl
    | stored a =>
        refine Function.update_of_ne ?_ _ _
        rintro rfl
        exact hfresh i e he hkey
  · have hnew : newEntry s index key d freeFunc curr = { s with
        buckets := Function.update s.buckets index
          ({ key := .caller key, data := d, freeFunc } :: s.buckets index) } := if_neg hlength
    rw [hnew]
    refine ⟨.caller key, rfl, ?_, fun _ _ _ => rfl⟩
    have hempty : s.buffer key = [] := by
      simpa [State.strlen, State.text] using hlength
    exact hempty.symm

theorem Inv.set_new (h : Inv funcs s writes) {key : Buffer} (hdenotes : Denotes funcs s key)
    (hnone : ∀ e ∈ s.buckets (funcs.index (s.buffer key)), s.origin e.key ≠ s.buffer key)
    {data : Option Data} {alloc : Option Addr} (hmemory : data = none ∨ alloc ≠ none)
    (hfresh : ∀ a, alloc = some a → ∀ i, ∀ e ∈ s.buckets i, e.key ≠ .stored a)
    (freeFunc : Option FreeFunc) :
    Inv funcs (mapSet funcs s key data freeFunc alloc)
      (writes ++ [⟨s.buffer key, data, freeFunc⟩]) := by
  have hloop : mapSetLoop (config funcs s) (.caller key) data freeFunc
      (s.buckets (funcs.index (s.buffer key))) = none := by
    refine mapSetLoop_eq_none_iff.mpr fun e he => ?_
    rw [keyMatches_iff, hdenotes e he]
    exact hnone e he
  have hfind : (s.buckets (funcs.index (s.buffer key))).find?
      (fun e => s.origin e.key = s.buffer key) = none := by
    rw [List.find?_eq_none]
    intro e he
    simpa using hnone e he
  cases data with
  | none =>
      have hset : mapSet funcs s key none freeFunc alloc = s := by
        simp [mapSet, getBucketIndex_eq, hloop]
      rw [hset]
      refine h.replace (Function.update_eq_self _ _).symm (fun _ _ _ => rfl) (h.bucket _) (h.nodup _)
        ?_ fun _ _ => rfl
      rw [hfind]
      rfl
  | some d =>
      obtain ⟨curr, rfl⟩ : ∃ curr, alloc = some curr := by
        rcases hmemory with hdata | halloc
        · cases hdata
        · exact Option.ne_none_iff_exists'.mp halloc
      have hset : mapSet funcs s key (some d) freeFunc (some curr) =
          newEntry s (funcs.index (s.buffer key)) key d freeFunc curr := by
        simp [mapSet, getBucketIndex_eq, hloop]
      obtain ⟨r, hbuckets, hself, hothers⟩ := newEntry_eq s (funcs.index (s.buffer key)) key d freeFunc
        (hfresh curr rfl)
      have hsame := fun e he => hothers (funcs.index (s.buffer key)) e he
      rw [hset]
      refine h.replace hbuckets hothers (fun x hx => ?_) ?_ ?_ fun k' hk' => ?_
      · rcases List.mem_cons.mp hx with rfl | hx
        · rw [hself]
        · rw [hsame x hx]
          exact h.bucket _ x hx
      · rw [List.map_cons, hself, List.map_congr_left hsame, List.nodup_cons]
        refine ⟨fun hmem => ?_, h.nodup _⟩
        obtain ⟨e, he, hek⟩ := List.mem_map.mp hmem
        exact hnone e he hek
      · rw [List.find?_cons_of_pos (by simpa using hself)]
        rfl
      · have hskip : ¬ (newEntry s (funcs.index (s.buffer key)) key d freeFunc curr).origin r = k' := by
          rw [hself]
          exact Ne.symm hk'
        rw [List.find?_cons_of_neg (by simpa using hskip),
          List.find?_congr fun e he => by rw [hsame e he]]

theorem Inv.set (h : Inv funcs s writes) {key : Buffer} {data : Option Data}
    {freeFunc : Option FreeFunc} {alloc : Option Addr}
    (hop : Permitted s (.set key data freeFunc alloc))
    (hmeets : Meets funcs s (.set key data freeFunc alloc)) :
    Inv funcs (mapSet funcs s key data freeFunc alloc)
      (writes ++ [⟨s.buffer key, data, freeFunc⟩]) := by
  obtain ⟨hdenotes, hmemory⟩ := hmeets
  cases hfind : (s.buckets (funcs.index (s.buffer key))).find? fun e => s.origin e.key = s.buffer key with
  | none =>
      have hnone : ∀ e ∈ s.buckets (funcs.index (s.buffer key)), s.origin e.key ≠ s.buffer key := by
        simpa using hfind
      refine h.set_new hdenotes hnone ?_ hop freeFunc
      rcases hmemory with hdata | halloc | ⟨e, he, htext⟩
      · exact .inl hdata
      · exact .inr halloc
      · exact absurd ((hdenotes e he).mp htext) (hnone e he)
  | some e =>
      obtain ⟨he, front, back, hsplit, hfront⟩ := List.find?_eq_some_iff_append.mp hfind
      exact h.set_found hdenotes hsplit (fun x hx => by simpa using hfront x hx) (by simpa using he)
        data freeFunc alloc

omit [DecidableEq Addr] in
theorem index_lt (s : State Buffer Addr Data FreeFunc) (text : Text) :
    funcs.index text < (config funcs s).bucketSize.toNat := by
  let holder : State Unit Addr Data FreeFunc :=
    { buckets := fun _ => [], buffer := fun _ => text, copy := s.copy, following := s.following }
  have hlt := (config funcs holder).getBucketIndex_lt (.caller ())
  rw [bucketSize_eq]
  exact hlt

omit [DecidableEq Addr] in
theorem Inv.clear (h : Inv funcs s writes) : Inv funcs (mapClear funcs s) [] := by
  have hempty : ∀ i, i < (config funcs s).bucketSize.toNat → (mapClear funcs s).buckets i = [] :=
    fun i hi => if_pos hi
  have hkeep : ∀ i, ¬ i < (config funcs s).bucketSize.toNat →
      (mapClear funcs s).buckets i = s.buckets i := fun i hi => if_neg hi
  refine ⟨fun i e he => ?_, fun i => ?_, fun k => ?_⟩
  · by_cases hi : i < (config funcs s).bucketSize.toNat
    · rw [hempty i hi] at he
      cases he
    · rw [hkeep i hi] at he
      exact h.bucket i e he
  · by_cases hi : i < (config funcs s).bucketSize.toNat
    · rw [hempty i hi]
      exact List.nodup_nil
    · rw [hkeep i hi]
      exact h.nodup i
  · rw [hempty _ (index_lt s k)]
    rfl

variable [DecidableEq Buffer]

theorem Inv.step (h : Inv funcs s writes) {op : Op Buffer Addr Data FreeFunc}
    (hop : Permitted s op) (hmeets : Meets funcs s op) :
    Inv funcs (StringKeys.step funcs s op).2 (writesAfter s writes op) := by
  cases op with
  | set key data freeFunc alloc => exact h.set hop hmeets
  | get key => exact h
  | clear => exact h.clear
  | write b text => exact ⟨h.bucket, h.nodup, h.content⟩
  | elsewhere following => exact ⟨h.bucket, h.nodup, h.content⟩

theorem Inv.run (h : Inv funcs s writes) {ops : List (Op Buffer Addr Data FreeFunc)}
    (hops : EveryCall funcs (Meets funcs) s ops) : Explains funcs s writes ops := by
  induction ops generalizing s writes with
  | nil => trivial
  | cons op ops ih =>
      obtain ⟨hop, hmeets, hrest⟩ := hops
      refine ⟨?_, ih (h.step hop hmeets) hrest⟩
      cases op with
      | get key => exact congrArg some (h.get hmeets)
      | set key data freeFunc alloc | clear | write b text | elsewhere following => exact rfl

/-- The map from `tpl_util_map_create`, in any memory. -/
def mapCreate (buffer : Buffer → Text) (copy following : Addr → Text) :
    State Buffer Addr Data FreeFunc where
  buckets := fun _ => []
  buffer := buffer
  copy := copy
  following := following

/-- In every run in which the keys of the searched buckets still denote their strings, every get
returns the data of the last set of its string. -/
theorem gets_lastSet (buffer : Buffer → Text) (copy following : Addr → Text)
    {ops : List (Op Buffer Addr Data FreeFunc)}
    (hops : EveryCall funcs (Meets funcs) (mapCreate buffer copy following) ops) :
    Explains funcs (mapCreate buffer copy following) [] ops := by
  have hstart : Inv funcs (mapCreate buffer copy following : State Buffer Addr Data FreeFunc) [] :=
    ⟨by simp [mapCreate], by simp [mapCreate], fun _ => rfl⟩
  exact hstart.run hops

end

def exampleFuncs : StringFuncs where
  hash := fun _ => 0#32
  compare := fun a b => if a = b then 0#32 else 1#32
  compare_eq_zero_iff := by simp
  bucketBits := 4
  bucketBits_le := by decide

def letterA : StringByte := ⟨97#8, by decide⟩

def exampleBuffer : Nat → Text := fun b => if b = 0 then [letterA] else []

def exampleOps : List (Op Nat Nat Nat Nat) := [.set 0 (some 1) none (some 5), .get 0]

theorem gets_lastSet_example :
    Explains exampleFuncs (mapCreate exampleBuffer (fun _ => []) fun _ => []) [] exampleOps := by
  refine gets_lastSet exampleBuffer (fun _ => []) (fun _ => []) ⟨?_, ⟨?_, .inr (.inl ?_)⟩, trivial, ?_,
    trivial⟩
  · intro a _ i e he
    cases he
  · intro e he
    cases he
  · decide
  · intro e he
    have hentry : e = { key := .stored 5, data := 1, freeFunc := none } := List.mem_singleton.mp he
    rw [hentry]
    exact Iff.rfl

/-- A copy of a string that another byte follows is another string. -/
theorem not_gets_lastSet :
    ¬ ∀ (buffer : Nat → Text) (copy following : Nat → Text) (ops : List (Op Nat Nat Nat Nat)),
      EveryCall exampleFuncs (fun _ _ => True) (mapCreate buffer copy following) ops →
        Explains exampleFuncs (mapCreate buffer copy following) [] ops := by
  intro h
  have hpermitted : EveryCall exampleFuncs (fun _ _ => True)
      (mapCreate exampleBuffer (fun _ => []) fun _ => [letterA]) exampleOps := by
    refine ⟨?_, trivial, trivial, trivial, trivial⟩
    intro a _ i e he
    cases he
  obtain ⟨-, hget, -⟩ := h exampleBuffer (fun _ => []) (fun _ => [letterA]) exampleOps hpermitted
  have hlost : mapGet exampleFuncs (mapSet exampleFuncs (mapCreate exampleBuffer (fun _ => [])
      fun _ => [letterA] : State Nat Nat Nat Nat) 0 (some 1) none (some 5)) 0 ≠ some 1 := by
    decide
  exact hlost (Option.some.inj hget)

end LibtplEgl.StringKeys
