/-!
# Maps in key order

A `SortedMap α` keeps one value for each of finitely many strings, as a list of entries whose keys
strictly increase by code point. The order is part of the type, so a map has one representation
only: two maps that look up alike are equal (`SortedMap.ext`), and everything that is listed from
a map comes out sorted.

Insertion, erasure and look-up first work on plain entry lists; their look-up laws need no
sortedness.
-/

universe u v

namespace Fixtures

/-- Finitely many string keys with a value each, listed in strictly increasing key order. -/
structure SortedMap (α : Type u) where
  entries : List (String × α)
  sorted : entries.Pairwise fun a b => a.1 < b.1

namespace SortedMap

variable {α : Type u} {β : Type v}

/-! ## Entry lists -/

/-- The value of the first entry with this key. -/
def lookupEntry (key : String) : List (String × α) → Option α
  | [] => none
  | (k, v) :: rest => if key = k then some v else lookupEntry key rest

/-- Puts `value` under `key`, in place of an old entry of that key if there is one. -/
def insertEntry (key : String) (value : α) : List (String × α) → List (String × α)
  | [] => [(key, value)]
  | (k, v) :: rest =>
    if key < k then (key, value) :: (k, v) :: rest
    else if key = k then (key, value) :: rest
    else (k, v) :: insertEntry key value rest

theorem lookupEntry_append (k : String) (l r : List (String × α)) :
    lookupEntry k (l ++ r) = (lookupEntry k l).or (lookupEntry k r) := by
  induction l with
  | nil => rfl
  | cons e l ih =>
    obtain ⟨k', v'⟩ := e
    by_cases h : k = k' <;> simp [lookupEntry, h, ih]

theorem mem_of_lookupEntry {k : String} {v : α} {l : List (String × α)}
    (h : lookupEntry k l = some v) : (k, v) ∈ l := by
  induction l with
  | nil => simp [lookupEntry] at h
  | cons e l ih =>
    obtain ⟨k', v'⟩ := e
    by_cases hk : k = k'
    · simp [lookupEntry, hk] at h
      simp [h, hk]
    · simp [lookupEntry, hk] at h
      exact List.mem_cons_of_mem _ (ih h)

theorem lookupEntry_eq_none {k : String} {l : List (String × α)} (h : ∀ e ∈ l, e.1 ≠ k) :
    lookupEntry k l = none := by
  cases hl : lookupEntry k l with
  | none => rfl
  | some v => exact absurd rfl (h _ (mem_of_lookupEntry hl))

theorem mem_insertEntry {key : String} {value : α} {e : String × α} {l : List (String × α)}
    (h : e ∈ insertEntry key value l) : e = (key, value) ∨ e ∈ l := by
  induction l with
  | nil => simpa [insertEntry] using h
  | cons head rest ih =>
    obtain ⟨k, v⟩ := head
    unfold insertEntry at h
    split at h
    · simpa using h
    · split at h
      · rcases List.mem_cons.mp h with h | h
        · exact .inl h
        · exact .inr (List.mem_cons_of_mem _ h)
      · rcases List.mem_cons.mp h with h | h
        · exact .inr (h ▸ List.mem_cons_self)
        · exact (ih h).imp id (List.mem_cons_of_mem _)

theorem lookupEntry_insertEntry (key k : String) (value : α) (l : List (String × α)) :
    lookupEntry k (insertEntry key value l) = if k = key then some value else lookupEntry k l := by
  induction l with
  | nil => rfl
  | cons head rest ih =>
    obtain ⟨k', v'⟩ := head
    unfold insertEntry
    split
    · rfl
    · split
      · rename_i heq
        subst heq
        by_cases h : k = key <;> simp [lookupEntry, h]
      · rename_i hne
        simp only [lookupEntry, ih]
        by_cases h : k = k'
        · subst h
          simp [Ne.symm hne]
        · simp [h]

theorem lookupEntry_filter_ne (key k : String) (l : List (String × α)) :
    lookupEntry k (l.filter (·.1 != key)) = if k = key then none else lookupEntry k l := by
  induction l with
  | nil => simp [lookupEntry]
  | cons head rest ih =>
    obtain ⟨k', v'⟩ := head
    by_cases hk : k' = key
    · subst hk
      rw [List.filter_cons_of_neg (by simp), ih]
      by_cases h : k = k' <;> simp [lookupEntry, h]
    · rw [List.filter_cons_of_pos (by simpa using hk)]
      simp only [lookupEntry, ih]
      by_cases h : k = k'
      · subst h
        simp [hk]
      · simp [h]

/-! ### Sorted entry lists -/

/-- The keys of the entries strictly increase. -/
def Increasing (l : List (String × α)) : Prop := l.Pairwise fun a b => a.1 < b.1

theorem Increasing.tail {e : String × α} {l : List (String × α)} (h : Increasing (e :: l)) :
    Increasing l :=
  (List.pairwise_cons.mp h).2

theorem Increasing.lt_of_mem {e f : String × α} {l : List (String × α)}
    (h : Increasing (e :: l)) (hf : f ∈ l) : e.1 < f.1 :=
  (List.pairwise_cons.mp h).1 f hf

theorem Increasing.lookupEntry_tail {e : String × α} {l : List (String × α)}
    (h : Increasing (e :: l)) : lookupEntry e.1 l = none :=
  lookupEntry_eq_none fun _ hf heq => String.lt_irrefl _ (heq ▸ h.lt_of_mem hf)

theorem Increasing.insertEntry (key : String) (value : α) {l : List (String × α)}
    (h : Increasing l) : Increasing (insertEntry key value l) := by
  induction l with
  | nil => simp [SortedMap.insertEntry, Increasing]
  | cons head rest ih =>
    unfold SortedMap.insertEntry
    split
    · rename_i hlt
      refine List.pairwise_cons.mpr ⟨fun e he => ?_, h⟩
      rcases List.mem_cons.mp he with rfl | he
      · exact hlt
      · exact String.lt_trans hlt (h.lt_of_mem he)
    · rename_i hlt
      split
      · rename_i heq
        subst heq
        exact List.pairwise_cons.mpr ⟨fun e he => h.lt_of_mem he, h.tail⟩
      · rename_i hne
        refine List.pairwise_cons.mpr ⟨fun e he => ?_, ih h.tail⟩
        rcases mem_insertEntry he with rfl | he
        · rcases Std.lt_trichotomy key head.1 with h | h | h
          · exact absurd h hlt
          · exact absurd h hne
          · exact h
        · exact h.lt_of_mem he

theorem Increasing.lookupEntry_of_mem {k : String} {v : α} {l : List (String × α)}
    (hl : Increasing l) (h : (k, v) ∈ l) : lookupEntry k l = some v := by
  induction l with
  | nil => simp at h
  | cons e l ih =>
    rcases List.mem_cons.mp h with rfl | h
    · simp [lookupEntry]
    · have hne : k ≠ e.1 := fun heq => String.lt_irrefl _ (heq ▸ hl.lt_of_mem h)
      simp [lookupEntry, hne, ih hl.tail h]

theorem Increasing.eq_of_lookupEntry {l r : List (String × α)} (hl : Increasing l)
    (hr : Increasing r) (h : ∀ k, lookupEntry k l = lookupEntry k r) : l = r := by
  induction l generalizing r with
  | nil =>
    cases r with
    | nil => rfl
    | cons e r => simpa [lookupEntry] using h e.1
  | cons e l ih =>
    cases r with
    | nil => simpa [lookupEntry] using h e.1
    | cons f r =>
      have below {e f : String × α} {r : List (String × α)} (hr : Increasing (f :: r))
          (hlt : e.1 < f.1) : lookupEntry e.1 (f :: r) = none :=
        lookupEntry_eq_none fun g hg heq => by
          rcases List.mem_cons.mp hg with rfl | hg
          · exact String.lt_irrefl _ (heq ▸ hlt)
          · exact String.lt_irrefl _ (heq ▸ String.lt_trans hlt (hr.lt_of_mem hg))
      have head : e.1 = f.1 := by
        rcases Std.lt_trichotomy e.1 f.1 with hlt | heq | hlt
        · have := h e.1
          rw [below hr hlt] at this
          simp [lookupEntry] at this
        · exact heq
        · have := h f.1
          rw [below hl hlt] at this
          simp [lookupEntry] at this
      have value : e.2 = f.2 := by simpa [lookupEntry, head] using h e.1
      have tail : l = r := ih hl.tail hr.tail fun k => by
        by_cases hk : k = e.1
        · rw [hk, hl.lookupEntry_tail, head, hr.lookupEntry_tail]
        · simpa [lookupEntry, hk, head ▸ hk] using h k
      rw [Prod.ext head value, tail]

/-! ## Maps -/

def empty : SortedMap α := ⟨[], .nil⟩

instance : EmptyCollection (SortedMap α) := ⟨empty⟩

instance : Inhabited (SortedMap α) := ⟨∅⟩

def get? (m : SortedMap α) (key : String) : Option α := lookupEntry key m.entries

def contains (m : SortedMap α) (key : String) : Bool := (m.get? key).isSome

def keys (m : SortedMap α) : List String := m.entries.map (·.1)

def values (m : SortedMap α) : List α := m.entries.map (·.2)

def size (m : SortedMap α) : Nat := m.entries.length

def isEmpty (m : SortedMap α) : Bool := m.entries.isEmpty

/-- Puts `value` under `key`; an old value of that key gives way. -/
def insert (m : SortedMap α) (key : String) (value : α) : SortedMap α :=
  ⟨insertEntry key value m.entries, Increasing.insertEntry key value m.sorted⟩

/-- Puts `value` under `key` unless the key has a value already. -/
def insertNew (m : SortedMap α) (key : String) (value : α) : SortedMap α :=
  if m.contains key then m else m.insert key value

def erase (m : SortedMap α) (key : String) : SortedMap α :=
  ⟨m.entries.filter (·.1 != key), m.sorted.filter _⟩

/-- Puts every entry of a list into `m`, the first one first. -/
def insertAll (m : SortedMap α) (entries : List (String × α)) : SortedMap α :=
  entries.foldl (fun m e => m.insert e.1 e.2) m

/-- Overlays `m` with `changes`: where both have a key, the value of `changes` wins. -/
def overlay (m changes : SortedMap α) : SortedMap α := m.insertAll changes.entries

/-- The map of a list of entries, where a later entry of a key wins. -/
def ofList (entries : List (String × α)) : SortedMap α := insertAll ∅ entries

def map (f : α → β) (m : SortedMap α) : SortedMap β :=
  ⟨m.entries.map fun e => (e.1, f e.2), List.pairwise_map.mpr m.sorted⟩

/-! ## Laws -/

@[ext] theorem ext {m n : SortedMap α} (h : ∀ k, m.get? k = n.get? k) : m = n := by
  obtain ⟨l, hl⟩ := m
  obtain ⟨r, hr⟩ := n
  have := Increasing.eq_of_lookupEntry hl hr h
  subst this
  rfl

theorem entries_injective {m n : SortedMap α} (h : m.entries = n.entries) : m = n := by
  obtain ⟨l, hl⟩ := m
  obtain ⟨r, hr⟩ := n
  cases h
  rfl

instance [DecidableEq α] : DecidableEq (SortedMap α) := fun m n =>
  decidable_of_iff (m.entries = n.entries) ⟨entries_injective, fun h => h ▸ rfl⟩

theorem mem_entries_iff {m : SortedMap α} {k : String} {v : α} :
    (k, v) ∈ m.entries ↔ m.get? k = some v :=
  ⟨Increasing.lookupEntry_of_mem m.sorted, mem_of_lookupEntry⟩

theorem mem_keys_iff {m : SortedMap α} {k : String} : k ∈ m.keys ↔ ∃ v, m.get? k = some v := by
  constructor
  · intro h
    obtain ⟨⟨k', v⟩, he, rfl⟩ := List.mem_map.mp h
    exact ⟨v, mem_entries_iff.mp he⟩
  · rintro ⟨v, hv⟩
    exact List.mem_map.mpr ⟨(k, v), mem_entries_iff.mpr hv, rfl⟩

theorem keys_sorted (m : SortedMap α) : m.keys.Pairwise (· < ·) :=
  List.pairwise_map.mpr m.sorted

@[simp] theorem get?_empty (k : String) : (∅ : SortedMap α).get? k = none := rfl

theorem get?_insert (m : SortedMap α) (key : String) (value : α) (k : String) :
    (m.insert key value).get? k = if k = key then some value else m.get? k :=
  lookupEntry_insertEntry key k value m.entries

@[simp] theorem get?_insert_self (m : SortedMap α) (key : String) (value : α) :
    (m.insert key value).get? key = some value := by
  simp [get?_insert]

theorem get?_insert_of_ne (m : SortedMap α) {key k : String} (value : α) (h : k ≠ key) :
    (m.insert key value).get? k = m.get? k := by
  simp [get?_insert, h]

theorem insert_insert (m : SortedMap α) (key : String) (value value' : α) :
    (m.insert key value).insert key value' = m.insert key value' := by
  ext k
  simp only [get?_insert]
  split <;> rfl

/-- Putting in what is there already changes nothing. -/
theorem insert_eq_self {m : SortedMap α} {key : String} {value : α} (h : m.get? key = some value) :
    m.insert key value = m := by
  ext k
  rw [get?_insert]
  split
  · rename_i hk
    rw [hk, h]
  · rfl

theorem insert_comm (m : SortedMap α) {key key' : String} (value value' : α) (h : key ≠ key') :
    (m.insert key value).insert key' value' = (m.insert key' value').insert key value := by
  ext k
  simp only [get?_insert]
  by_cases hk : k = key
  · rw [if_pos hk, if_pos hk, if_neg (hk ▸ h)]
  · rw [if_neg hk, if_neg hk]

theorem get?_insertNew (m : SortedMap α) (key : String) (value : α) (k : String) :
    (m.insertNew key value).get? k =
      if k = key then some ((m.get? key).getD value) else m.get? k := by
  unfold insertNew contains
  cases h : m.get? key with
  | none => simp [get?_insert]
  | some v =>
    by_cases hk : k = key
    · subst hk
      simp [h]
    · simp [hk]

theorem get?_erase (m : SortedMap α) (key k : String) :
    (m.erase key).get? k = if k = key then none else m.get? k :=
  lookupEntry_filter_ne key k m.entries

@[simp] theorem get?_map (f : α → β) (m : SortedMap α) (k : String) :
    (m.map f).get? k = (m.get? k).map f := by
  obtain ⟨l, hl⟩ := m
  show lookupEntry k (l.map fun e => (e.1, f e.2)) = (lookupEntry k l).map f
  clear hl
  induction l with
  | nil => rfl
  | cons e l ih =>
    obtain ⟨k', v'⟩ := e
    by_cases h : k = k' <;> simp [lookupEntry, h, ih]

theorem insertAll_cons (m : SortedMap α) (e : String × α) (es : List (String × α)) :
    m.insertAll (e :: es) = (m.insert e.1 e.2).insertAll es := rfl

/-- In a list of entries the last one of a key counts. -/
theorem get?_insertAll (m : SortedMap α) (es : List (String × α)) (k : String) :
    (m.insertAll es).get? k = (lookupEntry k es.reverse).or (m.get? k) := by
  induction es generalizing m with
  | nil => rfl
  | cons e es ih =>
    obtain ⟨k', v'⟩ := e
    rw [insertAll_cons, ih, get?_insert, List.reverse_cons, lookupEntry_append]
    by_cases h : k = k' <;> cases lookupEntry k es.reverse <;> simp [lookupEntry, h]

/-- An overlaid map looks up in the changes first. -/
theorem get?_overlay (m changes : SortedMap α) (k : String) :
    (m.overlay changes).get? k = (changes.get? k).or (m.get? k) := by
  obtain ⟨es, hs⟩ := changes
  show (m.insertAll es).get? k = (lookupEntry k es).or (m.get? k)
  induction es generalizing m with
  | nil => rfl
  | cons e es ih =>
    obtain ⟨k', v'⟩ := e
    rw [insertAll_cons, ih _ (Increasing.tail hs), get?_insert]
    by_cases h : k = k'
    · subst h
      simp [lookupEntry, Increasing.lookupEntry_tail hs]
    · simp [lookupEntry, h]

@[simp] theorem empty_overlay (m : SortedMap α) : (∅ : SortedMap α).overlay m = m := by
  ext k
  simp [get?_overlay]

@[simp] theorem overlay_self (m : SortedMap α) : m.overlay m = m := by
  ext k
  rw [get?_overlay]
  cases m.get? k <;> simp

/-- Overlaying twice is overlaying once with the overlaid changes. -/
theorem overlay_assoc (m c d : SortedMap α) :
    (m.overlay c).overlay d = m.overlay (c.overlay d) := by
  ext k
  simp only [get?_overlay]
  cases d.get? k <;> simp

theorem overlay_insert (m : SortedMap α) (key : String) (value : α) :
    m.overlay (insert ∅ key value) = m.insert key value := rfl

/-- The map of a map's own entries is that map. -/
@[simp] theorem ofList_entries (m : SortedMap α) : ofList m.entries = m :=
  empty_overlay m

end SortedMap

end Fixtures
