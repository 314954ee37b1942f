/-!
# Maps in key order

A `SortedMap` is a finite map listed by strictly ascending keys.  Its listing is determined by what
it holds (`ext_get?`), so a map prints and encodes the same however it was built.
-/

namespace Lobby

structure SortedMap (κ α : Type) [LT κ] where
  entries : List (κ × α)
  sorted : entries.Pairwise (fun a b => a.1 < b.1)

namespace SortedMap

variable {κ α : Type}

section Basic

variable [LT κ] [DecidableEq κ]

def empty : SortedMap κ α := ⟨[], .nil⟩

instance : EmptyCollection (SortedMap κ α) := ⟨empty⟩
instance : Inhabited (SortedMap κ α) := ⟨empty⟩

/-- The entry at a key in a list of entries. -/
def find? (k : κ) : List (κ × α) → Option α
  | [] => none
  | e :: es => if e.1 = k then some e.2 else find? k es

def get? (m : SortedMap κ α) (k : κ) : Option α := find? k m.entries

def contains (m : SortedMap κ α) (k : κ) : Bool := (m.get? k).isSome

def keys (m : SortedMap κ α) : List κ := m.entries.map (·.1)

def values (m : SortedMap κ α) : List α := m.entries.map (·.2)

def size (m : SortedMap κ α) : Nat := m.entries.length

def isEmpty (m : SortedMap κ α) : Bool := m.entries.isEmpty

instance [DecidableEq α] : DecidableEq (SortedMap κ α) := fun m n =>
  if h : m.entries = n.entries then
    isTrue (by cases m; cases n; cases h; rfl)
  else isFalse (fun e => h (e ▸ rfl))

/-- Keeps the entries that satisfy a test. -/
def filter (test : κ → α → Bool) (m : SortedMap κ α) : SortedMap κ α :=
  ⟨m.entries.filter fun e => test e.1 e.2, m.sorted.filter _⟩

def erase (m : SortedMap κ α) (k : κ) : SortedMap κ α := m.filter fun k' _ => k' ≠ k

/-- Changes every value, knowing its key. -/
def mapValues {β : Type} (f : κ → α → β) (m : SortedMap κ α) : SortedMap κ β :=
  ⟨m.entries.map fun e => (e.1, f e.1 e.2), by
    rw [List.pairwise_map]
    exact m.sorted⟩

/-- Changes the value at a key, if there is one. -/
def modify (m : SortedMap κ α) (k : κ) (f : α → α) : SortedMap κ α :=
  m.mapValues fun k' a => if k' = k then f a else a

end Basic

section Order

variable [LT κ] [DecidableEq κ] [DecidableLT κ]

/-- Puts an entry at its place, in the place of one with the same key. -/
def place (k : κ) (a : α) : List (κ × α) → List (κ × α)
  | [] => [(k, a)]
  | e :: es =>
    if k < e.1 then (k, a) :: e :: es
    else if e.1 = k then (k, a) :: es
    else e :: place k a es

theorem mem_place {k : κ} {a : α} {es : List (κ × α)} {e : κ × α} (h : e ∈ place k a es) :
    e = (k, a) ∨ e ∈ es := by
  induction es with
  | nil => simpa [place] using h
  | cons d ds ih =>
    unfold place at h
    split at h
    · simpa using h
    · split at h
      · rcases List.mem_cons.1 h with h | h
        · exact .inl h
        · exact .inr (List.mem_cons_of_mem _ h)
      · rcases List.mem_cons.1 h with h | h
        · exact .inr (by simp [h])
        · rcases ih h with h | h
          · exact .inl h
          · exact .inr (List.mem_cons_of_mem _ h)

variable [LE κ] [Std.LawfulOrderLT κ] [Std.IsLinearOrder κ]

theorem pairwise_place {k : κ} {a : α} {es : List (κ × α)}
    (h : es.Pairwise (fun a b => a.1 < b.1)) :
    (place k a es).Pairwise (fun a b => a.1 < b.1) := by
  induction es with
  | nil => simp [place]
  | cons d ds ih =>
    obtain ⟨hd, hds⟩ := List.pairwise_cons.1 h
    unfold place
    split
    · next hlt =>
      refine List.pairwise_cons.2 ⟨fun e he => ?_, h⟩
      rcases List.mem_cons.1 he with rfl | he
      · exact hlt
      · exact Std.lt_trans hlt (hd e he)
    · next hlt =>
      split
      · next heq => exact List.pairwise_cons.2 ⟨fun e he => heq ▸ hd e he, hds⟩
      · next hne =>
        refine List.pairwise_cons.2 ⟨fun e he => ?_, ih hds⟩
        rcases mem_place he with rfl | he
        · exact Std.lt_of_le_of_ne (Std.not_lt.1 hlt) hne
        · exact hd e he

def insert (m : SortedMap κ α) (k : κ) (a : α) : SortedMap κ α :=
  ⟨place k a m.entries, pairwise_place m.sorted⟩

/-- The map with these entries; of several with one key the last counts. -/
def ofList (es : List (κ × α)) : SortedMap κ α :=
  es.foldl (fun m e => m.insert e.1 e.2) empty

/-- The entries of `n` in front of those of `m`. -/
def insertAll (m n : SortedMap κ α) : SortedMap κ α :=
  n.entries.foldl (fun m e => m.insert e.1 e.2) m

end Order

/-! ## What a map holds -/

section Lemmas

variable [LT κ] [DecidableEq κ]

@[simp] theorem get?_empty (k : κ) : (empty : SortedMap κ α).get? k = none := rfl

omit [LT κ] in
theorem find?_eq_none {k : κ} {es : List (κ × α)} (h : ∀ e ∈ es, e.1 ≠ k) : find? k es = none := by
  induction es with
  | nil => rfl
  | cons e es ih =>
    simp [find?, h e (by simp), ih fun d hd => h d (List.mem_cons_of_mem _ hd)]

omit [LT κ] in
theorem find?_of_mem {es : List (κ × α)} (h : (es.map (·.1)).Nodup) {e : κ × α} (he : e ∈ es) :
    find? e.1 es = some e.2 := by
  induction es with
  | nil => cases he
  | cons d es ih =>
    simp only [List.map_cons, List.nodup_cons, List.mem_map, not_exists, not_and] at h
    rcases List.mem_cons.1 he with rfl | he
    · simp [find?]
    · have ne : d.1 ≠ e.1 := fun same => h.1 e he same.symm
      simp [find?, ne, ih h.2 he]

omit [LT κ] in
theorem find?_filter (test : κ → α → Bool) (k : κ) (es : List (κ × α))
    (h : (es.map (·.1)).Nodup) :
    find? k (es.filter fun e => test e.1 e.2) = (find? k es).filter (test k) := by
  induction es with
  | nil => rfl
  | cons e es ih =>
    simp only [List.map_cons, List.nodup_cons, List.mem_map, not_exists, not_and] at h
    by_cases hk : e.1 = k
    · subst hk
      have absent : find? e.1 (es.filter fun e => test e.1 e.2) = none :=
        find?_eq_none fun d hd => h.1 d (List.mem_filter.1 hd).1
      by_cases ht : test e.1 e.2 <;> simp [find?, Option.filter, ht, absent]
    · by_cases ht : test e.1 e.2 <;> simp [find?, ht, hk, ih h.2]

theorem get?_mapValues {β : Type} (f : κ → α → β) (m : SortedMap κ α) (k : κ) :
    (m.mapValues f).get? k = (m.get? k).map (f k) := by
  have on_list : ∀ es : List (κ × α),
      find? k (es.map fun e => (e.1, f e.1 e.2)) = (find? k es).map (f k) := by
    intro es
    induction es with
    | nil => rfl
    | cons e es ih =>
      by_cases h : e.1 = k
      · simp [find?, h]
      · simpa [find?, h] using ih
  exact on_list m.entries

theorem get?_modify (m : SortedMap κ α) (k k' : κ) (f : α → α) :
    (m.modify k f).get? k' = if k' = k then (m.get? k').map f else m.get? k' := by
  rw [modify, get?_mapValues]
  by_cases h : k' = k
  · simp [h]
  · cases m.get? k' <;> simp [h]

variable [LE κ] [Std.LawfulOrderLT κ] [Std.IsLinearOrder κ]

omit [DecidableEq κ] [Std.IsLinearOrder κ] in
theorem nodup_keys (m : SortedMap κ α) : m.keys.Nodup := by
  rw [keys, List.nodup_iff_pairwise_ne, List.pairwise_map]
  refine m.sorted.imp ?_
  intro a b h e
  rw [e] at h
  exact Std.lt_irrefl h

omit [Std.IsLinearOrder κ] in
theorem get?_of_mem (m : SortedMap κ α) {e : κ × α} (h : e ∈ m.entries) : m.get? e.1 = some e.2 :=
  find?_of_mem m.nodup_keys h

omit [Std.IsLinearOrder κ] in
theorem get?_filter (test : κ → α → Bool) (m : SortedMap κ α) (k : κ) :
    (m.filter test).get? k = (m.get? k).filter (test k) :=
  find?_filter test k m.entries m.nodup_keys

omit [Std.IsLinearOrder κ] in
theorem get?_erase (m : SortedMap κ α) (k k' : κ) :
    (m.erase k).get? k' = if k' = k then none else m.get? k' := by
  rw [erase, get?_filter]
  by_cases h : k' = k <;> cases h' : m.get? k' <;> simp [h]

variable [DecidableLT κ]

theorem get?_insert (m : SortedMap κ α) (k k' : κ) (a : α) :
    (m.insert k a).get? k' = if k = k' then some a else m.get? k' := by
  have on_list : ∀ es : List (κ × α),
      find? k' (place k a es) = if k = k' then some a else find? k' es := by
    intro es
    induction es with
    | nil => rfl
    | cons e es ih =>
      unfold place
      split
      · rfl
      · split
        · next he => by_cases h : k = k' <;> simp [find?, he, h]
        · next he =>
          by_cases h : k = k'
          · subst h
            simp [find?, he, ih]
          · simp only [find?, ih, h, if_false]
  exact on_list m.entries

end Lemmas

end SortedMap

/-- Texts under names, as games, settings and client configurations carry them. -/
abbrev Attributes := SortedMap String String

end Lobby
