import Lobby.SortedMap

/-!
# Entries of sorted maps

A map that is rebuilt from its entries is the same map, since each of them comes after those before
it.
-/

namespace Lobby.SortedMap

variable {κ α : Type} [LT κ] [DecidableEq κ]

omit [LT κ] in
theorem mem_of_find? {k : κ} {a : α} {es : List (κ × α)} (h : find? k es = some a) :
    (k, a) ∈ es := by
  induction es with
  | nil => cases h
  | cons e es ih =>
    rw [find?] at h
    split at h
    · next same =>
      cases h
      rw [← same]
      exact List.mem_cons_self
    · exact List.mem_cons_of_mem e (ih h)

theorem mem_values_of_get? {m : SortedMap κ α} {k : κ} {a : α} (h : m.get? k = some a) :
    a ∈ m.values :=
  List.mem_map_of_mem (mem_of_find? h)

omit [DecidableEq κ] in
theorem eq_of_entries {m n : SortedMap κ α} (h : m.entries = n.entries) : m = n := by
  cases m
  cases n
  cases h
  rfl

/-- A change of a value that leaves it as it is changes nothing. -/
theorem modify_eq_self [LE κ] [Std.LawfulOrderLT κ] {m : SortedMap κ α} {k : κ} {f : α → α}
    (same : ∀ a, m.get? k = some a → f a = a) : m.modify k f = m := by
  refine eq_of_entries ((List.map_congr_left fun e he => ?_).trans (List.map_id' m.entries))
  by_cases here : e.1 = k
  · have value := m.get?_of_mem he
    rw [here] at value
    simp [here, same e.2 value, Prod.ext_iff]
  · simp [here]

variable [DecidableLT κ] [LE κ] [Std.LawfulOrderLT κ] [Std.IsLinearOrder κ]

/-- An entry with a greater key than all others goes to the end. -/
theorem place_last {k : κ} {a : α} {es : List (κ × α)} (last : ∀ e ∈ es, e.1 < k) :
    place k a es = es ++ [(k, a)] := by
  induction es with
  | nil => rfl
  | cons e es ih =>
    have less := last e List.mem_cons_self
    have notLess : ¬k < e.1 := fun greater => Std.lt_irrefl (Std.lt_trans less greater)
    have ne : e.1 ≠ k := by
      intro same
      rw [same] at less
      exact Std.lt_irrefl less
    rw [place, if_neg notLess, if_neg ne, ih fun d hd => last d (List.mem_cons_of_mem e hd)]
    rfl

theorem entries_foldl_insert {es : List (κ × α)} (m : SortedMap κ α)
    (sorted : (m.entries ++ es).Pairwise (fun a b => a.1 < b.1)) :
    (es.foldl (fun m e => m.insert e.1 e.2) m).entries = m.entries ++ es := by
  induction es generalizing m with
  | nil => exact (List.append_nil _).symm
  | cons e es ih =>
    have placed : (m.insert e.1 e.2).entries = m.entries ++ [e] :=
      place_last fun d hd => (List.pairwise_append.1 sorted).2.2 d hd e List.mem_cons_self
    rw [List.foldl_cons, ih, placed, List.append_assoc]
    · rfl
    · rw [placed, List.append_assoc]
      exact sorted

theorem ofList_entries (m : SortedMap κ α) : ofList m.entries = m :=
  eq_of_entries (entries_foldl_insert empty m.sorted)

/-- The keys and the values of a map are the columns of its entries. -/
theorem ofList_zip (m : SortedMap κ α) : ofList (m.keys.zip m.values) = m := by
  have zip : m.keys.zip m.values = m.entries := by
    rw [keys, values, ← List.unzip_fst, ← List.unzip_snd]
    exact List.zip_unzip m.entries
  rw [zip, ofList_entries]

end Lobby.SortedMap
