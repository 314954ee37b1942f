import Lobby.Game.Rules
import Mathlib.Data.List.Induction
import Mathlib.Data.List.Nodup
import Mathlib.Logic.Relation

/-!
# What a rule set means

A rule set is gathered by going through pairs, or through the entries of a client's criteria, in
order.  **Of the elements that ask for a rule of one kind the last decides (`collect_value?`), and
elements that ask for none decide nothing.**  So two neighbours that do not ask for a rule of the
same kind may change places (`collect_swap`).

Going through a list and putting each rule in the place of one of its kind, or else at the end, and
ordering what comes out by kind gives the same rules (`rules_ofPairs_eq_sorted`).
-/

namespace Lobby

/-! ## The first record with a label -/

namespace Content

variable {content : Content} {label : Label}

/-- The first record with a label holds this value. -/
def First (content : Content) (label : Label) (value : Value) : Prop :=
  ∃ before after, content = before ++ .mk label value :: after ∧ ∀ r ∈ before, r.label ≠ label

theorem field?_eq_some {value : Value} :
    content.field? label = some (.mk label value) ↔ content.First label value := by
  unfold field? First
  simp only [List.find?_eq_some_iff_append, Bool.not_eq_true', decide_eq_true_eq,
    decide_eq_false_iff_not]
  constructor
  · rintro ⟨-, before, after, split, none⟩
    exact ⟨before, after, split, none⟩
  · rintro ⟨before, after, split, none⟩
    exact ⟨rfl, before, after, split, none⟩

theorem eq_of_field? {r : Record} (found : content.field? label = some r) :
    r = .mk label r.value := by
  have named : r.label = label := by simpa using List.find?_some found
  cases r with
  | mk l value => exact congrArg (Record.mk · value) named

theorem string?_eq_some {text : String} :
    content.string? label = some text ↔ content.First label (.string text) := by
  rw [← field?_eq_some]
  constructor
  · intro read
    obtain ⟨r, found, is_text⟩ := Option.bind_eq_some_iff.1 read
    rw [eq_of_field? found] at found
    cases held : r.value <;> simp_all [Value.toString?]
  · intro found
    simp [string?, found, Record.value, Value.toString?]

theorem items?_eq_some {items : Items} :
    content.items? label = some items ↔ content.First label (.list items) := by
  rw [← field?_eq_some]
  constructor
  · intro read
    obtain ⟨r, found, is_list⟩ := Option.bind_eq_some_iff.1 read
    rw [eq_of_field? found] at found
    cases held : r.value <;> simp_all [Value.toItems?]
  · intro found
    simp [items?, found, Record.value, Value.toItems?]

end Content

/-! ## Kinds -/

namespace RuleKind

theorem mem_all (kind : RuleKind) : kind ∈ all := by cases kind <;> decide

theorem ofRuleName?_eq_some {name : String} {kind : RuleKind} :
    ofRuleName? name = some kind ↔ name = kind.ruleName := by
  constructor
  · intro found
    have named := List.find?_some found
    simpa [eq_comm] using named
  · intro same
    subst same
    cases kind <;> decide

def place : RuleKind → Nat
  | map => 0
  | enemyType => 1
  | difficulty => 2

theorem place_inj {a b : RuleKind} : a.place = b.place ↔ a = b := by
  cases a <;> cases b <;> decide

end RuleKind

namespace RuleSet

/-! ## One value for each kind -/

theorem ext_value? {s t : RuleSet} (same : ∀ kind, s.value? kind = t.value? kind) : s = t := by
  cases s
  cases t
  have map := same .map
  have enemyType := same .enemyType
  have difficulty := same .difficulty
  simp_all [value?]

theorem value?_set (s : RuleSet) (r : Rule) (kind : RuleKind) :
    (s.set r).value? kind = if r.kind = kind then some r.value else s.value? kind := by
  cases r with
  | mk asked value => cases asked <;> cases kind <;> rfl

theorem set_comm (s : RuleSet) {r q : Rule} (apart : r.kind ≠ q.kind) :
    (s.set r).set q = (s.set q).set r := by
  apply ext_value?
  intro kind
  simp only [value?_set]
  by_cases asked : r.kind = kind
  · have other : q.kind ≠ kind := fun same => apart (asked.trans same.symm)
    simp [asked, other]
  · simp [asked]

theorem mem_rules {s : RuleSet} {kind : RuleKind} {value : String} :
    ⟨kind, value⟩ ∈ s.rules ↔ s.value? kind = some value := by
  unfold rules
  rw [List.mem_filterMap]
  constructor
  · rintro ⟨k, -, found⟩
    obtain ⟨v, held, same⟩ := Option.map_eq_some_iff.1 found
    cases same
    exact held
  · intro held
    exact ⟨kind, kind.mem_all, by simp [held]⟩

theorem kinds_sublist (s : RuleSet) : (s.rules.map (·.kind)).Sublist RuleKind.all := by
  rcases s with ⟨_ | _, _ | _, _ | _⟩ <;> simp [rules, value?, RuleKind.all]

theorem accepts_iff {s : RuleSet} {attributes : Attributes} :
    s.accepts attributes = true ↔ ∀ kind value, s.value? kind = some value →
      value.toList.map Char.toLower = abstain.toList ∨
        attributes.get? kind.attributeName = some value := by
  have abstains (value : String) : Text.sameUpToCase value abstain = true ↔
      value.toList.map Char.toLower = abstain.toList := by
    rw [Text.sameUpToCase_iff]
    rfl
  unfold accepts
  rw [List.all_eq_true]
  constructor
  · intro all kind value held
    have accepted := all ⟨kind, value⟩ (mem_rules.2 held)
    simpa [Rule.accepts, Rule.abstains, abstains] using accepted
  · intro all r member
    have held := all r.kind r.value (mem_rules.1 member)
    simpa [Rule.accepts, Rule.abstains, abstains] using held

/-! ## The last element that asks -/

section Collect

variable {α : Type} {ask? : α → Option Rule} {asks : α → RuleKind → String → Prop}

/-- The rules that the elements of a list ask for, those of later elements in the place of those of
earlier ones. -/
def collect (ask? : α → Option Rule) (xs : List α) : RuleSet := (xs.filterMap ask?).foldl set empty

/-- The last element that asks for a rule of a kind asks for this value. -/
def Last (asks : α → RuleKind → String → Prop) (xs : List α) (kind : RuleKind) (value : String) :
    Prop :=
  ∃ before x after, xs = before ++ x :: after ∧ asks x kind value ∧ ∀ y ∈ after, ∀ v, ¬ asks y kind v

theorem not_last_nil {kind : RuleKind} {value : String} : ¬ Last asks [] kind value := by
  rintro ⟨before, x, after, split, -⟩
  simp at split

theorem last_concat {xs : List α} {x : α} {kind : RuleKind} {value : String} :
    Last asks (xs ++ [x]) kind value ↔
      asks x kind value ∨ (∀ v, ¬ asks x kind v) ∧ Last asks xs kind value := by
  constructor
  · rintro ⟨before, y, after, split, asked, quiet⟩
    rcases List.eq_nil_or_concat' after with rfl | ⟨earlier, z, rfl⟩
    · obtain ⟨-, same⟩ := List.append_inj' split rfl
      cases same
      exact .inl asked
    · rw [← List.cons_append, ← List.append_assoc] at split
      obtain ⟨rfl, same⟩ := List.append_inj' split rfl
      cases same
      exact .inr ⟨quiet x (by simp), before, y, earlier, rfl, asked,
        fun w member => quiet w (List.mem_append_left _ member)⟩
  · rintro (asked | ⟨silent, before, y, after, rfl, asked, quiet⟩)
    · exact ⟨xs, x, [], rfl, asked, by simp⟩
    · refine ⟨before, y, after ++ [x], by simp, asked, fun w member => ?_⟩
      rcases List.mem_append.1 member with member | member
      · exact quiet w member
      · rw [List.mem_singleton.1 member]
        exact silent

theorem silent_or_last (asks : α → RuleKind → String → Prop) (xs : List α) (kind : RuleKind) :
    (∀ x ∈ xs, ∀ v, ¬ asks x kind v) ∨ ∃ v, Last asks xs kind v := by
  induction xs using List.reverseRecOn with
  | nil => exact .inl (by simp)
  | append_singleton xs x ih =>
    by_cases asked : ∃ v, asks x kind v
    · obtain ⟨v, asked⟩ := asked
      exact .inr ⟨v, last_concat.2 (.inl asked)⟩
    · have silent : ∀ v, ¬ asks x kind v := not_exists.1 asked
      rcases ih with none | ⟨v, last⟩
      · refine .inl fun y member => ?_
        rcases List.mem_append.1 member with member | member
        · exact none y member
        · rw [List.mem_singleton.1 member]
          exact silent
      · exact .inr ⟨v, last_concat.2 (.inr ⟨silent, last⟩)⟩

/-- **The value of a kind is the one that the last element to ask for the kind asks for.** -/
theorem collect_value? (reads : ∀ x r, ask? x = some r ↔ asks x r.kind r.value) (xs : List α)
    (kind : RuleKind) (value : String) :
    (collect ask? xs).value? kind = some value ↔ Last asks xs kind value := by
  induction xs using List.reverseRecOn with
  | nil =>
    have nothing : (collect ask? []).value? kind = none := by cases kind <;> rfl
    simp [nothing, not_last_nil]
  | append_singleton xs x ih =>
    rw [last_concat]
    cases asked : ask? x with
    | none =>
      have silent : ∀ k v, ¬ asks x k v := by
        intro k v asks
        have := (reads x ⟨k, v⟩).2 asks
        simp [asked] at this
      have same : collect ask? (xs ++ [x]) = collect ask? xs := by simp [collect, asked]
      rw [same, ih]
      simp [silent]
    | some r =>
      have step : collect ask? (xs ++ [x]) = (collect ask? xs).set r := by simp [collect, asked]
      have only (k : RuleKind) (v : String) : asks x k v ↔ r.kind = k ∧ r.value = v := by
        rw [← reads x ⟨k, v⟩, asked, Option.some_inj]
        cases r
        simp
      rw [step, value?_set]
      by_cases same : r.kind = kind
      · simp [same, only]
      · simp [same, only, ih]

/-! ## Changing places -/

/-- Two neighbours that do not ask for a rule of the same kind change places. -/
inductive Swap (asks : α → RuleKind → String → Prop) : List α → List α → Prop
  | swap (before : List α) (x y : α) (after : List α)
      (apart : ∀ kind v w, asks x kind v → ¬ asks y kind w) :
      Swap asks (before ++ x :: y :: after) (before ++ y :: x :: after)

/-- One list comes from another by such changes. -/
abbrev Reordered (asks : α → RuleKind → String → Prop) : List α → List α → Prop :=
  Relation.ReflTransGen (Swap asks)

theorem collect_swap (reads : ∀ x r, ask? x = some r ↔ asks x r.kind r.value) {xs ys : List α}
    (swapped : Swap asks xs ys) : collect ask? ys = collect ask? xs := by
  cases swapped with
  | swap before x y after apart =>
    have exchange (s : RuleSet) :
        ([y, x].filterMap ask?).foldl set s = ([x, y].filterMap ask?).foldl set s := by
      cases first : ask? x with
      | none => simp [List.filterMap, first]
      | some r =>
        cases second : ask? y with
        | none => simp [List.filterMap, first, second]
        | some q =>
          have different : r.kind ≠ q.kind := by
            intro same
            have other := (reads y q).1 second
            rw [← same] at other
            exact apart r.kind _ _ ((reads x r).1 first) other
          simp [List.filterMap, first, second, s.set_comm different]
    have split (a b : α) : collect ask? (before ++ a :: b :: after) =
        (after.filterMap ask?).foldl set
          (([a, b].filterMap ask?).foldl set (collect ask? before)) := by
      rw [collect, show before ++ a :: b :: after = before ++ [a, b] ++ after by simp]
      simp only [List.filterMap_append, List.foldl_append, collect]
    rw [split, split, exchange]

theorem collect_reordered (reads : ∀ x r, ask? x = some r ↔ asks x r.kind r.value) {xs ys : List α}
    (moved : Reordered asks xs ys) : collect ask? ys = collect ask? xs := by
  induction moved with
  | refl => rfl
  | tail _ swapped ih => rw [collect_swap reads swapped, ih]

/-! ## The law -/

/-- The last element that asks for a rule of a kind decides it, and the set accepts by what it
decides. -/
structure LastWins (asks : α → RuleKind → String → Prop) (xs : List α) (s : RuleSet) : Prop where
  rules : ∀ kind value, ⟨kind, value⟩ ∈ s.rules ↔ Last asks xs kind value
  ordered : (s.rules.map (·.kind)).Sublist RuleKind.all
  accepts : ∀ attributes : Attributes, s.accepts attributes = true ↔ ∀ kind,
    (∀ x ∈ xs, ∀ value, ¬ asks x kind value) ∨
      ∃ value, Last asks xs kind value ∧
        (value.toList.map Char.toLower = abstain.toList ∨
          attributes.get? kind.attributeName = some value)

theorem collect_lastWins (reads : ∀ x r, ask? x = some r ↔ asks x r.kind r.value) (xs : List α) :
    LastWins asks xs (collect ask? xs) where
  rules := fun kind value => mem_rules.trans (collect_value? reads xs kind value)
  ordered := kinds_sublist _
  accepts := by
    intro attributes
    simp only [accepts_iff, collect_value? reads]
    constructor
    · intro satisfied kind
      rcases silent_or_last asks xs kind with silent | ⟨value, last⟩
      · exact .inl silent
      · exact .inr ⟨value, last, satisfied kind value last⟩
    · intro each kind value last
      rcases each kind with silent | ⟨v, last', accepted⟩
      · obtain ⟨before, x, after, rfl, asked, -⟩ := last
        exact absurd asked (silent x (by simp) value)
      · have first := (collect_value? reads xs kind value).2 last
        have second := (collect_value? reads xs kind v).2 last'
        cases first.symm.trans second
        exact accepted

end Collect

/-! ## Pairs and criteria -/

def Names (pair : String × String) (kind : RuleKind) (value : String) : Prop :=
  pair = (kind.ruleName, value)

/-- An entry asks for a rule by its name, with a list of texts that starts with the value. -/
structure Usable (entry : Group) (kind : RuleKind) (value : String) : Prop where
  name : Content.First entry.fields Field.name (.string kind.ruleName)
  values : ∃ rest, Content.First entry.fields Field.valu (.list (.strings (value :: rest)))

/-- The entries of criteria are the groups of the first list of rules.  There are none if that is
not a list of groups. -/
def Lists (criteria : Group) (es : List Group) : Prop :=
  Content.First criteria.fields Field.rlst (.list (.groups es)) ∨
    es = [] ∧ ∀ gs, ¬ Content.First criteria.fields Field.rlst (.list (.groups gs))

theorem lists_entries (criteria : Group) : Lists criteria (entries criteria) := by
  unfold Lists entries
  simp only [← Content.items?_eq_some]
  cases found : Content.items? criteria.fields Field.rlst with
  | none => exact .inr ⟨rfl, by simp⟩
  | some items => cases items <;> simp

theorem ruleOf?_eq_some (pair : String × String) (r : Rule) :
    ruleOf? pair = some r ↔ Names pair r.kind r.value := by
  obtain ⟨name, value⟩ := pair
  obtain ⟨kind, wanted⟩ := r
  simp only [ruleOf?, Option.map_eq_some_iff, RuleKind.ofRuleName?_eq_some, Names, Rule.mk.injEq,
    Prod.mk.injEq]
  constructor
  · rintro ⟨k, named, rfl, rfl⟩
    exact ⟨named, rfl⟩
  · rintro ⟨named, rfl⟩
    exact ⟨kind, named, rfl, rfl⟩

theorem pairOf?_eq_some (entry : Group) (name value : String) :
    pairOf? entry = some (name, value) ↔
      Content.First entry.fields Field.name (.string name) ∧
        ∃ rest, Content.First entry.fields Field.valu (.list (.strings (value :: rest))) := by
  simp only [← Content.string?_eq_some, ← Content.items?_eq_some]
  unfold pairOf?
  cases named : Content.string? entry.fields Field.name with
  | none => simp
  | some n =>
    cases listed : Content.items? entry.fields Field.valu with
    | none => simp
    | some items =>
      cases items with
      | strings texts => cases texts <;> simp [eq_comm]
      | _ => simp

def askedBy? (entry : Group) : Option Rule := (pairOf? entry).bind ruleOf?

theorem askedBy?_eq_some (entry : Group) (r : Rule) :
    askedBy? entry = some r ↔ Usable entry r.kind r.value := by
  unfold askedBy?
  rw [Option.bind_eq_some_iff]
  constructor
  · rintro ⟨⟨name, value⟩, paired, asked⟩
    obtain ⟨named, listed⟩ := (pairOf?_eq_some entry name value).1 paired
    cases (ruleOf?_eq_some _ r).1 asked
    exact ⟨named, listed⟩
  · rintro ⟨named, listed⟩
    exact ⟨_, (pairOf?_eq_some entry _ _).2 ⟨named, listed⟩, (ruleOf?_eq_some _ r).2 rfl⟩

theorem ofPairs_eq (pairs : List (String × String)) : ofPairs pairs = collect ruleOf? pairs := rfl

theorem ofCriteria_eq (criteria : Group) :
    ofCriteria criteria = collect askedBy? (entries criteria) := by
  unfold ofCriteria ofPairs collect askedBy?
  rw [List.filterMap_filterMap]

/-! ## Rules in place -/

/-- Puts a rule in the place of one of its kind, or else at the end. -/
def putIn (r : Rule) : List Rule → List Rule
  | [] => [r]
  | q :: qs => if q.kind = r.kind then r :: qs else q :: putIn r qs

/-- The rules that pairs stand for, in the order in which their kinds first appear. -/
def gather (pairs : List (String × String)) : List Rule :=
  (pairs.filterMap ruleOf?).foldl (fun rs r => putIn r rs) []

def sortByKind (rs : List Rule) : List Rule :=
  rs.mergeSort fun a b => a.kind.place ≤ b.kind.place

/-- A list holds the rules of a set, each kind once. -/
structure Holds (rs : List Rule) (s : RuleSet) : Prop where
  once : (rs.map (·.kind)).Nodup
  same : ∀ r, r ∈ rs ↔ s.value? r.kind = some r.value

theorem kinds_putIn (r : Rule) (rs : List Rule) :
    (putIn r rs).map (·.kind) =
      if r.kind ∈ rs.map (·.kind) then rs.map (·.kind) else rs.map (·.kind) ++ [r.kind] := by
  induction rs with
  | nil => simp [putIn]
  | cons q qs ih =>
    unfold putIn
    by_cases here : q.kind = r.kind
    · simp [here]
    · have other : r.kind ≠ q.kind := fun same => here same.symm
      simp only [here, if_false, List.map_cons, ih, List.mem_cons, other, false_or]
      split <;> rfl

theorem mem_putIn {r q : Rule} {rs : List Rule} (once : (rs.map (·.kind)).Nodup) :
    q ∈ putIn r rs ↔ q = r ∨ q.kind ≠ r.kind ∧ q ∈ rs := by
  induction rs with
  | nil => simp [putIn]
  | cons p ps ih =>
    obtain ⟨fresh, once⟩ := List.nodup_cons.1 once
    unfold putIn
    by_cases here : p.kind = r.kind
    · have others : ∀ q ∈ ps, q.kind ≠ r.kind := by
        intro q member same
        exact fresh (List.mem_map.2 ⟨q, member, same.trans here.symm⟩)
      simp only [here, if_true, List.mem_cons]
      constructor
      · rintro (rfl | member)
        · exact .inl rfl
        · exact .inr ⟨others q member, .inr member⟩
      · rintro (rfl | ⟨apart, rfl | member⟩)
        · exact .inl rfl
        · exact absurd here apart
        · exact .inr member
    · simp only [here, if_false, List.mem_cons, ih once]
      constructor
      · rintro (rfl | rfl | ⟨apart, member⟩)
        · exact .inr ⟨here, .inl rfl⟩
        · exact .inl rfl
        · exact .inr ⟨apart, .inr member⟩
      · rintro (rfl | ⟨apart, rfl | member⟩)
        · exact .inr (.inl rfl)
        · exact .inl rfl
        · exact .inr (.inr ⟨apart, member⟩)

theorem Holds.putIn {rs : List Rule} {s : RuleSet} (h : Holds rs s) (r : Rule) :
    Holds (putIn r rs) (s.set r) where
  once := by
    rw [kinds_putIn]
    split
    · exact h.once
    · next fresh => exact List.nodup_append.2 ⟨h.once, by simp, fun a member b one same =>
        fresh (List.mem_singleton.1 one ▸ same ▸ member)⟩
  same := by
    intro q
    rw [mem_putIn h.once, value?_set, h.same]
    by_cases same : r.kind = q.kind
    · cases r
      cases q
      simp_all [eq_comm]
    · have apart : q ≠ r := fun equal => same (equal ▸ rfl)
      simp [same, apart, Ne.symm same]

theorem holds_gather (pairs : List (String × String)) : Holds (gather pairs) (ofPairs pairs) := by
  have fold (rs : List Rule) : ∀ held s, Holds held s →
      Holds (rs.foldl (fun qs r => putIn r qs) held) (rs.foldl set s) := by
    induction rs with
    | nil => exact fun _ _ h => h
    | cons r rs ih => exact fun held s h => ih _ _ (h.putIn r)
  refine fold _ _ _ ⟨by simp, fun r => ?_⟩
  cases r with
  | mk kind value => cases kind <;> simp [empty, value?]

/-- **Replacing rules in place and ordering them by kind at the end gives the rules of the set.** -/
theorem rules_ofPairs_eq_sorted (pairs : List (String × String)) :
    (ofPairs pairs).rules = sortByKind (gather pairs) := by
  have held := holds_gather pairs
  have ordered : RuleKind.all.Pairwise fun a b => a.place < b.place := by decide
  have distinct : (ofPairs pairs).rules.Pairwise fun a b => a.kind.place < b.kind.place := by
    have kinds := ordered.sublist (ofPairs pairs).kinds_sublist
    rw [List.pairwise_map] at kinds
    exact kinds
  have reordered : (sortByKind (gather pairs)).Perm (gather pairs) := List.mergeSort_perm _ _
  have same : (ofPairs pairs).rules.Perm (sortByKind (gather pairs)) := by
    refine List.Perm.trans ?_ reordered.symm
    refine (List.perm_ext_iff_of_nodup ?_ (List.Nodup.of_map _ held.once)).2 fun r => ?_
    · exact distinct.imp fun {a b} less same => by simp [same] at less
    · exact mem_rules.trans (held.same r).symm
  have ascending : (sortByKind (gather pairs)).Pairwise fun a b => a.kind.place ≤ b.kind.place := by
    have sorted : (sortByKind (gather pairs)).Pairwise
        fun a b => decide (a.kind.place ≤ b.kind.place) = true :=
      List.pairwise_mergeSort (by intro a b c; simp; omega) (by intro a b; simp; omega) _
    exact sorted.imp of_decide_eq_true
  have ascending' : (ofPairs pairs).rules.Pairwise fun a b => a.kind.place ≤ b.kind.place :=
    distinct.imp Nat.le_of_lt
  refine same.eq_of_pairwise ?_ ascending' ascending
  intro a b first second le ge
  have kind : a.kind = b.kind := RuleKind.place_inj.1 (Nat.le_antisymm le ge)
  have left := mem_rules.1 first
  have right := (held.same b).1 (reordered.mem_iff.1 second)
  rw [kind, right] at left
  cases a
  cases b
  simp_all

example : gather [("ME3_gameEnemyTypeRule", "enemy1"), ("ME3_gameMapMatchRule", "map2"),
    ("ME3_gameEnemyTypeRule", "abstain")] = [⟨.enemyType, "abstain"⟩, ⟨.map, "map2"⟩] := by
  decide

/-! ## The meaning of a rule set -/

/-- **Criteria and pairs alike mean what their last elements of each kind ask for.**  The entries of
criteria are those that its first list of rules holds.  Elements of different kinds may come in any
order, and replacing rules in place before ordering them by kind comes to the same. -/
theorem last_wins (criteria : Group) (pairs : List (String × String)) :
    (Lists criteria (entries criteria) ∧
      LastWins Usable (entries criteria) (ofCriteria criteria) ∧
      ∀ other, Reordered Usable (entries criteria) (entries other) →
        ofCriteria other = ofCriteria criteria) ∧
    (LastWins Names pairs (ofPairs pairs) ∧
      (ofPairs pairs).rules = sortByKind (gather pairs) ∧
      ∀ other, Reordered Names pairs other → ofPairs other = ofPairs pairs) := by
  constructor
  · refine ⟨lists_entries criteria, ?_, fun other moved => ?_⟩
    · rw [ofCriteria_eq]
      exact collect_lastWins askedBy?_eq_some _
    · rw [ofCriteria_eq, ofCriteria_eq]
      exact collect_reordered askedBy?_eq_some moved
  · refine ⟨?_, rules_ofPairs_eq_sorted pairs, fun other moved => ?_⟩
    · rw [ofPairs_eq]
      exact collect_lastWins ruleOf?_eq_some pairs
    · rw [ofPairs_eq, ofPairs_eq]
      exact collect_reordered ruleOf?_eq_some moved

/-- A wildcard cancels what was asked before it, and an entry after it without values cancels
nothing. The entry for the map may as well come first. -/
theorem last_wins_wildcard :
    let entry (name : String) (values : List String) : Group :=
      .mk false [.string Field.name name, .list Field.valu (.strings values)]
    let criteria (es : List Group) : Group := .mk false [.list Field.rlst (.groups es)]
    let enemy := entry "ME3_gameEnemyTypeRule" ["enemy1"]
    let map := entry "ME3_gameMapMatchRule" ["map2"]
    let after := [entry "ME3_gameEnemyTypeRule" ["Abstain"], entry "ME3_gameEnemyTypeRule" []]
    let asked := criteria (enemy :: map :: after)
    let attributes : Attributes := SortedMap.ofList [("ME3map", "map2"), ("ME3gameEnemyType", "x")]
    Last Usable (entries asked) .enemyType "Abstain" ∧
      (ofCriteria asked).rules = [⟨.map, "map2"⟩, ⟨.enemyType, "Abstain"⟩] ∧
      (ofCriteria asked).accepts attributes = true ∧
      ofCriteria (criteria (map :: enemy :: after)) = ofCriteria asked := by
  intro entry criteria enemy map after asked attributes
  obtain ⟨⟨-, law, moved⟩, -⟩ := last_wins asked []
  have wild : ⟨.enemyType, "Abstain"⟩ ∈ (ofCriteria asked).rules := by decide +kernel
  have apart : ∀ kind v w, Usable enemy kind v → ¬ Usable map kind w := by
    intro kind v w first second
    have one : askedBy? enemy = some ⟨kind, v⟩ := (askedBy?_eq_some _ _).2 first
    have other : askedBy? map = some ⟨kind, w⟩ := (askedBy?_eq_some _ _).2 second
    have different : (askedBy? enemy).map (·.kind) ≠ (askedBy? map).map (·.kind) := by
      decide +kernel
    rw [one, other] at different
    exact different rfl
  refine ⟨(law.rules _ _).1 wild, by decide +kernel, by decide +kernel, ?_⟩
  exact moved _ (.single (.swap [] enemy map after apart))

end RuleSet

end Lobby
