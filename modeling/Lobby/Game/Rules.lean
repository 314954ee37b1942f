import Lobby.Field
import Lobby.Record.Lookup
import Lobby.Text.Case

/-!
# Matchmaking rules

A client looks for a game by naming values for some of three attributes.  A rule set has at most one
rule of each kind, so it is one optional value per kind.  A rule that abstains accepts every game,
one without the attribute included.

Rules come as pairs of a name and a value.  Unknown names are passed over, and of several pairs of
one kind the last counts.
-/

namespace Lobby

inductive RuleKind where
  | map
  | enemyType
  | difficulty
  deriving DecidableEq, Repr

namespace RuleKind

def all : List RuleKind := [map, enemyType, difficulty]

/-- The name of a rule in the criteria of a client. -/
def ruleName : RuleKind → String
  | map => "ME3_gameMapMatchRule"
  | enemyType => "ME3_gameEnemyTypeRule"
  | difficulty => "ME3_gameDifficultyRule"

/-- The attribute of games that a rule is about. -/
def attributeName : RuleKind → String
  | map => "ME3map"
  | enemyType => "ME3gameEnemyType"
  | difficulty => "ME3gameDifficulty"

/-- The name of a kind in reports. -/
def name : RuleKind → String
  | map => "Map"
  | enemyType => "EnemyType"
  | difficulty => "Difficulty"

def ofRuleName? (name : String) : Option RuleKind := all.find? (·.ruleName = name)

end RuleKind

/-- The value of a rule that accepts everything. -/
def abstain : String := "abstain"

structure Rule where
  kind : RuleKind
  value : String
  deriving DecidableEq, Repr

namespace Rule

def abstains (r : Rule) : Bool := Text.sameUpToCase r.value abstain

def accepts (r : Rule) (attributes : Attributes) : Bool :=
  r.abstains || attributes.get? r.kind.attributeName == some r.value

end Rule

/-- At most one rule of each kind. -/
structure RuleSet where
  map : Option String
  enemyType : Option String
  difficulty : Option String
  deriving DecidableEq, Repr

namespace RuleSet

def empty : RuleSet := ⟨none, none, none⟩

/-- The value of the rule of a kind. -/
def value? (s : RuleSet) : RuleKind → Option String
  | .map => s.map
  | .enemyType => s.enemyType
  | .difficulty => s.difficulty

/-- Puts a rule in the place of one of its kind. -/
def set (s : RuleSet) (r : Rule) : RuleSet :=
  match r.kind with
  | .map => { s with map := some r.value }
  | .enemyType => { s with enemyType := some r.value }
  | .difficulty => { s with difficulty := some r.value }

/-- The rules in the order of their kinds. -/
def rules (s : RuleSet) : List Rule :=
  RuleKind.all.filterMap fun kind => (s.value? kind).map (⟨kind, ·⟩)

def isEmpty (s : RuleSet) : Bool := s.rules.isEmpty

/-- The rule a pair of a name and a value stands for. -/
def ruleOf? (pair : String × String) : Option Rule :=
  (RuleKind.ofRuleName? pair.1).map (⟨·, pair.2⟩)

/-- The rules that pairs of names and values stand for. -/
def ofPairs (pairs : List (String × String)) : RuleSet :=
  (pairs.filterMap ruleOf?).foldl set empty

/-- A rule of every kind that abstains. -/
def abstainAll : RuleSet := ofPairs (RuleKind.all.map fun kind => (kind.ruleName, abstain))

/-- The name and the first value of an entry of the criteria. -/
def pairOf? (entry : Group) : Option (String × String) := do
  let name ← Content.string? entry.fields Field.name
  match ← Content.items? entry.fields Field.valu with
  | .strings (value :: _) => return (name, value)
  | _ => none

/-- The entries of the criteria: the groups of their first list of rules. -/
def entries (criteria : Group) : List Group :=
  match Content.items? criteria.fields Field.rlst with
  | some (.groups entries) => entries
  | _ => []

def ofCriteria (criteria : Group) : RuleSet := ofPairs ((entries criteria).filterMap pairOf?)

/-- Does a game with these attributes satisfy every rule? -/
def accepts (s : RuleSet) (attributes : Attributes) : Bool :=
  s.rules.all fun r => r.accepts attributes

end RuleSet

end Lobby
