import Lobby.Session.Basic

/-!
# Games

A game has a roster of at most four members, listed by their slots, of whom one is the host.  A
member is a session with the player it was logged in as when it joined.  A game is active as long
as it has members; one that has lost its last member never becomes active again.
-/

namespace Lobby

/-- The number of slots of a game. -/
def gameCapacity : Nat := 4

structure Member where
  session : SessionId
  player : Player
  slot : Nat
  deriving DecidableEq, Repr

/-- How a member came into its game. -/
inductive JoinContext where
  | created
  | matchmaking
  deriving DecidableEq, Repr

/-- What it meant to remove a player. -/
inductive Removal where
  | notMember
  | removed
  | hostMigrated (host : SessionId)
  /-- The last member left, and the game is no longer active. -/
  | emptied
  deriving DecidableEq, Repr

structure Game where
  id : GameId
  /-- The id of the game in matchmaking. -/
  mid : UInt32
  /-- Can the game be found by its id? -/
  registered : Bool
  active : Bool
  host : SessionId
  /-- The members in the order of their slots. -/
  roster : List Member
  attributes : Attributes
  /-- Have the attributes changed since they were last sent? -/
  dirty : Bool
  state : UInt16
  setting : UInt16
  deriving DecidableEq

namespace Game

/-- The state of a new game. -/
def initialState : UInt16 := 0x1

/-- A game with nobody but its host. -/
def hosted (id : GameId) (mid : UInt32) (host : SessionId) (player : Player)
    (attributes : Attributes) (setting : UInt16) : Game where
  id
  mid
  registered := true
  active := true
  host
  roster := [⟨host, player, 0⟩]
  attributes
  dirty := false
  state := initialState
  setting

def count (g : Game) : Nat := g.roster.length

def freeSlots (g : Game) : Nat := gameCapacity - g.count

/-- Is the game active, with a free slot? -/
def isJoinable (g : Game) : Bool := g.active && decide (g.count < gameCapacity)

/-- The sessions of the members, by slot. -/
def sessions (g : Game) : List SessionId := g.roster.map (·.session)

/-- The first member with a player. -/
def memberOf? (g : Game) (player : PlayerId) : Option Member :=
  g.roster.find? (·.player.id = player)

/-- The first member with a session. -/
def memberAt? (g : Game) (session : SessionId) : Option Member :=
  g.roster.find? (·.session = session)

def hostMember? (g : Game) : Option Member := g.memberAt? g.host

def hasPlayer (g : Game) (player : PlayerId) : Bool := (g.memberOf? player).isSome

/-- The lowest slot nobody has. -/
def nextSlot (g : Game) : Nat :=
  ((List.range gameCapacity).find? fun slot => g.roster.all (·.slot ≠ slot)).getD g.count

/-- Puts a member in its place in a roster. -/
def seatIn (m : Member) : List Member → List Member
  | [] => [m]
  | other :: rest => if other.slot < m.slot then other :: seatIn m rest else m :: other :: rest

def seat (g : Game) (m : Member) : Game := { g with roster := seatIn m g.roster }

/-- Removes the first member with a player.  If the host leaves, the member with the lowest slot
becomes the host. -/
def remove? (g : Game) (player : PlayerId) : Option (Member × Removal × Game) :=
  match g.memberOf? player with
  | none => none
  | some gone =>
    match g.roster.eraseP (·.player.id = player) with
    | [] => some (gone, .emptied, { g with roster := [], active := false })
    | first :: rest =>
      if gone.session = g.host then
        some (gone, .hostMigrated first.session,
          { g with roster := first :: rest, host := first.session })
      else some (gone, .removed, { g with roster := first :: rest })

/-- Adds attributes, in the place of earlier ones with the same names. -/
def addAttributes (g : Game) (attributes : Attributes) : Game :=
  { g with attributes := g.attributes.insertAll attributes, dirty := true }

end Game

end Lobby
