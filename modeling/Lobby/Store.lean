import Lobby.Player
import Lobby.SortedMap
import Lobby.Text.Case

/-!
# The store

Accounts, the settings players save, and the named sections of client configuration.  While the
store is unavailable every query fails and nothing is saved.
-/

namespace Lobby

/-- Why a query of the store failed. -/
inductive StoreError where
  | unavailable (text : String)
  deriving DecidableEq, Repr

def StoreError.message : StoreError → String
  | unavailable text => s!"store unavailable: {text}"

structure Store where
  accounts : SortedMap PlayerId Account
  settings : SortedMap PlayerId Attributes
  clientConfigs : SortedMap String Attributes
  /-- The id of the next account. -/
  nextId : PlayerId
  available : Bool

namespace Store

def empty : Store := ⟨∅, ∅, ∅, 1, true⟩

/-- Registers an account under the next id.  `token` makes its token. -/
def addAccount (s : Store) (token : PlayerId → String) (email password name : String) :
    Account × Store :=
  let id := s.nextId
  let account : Account := ⟨⟨id, name⟩, email, password, token id⟩
  (account, { s with accounts := s.accounts.insert id account, nextId := id + 1 })

def setClientConfig (s : Store) (name : String) (values : Attributes) : Store :=
  { s with clientConfigs := s.clientConfigs.insert name values }

def setAvailable (s : Store) (available : Bool) : Store := { s with available }

/-- The answer to a query, which an unavailable store does not give. -/
def ask {α : Type} (s : Store) (answer : α) : Except StoreError α :=
  if s.available then .ok answer else .error (.unavailable "memory store offline")

/-- The account with an email, up to the case of letters.  Of several it is the oldest. -/
def findByEmail (s : Store) (email : String) : Except StoreError (Option Account) :=
  s.ask (s.accounts.values.find? fun a => Text.sameUpToCase a.email email)

def account (s : Store) (id : PlayerId) : Except StoreError (Option Account) :=
  s.ask (s.accounts.get? id)

/-- The settings a player has saved so far. -/
def settingsOf (s : Store) (id : PlayerId) : Attributes := (s.settings.get? id).getD ∅

def loadSettings (s : Store) (id : PlayerId) : Except StoreError Attributes :=
  s.ask (s.settingsOf id)

/-- Saves one setting of a player in the place of an earlier one with its key. -/
def saveSetting (s : Store) (id : PlayerId) (key value : String) : Except StoreError Store :=
  s.ask { s with settings := s.settings.insert id ((s.settingsOf id).insert key value) }

def clientConfig (s : Store) (name : String) : Except StoreError (Option Attributes) :=
  s.ask (s.clientConfigs.get? name)

end Store

end Lobby
