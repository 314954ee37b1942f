import Lobby.Error
import Lobby.Record.Label
import Lobby.Store

/-!
# Refusals

Why a request is refused.  Some causes have a code that the client is told; the others only count
as a failure, and the client gets an empty reply.
-/

namespace Lobby

/-- The codes of refusals. -/
inductive RefusalCode where
  | serverUnavailable
  | gameNotFound
  | gameFull
  | emailNotFound
  | wrongPassword
  | invalidSession
  | emailAlreadyInUse
  | ageRestriction
  | invalidAccount
  | bannedAccount
  | invalidInformation
  | invalidEmail
  deriving DecidableEq, Repr

namespace RefusalCode

def number : RefusalCode → UInt16
  | serverUnavailable => 0x0
  | gameNotFound => 0x2
  | gameFull => 0x4
  | emailNotFound => 0xB
  | wrongPassword => 0xC
  | invalidSession => 0xD
  | emailAlreadyInUse => 0xF
  | ageRestriction => 0x10
  | invalidAccount => 0x11
  | bannedAccount => 0x13
  | invalidInformation => 0x15
  | invalidEmail => 0x16

/-- The name of a code in reports. -/
def name : RefusalCode → String
  | serverUnavailable => "ServerUnavailable"
  | gameNotFound => "GameNotFound"
  | gameFull => "GameFull"
  | emailNotFound => "EmailNotFound"
  | wrongPassword => "WrongPassword"
  | invalidSession => "InvalidSession"
  | emailAlreadyInUse => "EmailAlreadyInUse"
  | ageRestriction => "AgeRestriction"
  | invalidAccount => "InvalidAccount"
  | bannedAccount => "BannedAccount"
  | invalidInformation => "InvalidInformation"
  | invalidEmail => "InvalidEmail"

def all : List RefusalCode :=
  [serverUnavailable, gameNotFound, gameFull, emailNotFound, wrongPassword, invalidSession,
    emailAlreadyInUse, ageRestriction, invalidAccount, bannedAccount, invalidInformation,
    invalidEmail]

def ofName? (name : String) : Option RefusalCode := all.find? (·.name = name)

end RefusalCode

inductive Refusal where
  /-- The session is not logged in. -/
  | notAuthenticated
  | coded (code : RefusalCode)
  /-- A field is missing, of another kind or out of range. -/
  | missingField (label : Label)
  | malformed (cause : DecodeError)
  | store (cause : StoreError)
  | failed (cause : Error)
  | internal (text : String)
  deriving DecidableEq, Repr

namespace Refusal

def message : Refusal → String
  | notAuthenticated => "session is not authenticated"
  | coded code => s!"request refused with {code.name}"
  | missingField label => s!"missing or mistyped field {label.text}"
  | malformed cause => s!"malformed content: {cause.message}"
  | store cause => cause.message
  | failed cause => cause.message
  | internal text => text

/-- The code a cause is reported with.  A missing login has its own report. -/
def code? : Refusal → Option RefusalCode
  | coded code => some code
  | store (.unavailable _) => some .serverUnavailable
  | failed (.gameNotFound _) => some .gameNotFound
  | failed (.gameFull _) => some .gameFull
  | _ => none

end Refusal

end Lobby
