import Lobby.Request.Handler
import Lobby.Session.Notice

/-!
# Logging in and out

A client logs in with an email and a password, or with its player id and the token of an earlier
login.  The reply is followed by the notices that describe the new identity.
-/

namespace Lobby.Authentication

/-- The reply to a login. -/
def loginRecords (a : Account) : Content :=
  let id := a.player.id.toNat
  [.string Field.ldht "", .nat Field.ntos 0, .string Field.pctk a.token, .string Field.priv "",
    .group Field.sess
      [.nat Field.buid id, .nat Field.frst 0, .string Field.key a.token, .nat Field.llog 0,
        .string Field.mail a.email,
        .group Field.pdtl
          [.string Field.dsnm a.player.name, .nat Field.last 0, .nat Field.pid id,
            .nat Field.stas 0, .nat Field.xref 0, .nat Field.xtyp 0],
        .nat Field.uid id],
    .nat Field.spam 0, .string Field.thst "", .string Field.tsui "", .string Field.turi ""]

/-- Logs a session in. -/
def complete (server : Server) (session : SessionId) (request : Packet) (account : Account) :
    Outcome × Server :=
  let server := server.setPlayer session (some account.player)
  let identity := server.session session
  (.replied (request.response (loginRecords account) ::
    (identity.added?.toList ++ identity.updated?.toList)), server)

/-- The account with the email and the password of a request. -/
def checkPassword : Check Account := fun server _ request => do
  let content ← Check.content request
  let email ← Check.field (content.requireString Field.mail)
  let password ← Check.field (content.requireString Field.pass)
  unless email.toList.contains '@' do throw (.coded .invalidEmail)
  let found ← Check.stored (server.store.findByEmail email)
  let account ← Check.orCode .emailNotFound found
  if account.password = password then return account else throw (.coded .wrongPassword)

/-- The account with the player id and the token of a request. -/
def checkToken : Check Account := fun server _ request => do
  let content ← Check.content request
  let token ← Check.field (content.requireString Field.auth)
  let id ← Check.field (content.requireUInt32 Field.pid)
  let found ← Check.stored (server.store.account id)
  let account ← Check.orCode .invalidAccount found
  if account.token = token then return account else throw (.coded .invalidSession)

def login : Handler := .checked checkPassword complete

def silentLogin : Handler := .checked checkToken complete

/-- Leaves everything and logs out. -/
def logout : Handler :=
  .acting Check.player fun server session _ =>
    (server.leaveActivities session Server.leftReason).setPlayer session none

/-- The entitlements of a player.  There are none. -/
def listEntitlements : Handler :=
  .answering fun server session request => do
    let _ ← Check.player server session request
    return [.list Field.nlst (.groups [])]

end Lobby.Authentication
