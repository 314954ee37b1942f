import Lobby.Request.Handler
import Lobby.Session.Notice

/-!
# Connections and settings

What a client asks when it connects and when it has logged in, the ping, the configuration of the
client, and the settings of a player.
-/

namespace Lobby.Utility

def serverVersion : String := "Blaze 3.15.08.0 (CL# 1060080)"

def resourceId : String := "303107"

/-- How often and how long a client waits. -/
def clientTimes : Attributes :=
  .ofList [("pingPeriod", "15s"), ("connIdleTimeout", "90s"), ("defaultRequestTimeout", "60s")]

/-- The first request of a connection: what the server is and which components it has. -/
def preAuth : Handler :=
  .answering fun _ _ _ =>
    return [.nat Field.anon 0, .string Field.asrc resourceId,
      .list Field.cids (.varints (Component.all.map fun c => Int64.ofNat c.number.toNat)),
      .group Field.conf [.attributes Field.conf clientTimes],
      .string Field.inst "masseffect-3-pc", .nat Field.minr 0, .string Field.nasp "cem_ea_id",
      .string Field.pild "", .string Field.plat "pc", .string Field.rsrc resourceId,
      .string Field.sver serverVersion]

def postAuth : Handler :=
  .answering fun server session request => do
    let player ← Check.player server session request
    return [
      .group Field.pss [.string Field.adrs "", .nat Field.port 0],
      .group Field.tele
        [.string Field.adrs "", .nat Field.loc Session.defaultLocale, .nat Field.port 0,
          .nat Field.sdly 15000],
      .group Field.urop [.nat Field.tmop 1, .nat Field.uid player.id.toNat]]

/-- The time as a varint, as far as one goes. -/
def timeOf (clock : UInt64) : Int64 := Int64.ofNat (min clock.toNat 0x7fffffffffffffff)

/-- Takes note of the ping and answers with the time. -/
def ping : Handler := fun server session request =>
  (.replied [request.response [.varint Field.stim (timeOf server.clock)]],
    server.recordPing session)

/-- A section of the client configuration.  An unknown one is empty. -/
def fetchClientConfig : Handler :=
  .answering fun server _ request => do
    let content ← Check.content request
    let name ← Check.field (content.requireString Field.cfid)
    let config ← Check.stored (server.store.clientConfig name)
    return [.attributes Field.conf (config.getD ∅)]

/-- The store with the setting of a request saved. -/
def checkSetting : Check Store := fun server session request => do
  let player ← Check.player server session request
  let content ← Check.content request
  let key ← Check.field (content.requireString Field.key)
  let value ← Check.field (content.requireString Field.data)
  Check.stored (server.store.saveSetting player.id key value)

def saveSetting : Handler := .acting checkSetting fun server _ store => { server with store }

def loadSettings : Handler :=
  .answering fun server session request => do
    let player ← Check.player server session request
    let settings ← Check.stored (server.store.loadSettings player.id)
    return [.attributes Field.smap settings]

end Lobby.Utility
