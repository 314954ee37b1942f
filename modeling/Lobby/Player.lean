/-!
# Players and accounts

A player is who a session is logged in as.  An account adds what a login is checked against.
-/

namespace Lobby

abbrev PlayerId := UInt32

structure Player where
  id : PlayerId
  name : String
  deriving DecidableEq, Repr

structure Account where
  player : Player
  email : String
  password : String
  /-- What a client shows in place of its password once it has logged in. -/
  token : String
  deriving DecidableEq, Repr

end Lobby
