import Lobby.Packet.Basic
import Lobby.Record.Text
import Lobby.Text.Hex

/-!
# Packets as text

The text of a packet for messages: its header, the length of its content, and its records.  Content
that cannot be parsed is shown as bytes, with the cause.
-/

namespace Lobby

def Packet.describe (p : Packet) : String :=
  let content :=
    match p.records with
    | .ok records => [("content", Text.listed (Record.describeAll records))]
    | .error cause =>
      [("content_error", cause.describe),
        ("raw", Text.listed (p.contents.map fun b => Hex.ofNat 2 b.toNat))]
  Text.structured "Packet"
    ([("component", "0x" ++ Hex.ofNat 4 p.header.component.toNat),
      ("command", "0x" ++ Hex.ofNat 4 p.header.command.toNat),
      ("error", toString p.header.error.toNat),
      ("type", p.header.kind.name),
      ("id", toString p.header.id.toNat),
      ("length", toString p.contents.length)] ++ content)

end Lobby
