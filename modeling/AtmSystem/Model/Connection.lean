import AtmSystem.Model.Exchange
import AtmSystem.Model.Terminal

/-!
The two programs on their sockets: `main` of `client.c` with `request_server`
carried out over the connection, and the loop of `handle_client`, which goes on
as long as a request arrives and its response can be sent. Both loops are run on
fuel.
-/

namespace AtmSystem.Model

open Library

/-- The calls of the client that do not go over its connection. -/
inductive DeskOp : Type → Type where
  | printf (notice : Notice) : DeskOp Unit
  | readLine (bufferSize : Nat) : DeskOp (Option Bytes)
  | feof : DeskOp Bool
  | writeFile (filename content : Bytes) : DeskOp Bool

def DeskOp.toConsole : {β : Type} → DeskOp β → ConsoleOp β
  | _, .printf notice => .printf notice
  | _, .readLine bufferSize => .readLine bufferSize
  | _, .feof => .feof
  | _, .writeFile filename content => .writeFile filename content

/-- What the client does while it is connected. -/
inductive ClientOp : Type → Type 1 where
  | desk {β : Type} (op : DeskOp β) : ClientOp β
  | socket {β : Type} (op : SocketOp β) : ClientOp β
  /-- `request_server` is called. -/
  | asks (request : Bytes) : ClientOp Unit
  /-- `request_server` has returned. -/
  | answered (answer : Option (Bool × Bytes)) : ClientOp Unit

/-- How the client carries out its calls. -/
def ClientOp.carryOut : (β : Type) → ConsoleOp β → Program ClientOp β
  | _, .requestServer request => do
      .call (.asks request)
      let answer ← (requestServer request maxMessageSize).expand fun _ op => .call (.socket op)
      .call (.answered answer)
      return answer
  | _, .printf notice => .call (.desk (.printf notice))
  | _, .readLine bufferSize => .call (.desk (.readLine bufferSize))
  | _, .feof => .call (.desk .feof)
  | _, .writeFile filename content => .call (.desk (.writeFile filename content))

/-- `main` of `client.c` from the connection on, over its socket. -/
def connectedClient (fp : Rounding) (fuel : Nat) : Program ClientOp (Option Unit) :=
  (Terminal.clientMain fp fuel).expand ClientOp.carryOut

inductive ServerOp : Type → Type 1 where
  | socket {β : Type} (op : SocketOp β) : ServerOp β
  /-- `handle_request` on a request, and the response it comes to. -/
  | handleRequest (request : Bytes) : ServerOp Response

/-- One turn of the loop of `handle_client`: nothing to go on. -/
def handleClient.turn : Program ServerOp (Option Unit) := do
  match ← (receiveMessage maxMessageSize).expand fun _ op => .call (.socket op) with
  | none => return some ()
  | some request => do
      let response ← .call (.handleRequest request)
      let sent ← (sendMessage (makeResponse response)).expand fun _ op => .call (.socket op)
      return if sent then none else some ()

/-- `handle_client` on its socket. -/
def handleClient.onSocket (fuel : Nat) : Program ServerOp (Option Unit) :=
  .loop handleClient.turn fuel

end AtmSystem.Model
