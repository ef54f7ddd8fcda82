import AtmSystem.Model.Client
import AtmSystem.Model.Protocol
import AtmSystem.Model.Server

/-!
A request and its answer, on the sockets of both sides: `request_server` of
`client.c`, and one turn of the loop of `handle_client`. What is printed when
the connection is lost or a response is malformed is left out.
-/

namespace AtmSystem.Model

/-- What `request_server` makes of a response: nothing for -1, or whether the
status is OK, with the payload. The response is a C string. -/
def readResponse (payloadSize : Nat) (response : Bytes) : Option (Bool × Bytes) :=
  let text := response.takeWhile (· ≠ 0)
  match text.dropWhile (· ≠ newline) with
  | [] => none
  | _ :: payload =>
      let status := text.takeWhile (· ≠ newline)
      if 16 ≤ status.length then none
      else some (status = ascii "OK", snprintf payloadSize payload)

def requestServer (request : Bytes) (payloadSize : Nat) : Net (Option (Bool × Bytes)) := do
  if !(← sendMessage request) then
    return none
  match ← receiveMessage maxMessageSize with
  | none => return none
  | some response => return readResponse payloadSize response

/-- One turn of the loop of `handle_client` on its socket: whether the loop goes
on, and the state it leaves. -/
def serveNext (fp : Rounding) (s : ServerState) (env : Environment) :
    Net (Bool × ServerState) := do
  match ← receiveMessage maxMessageSize with
  | none => return (false, s)
  | some request =>
      let (response, s') := s.serve fp ⟨request, env⟩
      return (← sendMessage (makeResponse response), s')

end AtmSystem.Model
