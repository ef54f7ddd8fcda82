import AtmSystem.Library.Program
import AtmSystem.Model.Text

/-!
`protocol.c`: messages over a stream socket, each behind its length in four
bytes. The functions are programs over the two calls they make into the
socket. A call may move any part of what it is asked to move, so the loops of
`write_all` and `read_all` run on what is left; a call that moves nothing has
failed or found the stream closed. The check for a NULL pointer is left out:
no caller passes one.
-/

namespace AtmSystem.Model

open Library

inductive SocketOp : Type → Type 1 where
  /-- `send`: how many of the bytes it took, 0 for an error. -/
  | send (bytes : Bytes) : SocketOp {n : Nat // n ≤ bytes.length}
  /-- `recv`: the bytes it delivered, none for an error or the end. -/
  | recv (length : Nat) : SocketOp {piece : Bytes // piece.length ≤ length}

abbrev Net := Program SocketOp

def writeAll (buffer : Bytes) : Net Bool := do
  if buffer = [] then
    return true
  let written ← .call (.send buffer)
  if _h : written.val = 0 then
    return false
  writeAll (buffer.drop written.val)
termination_by buffer.length
decreasing_by
  have := written.property
  simp only [List.length_drop]
  omega

/-- What `read_all` put into the buffer, if it filled it. -/
def readAll (length : Nat) : Net (Option Bytes) := do
  if length = 0 then
    return some []
  let received ← .call (.recv length)
  if _h : received.val = [] then
    return none
  let rest ← readAll (length - received.val.length)
  return rest.map (received.val ++ ·)
termination_by length
decreasing_by
  have := List.length_pos_iff.mpr _h
  omega

def drainBytes (length : Nat) : Net Bool := do
  if length = 0 then
    return true
  let chunkSize := min length 512
  if (← readAll chunkSize).isNone then
    return false
  drainBytes (length - chunkSize)
termination_by length

def uint32Max : Nat := 2 ^ 32 - 1

/-- The bytes of `htonl(length)` in memory. -/
def htonl (length : Nat) : Bytes :=
  [24, 16, 8, 0].map fun shift => UInt8.ofNat (length / 2 ^ shift)

/-- The number whose bytes in memory, after `htonl`, are these. -/
def ntohl (bytes : Bytes) : Nat := bytes.foldl (fun value b => 256 * value + b.toNat) 0

/-- `send_message` on a C string, which ends at its first NUL. -/
def sendMessage (message : Bytes) : Net Bool := do
  let text := message.takeWhile (· ≠ 0)
  let length := text.length
  if uint32Max < length then
    return false
  if !(← writeAll (htonl length)) then
    return false
  if length = 0 then
    return true
  writeAll text

/-- `receive_message`: the bytes in front of the NUL it puts behind them. -/
def receiveMessage (bufferSize : Nat) : Net (Option Bytes) := do
  if bufferSize = 0 then
    return none
  match ← readAll 4 with
  | none => return none
  | some netLength =>
    let length := ntohl netLength
    if bufferSize ≤ length then
      if !(← drainBytes length) then
        return none
      return none
    if length = 0 then
      return some []
    readAll length

end AtmSystem.Model
