import DocBridge.Rpc.Dispatch
import DocBridge.Text.Split

/-!
# Requests line by line

A stream of bytes holds one request a line.  Blank lines, and lines that are no request, are passed
over; every response is written as one line and flushed before the next line is read.  A response
that cannot be written is lost, and nothing else.
-/

namespace DocBridge

open Json

/-- A stream to read: its bytes, and why it breaks off behind them if it does. -/
structure InputStream where
  bytes : Bytes
  failure : Option String := none
deriving DecidableEq, Repr

/-- A stream to write: which writes and which flushes it refuses, counted from zero. -/
structure OutputStream where
  refusesWrite : Nat → Bool := fun _ => false
  refusesFlush : Nat → Bool := fun _ => false

/-- What has been written to a stream, by how many writes and flushes. -/
structure Written where
  bytes : Bytes := []
  writes : Nat := 0
  flushes : Nat := 0
deriving DecidableEq, Repr

inductive WriteFault where
  | write
  | flush
deriving DecidableEq, Repr

/-- Writes a line at once and flushes it.  A refused write leaves nothing and is not flushed; a
refused flush leaves what was written. -/
def OutputStream.writeLine (stream : OutputStream) (line : Bytes) (written : Written) :
    Except WriteFault Unit × Written :=
  let attempted := { written with writes := written.writes + 1 }
  if stream.refusesWrite written.writes then (.error .write, attempted)
  else
    let flushed := { attempted with
      bytes := attempted.bytes ++ line
      flushes := attempted.flushes + 1 }
    if stream.refusesFlush written.flushes then (.error .flush, flushed) else (.ok (), flushed)

/-- The byte that ends a line. -/
def newline : UInt8 := 0x0A

/-- The bytes that do not count at the ends of a line. -/
def isLineBlank (byte : UInt8) : Bool :=
  byte = 0x20 || byte = 0x09 || byte = 0x0A || byte = 0x0C || byte = 0x0D

def requestOfLine? (line : Bytes) : Option RpcRequest :=
  match decode RpcRequest (trim isLineBlank line) with
  | .ok request => some request
  | .error _ => none

def responseLine (response : RpcResponse) : Bytes :=
  Utf8.encode (encode response) ++ [newline]

def answerLine {σ : Type} (transport : Transport σ) (line : Bytes) (world : σ) :
    Option RpcResponse × σ :=
  match requestOfLine? line with
  | some request => handleRequest transport request world
  | none => (none, world)

/-- Answers a line and writes the response, if there is one and if it can be written. -/
def serveLine {σ : Type} (transport : Transport σ) (stream : OutputStream)
    (state : Written × σ) (line : Bytes) : Written × σ :=
  match answerLine transport line state.2 with
  | (some response, after) => ((stream.writeLine (responseLine response) state.1).2, after)
  | (none, after) => (state.1, after)

inductive ServeEnd where
  | inputEnded
  | inputBroke (reason : String)
deriving DecidableEq, Repr

/-- Serves what is left of a stream inside a line of which the given bytes have been read, the
newest first.  A line that the end of the stream cuts off is answered, and one inside which the
stream breaks off is not. -/
def serveFrom {σ : Type} (transport : Transport σ) (output : OutputStream)
    (failure : Option String) (line : Bytes) :
    Bytes → Written × σ → Written × ServeEnd × σ
  | [], state =>
    match failure with
    | some reason => (state.1, .inputBroke reason, state.2)
    | none =>
      let (written, after) := serveLine transport output state line.reverse
      (written, .inputEnded, after)
  | byte :: rest, state =>
    if byte = newline then
      serveFrom transport output failure [] rest (serveLine transport output state line.reverse)
    else serveFrom transport output failure (byte :: line) rest state

/-- Serves a stream to its end: what was written, why it ended, and what is left of the world. -/
def serve {σ : Type} (transport : Transport σ) (input : InputStream) (output : OutputStream)
    (world : σ) : Written × ServeEnd × σ :=
  serveFrom transport output input.failure [] input.bytes ({}, world)

end DocBridge
