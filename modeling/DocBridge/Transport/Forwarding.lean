import DocBridge.Transport.Basic

/-!
# Forwarding an export

A task reads the chunks of an export from their source and puts them into a channel, and whoever
asked for the export takes them from there.  The channel is small: the task waits for room before it
puts an item there, and the consumer makes room by taking one.  A failure of the source is the last
item.  Both sides go on at their own pace, so that the export is a run of steps of either of them,
in any order.  The consumer may drop the stream whenever it is not busy taking an item.
-/

namespace DocBridge

/-- An item of an exported stream: a chunk, or why the stream breaks off. -/
abbrev ExportItem := Except TransportError Bytes

def ExportStream.items (stream : ExportStream) : List ExportItem :=
  stream.chunks.map .ok ++ stream.failure.toList.map .error

namespace Forwarding

/-- Where an export comes from: chunks, and why the source failed in their place. -/
abbrev Source := List (Except String Bytes)

def itemOf (operation : Operation) : Except String Bytes → ExportItem
  | .ok chunk => .ok chunk
  | .error reason => .error (.stream operation reason)

/-- The items that a source stands for: its chunks up to its first failure, and that failure. -/
def delivered (operation : Operation) : Source → List ExportItem
  | [] => []
  | .ok chunk :: rest => .ok chunk :: delivered operation rest
  | .error reason :: _ => [.error (.stream operation reason)]

def capacity : Nat := 16

/-- What the task is at: about to read from the source, waiting for room, about to put an item where
room has been granted for it, or done. -/
inductive Reader where
  | reading
  | waiting (item : ExportItem)
  | granted (item : ExportItem)
  | done
deriving Repr

/-- What the task is at when it has put an item.  It stops behind a failure. -/
def Reader.behind : ExportItem → Reader
  | .ok _ => .reading
  | .error _ => .done

/-- What the consumer is at: about to take an item, about to make room for another one where it has
taken one, at the end of the stream, or gone. -/
inductive Consumer where
  | taking
  | releasing
  | ended
  | gone
deriving DecidableEq, Repr

structure State where
  source : Source
  reader : Reader := .reading
  room : Nat := capacity
  channel : List ExportItem := []
  consumer : Consumer := .taking
  received : List ExportItem := []
deriving Repr

/-- One step of the task or of the consumer. -/
inductive Step (operation : Operation) : State → State → Prop where
  /-- The task takes something from the source. -/
  | pull {state : State} {next : Except String Bytes} {rest : Source}
      (hreader : state.reader = .reading) (hsource : state.source = next :: rest) :
      Step operation state
        { state with source := rest, reader := .waiting (itemOf operation next) }
  /-- The source has come to its end. -/
  | exhaust {state : State} (hreader : state.reader = .reading) (hsource : state.source = []) :
      Step operation state { state with reader := .done }
  /-- The task is granted room for its item. -/
  | reserve {state : State} {item : ExportItem} {room : Nat}
      (hreader : state.reader = .waiting item) (hconsumer : state.consumer ≠ .gone)
      (hroom : state.room = room + 1) :
      Step operation state { state with reader := .granted item, room := room }
  /-- The task stops, since nobody takes its item any more. -/
  | refuse {state : State} {item : ExportItem} (hreader : state.reader = .waiting item)
      (hconsumer : state.consumer = .gone) :
      Step operation state { state with reader := .done }
  /-- The task puts its item into the channel. -/
  | put {state : State} {item : ExportItem} (hreader : state.reader = .granted item) :
      Step operation state
        { state with reader := .behind item, channel := state.channel ++ [item] }
  /-- The consumer takes an item. -/
  | take {state : State} {item : ExportItem} {rest : List ExportItem}
      (hconsumer : state.consumer = .taking) (hchannel : state.channel = item :: rest) :
      Step operation state
        { state with
          channel := rest
          consumer := .releasing
          received := state.received ++ [item] }
  /-- The consumer makes room for another item. -/
  | release {state : State} (hconsumer : state.consumer = .releasing) :
      Step operation state { state with room := state.room + 1, consumer := .taking }
  /-- The consumer finds that nothing is left and nothing will come. -/
  | finish {state : State} (hconsumer : state.consumer = .taking) (hchannel : state.channel = [])
      (hreader : state.reader = .done) :
      Step operation state { state with consumer := .ended }
  /-- The consumer drops the stream. -/
  | drop {state : State} (hconsumer : state.consumer = .taking ∨ state.consumer = .ended) :
      Step operation state { state with consumer := .gone }
  /-- An item is thrown away that nobody takes any more. -/
  | discard {state : State} {item : ExportItem} {rest : List ExportItem}
      (hconsumer : state.consumer = .gone) (hchannel : state.channel = item :: rest) :
      Step operation state { state with channel := rest, room := state.room + 1 }

end Forwarding

end DocBridge
