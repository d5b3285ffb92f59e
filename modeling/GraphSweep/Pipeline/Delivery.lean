import GraphSweep.Pipeline.Reader

/-!
# Receiving from a reader

A reader and the one who receives from it do their steps in any order. The receiver
looks for items, and may take the error that the reader has ended with. It tells the
reader to stop by raising a flag and then closing the queue.
-/

namespace GraphSweep

/-- A reader with the one who receives from it. -/
structure Delivery where
  reader : Reader
  /-- The items received so far, in order. -/
  received : List Item
  /-- The errors that the receiver has taken, in order. -/
  taken : List StorageError
  /-- Whether the receiver has raised the flag that tells the reader to stop. -/
  flagged : Bool
  /-- Whether the receiver has closed the queue. -/
  shut : Bool

/-- What the receiver gets that looks for an item. -/
inductive Pulled
  | item (item : Item)
  /-- The queue is closed, and there will be no more items. -/
  | finished
  /-- There is no item yet. -/
  | nothing
  deriving DecidableEq

/-- The next thing that happens between a reader and the one who receives from it. -/
inductive Delivery.Action
  /-- The reader does its next step. -/
  | read
  /-- The receiver looks for an item. -/
  | pull
  /-- The receiver takes the error, if there is one. -/
  | takeError
  /-- The receiver raises the flag that tells the reader to stop. -/
  | flag
  /-- The receiver that has raised the flag closes the queue. -/
  | shut
  deriving DecidableEq

namespace Delivery

/-- A reader before its first step, with nothing received from it. -/
def start (stream : KeyStream) : Delivery where
  reader := Reader.start stream
  received := []
  taken := []
  flagged := false
  shut := false

/-- Whether the reader finds that it is to stop. Between reads it looks at the flag, and
with an item in hand it finds the queue closed. -/
def isStopped (delivery : Delivery) : Bool :=
  match delivery.reader.phase with
  | .looking => delivery.flagged
  | .fetching | .offering _ | .closing _ | .reporting _ | .leaving | .gone =>
      delivery.shut

/-- The reader with what it finds of having been told to stop. -/
def heeding (delivery : Delivery) : Reader :=
  { delivery.reader with cancelled := delivery.isStopped }

/-- The next step of the reader. -/
def read (capacity : Nat) (delivery : Delivery) : Option Delivery :=
  (delivery.heeding.advance capacity).map fun reader =>
    { delivery with reader := reader }

/-- Look for an item, without waiting for it. -/
def pull (delivery : Delivery) : Pulled × Delivery :=
  match delivery.reader.queue with
  | item :: rest =>
      (.item item,
        { delivery with
          reader := { delivery.reader with queue := rest }
          received := delivery.received ++ [item] })
  | [] =>
      (if delivery.shut || delivery.reader.isGone then .finished else .nothing,
        delivery)

/-- The error that there is to take, which is there only once. -/
def error? (delivery : Delivery) : Option StorageError :=
  if delivery.taken.isEmpty then delivery.reader.status.fault? else none

/-- Take the error, if there is one. -/
def takeError (delivery : Delivery) : Delivery :=
  { delivery with taken := delivery.taken ++ delivery.error?.toList }

/-- What an action makes of a delivery, if it can happen. -/
def act (capacity : Nat) (delivery : Delivery) : Action -> Option Delivery
  | .read => delivery.read capacity
  | .pull => some delivery.pull.2
  | .takeError => some delivery.takeError
  | .flag => some { delivery with flagged := true }
  | .shut => if delivery.flagged then some { delivery with shut := true } else none

/-- What some actions make of a delivery, one after another. -/
def follow (capacity : Nat) (delivery : Delivery) :
    List Action -> Option Delivery
  | [] => some delivery
  | action :: actions =>
      (delivery.act capacity action).bind fun next =>
        next.follow capacity actions

end Delivery
end GraphSweep
