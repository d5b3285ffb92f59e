import GraphSweep.Join
import GraphSweep.Pipeline.Reader
import GraphSweep.Proofs.Feed

/-!
# What readers bring

Whatever a reader that is not cancelled has got to, what the join is still to receive
from it is the rest of the feed.
-/

namespace GraphSweep

namespace ReaderStatus

/-- The end of the feed that a status tells of. -/
def ending : ReaderStatus -> FeedEnd
  | .failed error => .failed error
  | .running | .exhausted | .cancelled => .exhausted

theorem atEnd_ending
    (policy : FailurePolicy)
    (stream : Nat)
    (status : ReaderStatus) :
    policy.atEnd stream status.ending = status.verdict policy stream := by
  cases status <;> cases policy <;> rfl

end ReaderStatus

namespace Reader

theorem isGone_iff {reader : Reader} : reader.isGone ↔ reader.phase = .gone :=
  decide_eq_true_iff

/-- What a reader is still to bring before its queue is closed, the items in the
queue apart. -/
def ahead (reader : Reader) : Feed :=
  match reader.phase with
  | .looking | .fetching => Feed.ofReads reader.pending
  | .offering item =>
      let later := Feed.ofReads reader.pending
      ⟨item :: later.items, later.ending⟩
  | .closing status | .reporting status => ⟨[], status.ending⟩
  | .leaving | .gone => ⟨[], reader.status.ending⟩

/-- What the join is still to receive from a reader. -/
def outstanding (reader : Reader) : Feed :=
  ⟨reader.queue ++ reader.ahead.items, reader.ahead.ending⟩

/-- What is to be received begins with what is in the queue. -/
theorem outstanding_of_queue
    {reader : Reader}
    {item : Item}
    {rest : List Item}
    (queue : reader.queue = item :: rest) :
    reader.outstanding =
      ⟨item :: (outstanding { reader with queue := rest }).items,
        (outstanding { reader with queue := rest }).ending⟩ := by
  rw [outstanding, queue]
  rfl

/-- A reader that has stopped with an empty queue brings nothing. -/
theorem outstanding_of_gone
    {reader : Reader}
    (gone : reader.isGone)
    (drained : reader.queue = []) :
    reader.outstanding = ⟨[], reader.status.ending⟩ := by
  rw [outstanding, ahead, drained, isGone_iff.1 gone]
  rfl

/-- A failing read is the end of the stream. -/
theorem fetch_of_fault
    {read : Read}
    {error : StorageError}
    (rest : List Read)
    (fails : read.fault? = some error) :
    fetch (read :: rest) = (.closing (.failed error), []) := by
  cases read with
  | failure other | crash message =>
      cases fails
      rfl
  | record keyed =>
      rw [Read.fault?] at fails
      rw [fetch]
      cases key : VertexId.ofKey keyed.key with
      | error other =>
          rw [key] at fails
          cases fails
          rfl
      | ok id =>
          rw [key] at fails
          cases fails

/-- A read that succeeds is offered, or passed over. -/
theorem fetch_of_no_fault
    {read : Read}
    (rest : List Read)
    (succeeds : read.fault? = none) :
    fetch (read :: rest) =
      (match read.item? with
        | none => .looking
        | some item => .offering item, rest) := by
  cases read with
  | failure other | crash message => cases succeeds
  | record keyed =>
      rw [Read.fault?] at succeeds
      rw [fetch, Read.item?]
      cases key : VertexId.ofKey keyed.key with
      | error other =>
          rw [key] at succeeds
          cases succeeds
      | ok id =>
          dsimp only
          by_cases hidden : VertexId.isHidden id
          · rw [if_pos hidden, if_pos hidden]
          · rw [if_neg hidden, if_neg hidden]

/-- All that a step of a reader can be. -/
inductive Advances (capacity : Nat) (reader : Reader) : Reader -> Prop
  | looks
      (phase : reader.phase = .looking)
      (heeded : reader.cancelled = false) :
      Advances capacity reader { reader with phase := .fetching }
  | heeds
      (phase : reader.phase = .looking)
      (told : reader.cancelled = true) :
      Advances capacity reader { reader with phase := .closing .cancelled }
  | ends
      (phase : reader.phase = .fetching)
      (spent : reader.pending = []) :
      Advances capacity reader { reader with
        phase := .closing .exhausted
        pending := [] }
  | fails
      (read : Read)
      (rest : List Read)
      (error : StorageError)
      (phase : reader.phase = .fetching)
      (pending : reader.pending = read :: rest)
      (fault : read.fault? = some error) :
      Advances capacity reader { reader with
        phase := .closing (.failed error)
        pending := [] }
  | passes
      (read : Read)
      (rest : List Read)
      (phase : reader.phase = .fetching)
      (pending : reader.pending = read :: rest)
      (succeeds : read.fault? = none)
      (hidden : read.item? = none) :
      Advances capacity reader { reader with
        phase := .looking
        pending := rest }
  | finds
      (read : Read)
      (rest : List Read)
      (item : Item)
      (phase : reader.phase = .fetching)
      (pending : reader.pending = read :: rest)
      (succeeds : read.fault? = none)
      (found : read.item? = some item) :
      Advances capacity reader { reader with
        phase := .offering item
        pending := rest }
  | puts
      (item : Item)
      (phase : reader.phase = .offering item)
      (heeded : reader.cancelled = false)
      (room : reader.queue.length < capacity) :
      Advances capacity reader { reader with
        queue := reader.queue ++ [item]
        phase := .looking }
  | forgets
      (item : Item)
      (phase : reader.phase = .offering item)
      (told : reader.cancelled = true) :
      Advances capacity reader { reader with phase := .closing .cancelled }
  | closes
      (status : ReaderStatus)
      (phase : reader.phase = .closing status) :
      Advances capacity reader { reader with phase := .reporting status }
  | reports
      (status : ReaderStatus)
      (phase : reader.phase = .reporting status) :
      Advances capacity reader { reader with
        status := status
        phase := .leaving }
  | leaves
      (phase : reader.phase = .leaving) :
      Advances capacity reader { reader with phase := .gone }

theorem advances_of_advance
    {capacity : Nat}
    {reader next : Reader}
    (advances : reader.advance capacity = some next) :
    reader.Advances capacity next := by
  unfold advance at advances
  cases phase : reader.phase with
  | looking =>
      simp only [phase, Option.some.injEq] at advances
      subst advances
      split
      · next told => exact Advances.heeds phase told
      · next heeded => exact Advances.looks phase (by simpa using heeded)
  | fetching =>
      simp only [phase, Option.some.injEq] at advances
      subst advances
      cases pending : reader.pending with
      | nil => exact Advances.ends phase pending
      | cons read rest =>
          cases fault : read.fault? with
          | some error =>
              rw [fetch_of_fault rest fault]
              exact Advances.fails read rest error phase pending fault
          | none =>
              rw [fetch_of_no_fault rest fault]
              cases item : read.item? with
              | none => exact Advances.passes read rest phase pending fault item
              | some found =>
                  exact Advances.finds read rest found phase pending fault item
  | offering item =>
      simp only [phase] at advances
      split at advances
      · next told =>
        cases advances
        exact Advances.forgets item phase told
      · next heeded =>
        split at advances
        · next room =>
          cases advances
          exact Advances.puts item phase (by simpa using heeded) room
        · cases advances
  | closing status =>
      simp only [phase, Option.some.injEq] at advances
      subst advances
      exact Advances.closes status phase
  | reporting status =>
      simp only [phase, Option.some.injEq] at advances
      subst advances
      exact Advances.reports status phase
  | leaving =>
      simp only [phase, Option.some.injEq] at advances
      subst advances
      exact Advances.leaves phase
  | gone => simp [phase] at advances

/-- Whatever a reader does, the join is to receive the same from it, unless the reader
heeds that it was told to stop. -/
theorem outstanding_advance_or
    {capacity : Nat}
    {reader next : Reader}
    (advances : reader.advance capacity = some next) :
    next.outstanding = reader.outstanding ∨
      reader.cancelled = true ∧ next.queue = reader.queue ∧
        next.phase = .closing .cancelled := by
  cases advances_of_advance advances with
  | heeds phase told | forgets item phase told =>
      exact Or.inr ⟨told, rfl, rfl⟩
  | ends phase spent =>
      left
      rw [outstanding, outstanding, ahead, ahead, phase, spent]
      rfl
  | fails read rest error phase pending fault =>
      left
      rw [outstanding, outstanding, ahead, ahead, phase, pending]
      rw [Feed.ofReads_of_fault rest fault]
      rfl
  | passes read rest phase pending succeeds item
  | finds read rest found phase pending succeeds item =>
      left
      rw [outstanding, outstanding, ahead, ahead, phase, pending]
      rw [Feed.ofReads_of_no_fault rest succeeds, item]
      rfl
  | looks phase | puts item phase | closes status phase | reports status phase
  | leaves phase =>
      left
      simp [outstanding, ahead, phase]

/-- Whatever a reader does that was not told to stop, the join is to receive the
same from it. -/
theorem outstanding_advance
    {capacity : Nat}
    {reader next : Reader}
    (heeded : reader.cancelled = false)
    (advances : reader.advance capacity = some next) :
    next.outstanding = reader.outstanding := by
  rcases outstanding_advance_or advances with same | ⟨told, -⟩
  · exact same
  · rw [heeded] at told
    cases told

/-- No step of a reader changes whether it was told to stop. -/
theorem cancelled_advance
    {capacity : Nat}
    {reader next : Reader}
    (advances : reader.advance capacity = some next) :
    next.cancelled = reader.cancelled := by
  cases advances_of_advance advances <;> rfl

/-- A reader that has stopped does nothing any more. -/
theorem advance_of_gone
    {capacity : Nat}
    {reader : Reader}
    (gone : reader.isGone) :
    reader.advance capacity = none := by
  rw [advance, isGone_iff.1 gone]

/-- A reader that cannot go on has stopped, or waits for room in its queue. -/
theorem stuck_of_advance_eq_none
    {capacity : Nat}
    {reader : Reader}
    (stuck : reader.advance capacity = none) :
    reader.isGone ∨
      (reader.cancelled = false ∧ capacity ≤ reader.queue.length) := by
  unfold advance at stuck
  cases phase : reader.phase with
  | offering item =>
      simp only [phase] at stuck
      split at stuck
      · cases stuck
      · next heeded =>
        split at stuck
        · cases stuck
        · next full =>
          exact Or.inr ⟨by simpa using heeded, Nat.le_of_not_lt full⟩
  | gone => exact Or.inl (isGone_iff.2 phase)
  | _ => simp [phase] at stuck

/-- A reader whose queue is empty can go on unless it has stopped. -/
theorem advance_ne_none
    {capacity : Nat}
    {reader : Reader}
    (roomy : 0 < capacity)
    (drained : reader.queue = [])
    (reading : reader.isGone = false) :
    reader.advance capacity ≠ none := by
  intro stuck
  rcases stuck_of_advance_eq_none stuck with spent | waits
  · rw [reading] at spent
    cases spent
  · rw [drained, List.length_nil] at waits
    omega

end Reader
end GraphSweep
