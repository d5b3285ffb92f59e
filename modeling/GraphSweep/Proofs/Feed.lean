import GraphSweep.Feed
import Mathlib.Data.List.TakeWhile

/-!
# What a stream delivers

A feed holds the records of a stream that come before its first failing read, the
hidden vertices left out, and it ends with the failure of that read, if there is
one. A stream can be cut before its first failing read.
-/

namespace GraphSweep
namespace Read

/-- What a read fails with, if it fails. A key that names no vertex is a failure,
and so is a crash. -/
def fault? : Read -> Option StorageError
  | .failure error => some error
  | .crash _ => some .readerCrashed
  | .record keyed =>
      match VertexId.ofKey keyed.key with
      | .error error => some error
      | .ok _ => none

/-- What a read delivers: nothing for a hidden vertex. -/
def item? : Read -> Option Item
  | .failure _ => none
  | .crash _ => none
  | .record keyed =>
      match VertexId.ofKey keyed.key with
      | .error _ => none
      | .ok id =>
          if VertexId.isHidden id then none else some ⟨id, keyed.entries⟩

/-- A record whose key names a vertex does not fail. -/
theorem fault?_of_ofKey
    {key : Bytes}
    {id : VertexId}
    (named : VertexId.ofKey key = .ok id)
    (entries : List Entry) :
    fault? (.record ⟨key, entries⟩) = none := by
  rw [fault?, named]

/-- A record whose key names no vertex fails. -/
theorem fault?_of_ofKey_error
    {key : Bytes}
    {error : StorageError}
    (unnamed : VertexId.ofKey key = .error error)
    (entries : List Entry) :
    fault? (.record ⟨key, entries⟩) = some error := by
  rw [fault?, unnamed]

/-- A record whose key names a vertex delivers that vertex, unless it is hidden. -/
theorem item?_of_ofKey
    {key : Bytes}
    {id : VertexId}
    (named : VertexId.ofKey key = .ok id)
    (entries : List Entry) :
    item? (.record ⟨key, entries⟩) =
      if VertexId.isHidden id then none else some ⟨id, entries⟩ := by
  rw [item?, named]

/-- A read that fails delivers nothing. -/
theorem item?_of_fault
    {read : Read}
    {error : StorageError}
    (fails : read.fault? = some error) :
    read.item? = none := by
  cases read with
  | failure other | crash message => rfl
  | record keyed =>
      rw [fault?] at fails
      rw [item?]
      split at fails
      · rfl
      · cases fails

/-- The reads before the first that fails. -/
def beforeFault (reads : List Read) : List Read :=
  reads.takeWhile fun read => read.fault?.isNone

@[simp] theorem beforeFault_nil : beforeFault [] = [] := rfl

/-- A read that succeeds comes before the first that fails. -/
theorem beforeFault_cons_of_none
    {read : Read}
    (rest : List Read)
    (succeeds : read.fault? = none) :
    beforeFault (read :: rest) = read :: beforeFault rest := by
  rw [beforeFault, List.takeWhile_cons_of_pos (by simp [succeeds])]
  rfl

/-- Nothing comes before a read that fails. -/
theorem beforeFault_cons_of_some
    {read : Read}
    {error : StorageError}
    (rest : List Read)
    (fails : read.fault? = some error) :
    beforeFault (read :: rest) = [] := by
  rw [beforeFault, List.takeWhile_cons_of_neg (by simp [fails])]

/-- A stream that has been cut is cut no further. -/
@[simp] theorem beforeFault_beforeFault (reads : List Read) :
    beforeFault (beforeFault reads) = beforeFault reads :=
  List.takeWhile_idem

end Read

namespace FeedEnd

/-- The end of a feed, by what the first failing read fails with. -/
def ofFault? : Option StorageError -> FeedEnd
  | none => .exhausted
  | some error => .failed error

end FeedEnd

namespace Feed

/-- A failing read ends the feed. -/
theorem ofReads_of_fault
    {read : Read}
    {error : StorageError}
    (rest : List Read)
    (fails : read.fault? = some error) :
    ofReads (read :: rest) = ⟨[], .failed error⟩ := by
  cases read with
  | failure other | crash message =>
      cases fails
      rfl
  | record keyed =>
      rw [Read.fault?] at fails
      rw [ofReads]
      cases key : VertexId.ofKey keyed.key with
      | error other =>
          rw [key] at fails
          cases fails
          rfl
      | ok id =>
          rw [key] at fails
          cases fails

/-- A read that succeeds delivers its item before the rest of the feed. -/
theorem ofReads_of_no_fault
    {read : Read}
    (rest : List Read)
    (succeeds : read.fault? = none) :
    ofReads (read :: rest) =
      ⟨read.item?.toList ++ (ofReads rest).items, (ofReads rest).ending⟩ := by
  cases read with
  | failure other | crash message => cases succeeds
  | record keyed =>
      rw [Read.fault?] at succeeds
      rw [ofReads, Read.item?]
      cases key : VertexId.ofKey keyed.key with
      | error other =>
          rw [key] at succeeds
          cases succeeds
      | ok id =>
          dsimp only
          by_cases hidden : VertexId.isHidden id
          · rw [if_pos hidden, if_pos hidden]
            rfl
          · rw [if_neg hidden, if_neg hidden]
            rfl

/-- What the feed of a stream is. -/
theorem ofReads_eq (reads : List Read) :
    ofReads reads =
      ⟨(Read.beforeFault reads).filterMap Read.item?,
        FeedEnd.ofFault? (reads.findSome? Read.fault?)⟩ := by
  induction reads with
  | nil => rfl
  | cons read rest hypothesis =>
      rw [List.findSome?_cons]
      cases fault : read.fault? with
      | some error =>
          rw [ofReads_of_fault rest fault,
            Read.beforeFault_cons_of_some rest fault]
          rfl
      | none =>
          rw [ofReads_of_no_fault rest fault, hypothesis,
            Read.beforeFault_cons_of_none rest fault, List.filterMap_cons]
          cases read.item? <;> rfl

/-- Further reads in place of the first failing one and those behind it are delivered
after what comes before it. -/
theorem ofReads_beforeFault_append (reads more : List Read) :
    ofReads (Read.beforeFault reads ++ more) =
      ⟨(ofReads reads).items ++ (ofReads more).items, (ofReads more).ending⟩ := by
  induction reads with
  | nil => rfl
  | cons read rest hypothesis =>
      cases fault : read.fault? with
      | some error =>
          rw [Read.beforeFault_cons_of_some rest fault,
            ofReads_of_fault rest fault]
          rfl
      | none =>
          rw [Read.beforeFault_cons_of_none rest fault, List.cons_append,
            ofReads_of_no_fault _ fault, ofReads_of_no_fault rest fault,
            hypothesis, List.append_assoc]

/-- Cutting a stream before its first failing read delivers the same items, and
then the stream is exhausted. -/
theorem ofReads_beforeFault (reads : List Read) :
    ofReads (Read.beforeFault reads) = ⟨(ofReads reads).items, .exhausted⟩ := by
  have cut := ofReads_beforeFault_append reads []
  rw [List.append_nil] at cut
  rw [cut]
  exact congrArg (Feed.mk · .exhausted) (List.append_nil _)

end Feed

namespace KeyStream

/-- What a stream delivers before its first failing read. -/
def delivered (source : KeyStream) : List Item :=
  (Read.beforeFault source.reads).filterMap Read.item?

/-- What the first failing read of a stream fails with, if there is one. -/
def fault? (source : KeyStream) : Option StorageError :=
  source.reads.findSome? Read.fault?

theorem feed_eq (source : KeyStream) :
    Feed.ofReads source.reads =
      ⟨source.delivered, FeedEnd.ofFault? source.fault?⟩ :=
  Feed.ofReads_eq source.reads

end KeyStream
end GraphSweep
