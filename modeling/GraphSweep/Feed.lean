import GraphSweep.KeyStream

/-!
# Feeds

A feed is a stream as a job sees it: the records of vertices that are not hidden,
up to the first read that fails or the first key that names no vertex, and how it
ends there.
-/

namespace GraphSweep

/-- What a stream delivers for one vertex. -/
structure Item where
  id : VertexId
  entries : List Entry
  deriving DecidableEq

/-- How a feed ends. -/
inductive FeedEnd
  | exhausted
  | failed (error : StorageError)
  deriving DecidableEq

/-- The items that a stream delivers, and how it ends. -/
structure Feed where
  items : List Item
  ending : FeedEnd
  deriving DecidableEq

namespace Feed

/-- The feed of a stream. -/
def ofReads : List Read -> Feed
  | [] => ⟨[], .exhausted⟩
  | .failure error :: _ => ⟨[], .failed error⟩
  | .crash _ :: _ => ⟨[], .failed .readerCrashed⟩
  | .record record :: rest =>
      match VertexId.ofKey record.key with
      | .error error => ⟨[], .failed error⟩
      | .ok id =>
          let later := ofReads rest
          if VertexId.isHidden id then later
          else ⟨⟨id, record.entries⟩ :: later.items, later.ending⟩

end Feed
end GraphSweep
