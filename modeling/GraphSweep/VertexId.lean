import GraphSweep.Bytes
import GraphSweep.StorageError

/-!
# Vertex ids

A vertex id is a 64-bit word. Its two low bits tell the kind of the vertex, the
bits above them the partition, and the remaining bits below the sign the count.
A partitioned vertex is stored as several siblings that share a count; the one of
partition zero stands for all of them. The key of a vertex is its word, spelled
in eight bytes.
-/

namespace GraphSweep

/-- The id of a stored vertex. -/
abbrev VertexId := Int64

/-- How a vertex takes part in a job. -/
inductive IdKind
  | normal
  | partitioned
  | hidden
  deriving DecidableEq

namespace IdKind

/-- The low bits of an id of the kind. -/
def tag : IdKind -> Nat
  | normal => 0
  | partitioned => 1
  | hidden => 2

/-- The kind that low bits stand for; the unused pattern counts as normal. -/
def ofTag : Nat -> IdKind
  | 1 => partitioned
  | 2 => hidden
  | _ => normal

@[simp] theorem ofTag_tag (kind : IdKind) : ofTag kind.tag = kind := by
  cases kind <;> rfl

theorem tag_lt (kind : IdKind) : kind.tag < 4 := by
  cases kind <;> decide

/-- The kind as documents name it. -/
def name : IdKind -> String
  | normal => "normal"
  | partitioned => "partitioned"
  | hidden => "hidden"

/-- The kind that a document names. -/
def ofName? (name : String) : Option IdKind :=
  if name = "normal" then some normal
  else if name = "partitioned" then some partitioned
  else if name = "hidden" then some hidden
  else none

@[simp] theorem ofName?_name (kind : IdKind) :
    ofName? kind.name = some kind := by
  cases kind <;> decide

end IdKind

namespace VertexId

/-- The id as a word, read without a sign. -/
def word (id : VertexId) : Nat := id.toUInt64.toNat

/-- The id with a given word. -/
def ofWord (word : Nat) : VertexId := (UInt64.ofNat word).toInt64

/-- The kind that an id's low bits tell. -/
def kind (id : VertexId) : IdKind := IdKind.ofTag (word id % 4)

/-- Whether jobs pass over the vertex. -/
def isHidden (id : VertexId) : Bool := kind id = .hidden

/-- Whether the vertex is one sibling of a partitioned vertex. -/
def isPartitioned (id : VertexId) : Bool := kind id = .partitioned

/-- The key under which a vertex is stored. -/
def key (id : VertexId) : Bytes := Bytes.bigEndian 8 (word id)

/-- The vertex stored under a key. -/
def ofKey (key : Bytes) : Except StorageError VertexId :=
  if key.length ≠ 8 then .error (.decode (.keyLength key.length))
  else if UInt64.size / 2 ≤ key.toNat then .error (.decode (.keySign key.toNat))
  else .ok (ofWord key.toNat)

theorem word_lt (id : VertexId) : word id < UInt64.size :=
  id.toUInt64.toNat_lt_size

@[simp] theorem word_ofWord (number : Nat) :
    word (ofWord number) = number % UInt64.size := by
  simp [word, ofWord]

@[simp] theorem ofWord_word (id : VertexId) : ofWord (word id) = id := by
  simp [word, ofWord]

end VertexId

/-- How many bits of an id tell the partition. -/
structure IdLayout where
  /-- Width of the partition part in bits. -/
  partitionWidth : Nat
  /-- A layout has at most sixteen partition bits. -/
  bounded : partitionWidth ≤ 16
  deriving DecidableEq

namespace IdLayout

/-- Partition bits of a layout when none are asked for. -/
def standardBits : UInt32 := 4

/-- The layout with the requested number of partition bits, at most sixteen. -/
def ofBits (bits : UInt32) : IdLayout where
  partitionWidth := min bits.toNat 16
  bounded := Nat.min_le_right _ _

/-- The layout when none is asked for. -/
def standard : IdLayout := ofBits standardBits

/-- Number of partitions that a layout tells apart. -/
def partitionCount (layout : IdLayout) : Nat := 1 <<< layout.partitionWidth

/-- Width of the count part in bits. -/
def countBits (layout : IdLayout) : Nat := 61 - layout.partitionWidth

/-- Value of the lowest bit of the count part. -/
def countUnit (layout : IdLayout) : Nat := 4 * layout.partitionCount

/-- The id composed of its parts, of which the high bits that do not fit are
dropped. -/
def compose
    (layout : IdLayout)
    (count : UInt64)
    (partition : UInt32)
    (kind : IdKind) : VertexId :=
  VertexId.ofWord
    (count.toNat % (1 <<< layout.countBits) * layout.countUnit +
      partition.toNat % layout.partitionCount * 4 + kind.tag)

/-- The id of a normal vertex. -/
def normal (layout : IdLayout) (count : UInt64) : VertexId :=
  layout.compose count 0 .normal

/-- The id of a vertex that jobs pass over. -/
def hidden (layout : IdLayout) (count : UInt64) : VertexId :=
  layout.compose count 0 .hidden

/-- The id of one sibling of a partitioned vertex. -/
def partitioned
    (layout : IdLayout)
    (count : UInt64)
    (partition : UInt32) : VertexId :=
  layout.compose count partition .partitioned

/-- The count part of an id. -/
def count (layout : IdLayout) (id : VertexId) : UInt64 :=
  UInt64.ofNat (VertexId.word id / layout.countUnit)

/-- The partition part of an id. -/
def partition (layout : IdLayout) (id : VertexId) : UInt32 :=
  UInt32.ofNat (VertexId.word id / 4 % layout.partitionCount)

/-- The id that stands for all siblings of a vertex. -/
def canonical (layout : IdLayout) (id : VertexId) : VertexId :=
  if VertexId.isPartitioned id then layout.partitioned (layout.count id) 0
  else id

/-- The siblings of a partitioned vertex: at least one, and no more than the
layout has partitions. -/
def siblings
    (layout : IdLayout)
    (count : UInt64)
    (requested : UInt32) : List VertexId :=
  (List.range (max 1 (min requested.toNat layout.partitionCount))).map
    fun partition => layout.partitioned count (UInt32.ofNat partition)

end IdLayout
end GraphSweep
