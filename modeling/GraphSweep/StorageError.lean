/-!
# Storage errors

What can go wrong while the store is read, as causes. The wording of each cause
is in one function.
-/

namespace GraphSweep

/-- What a storage handle gives access to. -/
inductive Handle
  | transaction
  | cursor
  deriving DecidableEq

/-- Why stored bytes could not be read as what they should be. -/
inductive DecodeFault
  | keyLength (length : Nat)
  | keySign (word : Nat)
  | columnTooShort (vertex : Int64) (length : Nat)
  | directionUnknown (tag : UInt8) (vertex : Int64)
  | columnLength (length : Nat) (vertex : Int64)
  | probeEmpty
  | other (detail : String)
  deriving DecidableEq

/-- Why the storage layer failed. -/
inductive StorageError
  | read (detail : String)
  | injected (yielded : Nat)
  | decode (fault : DecodeFault)
  | closed (handle : Handle)
  | device (detail : String)
  | readerCrashed
  | custom (detail : String)
  deriving DecidableEq

namespace Handle

/-- The handle as messages name it. -/
def name : Handle -> String
  | .transaction => "transaction"
  | .cursor => "key iterator"

end Handle

/-- A number in hexadecimal, marked as such. -/
def hexNumber (number : Nat) : String :=
  "0x" ++ String.ofList (Nat.toDigits 16 number)

namespace DecodeFault

/-- What is said about bytes that could not be read. -/
def message : DecodeFault -> String
  | keyLength length =>
      "vertex key must be 8 bytes, got " ++ toString length
  | keySign word =>
      "vertex key " ++ hexNumber word ++ " has the sign bit set"
  | columnTooShort vertex length =>
      "column of vertex " ++ toString vertex.toInt ++ " is " ++ toString length
        ++ " bytes, shorter than a type id"
  | directionUnknown tag vertex =>
      "unknown edge direction " ++ toString tag.toNat ++ " on vertex "
        ++ toString vertex.toInt
  | columnLength length vertex =>
      "unexpected column length " ++ toString length ++ " on vertex "
        ++ toString vertex.toInt
  | probeEmpty => "existence probe returned no entries"
  | other detail => detail

end DecodeFault

namespace StorageError

/-- What is said about a storage error. -/
def message : StorageError -> String
  | read detail => "Storage read failed: " ++ detail
  | injected yielded =>
      "Storage read failed: injected failure after " ++ toString yielded
        ++ " keys"
  | decode fault => "Decode error: " ++ fault.message
  | closed handle => "Storage handle closed: " ++ handle.name
  | device detail => "I/O error: " ++ detail
  | readerCrashed => "stream puller panicked"
  | custom detail => detail

end StorageError
end GraphSweep
