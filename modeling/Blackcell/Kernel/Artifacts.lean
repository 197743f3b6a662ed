import Blackcell.Foundation.Faults
import Blackcell.Kernel.Bytes
import Blackcell.Kernel.Database

/-!
# The artifact store

The object store of `kernel/artifacts.py`: a table of references in the database, and a file for
each of them, at a path that is made of its digest. A file is written under a temporary name and
renamed, and its row is inserted in a transaction around that. The store is followed statement by
statement and system call by system call; each of them can fail, before it takes effect or after,
and a write can leave anything in the temporary file.

## Main definitions

* `ArtifactRef`, `ArtifactRow` : references, and the rows that hold them.
* `Artifacts` : the rows, the open transaction and the files.
* `ArtifactOp.perform` : the statements and the system calls.
* `ArtifactStore.putBytes`, `ArtifactStore.getBytes` : the methods of the store.
* `PutCall.serve`, `ArtifactStore.serve` : calls that return, raise or are cut off by a crash.
-/

namespace Blackcell.Kernel

open Faulty

/-- `ArtifactRef`. -/
structure ArtifactRef where
  digest : String
  sizeBytes : Nat
  mediaType : String
  encoding : Option String
  createdAt : Datetime
  deriving DecidableEq

/-- A row of `kernel_artifacts`. -/
structure ArtifactRow where
  digest : String
  algorithm : String
  sizeBytes : Nat
  mediaType : String
  encoding : Option String
  relativePath : String
  createdAt : String
  deriving DecidableEq

/-- What a method of the store raises. -/
inductive ArtifactError where
  /-- `ValueError`. -/
  | value
  /-- `ArtifactQuotaExceededError`. -/
  | quota
  /-- `ArtifactIntegrityError`. -/
  | integrity
  /-- `ArtifactNotFoundError`. -/
  | notFound
  /-- An exception of the database or of the operating system. -/
  | raised
  /-- An exception that is not an `Exception`, such as `KeyboardInterrupt`. -/
  | interrupt
  deriving DecidableEq

/-- `except Exception` catches the error. -/
def ArtifactError.isException (e : ArtifactError) : Bool := decide (e ≠ .interrupt)

/-- `_artifact_from_row`. -/
def ArtifactRow.reference (H : Host) (row : ArtifactRow) : Except ArtifactError ArtifactRef := do
  let createdAt ← Checked.ofOption (H.fromisoformat row.createdAt) ArtifactError.value
  pure ⟨row.digest, row.sizeBytes, row.mediaType, row.encoding, createdAt⟩

/-! ### Paths -/

/-- `_validate_digest`. -/
def validateDigest (H : Host) (digest : String) : Except ArtifactError PUnit :=
  Checked.require (hasDigestPrefix digest ∧ (withoutDigestPrefix digest).length = 64 ∧
    H.parsesBase16 (withoutDigestPrefix digest)) ArtifactError.value

/-- The components of the path of a blob. -/
def blobPath (digest : String) : List String :=
  let hexadecimal := withoutDigestPrefix digest
  ["sha256", String.ofList (hexadecimal.toList.take 2),
    String.ofList ((hexadecimal.toList.drop 2).take 2), hexadecimal]

/-- `_relative_path`. -/
def relativePath (H : Host) (digest : String) : Except ArtifactError (List String) := do
  validateDigest H digest
  pure (blobPath digest)

/-- The name of a temporary file. -/
def temporaryName (name uuid : String) : String := "." ++ name ++ "." ++ uuid ++ ".tmp"

/-- `path.with_name(f".{path.name}.{uuid4().hex}.tmp")`. -/
def temporaryPath (path : List String) (uuid : String) : List String :=
  path.dropLast ++ [temporaryName (path.getLastD "") uuid]

/-! ### Statements and system calls -/

/-- The contents of the regular files below the root of the blobs. -/
abbrev Blobs := List String → Option ByteArray

/-- The database and the files of a store. -/
structure Artifacts where
  rows : List ArtifactRow
  /-- The rows as the open transaction sees them. -/
  transaction : Option (List ArtifactRow)
  files : Blobs

namespace Artifacts

/-- A new store. -/
def initial : Artifacts := ⟨[], none, fun _ ↦ none⟩

/-- The rows that a statement sees. -/
def visible (s : Artifacts) : List ArtifactRow := s.transaction.getD s.rows

/-- What remains when a connection ends: SQLite rolls its transaction back. -/
def disconnect (s : Artifacts) : Artifacts := { s with transaction := none }

end Artifacts

/-- The sizes of the rows. -/
def totalBytes (rows : List ArtifactRow) : Nat := (rows.map (·.sizeBytes)).sum

/-- The statements and the system calls of the store. -/
inductive ArtifactOp where
  /-- `sqlite3.connect`. -/
  | connect
  /-- The permissions of the database file and the pragmas. -/
  | configure
  | beginImmediate
  | selectRow (digest : String)
  | sumSizes
  | insertRow (row : ArtifactRow)
  | commit
  | rollback
  | close
  /-- `path.parent.mkdir` and `os.chmod`. -/
  | makeParent (path : List String)
  | pathExists (path : List String)
  /-- `path.read_bytes()`, `none` for a `FileNotFoundError`. -/
  | readBytes (path : List String)
  /-- `path.open("xb")`. -/
  | openNew (path : List String)
  /-- `os.chmod`, `handle.write`, `handle.flush` and `os.fsync`. -/
  | writeBytes (path : List String) (data : ByteArray)
  /-- `os.replace`. -/
  | replace (source target : List String)
  /-- `path.unlink(missing_ok=True)`. -/
  | unlink (path : List String)

namespace ArtifactOp

/-- What an operation returns. -/
def Val : ArtifactOp → Type
  | selectRow _ => Option ArtifactRow
  | sumSizes => Nat
  | pathExists _ => Bool
  | readBytes _ => Option ByteArray
  | _ => PUnit

/-- The constraints of `kernel_artifacts`. -/
def Insertable (rows : List ArtifactRow) (row : ArtifactRow) : Prop :=
  (∀ text ∈ [row.digest, row.mediaType, row.relativePath], 0 < textLength text) ∧
    isBound row.sizeBytes ∧
    ∀ old ∈ rows, old.digest ≠ row.digest ∧ old.relativePath ≠ row.relativePath

instance (rows : List ArtifactRow) (row : ArtifactRow) : Decidable (Insertable rows row) :=
  inferInstanceAs (Decidable (_ ∧ _ ∧ _))

/-- The effect of an operation that does not fail. -/
def perform : (o : ArtifactOp) → Artifacts → Except ArtifactError o.Val × Artifacts
  | connect, s | configure, s | makeParent _, s => (.ok ⟨⟩, s)
  | beginImmediate, s =>
    match s.transaction with
    | none => (.ok ⟨⟩, { s with transaction := some s.rows })
    | some _ => (.error .raised, s)
  | selectRow digest, s => (.ok (s.visible.find? fun row ↦ decide (row.digest = digest)), s)
  | sumSizes, s =>
    if isBound (totalBytes s.visible) then (.ok (totalBytes s.visible), s) else (.error .raised, s)
  | insertRow row, s =>
    if Insertable s.visible row then
      match s.transaction with
      | none => (.ok ⟨⟩, { s with rows := s.rows ++ [row] })
      | some rows => (.ok ⟨⟩, { s with transaction := some (rows ++ [row]) })
    else (.error .raised, s)
  | commit, s => (.ok ⟨⟩, { s with rows := s.visible, transaction := none })
  | rollback, s | close, s => (.ok ⟨⟩, s.disconnect)
  | pathExists path, s => (.ok (s.files path).isSome, s)
  | readBytes path, s => (.ok (s.files path), s)
  | openNew path, s =>
    if (s.files path).isSome then (.error .raised, s)
    else (.ok ⟨⟩, { s with files := Function.update s.files path (some ⟨#[]⟩) })
  | writeBytes path data, s =>
    (.ok ⟨⟩, { s with files := Function.update s.files path (some data) })
  | replace source target, s =>
    match s.files source with
    | none => (.error .raised, s)
    | some data =>
      (.ok ⟨⟩, { s with
        files := Function.update (Function.update s.files target (some data)) source none })
  | unlink path, s => (.ok ⟨⟩, { s with files := Function.update s.files path none })

/-- What an operation leaves that fails with a part of it done: a file that is written can have any
content, and the others have no parts. -/
def leave (o : ArtifactOp) (left : ByteArray) (s : Artifacts) : Artifacts :=
  match o with
  | writeBytes path _ => { s with files := Function.update s.files path (some left) }
  | _ => s

end ArtifactOp

/-- A part of a method of the store. -/
abbrev StoreProg : Type → Type := Prog (Operations ArtifactError ArtifactOp.Val) ArtifactError

/-- Perform an operation, and raise its error. -/
abbrev execute (o : ArtifactOp) : StoreProg o.Val := act o

/-! ### The methods -/

/-- `ArtifactStore`, without the places of its files. -/
structure ArtifactStore where
  maxTotalBytes : Option Nat
  isPositive : ∀ n ∈ maxTotalBytes, 1 ≤ n

variable (H : Host) (D : BytesDigest)

/-- `with connect(...)`. -/
def withConnection {α : Type} (body : StoreProg α) : StoreProg α := do
  execute .connect
  (do execute .configure; body : StoreProg α).tryFinally (execute .close)

/-- `_verify_path`. -/
def verifyPath (path : List String) (digest : String) (size : Nat) : StoreProg PUnit := do
  let found ← execute (.readBytes path)
  let data ← Checked.ofOption found ArtifactError.integrity
  Checked.require (data.size = size ∧ D.bytesDigest data = digest) ArtifactError.integrity

/-- The part of `_write_once` that writes a new file. -/
def writeNew (path : List String) (data : ByteArray) (uuid : String) : StoreProg PUnit :=
  (do
    execute (.openNew (temporaryPath path uuid))
    execute (.writeBytes (temporaryPath path uuid) data)
    execute (.replace (temporaryPath path uuid) path) : StoreProg PUnit).tryFinally
      (execute (.unlink (temporaryPath path uuid)))

/-- `_write_once`, given `uuid4().hex`. -/
def writeOnce (path : List String) (data : ByteArray) (digest uuid : String) :
    StoreProg PUnit := do
  execute (.makeParent path)
  let found : Bool ← execute (.pathExists path)
  if found then verifyPath D path digest data.size else writeNew path data uuid

namespace ArtifactStore

variable (store : ArtifactStore)

/-- The check of the quota. -/
def checkQuota (size : Nat) : StoreProg PUnit :=
  match store.maxTotalBytes with
  | none => pure ⟨⟩
  | some maximum => do
    let used : Nat ← execute .sumSizes
    Checked.require (used + size ≤ maximum) ArtifactError.quota

/-- The part of `put_bytes` for a digest that has a row. -/
def putStored (path : List String) (digest : String) (row : ArtifactRow) :
    StoreProg ArtifactRef := do
  let reference ← row.reference H
  verifyPath D path digest reference.sizeBytes
  execute .commit
  pure reference

/-- The row of a new artifact. -/
def newRow (path : List String) (digest : String) (data : ByteArray) (mediaType : String)
    (encoding : Option String) (now : Timestamp) : ArtifactRow :=
  ⟨digest, "sha256", data.size, mediaType, encoding, String.intercalate "/" path, H.isoformat now⟩

/-- The part of `put_bytes` for a digest that has no row. -/
def putNew (path : List String) (digest : String) (data : ByteArray) (mediaType : String)
    (encoding : Option String) (uuid : String) (now : Timestamp) : StoreProg ArtifactRef := do
  store.checkQuota data.size
  writeOnce D path data digest uuid
  execute (.insertRow (newRow H path digest data mediaType encoding now))
  execute .commit
  pure ⟨digest, data.size, mediaType, encoding, ⟨now, true⟩⟩

/-- The part of `put_bytes` inside the transaction. -/
def putRow (path : List String) (digest : String) (data : ByteArray) (mediaType : String)
    (encoding : Option String) (uuid : String) (now : Timestamp) : StoreProg ArtifactRef := do
  let found ← execute (.selectRow digest)
  match found with
  | some row => putStored H D path digest row
  | none => store.putNew H D path digest data mediaType encoding uuid now

/-- `put_bytes`, given `uuid4().hex` and `utc_now()`. -/
def putBytes (data : ByteArray) (mediaType : String) (encoding : Option String) (uuid : String)
    (now : Timestamp) : StoreProg ArtifactRef := do
  Checked.require (isBlank mediaType = false) ArtifactError.value
  let digest := D.bytesDigest data
  let path ← relativePath H digest
  withConnection do
    execute .beginImmediate
    (store.putRow H D path digest data mediaType encoding uuid now).onException
      ArtifactError.isException (execute .rollback)

/-- `stat`. -/
def stat (digest : String) : StoreProg ArtifactRef := do
  validateDigest H digest
  let found ← withConnection (execute (.selectRow digest) : StoreProg (Option ArtifactRow))
  let row ← Checked.ofOption found ArtifactError.notFound
  row.reference H

/-- `get_bytes`, with `verify=True`. -/
def getBytes (digest : String) : StoreProg ByteArray := do
  let reference ← stat H digest
  let path ← relativePath H reference.digest
  let found ← execute (.readBytes path)
  let data ← Checked.ofOption found ArtifactError.integrity
  Checked.require (D.bytesDigest data = reference.digest ∧ data.size = reference.sizeBytes)
    ArtifactError.integrity
  pure data

end ArtifactStore

/-! ### Calls -/

/-- Where the operations of a call fail. -/
abbrev Faults : Type := Nat → Option (Fault ArtifactError ByteArray)

/-- No operation fails. -/
def noFaults : Faults := fun _ ↦ none

/-- A call of `put_bytes`: its arguments, what it takes from its surroundings, where its operations
fail, and after how many of them the process dies, if it does. -/
structure PutCall where
  data : ByteArray
  mediaType : String
  encoding : Option String
  uuid : String
  now : Timestamp
  faults : Faults
  crash : Option Nat

/-- The bytes of the calls. -/
def PutCall.Among (calls : List PutCall) (data : ByteArray) : Prop :=
  ∃ call ∈ calls, call.data = data

/-- The clock of the call can be written and read back. -/
def PutCall.ReadsBack (call : PutCall) : Prop :=
  H.fromisoformat (H.isoformat call.now) = some ⟨call.now, true⟩

/-- The run of `put_bytes` that the call asks for. -/
def PutCall.program (store : ArtifactStore) (call : PutCall) : StoreProg ArtifactRef :=
  store.putBytes H D call.data call.mediaType call.encoding call.uuid call.now

/-- A complete run of a method. -/
def StoreProg.runWith {α : Type} (p : StoreProg α) (faults : Faults) (s : Artifacts) :
    Except ArtifactError α × Artifacts :=
  let (result, t, _) := p.run (handle ArtifactOp.perform ArtifactOp.leave faults) (s, 0)
  (result, t.disconnect)

/-- A run of a method that is cut off after so many operations. -/
def StoreProg.crashWith {α : Type} (p : StoreProg α) (faults : Faults) (n : Nat) (s : Artifacts) :
    Artifacts :=
  (p.stopAfter (handle ArtifactOp.perform ArtifactOp.leave faults) n (s, 0)).1.disconnect

namespace ArtifactStore

variable (store : ArtifactStore)

/-- Serve a call: what it returns or raises, unless the process dies, and the store it leaves. -/
def serveCall (call : PutCall) (s : Artifacts) :
    Option (Except ArtifactError ArtifactRef) × Artifacts :=
  match call.crash with
  | none =>
    (some ((call.program H D store).runWith call.faults s).1,
      ((call.program H D store).runWith call.faults s).2)
  | some n => (none, (call.program H D store).crashWith call.faults n s)

/-- The store after a sequence of calls. -/
def serve (calls : List PutCall) (s : Artifacts) : Artifacts :=
  calls.foldl (fun s call ↦ (store.serveCall H D call s).2) s

end ArtifactStore

end Blackcell.Kernel
