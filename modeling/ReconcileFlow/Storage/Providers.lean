import ReconcileFlow.Storage.Abandoned
import ReconcileFlow.Support.Service

/-!
# Storage — Providers

The two providers of objects, call by call: `LocalFileStorage`, whose objects are the files of a
directory, and `S3FileStorage`, whose objects are in a bucket, and which saves an upload in a
directory of its own before it sends it.  Each call comes with what the file system, or the S3
service, answers to it: any of them may fail, and a request that the service does not answer may
have been carried out.

The bucket's objects are those that `save` sends.  URLs for direct access, and the listing
(`localListOlderThan`, `s3ListOlderThan`), are not among the calls.
-/

namespace ReconcileFlow.Storage

open Support

/-! ### Calls -/

/-- What is asked of a provider. -/
inductive ProviderCall
  /-- `save`, which draws the identifier. -/
  | save (upload : UploadStream) (namespace? : Option String) (identifier : String)
  | delete (key : String)
  | open (key : String)
  | exists (key : String)
  | stat (key : String)
  /-- `materialize`, and in it `inspect_materialized`. -/
  | inspect (key originalFilename : String)

structure StorageObjectMetadata where
  storageKey : String
  sizeBytes : Nat
  contentType : Option String := none
  checksumSha256 : Option String := none
deriving DecidableEq, Repr

abbrev ProviderCall.Answer : ProviderCall → Type
  | .save .. => KeyedUpload
  | .delete _ => Unit
  | .open _ => Bytes
  | .exists _ => Bool
  | .stat _ => StorageObjectMetadata
  | .inspect .. => KeyedUpload

inductive ProviderError
  /-- `InvalidStorageKeyError`. -/
  | invalidKey (message : String)
  /-- `StorageNotFoundError`. -/
  | notFound (message : String)
  | raised (error : SaveError)
deriving DecidableEq, Repr

namespace ProviderError

def badKey : ProviderError := .invalidKey "invalid storage key"

def unavailable : ProviderError := .notFound "stored object is unavailable"

def operation : ProviderError :=
  .raised (.storageOperation "the storage operation could not be completed")

end ProviderError

/-- `except OSError`. -/
def wrapped {α : Type} (result : Except ProviderError α) : Except ProviderError α :=
  match result with
  | .error (.raised .os) => .error .operation
  | _ => result

/-- What a call of the file system answers. -/
abbrev FileAnswer := Except SaveError Unit

/-- The answer, raised as it is. -/
def raising (result : FileAnswer) : Except ProviderError Unit := result.mapError .raised

/-- What a call gives and what it leaves. -/
def outcome {ε σ α : Type} : EStateM.Result ε σ α → Except ε α × σ
  | .ok a s => (.ok a, s)
  | .error e s => (.error e, s)

/-- `inspect_materialized`, of a file with the contents. -/
def inspectMaterialized (library : Library) (fileSystem : FileSystem) (stat read : FileAnswer)
    (maximum : Nat) (contents : Bytes) (originalFilename key : String) :
    Except ProviderError KeyedUpload := do
  let (safeName, extension) ←
    (validatedFilename library.lower (some originalFilename)).mapError .raised
  wrapped do
    raising stat
    raising (must (contents ≠ []) (.emptyUpload "upload is empty"))
    raising (must (contents.length ≤ maximum)
      (.uploadTooLarge "upload exceeds configured size limit"))
    raising read
    raising (validateContents library fileSystem maximum extension contents (contents.take 65536))
    return {
      storageKey := key
      originalFilename := safeName
      contentType := extension.contentType
      sizeBytes := contents.length
      checksumSha256 := library.sha256 contents }

/-! ### `LocalFileStorage` -/

/-- What the file system answers while a call is made. -/
structure LocalAnswers where
  fileSystem : FileSystem := {}
  /-- Whether it says if the file is there. -/
  looksUp : Bool := true
  unlink : FileAnswer := .ok ()
  openFile : FileAnswer := .ok ()
  stat : FileAnswer := .ok ()
  read : FileAnswer := .ok ()

namespace LocalFileStorage

variable (storage : LocalFileStorage) (library : Library) (answers : LocalAnswers)

/-- `is_file`, which says `False` where an `OSError` is raised. -/
def isFile (directory : Directory) (key : String) : Bool :=
  answers.looksUp && (directory key).isSome

/-- `resolve`.  The name of a key that matches is the key, and its parent is the directory. -/
def resolve (directory : Directory) (requireExists : Bool) (key : String) :
    Except ProviderError Unit := do
  must (isStorageKey key = true) .badKey
  if requireExists then must (isFile answers directory key = true) .unavailable

def delete (key : String) : EStateM ProviderError Directory Unit := do
  let directory ← get
  answer (wrapped do
    resolve answers directory false key
    raising answers.unlink)
  modify fun directory => Function.update directory key none

def openFile (directory : Directory) (key : String) : Except ProviderError Bytes :=
  wrapped do
    resolve answers directory true key
    raising answers.openFile
    return (directory key).getD []

def existsFile (directory : Directory) (key : String) : Except ProviderError Bool := do
  resolve answers directory false key
  return isFile answers directory key

def stat (directory : Directory) (key : String) : Except ProviderError StorageObjectMetadata :=
  wrapped do
    resolve answers directory true key
    raising answers.stat
    return { storageKey := key, sizeBytes := ((directory key).getD []).length }

/-- `materialize` gives the file itself. -/
def inspect (directory : Directory) (key originalFilename : String) :
    Except ProviderError KeyedUpload := do
  resolve answers directory true key
  inspectMaterialized library answers.fileSystem answers.stat answers.read storage.maxSizeBytes
    ((directory key).getD []) originalFilename key

/-- What a call answers, and the directory that it leaves. -/
def serve : (call : ProviderCall) → Directory → Except ProviderError call.Answer × Directory
  | .save upload namespace? identifier, directory =>
    let (result, after) :=
      outcome ((storage.save library answers.fileSystem upload namespace? identifier).run directory)
    (result.mapError .raised, after)
  | .delete key, directory => outcome ((delete answers key).run directory)
  | .open key, directory => (openFile answers directory key, directory)
  | .exists key, directory => (existsFile answers directory key, directory)
  | .stat key, directory => (stat answers directory key, directory)
  | .inspect key originalFilename, directory =>
    (storage.inspect library answers directory key originalFilename, directory)

end LocalFileStorage

/-! ### `S3FileStorage` -/

structure S3Object where
  contents : Bytes
  contentType : String
  /-- `checksum-sha256` of its metadata. -/
  checksumSha256 : String
deriving DecidableEq, Repr

abbrev Bucket := String → Option S3Object

/-- `_is_missing`. -/
def isMissing (code : String) : Bool :=
  ["404", "NoSuchBucket", "NoSuchKey", "NotFound"].contains code

/-- What becomes of a request to the service, which says that an object is missing only if it is. -/
inductive S3Response
  | served
  /-- A `ClientError`. -/
  | refused (code : String) (other : isMissing code = false) (carriedOut : Bool)
  /-- A `BotoCoreError`. -/
  | broken (carriedOut : Bool)

/-- What the file system and the service answer while a call is made. -/
structure S3Answers where
  makeDirectory : FileAnswer := .ok ()
  staging : LocalAnswers := {}
  removeDirectory : FileAnswer := .ok ()
  response : S3Response := .served
  /-- The body of the object, and the file it is copied to. -/
  copy : FileAnswer := .ok ()

/-- `_raise_client_error`. -/
def clientError (code : String) : ProviderError :=
  if isMissing code = true then .unavailable else .operation

structure S3FileStorage where
  maxSizeBytes : Nat

namespace S3FileStorage

variable (storage : S3FileStorage) (library : Library) (answers : S3Answers)

/-- `_validate_key`. -/
def validateKey (key : String) : Except ProviderError Unit := must (isStorageKey key = true) .badKey

/-- `upload_fileobj`. -/
def uploadFileobj (key : String) (object : S3Object) : EStateM ProviderError Bucket Unit :=
  match answers.response with
  | .served => modify fun bucket => Function.update bucket key (some object)
  | .refused _ _ carriedOut | .broken carriedOut => do
    if carriedOut then modify fun bucket => Function.update bucket key (some object)
    throw .operation

/-- The upload in a directory of its own. -/
def stage (upload : UploadStream) (namespace? : Option String) (identifier : String) :
    Except ProviderError (KeyedUpload × Bytes) := do
  let staging : LocalFileStorage := ⟨storage.maxSizeBytes⟩
  let (result, directory) := outcome
    ((staging.save library answers.staging.fileSystem upload namespace? identifier).run
      fun _ => none)
  let stored ← result.mapError .raised
  let contents ← LocalFileStorage.openFile answers.staging directory stored.storageKey
  return (stored, contents)

def save (upload : UploadStream) (namespace? : Option String) (identifier : String) :
    EStateM ProviderError Bucket KeyedUpload :=
  tryCatch (do
    answer (raising answers.makeDirectory)
    tryFinally (do
      let (stored, contents) ← answer (storage.stage library answers upload namespace? identifier)
      uploadFileobj answers stored.storageKey
        { contents, contentType := stored.contentType, checksumSha256 := stored.checksumSha256 }
      return stored)
      (answer (raising answers.removeDirectory)))
    fun error => answer (wrapped (.error error))

def delete (key : String) : EStateM ProviderError Bucket Unit := do
  answer (validateKey key)
  match answers.response with
  | .served => modify fun bucket => Function.update bucket key none
  | .refused _ _ carriedOut | .broken carriedOut =>
    if carriedOut then modify fun bucket => Function.update bucket key none
    throw .operation

/-- A request for the object of the key; the service answers `code` if there is none. -/
def request (bucket : Bucket) (key code : String) : Except ProviderError S3Object :=
  match answers.response with
  | .served =>
    match bucket key with
    | some object => .ok object
    | none => .error (clientError code)
  | .refused code _ _ => .error (clientError code)
  | .broken _ => .error .operation

def openObject (bucket : Bucket) (key : String) : Except ProviderError Bytes := do
  validateKey key
  let object ← request answers bucket key "NoSuchKey"
  return object.contents

def existsObject (bucket : Bucket) (key : String) : Except ProviderError Bool := do
  validateKey key
  match request answers bucket key "404" with
  | .ok _ => return true
  | .error (.notFound _) => return false
  | .error error => throw error

def stat (bucket : Bucket) (key : String) : Except ProviderError StorageObjectMetadata := do
  validateKey key
  let object ← request answers bucket key "404"
  return {
    storageKey := key
    sizeBytes := object.contents.length
    contentType := some object.contentType
    checksumSha256 := some object.checksumSha256 }

/-- `materialize` copies the object to a file of a directory of its own, which is removed after. -/
def inspect (bucket : Bucket) (key originalFilename : String) :
    Except ProviderError KeyedUpload := do
  validateKey key
  raising answers.makeDirectory
  let result := wrapped do
    let contents ← openObject answers bucket key
    raising answers.copy
    inspectMaterialized library answers.staging.fileSystem answers.staging.stat answers.staging.read
      storage.maxSizeBytes contents originalFilename key
  raising answers.removeDirectory
  result

/-- What a call answers, and the bucket that it leaves. -/
def serve : (call : ProviderCall) → Bucket → Except ProviderError call.Answer × Bucket
  | .save upload namespace? identifier, bucket =>
    outcome ((storage.save library answers upload namespace? identifier).run bucket)
  | .delete key, bucket => outcome ((delete answers key).run bucket)
  | .open key, bucket => (openObject answers bucket key, bucket)
  | .exists key, bucket => (existsObject answers bucket key, bucket)
  | .stat key, bucket => (stat answers bucket key, bucket)
  | .inspect key originalFilename, bucket =>
    (storage.inspect library answers bucket key originalFilename, bucket)

end S3FileStorage

end ReconcileFlow.Storage
