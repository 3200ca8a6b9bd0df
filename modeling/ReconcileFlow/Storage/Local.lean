import Mathlib.Data.List.Basic
import Mathlib.Logic.Function.Basic
import ReconcileFlow.Storage.Files
import ReconcileFlow.Support.Effects
import ReconcileFlow.Support.Exceptions
import ReconcileFlow.Texts

/-!
# Storage — Local

`LocalFileStorage.save`: an upload is written to a temporary file, checked, and renamed.  The
directory is its files by name; a file that is left behind may have any contents, so a call of the
file system that fails leaves the directory as it was.

The handlers remove the temporary file after an `OSError` or one of the three upload errors, and
after no other exception.  So either the upload is saved or the directory is as before, unless
another exception interrupts the work on the temporary file, or the upload cannot be closed after it
has been saved, or the temporary file cannot be removed (`saved_or_unchanged_iff`).

What the standard library makes of bytes is a parameter (`Library`), as are the answers of the file
system (`FileSystem`) and of the upload.
-/

namespace ReconcileFlow.Storage

open Support

abbrev Bytes := List UInt8

/-- What is raised on the way. -/
inductive SaveError
  | emptyUpload (message : String)
  | uploadTooLarge (message : String)
  | unsupportedUpload (message : String)
  | storageOperation (message : String)
  /-- An `OSError`. -/
  | os
  /-- Any other exception. -/
  | other (typeName : String)
deriving DecidableEq, Repr

/-- The first handler or the second one takes the exception. -/
def SaveError.isHandled : SaveError → Bool
  | .emptyUpload _ | .uploadTooLarge _ | .unsupportedUpload _ | .os => true
  | .storageOperation _ | .other _ => false

/-- What the calls of `read` answer, one after the other, and what `close` does. -/
structure UploadStream where
  filename : Option String
  read : Nat → Except SaveError Bytes
  close : Except SaveError Unit := .ok ()

/-- What the calls of the file system answer. -/
structure FileSystem where
  mkdir : Except SaveError Unit := .ok ()
  /-- `open("xb")`, of a file that is not there. -/
  create : Except SaveError Unit := .ok ()
  write : Nat → Except SaveError Unit := fun _ => .ok ()
  flush : Except SaveError Unit := .ok ()
  fsync : Except SaveError Unit := .ok ()
  closeTemporary : Except SaveError Unit := .ok ()
  /-- The calls that read a CSV file back: `open`, then `read` until the end. -/
  readBack : Nat → Except SaveError Unit := fun _ => .ok ()
  replace : Except SaveError Unit := .ok ()
  unlinkTemporary : Except SaveError Unit := .ok ()
  unlinkFinal : Except SaveError Unit := .ok ()

structure Library where
  lower : String → String
  /-- `sha256(value).hexdigest()`. -/
  sha256 : Bytes → String
  /-- `zipfile.is_zipfile(path)`. -/
  isZipfile : Bytes → Bool
  /-- `zipfile.ZipFile(path).infolist()`: names and sizes. -/
  infolist : Bytes → Except SaveError (List (String × Nat))
  /-- The incremental decoder of `utf-8-sig` takes the bytes; at the end they have to be complete. -/
  decodes : Bytes → Bool → Bool

/-- A `StoredUpload` with its key. -/
structure KeyedUpload extends StoredUpload where
  storageKey : String
deriving DecidableEq, Repr

/-! ### Filenames -/

inductive Extension
  | csv | xlsx
deriving DecidableEq, Repr

namespace Extension

def text : Extension → String
  | .csv => ".csv"
  | .xlsx => ".xlsx"

/-- `_CONTENT_TYPES`. -/
def contentType : Extension → String
  | .csv => "text/csv"
  | .xlsx => "application/vnd.openxmlformats-officedocument.spreadsheetml.sheet"

def ofText (text : String) : Option Extension :=
  if text = ".csv" then some .csv else if text = ".xlsx" then some .xlsx else none

end Extension

/-- `value.strip(" .")`. -/
def stripDots (value : List Char) : List Char :=
  ((value.dropWhile fun c => [' ', '.'].contains c).reverse.dropWhile
    fun c => [' ', '.'].contains c).reverse

/-- `_validated_filename`. -/
def validatedFilename (lower : String → String) (supplied : Option String) :
    Except SaveError (String × Extension) :=
  match supplied.filter (· ≠ "") with
  | none => .error (.unsupportedUpload "a filename with a supported extension is required")
  | some supplied =>
    let slashed := supplied.toList.map fun c => if c = '\\' then '/' else c
    let printable := (pathName slashed).filter fun c => !(c.toNat < 32 || c.toNat == 127)
    let basename := strip (String.ofList printable)
    let (stem, suffix) := splitSuffix (pathName basename.toList)
    match Extension.ofText (lower (String.ofList suffix)) with
    | none => .error (.unsupportedUpload "only CSV and XLSX uploads are supported")
    | some extension =>
      let short := stripDots (stem.take (255 - extension.text.length))
      let name := if short = [] then "upload" else String.ofList short
      .ok (name ++ extension.text, extension)

/-! ### Contents -/

/-- The branch of `_validate_contents` for XLSX. -/
def validateXlsx (library : Library) (maximum : Nat) (contents firstChunk : Bytes) :
    Except SaveError Unit := do
  must ([0x50, 0x4B, 0x03, 0x04].isPrefixOf firstChunk = true ∧ library.isZipfile contents = true)
    (.unsupportedUpload "file contents are not a valid XLSX container")
  let infolist ← library.infolist contents
  must ("[Content_Types].xml" ∈ infolist.map (·.1) ∧ "xl/workbook.xml" ∈ infolist.map (·.1))
    (.unsupportedUpload "file contents are not a valid XLSX workbook")
  must ((infolist.map (·.2)).sum ≤ maximum * 20)
    (.unsupportedUpload "XLSX expanded contents exceed the safe limit")

/-- The loop of `_validate_contents` over the chunks of a CSV file, of which `n - 1` have been
read. -/
def validateChunks (library : Library) (readBack : Nat → Except SaveError Unit) (n : Nat)
    (seen : Bytes) : List Bytes → Except SaveError Unit
  | [] => do
    readBack n
    must (library.decodes seen true = true)
      (.unsupportedUpload "CSV uploads must use UTF-8 text")
  | chunk :: chunks => do
    readBack n
    must (0 ∉ chunk) (.unsupportedUpload "CSV uploads must contain text data")
    must (library.decodes (seen ++ chunk) false = true)
      (.unsupportedUpload "CSV uploads must use UTF-8 text")
    validateChunks library readBack (n + 1) (seen ++ chunk) chunks

/-- `_validate_contents`. -/
def validateContents (library : Library) (fileSystem : FileSystem) (maximum : Nat)
    (extension : Extension) (contents firstChunk : Bytes) : Except SaveError Unit :=
  match extension with
  | .xlsx => validateXlsx library maximum contents firstChunk
  | .csv => do
    fileSystem.readBack 0
    validateChunks library fileSystem.readBack 1 [] (contents.toChunks 65536)

/-! ### `save` -/

abbrev Directory := String → Option Bytes

abbrev FileAction := EStateM SaveError Directory

/-- `unlink(missing_ok=True)`. -/
def unlink (outcome : Except SaveError Unit) (path : String) : FileAction Unit := do
  answer outcome
  modify fun directory => Function.update directory path none

structure Progress where
  firstChunk : Bytes := []
  size : Nat := 0
  /-- The bytes that the digest has been given. -/
  digested : Bytes := []

structure LocalFileStorage where
  maxSizeBytes : Nat

namespace LocalFileStorage

variable (storage : LocalFileStorage) (library : Library) (fileSystem : FileSystem)
  (upload : UploadStream)

/-- The loop over the chunks of the upload, of which `n` have been read. -/
def receive (temporary : String) (n : Nat) (progress : Progress) : FileAction Progress := do
  let chunk ← answer (upload.read n)
  if hempty : chunk = [] then
    return progress
  else
    let size := progress.size + chunk.length
    -- the chunk that is too large is not written
    if hlarge : storage.maxSizeBytes < size then
      throw (.uploadTooLarge "upload exceeds configured size limit")
    else
      answer (fileSystem.write n)
      modify fun directory =>
        Function.update directory temporary ((directory temporary).map (· ++ chunk))
      receive temporary (n + 1) {
        firstChunk := if progress.firstChunk = [] then chunk else progress.firstChunk
        size
        digested := progress.digested ++ chunk }
  -- each chunk that is not empty adds to the size
  termination_by storage.maxSizeBytes - progress.size
  decreasing_by
    have := List.length_pos_iff.mpr hempty
    omega

/-- What the `with` statement runs. -/
def writeUpload (temporary : String) : FileAction Progress := do
  let progress ← storage.receive fileSystem upload temporary 0 {}
  answer fileSystem.flush
  answer fileSystem.fsync
  return progress

/-- `with temporary.open("xb") as output`. -/
def transfer (temporary : String) : FileAction Progress := do
  answer fileSystem.create
  let directory ← get
  if (directory temporary).isSome then throw .os
  set (Function.update directory temporary (some []))
  tryFinally (storage.writeUpload fileSystem upload temporary) (answer fileSystem.closeTemporary)

/-- What is tried. -/
def trySave (temporary final originalFilename : String) (extension : Extension) :
    FileAction KeyedUpload := do
  let progress ← storage.transfer fileSystem upload temporary
  -- the temporary file is closed by now
  if progress.size = 0 then throw (.emptyUpload "upload is empty")
  let contents := ((← get) temporary).getD []
  answer (validateContents library fileSystem storage.maxSizeBytes extension contents
    progress.firstChunk)
  answer fileSystem.replace
  modify fun directory =>
    Function.update (Function.update directory final (directory temporary)) temporary none
  return {
    storageKey := final
    originalFilename
    contentType := extension.contentType
    sizeBytes := progress.size
    checksumSha256 := library.sha256 progress.digested }

/-- The two handlers. -/
def cleanUp (temporary final : String) (error : SaveError) : FileAction KeyedUpload :=
  match error with
  | .emptyUpload _ | .uploadTooLarge _ | .unsupportedUpload _ => do
    unlink fileSystem.unlinkTemporary temporary
    unlink fileSystem.unlinkFinal final
    throw error
  | .os => do
    unlink fileSystem.unlinkTemporary temporary
    unlink fileSystem.unlinkFinal final
    throw (.storageOperation "the storage operation could not be completed")
  -- no handler is for these, so the temporary file stays
  | .storageOperation _ | .other _ => throw error

/-- `f".{identifier}.part"`. -/
def temporaryName (identifier : String) : String := "." ++ identifier ++ ".part"

def namespacePrefix (namespace? : Option String) : String :=
  match namespace?.filter (· ≠ "") with
  | none => ""
  | some value =>
    String.ofList ((library.sha256 value.toUTF8.toList).toList.take 16) ++ "-"

def finalName (namespace? : Option String) (identifier : String) (extension : Extension) : String :=
  namespacePrefix library namespace? ++ identifier ++ extension.text

/-- `save`, whose identifier is `identifier`. -/
def save (namespace? : Option String) (identifier : String) : FileAction KeyedUpload := do
  let (originalFilename, extension) ← answer (validatedFilename library.lower upload.filename)
  answer fileSystem.mkdir
  let temporary := temporaryName identifier
  let final := finalName library namespace? identifier extension
  tryFinally
    (tryCatch (storage.trySave library fileSystem upload temporary final originalFilename extension)
      (cleanUp fileSystem temporary final))
    (answer upload.close)

/-! ### The work on the temporary file -/

/-- The chunk that the `n`-th call of `read` gives. -/
def chunkAt (n : Nat) : Bytes :=
  match upload.read n with
  | .ok chunk => chunk
  | .error _ => []

/-- The first `n` chunks, one after the other. -/
def firstChunks (n : Nat) : Bytes := (List.range n).flatMap (chunkAt upload)

/-- The first `n` chunks arrive, are not too large, and are written. -/
structure Arrives (n : Nat) : Prop where
  given : ∀ i < n, upload.read i = .ok (chunkAt upload i) ∧ chunkAt upload i ≠ []
  within : (firstChunks upload n).length ≤ storage.maxSizeBytes
  written : ∀ i < n, fileSystem.write i = .ok ()

/-- What stops the transfer. -/
inductive TransferStops : SaveError → Prop
  | read {n : Nat} {error : SaveError} :
      storage.Arrives fileSystem upload n → upload.read n = .error error → TransferStops error
  | large {n : Nat} {chunk : Bytes} :
      storage.Arrives fileSystem upload n → upload.read n = .ok chunk →
      storage.maxSizeBytes < (firstChunks upload n).length + chunk.length →
      TransferStops (.uploadTooLarge "upload exceeds configured size limit")
  | write {n : Nat} {chunk : Bytes} {error : SaveError} :
      storage.Arrives fileSystem upload n → upload.read n = .ok chunk → chunk ≠ [] →
      (firstChunks upload n).length + chunk.length ≤ storage.maxSizeBytes →
      fileSystem.write n = .error error → TransferStops error
  | flush {n : Nat} {error : SaveError} :
      storage.Arrives fileSystem upload n → upload.read n = .ok [] →
      fileSystem.flush = .error error → TransferStops error
  | fsync {n : Nat} {error : SaveError} :
      storage.Arrives fileSystem upload n → upload.read n = .ok [] → fileSystem.flush = .ok () →
      fileSystem.fsync = .error error → TransferStops error

/-- The first `n` chunks are all there is, and they are in the temporary file. -/
structure Transferred (n : Nat) : Prop where
  arrives : storage.Arrives fileSystem upload n
  ends : upload.read n = .ok []
  flushed : fileSystem.flush = .ok ()
  synced : fileSystem.fsync = .ok ()
  closed : fileSystem.closeTemporary = .ok ()

/-- What interrupts the work on the temporary file, once it is there. -/
inductive Interrupted (extension : Extension) : SaveError → Prop
  | transfer {error : SaveError} :
      storage.TransferStops fileSystem upload error → fileSystem.closeTemporary = .ok () →
      Interrupted extension error
  | closing {error : SaveError} :
      fileSystem.closeTemporary = .error error → Interrupted extension error
  | empty :
      storage.Transferred fileSystem upload 0 →
      Interrupted extension (.emptyUpload "upload is empty")
  | contents {n : Nat} {error : SaveError} :
      storage.Transferred fileSystem upload n → n ≠ 0 →
      validateContents library fileSystem storage.maxSizeBytes extension (firstChunks upload n)
        (chunkAt upload 0) = .error error → Interrupted extension error
  | replace {n : Nat} {error : SaveError} :
      storage.Transferred fileSystem upload n → n ≠ 0 →
      validateContents library fileSystem storage.maxSizeBytes extension (firstChunks upload n)
        (chunkAt upload 0) = .ok () →
      fileSystem.replace = .error error → Interrupted extension error

/-- Nothing interrupts it. -/
structure Completed (extension : Extension) (n : Nat) : Prop where
  transferred : storage.Transferred fileSystem upload n
  nonempty : n ≠ 0
  valid : validateContents library fileSystem storage.maxSizeBytes extension (firstChunks upload n)
    (chunkAt upload 0) = .ok ()
  renamed : fileSystem.replace = .ok ()

/-! ### The transfer -/

section

variable {storage : LocalFileStorage} {library : Library} {fileSystem : FileSystem}
  {upload : UploadStream} {n : Nat}

theorem firstChunks_succ (n : Nat) :
    firstChunks upload (n + 1) = firstChunks upload n ++ chunkAt upload n := by
  rw [firstChunks, List.range_succ, List.flatMap_append, List.flatMap_singleton, firstChunks]

theorem chunkAt_of_read {chunk : Bytes} (h : upload.read n = .ok chunk) :
    chunkAt upload n = chunk := by
  rw [chunkAt, h]

theorem arrives_zero : storage.Arrives fileSystem upload 0 where
  given _ hi := absurd hi (Nat.not_lt_zero _)
  within := Nat.zero_le _
  written _ hi := absurd hi (Nat.not_lt_zero _)

theorem Arrives.of_succ (h : storage.Arrives fileSystem upload (n + 1)) :
    storage.Arrives fileSystem upload n where
  given i hi := h.given i (Nat.lt_succ_of_lt hi)
  within := by
    have hwithin := h.within
    rw [firstChunks_succ, List.length_append] at hwithin
    omega
  written i hi := h.written i (Nat.lt_succ_of_lt hi)

theorem Arrives.succ (h : storage.Arrives fileSystem upload n) {chunk : Bytes}
    (hread : upload.read n = .ok chunk) (hchunk : chunk ≠ [])
    (hsize : (firstChunks upload n).length + chunk.length ≤ storage.maxSizeBytes)
    (hwrite : fileSystem.write n = .ok ()) : storage.Arrives fileSystem upload (n + 1) := by
  have hat := chunkAt_of_read hread
  refine ⟨fun i hi => ?_, ?_, fun i hi => ?_⟩
  · rcases Nat.lt_succ_iff_lt_or_eq.mp hi with hi | rfl
    · exact h.given i hi
    · rw [hat]
      exact ⟨hread, hchunk⟩
  · rw [firstChunks_succ, List.length_append, hat]
    exact hsize
  · rcases Nat.lt_succ_iff_lt_or_eq.mp hi with hi | rfl
    · exact h.written i hi
    · exact hwrite

/-- Chunks that are not empty get longer and longer. -/
theorem Arrives.le_length (h : storage.Arrives fileSystem upload n) :
    n ≤ (firstChunks upload n).length := by
  induction n with
  | zero => exact Nat.zero_le _
  | succ n ih =>
    have hchunk := List.length_pos_iff.mpr (h.given n (Nat.lt_succ_self n)).2
    have hle := ih h.of_succ
    rw [firstChunks_succ, List.length_append]
    omega

variable (storage fileSystem upload) in
/-- Some chunk is the last one that arrives. -/
theorem exists_last : ∃ n, storage.Arrives fileSystem upload n ∧
    ¬ storage.Arrives fileSystem upload (n + 1) := by
  by_contra hnone
  have hall : ∀ n, storage.Arrives fileSystem upload n := by
    intro n
    induction n with
    | zero => exact arrives_zero
    | succ n ih =>
      by_contra hn
      exact hnone ⟨n, ih, hn⟩
  have hle := (hall (storage.maxSizeBytes + 1)).le_length
  have hwithin := (hall (storage.maxSizeBytes + 1)).within
  omega

variable (upload) in
/-- What the loop has got of the first `n` chunks. -/
def progressAt (n : Nat) : Progress where
  firstChunk := if n = 0 then [] else chunkAt upload 0
  size := (firstChunks upload n).length
  digested := firstChunks upload n

variable {directory : Directory} {temporary : String}

/-- The directory with a temporary file. -/
def withTemporary (directory : Directory) (temporary : String) (contents : Bytes) : Directory :=
  Function.update directory temporary (some contents)

/-- The first chunk stays the first one. -/
theorem firstChunk_succ (h : storage.Arrives fileSystem upload (n + 1)) :
    (if (progressAt upload n).firstChunk = [] then chunkAt upload n
      else (progressAt upload n).firstChunk) = (progressAt upload (n + 1)).firstChunk := by
  cases n with
  | zero => rfl
  | succ n =>
    have hfirst := (h.given 0 (Nat.succ_pos _)).2
    simp [progressAt, hfirst]

/-- One iteration of the loop, if the chunk arrives. -/
theorem run_receive_succ (h : storage.Arrives fileSystem upload (n + 1)) :
    (storage.receive fileSystem upload temporary n (progressAt upload n)).run
        (withTemporary directory temporary (firstChunks upload n)) =
      (storage.receive fileSystem upload temporary (n + 1) (progressAt upload (n + 1))).run
        (withTemporary directory temporary (firstChunks upload (n + 1))) := by
  obtain ⟨hread, hchunk⟩ := h.given n (Nat.lt_succ_self n)
  have hwithin := h.within
  rw [firstChunks_succ, List.length_append] at hwithin
  have hlarge : ¬ storage.maxSizeBytes < (progressAt upload n).size + (chunkAt upload n).length :=
    Nat.not_lt.mpr hwithin
  have hprogress : progressAt upload (n + 1) = {
      firstChunk := if (progressAt upload n).firstChunk = [] then chunkAt upload n
        else (progressAt upload n).firstChunk
      size := (progressAt upload n).size + (chunkAt upload n).length
      digested := (progressAt upload n).digested ++ chunkAt upload n } := by
    rw [firstChunk_succ h]
    simp [progressAt, firstChunks_succ]
  have hdirectory : withTemporary directory temporary (firstChunks upload (n + 1)) =
      Function.update (withTemporary directory temporary (firstChunks upload n)) temporary
        ((withTemporary directory temporary (firstChunks upload n) temporary).map
          (· ++ chunkAt upload n)) := by
    simp [withTemporary, firstChunks_succ]
  rw [receive, run_bind_ok (by rw [hread]; rfl), dif_neg hchunk, dif_neg hlarge,
    run_bind_ok (by rw [h.written n (Nat.lt_succ_self n)]; rfl), hprogress, hdirectory]
  rfl

/-- The loop, once `n` chunks have arrived. -/
theorem run_receive (h : storage.Arrives fileSystem upload n) :
    (storage.receive fileSystem upload temporary 0 {}).run (withTemporary directory temporary []) =
      (storage.receive fileSystem upload temporary n (progressAt upload n)).run
        (withTemporary directory temporary (firstChunks upload n)) := by
  induction n with
  | zero => rfl
  | succ n ih => exact (ih h.of_succ).trans (run_receive_succ h)

/-- The loop ends with the stream. -/
theorem run_receive_ends (h : storage.Arrives fileSystem upload n) (hend : upload.read n = .ok []) :
    (storage.receive fileSystem upload temporary 0 {}).run (withTemporary directory temporary []) =
      .ok (progressAt upload n) (withTemporary directory temporary (firstChunks upload n)) := by
  rw [run_receive h, receive, run_bind_ok (by rw [hend]; rfl), dif_pos rfl]
  rfl

variable (directory temporary) in
theorem run_writeUpload_stops {error : SaveError}
    (h : storage.TransferStops fileSystem upload error) :
    ∃ left, (storage.writeUpload fileSystem upload temporary).run
      (withTemporary directory temporary []) =
        .error error (withTemporary directory temporary left) := by
  cases h with
  | @read n _ harrives hread =>
    refine ⟨firstChunks upload n, run_bind_error ?_ _⟩
    rw [run_receive harrives, receive, run_bind_error (by rw [hread]; rfl)]
  | @large n chunk harrives hread hlarge =>
    have hchunk : chunk ≠ [] := by
      rintro rfl
      exact absurd harrives.within (Nat.not_le.mpr hlarge)
    have hlarge : storage.maxSizeBytes < (progressAt upload n).size + chunk.length := hlarge
    refine ⟨firstChunks upload n, run_bind_error ?_ _⟩
    rw [run_receive harrives, receive, run_bind_ok (by rw [hread]; rfl), dif_neg hchunk,
      dif_pos hlarge]
    rfl
  | @write n chunk _ harrives hread hchunk hsize hwrite =>
    have hfits : ¬ storage.maxSizeBytes < (progressAt upload n).size + chunk.length :=
      Nat.not_lt.mpr hsize
    refine ⟨firstChunks upload n, run_bind_error ?_ _⟩
    rw [run_receive harrives, receive, run_bind_ok (by rw [hread]; rfl), dif_neg hchunk,
      dif_neg hfits, run_bind_error (by rw [hwrite]; rfl)]
  | @flush n _ harrives hread hflush =>
    refine ⟨firstChunks upload n, ?_⟩
    rw [writeUpload, run_bind_ok (run_receive_ends harrives hread),
      run_bind_error (by rw [hflush]; rfl)]
  | @fsync n _ harrives hread hflush hfsync =>
    refine ⟨firstChunks upload n, ?_⟩
    rw [writeUpload, run_bind_ok (run_receive_ends harrives hread), run_bind_ok (by rw [hflush]; rfl),
      run_bind_error (by rw [hfsync]; rfl)]

theorem run_writeUpload_ends (h : storage.Arrives fileSystem upload n) (hend : upload.read n = .ok [])
    (hflush : fileSystem.flush = .ok ()) (hfsync : fileSystem.fsync = .ok ()) :
    (storage.writeUpload fileSystem upload temporary).run (withTemporary directory temporary []) =
      .ok (progressAt upload n) (withTemporary directory temporary (firstChunks upload n)) := by
  rw [writeUpload, run_bind_ok (run_receive_ends h hend), run_bind_ok (by rw [hflush]; rfl),
    run_bind_ok (by rw [hfsync]; rfl)]
  rfl

variable (storage fileSystem upload) in
/-- The transfer stops, or the stream ends. -/
theorem stops_or_ends : (∃ error, storage.TransferStops fileSystem upload error) ∨
    ∃ n, storage.Arrives fileSystem upload n ∧ upload.read n = .ok [] ∧
      fileSystem.flush = .ok () ∧ fileSystem.fsync = .ok () := by
  obtain ⟨n, harrives, hlast⟩ := exists_last storage fileSystem upload
  cases hread : upload.read n with
  | error error => exact .inl ⟨error, .read harrives hread⟩
  | ok chunk =>
    by_cases hchunk : chunk = []
    · subst hchunk
      cases hflush : fileSystem.flush with
      | error error => exact .inl ⟨error, .flush harrives hread hflush⟩
      | ok =>
        cases hfsync : fileSystem.fsync with
        | error error => exact .inl ⟨error, .fsync harrives hread hflush hfsync⟩
        | ok => exact .inr ⟨n, harrives, hread, rfl, rfl⟩
    · by_cases hsize : (firstChunks upload n).length + chunk.length ≤ storage.maxSizeBytes
      · cases hwrite : fileSystem.write n with
        | error error => exact .inl ⟨error, .write harrives hread hchunk hsize hwrite⟩
        | ok => exact absurd (harrives.succ hread hchunk hsize hwrite) hlast
      · exact .inl ⟨_, .large harrives hread (Nat.not_le.mp hsize)⟩

/-! ### What is tried -/

@[simp] theorem withTemporary_self (contents : Bytes) :
    withTemporary directory temporary contents temporary = some contents :=
  Function.update_self ..

theorem withTemporary_ne (htemporary : directory temporary = none) (contents : Bytes) :
    withTemporary directory temporary contents ≠ directory := by
  intro h
  have hself : withTemporary directory temporary contents temporary = some contents :=
    withTemporary_self contents
  rw [h, htemporary] at hself
  cases hself

theorem run_transfer (hcreate : fileSystem.create = .ok ()) (htemporary : directory temporary = none) :
    (storage.transfer fileSystem upload temporary).run directory =
      (tryFinally (storage.writeUpload fileSystem upload temporary)
        (answer fileSystem.closeTemporary)).run (withTemporary directory temporary []) := by
  rw [transfer, run_bind_ok (by rw [hcreate]; rfl)]
  simp [htemporary, withTemporary]

theorem run_transfer_stops (hcreate : fileSystem.create = .ok ())
    (htemporary : directory temporary = none) {error : SaveError}
    (h : storage.TransferStops fileSystem upload error) (hclose : fileSystem.closeTemporary = .ok ()) :
    ∃ left, (storage.transfer fileSystem upload temporary).run directory =
      .error error (withTemporary directory temporary left) := by
  obtain ⟨left, hrun⟩ := run_writeUpload_stops directory temporary h
  refine ⟨left, ?_⟩
  rw [run_transfer hcreate htemporary, run_tryFinally_error hrun, hclose]
  rfl

variable (storage upload) in
theorem run_transfer_closing (hcreate : fileSystem.create = .ok ())
    (htemporary : directory temporary = none) {error : SaveError}
    (hclose : fileSystem.closeTemporary = .error error) :
    ∃ left, (storage.transfer fileSystem upload temporary).run directory =
      .error error (withTemporary directory temporary left) := by
  rw [run_transfer hcreate htemporary]
  rcases stops_or_ends storage fileSystem upload with
    ⟨_, hstops⟩ | ⟨n, harrives, hend, hflush, hfsync⟩
  · obtain ⟨left, hrun⟩ := run_writeUpload_stops directory temporary hstops
    refine ⟨left, ?_⟩
    rw [run_tryFinally_error hrun, hclose]
    rfl
  · refine ⟨firstChunks upload n, ?_⟩
    rw [run_tryFinally_ok (run_writeUpload_ends harrives hend hflush hfsync), hclose]
    rfl

theorem run_transfer_ok (hcreate : fileSystem.create = .ok ())
    (htemporary : directory temporary = none) (h : storage.Transferred fileSystem upload n) :
    (storage.transfer fileSystem upload temporary).run directory =
      .ok (progressAt upload n) (withTemporary directory temporary (firstChunks upload n)) := by
  rw [run_transfer hcreate htemporary,
    run_tryFinally_ok (run_writeUpload_ends h.arrives h.ends h.flushed h.synced), h.closed]
  rfl

variable {final originalFilename : String} {extension : Extension}

/-- What is tried, once the upload is in the temporary file. -/
theorem run_trySave_transferred (hcreate : fileSystem.create = .ok ())
    (htemporary : directory temporary = none) (h : storage.Transferred fileSystem upload n)
    (hn : n ≠ 0) :
    (storage.trySave library fileSystem upload temporary final originalFilename extension).run
        directory =
      (do
        answer (validateContents library fileSystem storage.maxSizeBytes extension
          (firstChunks upload n) (chunkAt upload 0))
        answer fileSystem.replace
        modify fun directory =>
          Function.update (Function.update directory final (directory temporary)) temporary none
        return {
          storageKey := final
          originalFilename
          contentType := extension.contentType
          sizeBytes := (firstChunks upload n).length
          checksumSha256 := library.sha256 (firstChunks upload n) } :
            FileAction KeyedUpload).run
        (withTemporary directory temporary (firstChunks upload n)) := by
  have hsize : (progressAt upload n).size ≠ 0 :=
    Nat.ne_of_gt (Nat.lt_of_lt_of_le (Nat.pos_of_ne_zero hn) h.arrives.le_length)
  rw [trySave, run_bind_ok (run_transfer_ok hcreate htemporary h), if_neg hsize,
    run_bind_ok (EStateM.run_get _), withTemporary_self, Option.getD_some]
  simp only [progressAt, if_neg hn]

variable (final originalFilename) in
theorem run_trySave_interrupted (hcreate : fileSystem.create = .ok ())
    (htemporary : directory temporary = none) {error : SaveError}
    (h : storage.Interrupted library fileSystem upload extension error) :
    ∃ left, (storage.trySave library fileSystem upload temporary final originalFilename
      extension).run directory = .error error (withTemporary directory temporary left) := by
  cases h with
  | transfer hstops hclose =>
    obtain ⟨left, hrun⟩ := run_transfer_stops hcreate htemporary hstops hclose
    exact ⟨left, run_bind_error hrun _⟩
  | closing hclose =>
    obtain ⟨left, hrun⟩ := run_transfer_closing storage upload hcreate htemporary hclose
    exact ⟨left, run_bind_error hrun _⟩
  | empty htransferred =>
    refine ⟨firstChunks upload 0, ?_⟩
    rw [trySave, run_bind_ok (run_transfer_ok hcreate htemporary htransferred)]
    rfl
  | @contents n _ htransferred hn hinvalid =>
    refine ⟨firstChunks upload n, ?_⟩
    rw [run_trySave_transferred hcreate htemporary htransferred hn,
      run_bind_error (by rw [hinvalid]; rfl)]
  | @replace n _ htransferred hn hvalid hreplace =>
    refine ⟨firstChunks upload n, ?_⟩
    rw [run_trySave_transferred hcreate htemporary htransferred hn,
      run_bind_ok (by rw [hvalid]; rfl), run_bind_error (by rw [hreplace]; rfl)]

variable (originalFilename) in
theorem run_trySave_completed (hcreate : fileSystem.create = .ok ())
    (htemporary : directory temporary = none) (hnames : temporary ≠ final)
    (h : storage.Completed library fileSystem upload extension n) :
    (storage.trySave library fileSystem upload temporary final originalFilename extension).run
        directory =
      .ok {
        storageKey := final
        originalFilename
        contentType := extension.contentType
        sizeBytes := (firstChunks upload n).length
        checksumSha256 := library.sha256 (firstChunks upload n) }
        (Function.update directory final (some (firstChunks upload n))) := by
  have hdirectory : Function.update (Function.update
      (withTemporary directory temporary (firstChunks upload n)) final
        (withTemporary directory temporary (firstChunks upload n) temporary)) temporary none =
      Function.update directory final (some (firstChunks upload n)) := by
    funext name
    by_cases htemp : name = temporary
    · subst htemp
      rw [Function.update_self, Function.update_of_ne hnames, htemporary]
    · rw [Function.update_of_ne htemp, withTemporary_self, withTemporary]
      by_cases hfinal : name = final
      · subst hfinal
        rw [Function.update_self, Function.update_self]
      · rw [Function.update_of_ne hfinal, Function.update_of_ne hfinal,
          Function.update_of_ne htemp]
  rw [run_trySave_transferred hcreate htemporary h.transferred h.nonempty,
    run_bind_ok (by rw [h.valid]; rfl), run_bind_ok (by rw [h.renamed]; rfl), ← hdirectory]
  rfl

variable (storage library fileSystem upload extension) in
/-- The work on the temporary file is interrupted or completed. -/
theorem interrupted_or_completed :
    (∃ error, storage.Interrupted library fileSystem upload extension error) ∨
      ∃ n, storage.Completed library fileSystem upload extension n := by
  cases hclose : fileSystem.closeTemporary with
  | error error => exact .inl ⟨error, .closing hclose⟩
  | ok =>
    rcases stops_or_ends storage fileSystem upload with
      ⟨error, hstops⟩ | ⟨n, harrives, hend, hflush, hfsync⟩
    · exact .inl ⟨error, .transfer hstops hclose⟩
    · have htransferred : storage.Transferred fileSystem upload n :=
        ⟨harrives, hend, hflush, hfsync, hclose⟩
      by_cases hn : n = 0
      · subst hn
        exact .inl ⟨_, .empty htransferred⟩
      · cases hvalid : validateContents library fileSystem storage.maxSizeBytes extension
          (firstChunks upload n) (chunkAt upload 0) with
        | error error => exact .inl ⟨error, .contents htransferred hn hvalid⟩
        | ok =>
          cases hreplace : fileSystem.replace with
          | error error => exact .inl ⟨error, .replace htransferred hn hvalid hreplace⟩
          | ok => exact .inr ⟨n, htransferred, hn, hvalid, hreplace⟩

/-! ### The handlers -/

/-- A file that is not there cannot be removed, whatever is answered. -/
theorem run_unlink_absent (outcome : Except SaveError Unit) {path : String}
    (h : directory path = none) :
    (∃ u, (unlink outcome path).run directory = .ok u directory) ∨
      ∃ error, (unlink outcome path).run directory = .error error directory := by
  cases outcome with
  | error error => exact .inr ⟨error, run_bind_error rfl _⟩
  | ok =>
    refine .inl ⟨(), ?_⟩
    rw [unlink, run_bind_ok run_answer_ok, EStateM.run_modify, ← h, Function.update_eq_self]

/-- The handlers have no file to remove. -/
theorem run_unlinks_absent (htemporary : directory temporary = none)
    (hfinal : directory final = none) (error : SaveError) :
    ∃ e, (do
      unlink fileSystem.unlinkTemporary temporary
      unlink fileSystem.unlinkFinal final
      throw error : FileAction KeyedUpload).run directory = .error e directory := by
  rcases run_unlink_absent fileSystem.unlinkTemporary htemporary with ⟨_, hrun⟩ | ⟨e, hrun⟩
  · rw [run_bind_ok hrun]
    rcases run_unlink_absent fileSystem.unlinkFinal hfinal with ⟨_, hrun⟩ | ⟨e, hrun⟩
    · rw [run_bind_ok hrun]
      exact ⟨error, rfl⟩
    · exact ⟨e, run_bind_error hrun _⟩
  · exact ⟨e, run_bind_error hrun _⟩

variable (fileSystem) in
theorem run_cleanUp_absent (htemporary : directory temporary = none)
    (hfinal : directory final = none) (error : SaveError) :
    ∃ e, (cleanUp fileSystem temporary final error).run directory = .error e directory := by
  cases error with
  | emptyUpload | uploadTooLarge | unsupportedUpload | os =>
    exact run_unlinks_absent htemporary hfinal _
  | storageOperation | other => exact ⟨_, rfl⟩

/-- The handlers remove the temporary file. -/
theorem run_unlinks_removed (htemporary : directory temporary = none)
    (hfinal : directory final = none) (hunlink : fileSystem.unlinkTemporary = .ok ())
    (contents : Bytes) (error : SaveError) :
    ∃ e, (do
      unlink fileSystem.unlinkTemporary temporary
      unlink fileSystem.unlinkFinal final
      throw error : FileAction KeyedUpload).run (withTemporary directory temporary contents) =
        .error e directory := by
  have hremoved : (unlink fileSystem.unlinkTemporary temporary).run
      (withTemporary directory temporary contents) = .ok () directory := by
    rw [unlink, run_bind_ok (by rw [hunlink]; rfl), EStateM.run_modify, withTemporary,
      Function.update_idem, ← htemporary, Function.update_eq_self]
  rw [run_bind_ok hremoved]
  rcases run_unlink_absent fileSystem.unlinkFinal hfinal with ⟨_, hrun⟩ | ⟨e, hrun⟩
  · rw [run_bind_ok hrun]
    exact ⟨error, rfl⟩
  · exact ⟨e, run_bind_error hrun _⟩

theorem run_cleanUp_removed (htemporary : directory temporary = none)
    (hfinal : directory final = none) (hunlink : fileSystem.unlinkTemporary = .ok ())
    (contents : Bytes) {error : SaveError} (h : error.isHandled = true) :
    ∃ e, (cleanUp fileSystem temporary final error).run
      (withTemporary directory temporary contents) = .error e directory := by
  cases error with
  | emptyUpload | uploadTooLarge | unsupportedUpload | os =>
    exact run_unlinks_removed htemporary hfinal hunlink contents _
  | storageOperation | other => cases h

variable (directory temporary final) in
/-- The temporary file stays. -/
theorem run_cleanUp_left (contents : Bytes) {error : SaveError}
    (h : ¬ (error.isHandled = true ∧ fileSystem.unlinkTemporary = .ok ())) :
    ∃ e, (cleanUp fileSystem temporary final error).run
      (withTemporary directory temporary contents) =
        .error e (withTemporary directory temporary contents) := by
  cases hunlink : fileSystem.unlinkTemporary with
  | ok =>
    cases error with
    | emptyUpload | uploadTooLarge | unsupportedUpload | os => exact absurd ⟨rfl, hunlink⟩ h
    | storageOperation | other => exact ⟨_, rfl⟩
  | error e =>
    have hfails : (unlink fileSystem.unlinkTemporary temporary).run
        (withTemporary directory temporary contents) =
          .error e (withTemporary directory temporary contents) :=
      run_bind_error (by rw [hunlink]; rfl) _
    cases error with
    | emptyUpload | uploadTooLarge | unsupportedUpload | os => exact ⟨e, run_bind_error hfails _⟩
    | storageOperation | other => exact ⟨_, rfl⟩

/-! ### `save` -/

variable (library directory) in
/-- No file has a name that is made of the identifier. -/
structure IsFresh (namespace? : Option String) (identifier : String) : Prop where
  temporary : directory (temporaryName identifier) = none
  final : ∀ extension, directory (finalName library namespace? identifier extension) = none

theorem temporaryName_ne_finalName (namespace? : Option String) (identifier : String)
    (extension : Extension) :
    temporaryName identifier ≠ finalName library namespace? identifier extension := by
  intro h
  have htemporary : (temporaryName identifier).toList.getLast? = some 't' := by
    rw [temporaryName, String.toList_append, List.getLast?_append]
    rfl
  have hfinal : (finalName library namespace? identifier extension).toList.getLast? =
      extension.text.toList.getLast? := by
    rw [finalName, String.toList_append, List.getLast?_append]
    cases extension <;> rfl
  rw [h, hfinal] at htemporary
  cases extension <;> exact absurd htemporary (by decide)

variable (storage fileSystem upload library) in
/-- The temporary file is created, for an upload with this extension. -/
def Starts (extension : Extension) : Prop :=
  (∃ originalFilename,
    validatedFilename library.lower upload.filename = .ok (originalFilename, extension)) ∧
  fileSystem.mkdir = .ok () ∧ fileSystem.create = .ok ()

variable (upload) in
/-- The upload gives these bytes, and ends. -/
def Gives (bytes : Bytes) : Prop :=
  ∃ n, (∀ i < n, upload.read i = .ok (chunkAt upload i) ∧ chunkAt upload i ≠ []) ∧
    upload.read n = .ok [] ∧ bytes = firstChunks upload n

variable (storage library upload) in
/-- What is returned or raised, and the directory: it has gained the upload, or is as before. -/
def SavedOrUnchanged (before : Directory) : EStateM.Result SaveError Directory KeyedUpload → Prop
  | .ok stored after => ∃ bytes, Gives upload bytes ∧
      before stored.storageKey = none ∧
      after = Function.update before stored.storageKey (some bytes) ∧
      stored.sizeBytes = bytes.length ∧ stored.checksumSha256 = library.sha256 bytes ∧
      1 ≤ bytes.length ∧ bytes.length ≤ storage.maxSizeBytes
  | .error _ after => after = before

variable {namespace? : Option String} {identifier : String}

theorem gives_of_completed (h : storage.Completed library fileSystem upload extension n) :
    Gives upload (firstChunks upload n) :=
  ⟨n, h.transferred.arrives.given, h.transferred.ends, rfl⟩

/-- `save` with a filename that is accepted, in a directory that is there. -/
theorem run_save (hname : validatedFilename library.lower upload.filename =
    .ok (originalFilename, extension)) (hmkdir : fileSystem.mkdir = .ok ()) :
    (storage.save library fileSystem upload namespace? identifier).run directory =
      (tryFinally
        (tryCatch
          (storage.trySave library fileSystem upload (temporaryName identifier)
            (finalName library namespace? identifier extension) originalFilename extension)
          (cleanUp fileSystem (temporaryName identifier)
            (finalName library namespace? identifier extension)))
        (answer upload.close)).run directory := by
  rw [save, run_bind_ok (by rw [hname]; rfl), run_bind_ok (by rw [hmkdir]; rfl)]

/-- An attempt that fails leaves the directory as the handlers leave it, whether or not the upload
can be closed. -/
theorem savedOrUnchanged_of_error {x : FileAction KeyedUpload} {handle : SaveError → FileAction KeyedUpload}
    {before between after : Directory} {error e : SaveError} (htry : x.run before = .error error between)
    (hclean : (handle error).run between = .error e after) (outcome : Except SaveError Unit) :
    SavedOrUnchanged storage library upload before
      ((tryFinally (tryCatch x handle) (answer outcome)).run before) ↔ after = before := by
  rw [run_tryFinally_error ((run_tryCatch_error htry handle).trans hclean)]
  cases outcome <;> exact Iff.rfl

/-- The upload is not begun: the directory is as before. -/
theorem unchanged_of_not_starts (hfresh : IsFresh library directory namespace? identifier)
    (h : ∀ extension, ¬ Starts library fileSystem upload extension) :
    SavedOrUnchanged storage library upload directory
      ((storage.save library fileSystem upload namespace? identifier).run directory) := by
  cases hname : validatedFilename library.lower upload.filename with
  | error error =>
    rw [save, run_bind_error (by rw [hname]; rfl)]
    rfl
  | ok p =>
    obtain ⟨originalFilename, extension⟩ := p
    cases hmkdir : fileSystem.mkdir with
    | error error =>
      rw [save, run_bind_ok (by rw [hname]; rfl), run_bind_error (by rw [hmkdir]; rfl)]
      rfl
    | ok =>
      cases hcreate : fileSystem.create with
      | ok => exact absurd ⟨⟨originalFilename, hname⟩, hmkdir, hcreate⟩ (h extension)
      | error error =>
        have htry : (storage.trySave library fileSystem upload (temporaryName identifier)
            (finalName library namespace? identifier extension) originalFilename extension).run
              directory = .error error directory :=
          run_bind_error (run_bind_error (by rw [hcreate]; rfl) _) _
        obtain ⟨e, hclean⟩ := run_cleanUp_absent fileSystem hfresh.temporary
          (hfresh.final extension) error
        rw [run_save hname hmkdir]
        exact (savedOrUnchanged_of_error htry hclean upload.close).mpr rfl

/-- An interrupted upload leaves no file if and only if its temporary file is removed. -/
theorem unchanged_iff_of_interrupted (hfresh : IsFresh library directory namespace? identifier)
    (hstarts : Starts library fileSystem upload extension) {error : SaveError}
    (h : storage.Interrupted library fileSystem upload extension error) :
    SavedOrUnchanged storage library upload directory
      ((storage.save library fileSystem upload namespace? identifier).run directory) ↔
      error.isHandled = true ∧ fileSystem.unlinkTemporary = .ok () := by
  obtain ⟨⟨originalFilename, hname⟩, hmkdir, hcreate⟩ := hstarts
  rw [run_save hname hmkdir]
  obtain ⟨left, htry⟩ := run_trySave_interrupted (finalName library namespace? identifier extension)
    originalFilename hcreate hfresh.temporary h
  by_cases hremoved : error.isHandled = true ∧ fileSystem.unlinkTemporary = .ok ()
  · obtain ⟨e, hclean⟩ := run_cleanUp_removed hfresh.temporary (hfresh.final extension) hremoved.2
      left hremoved.1
    exact iff_of_true ((savedOrUnchanged_of_error htry hclean upload.close).mpr rfl) hremoved
  · obtain ⟨e, hclean⟩ := run_cleanUp_left directory (temporaryName identifier)
      (finalName library namespace? identifier extension) left hremoved
    refine iff_of_false (fun hunchanged => ?_) hremoved
    exact withTemporary_ne hfresh.temporary left
      ((savedOrUnchanged_of_error htry hclean upload.close).mp hunchanged)

/-- A completed upload is saved if and only if it can be closed. -/
theorem saved_iff_of_completed (hfresh : IsFresh library directory namespace? identifier)
    (hstarts : Starts library fileSystem upload extension)
    (h : storage.Completed library fileSystem upload extension n) :
    SavedOrUnchanged storage library upload directory
      ((storage.save library fileSystem upload namespace? identifier).run directory) ↔
      upload.close = .ok () := by
  obtain ⟨⟨originalFilename, hname⟩, hmkdir, hcreate⟩ := hstarts
  rw [run_save hname hmkdir]
  have hnames : temporaryName identifier ≠ finalName library namespace? identifier extension :=
    temporaryName_ne_finalName namespace? identifier extension
  have htry := run_trySave_completed originalFilename hcreate hfresh.temporary hnames h
  have hnone := hfresh.final extension
  rw [run_tryFinally_ok (run_tryCatch_ok htry _)]
  cases hclose : upload.close with
  | ok =>
    refine iff_of_true ⟨firstChunks upload n, gives_of_completed h, hnone, rfl, rfl, rfl, ?_, ?_⟩ rfl
    · exact (Nat.one_le_iff_ne_zero.mpr h.nonempty).trans h.transferred.arrives.le_length
    · exact h.transferred.arrives.within
  | error error => exact iff_of_false (withTemporary_ne hnone _) nofun

/-- **When an upload is saved or leaves no file**: if and only if every exception that interrupts the
work on its temporary file is an `OSError` or one of the three upload errors, and the file can be
removed then; and the upload can be closed if nothing interrupts it. -/
theorem saved_or_unchanged_iff (hfresh : IsFresh library directory namespace? identifier) :
    SavedOrUnchanged storage library upload directory
      ((storage.save library fileSystem upload namespace? identifier).run directory) ↔
    ∀ extension, Starts library fileSystem upload extension →
      (∀ error, storage.Interrupted library fileSystem upload extension error →
        error.isHandled = true ∧ fileSystem.unlinkTemporary = .ok ()) ∧
      ((∃ n, storage.Completed library fileSystem upload extension n) → upload.close = .ok ()) := by
  constructor
  · intro h extension hstarts
    refine ⟨fun error herror => ?_, fun ⟨n, hn⟩ => ?_⟩
    · exact (unchanged_iff_of_interrupted hfresh hstarts herror).mp h
    · exact (saved_iff_of_completed hfresh hstarts hn).mp h
  · intro h
    by_cases hstarts : ∃ extension, Starts library fileSystem upload extension
    · obtain ⟨extension, hstarts⟩ := hstarts
      obtain ⟨hinterrupted, hcompleted⟩ := h extension hstarts
      rcases interrupted_or_completed storage library fileSystem upload extension with
        ⟨error, herror⟩ | ⟨n, hn⟩
      · exact (unchanged_iff_of_interrupted hfresh hstarts herror).mpr (hinterrupted error herror)
      · exact (saved_iff_of_completed hfresh hstarts hn).mpr (hcompleted ⟨n, hn⟩)
    · exact unchanged_of_not_starts hfresh fun extension hs => hstarts ⟨extension, hs⟩

end

/-! ### An upload that is saved, and one that leaves its temporary file -/

/-- What the library answers for the two uploads. -/
def plainLibrary : Library where
  lower := id
  sha256 _ := "984a644ec3b56d32b0404777e1eb73390c4b0742a6a0e183f07861056b6746de"
  isZipfile _ := true
  infolist _ := .error (.other "BadZipFile")
  decodes _ _ := true

/-- A CSV file with one line. -/
def csvUpload : UploadStream where
  filename := some "bank.csv"
  read n := .ok (if n = 0 then [105, 100, 10] else [])

theorem saved_or_unchanged_csv :
    SavedOrUnchanged ⟨1024⟩ plainLibrary csvUpload (fun _ => none)
      ((save ⟨1024⟩ plainLibrary {} csvUpload none "0").run fun _ => none) ↔
    ∀ extension, Starts plainLibrary {} csvUpload extension →
      (∀ error, Interrupted ⟨1024⟩ plainLibrary {} csvUpload extension error →
        error.isHandled = true ∧ ({} : FileSystem).unlinkTemporary = .ok ()) ∧
      ((∃ n, Completed ⟨1024⟩ plainLibrary {} csvUpload extension n) →
        csvUpload.close = .ok ()) :=
  saved_or_unchanged_iff ⟨rfl, fun _ => rfl⟩

/-- A file with the end of a ZIP archive, whose directory breaks off after its first entry. -/
def brokenArchive : UploadStream where
  filename := some "bank.xlsx"
  read n := .ok (if n = 0 then
    [80, 75, 3, 4] ++ [80, 75, 1, 2] ++ List.replicate 46 0 ++
      [80, 75, 5, 6, 0, 0, 0, 0, 2, 0, 2, 0, 50, 0, 0, 0, 4, 0, 0, 0, 0, 0] else [])

/-- `BadZipFile` is no `OSError`: the temporary file of the upload stays. -/
theorem temporary_file_left :
    ¬ SavedOrUnchanged ⟨1024⟩ plainLibrary brokenArchive (fun _ => none)
      ((save ⟨1024⟩ plainLibrary {} brokenArchive none "0").run fun _ => none) := by
  have hfresh : IsFresh plainLibrary (fun _ => none) none "0" := ⟨rfl, fun _ => rfl⟩
  have hstarts : Starts plainLibrary {} brokenArchive .xlsx :=
    ⟨⟨"bank.xlsx", by decide +kernel⟩, rfl, rfl⟩
  have harrives : Arrives ⟨1024⟩ {} brokenArchive 1 :=
    arrives_zero.succ rfl (by decide) (by decide) rfl
  have htransferred : Transferred ⟨1024⟩ {} brokenArchive 1 := ⟨harrives, rfl, rfl, rfl, rfl⟩
  have hinterrupted : Interrupted ⟨1024⟩ plainLibrary {} brokenArchive .xlsx (.other "BadZipFile") :=
    .contents htransferred (by decide) rfl
  intro h
  have hhandled := ((unchanged_iff_of_interrupted hfresh hstarts hinterrupted).mp h).1
  cases hhandled

end LocalFileStorage

end ReconcileFlow.Storage
