import Torsor.Library.Machine
import Torsor.Kernel.ArtifactRows

/-! # Storing and reading the content of reports

`finalizeReport` collects the bytes of a report, puts them into a file under their digest and
then publishes the row of the Artifact; `readArtifact` reads them back. Each of them is a
sequence of steps between two awaits, and any number of them run at the same time.
-/

namespace Torsor.Kernel
open Torsor.Library Tx

abbrev Bytes : Type := List UInt8

/-- `MAX_REPORT_BYTES`. -/
def maxReportBytes : Nat := 1048576

/-- `MAX_REPORT_CHUNKS`. -/
def maxReportChunks : Nat := 4096

/-! ## Content -/

/-- `sha256` is the hexadecimal hash of some bytes. -/
def artifactDigest (sha256 : Bytes → String) (content : Bytes) : String :=
  "sha256:" ++ sha256 content

/-- The file name of a digest that matches `/^sha256:[0-9a-f]{64}$/`. -/
def digestHex (digest : String) : Option String :=
  if digest.toList.take 7 = "sha256:".toList ∧ digest.toList.length = 71 ∧
      (digest.toList.drop 7).all fun c => ('0' ≤ c && c ≤ '9') || ('a' ≤ c && c ≤ 'f') then
    some (String.ofList (digest.toList.drop 7))
  else none

/-- What `verifyArtifactContent` checks. -/
def contentVerifies (sha256 : Bytes → String) (content : Bytes) (digest : String)
    (byteLength : Nat) : Bool :=
  (digestHex digest).isSome && byteLength ≤ maxReportBytes && content.length = byteLength &&
    artifactDigest sha256 content = digest

/-! ## Files -/

/-- The private directories of the storage: `staging` holds temporary files, `published` the
files named by a digest. A link names the file it was made for. -/
structure FileSystem where
  nextInode : Nat
  contents : Nat → Bytes
  staging : String → Option Nat
  published : String → Option Nat

namespace FileSystem

def empty : FileSystem := ⟨0, fun _ => [], fun _ => none, fun _ => none⟩

/-- `open(temporary, "wx")`, for a name that does not exist. -/
def create (fs : FileSystem) (temporary : String) : FileSystem :=
  { fs with
    nextInode := fs.nextInode + 1
    contents := Function.update fs.contents fs.nextInode []
    staging := Function.update fs.staging temporary (some fs.nextInode) }

def write (fs : FileSystem) (inode : Nat) (bytes : Bytes) : FileSystem :=
  { fs with contents := Function.update fs.contents inode (fs.contents inode ++ bytes) }

/-- `link(temporary, target)`; an existing target stays (`EEXIST`). -/
def link (fs : FileSystem) (hex : String) (inode : Nat) : FileSystem :=
  if (fs.published hex).isSome then fs
  else { fs with published := Function.update fs.published hex (some inode) }

def unlink (fs : FileSystem) (temporary : String) : FileSystem :=
  { fs with staging := Function.update fs.staging temporary none }

end FileSystem

/-! ## Reading a file -/

/-- Where `LocalArtifactStorage.read` is. -/
inductive ReadPhase where
  | inspecting
  | opening (before : Nat)
  | statting (before opened : Nat)
  | filling (opened : Nat) (buffer : Bytes)
  | done (content : Bytes)

inductive ReadEvent where
  | lstat
  | open'
  | stat
  /-- `file.read` returns this many bytes. -/
  | fill (bytesRead : Nat)
  | verify

/-- The next await of a read; what has no result throws, which is `fail` below. -/
def readStep (sha256 : Bytes → String) (fs : FileSystem) (digest : String) (byteLength : Nat) :
    ReadEvent → ReadPhase → Option ReadPhase
  | .lstat, .inspecting =>
      if byteLength ≤ maxReportBytes then
        ((digestHex digest).bind fs.published).map .opening
      else none
  | .open', .opening before =>
      ((digestHex digest).bind fs.published).map (.statting before)
  | .stat, .statting before opened =>
      if opened = before ∧ (fs.contents opened).length = byteLength then
        some (.filling opened [])
      else none
  | .fill bytesRead, .filling opened buffer =>
      if 0 < bytesRead ∧ bytesRead ≤ byteLength + 1 - buffer.length ∧
          buffer.length + bytesRead ≤ (fs.contents opened).length then
        some (.filling opened
          (buffer ++ ((fs.contents opened).drop buffer.length).take bytesRead))
      else none
  | .verify, .filling opened buffer =>
      if (buffer.length = byteLength + 1 ∨ buffer.length = (fs.contents opened).length) ∧
          contentVerifies sha256 buffer digest byteLength then
        some (.done buffer)
      else none
  | _, _ => none

/-! ## Putting a file -/

/-- Where `LocalArtifactStorage.put` is. -/
inductive PutPhase where
  | creating
  | writing (temporary : String) (inode : Nat)
  | linking (temporary : String) (inode : Nat)
  | reading (temporary : String) (phase : ReadPhase)
  | flushing (temporary : String)
  | unlinking (temporary : String) (stored : Bool)

inductive PutEvent where
  | create (temporary : String)
  /-- `writeFile` has written some more bytes. -/
  | write (count : Nat)
  /-- `chmod`, `sync` and `close`, once all is written. -/
  | finish
  | link
  | read (event : ReadEvent)
  | flush
  | unlink

/-- Where a call of `finalizeReport` is. -/
inductive FinalizerPhase where
  | collecting (chunks : List Bytes)
  | putting (content : Bytes) (phase : PutPhase)
  | publishing (content : Bytes)
  | ended

/-- After a read the content is compared with what was to be put. -/
def afterRead (content : Bytes) (temporary : String) : ReadPhase → PutPhase
  | .done existing => if existing = content then .flushing temporary else .unlinking temporary false
  | phase => .reading temporary phase

/-- The next await of a put. -/
def putStep (sha256 : Bytes → String) (content : Bytes) :
    PutEvent → FileSystem → PutPhase → Option (FileSystem × FinalizerPhase)
  | .create temporary, fs, .creating =>
      if (fs.staging temporary).isNone then
        some (fs.create temporary, .putting content (.writing temporary fs.nextInode))
      else none
  | .write count, fs, .writing temporary inode =>
      some (fs.write inode ((content.drop (fs.contents inode).length).take count),
        .putting content (.writing temporary inode))
  | .finish, fs, .writing temporary inode =>
      if (fs.contents inode).length = content.length then
        some (fs, .putting content (.linking temporary inode))
      else none
  | .link, fs, .linking temporary inode =>
      (digestHex (artifactDigest sha256 content)).map fun hex =>
        (fs.link hex inode, .putting content (.reading temporary .inspecting))
  | .read event, fs, .reading temporary phase =>
      (readStep sha256 fs (artifactDigest sha256 content) content.length event phase).map
        fun phase => (fs, .putting content (afterRead content temporary phase))
  | .flush, fs, .flushing temporary =>
      some (fs, .putting content (.unlinking temporary true))
  | .unlink, fs, .unlinking temporary stored =>
      some (fs.unlink temporary, if stored then .publishing content else .ended)
  | _, _, _ => none

/-- An await throws: the `finally` of `put` unlinks the temporary file. -/
def FinalizerPhase.fail : FinalizerPhase → FinalizerPhase
  | .putting content (.writing temporary _) => .putting content (.unlinking temporary false)
  | .putting content (.linking temporary _) => .putting content (.unlinking temporary false)
  | .putting content (.reading temporary _) => .putting content (.unlinking temporary false)
  | .putting content (.flushing temporary) => .putting content (.unlinking temporary false)
  | _ => .ended

/-! ## The host -/

/-- A call of `finalizeReport`, but for its content. -/
structure ReportCall where
  input : FinalizeReportInput
  actor : PrincipalContext
  operationContext : Option KernelOperationContext

structure Finalizer where
  call : ReportCall
  phase : FinalizerPhase

/-- Where a call of `readArtifact` is. -/
inductive ReaderPhase where
  | reading (artifact : ArtifactView) (phase : ReadPhase)
  | checking (artifact : ArtifactView) (content : Bytes)
  | returned (artifact : ArtifactView) (content : Bytes)
  | ended

structure ArtifactReader where
  artifactId : String
  actor : PrincipalContext
  phase : ReaderPhase

/-- The database, the files and the calls that are under way. -/
structure ReportHost where
  world : World
  files : FileSystem
  finalizers : Nat → Option Finalizer
  readers : Nat → Option ArtifactReader

/-- A process that opens the database `w`. -/
def ReportHost.start (w : World) (files : FileSystem) : ReportHost :=
  ⟨w, files, fun _ => none, fun _ => none⟩

inductive ReportEvent where
  /-- Any other call on the Kernel. -/
  | kernel (call : KernelCall)
  | finalizeReport (id : Nat) (call : ReportCall)
  | chunk (id : Nat) (chunk : Bytes)
  | collected (id : Nat)
  | put (id : Nat) (event : PutEvent)
  | publish (id : Nat)
  | failReport (id : Nat)
  | readArtifact (id : Nat) (artifactId : String) (actor : PrincipalContext)
  | read (id : Nat) (event : ReadEvent)
  | recheck (id : Nat)
  | failRead (id : Nat)
  /-- The process ends; the database and the files stay. -/
  | crash

/-- `query({ type: "GetArtifact", artifactId })`. -/
def queryArtifact (kernel : KernelContext) (artifactId : String) (context : PrincipalContext) :
    K ArtifactView :=
  queryTransaction do
    let _ ← requirePrincipal context.principalId
    getArtifact kernel artifactId context

def KernelCall.isPublishReport : KernelCall → Bool
  | .publishReport _ _ _ _ => true
  | _ => false

namespace ReportHost

variable (s : ReportHost) (id : Nat)

def setFinalizer (call : ReportCall) (phase : FinalizerPhase) : ReportHost :=
  { s with finalizers := Function.update s.finalizers id (some ⟨call, phase⟩) }

def setReader (reader : ArtifactReader) : ReportHost :=
  { s with readers := Function.update s.readers id (some reader) }

/-- The digest and length that are published. -/
def content (sha256 : Bytes → String) (bytes : Bytes) : ReportContent :=
  ⟨artifactDigest sha256 bytes, bytes.length⟩

/-- The first checks of `finalizeReport`; a call that is refused leaves nothing behind. -/
def startReport (kernel : KernelContext) (call : ReportCall) : ReportHost :=
  match (do
    validateReportInput call.input
    admitReport kernel call.input.runId call.actor : K Unit) s.world with
  | (.ok _, w) => { s with world := w }.setFinalizer id call (.collecting [])
  | (.error _, w) => { s with world := w }

/-- `append` checks the bounds of every chunk. -/
def appendChunk (call : ReportCall) (chunks : List Bytes) (chunk : Bytes) : ReportHost :=
  s.setFinalizer id call
    (if chunks.length < maxReportChunks ∧
        chunks.flatten.length + chunk.length ≤ maxReportBytes then
      .collecting (chunks ++ [chunk])
    else .ended)

/-- The stream has ended: the caller is checked again before the content is put. -/
def putContent (kernel : KernelContext) (sha256 : Bytes → String) (call : ReportCall)
    (bytes : Bytes) : ReportHost :=
  match admitReport kernel call.input.runId call.actor s.world with
  | (.ok _, w) =>
      { s with world := w }.setFinalizer id call
        (if contentVerifies sha256 bytes (artifactDigest sha256 bytes) bytes.length then
          .putting bytes .creating
        else .ended)
  | (.error _, w) => { s with world := w }.setFinalizer id call .ended

def publish (kernel : KernelContext) (sha256 : Bytes → String) (call : ReportCall)
    (bytes : Bytes) : ReportHost :=
  { s with
    world := (publishReport kernel call.input (content sha256 bytes) call.actor
      call.operationContext s.world).2 }.setFinalizer id call .ended

/-- The first query of `readArtifact`. -/
def startRead (kernel : KernelContext) (artifactId : String) (actor : PrincipalContext) :
    ReportHost :=
  match queryArtifact kernel artifactId actor s.world with
  | (.ok artifact, w) =>
      { s with world := w }.setReader id ⟨artifactId, actor, .reading artifact .inspecting⟩
  | (.error _, w) => { s with world := w }

/-- The second query. -/
def recheck (kernel : KernelContext) (artifactId : String) (actor : PrincipalContext)
    (artifact : ArtifactView) (content : Bytes) : ReportHost :=
  match queryArtifact kernel artifactId actor s.world with
  | (.ok _, w) =>
      { s with world := w }.setReader id ⟨artifactId, actor, .returned artifact content⟩
  | (.error _, w) => { s with world := w }.setReader id ⟨artifactId, actor, .ended⟩

end ReportHost

/-- The content of a storage read is verified once more. -/
def ReaderPhase.afterRead (sha256 : Bytes → String) (artifact : ArtifactView) :
    ReadPhase → ReaderPhase
  | .done content =>
      if contentVerifies sha256 content artifact.contentDigest artifact.byteLength then
        .checking artifact content
      else .ended
  | phase => .reading artifact phase

/-- What each event does, where it can happen. -/
def reportStep (kernel : KernelContext) (sha256 : Bytes → String) :
    Machine ReportEvent ReportHost
  | .kernel call, s =>
      if call.isPublishReport then none else some { s with world := step kernel call s.world }
  | .finalizeReport id call, s =>
      if (s.finalizers id).isNone then some (s.startReport id kernel call) else none
  | .chunk id chunk, s =>
      match s.finalizers id with
      | some ⟨call, .collecting chunks⟩ => some (s.appendChunk id call chunks chunk)
      | _ => none
  | .collected id, s =>
      match s.finalizers id with
      | some ⟨call, .collecting chunks⟩ => some (s.putContent id kernel sha256 call chunks.flatten)
      | _ => none
  | .put id event, s =>
      match s.finalizers id with
      | some ⟨call, .putting content phase⟩ =>
          (putStep sha256 content event s.files phase).map fun next =>
            { s with files := next.1 }.setFinalizer id call next.2
      | _ => none
  | .publish id, s =>
      match s.finalizers id with
      | some ⟨call, .publishing content⟩ => some (s.publish id kernel sha256 call content)
      | _ => none
  | .failReport id, s =>
      match s.finalizers id with
      | some ⟨call, phase⟩ => some (s.setFinalizer id call phase.fail)
      | none => none
  | .readArtifact id artifactId actor, s =>
      if (s.readers id).isNone then some (s.startRead id kernel artifactId actor) else none
  | .read id event, s =>
      match s.readers id with
      | some ⟨artifactId, actor, .reading artifact phase⟩ =>
          (readStep sha256 s.files artifact.contentDigest artifact.byteLength event phase).map
            fun phase => s.setReader id ⟨artifactId, actor, .afterRead sha256 artifact phase⟩
      | _ => none
  | .recheck id, s =>
      match s.readers id with
      | some ⟨artifactId, actor, .checking artifact content⟩ =>
          some (s.recheck id kernel artifactId actor artifact content)
      | _ => none
  | .failRead id, s =>
      match s.readers id with
      | some ⟨_, _, .returned _ _⟩ => none
      | some ⟨artifactId, actor, _⟩ => some (s.setReader id ⟨artifactId, actor, .ended⟩)
      | none => none
  | .crash, s => some (ReportHost.start s.world.restart s.files)

end Torsor.Kernel
