import Torsor.Kernel.ArtifactStorage
import Torsor.Kernel.AttentionOrder
import Torsor.Kernel.MessageHistory
import Torsor.Kernel.WorktreeExclusion

/-! # Integrity of stored content

A published file is written in full before it gets its name and never afterwards. So the
content a finalizer has read back is what its row describes, and stays so.
-/

namespace Torsor.Kernel
open Torsor.Library Tx

/-! ## Files that stay -/

namespace FileSystem

variable {fs fs' fs'' : FileSystem}

/-- The content is published under the digest. -/
def Holds (fs : FileSystem) (digest : String) (content : Bytes) : Prop :=
  ∃ hex inode, digestHex digest = some hex ∧ fs.published hex = some inode ∧
    fs.contents inode = content

/-- No published file is replaced or written, and files are only added. -/
structure Keeps (fs fs' : FileSystem) : Prop where
  published : ∀ {hex inode}, fs.published hex = some inode →
    fs'.published hex = some inode ∧ fs'.contents inode = fs.contents inode
  nextInode : fs.nextInode ≤ fs'.nextInode

instance : IsPreorder FileSystem Keeps where
  refl fs := by
    refine ⟨fun h => ?_, le_rfl⟩
    exact ⟨h, rfl⟩
  trans _ _ _ h h' := by
    refine ⟨fun hpublished => ?_, h.nextInode.trans h'.nextInode⟩
    obtain ⟨hfirst, hcontents⟩ := h.published hpublished
    obtain ⟨hsecond, hcontents'⟩ := h'.published hfirst
    exact ⟨hsecond, hcontents'.trans hcontents⟩

theorem Holds.keeps {digest : String} {content : Bytes} (h : fs.Holds digest content)
    (hkeeps : fs.Keeps fs') : fs'.Holds digest content := by
  obtain ⟨hex, inode, hhex, hpublished, hcontents⟩ := h
  obtain ⟨hpublished', hcontents'⟩ := hkeeps.published hpublished
  exact ⟨hex, inode, hhex, hpublished', hcontents'.trans hcontents⟩

theorem link_published {hex hex' : String} {inode : Nat} :
    (fs.link hex inode).published hex' =
      if hex' = hex then some ((fs.published hex).getD inode) else fs.published hex' := by
  unfold link
  cases hpublished : fs.published hex with
  | none =>
      by_cases hsame : hex' = hex
      · simp [hsame]
      · simp [hsame]
  | some existing =>
      by_cases hsame : hex' = hex
      · simp [hsame, hpublished]
      · simp [hsame]

theorem create_contents_new {temporary : String} :
    (fs.create temporary).contents fs.nextInode = [] :=
  Function.update_self _ _ _

theorem create_contents_old {temporary : String} {inode : Nat} (h : inode < fs.nextInode) :
    (fs.create temporary).contents inode = fs.contents inode :=
  Function.update_of_ne h.ne _ _

theorem write_contents_self {inode : Nat} {bytes : Bytes} :
    (fs.write inode bytes).contents inode = fs.contents inode ++ bytes :=
  Function.update_self _ _ _

theorem write_contents_of_ne {inode inode' : Nat} {bytes : Bytes} (h : inode' ≠ inode) :
    (fs.write inode bytes).contents inode' = fs.contents inode' :=
  Function.update_of_ne h _ _

@[simp] theorem link_contents {hex : String} {inode : Nat} :
    (fs.link hex inode).contents = fs.contents := by
  unfold link
  split <;> rfl

@[simp] theorem link_nextInode {hex : String} {inode : Nat} :
    (fs.link hex inode).nextInode = fs.nextInode := by
  unfold link
  split <;> rfl

end FileSystem

/-! ## What a finalizer relies on -/

/-- A read that has opened the file reads it from the start. -/
def ReadPhase.Ok (fs : FileSystem) (digest : String) (byteLength : Nat) : ReadPhase → Prop
  | .statting _ opened => ∃ hex, digestHex digest = some hex ∧ fs.published hex = some opened
  | .filling opened buffer => (∃ hex, digestHex digest = some hex ∧
      fs.published hex = some opened) ∧ (fs.contents opened).length = byteLength ∧
      buffer <+: fs.contents opened
  | .done content => content.length = byteLength ∧ fs.Holds digest content
  | _ => True

def PutPhase.Ok (fs : FileSystem) (digest : String) (content : Bytes) : PutPhase → Prop
  | .writing _ inode => inode < fs.nextInode ∧ fs.contents inode <+: content
  | .linking _ inode => inode < fs.nextInode ∧ fs.contents inode = content
  | .reading _ phase => phase.Ok fs digest content.length
  | .flushing _ => fs.Holds digest content
  | .unlinking _ stored => stored = true → fs.Holds digest content
  | .creating => True

def FinalizerPhase.Ok (sha256 : Bytes → String) (fs : FileSystem) : FinalizerPhase → Prop
  | .putting content phase => phase.Ok fs (artifactDigest sha256 content) content
  | .publishing content => fs.Holds (artifactDigest sha256 content) content
  | _ => True

/-- The temporary file a finalizer may still write or link. -/
def FinalizerPhase.owns : FinalizerPhase → Option Nat
  | .putting _ (.writing _ inode) => some inode
  | .putting _ (.linking _ inode) => some inode
  | _ => none

section Phases

variable {sha256 : Bytes → String} {fs fs' : FileSystem} {digest : String} {byteLength : Nat}

theorem ReadPhase.Ok.keeps {phase : ReadPhase} (h : phase.Ok fs digest byteLength)
    (hkeeps : fs.Keeps fs') : phase.Ok fs' digest byteLength := by
  cases phase with
  | inspecting => trivial
  | opening before => trivial
  | statting before opened =>
      obtain ⟨hex, hhex, hpublished⟩ := h
      exact ⟨hex, hhex, (hkeeps.published hpublished).1⟩
  | filling opened buffer =>
      obtain ⟨⟨hex, hhex, hpublished⟩, hlength, hprefix⟩ := h
      obtain ⟨hpublished', hcontents⟩ := hkeeps.published hpublished
      refine ⟨⟨hex, hhex, hpublished'⟩, ?_, ?_⟩
      · rw [hcontents]
        exact hlength
      · rw [hcontents]
        exact hprefix
  | done content => exact ⟨h.1, h.2.keeps hkeeps⟩

/-- What a finalizer relies on stays when others work, except on the file it owns. -/
theorem FinalizerPhase.Ok.keeps {phase : FinalizerPhase} (h : phase.Ok sha256 fs)
    (hkeeps : fs.Keeps fs')
    (howns : ∀ inode, phase.owns = some inode → fs'.contents inode = fs.contents inode) :
    phase.Ok sha256 fs' := by
  cases phase with
  | collecting chunks => trivial
  | publishing content => exact FileSystem.Holds.keeps h hkeeps
  | ended => trivial
  | putting content phase =>
      cases phase with
      | creating => trivial
      | writing temporary inode =>
          refine ⟨h.1.trans_le hkeeps.nextInode, ?_⟩
          rw [howns inode rfl]
          exact h.2
      | linking temporary inode =>
          refine ⟨h.1.trans_le hkeeps.nextInode, ?_⟩
          rw [howns inode rfl]
          exact h.2
      | reading temporary phase => exact ReadPhase.Ok.keeps h hkeeps
      | flushing temporary => exact FileSystem.Holds.keeps h hkeeps
      | unlinking temporary stored => exact fun hstored => (h hstored).keeps hkeeps

/-- Every await of a read keeps what the read relies on. -/
theorem readStep_ok {event : ReadEvent} {phase phase' : ReadPhase}
    (hok : phase.Ok fs digest byteLength)
    (h : readStep sha256 fs digest byteLength event phase = some phase') :
    phase'.Ok fs digest byteLength := by
  cases phase with
  | inspecting =>
      cases event with
      | lstat =>
          simp only [readStep, Option.ite_none_right_eq_some, Option.map_eq_some_iff] at h
          obtain ⟨-, inode, -, rfl⟩ := h
          trivial
      | _ => cases h
  | opening before =>
      cases event with
      | open' =>
          simp only [readStep, Option.map_eq_some_iff, Option.bind_eq_some_iff] at h
          obtain ⟨opened, ⟨hex, hhex, hpublished⟩, rfl⟩ := h
          exact ⟨hex, hhex, hpublished⟩
      | _ => cases h
  | statting before opened =>
      cases event with
      | stat =>
          simp only [readStep, Option.ite_none_right_eq_some] at h
          obtain ⟨⟨-, hlength⟩, h⟩ := h
          cases h
          exact ⟨hok, hlength, List.nil_prefix⟩
      | _ => cases h
  | filling opened buffer =>
      obtain ⟨hpublished, hlength, hprefix⟩ := hok
      obtain ⟨rest, hrest⟩ := hprefix
      cases event with
      | fill bytesRead =>
          simp only [readStep, Option.ite_none_right_eq_some] at h
          obtain ⟨-, h⟩ := h
          cases h
          refine ⟨hpublished, hlength, ?_⟩
          rw [← hrest, List.drop_left]
          exact (List.prefix_append_right_inj buffer).mpr (List.take_prefix _ _)
      | verify =>
          simp only [readStep, Option.ite_none_right_eq_some] at h
          obtain ⟨⟨-, hverifies⟩, h⟩ := h
          cases h
          simp only [contentVerifies, Bool.and_eq_true, decide_eq_true_eq] at hverifies
          obtain ⟨hex, hhex, hpublished⟩ := hpublished
          refine ⟨hverifies.1.2, hex, opened, hhex, hpublished, ?_⟩
          -- a prefix that is as long as the file is the file
          rw [← hrest, List.length_append] at hlength
          have hnone : rest = [] := List.eq_nil_of_length_eq_zero (by omega)
          rw [← hrest, hnone, List.append_nil]
      | _ => cases h
  | done content => cases event <;> cases h

end Phases

/-! ## The files of a host -/

/-- Published files have the content their name says, every finalizer can rely on its phase,
and a file that is still written is owned by one finalizer and not published. -/
structure FilesInv (sha256 : Bytes → String) (fs : FileSystem)
    (finalizers : Nat → Option Finalizer) : Prop where
  named : ∀ hex inode, fs.published hex = some inode → inode < fs.nextInode ∧
    digestHex (artifactDigest sha256 (fs.contents inode)) = some hex
  ok : ∀ id f, finalizers id = some f → f.phase.Ok sha256 fs
  apart : ∀ id id' f f' inode, finalizers id = some f → finalizers id' = some f' →
    f.phase.owns = some inode → f'.phase.owns = some inode → id = id'
  unpublished : ∀ id f hex inode, finalizers id = some f → f.phase.owns = some inode →
    fs.published hex ≠ some inode

section Files

variable {sha256 : Bytes → String} {fs fs' : FileSystem} {finalizers : Nat → Option Finalizer}
  {id : Nat} {call : ReportCall} {phase phase' : FinalizerPhase} {content : Bytes}

/-- A step of one finalizer that leaves what the others own. -/
theorem FilesInv.set (hinv : FilesInv sha256 fs finalizers) (hkeeps : fs.Keeps fs')
    (hnamed : ∀ hex inode, fs'.published hex = some inode → inode < fs'.nextInode ∧
      digestHex (artifactDigest sha256 (fs'.contents inode)) = some hex)
    (hothers : ∀ id' f inode, id' ≠ id → finalizers id' = some f →
      f.phase.owns = some inode → fs'.contents inode = fs.contents inode ∧
        (∀ hex, fs'.published hex ≠ some inode) ∧ phase'.owns ≠ some inode)
    (hok : phase'.Ok sha256 fs')
    (howns : ∀ inode hex, phase'.owns = some inode → fs'.published hex ≠ some inode) :
    FilesInv sha256 fs' (Function.update finalizers id (some ⟨call, phase'⟩)) := by
  refine ⟨hnamed, fun id' f hf => ?_, fun a b f f' inode hf hf' hinode hinode' => ?_,
    fun id' f hex inode hf hinode => ?_⟩
  · by_cases hid : id' = id
    · subst hid
      rw [Function.update_self] at hf
      cases hf
      exact hok
    · rw [Function.update_of_ne hid] at hf
      exact (hinv.ok id' f hf).keeps hkeeps fun inode hinode =>
        (hothers id' f inode hid hf hinode).1
  · by_cases ha : a = id
    · by_cases hb : b = id
      · exact ha.trans hb.symm
      · subst ha
        rw [Function.update_self] at hf
        rw [Function.update_of_ne hb] at hf'
        cases hf
        exact absurd hinode (hothers b f' inode hb hf' hinode').2.2
    · rw [Function.update_of_ne ha] at hf
      by_cases hb : b = id
      · subst hb
        rw [Function.update_self] at hf'
        cases hf'
        exact absurd hinode' (hothers a f inode ha hf hinode).2.2
      · rw [Function.update_of_ne hb] at hf'
        exact hinv.apart a b f f' inode hf hf' hinode hinode'
  · by_cases hid : id' = id
    · subst hid
      rw [Function.update_self] at hf
      cases hf
      exact howns inode hex hinode
    · rw [Function.update_of_ne hid] at hf
      exact (hothers id' f inode hid hf hinode).2.1 hex

/-- A finalizer that goes on without touching a file. -/
theorem FilesInv.goOn (hinv : FilesInv sha256 fs finalizers)
    (hcurrent : ∀ inode, phase'.owns = some inode →
      ∃ f, finalizers id = some f ∧ f.phase.owns = some inode)
    (hok : phase'.Ok sha256 fs) :
    FilesInv sha256 fs (Function.update finalizers id (some ⟨call, phase'⟩)) := by
  refine hinv.set (refl_of _ fs) hinv.named (fun id' f inode hid hf hinode => ?_) hok
    fun inode hex hinode => ?_
  · refine ⟨rfl, fun hex => hinv.unpublished id' f hex inode hf hinode, fun howns => ?_⟩
    obtain ⟨f', hf', hinode'⟩ := hcurrent inode howns
    exact hid (hinv.apart id' id f f' inode hf hf' hinode hinode')
  · obtain ⟨f, hf, hinode'⟩ := hcurrent inode hinode
    exact hinv.unpublished id f hex inode hf hinode'

/-- The same when the finalizer owns nothing afterwards. -/
theorem FilesInv.letGo (hinv : FilesInv sha256 fs finalizers) (hnone : phase'.owns = none)
    (hok : phase'.Ok sha256 fs) :
    FilesInv sha256 fs (Function.update finalizers id (some ⟨call, phase'⟩)) := by
  refine hinv.goOn (fun inode hinode => ?_) hok
  rw [hnone] at hinode
  cases hinode

theorem FileSystem.create_keeps {temporary : String}
    (hnamed : ∀ hex inode, fs.published hex = some inode → inode < fs.nextInode) :
    fs.Keeps (fs.create temporary) := by
  refine ⟨fun {hex inode} hpublished => ⟨hpublished, ?_⟩, Nat.le_succ _⟩
  exact create_contents_old (hnamed hex inode hpublished)

theorem FileSystem.write_keeps {inode : Nat} {bytes : Bytes}
    (hunpublished : ∀ hex, fs.published hex ≠ some inode) : fs.Keeps (fs.write inode bytes) := by
  refine ⟨fun {hex inode'} hpublished => ⟨hpublished, ?_⟩, le_rfl⟩
  apply write_contents_of_ne
  intro hsame
  rw [hsame] at hpublished
  exact hunpublished hex hpublished

theorem FileSystem.link_keeps {hex : String} {inode : Nat} : fs.Keeps (fs.link hex inode) := by
  refine ⟨fun {hex' inode'} hpublished => ?_, ?_⟩
  · rw [link_published, link_contents]
    refine ⟨?_, rfl⟩
    by_cases hsame : hex' = hex
    · subst hsame
      rw [if_pos rfl, hpublished]
      rfl
    · rw [if_neg hsame, hpublished]
  · rw [link_nextInode]

/-- Opening the temporary file. -/
theorem FilesInv.create (hinv : FilesInv sha256 fs finalizers) {temporary : String} :
    FilesInv sha256 (fs.create temporary) (Function.update finalizers id
      (some ⟨call, .putting content (.writing temporary fs.nextInode)⟩)) := by
  have hbelow : ∀ hex inode, fs.published hex = some inode → inode < fs.nextInode :=
    fun hex inode hpublished => (hinv.named hex inode hpublished).1
  have howned : ∀ id' f inode, finalizers id' = some f → f.phase.owns = some inode →
      inode < fs.nextInode := by
    intro id' f inode hf hinode
    have hok := hinv.ok id' f hf
    obtain ⟨call', phase⟩ := f
    cases phase with
    | putting content' phase =>
        cases phase <;> cases hinode <;> exact hok.1
    | _ => cases hinode
  have hcontents : ∀ inode, inode < fs.nextInode →
      (fs.create temporary).contents inode = fs.contents inode :=
    fun inode hlt => FileSystem.create_contents_old hlt
  refine hinv.set (FileSystem.create_keeps hbelow) (fun hex inode hpublished => ?_)
    (fun id' f inode hid hf hinode => ?_) ?_ fun inode hex hinode hpublished => ?_
  · have hlt := hbelow hex inode hpublished
    rw [hcontents inode hlt]
    exact ⟨Nat.lt_succ_of_lt hlt, (hinv.named hex inode hpublished).2⟩
  · have hlt := howned id' f inode hf hinode
    refine ⟨hcontents inode hlt, fun hex => hinv.unpublished id' f hex inode hf hinode,
      fun hsame => ?_⟩
    cases hsame
    exact hlt.ne rfl
  · refine ⟨Nat.lt_succ_self _, ?_⟩
    rw [FileSystem.create_contents_new]
    exact List.nil_prefix
  · cases hinode
    exact (hbelow hex _ hpublished).ne rfl

/-- Writing some more bytes of the content. -/
theorem FilesInv.write (hinv : FilesInv sha256 fs finalizers) {temporary : String} {inode count : Nat}
    (hf : finalizers id = some ⟨call, .putting content (.writing temporary inode)⟩) :
    FilesInv sha256
      (fs.write inode ((content.drop (fs.contents inode).length).take count))
      (Function.update finalizers id (some ⟨call, .putting content (.writing temporary inode)⟩)) := by
  have hok := hinv.ok id _ hf
  have hunpublished : ∀ hex, fs.published hex ≠ some inode :=
    fun hex => hinv.unpublished id _ hex inode hf rfl
  refine hinv.set (FileSystem.write_keeps hunpublished) (fun hex inode' hpublished => ?_)
    (fun id' f inode' hid hf' hinode => ?_) ?_ fun inode' hex hinode => ?_
  · have hne : inode' ≠ inode := by
      intro hsame
      rw [hsame] at hpublished
      exact hunpublished hex hpublished
    obtain ⟨hlt, hname⟩ := hinv.named hex inode' hpublished
    refine ⟨hlt, ?_⟩
    rw [FileSystem.write_contents_of_ne hne]
    exact hname
  · have hne : inode' ≠ inode := by
      intro hsame
      rw [hsame] at hinode
      exact hid (hinv.apart id' id f _ inode hf' hf hinode rfl)
    refine ⟨FileSystem.write_contents_of_ne hne,
      fun hex => hinv.unpublished id' f hex inode' hf' hinode, fun hsame => ?_⟩
    cases hsame
    exact hne rfl
  · obtain ⟨hlt, rest, hrest⟩ := hok
    refine ⟨hlt, ?_⟩
    rw [FileSystem.write_contents_self, ← hrest, List.drop_left]
    exact (List.prefix_append_right_inj _).mpr (List.take_prefix _ _)
  · cases hinode
    exact hunpublished hex

/-- Publishing a file that is written in full. -/
theorem FilesInv.link (hinv : FilesInv sha256 fs finalizers) {temporary hex : String} {inode : Nat}
    (hf : finalizers id = some ⟨call, .putting content (.linking temporary inode)⟩)
    (hhex : digestHex (artifactDigest sha256 content) = some hex) :
    FilesInv sha256 (fs.link hex inode) (Function.update finalizers id
      (some ⟨call, .putting content (.reading temporary .inspecting)⟩)) := by
  obtain ⟨hlt, hcontents⟩ := hinv.ok id _ hf
  have hcases : ∀ hex' inode', (fs.link hex inode).published hex' = some inode' →
      fs.published hex' = some inode' ∨ hex' = hex ∧ inode' = inode := by
    intro hex' inode' hpublished
    rw [FileSystem.link_published] at hpublished
    split at hpublished
    · rename_i hsame
      subst hsame
      cases hexisting : fs.published hex' with
      | none =>
          rw [hexisting] at hpublished
          cases hpublished
          exact .inr ⟨rfl, rfl⟩
      | some existing =>
          rw [hexisting] at hpublished
          cases hpublished
          exact .inl rfl
    · exact .inl hpublished
  refine hinv.set FileSystem.link_keeps (fun hex' inode' hpublished => ?_)
    (fun id' f inode' hid hf' hinode => ?_) trivial fun inode' hex' hinode => nomatch hinode
  · rw [FileSystem.link_contents, FileSystem.link_nextInode]
    obtain hold | ⟨rfl, rfl⟩ := hcases hex' inode' hpublished
    · exact hinv.named hex' inode' hold
    · refine ⟨hlt, ?_⟩
      rw [hcontents]
      exact hhex
  · refine ⟨by rw [FileSystem.link_contents], fun hex' hpublished => ?_, fun hsame => nomatch hsame⟩
    obtain hold | ⟨-, rfl⟩ := hcases hex' inode' hpublished
    · exact hinv.unpublished id' f hex' inode' hf' hinode hold
    · exact hid (hinv.apart id' id f _ inode' hf' hf hinode rfl)

/-- Every await of a put keeps the files in order and the published ones as they are. -/
theorem putStep_files (hinv : FilesInv sha256 fs finalizers) {event : PutEvent}
    {putPhase : PutPhase} (hf : finalizers id = some ⟨call, .putting content putPhase⟩)
    (h : putStep sha256 content event fs putPhase = some (fs', phase')) :
    FilesInv sha256 fs' (Function.update finalizers id (some ⟨call, phase'⟩)) ∧
      fs.Keeps fs' := by
  have hok := hinv.ok id _ hf
  cases putPhase with
  | creating =>
      cases event with
      | create temporary =>
          simp only [putStep, Option.ite_none_right_eq_some] at h
          obtain ⟨-, h⟩ := h
          cases h
          exact ⟨hinv.create, FileSystem.create_keeps fun hex inode hpublished =>
            (hinv.named hex inode hpublished).1⟩
      | _ => cases h
  | writing temporary inode =>
      cases event with
      | write count =>
          cases h
          exact ⟨hinv.write hf, FileSystem.write_keeps fun hex =>
            hinv.unpublished id _ hex inode hf rfl⟩
      | finish =>
          simp only [putStep, Option.ite_none_right_eq_some] at h
          obtain ⟨hlength, h⟩ := h
          cases h
          obtain ⟨hlt, hprefix⟩ := hok
          refine ⟨hinv.goOn (fun inode' hinode => ⟨_, hf, hinode⟩) ⟨hlt, ?_⟩, refl_of _ fs⟩
          exact hprefix.eq_of_length hlength
      | _ => cases h
  | linking temporary inode =>
      cases event with
      | link =>
          simp only [putStep, Option.map_eq_some_iff, Prod.mk.injEq] at h
          obtain ⟨hex, hhex, rfl, rfl⟩ := h
          exact ⟨hinv.link hf hhex, FileSystem.link_keeps⟩
      | _ => cases h
  | reading temporary readPhase =>
      cases event with
      | read event =>
          simp only [putStep, Option.map_eq_some_iff, Prod.mk.injEq] at h
          obtain ⟨next, hnext, rfl, rfl⟩ := h
          refine ⟨?_, refl_of _ fs⟩
          have hread : next.Ok fs (artifactDigest sha256 content) content.length :=
            readStep_ok hok hnext
          cases next with
          | done existing =>
              by_cases hsame : existing = content
              · subst hsame
                rw [afterRead, if_pos rfl]
                exact hinv.letGo rfl hread.2
              · rw [afterRead, if_neg hsame]
                exact hinv.letGo rfl fun hstored => nomatch hstored
          | _ => exact hinv.letGo rfl hread
      | _ => cases h
  | flushing temporary =>
      cases event with
      | flush =>
          cases h
          exact ⟨hinv.letGo rfl fun _ => hok, refl_of _ fs⟩
      | _ => cases h
  | unlinking temporary stored =>
      cases event with
      | unlink =>
          cases h
          have hunlinked : FilesInv sha256 (fs.unlink temporary) finalizers :=
            ⟨hinv.named, fun id' f hf' => (hinv.ok id' f hf').keeps
              (⟨fun hpublished => ⟨hpublished, rfl⟩, le_rfl⟩ : fs.Keeps (fs.unlink temporary))
              fun _ _ => rfl, hinv.apart, hinv.unpublished⟩
          refine ⟨?_, fun hpublished => ⟨hpublished, rfl⟩, le_rfl⟩
          cases stored with
          | true => exact hunlinked.letGo rfl (hok rfl)
          | false => exact hunlinked.letGo rfl trivial
      | _ => cases h

/-- An await that throws leaves every file as it is. -/
theorem FilesInv.fail (hinv : FilesInv sha256 fs finalizers) :
    FilesInv sha256 fs (Function.update finalizers id (some ⟨call, phase.fail⟩)) := by
  cases phase with
  | putting content putPhase =>
      cases putPhase with
      | creating => exact hinv.letGo rfl trivial
      | unlinking temporary stored => exact hinv.letGo rfl trivial
      | _ => exact hinv.letGo rfl fun hstored => nomatch hstored
  | _ => exact hinv.letGo rfl trivial

end Files

/-! ## The database of a host -/

/-- Rows of Artifacts and idempotency records are kept. -/
structure KeepsReports (w w' : World) : Prop where
  facts : ∀ facts ∈ w.db.artifactFacts, facts ∈ w'.db.artifactFacts
  recorded : ∀ principalId command, Recorded principalId command w →
    Recorded principalId command w'

instance : IsPreorder World KeepsReports where
  refl _ := ⟨fun _ h => h, fun _ _ h => h⟩
  trans _ _ _ h h' := ⟨fun facts hfacts => h'.facts facts (h.facts facts hfacts),
    fun principalId command hrecorded =>
      h'.recorded principalId command (h.recorded principalId command hrecorded)⟩

section Worlds

variable {kernel : KernelContext} {w w' : World}

theorem step_keepsReports (kernel : KernelContext) (call : KernelCall) (w : World) :
    KeepsReports w (step kernel call w) := by
  refine ⟨fun facts hfacts => ?_, fun principalId command hrecorded =>
    hrecorded.steps (Relation.ReflTransGen.single ⟨call, rfl⟩)⟩
  obtain hsame | ⟨input, content, context, operationContext, -, hadded⟩ :=
    step_artifacts kernel call w
  · rw [hsame]
    exact hfacts
  · obtain ⟨id, hrows⟩ := hadded.added
    rw [hrows]
    exact List.mem_append_left _ hfacts

theorem KeepsReports.of_db (h : w'.db = w.db) : KeepsReports w w' := by
  refine ⟨fun facts hfacts => ?_, fun principalId command hrecorded => ?_⟩
  · rw [h]
    exact hfacts
  · obtain ⟨record, hrecord⟩ := hrecorded
    rw [← h] at hrecord
    exact ⟨record, hrecord⟩

/-- A query reads only. -/
theorem queryArtifact_db (artifactId : String) (context : PrincipalContext) (w : World) :
    (queryArtifact kernel artifactId context w).2.db = w.db := by
  have hread : Within SameDatabase (queryArtifact kernel artifactId context) := by
    unfold queryArtifact
    infer_instance
  exact hread.step w

end Worlds

/-! ## Every state of a host -/

/-- The content matches the row the caller was shown. -/
def ArtifactView.Matches (sha256 : Bytes → String) (artifact : ArtifactView) (content : Bytes) :
    Prop :=
  artifactDigest sha256 content = artifact.contentDigest ∧ content.length = artifact.byteLength

def ReaderPhase.Ok (sha256 : Bytes → String) : ReaderPhase → Prop
  | .checking artifact content => artifact.Matches sha256 content
  | .returned artifact content => artifact.Matches sha256 content
  | _ => True

/-- The storage has the content that a row describes. -/
def ArtifactFacts.Stored (sha256 : Bytes → String) (fs : FileSystem) (facts : ArtifactFacts) :
    Prop :=
  ∃ content, fs.Holds facts.contentDigest content ∧
    artifactDigest sha256 content = facts.contentDigest ∧ content.length = facts.byteLength

structure HostInv (sha256 : Bytes → String) (s : ReportHost) : Prop where
  files : FilesInv sha256 s.files s.finalizers
  rows : ∀ facts ∈ s.world.db.artifactFacts, facts.Stored sha256 s.files
  readers : ∀ id r, s.readers id = some r → r.phase.Ok sha256

/-- Nothing that is published is lost between two states. -/
structure ReportHost.Keeps (s s' : ReportHost) : Prop where
  files : s.files.Keeps s'.files
  reports : KeepsReports s.world s'.world

instance : IsPreorder ReportHost ReportHost.Keeps where
  refl s := ⟨refl_of _ s.files, refl_of _ s.world⟩
  trans _ _ _ h h' := ⟨trans_of _ h.files h'.files, trans_of _ h.reports h'.reports⟩

section Host

variable {kernel : KernelContext} {sha256 : Bytes → String} {s s' : ReportHost} {w : World}
  {id : Nat} {call : ReportCall} {phase : FinalizerPhase}

theorem ArtifactFacts.Stored.keeps {fs fs' : FileSystem} {facts : ArtifactFacts}
    (h : facts.Stored sha256 fs) (hkeeps : fs.Keeps fs') : facts.Stored sha256 fs' := by
  obtain ⟨content, hholds, hdigest, hlength⟩ := h
  exact ⟨content, hholds.keeps hkeeps, hdigest, hlength⟩

/-- A step of the database that adds no row. -/
theorem HostInv.world (hinv : HostInv sha256 s) (h : SameArtifacts s.world w) :
    HostInv sha256 { s with world := w } := by
  refine ⟨hinv.files, fun facts hfacts => hinv.rows facts ?_, hinv.readers⟩
  rw [← h]
  exact hfacts

theorem HostInv.finalizer (hinv : HostInv sha256 s)
    (h : FilesInv sha256 s.files (Function.update s.finalizers id (some ⟨call, phase⟩))) :
    HostInv sha256 (s.setFinalizer id call phase) :=
  ⟨h, hinv.rows, hinv.readers⟩

theorem setReader_readers {reader : ArtifactReader} {id' : Nat} :
    (s.setReader id reader).readers id' = if id' = id then some reader else s.readers id' := by
  by_cases hid : id' = id
  · subst hid
    rw [if_pos rfl]
    exact Function.update_self _ _ _
  · rw [if_neg hid]
    exact Function.update_of_ne hid _ _

theorem HostInv.reader (hinv : HostInv sha256 s) {reader : ArtifactReader}
    (h : reader.phase.Ok sha256) : HostInv sha256 (s.setReader id reader) := by
  refine ⟨hinv.files, hinv.rows, fun id' r hr => ?_⟩
  rw [setReader_readers] at hr
  split at hr
  · cases hr
    exact h
  · exact hinv.readers id' r hr

theorem validateReportInput_snd {input : FinalizeReportInput} {r : Except Failure Unit} {w' : World}
    (h : validateReportInput input w = (r, w')) : w' = w := by
  have hsame : Within (@Eq World) (validateReportInput input) := by
    unfold validateReportInput requireNonEmpty
    infer_instance
  have heq : w = (validateReportInput input w).2 := hsame.step w
  rw [heq, h]

theorem ReportHost.Keeps.of_world {s s' : ReportHost} (h : KeepsReports s.world s'.world)
    (hfiles : s'.files = s.files) : s.Keeps s' := by
  refine ⟨?_, h⟩
  rw [hfiles]
  exact refl_of _ s.files

/-- The first checks of a report do to the database what the call `admitReport` does. -/
theorem startReport_world (w : World) :
    ((do
      validateReportInput call.input
      admitReport kernel call.input.runId call.actor : K Unit) w).2 = w ∨
    ((do
      validateReportInput call.input
      admitReport kernel call.input.runId call.actor : K Unit) w).2 =
        step kernel (.admitReport call.input.runId call.actor) w := by
  cases hcheck : validateReportInput call.input w with
  | mk r w' =>
      have hsame : w' = w := validateReportInput_snd hcheck
      subst hsame
      cases r with
      | error e => exact .inl (by rw [bind_of_error hcheck])
      | ok u => exact .inr (by rw [bind_of_ok hcheck]; rfl)

theorem admitReport_sameArtifacts (runId : String) (context : PrincipalContext) (w : World) :
    SameArtifacts w (step kernel (.admitReport runId context) w) := by
  obtain hsame | ⟨input, content, actor, operationContext, hcall, -⟩ :=
    step_artifacts kernel (.admitReport runId context) w
  · exact hsame
  · cases hcall

theorem startReport_ok (hinv : HostInv sha256 s) :
    HostInv sha256 (s.startReport id kernel call) ∧ s.Keeps (s.startReport id kernel call) := by
  have hworld := @startReport_world kernel call s.world
  unfold ReportHost.startReport
  cases hrun : (do
      validateReportInput call.input
      admitReport kernel call.input.runId call.actor : K Unit) s.world with
  | mk r w =>
      rw [hrun] at hworld
      have hsame : SameArtifacts s.world w := by
        obtain heq | heq := hworld
        · rw [← heq]
          exact refl_of SameArtifacts _
        · rw [show w = _ from heq]
          exact admitReport_sameArtifacts _ _ _
      have hkeeps : KeepsReports s.world w := by
        obtain heq | heq := hworld
        · rw [← heq]
          exact refl_of KeepsReports _
        · rw [show w = _ from heq]
          exact step_keepsReports kernel _ _
      have hafter := hinv.world hsame
      cases r with
      | ok u =>
          exact ⟨hafter.finalizer (hafter.files.letGo rfl trivial), .of_world hkeeps rfl⟩
      | error e => exact ⟨hafter, .of_world hkeeps rfl⟩

theorem putContent_ok (hinv : HostInv sha256 s) {bytes : Bytes} :
    HostInv sha256 (s.putContent id kernel sha256 call bytes) ∧
      s.Keeps (s.putContent id kernel sha256 call bytes) := by
  have hsame := @admitReport_sameArtifacts kernel call.input.runId call.actor s.world
  have hkeeps := step_keepsReports kernel (.admitReport call.input.runId call.actor) s.world
  unfold ReportHost.putContent
  cases hrun : admitReport kernel call.input.runId call.actor s.world with
  | mk r w =>
      have hw : step kernel (.admitReport call.input.runId call.actor) s.world = w := by
        show (admitReport kernel call.input.runId call.actor s.world).2 = w
        rw [hrun]
      rw [hw] at hsame hkeeps
      have hafter := hinv.world hsame
      cases r with
      | ok u =>
          refine ⟨hafter.finalizer ?_, .of_world hkeeps rfl⟩
          split
          · exact hafter.files.letGo rfl trivial
          · exact hafter.files.letGo rfl trivial
      | error e =>
          exact ⟨hafter.finalizer (hafter.files.letGo rfl trivial), .of_world hkeeps rfl⟩

/-- A published row describes the content that the storage has. -/
theorem publish_ok (hinv : HostInv sha256 s) {bytes : Bytes}
    (hf : s.finalizers id = some ⟨call, .publishing bytes⟩) :
    HostInv sha256 (s.publish id kernel sha256 call bytes) ∧
      s.Keeps (s.publish id kernel sha256 call bytes) := by
  have hholds : s.files.Holds (artifactDigest sha256 bytes) bytes := hinv.files.ok id _ hf
  have hkeeps := step_keepsReports kernel (.publishReport call.input
    (ReportHost.content sha256 bytes) call.actor call.operationContext) s.world
  refine ⟨?_, .of_world hkeeps rfl⟩
  refine ⟨hinv.files.letGo rfl trivial, fun facts hfacts => ?_, hinv.readers⟩
  obtain hsame | hadded := publishReport_outcome kernel call.input
    (ReportHost.content sha256 bytes) call.actor call.operationContext s.world
  · exact hinv.rows facts (hsame ▸ hfacts)
  · obtain ⟨rowId, hrows⟩ := hadded.added
    have hmem : facts ∈ s.world.db.artifactFacts ++
        [⟨rowId, artifactDigest sha256 bytes, bytes.length⟩] := hrows ▸ hfacts
    obtain hold | hnew := List.mem_append.mp hmem
    · exact hinv.rows facts hold
    · obtain rfl := List.mem_singleton.mp hnew
      exact ⟨bytes, hholds, rfl, rfl⟩

theorem startRead_ok (hinv : HostInv sha256 s) {artifactId : String} {actor : PrincipalContext} :
    HostInv sha256 (s.startRead id kernel artifactId actor) ∧
      s.Keeps (s.startRead id kernel artifactId actor) := by
  have hdb := @queryArtifact_db kernel artifactId actor s.world
  unfold ReportHost.startRead
  cases hrun : queryArtifact kernel artifactId actor s.world with
  | mk r w =>
      rw [hrun] at hdb
      have hafter := hinv.world (congrArg Database.artifactFacts hdb)
      cases r with
      | ok artifact => exact ⟨hafter.reader trivial, .of_world (.of_db hdb) rfl⟩
      | error e => exact ⟨hafter, .of_world (.of_db hdb) rfl⟩

theorem recheck_ok (hinv : HostInv sha256 s) {artifactId : String} {actor : PrincipalContext}
    {artifact : ArtifactView} {content : Bytes} (hmatches : artifact.Matches sha256 content) :
    HostInv sha256 (s.recheck id kernel artifactId actor artifact content) ∧
      s.Keeps (s.recheck id kernel artifactId actor artifact content) := by
  have hdb := @queryArtifact_db kernel artifactId actor s.world
  unfold ReportHost.recheck
  cases hrun : queryArtifact kernel artifactId actor s.world with
  | mk r w =>
      rw [hrun] at hdb
      have hafter := hinv.world (congrArg Database.artifactFacts hdb)
      cases r with
      | ok view => exact ⟨hafter.reader hmatches, .of_world (.of_db hdb) rfl⟩
      | error e => exact ⟨hafter.reader trivial, .of_world (.of_db hdb) rfl⟩

/-- What a storage read returns is verified against the row. -/
theorem afterRead_ok {artifact : ArtifactView} {phase : ReadPhase} :
    (ReaderPhase.afterRead sha256 artifact phase).Ok sha256 := by
  cases phase with
  | done content =>
      by_cases hverifies :
          contentVerifies sha256 content artifact.contentDigest artifact.byteLength = true
      · rw [ReaderPhase.afterRead, if_pos hverifies]
        simp only [contentVerifies, Bool.and_eq_true, decide_eq_true_eq] at hverifies
        exact ⟨hverifies.2, hverifies.1.2⟩
      · rw [ReaderPhase.afterRead, if_neg hverifies]
        trivial
  | _ => trivial

/-- Every event keeps the invariant and what is published. -/
theorem reportStep_ok {event : ReportEvent} (hinv : HostInv sha256 s)
    (h : reportStep kernel sha256 event s = some s') : HostInv sha256 s' ∧ s.Keeps s' := by
  cases event with
  | kernel kernelCall =>
      simp only [reportStep, Option.ite_none_left_eq_some] at h
      obtain ⟨hother, h⟩ := h
      cases h
      have hkeeps := step_keepsReports kernel kernelCall s.world
      obtain hsame | ⟨input, content, actor, operationContext, rfl, -⟩ :=
        step_artifacts kernel kernelCall s.world
      · exact ⟨hinv.world hsame, .of_world hkeeps rfl⟩
      · exact absurd rfl hother
  | finalizeReport id call =>
      simp only [reportStep, Option.ite_none_right_eq_some] at h
      obtain ⟨-, h⟩ := h
      cases h
      exact startReport_ok hinv
  | chunk id chunk =>
      simp only [reportStep] at h
      split at h
      · cases h
        refine ⟨hinv.finalizer ?_, refl_of _ s.files, refl_of _ s.world⟩
        split
        · exact hinv.files.letGo rfl trivial
        · exact hinv.files.letGo rfl trivial
      · cases h
  | collected id =>
      simp only [reportStep] at h
      split at h
      · cases h
        exact putContent_ok hinv
      · cases h
  | put id event =>
      simp only [reportStep] at h
      split at h
      · rename_i call content putPhase hf
        simp only [Option.map_eq_some_iff] at h
        obtain ⟨⟨files, phase⟩, hput, rfl⟩ := h
        obtain ⟨hfiles, hkeeps⟩ := putStep_files hinv.files hf hput
        exact ⟨⟨hfiles, fun facts hfacts => (hinv.rows facts hfacts).keeps hkeeps, hinv.readers⟩,
          hkeeps, refl_of _ s.world⟩
      · cases h
  | publish id =>
      simp only [reportStep] at h
      split at h
      · rename_i call content hf
        cases h
        exact publish_ok hinv hf
      · cases h
  | failReport id =>
      simp only [reportStep] at h
      split at h
      · cases h
        exact ⟨hinv.finalizer hinv.files.fail, refl_of _ s.files, refl_of _ s.world⟩
      · cases h
  | readArtifact id artifactId actor =>
      simp only [reportStep, Option.ite_none_right_eq_some] at h
      obtain ⟨-, h⟩ := h
      cases h
      exact startRead_ok hinv
  | read id event =>
      simp only [reportStep] at h
      split at h
      · simp only [Option.map_eq_some_iff] at h
        obtain ⟨phase, -, rfl⟩ := h
        exact ⟨hinv.reader afterRead_ok, refl_of _ s.files, refl_of _ s.world⟩
      · cases h
  | recheck id =>
      simp only [reportStep] at h
      split at h
      · rename_i artifactId actor artifact content hr
        cases h
        exact recheck_ok hinv (hinv.readers id _ hr)
      · cases h
  | failRead id =>
      simp only [reportStep] at h
      split at h
      · cases h
      · cases h
        exact ⟨hinv.reader trivial, refl_of _ s.files, refl_of _ s.world⟩
      · cases h
  | crash =>
      cases h
      have hsame : SameArtifacts s.world s.world.restart := by
        obtain hsame | ⟨_, _, _, _, hcall, -⟩ := step_artifacts kernel .restart s.world
        · exact hsame
        · cases hcall
      have hkeeps : KeepsReports s.world s.world.restart :=
        step_keepsReports kernel .restart s.world
      have hrows := (hinv.world hsame).rows
      refine ⟨⟨⟨hinv.files.named, ?_, ?_, ?_⟩, hrows, ?_⟩, .of_world hkeeps rfl⟩
      · exact fun id f hf => nomatch hf
      · exact fun id id' f f' inode hf => nomatch hf
      · exact fun id f hex inode hf => nomatch hf
      · exact fun id r hr => nomatch hr

end Host

/-! ## Reads -/

/-- What an event does to a call of `readArtifact` that is there afterwards. -/
inductive ReaderMove (kernel : KernelContext) (s : ReportHost) (id : Nat) :
    ArtifactReader → Prop where
  | same {r : ArtifactReader} (h : s.readers id = some r) : ReaderMove kernel s id r
  | started {artifactId : String} {actor : PrincipalContext} {artifact : ArtifactView}
      (hquery : (queryArtifact kernel artifactId actor s.world).1 = .ok artifact) :
      ReaderMove kernel s id ⟨artifactId, actor, .reading artifact .inspecting⟩
  | reads {artifactId : String} {actor : PrincipalContext} {artifact : ArtifactView}
      {phase phase' : ReadPhase}
      (h : s.readers id = some ⟨artifactId, actor, .reading artifact phase⟩) :
      ReaderMove kernel s id ⟨artifactId, actor, .reading artifact phase'⟩
  | checks {artifactId : String} {actor : PrincipalContext} {artifact : ArtifactView}
      {phase : ReadPhase} {content : Bytes}
      (h : s.readers id = some ⟨artifactId, actor, .reading artifact phase⟩) :
      ReaderMove kernel s id ⟨artifactId, actor, .checking artifact content⟩
  | returns {artifactId : String} {actor : PrincipalContext} {artifact view : ArtifactView}
      {content : Bytes}
      (h : s.readers id = some ⟨artifactId, actor, .checking artifact content⟩)
      (hquery : (queryArtifact kernel artifactId actor s.world).1 = .ok view) :
      ReaderMove kernel s id ⟨artifactId, actor, .returned artifact content⟩
  | ends {artifactId : String} {actor : PrincipalContext} :
      ReaderMove kernel s id ⟨artifactId, actor, .ended⟩

section Reads

variable {kernel : KernelContext} {sha256 : Bytes → String} {s s' s₀ : ReportHost} {id : Nat}

/-- A move of one reader, seen from any of them. -/
theorem ReaderMove.of_set {id' : Nat} {reader r : ArtifactReader}
    (hmove : ReaderMove kernel s id' reader)
    (hr : (if id = id' then some reader else s.readers id) = some r) :
    ReaderMove kernel s id r := by
  split at hr
  · rename_i hid
    subst hid
    cases hr
    exact hmove
  · exact .same hr

theorem startRead_move {artifactId : String} {actor : PrincipalContext} {id' : Nat}
    {r : ArtifactReader} (hr : (s.startRead id' kernel artifactId actor).readers id = some r) :
    ReaderMove kernel s id r := by
  unfold ReportHost.startRead at hr
  cases hrun : queryArtifact kernel artifactId actor s.world with
  | mk answer w =>
      rw [hrun] at hr
      cases answer with
      | ok artifact =>
          rw [setReader_readers] at hr
          exact .of_set (.started (by rw [hrun])) hr
      | error e => exact .same hr

theorem recheck_move {artifactId : String} {actor : PrincipalContext} {artifact : ArtifactView}
    {content : Bytes} {id' : Nat} {r : ArtifactReader}
    (hreader : s.readers id' = some ⟨artifactId, actor, .checking artifact content⟩)
    (hr : (s.recheck id' kernel artifactId actor artifact content).readers id = some r) :
    ReaderMove kernel s id r := by
  unfold ReportHost.recheck at hr
  cases hrun : queryArtifact kernel artifactId actor s.world with
  | mk answer w =>
      rw [hrun] at hr
      cases answer with
      | ok view =>
          rw [setReader_readers] at hr
          exact .of_set (.returns hreader (by rw [hrun])) hr
      | error e =>
          rw [setReader_readers] at hr
          exact .of_set .ends hr

theorem afterRead_move {artifactId : String} {actor : PrincipalContext} {artifact : ArtifactView}
    {phase phase' : ReadPhase}
    (h : s.readers id = some ⟨artifactId, actor, .reading artifact phase⟩) :
    ReaderMove kernel s id ⟨artifactId, actor, .afterRead sha256 artifact phase'⟩ := by
  cases phase' with
  | done content =>
      by_cases hverifies :
          contentVerifies sha256 content artifact.contentDigest artifact.byteLength = true
      · rw [ReaderPhase.afterRead, if_pos hverifies]
        exact .checks h
      · rw [ReaderPhase.afterRead, if_neg hverifies]
        exact .ends
  | _ => exact .reads h

theorem reportStep_reader {event : ReportEvent} (h : reportStep kernel sha256 event s = some s')
    {r : ArtifactReader} (hr : s'.readers id = some r) : ReaderMove kernel s id r := by
  cases event with
  | kernel kernelCall =>
      simp only [reportStep, Option.ite_none_left_eq_some] at h
      obtain ⟨-, h⟩ := h
      cases h
      exact .same hr
  | finalizeReport id' call =>
      simp only [reportStep, Option.ite_none_right_eq_some] at h
      obtain ⟨-, h⟩ := h
      cases h
      unfold ReportHost.startReport at hr
      split at hr <;> exact .same hr
  | chunk id' chunk =>
      simp only [reportStep] at h
      split at h
      · cases h
        exact .same hr
      · cases h
  | collected id' =>
      simp only [reportStep] at h
      split at h
      · cases h
        unfold ReportHost.putContent at hr
        split at hr <;> exact .same hr
      · cases h
  | put id' event =>
      simp only [reportStep] at h
      split at h
      · simp only [Option.map_eq_some_iff] at h
        obtain ⟨next, -, rfl⟩ := h
        exact .same hr
      · cases h
  | publish id' =>
      simp only [reportStep] at h
      split at h
      · cases h
        exact .same hr
      · cases h
  | failReport id' =>
      simp only [reportStep] at h
      split at h
      · cases h
        exact .same hr
      · cases h
  | readArtifact id' artifactId actor =>
      simp only [reportStep, Option.ite_none_right_eq_some] at h
      obtain ⟨-, h⟩ := h
      cases h
      exact startRead_move hr
  | read id' event =>
      simp only [reportStep] at h
      split at h
      · rename_i artifactId actor artifact phase hreader
        simp only [Option.map_eq_some_iff] at h
        obtain ⟨phase', -, rfl⟩ := h
        rw [setReader_readers] at hr
        exact .of_set (afterRead_move hreader) hr
      · cases h
  | recheck id' =>
      simp only [reportStep] at h
      split at h
      · rename_i artifactId actor artifact content hreader
        cases h
        exact recheck_move hreader hr
      · cases h
  | failRead id' =>
      simp only [reportStep] at h
      split at h
      · cases h
      · cases h
        rw [setReader_readers] at hr
        exact .of_set .ends hr
      · cases h
  | crash =>
      cases h
      cases hr

/-- A row the caller is shown exists. -/
theorem queryArtifact_row {artifactId : String} {actor : PrincipalContext} {w : World}
    {artifact : ArtifactView} (h : (queryArtifact kernel artifactId actor w).1 = .ok artifact) :
    (⟨artifact.id, artifact.contentDigest, artifact.byteLength⟩ : ArtifactFacts) ∈
      w.db.artifactFacts := by
  have hrun : queryArtifact kernel artifactId actor w =
      (.ok artifact, (queryArtifact kernel artifactId actor w).2) := Prod.ext h rfl
  have hread := queryTransaction_eq_ok hrun
  simp only [getArtifact, bind_eq_ok, requirePrincipal_eq_ok, gets_eq_ok, require_eq_ok,
    pure_eq_ok] at hread
  obtain ⟨_, _, ⟨-, rfl⟩, principal, _, ⟨-, rfl⟩, scope, w₁, hscope, _, w₂, hempty, rows, _,
    ⟨rfl, rfl⟩, row, _, ⟨hrow, rfl⟩, rfl, -⟩ := hread
  have hdb : SameDatabase w w₂ := trans_of SameDatabase (Within.of_eq hscope)
    (Within.of_eq hempty)
  have hmem := List.mem_of_head? hrow
  simp only [visibleArtifactRows, mem_orderByPair, Table.mem_filter] at hmem
  rw [hdb] at hmem
  exact List.mem_map_of_mem hmem.1

end Reads

/-! ## Every run -/

/-- Any number of events, of any calls. -/
def Interleaves (kernel : KernelContext) (sha256 : Bytes → String) (s s' : ReportHost) : Prop :=
  (reportStep kernel sha256).Runs (fun _ _ => True) s s'

/-- The call `id` could read the Artifact before it read the storage and after that. -/
def ReadInside (kernel : KernelContext) (sha256 : Bytes → String) (s₀ s : ReportHost) (id : Nat)
    (artifactId : String) (actor : PrincipalContext) (artifact : ArtifactView)
    (content : Bytes) : Prop :=
  ∃ before after, Interleaves kernel sha256 s₀ before ∧ Interleaves kernel sha256 before after ∧
    Interleaves kernel sha256 after s ∧
    (queryArtifact kernel artifactId actor before.world).1 = .ok artifact ∧
    after.readers id = some ⟨artifactId, actor, .checking artifact content⟩ ∧
    ∃ view, (queryArtifact kernel artifactId actor after.world).1 = .ok view

/-- How far a call of `readArtifact` has come, and what it has asked by then. -/
def ReaderPhase.Asked (kernel : KernelContext) (sha256 : Bytes → String) (s₀ s : ReportHost)
    (id : Nat) (artifactId : String) (actor : PrincipalContext) : ReaderPhase → Prop
  | .reading artifact _ => ∃ before, Interleaves kernel sha256 s₀ before ∧
      Interleaves kernel sha256 before s ∧
      (queryArtifact kernel artifactId actor before.world).1 = .ok artifact
  | .checking artifact _ => ∃ before, Interleaves kernel sha256 s₀ before ∧
      Interleaves kernel sha256 before s ∧
      (queryArtifact kernel artifactId actor before.world).1 = .ok artifact
  | .returned artifact content =>
      ReadInside kernel sha256 s₀ s id artifactId actor artifact content
  | .ended => True

section Runs

variable {kernel : KernelContext} {sha256 : Bytes → String} {s s' s₀ : ReportHost} {w₀ : World}
  {id : Nat} {artifactId : String} {actor : PrincipalContext}

theorem Interleaves.step {event : ReportEvent} (h : reportStep kernel sha256 event s = some s') :
    Interleaves kernel sha256 s s' :=
  .tail event .refl trivial h

/-- What a host starts with when the database is new. -/
theorem HostInv.start (hopen : Opened kernel w₀) :
    HostInv sha256 (ReportHost.start w₀ FileSystem.empty) := by
  have hframe : Frame [.artifacts] World.blank w₀ := hopen.frame
  have hsame : SameArtifacts World.blank w₀ :=
    ConcernsTables.of_tables World.blank w₀ hframe.tables hframe.clockReadings hframe.issuedIds
      hframe.randomDraws
  refine ⟨⟨?_, ?_, ?_, ?_⟩, fun facts hfacts => ?_, fun id r hr => ?_⟩
  · exact fun hex inode hpublished => nomatch hpublished
  · exact fun id f hf => nomatch hf
  · exact fun id id' f f' inode hf => nomatch hf
  · exact fun id f hex inode hf => nomatch hf
  · have hblank : facts ∈ World.blank.db.artifactFacts := hsame ▸ hfacts
    cases hblank
  · cases hr

/-- The invariant holds in every state of a run, and nothing published is lost. -/
theorem HostInv.run (hinv : HostInv sha256 s) (hrun : Interleaves kernel sha256 s s') :
    HostInv sha256 s' ∧ s.Keeps s' := by
  induction hrun with
  | refl => exact ⟨hinv, refl_of _ s⟩
  | tail event hbefore _ hstep ih =>
      obtain ⟨hafter, hkeeps⟩ := reportStep_ok ih.1 hstep
      exact ⟨hafter, trans_of _ ih.2 hkeeps⟩

/-- What a call has asked stays in the past. -/
theorem ReaderPhase.Asked.later {phase : ReaderPhase}
    (h : phase.Asked kernel sha256 s₀ s id artifactId actor)
    (hlater : Interleaves kernel sha256 s s') :
    phase.Asked kernel sha256 s₀ s' id artifactId actor := by
  cases phase with
  | reading artifact readPhase =>
      obtain ⟨before, hbefore, hafter, hquery⟩ := h
      exact ⟨before, hbefore, hafter.trans hlater, hquery⟩
  | checking artifact content =>
      obtain ⟨before, hbefore, hafter, hquery⟩ := h
      exact ⟨before, hbefore, hafter.trans hlater, hquery⟩
  | returned artifact content =>
      obtain ⟨before, after, hbefore, hread, hafter, hasked⟩ := h
      exact ⟨before, after, hbefore, hread, hafter.trans hlater, hasked⟩
  | ended => trivial

/-- Every call of `readArtifact` has asked for the row before it reads, and again before it
returns. -/
theorem readers_asked (hnone : ∀ id, s₀.readers id = none)
    (hrun : Interleaves kernel sha256 s₀ s) {r : ArtifactReader} (hr : s.readers id = some r) :
    r.phase.Asked kernel sha256 s₀ s id r.artifactId r.actor := by
  induction hrun generalizing r with
  | refl =>
      rw [hnone] at hr
      cases hr
  | tail event hbefore _ hstep ih =>
      have hlater := Interleaves.step hstep
      cases reportStep_reader hstep hr with
      | same h => exact (ih h).later hlater
      | started hquery => exact ⟨_, hbefore, hlater, hquery⟩
      | reads h =>
          obtain ⟨before, hasked⟩ := (ih h).later hlater
          exact ⟨before, hasked⟩
      | checks h =>
          obtain ⟨before, hasked⟩ := (ih h).later hlater
          exact ⟨before, hasked⟩
      | returns h hquery =>
          obtain ⟨before, hfirst, hread, hasked⟩ := ih h
          exact ⟨before, _, hfirst, hread, hlater, hasked, h, _, hquery⟩
      | ends => trivial

/-- The step does one call on the database that is not the last of a report, or none. -/
def CallsOnce (kernel : KernelContext) (w w' : World) : Prop :=
  w'.db = w.db ∨ ∃ call : KernelCall, call.isPublishReport = false ∧
    w' = Torsor.Kernel.step kernel call w

theorem startReport_calls {call : ReportCall} :
    CallsOnce kernel s.world (s.startReport id kernel call).world := by
  have hworld := @startReport_world kernel call s.world
  unfold ReportHost.startReport
  cases hrun : (do
      validateReportInput call.input
      admitReport kernel call.input.runId call.actor : K Unit) s.world with
  | mk r w =>
      rw [hrun] at hworld
      have hcalls : CallsOnce kernel s.world w := by
        obtain hsame | hstep := hworld
        · exact .inl (congrArg World.db hsame)
        · exact .inr ⟨_, rfl, hstep⟩
      cases r with
      | ok u => exact hcalls
      | error e => exact hcalls

theorem putContent_calls {call : ReportCall} {bytes : Bytes} :
    CallsOnce kernel s.world (s.putContent id kernel sha256 call bytes).world := by
  unfold ReportHost.putContent
  cases hrun : admitReport kernel call.input.runId call.actor s.world with
  | mk r w =>
      have hcalls : CallsOnce kernel s.world w := by
        refine .inr ⟨.admitReport call.input.runId call.actor, rfl, ?_⟩
        show w = (admitReport kernel call.input.runId call.actor s.world).2
        rw [hrun]
      cases r with
      | ok u => exact hcalls
      | error e => exact hcalls

theorem startRead_calls :
    CallsOnce kernel s.world (s.startRead id kernel artifactId actor).world := by
  have hdb := @queryArtifact_db kernel artifactId actor s.world
  unfold ReportHost.startRead
  cases hrun : queryArtifact kernel artifactId actor s.world with
  | mk r w =>
      rw [hrun] at hdb
      cases r with
      | ok artifact => exact .inl hdb
      | error e => exact .inl hdb

theorem recheck_calls {artifact : ArtifactView} {content : Bytes} :
    CallsOnce kernel s.world (s.recheck id kernel artifactId actor artifact content).world := by
  have hdb := @queryArtifact_db kernel artifactId actor s.world
  unfold ReportHost.recheck
  cases hrun : queryArtifact kernel artifactId actor s.world with
  | mk r w =>
      rw [hrun] at hdb
      cases r with
      | ok view => exact .inl hdb
      | error e => exact .inl hdb

/-- An event that is not the last step of a report. -/
theorem reportStep_calls {event : ReportEvent} (h : reportStep kernel sha256 event s = some s')
    (hother : ∀ id, event ≠ .publish id) : CallsOnce kernel s.world s'.world := by
  cases event with
  | kernel kernelCall =>
      simp only [reportStep, Option.ite_none_left_eq_some] at h
      obtain ⟨hpublish, h⟩ := h
      cases h
      exact .inr ⟨kernelCall, Bool.eq_false_iff.mpr hpublish, rfl⟩
  | finalizeReport id' call =>
      simp only [reportStep, Option.ite_none_right_eq_some] at h
      obtain ⟨-, h⟩ := h
      cases h
      exact startReport_calls
  | chunk id' chunk =>
      simp only [reportStep] at h
      split at h
      · cases h
        exact .inl rfl
      · cases h
  | collected id' =>
      simp only [reportStep] at h
      split at h
      · cases h
        exact putContent_calls
      · cases h
  | put id' event =>
      simp only [reportStep] at h
      split at h
      · simp only [Option.map_eq_some_iff] at h
        obtain ⟨next, -, rfl⟩ := h
        exact .inl rfl
      · cases h
  | publish id' => exact absurd rfl (hother id')
  | failReport id' =>
      simp only [reportStep] at h
      split at h
      · cases h
        exact .inl rfl
      · cases h
  | readArtifact id' artifactId actor =>
      simp only [reportStep, Option.ite_none_right_eq_some] at h
      obtain ⟨-, h⟩ := h
      cases h
      exact startRead_calls
  | read id' event =>
      simp only [reportStep] at h
      split at h
      · simp only [Option.map_eq_some_iff] at h
        obtain ⟨phase', -, rfl⟩ := h
        exact .inl rfl
      · cases h
  | recheck id' =>
      simp only [reportStep] at h
      split at h
      · cases h
        exact recheck_calls
      · cases h
  | failRead id' =>
      simp only [reportStep] at h
      split at h
      · cases h
      · cases h
        exact .inl rfl
      · cases h
  | crash =>
      cases h
      exact .inr ⟨.restart, rfl, rfl⟩

theorem CallsOnce.sameArtifacts {w w' : World} (h : CallsOnce kernel w w') :
    SameArtifacts w w' := by
  obtain hsame | ⟨kernelCall, hother, rfl⟩ := h
  · exact congrArg Database.artifactFacts hsame
  · obtain hsame | ⟨_, _, _, _, rfl, -⟩ := step_artifacts kernel kernelCall w
    · exact hsame
    · cases hother

/-- Only the last step of a report adds a row. -/
theorem reportStep_adds {event : ReportEvent} (h : reportStep kernel sha256 event s = some s')
    (hadds : ¬ SameArtifacts s.world s'.world) :
    ∃ id call content, event = .publish id ∧
      s.finalizers id = some ⟨call, .publishing content⟩ ∧
      PublishesRow kernel call.input (ReportHost.content sha256 content) call.actor s.world
        s'.world := by
  by_cases hother : ∀ id, event ≠ .publish id
  · exact absurd (reportStep_calls h hother).sameArtifacts hadds
  · push Not at hother
    obtain ⟨id, rfl⟩ := hother
    simp only [reportStep] at h
    split at h
    · rename_i call content hf
      cases h
      refine ⟨id, call, content, rfl, hf, ?_⟩
      obtain hsame | hadded := publishReport_outcome kernel call.input
        (ReportHost.content sha256 content) call.actor call.operationContext s.world
      · exact absurd hsame hadds
      · exact hadded
    · cases h

/-- A report of the principal for the Run under the key. -/
def ReportCall.isFor (principalId runId idempotencyKey : String) (call : ReportCall) : Prop :=
  call.actor.principalId = principalId ∧ call.input.runId = runId ∧
    call.input.idempotencyKey = idempotencyKey

/-- The event of a call of `finalizeReport` for the key adds the row of an Artifact. -/
def AddsReport (kernel : KernelContext) (sha256 : Bytes → String)
    (principalId runId idempotencyKey : String) (s s' : ReportHost) : Prop :=
  ∃ id call content, s.finalizers id = some ⟨call, .publishing content⟩ ∧
    call.isFor principalId runId idempotencyKey ∧
    reportStep kernel sha256 (.publish id) s = some s' ∧ ¬ SameArtifacts s.world s'.world

/-- Once a row is added for a key, no later report for it adds one. -/
theorem addsReport_once {principalId runId idempotencyKey : String} {t t' : ReportHost}
    (hinv : HostInv sha256 s)
    (hadds : AddsReport kernel sha256 principalId runId idempotencyKey s s')
    (hrun : Interleaves kernel sha256 s' t) :
    ¬ AddsReport kernel sha256 principalId runId idempotencyKey t t' := by
  intro hadds'
  obtain ⟨id, call, content, hf, hfor, hstep, hnew⟩ := hadds
  obtain ⟨id', call', content', hf', hfor', hstep', hnew'⟩ := hadds'
  obtain ⟨_, _, _, hevent, hf₁, hfirst⟩ := reportStep_adds hstep hnew
  cases hevent
  rw [hf] at hf₁
  cases hf₁
  obtain ⟨_, _, _, hevent', hf₂, hsecond⟩ := reportStep_adds hstep' hnew'
  cases hevent'
  rw [hf'] at hf₂
  cases hf₂
  have hlater := (hinv.run (.step hstep)).1.run hrun
  have hrecorded := hlater.2.reports.recorded _ _ hfirst.recorded
  apply hsecond.fresh
  rw [hfor'.1, ← hfor.1]
  exact hrecorded.sameReport (hfor'.2.1.trans hfor.2.1.symm) (hfor'.2.2.trans hfor.2.2.symm)

/-- What holds of the Artifacts of a host that started at `s₀` and is at `s`. -/
structure ArtifactIntegrity (kernel : KernelContext) (sha256 : Bytes → String)
    (s₀ s : ReportHost) : Prop where
  stored : ∀ facts ∈ s.world.db.artifactFacts, facts.Stored sha256 s.files
  whole : ∀ hex inode, s.files.published hex = some inode →
    digestHex (artifactDigest sha256 (s.files.contents inode)) = some hex
  kept : ∀ t, Interleaves kernel sha256 s t → s.files.Keeps t.files
  added : ∀ event t, reportStep kernel sha256 event s = some t →
    SameArtifacts s.world t.world ∨ ∃ principalId runId idempotencyKey,
      AddsReport kernel sha256 principalId runId idempotencyKey s t ∧
      ∃ facts, t.world.db.artifactFacts = s.world.db.artifactFacts ++ [facts]
  once : ∀ principalId runId idempotencyKey s' t t',
    AddsReport kernel sha256 principalId runId idempotencyKey s s' →
    Interleaves kernel sha256 s' t →
    ¬ AddsReport kernel sha256 principalId runId idempotencyKey t t'
  returned : ∀ id artifactId actor artifact content,
    s.readers id = some ⟨artifactId, actor, .returned artifact content⟩ →
    artifact.Matches sha256 content ∧
      ⟨artifact.id, artifact.contentDigest, artifact.byteLength⟩ ∈ s.world.db.artifactFacts ∧
      ReadInside kernel sha256 s₀ s id artifactId actor artifact content

end Runs

/-! ## A report that is read back -/

/-- The hash of the two bytes of the report. -/
def greetingHash (_ : Bytes) : String :=
  "3639efcd08abb273b1619e82e78c29a7df02c1051b1820e99fc395dcaa3326b8"

/-- The calls up to `activatedWorld`. -/
def activationCalls : List KernelCall :=
  [threadCall, claimAttentionCall, startHandlerCall, createRunCall,
    asRuntime (.ClaimOutboxEvents
      { idempotencyKey := "claim-1", limit := some 1, leaseDurationMs := 30000 }),
    asRuntime (.AcknowledgeOutboxEvents
      { idempotencyKey := "acknowledge"
        outboxEventIds := [issuedId 7]
        leaseToken := issuedId 21 }),
    asRuntime (.ClaimOutboxEvents
      { idempotencyKey := "claim-2", limit := some 1, leaseDurationMs := 30000 }),
    asRuntime (.StartActivation
      { idempotencyKey := "activate"
        runId := some (issuedId 15)
        expectedRunRevision := some 1
        outboxEventId := some (issuedId 19)
        outboxLeaseToken := some (issuedId 24) })]

/-- The Agent reports two bytes, the process ends, and the Human reads them. -/
def reportEvents : List ReportEvent :=
  activationCalls.map .kernel ++
  [.finalizeReport 0
    { input := { runId := issuedId 15, expectedRunRevision := 1, idempotencyKey := "report" }
      actor := { principalId := "agent", activationId := some (issuedId 26) }
      operationContext := none },
    .chunk 0 [72, 105], .collected 0, .put 0 (.create "temporary"), .put 0 (.write 2),
    .put 0 .finish, .put 0 .link, .put 0 (.read .lstat), .put 0 (.read .open'),
    .put 0 (.read .stat), .put 0 (.read (.fill 2)), .put 0 (.read .verify), .put 0 .flush,
    .put 0 .unlink, .publish 0, .crash,
    .readArtifact 0 (issuedId 29) { principalId := "human" }, .read 0 .lstat, .read 0 .open',
    .read 0 .stat, .read 0 (.fill 2), .read 0 .verify, .recheck 0]

def reportedHost : ReportHost :=
  (((reportStep countingKernel greetingHash).guarded fun _ _ => True).play reportEvents
    (ReportHost.start smallWorld FileSystem.empty)).getD (ReportHost.start smallWorld .empty)

theorem reportedHost_runs : Interleaves countingKernel greetingHash
    (ReportHost.start smallWorld FileSystem.empty) reportedHost := by
  have hplays : (((reportStep countingKernel greetingHash).guarded fun _ _ => True).play
      reportEvents (ReportHost.start smallWorld FileSystem.empty)).isSome = true := by
    decide +kernel
  apply Machine.Runs.of_play reportEvents
  obtain ⟨host, hhost⟩ := Option.isSome_iff_exists.mp hplays
  rw [reportedHost, hhost]
  rfl

example : (reportedHost.readers 0).map (fun r => match r.phase with
    | .returned _ content => content
    | _ => []) = some [72, 105] := by decide +kernel

end Torsor.Kernel
