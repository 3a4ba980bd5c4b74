import Torsor.Library.Framing

/-! # Frames of a provider's output

`NdjsonRpcConnection` cuts the standard output of a provider into frames, however it arrives,
and fails at the first frame that is too long or that its handler refuses.
-/

namespace Torsor.AgentRuntime
open Torsor.Library

/-- `0x0a`. -/
def newline : UInt8 := 0x0a

/-- The limits of a connection, the errors it raises and what it does with a frame:
`receiveFrame` changes the rest of the connection, `σ`, and may throw. -/
structure ConnectionFrames (σ ε : Type) where
  maxFrameBytes : Nat
  maxStdoutBytes : Nat
  outputLimit : ε
  incompleteFrame : ε
  receiveFrame : σ → List UInt8 → σ × Option ε

structure NdjsonRpcConnection (σ ε : Type) where
  closed : Bool
  failed : Option ε
  buffer : List UInt8
  stdoutBytes : Nat
  state : σ

namespace NdjsonRpcConnection

variable {σ ε : Type} (c : ConnectionFrames σ ε)

def start (state : σ) : NdjsonRpcConnection σ ε := ⟨false, none, [], 0, state⟩

/-- `fail` keeps the first error. -/
def fail (s : NdjsonRpcConnection σ ε) (error : ε) : NdjsonRpcConnection σ ε :=
  match s.failed with
  | some _ => s
  | none => { s with failed := some error }

/-- The loop of `#receiveChunk`. -/
def receiveFrames (buffer : List UInt8) (s : NdjsonRpcConnection σ ε) : NdjsonRpcConnection σ ε :=
  match _hfirst : Framing.firstFrame newline buffer with
  | none =>
      if c.maxFrameBytes < buffer.length then { s with buffer }.fail c.outputLimit
      else { s with buffer }
  | some (frame, rest) =>
      if frame.length = 0 then receiveFrames rest s
      else if c.maxFrameBytes < frame.length then { s with buffer := rest }.fail c.outputLimit
      else
        match c.receiveFrame s.state frame with
        | (state, some error) => { s with buffer := rest, state }.fail error
        | (state, none) => receiveFrames rest { s with state }
termination_by buffer.length
decreasing_by all_goals exact Framing.firstFrame_length ‹_›

/-- `#receiveChunk`, with what `fail` makes of an error it throws. -/
def receiveChunk (s : NdjsonRpcConnection σ ε) (chunk : List UInt8) : NdjsonRpcConnection σ ε :=
  if s.closed ∨ s.failed.isSome then s
  else if c.maxStdoutBytes - s.stdoutBytes < chunk.length then s.fail c.outputLimit
  else receiveFrames c (s.buffer ++ chunk) { s with stdoutBytes := s.stdoutBytes + chunk.length }

/-- `seal`, at the end of the output. -/
def «seal» (s : NdjsonRpcConnection σ ε) : Except ε Unit :=
  match s.failed with
  | some error => .error error
  | none => if 0 < s.buffer.length then .error c.incompleteFrame else .ok ()

/-! ## The frames are those of the stream -/

/-- The connection as a receiver of frames. -/
def framing : Framing UInt8 σ ε where
  separator := newline
  frameLimit := c.maxFrameBytes
  frameTooLong := c.outputLimit
  dropsEmpty := true
  handle := c.receiveFrame

def progress (s : NdjsonRpcConnection σ ε) : Framing.Progress UInt8 σ ε :=
  match s.failed with
  | some error => .failed s.state error
  | none => .waiting s.state s.buffer

variable {c} {s : NdjsonRpcConnection σ ε}

theorem receiveFrames_progress (buffer : List UInt8) (hopen : s.failed = none) :
    (receiveFrames c buffer s).progress = (framing c).drain buffer s.state := by
  have hkept : ∀ {frame : List UInt8}, ¬ frame.length = 0 →
      ¬ (frame = [] ∧ (framing c).dropsEmpty = true) := fun hempty h =>
    hempty (List.length_eq_zero_iff.mpr h.1)
  fun_induction receiveFrames c buffer s with
  | case1 buffer s hfirst hlong =>
      have hlong : (framing c).frameLimit < buffer.length := hlong
      rw [Framing.drain_none hfirst, if_pos hlong]
      simp [fail, hopen, progress, framing]
  | case2 buffer s hfirst hshort =>
      have hshort : ¬ (framing c).frameLimit < buffer.length := hshort
      rw [Framing.drain_none hfirst, if_neg hshort]
      simp [progress, hopen]
  | case3 buffer s frame rest hfirst hempty ih =>
      rw [Framing.drain_some hfirst, if_pos ⟨List.eq_nil_of_length_eq_zero hempty, rfl⟩]
      exact ih hopen
  | case4 buffer s frame rest hfirst hempty hlong =>
      have hlong : (framing c).frameLimit < frame.length := hlong
      rw [Framing.drain_some hfirst, if_neg (hkept hempty), if_pos hlong]
      simp [fail, hopen, progress, framing]
  | case5 buffer s frame rest hfirst hempty hshort state error hhandle =>
      have hshort : ¬ (framing c).frameLimit < frame.length := hshort
      have hhandle : (framing c).handle s.state frame = (state, some error) := hhandle
      rw [Framing.drain_some hfirst, if_neg (hkept hempty), if_neg hshort, hhandle]
      simp [fail, hopen, progress]
  | case6 buffer s frame rest hfirst hempty hshort state hhandle ih =>
      have hshort : ¬ (framing c).frameLimit < frame.length := hshort
      have hhandle : (framing c).handle s.state frame = (state, none) := hhandle
      rw [Framing.drain_some hfirst, if_neg (hkept hempty), if_neg hshort, hhandle]
      exact ih hopen

/-- What frames do not change. -/
theorem receiveFrames_counters (buffer : List UInt8) :
    (receiveFrames c buffer s).closed = s.closed ∧
      (receiveFrames c buffer s).stdoutBytes = s.stdoutBytes := by
  have hfail : ∀ (t : NdjsonRpcConnection σ ε) error,
      (t.fail error).closed = t.closed ∧ (t.fail error).stdoutBytes = t.stdoutBytes := by
    intro t error
    unfold fail
    split <;> exact ⟨rfl, rfl⟩
  fun_induction receiveFrames c buffer s with
  | case1 buffer s hfirst hlong => exact hfail _ _
  | case2 buffer s hfirst hlong => exact ⟨rfl, rfl⟩
  | case3 buffer s frame rest hfirst hempty ih => exact ih
  | case4 buffer s frame rest hfirst hempty hlong => exact hfail _ _
  | case5 buffer s frame rest hfirst hempty hlong state error hhandle => exact hfail _ _
  | case6 buffer s frame rest hfirst hempty hlong state hhandle ih => exact ih

/-- What has been counted is what has arrived, while the connection has not failed. -/
def Counted (c : ConnectionFrames σ ε) (s : NdjsonRpcConnection σ ε) (left : Nat) : Prop :=
  s.closed = false ∧ (s.failed = none → s.stdoutBytes + left ≤ c.maxStdoutBytes)

theorem receiveChunk_failed {error : ε} (h : s.failed = some error) (chunk : List UInt8) :
    receiveChunk c s chunk = s := by
  rw [receiveChunk, if_pos (.inr (by rw [h]; rfl))]

theorem receiveChunk_open {chunk : List UInt8} {left : Nat} (h : s.failed = none)
    (hcounted : Counted c s (chunk.length + left)) :
    receiveChunk c s chunk = receiveFrames c (s.buffer ++ chunk)
      { s with stdoutBytes := s.stdoutBytes + chunk.length } := by
  have hsum := hcounted.2 h
  have hwithin : ¬ c.maxStdoutBytes - s.stdoutBytes < chunk.length := by omega
  have hgoes : ¬ (s.closed = true ∨ s.failed.isSome = true) := by
    rw [h, hcounted.1]
    simp
  rw [receiveChunk, if_neg hgoes, if_neg hwithin]

/-- A chunk within the limit is received as the library says. -/
theorem receiveChunk_progress {chunk : List UInt8} {left : Nat}
    (hcounted : Counted c s (chunk.length + left)) :
    (receiveChunk c s chunk).progress = (framing c).receive s.progress chunk ∧
      Counted c (receiveChunk c s chunk) left := by
  obtain hfailed | ⟨error, hfailed⟩ := Option.eq_none_or_eq_some s.failed
  · have hprogress : s.progress = .waiting s.state s.buffer := by rw [progress, hfailed]
    rw [receiveChunk_open hfailed hcounted]
    refine ⟨?_, ?_⟩
    · have hcounts : ({ s with stdoutBytes := s.stdoutBytes + chunk.length } :
          NdjsonRpcConnection σ ε).failed = none := hfailed
      rw [receiveFrames_progress _ hcounts, hprogress]
      rfl
    · obtain ⟨hclosed, hbytes⟩ := receiveFrames_counters (c := c)
        (s := { s with stdoutBytes := s.stdoutBytes + chunk.length }) (s.buffer ++ chunk)
      refine ⟨hclosed.trans hcounted.1, fun _ => ?_⟩
      have hsum := hcounted.2 hfailed
      rw [hbytes]
      show s.stdoutBytes + chunk.length + left ≤ c.maxStdoutBytes
      omega
  · have hprogress : s.progress = .failed s.state error := by rw [progress, hfailed]
    rw [receiveChunk_failed hfailed, hprogress]
    refine ⟨rfl, hcounted.1, fun hnone => ?_⟩
    rw [hfailed] at hnone
    cases hnone

theorem foldl_receiveChunk (chunks : List (List UInt8))
    (hcounted : Counted c s chunks.flatten.length) :
    (chunks.foldl (receiveChunk c) s).progress =
      chunks.foldl (framing c).receive s.progress := by
  induction chunks generalizing s with
  | nil => rfl
  | cons chunk chunks ih =>
      rw [List.flatten_cons, List.length_append] at hcounted
      obtain ⟨hone, hleft⟩ := receiveChunk_progress hcounted
      rw [List.foldl_cons, List.foldl_cons, ← hone]
      exact ih hleft

/-- However the output is cut into chunks, the connection ends as if it had come at once. -/
theorem receive_chunks (chunks : List (List UInt8)) (state : σ)
    (hlimit : chunks.flatten.length ≤ c.maxStdoutBytes) :
    (chunks.foldl (receiveChunk c) (start state)).progress =
      .ofWhole (framing c) chunks.flatten state := by
  have hcounted : Counted c (start state : NdjsonRpcConnection σ ε) chunks.flatten.length :=
    ⟨rfl, fun _ => by simpa [start] using hlimit⟩
  rw [foldl_receiveChunk chunks hcounted]
  exact Framing.foldl_receive chunks state

/-- At the end of the output the connection reports an incomplete frame. -/
def ReportsIncomplete (c : ConnectionFrames σ ε) (s : NdjsonRpcConnection σ ε) : Prop :=
  s.failed = none ∧ s.seal c = .error c.incompleteFrame

theorem reportsIncomplete_iff :
    ReportsIncomplete c s ↔ s.failed = none ∧ s.buffer ≠ [] := by
  constructor
  · rintro ⟨hfailed, hseal⟩
    refine ⟨hfailed, fun hempty => ?_⟩
    simp [«seal», hfailed, hempty] at hseal
  · rintro ⟨hfailed, hbuffer⟩
    refine ⟨hfailed, ?_⟩
    rw [«seal», hfailed]
    exact if_pos (List.length_pos_iff.mpr hbuffer)

end NdjsonRpcConnection

end Torsor.AgentRuntime
