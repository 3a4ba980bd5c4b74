import Torsor.AcpConformance.Wire
import Torsor.AgentRuntime.NdjsonFraming

/-! # Frames of an observed provider

`Wire` cuts the standard output of the provider as `NdjsonRpcConnection` does, except that it
also hands on empty frames. Neither depends on the chunks in which the output arrives.
-/

namespace Torsor.AcpConformance
open Torsor.Library Torsor.AgentRuntime

/-- The limits of an observer, and what it does with a frame: `observe` parses it, observes the
message and passes the frame on; it may refuse the frame. -/
structure WireFrames (σ : Type) where
  frameBytes : Nat
  stdoutBytes : Nat
  observe : σ → List UInt8 → σ × Option HarnessError
  /-- Whether a request of the client is outstanding. -/
  outstanding : σ → Bool

/-- The observer of the output; `error` is that of the process it belongs to. -/
structure WireStdout (σ : Type) where
  ended : Bool
  error : Option HarnessError
  buffer : List UInt8
  bytes : Nat
  state : σ

namespace WireStdout

variable {σ : Type} (c : WireFrames σ)

def start (state : σ) : WireStdout σ := ⟨false, none, [], 0, state⟩

/-- `owned.fail` keeps the first error. -/
def fail (s : WireStdout σ) (error : HarnessError) : WireStdout σ :=
  match s.error with
  | some _ => s
  | none => { s with error := some error }

def stdoutLimit : HarnessError := ⟨"stdout_limit", "Provider stdout exceeded its byte budget."⟩

def frameLimit : HarnessError := ⟨"frame_limit", "Provider frame exceeded its byte budget."⟩

def partialFrame : HarnessError :=
  ⟨"partial_frame", "Provider stdout ended with an unterminated frame."⟩

def stdoutClosed : HarnessError :=
  ⟨"stdout_closed", "Provider stdout closed with an outstanding client request."⟩

/-- The loop of the handler. -/
def observeFrames (buffer : List UInt8) (s : WireStdout σ) : WireStdout σ :=
  match _hfirst : Framing.firstFrame newline buffer with
  | none =>
      if c.frameBytes < buffer.length then { s with buffer }.fail frameLimit
      else { s with buffer }
  | some (frame, rest) =>
      if c.frameBytes < frame.length then { s with buffer }.fail frameLimit
      else
        match c.observe s.state frame with
        | (state, some error) => { s with buffer := rest, state }.fail error
        | (state, none) => observeFrames rest { s with state }
termination_by buffer.length
decreasing_by all_goals exact Framing.firstFrame_length ‹_›

/-- `owned.stdout.on("data", ...)`. -/
def receive (s : WireStdout σ) (chunk : List UInt8) : WireStdout σ :=
  if s.ended ∨ s.error.isSome then s
  else
    let counted := { s with bytes := s.bytes + chunk.length }
    if c.stdoutBytes < counted.bytes then counted.fail stdoutLimit
    else observeFrames c (s.buffer ++ chunk) counted

/-- `owned.stdoutEnded.then(...)`. -/
def stdoutEnded (s : WireStdout σ) : WireStdout σ :=
  if s.ended then s
  else if 0 < s.buffer.length then { s with ended := true }.fail partialFrame
  else if c.outstanding s.state then { s with ended := true }.fail stdoutClosed
  else { s with ended := true }

/-! ## The frames are those of the stream -/

def framing : Framing UInt8 σ HarnessError where
  separator := newline
  frameLimit := c.frameBytes
  frameTooLong := frameLimit
  dropsEmpty := false
  handle := c.observe

def progress (s : WireStdout σ) : Framing.Progress UInt8 σ HarnessError :=
  match s.error with
  | some error => .failed s.state error
  | none => .waiting s.state s.buffer

variable {c} {s : WireStdout σ}

theorem observeFrames_progress (buffer : List UInt8) (hopen : s.error = none) :
    (observeFrames c buffer s).progress = (framing c).drain buffer s.state := by
  have hkept : ∀ {frame : List UInt8}, ¬ (frame = [] ∧ (framing c).dropsEmpty = true) :=
    fun h => nomatch h.2
  fun_induction observeFrames c buffer s with
  | case1 buffer s hfirst hlong =>
      have hlong : (framing c).frameLimit < buffer.length := hlong
      rw [Framing.drain_none hfirst, if_pos hlong]
      simp [fail, hopen, progress, framing]
  | case2 buffer s hfirst hshort =>
      have hshort : ¬ (framing c).frameLimit < buffer.length := hshort
      rw [Framing.drain_none hfirst, if_neg hshort]
      simp [progress, hopen]
  | case3 buffer s frame rest hfirst hlong =>
      have hlong : (framing c).frameLimit < frame.length := hlong
      rw [Framing.drain_some hfirst, if_neg hkept, if_pos hlong]
      simp [fail, hopen, progress, framing]
  | case4 buffer s frame rest hfirst hshort state error hhandle =>
      have hshort : ¬ (framing c).frameLimit < frame.length := hshort
      have hhandle : (framing c).handle s.state frame = (state, some error) := hhandle
      rw [Framing.drain_some hfirst, if_neg hkept, if_neg hshort, hhandle]
      simp [fail, hopen, progress]
  | case5 buffer s frame rest hfirst hshort state hhandle ih =>
      have hshort : ¬ (framing c).frameLimit < frame.length := hshort
      have hhandle : (framing c).handle s.state frame = (state, none) := hhandle
      rw [Framing.drain_some hfirst, if_neg hkept, if_neg hshort, hhandle]
      exact ih hopen

/-- What frames do not change. -/
theorem observeFrames_counters (buffer : List UInt8) :
    (observeFrames c buffer s).ended = s.ended ∧ (observeFrames c buffer s).bytes = s.bytes := by
  have hfail : ∀ (t : WireStdout σ) error,
      (t.fail error).ended = t.ended ∧ (t.fail error).bytes = t.bytes := by
    intro t error
    unfold fail
    split <;> exact ⟨rfl, rfl⟩
  fun_induction observeFrames c buffer s with
  | case1 buffer s hfirst hlong => exact hfail _ _
  | case2 buffer s hfirst hshort => exact ⟨rfl, rfl⟩
  | case3 buffer s frame rest hfirst hlong => exact hfail _ _
  | case4 buffer s frame rest hfirst hshort state error hhandle => exact hfail _ _
  | case5 buffer s frame rest hfirst hshort state hhandle ih => exact ih

/-- What has been counted is what has arrived, while the observer has not failed. -/
def Counted (c : WireFrames σ) (s : WireStdout σ) (left : Nat) : Prop :=
  s.ended = false ∧ (s.error = none → s.bytes + left ≤ c.stdoutBytes)

theorem receive_failed {error : HarnessError} (h : s.error = some error) (chunk : List UInt8) :
    receive c s chunk = s := by
  rw [receive, if_pos (.inr (by rw [h]; rfl))]

theorem receive_open {chunk : List UInt8} {left : Nat} (h : s.error = none)
    (hcounted : Counted c s (chunk.length + left)) :
    receive c s chunk = observeFrames c (s.buffer ++ chunk)
      { s with bytes := s.bytes + chunk.length } := by
  have hsum := hcounted.2 h
  have hwithin : ¬ c.stdoutBytes < s.bytes + chunk.length := by omega
  have hgoes : ¬ (s.ended = true ∨ s.error.isSome = true) := by
    rw [h, hcounted.1]
    simp
  rw [receive, if_neg hgoes]
  exact if_neg hwithin

/-- A chunk within the limit is received as the library says. -/
theorem receive_progress {chunk : List UInt8} {left : Nat}
    (hcounted : Counted c s (chunk.length + left)) :
    (receive c s chunk).progress = (framing c).receive s.progress chunk ∧
      Counted c (receive c s chunk) left := by
  obtain hfailed | ⟨error, hfailed⟩ := Option.eq_none_or_eq_some s.error
  · have hprogress : s.progress = .waiting s.state s.buffer := by rw [progress, hfailed]
    rw [receive_open hfailed hcounted]
    refine ⟨?_, ?_⟩
    · have hcounts : ({ s with bytes := s.bytes + chunk.length } : WireStdout σ).error = none :=
        hfailed
      rw [observeFrames_progress _ hcounts, hprogress]
      rfl
    · obtain ⟨hended, hbytes⟩ := observeFrames_counters (c := c)
        (s := { s with bytes := s.bytes + chunk.length }) (s.buffer ++ chunk)
      refine ⟨hended.trans hcounted.1, fun _ => ?_⟩
      have hsum := hcounted.2 hfailed
      rw [hbytes]
      show s.bytes + chunk.length + left ≤ c.stdoutBytes
      omega
  · have hprogress : s.progress = .failed s.state error := by rw [progress, hfailed]
    rw [receive_failed hfailed, hprogress]
    refine ⟨rfl, hcounted.1, fun hnone => ?_⟩
    rw [hfailed] at hnone
    cases hnone

theorem foldl_receive (chunks : List (List UInt8)) (hcounted : Counted c s chunks.flatten.length) :
    (chunks.foldl (receive c) s).progress = chunks.foldl (framing c).receive s.progress ∧
      (chunks.foldl (receive c) s).ended = false := by
  induction chunks generalizing s with
  | nil => exact ⟨rfl, hcounted.1⟩
  | cons chunk chunks ih =>
      rw [List.flatten_cons, List.length_append] at hcounted
      obtain ⟨hone, hleft⟩ := receive_progress hcounted
      rw [List.foldl_cons, List.foldl_cons, ← hone]
      exact ih hleft

/-- However the output is cut into chunks, the observer ends as if it had come at once. -/
theorem receive_chunks (chunks : List (List UInt8)) (state : σ)
    (hlimit : chunks.flatten.length ≤ c.stdoutBytes) :
    (chunks.foldl (receive c) (start state)).progress =
        .ofWhole (framing c) chunks.flatten state ∧
      (chunks.foldl (receive c) (start state)).ended = false := by
  have hcounted : Counted c (start state : WireStdout σ) chunks.flatten.length :=
    ⟨rfl, fun _ => by simpa [start] using hlimit⟩
  obtain ⟨hprogress, hended⟩ := foldl_receive chunks hcounted
  refine ⟨?_, hended⟩
  rw [hprogress]
  exact Framing.foldl_receive chunks state

/-- At the end of the output the observer reports an incomplete frame. -/
def ReportsIncomplete (c : WireFrames σ) (s : WireStdout σ) : Prop :=
  s.error = none ∧ (s.stdoutEnded c).error = some partialFrame

theorem reportsIncomplete_iff (hended : s.ended = false) :
    ReportsIncomplete c s ↔ s.error = none ∧ s.buffer ≠ [] := by
  constructor
  · rintro ⟨hopen, hreport⟩
    refine ⟨hopen, fun hempty => ?_⟩
    rw [stdoutEnded, hended, hempty] at hreport
    by_cases houtstanding : c.outstanding s.state = true
    · simp [houtstanding, fail, hopen, stdoutClosed, partialFrame] at hreport
    · simp [houtstanding, hopen] at hreport
  · rintro ⟨hopen, hbuffer⟩
    refine ⟨hopen, ?_⟩
    rw [stdoutEnded, hended, if_neg (by rintro ⟨⟩), if_pos (List.length_pos_iff.mpr hbuffer)]
    simp [fail, hopen]

end WireStdout

/-! ## Both receivers -/

/-- What a receiver has done with a stream: it is where the one-shot splitter of the stream is,
and reports an incomplete frame exactly when it has not failed and something follows the last
separator. -/
structure FramesWhole {σ ε : Type} (r : Framing UInt8 σ ε) (stream : List UInt8) (state₀ state : σ)
    (failed : Option ε) (incomplete : Prop) : Prop where
  outcome : (state, failed) = r.receiveWhole stream state₀
  incomplete_iff : incomplete ↔
    failed = none ∧ stream ≠ [] ∧ stream.getLast? ≠ some newline

theorem FramesWhole.of_progress {σ ε : Type} {r : Framing UInt8 σ ε} {stream buffer : List UInt8}
    {state₀ state : σ} {failed : Option ε} {incomplete : Prop}
    {progress : Framing.Progress UInt8 σ ε} (hseparator : r.separator = newline)
    (hprogress : progress = .ofWhole r stream state₀)
    (hfailed : ∀ error, failed = some error → progress = .failed state error)
    (hwaiting : failed = none → progress = .waiting state buffer)
    (hincomplete : incomplete ↔ failed = none ∧ buffer ≠ []) :
    FramesWhole r stream state₀ state failed incomplete := by
  unfold Framing.Progress.ofWhole at hprogress
  cases hwhole : r.receiveWhole stream state₀ with
  | mk state' failed' =>
      rw [hwhole] at hprogress
      cases failed with
      | some error =>
          rw [hfailed error rfl] at hprogress
          cases failed' with
          | none => cases hprogress
          | some error' =>
              cases hprogress
              exact ⟨hwhole.symm, by rw [hincomplete]; simp⟩
      | none =>
          rw [hwaiting rfl] at hprogress
          cases failed' with
          | some error' => cases hprogress
          | none =>
              simp only [Framing.Progress.waiting.injEq] at hprogress
              obtain ⟨rfl, rfl⟩ := hprogress
              refine ⟨hwhole.symm, ?_⟩
              rw [hincomplete, ne_eq, Framing.split_tail_eq_nil, hseparator, not_or]

/-- For both receivers and every way of cutting a stream within the limit into chunks, the
frames handed on, the failure and the report of an incomplete frame are those of the whole
stream. -/
structure ChunkFree {σ ε τ : Type} (connection : ConnectionFrames σ ε) (wire : WireFrames τ)
    (state₀ : σ) (observed₀ : τ) (chunks : List (List UInt8)) : Prop where
  connection : chunks.flatten.length ≤ connection.maxStdoutBytes →
    let s := chunks.foldl (NdjsonRpcConnection.receiveChunk connection) (.start state₀)
    FramesWhole (NdjsonRpcConnection.framing connection) chunks.flatten state₀ s.state s.failed
      (s.ReportsIncomplete connection)
  wire : chunks.flatten.length ≤ wire.stdoutBytes →
    let s := chunks.foldl (WireStdout.receive wire) (.start observed₀)
    FramesWhole (WireStdout.framing wire) chunks.flatten observed₀ s.state s.error
      (s.ReportsIncomplete wire)

theorem framing_chunkFree {σ ε τ : Type} (connection : ConnectionFrames σ ε) (wire : WireFrames τ)
    (state₀ : σ) (observed₀ : τ) (chunks : List (List UInt8)) :
    ChunkFree connection wire state₀ observed₀ chunks := by
  refine ⟨fun hlimit => ?_, fun hlimit => ?_⟩
  · have hprogress := NdjsonRpcConnection.receive_chunks (c := connection) chunks state₀ hlimit
    refine .of_progress rfl hprogress (fun error herror => ?_) (fun hnone => ?_)
      NdjsonRpcConnection.reportsIncomplete_iff
    · rw [NdjsonRpcConnection.progress, herror]
    · rw [NdjsonRpcConnection.progress, hnone]
  · obtain ⟨hprogress, hended⟩ := WireStdout.receive_chunks (c := wire) chunks observed₀ hlimit
    refine .of_progress rfl hprogress (fun error herror => ?_) (fun hnone => ?_)
      (WireStdout.reportsIncomplete_iff hended)
    · rw [WireStdout.progress, herror]
    · rw [WireStdout.progress, hnone]

/-- A connection that accepts every frame. -/
def lenientConnection : ConnectionFrames Unit Unit := ⟨8, 64, (), (), fun _ _ => ((), none)⟩

/-- An empty stream does not end with a separator, and no incomplete frame is reported. -/
theorem empty_stream_complete :
    ([] : List UInt8).getLast? ≠ some newline ∧
      ¬ (NdjsonRpcConnection.start () : NdjsonRpcConnection Unit Unit).ReportsIncomplete
        lenientConnection := by
  refine ⟨by decide, fun hreports => ?_⟩
  exact (NdjsonRpcConnection.reportsIncomplete_iff.mp hreports).2 rfl

end Torsor.AcpConformance
