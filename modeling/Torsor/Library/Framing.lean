import Mathlib.Data.List.Basic

/-! # Frames of a stream

A stream is cut into frames at a separator, and every frame is handed to a handler that may
refuse it. A receiver gets the stream in chunks, keeps the part of a frame that has arrived, and
fails at the first frame that is too long or refused; what it does depends on the stream alone.
-/

namespace Torsor.Library

/-- How a receiver treats frames. A handler changes its state and may refuse the frame. -/
structure Framing (α σ ε : Type) where
  separator : α
  frameLimit : Nat
  frameTooLong : ε
  dropsEmpty : Bool
  handle : σ → List α → σ × Option ε

namespace Framing

variable {α σ ε : Type} [DecidableEq α]

/-! ## The whole stream -/

/-- The frames of a stream that are complete, and the rest. -/
def split (separator : α) : List α → List (List α) × List α
  | [] => ([], [])
  | c :: rest =>
      let (frames, tail) := split separator rest
      if c = separator then ([] :: frames, tail)
      else
        match frames with
        | [] => ([], c :: tail)
        | frame :: frames => ((c :: frame) :: frames, tail)

theorem split_separator (separator : α) (rest : List α) :
    split separator (separator :: rest) =
      ([] :: (split separator rest).1, (split separator rest).2) := by
  simp [split]

variable (r : Framing α σ ε)

/-- Hands on frames up to the first at which the receiver fails. -/
def deliver : List (List α) → σ → σ × Option ε
  | [], state => (state, none)
  | frame :: frames, state =>
      if frame = [] ∧ r.dropsEmpty then deliver frames state
      else if r.frameLimit < frame.length then (state, some r.frameTooLong)
      else
        match r.handle state frame with
        | (state, some error) => (state, some error)
        | (state, none) => deliver frames state

omit [DecidableEq α] in
theorem deliver_append {r : Framing α σ ε} {frames more : List (List α)} {state : σ} :
    r.deliver (frames ++ more) state =
      match r.deliver frames state with
      | (state, some error) => (state, some error)
      | (state, none) => r.deliver more state := by
  induction frames generalizing state with
  | nil => rfl
  | cons frame frames ih =>
      rw [List.cons_append, deliver, deliver]
      split
      · exact ih
      · split
        · rfl
        · split
          · rfl
          · exact ih

/-- What becomes of a stream that is received as a whole. -/
def receiveWhole (stream : List α) (state : σ) : σ × Option ε :=
  match r.deliver (split r.separator stream).1 state with
  | (state, some error) => (state, some error)
  | (state, none) =>
      if r.frameLimit < (split r.separator stream).2.length then (state, some r.frameTooLong)
      else (state, none)

/-! ## The buffer of a receiver -/

/-- The first complete frame, and what follows its separator. -/
def firstFrame (separator : α) : List α → Option (List α × List α)
  | [] => none
  | c :: rest =>
      if c = separator then some ([], rest)
      else (firstFrame separator rest).map fun (frame, rest) => (c :: frame, rest)

theorem firstFrame_length {separator : α} {buffer frame rest : List α}
    (h : firstFrame separator buffer = some (frame, rest)) : rest.length < buffer.length := by
  induction buffer generalizing frame rest with
  | nil => cases h
  | cons c buffer ih =>
      rw [firstFrame] at h
      split at h
      · cases h
        exact Nat.lt_succ_self _
      · obtain ⟨⟨frame', rest'⟩, hfirst, heq⟩ := Option.map_eq_some_iff.mp h
        cases heq
        exact Nat.lt_trans (ih hfirst) (Nat.lt_succ_self _)

/-- Whether a receiver still waits, and for which frame. -/
inductive Progress (α σ ε : Type) where
  | waiting (state : σ) (buffer : List α)
  | failed (state : σ) (error : ε)

/-- Takes frames out of the buffer until none is complete. -/
def drain (buffer : List α) (state : σ) : Progress α σ ε :=
  match _hfirst : firstFrame r.separator buffer with
  | none =>
      if r.frameLimit < buffer.length then .failed state r.frameTooLong
      else .waiting state buffer
  | some (frame, rest) =>
      if frame = [] ∧ r.dropsEmpty then drain rest state
      else if r.frameLimit < frame.length then .failed state r.frameTooLong
      else
        match r.handle state frame with
        | (state, some error) => .failed state error
        | (state, none) => drain rest state
termination_by buffer.length
decreasing_by all_goals exact firstFrame_length ‹_›

/-- One chunk, after which a receiver that has failed stays as it is. -/
def receive : Progress α σ ε → List α → Progress α σ ε
  | .waiting state buffer, chunk => r.drain (buffer ++ chunk) state
  | .failed state error, _ => .failed state error

section Drain

variable {r} {buffer frame rest : List α} {state : σ}

theorem drain_none (h : firstFrame r.separator buffer = none) :
    r.drain buffer state =
      if r.frameLimit < buffer.length then .failed state r.frameTooLong
      else .waiting state buffer := by
  rw [drain]
  split
  · rfl
  · rename_i hfirst
    rw [h] at hfirst
    cases hfirst

theorem drain_some (h : firstFrame r.separator buffer = some (frame, rest)) :
    r.drain buffer state =
      if frame = [] ∧ r.dropsEmpty then r.drain rest state
      else if r.frameLimit < frame.length then .failed state r.frameTooLong
      else
        match r.handle state frame with
        | (state, some error) => .failed state error
        | (state, none) => r.drain rest state := by
  rw [drain]
  split
  · rename_i hfirst
    rw [h] at hfirst
    cases hfirst
  · rename_i hfirst
    rw [h] at hfirst
    cases hfirst
    rfl

end Drain

/-! ## Splitting -/

variable {r} {separator : α} {state state' : σ} {error : ε}

theorem split_of_none {buffer : List α} (h : firstFrame separator buffer = none) :
    split separator buffer = ([], buffer) := by
  induction buffer with
  | nil => rfl
  | cons c buffer ih =>
      rw [firstFrame] at h
      split at h
      · cases h
      · rename_i hc
        rw [split, ih (Option.map_eq_none_iff.mp h)]
        simp [hc]

theorem split_of_some {buffer frame rest : List α}
    (h : firstFrame separator buffer = some (frame, rest)) :
    split separator buffer =
      (frame :: (split separator rest).1, (split separator rest).2) := by
  induction buffer generalizing frame with
  | nil => cases h
  | cons c buffer ih =>
      rw [firstFrame] at h
      split at h
      · rename_i hc
        cases h
        rw [hc, split_separator]
      · rename_i hc
        obtain ⟨⟨frame', rest'⟩, hfirst, heq⟩ := Option.map_eq_some_iff.mp h
        cases heq
        rw [split, ih hfirst]
        simp [hc]

/-- A longer stream has the same complete frames, and its rest is split after them. -/
theorem split_append (stream chunk : List α) :
    split separator (stream ++ chunk) =
      ((split separator stream).1 ++ (split separator ((split separator stream).2 ++ chunk)).1,
        (split separator ((split separator stream).2 ++ chunk)).2) := by
  induction stream with
  | nil => rfl
  | cons c stream ih =>
      rw [List.cons_append, split, ih]
      cases hsplit : split separator stream with
      | mk frames tail =>
          by_cases hc : c = separator
          · simp [split, hsplit, hc]
          · cases frames with
            | nil => simp [split, hsplit, hc]
            | cons frame frames => simp [split, hsplit, hc]

/-- What follows the last separator is not complete. -/
theorem firstFrame_tail (stream : List α) :
    firstFrame separator (split separator stream).2 = none := by
  induction stream with
  | nil => rfl
  | cons c stream ih =>
      rw [split]
      cases hsplit : split separator stream with
      | mk frames tail =>
          rw [hsplit] at ih
          by_cases hc : c = separator
          · simpa [hc] using ih
          · cases frames with
            | nil => simp [hc, firstFrame, ih]
            | cons frame frames => simpa [hc] using ih

/-- A rest that is not complete begins whatever frame it becomes part of. -/
theorem split_rest {tail : List α} (h : firstFrame separator tail = none) (chunk : List α) :
    (∃ more frames, (split separator (tail ++ chunk)).1 = (tail ++ more) :: frames) ∨
      ∃ more, split separator (tail ++ chunk) = ([], tail ++ more) := by
  induction tail with
  | nil =>
      cases hsplit : split separator chunk with
      | mk frames rest =>
          cases frames with
          | nil => exact .inr ⟨rest, hsplit⟩
          | cons frame frames => exact .inl ⟨frame, frames, by rw [List.nil_append, hsplit]; rfl⟩
  | cons c tail ih =>
      rw [firstFrame] at h
      split at h
      · cases h
      · rename_i hc
        rw [List.cons_append, split]
        obtain ⟨more, frames, hframes⟩ | ⟨more, hrest⟩ := ih (Option.map_eq_none_iff.mp h)
        · refine .inl ⟨more, frames, ?_⟩
          cases hsplit : split separator (tail ++ chunk) with
          | mk frames' rest =>
              rw [hsplit] at hframes
              simp [hc, show frames' = (tail ++ more) :: frames from hframes]
        · refine .inr ⟨more, ?_⟩
          rw [hrest]
          simp [hc]

theorem split_of_no_frame {stream : List α} (h : (split separator stream).1 = []) :
    (split separator stream).2 = stream := by
  induction stream with
  | nil => rfl
  | cons c stream ih =>
      rw [split] at h ⊢
      cases hsplit : split separator stream with
      | mk frames tail =>
          rw [hsplit] at h ih
          by_cases hc : c = separator
          · simp [hc] at h
          · cases frames with
            | nil => simpa [hc] using ih rfl
            | cons frame frames => simp [hc] at h

/-- Only an empty stream and one that ends with a separator have nothing after the last one. -/
theorem split_tail_eq_nil {stream : List α} :
    (split separator stream).2 = [] ↔ stream = [] ∨ stream.getLast? = some separator := by
  induction stream with
  | nil => simp [split]
  | cons c stream ih =>
      cases hsplit : split separator stream with
      | mk frames tail =>
          rw [hsplit] at ih
          cases stream with
          | nil =>
              cases hsplit
              by_cases hc : c = separator
              · simp [split, hc]
              · simp [split, hc]
          | cons d stream =>
              rw [List.getLast?_cons_cons, split, hsplit]
              by_cases hc : c = separator
              · simpa [hc] using ih
              · cases frames with
                | nil =>
                    have htail : tail = d :: stream := by
                      have hall := split_of_no_frame (congrArg Prod.fst hsplit)
                      rwa [hsplit] at hall
                    simpa [hc, htail] using ih
                | cons frame frames => simpa [hc] using ih

/-! ## Receiving in chunks -/

/-- Frames that were all accepted can be left out. -/
theorem receiveWhole_append {stream : List α}
    (h : r.deliver (split r.separator stream).1 state = (state', none)) (chunk : List α) :
    r.receiveWhole (stream ++ chunk) state =
      r.receiveWhole ((split r.separator stream).2 ++ chunk) state' := by
  rw [receiveWhole, receiveWhole, split_append, deliver_append, h]

/-- What is left in the buffer is too long for a frame, whatever follows. -/
theorem receiveWhole_tooLong {tail : List α} (hrest : firstFrame r.separator tail = none)
    (hlong : r.frameLimit < tail.length) (chunk : List α) :
    r.receiveWhole (tail ++ chunk) state = (state, some r.frameTooLong) := by
  have hne : ∀ more, tail ++ more ≠ [] := by
    intro more hnil
    rw [(List.append_eq_nil_iff.mp hnil).1] at hlong
    exact Nat.not_lt_zero _ hlong
  have hlonger : ∀ more, r.frameLimit < (tail ++ more).length := fun more => by
    rw [List.length_append]
    exact Nat.lt_of_lt_of_le hlong (Nat.le_add_right _ _)
  obtain ⟨more, frames, hframes⟩ | ⟨more, hsplit⟩ := split_rest hrest chunk
  · rw [receiveWhole, hframes, deliver, if_neg (fun h => hne more h.1), if_pos (hlonger more)]
  · rw [receiveWhole, hsplit]
    simp only [deliver]
    rw [if_pos (hlonger more)]

variable (r) in
/-- The receiver of a stream, had it come at once. -/
def Progress.ofWhole (stream : List α) (state : σ) : Progress α σ ε :=
  match r.receiveWhole stream state with
  | (state, some error) => .failed state error
  | (state, none) => .waiting state (split r.separator stream).2

theorem drain_eq (buffer : List α) (state : σ) :
    r.drain buffer state = .ofWhole r buffer state := by
  fun_induction drain r buffer state with
  | case1 buffer state hfirst hlong =>
      simp [Progress.ofWhole, receiveWhole, split_of_none hfirst, deliver, hlong]
  | case2 buffer state hfirst hlong =>
      simp [Progress.ofWhole, receiveWhole, split_of_none hfirst, deliver, hlong]
  | case3 buffer state frame rest hfirst hempty ih =>
      rw [ih, Progress.ofWhole, Progress.ofWhole, receiveWhole, receiveWhole,
        split_of_some hfirst, deliver, if_pos hempty]
  | case4 buffer state frame rest hfirst hempty hlong =>
      rw [Progress.ofWhole, receiveWhole, split_of_some hfirst, deliver, if_neg hempty,
        if_pos hlong]
  | case5 buffer state frame rest hfirst hempty hlong next error hhandle =>
      rw [Progress.ofWhole, receiveWhole, split_of_some hfirst, deliver, if_neg hempty,
        if_neg hlong, hhandle]
  | case6 buffer state frame rest hfirst hempty hlong next hhandle ih =>
      rw [ih, Progress.ofWhole, Progress.ofWhole, receiveWhole, receiveWhole,
        split_of_some hfirst, deliver, if_neg hempty, if_neg hlong, hhandle]

theorem receive_ofWhole (stream chunk : List α) (state : σ) :
    r.receive (.ofWhole r stream state) chunk = .ofWhole r (stream ++ chunk) state := by
  cases hdeliver : r.deliver (split r.separator stream).1 state with
  | mk state' failure =>
      cases failure with
      | some error =>
          have hwhole : ∀ more, r.receiveWhole (stream ++ more) state = (state', some error) := by
            intro more
            rw [receiveWhole, split_append, deliver_append, hdeliver]
          have hstream := hwhole []
          rw [List.append_nil] at hstream
          rw [Progress.ofWhole, Progress.ofWhole, hstream, hwhole]
          rfl
      | none =>
          rw [Progress.ofWhole, Progress.ofWhole, receiveWhole_append hdeliver, receiveWhole, hdeliver]
          by_cases hlong : r.frameLimit < (split r.separator stream).2.length
          · simp only [if_pos hlong]
            rw [receiveWhole_tooLong (firstFrame_tail stream) hlong]
            rfl
          · simp only [if_neg hlong]
            rw [receive, drain_eq, Progress.ofWhole, split_append stream chunk]

/-- However the stream is cut into chunks, the receiver ends as if it had come at once. -/
theorem foldl_receive (chunks : List (List α)) (state : σ) :
    chunks.foldl r.receive (.waiting state []) = .ofWhole r chunks.flatten state := by
  have hgeneral : ∀ stream, chunks.foldl r.receive (.ofWhole r stream state) =
      .ofWhole r (stream ++ chunks.flatten) state := by
    induction chunks with
    | nil =>
        intro stream
        simp
    | cons chunk chunks ih =>
        intro stream
        rw [List.foldl_cons, receive_ofWhole, ih, List.flatten_cons, List.append_assoc]
  have hstart : Progress.ofWhole r [] state = .waiting state [] := by
    simp [Progress.ofWhole, receiveWhole, split, deliver]
  rw [← hstart, hgeneral, List.nil_append]

end Framing

end Torsor.Library
