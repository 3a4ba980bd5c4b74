import Torsor.Library.CommandLine
import Mathlib.Data.List.TakeWhile

/-! # Arguments of a Windows process

On Windows the provider gets its arguments in one command line, each of them quoted. Whoever
reads the line by the rules of the C runtime or of `CommandLineToArgvW` gets them back.
-/

namespace Torsor.AgentRuntime
open Torsor.Library.CommandLine

/-- The real path of an existing file, as `resolveWindowsApplication` returns it. A Windows path
has neither a NUL nor a quotation mark. -/
structure ApplicationPath where
  path : List CodeUnit
  no_nul : nul ∉ path
  no_mark : quotationMark ∉ path

/-- `value.replace(/(\\*)"/g, '$1$1\\"')`, where `run` backslashes have just been passed. -/
def escapeMarks (run : Nat) : List CodeUnit → List CodeUnit
  | [] => List.replicate run backslash
  | c :: rest =>
      if c = backslash then escapeMarks (run + 1) rest
      else if c = quotationMark then
        List.replicate (2 * run + 1) backslash ++ quotationMark :: escapeMarks 0 rest
      else List.replicate run backslash ++ c :: escapeMarks 0 rest

/-- The backslashes at the end. -/
def trailingSlashes (value : List CodeUnit) : List CodeUnit :=
  value.reverse.takeWhile (· = backslash)

/-- `value.replace(/(\\+)$/g, "$1$1")`. -/
def doubleTrailing (value : List CodeUnit) : List CodeUnit := value ++ trailingSlashes value

def quoteWindowsArgument (value : List CodeUnit) : List CodeUnit :=
  quotationMark :: (doubleTrailing (escapeMarks 0 value) ++ [quotationMark])

/-- `[applicationPath, ...args].map(quoteWindowsArgument).join(" ")`. -/
def commandLine (application : ApplicationPath) (args : List (List CodeUnit)) : List CodeUnit :=
  [space].intercalate ((application.path :: args).map quoteWindowsArgument)

/-! ## The two replacements -/

section Quoting

variable {run : Nat} {c : CodeUnit} {value rest front : List CodeUnit}

theorem trailingSlashes_replicate :
    trailingSlashes (List.replicate run backslash) = List.replicate run backslash := by
  rw [trailingSlashes, List.reverse_replicate, List.takeWhile_replicate]
  simp

/-- Only what follows the last other character counts. -/
theorem trailingSlashes_append (h : c ≠ backslash) :
    trailingSlashes (front ++ c :: rest) = trailingSlashes rest := by
  have hsplit : (front ++ c :: rest).reverse = rest.reverse ++ c :: front.reverse := by simp
  rw [trailingSlashes, hsplit, List.takeWhile_append]
  split
  · rename_i hall
    rw [List.takeWhile_cons_of_neg (by simpa using h), List.append_nil, trailingSlashes]
    exact ((List.takeWhile_prefix _).eq_of_length hall).symm
  · rfl

theorem doubleTrailing_append (h : c ≠ backslash) :
    doubleTrailing (front ++ c :: rest) = front ++ c :: doubleTrailing rest := by
  rw [doubleTrailing, trailingSlashes_append h, doubleTrailing]
  simp

theorem escapeMarks_none (h : quotationMark ∉ value) :
    escapeMarks run value = List.replicate run backslash ++ value := by
  induction value generalizing run with
  | nil => simp [escapeMarks]
  | cons c rest ih =>
      have hc : c ≠ quotationMark := fun heq => h (heq ▸ List.mem_cons_self)
      have hrest : quotationMark ∉ rest := fun hmem => h (List.mem_cons_of_mem c hmem)
      by_cases hslash : c = backslash
      · rw [escapeMarks, if_pos hslash, ih hrest, List.replicate_succ', hslash]
        simp
      · rw [escapeMarks, if_neg hslash, if_neg hc, ih hrest]
        simp

theorem mem_escapeMarks (h : c ∈ escapeMarks run value) :
    c = backslash ∨ c = quotationMark ∨ c ∈ value := by
  induction value generalizing run with
  | nil => exact .inl (List.eq_of_mem_replicate h)
  | cons d rest ih =>
      have hrest : ∀ {n}, c ∈ escapeMarks n rest →
          c = backslash ∨ c = quotationMark ∨ c ∈ d :: rest := fun hmem =>
        (ih hmem).imp_right fun hor => hor.imp_right (List.mem_cons_of_mem d)
      rw [escapeMarks] at h
      split at h
      · exact hrest h
      · split at h
        · obtain hslash | hmark | hmem := List.mem_append.mp h |>.imp_right List.mem_cons.mp
          · exact .inl (List.eq_of_mem_replicate hslash)
          · exact .inr (.inl hmark)
          · exact hrest hmem
        · obtain hslash | hc | hmem := List.mem_append.mp h |>.imp_right List.mem_cons.mp
          · exact .inl (List.eq_of_mem_replicate hslash)
          · exact .inr (.inr (hc ▸ List.mem_cons_self))
          · exact hrest hmem

theorem mem_trailingSlashes (h : c ∈ trailingSlashes value) : c = backslash := by
  simpa using List.mem_takeWhile_imp h

/-- The characters of a quoted argument are its own and those that quote it. -/
theorem mem_quoteWindowsArgument (h : c ∈ quoteWindowsArgument value) :
    c = backslash ∨ c = quotationMark ∨ c ∈ value := by
  rw [quoteWindowsArgument, List.mem_cons, List.mem_append, doubleTrailing, List.mem_append] at h
  obtain hmark | (hescaped | htrailing) | hmark := h
  · exact .inr (.inl hmark)
  · exact mem_escapeMarks hescaped
  · exact .inl (mem_trailingSlashes htrailing)
  · exact .inr (.inl (List.mem_singleton.mp hmark))

end Quoting

/-! ## What a reader gets -/

section Reading

variable {reader : ArgumentReader} {finished : List (List CodeUnit)} {argument : List CodeUnit}
  {run : Nat}

/-- After the opening quotation mark the reader collects the argument: the induction is on the
argument, with the backslashes that have been passed but not yet written. -/
theorem foldl_escaped_argument (value : List CodeUnit) :
    (doubleTrailing (escapeMarks run value) ++ [quotationMark]).foldl (Scan.next reader)
        ⟨finished, some argument, .quoted, 0⟩ =
      ⟨finished, some (argument ++ (List.replicate run backslash ++ value)), .closed, 0⟩ := by
  induction value generalizing run argument with
  | nil =>
      have htwice : doubleTrailing (escapeMarks run []) = List.replicate (2 * run) backslash := by
        rw [escapeMarks, doubleTrailing, trailingSlashes_replicate, List.replicate_append_replicate,
          Nat.two_mul]
      rw [htwice, Scan.foldl_closing, List.append_nil]
  | cons c rest ih =>
      by_cases hslash : c = backslash
      · rw [escapeMarks, if_pos hslash, ih, List.replicate_succ', hslash]
        simp
      · by_cases hmark : c = quotationMark
        · have hsplit : ∀ tail : List CodeUnit, List.replicate (2 * run + 1) backslash ++
              quotationMark :: tail = (List.replicate (2 * run + 1) backslash ++ [quotationMark]) ++
                tail := by simp
          rw [escapeMarks, if_neg hslash, if_pos hmark,
            doubleTrailing_append (by decide : quotationMark ≠ backslash), List.append_assoc,
            List.cons_append, hsplit, List.foldl_append, Scan.foldl_escaped, ih, hmark]
          simp
        · have hsplit : ∀ tail : List CodeUnit, List.replicate run backslash ++ c :: tail =
              (List.replicate run backslash ++ [c]) ++ tail := by simp
          rw [escapeMarks, if_neg hslash, if_neg hmark, doubleTrailing_append hslash,
            List.append_assoc, List.cons_append, hsplit, List.foldl_append,
            Scan.foldl_ordinary hslash hmark, ih]
          simp

/-- A blank and a quoted argument. -/
theorem foldl_quoted_argument {previous : Option (List CodeUnit)} {part : Part}
    (hpart : part ≠ .quoted) (hbegun : previous = none → part = .outside)
    (value : List CodeUnit) :
    (space :: quoteWindowsArgument value).foldl (Scan.next reader) ⟨finished, previous, part, 0⟩ =
      ⟨finished ++ previous.toList, some value, .closed, 0⟩ := by
  have hsplit : space :: quoteWindowsArgument value =
      [space, quotationMark] ++ (doubleTrailing (escapeMarks 0 value) ++ [quotationMark]) := rfl
  rw [hsplit, List.foldl_append, Scan.foldl_opening hpart hbegun, foldl_escaped_argument]
  simp

/-- Any number of quoted arguments, after some that are read. -/
theorem finish_quoted_arguments {previous : Option (List CodeUnit)} {part : Part}
    (hpart : part ≠ .quoted) (hbegun : previous = none → part = .outside)
    (args : List (List CodeUnit)) :
    ((args.flatMap fun value => space :: quoteWindowsArgument value).foldl (Scan.next reader)
        ⟨finished, previous, part, 0⟩).finish =
      finished ++ previous.toList ++ args := by
  induction args generalizing finished previous part with
  | nil => cases previous <;> simp [Scan.finish]
  | cons value args ih =>
      rw [List.flatMap_cons, List.foldl_append, foldl_quoted_argument hpart hbegun,
        ih (by decide) (by simp)]
      simp

theorem intercalate_space (first : List CodeUnit) (rest : List (List CodeUnit)) :
    [space].intercalate (first :: rest) = first ++ rest.flatMap (space :: ·) := by
  induction rest generalizing first with
  | nil => simp
  | cons second rest ih =>
      rw [List.intercalate_cons_cons, ih]
      simp

theorem commandLine_eq (application : ApplicationPath) (args : List (List CodeUnit)) :
    commandLine application args = quoteWindowsArgument application.path ++
      args.flatMap fun value => space :: quoteWindowsArgument value := by
  rw [commandLine, List.map_cons, intercalate_space, List.flatMap_map]

theorem nul_not_mem_quoteWindowsArgument {value : List CodeUnit} (h : nul ∉ value) :
    nul ∉ quoteWindowsArgument value := by
  intro hmem
  obtain hslash | hmark | hvalue := mem_quoteWindowsArgument hmem
  · exact absurd hslash (by decide)
  · exact absurd hmark (by decide)
  · exact h hvalue

theorem nul_not_mem_commandLine {application : ApplicationPath} {args : List (List CodeUnit)}
    (hargs : ∀ value ∈ args, nul ∉ value) : nul ∉ commandLine application args := by
  rw [commandLine_eq]
  intro hmem
  obtain hpath | hrest := List.mem_append.mp hmem
  · exact nul_not_mem_quoteWindowsArgument application.no_nul hpath
  · obtain ⟨value, hvalue, hquoted⟩ := List.mem_flatMap.mp hrest
    obtain hspace | hquoted := List.mem_cons.mp hquoted
    · exact absurd hspace (by decide)
    · exact nul_not_mem_quoteWindowsArgument (hargs value hvalue) hquoted

/-- After the program name either reader gets exactly the arguments that were quoted. -/
theorem commandLine_roundTrip (reader : ArgumentReader) (application : ApplicationPath)
    (args : List (List CodeUnit)) (hargs : ∀ value ∈ args, nul ∉ value) :
    arguments reader (commandLine application args) = args := by
  have hwhole : (commandLine application args).takeWhile (· ≠ nul) =
      commandLine application args := by
    apply List.takeWhile_eq_self_iff.mpr
    intro c hc
    have hne : c ≠ nul := fun heq => nul_not_mem_commandLine hargs (heq ▸ hc)
    simpa using hne
  have hname : quotationMark ∉ doubleTrailing (escapeMarks 0 application.path) := by
    rw [escapeMarks_none application.no_mark]
    intro hmem
    obtain hpath | hslash := List.mem_append.mp hmem
    · exact application.no_mark (by simpa using hpath)
    · exact absurd (mem_trailingSlashes hslash) (by decide)
  have hblank : StartsBlank (args.flatMap fun value => space :: quoteWindowsArgument value) := by
    cases args with
    | nil => exact fun c hc => nomatch hc
    | cons value args =>
        intro c hc
        cases hc
        rfl
  have hprogram : afterProgram reader (commandLine application args) =
      args.flatMap fun value => space :: quoteWindowsArgument value := by
    rw [commandLine_eq, quoteWindowsArgument, List.cons_append, List.append_assoc,
      List.singleton_append]
    exact afterProgram_quoted hname hblank
  rw [arguments, hwhole, hprogram]
  exact finish_quoted_arguments (by decide) (fun _ => rfl) args

end Reading

/-- Two arguments that end in backslashes and hold a quotation mark. -/
def trickyArguments : List (List CodeUnit) :=
  [[97, backslash, backslash], [backslash, quotationMark, space, backslash], []]

theorem trickyArguments_read :
    arguments .cRuntime (commandLine ⟨[67, 58, backslash], by decide, by decide⟩
      trickyArguments) = trickyArguments :=
  commandLine_roundTrip _ _ _ (by decide)

end Torsor.AgentRuntime
