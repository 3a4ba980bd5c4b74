import Mathlib.Data.List.Basic

/-! # Command lines

How a process takes its arguments out of one command line: the program name first, then the
arguments between blanks, where quotation marks keep blanks and backslashes count only before a
quotation mark. Two readers are in use; they differ in the program name and in a quotation mark
directly after one that ends a quoted part.
-/

namespace Torsor.Library.CommandLine

/-- A UTF-16 code unit. -/
abbrev CodeUnit : Type := UInt16

def nul : CodeUnit := 0
def tab : CodeUnit := 9
def space : CodeUnit := 32
def quotationMark : CodeUnit := 34
def backslash : CodeUnit := 92

def isBlank (c : CodeUnit) : Bool := c = space || c = tab

inductive ArgumentReader where
  /-- The start-up code of the C runtime. -/
  | cRuntime
  | commandLineToArgvW
deriving DecidableEq, Repr

/-! ## The program name -/

/-- Quotation marks only keep blanks. -/
def dropName (quoted : Bool) : List CodeUnit → List CodeUnit
  | [] => []
  | c :: rest =>
      if c = quotationMark then dropName (!quoted) rest
      else if !quoted && isBlank c then c :: rest
      else dropName quoted rest

/-- What follows the program name. -/
def afterProgram (reader : ArgumentReader) (line : List CodeUnit) : List CodeUnit :=
  match reader, line with
  | .cRuntime, line => dropName false line
  | .commandLineToArgvW, c :: rest =>
      if c = quotationMark then (rest.dropWhile (· ≠ quotationMark)).drop 1
      else (c :: rest).dropWhile (! isBlank ·)
  | .commandLineToArgvW, [] => []

/-! ## Arguments -/

inductive Part where
  | outside
  | quoted
  /-- Directly after the quotation mark that ends a quoted part. -/
  | closed
deriving DecidableEq, Repr

def Part.goOn : Part → Part
  | .closed => .outside
  | part => part

structure Scan where
  finished : List (List CodeUnit)
  /-- The argument that has begun, without the backslashes read last. -/
  argument : Option (List CodeUnit)
  part : Part
  slashes : Nat

namespace Scan

def start : Scan := ⟨[], none, .outside, 0⟩

/-- The argument gets some more characters. -/
def add (s : Scan) (cs : List CodeUnit) (part : Part) : Scan :=
  { s with argument := some (s.argument.getD [] ++ cs), part, slashes := 0 }

/-- A quotation mark after `2n` backslashes begins or ends a quoted part, after `2n + 1` it is
one of the argument. -/
def mark (s : Scan) (reader : ArgumentReader) : Scan :=
  if s.slashes % 2 = 1 then
    s.add (List.replicate (s.slashes / 2) backslash ++ [quotationMark]) s.part.goOn
  else
    match s.part with
    | .outside => s.add (List.replicate (s.slashes / 2) backslash) .quoted
    | .quoted => s.add (List.replicate (s.slashes / 2) backslash) .closed
    | .closed => s.add [quotationMark] (if reader = .cRuntime then .quoted else .outside)

/-- A blank outside quoted parts ends the argument. -/
def blank (s : Scan) : Scan :=
  match s.argument with
  | none => s
  | some argument =>
      ⟨s.finished ++ [argument ++ List.replicate s.slashes backslash], none, .outside, 0⟩

def next (reader : ArgumentReader) (s : Scan) (c : CodeUnit) : Scan :=
  if c = backslash then
    { s with
      argument := some (s.argument.getD [])
      part := s.part.goOn
      slashes := s.slashes + 1 }
  else if c = quotationMark then s.mark reader
  else if isBlank c ∧ s.part ≠ .quoted then s.blank
  else s.add (List.replicate s.slashes backslash ++ [c]) s.part.goOn

theorem next_mark (reader : ArgumentReader) (s : Scan) :
    next reader s quotationMark = s.mark reader := by
  rw [next, if_neg (by decide), if_pos rfl]

def finish (s : Scan) : List (List CodeUnit) :=
  s.finished ++ (s.argument.map (· ++ List.replicate s.slashes backslash)).toList

end Scan

/-- The arguments of a command line, which ends at its first NUL. -/
def arguments (reader : ArgumentReader) (line : List CodeUnit) : List (List CodeUnit) :=
  ((afterProgram reader (line.takeWhile (· ≠ nul))).foldl (Scan.next reader) .start).finish

/-! ## Reading a quoted program name -/

section Program

variable {name rest : List CodeUnit}

theorem dropName_quoted (hname : quotationMark ∉ name) :
    dropName true (name ++ quotationMark :: rest) = dropName false rest := by
  induction name with
  | nil => rfl
  | cons c name ih =>
      have hc : c ≠ quotationMark := fun h => hname (h ▸ List.mem_cons_self)
      rw [List.cons_append, dropName, if_neg hc]
      exact ih fun h => hname (List.mem_cons_of_mem c h)

/-- A rest that another argument could not be part of. -/
def StartsBlank (rest : List CodeUnit) : Prop := ∀ c ∈ rest.head?, isBlank c = true

theorem dropName_blank (hrest : StartsBlank rest) : dropName false rest = rest := by
  cases rest with
  | nil => rfl
  | cons c rest =>
      have hblank : isBlank c = true := hrest c rfl
      have hc : c ≠ quotationMark := by
        rintro rfl
        exact absurd hblank (by decide)
      rw [dropName, if_neg hc, hblank]
      rfl

theorem dropWhile_name (hname : quotationMark ∉ name) :
    (name ++ quotationMark :: rest).dropWhile (· ≠ quotationMark) = quotationMark :: rest := by
  induction name with
  | nil => simp
  | cons c name ih =>
      have hc : c ≠ quotationMark := fun h => hname (h ▸ List.mem_cons_self)
      rw [List.cons_append, List.dropWhile_cons_of_pos (by simpa using hc)]
      exact ih fun h => hname (List.mem_cons_of_mem c h)

/-- Both readers end a quoted name at its second quotation mark. -/
theorem afterProgram_quoted {reader : ArgumentReader} (hname : quotationMark ∉ name)
    (hrest : StartsBlank rest) :
    afterProgram reader (quotationMark :: (name ++ quotationMark :: rest)) = rest := by
  cases reader with
  | cRuntime =>
      show dropName false _ = rest
      rw [dropName, if_pos rfl]
      exact (dropName_quoted hname).trans (dropName_blank hrest)
  | commandLineToArgvW =>
      rw [afterProgram, if_pos rfl, dropWhile_name hname]
      rfl

end Program

/-! ## Reading a quoted part -/

namespace Scan

variable {reader : ArgumentReader} {finished : List (List CodeUnit)} {argument : List CodeUnit}
  {previous : Option (List CodeUnit)} {part : Part} {n slashes : Nat} {c : CodeUnit}

theorem foldl_backslashes :
    (List.replicate n backslash).foldl (next reader) ⟨finished, some argument, .quoted, slashes⟩ =
      ⟨finished, some argument, .quoted, slashes + n⟩ := by
  induction n generalizing slashes with
  | zero => rfl
  | succ n ih =>
      rw [List.replicate_succ, List.foldl_cons]
      show List.foldl (next reader) ⟨finished, some argument, .quoted, slashes + 1⟩ _ = _
      rw [ih, Nat.add_right_comm, Nat.add_assoc]

/-- Backslashes before another character are read as they are. -/
theorem foldl_ordinary (hslash : c ≠ backslash) (hmark : c ≠ quotationMark) :
    (List.replicate n backslash ++ [c]).foldl (next reader)
        ⟨finished, some argument, .quoted, 0⟩ =
      ⟨finished, some (argument ++ (List.replicate n backslash ++ [c])), .quoted, 0⟩ := by
  rw [List.foldl_append, foldl_backslashes, Nat.zero_add]
  simp [next, hslash, hmark, add, Part.goOn]

/-- Twice as many backslashes and one before a quotation mark. -/
theorem foldl_escaped :
    (List.replicate (2 * n + 1) backslash ++ [quotationMark]).foldl (next reader)
        ⟨finished, some argument, .quoted, 0⟩ =
      ⟨finished, some (argument ++ (List.replicate n backslash ++ [quotationMark])), .quoted,
        0⟩ := by
  have hodd : (2 * n + 1) % 2 = 1 := by omega
  have hhalf : (2 * n + 1) / 2 = n := by omega
  rw [List.foldl_append, foldl_backslashes, Nat.zero_add]
  simp [next_mark, mark, hodd, hhalf, add, Part.goOn]

/-- Twice as many backslashes before the quotation mark that ends the part. -/
theorem foldl_closing :
    (List.replicate (2 * n) backslash ++ [quotationMark]).foldl (next reader)
        ⟨finished, some argument, .quoted, 0⟩ =
      ⟨finished, some (argument ++ List.replicate n backslash), .closed, 0⟩ := by
  have heven : ¬ 2 * n % 2 = 1 := by omega
  have hhalf : 2 * n / 2 = n := by omega
  rw [List.foldl_append, foldl_backslashes, Nat.zero_add]
  simp only [List.foldl_cons, List.foldl_nil, next_mark, mark, heven, if_false, hhalf, add,
    Option.getD_some]

/-- A blank and a quotation mark begin the next argument. -/
theorem foldl_opening (hpart : part ≠ .quoted) (hbegun : previous = none → part = .outside) :
    [space, quotationMark].foldl (next reader) ⟨finished, previous, part, 0⟩ =
      ⟨finished ++ previous.toList, some [], .quoted, 0⟩ := by
  have hslash : space ≠ backslash := by decide
  have hmark : space ≠ quotationMark := by decide
  have hblank : isBlank space = true := by decide
  rw [List.foldl_cons, List.foldl_cons, List.foldl_nil, next_mark]
  cases previous with
  | none =>
      obtain rfl := hbegun rfl
      simp [next, hslash, hmark, hblank, blank, mark, add]
  | some argument => simp [next, hslash, hmark, hblank, hpart, blank, mark, add]

end Scan

end Torsor.Library.CommandLine
