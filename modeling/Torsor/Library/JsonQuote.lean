import Mathlib.Tactic.IntervalCases
import Torsor.Library.PrefixCode

/-! # Quoted strings of a JSON text -/

namespace Torsor.Library.JsonQuote

/-- A character inside a quoted string. -/
def escape (c : Char) : List Char :=
  if c = '"' then ['\\', '"']
  else if c = '\\' then ['\\', '\\']
  else if c = Char.ofNat 8 then ['\\', 'b']
  else if c = Char.ofNat 12 then ['\\', 'f']
  else if c = '\n' then ['\\', 'n']
  else if c = '\r' then ['\\', 'r']
  else if c = '\t' then ['\\', 't']
  else if c.toNat < 32 then
    ['\\', 'u', '0', '0', Nat.digitChar (c.toNat / 16), Nat.digitChar (c.toNat % 16)]
  else [c]

def quote (cs : List Char) : List Char := '"' :: (cs.flatMap escape ++ ['"'])

/-! ## Reading back -/

def hexValue (c : Char) : Nat := if c.isDigit then c.toNat - 48 else c.toNat - 87

/-- The first character of what an escaped text denotes, and the rest of that text. -/
def readChar : List Char → Option (Char × List Char)
  | '\\' :: 'b' :: rest => some (Char.ofNat 8, rest)
  | '\\' :: 'f' :: rest => some (Char.ofNat 12, rest)
  | '\\' :: 'n' :: rest => some ('\n', rest)
  | '\\' :: 'r' :: rest => some ('\r', rest)
  | '\\' :: 't' :: rest => some ('\t', rest)
  | '\\' :: 'u' :: '0' :: '0' :: high :: low :: rest =>
      some (Char.ofNat (16 * hexValue high + hexValue low), rest)
  | '\\' :: c :: rest => some (c, rest)
  | c :: rest => some (c, rest)
  | [] => none

theorem readChar_control {n : Nat} (h : n < 32) (rest : List Char) :
    readChar ('\\' :: 'u' :: '0' :: '0' :: Nat.digitChar (n / 16) :: Nat.digitChar (n % 16) ::
      rest) = some (Char.ofNat n, rest) := by
  interval_cases n <;> rfl

theorem readChar_escape (c : Char) (rest : List Char) :
    readChar (escape c ++ rest) = some (c, rest) := by
  unfold escape
  split_ifs with hquote hslash hb hf hn hr ht hcontrol
  · subst hquote
    rfl
  · subst hslash
    rfl
  · subst hb
    rfl
  · subst hf
    rfl
  · subst hn
    rfl
  · subst hr
    rfl
  · subst ht
    rfl
  · simp only [List.cons_append, List.nil_append]
    rw [readChar_control hcontrol, Char.ofNat_toNat]
  · simp [readChar, hslash]

theorem escape_prefixCode : PrefixCode escape := .of_reader readChar_escape

/-- No escaped character begins with a quotation mark. -/
theorem escape_head (c : Char) : ∃ d rest, escape c = d :: rest ∧ d ≠ '"' := by
  unfold escape
  split_ifs with hquote
  all_goals exact ⟨_, _, rfl, by first | exact hquote | decide⟩

theorem quote_prefixCode : PrefixCode quote := by
  have hquote : quote = fun cs => ['"'] ++ (cs.flatMap escape ++ ['"']) ++ [] := by
    funext cs
    simp [quote]
  rw [hquote]
  exact (escape_prefixCode.terminated escape_head).enclosed _ _

end Torsor.Library.JsonQuote
