import Mathlib.Data.List.Basic
import Mathlib.Algebra.Group.Nat.Basic

/-! Reading the tokens of a command line. The two token readers live in `lib/toolbox/args`,
which is not in the source; the number reader is the C library's `%lu` conversion. -/

namespace StorageCli

def doubleQuote : Char := Char.ofNat 34

/-- The characters `furi_string_trim` removes from both ends. -/
def isTrimmed (c : Char) : Bool := c = ' ' || c = '\n' || c = '\r' || c = '\t'

def trimChars (cs : List Char) : List Char :=
  ((cs.dropWhile isTrimmed).reverse.dropWhile isTrimmed).reverse

/-- Modelled from the spec: `args_read_string_and_trim` is not in the source. It reads the
first word of the line, up to the first space, and leaves the rest of the line with its
surrounding whitespace trimmed; an empty first word is no token. -/
def argsReadStringAndTrim (args : String) : Option (String × String) :=
  let word := args.toList.takeWhile (· ≠ ' ')
  if word = [] then none
  else some (String.mk word, String.mk (trimChars (args.toList.drop word.length)))

/-- Modelled from the spec: `args_read_probably_quoted_string_and_trim` is not in the source.
A token that opens with a double quote runs to the next double quote, which must be there, and
the quotes are stripped; any other token is the first word, as `argsReadStringAndTrim` reads
it. -/
def argsReadProbablyQuotedStringAndTrim (args : String) : Option (String × String) :=
  match args.toList with
  | q :: c :: cs =>
    if q = doubleQuote then
      let inner := (c :: cs).takeWhile (· ≠ doubleQuote)
      match (c :: cs).drop inner.length with
      | [] => none
      | _ :: rest => some (String.mk inner, String.mk (trimChars rest))
    else argsReadStringAndTrim args
  | _ => argsReadStringAndTrim args

/-- The value of a decimal numeral, digit by digit. -/
def decimalValue (ds : List Char) : Nat := ds.foldl (fun n c => 10 * n + (c.toNat - 48)) 0

/-- The white space that `%lu` skips, C's `isspace`: space, tab, newline, vertical tab, form feed
and carriage return. -/
def isspace (c : Char) : Bool := c.toNat = 32 || (9 ≤ c.toNat && c.toNat ≤ 13)

/-- `sscanf(args, "%lu", &buffer_size)` into a 32-bit `unsigned long`: leading whitespace, an
optional sign, then at least one decimal digit, converted as `strtoul` does (an out-of-range
magnitude gives `ULONG_MAX`, a minus sign negates modulo 2^32). `none` is a count other than
one. -/
def sscanfLu (args : String) : Option (BitVec 32) :=
  let cs := args.toList.dropWhile isspace
  let neg := cs.head? = some '-'
  let cs := if cs.head? = some '-' ∨ cs.head? = some '+' then cs.tail else cs
  let ds := cs.takeWhile Char.isDigit
  if ds = [] then none
  else if 2 ^ 32 ≤ decimalValue ds then some (BitVec.ofNat 32 (2 ^ 32 - 1))
  else if neg then some (-BitVec.ofNat 32 (decimalValue ds))
  else some (BitVec.ofNat 32 (decimalValue ds))

end StorageCli
