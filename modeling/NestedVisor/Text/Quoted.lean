import NestedVisor.Text.ExtendingMark
import NestedVisor.Text.Ignorable
import NestedVisor.Text.Unprinted

/-!
Text between double quotes.

Everything in the quotes can be read off a terminal: a character that would not be seen, or that
would join the one before it, is written by its code point.
-/

namespace NestedVisor.Text

/-- The character after the backslash, for those with a short escape. -/
def shortEscape? : Char → Option Char
  | '\x00' => some '0'
  | '\t' => some 't'
  | '\n' => some 'n'
  | '\r' => some 'r'
  | '"' => some '"'
  | '\\' => some '\\'
  | _ => none

/-- Whether a character is seen, and seen apart from the one before it. -/
def standsAlone (c : Char) : Bool :=
  !extendingMarks.covers c.toNat && !ignorable.covers c.toNat && !unprinted.covers c.toNat

/-- The code point in braces, without leading zeros. -/
def codeEscape (c : Char) : String :=
  "\\u\x7b" ++ String.ofList (Nat.toDigits 16 c.toNat) ++ "\x7d"

/-- A character as it is written between double quotes. -/
def quotedChar (c : Char) : String :=
  match shortEscape? c with
  | some letter => "\\" ++ letter.toString
  | none => if standsAlone c then c.toString else codeEscape c

def quoted (text : String) : String :=
  "\"" ++ String.join (text.toList.map quotedChar) ++ "\""

end NestedVisor.Text
