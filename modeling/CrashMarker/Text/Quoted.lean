/-
Module: CrashMarker.Text.Quoted
Purpose: Quoted forms of a text: the one used in diagnostics and the one used in JSON reports.
Main exports: hexDigits, quoted, jsonQuoted
-/
import CrashMarker.Text.Unprintable

namespace CrashMarker.Text

/-!
Both forms put a text between double quotes and escape what would not survive there.  They differ
in what they escape: a diagnostic also escapes every unprintable character, while JSON escapes the
control characters below the blank and nothing else.
-/

/-- The number in lowercase hexadecimal without leading zeros. -/
def hexDigits (n : Nat) : List Char := Nat.toDigits 16 n

/-- One character inside a diagnostic quotation.  The apostrophe stands for itself. -/
def quotedChar (c : Char) : List Char :=
  if c = '"' then ['\\', '"']
  else if c = '\\' then ['\\', '\\']
  else if c = '\n' then ['\\', 'n']
  else if c = '\r' then ['\\', 'r']
  else if c = '\t' then ['\\', 't']
  else if c.toNat = 0 then ['\\', '0']
  else if isUnprintable c then ['\\', 'u', '\x7b'] ++ hexDigits c.toNat ++ ['\x7d']
  else [c]

/-- A text between double quotes as diagnostics print it. -/
def quoted (text : String) : String :=
  String.ofList ('"' :: text.toList.flatMap quotedChar ++ ['"'])

/-- One character inside a JSON string.  Control characters without a short escape are written
with four hexadecimal digits. -/
def jsonQuotedChar (c : Char) : List Char :=
  if c = '"' then ['\\', '"']
  else if c = '\\' then ['\\', '\\']
  else if c = '\n' then ['\\', 'n']
  else if c = '\r' then ['\\', 'r']
  else if c = '\t' then ['\\', 't']
  else if c.toNat = 8 then ['\\', 'b']
  else if c.toNat = 12 then ['\\', 'f']
  else if c.toNat < 32 then
    let digits := hexDigits c.toNat
    ['\\', 'u'] ++ List.replicate (4 - digits.length) '0' ++ digits
  else [c]

def jsonQuoted (text : String) : String :=
  String.ofList ('"' :: text.toList.flatMap jsonQuotedChar ++ ['"'])

end CrashMarker.Text
