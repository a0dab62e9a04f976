import PlugWatch.Text.Hex
import PlugWatch.Text.Printable
/-!
# Quoted text in messages

A name that a message repeats stands between double quotes. Inside, a quote and a backslash are
written behind a backslash, tab, newline, return and NUL have short names, and every other
character that does not print as itself is written by its number in braces.

## Main Definitions

* `Quoted.escape` : the written form of one character.
* `Quoted.quote` : the written form of a text.
-/

namespace PlugWatch.Quoted

/-- The written form of a character between quotes. -/
def escape (c : Char) : List Char :=
  match c with
  | '"' => ['\\', '"']
  | '\\' => ['\\', '\\']
  | '\t' => ['\\', 't']
  | '\n' => ['\\', 'n']
  | '\r' => ['\\', 'r']
  | '\x00' => ['\\', '0']
  | _ =>
    if Printable.isPrintable c then [c]
    else ['\\', 'u', '\x7b'] ++ Hex.digits c.toNat ++ ['\x7d']

/-- A text between double quotes. -/
def quote (text : List Char) : String :=
  String.ofList ('"' :: text.flatMap escape ++ ['"'])

end PlugWatch.Quoted
