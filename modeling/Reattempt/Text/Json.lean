import Reattempt.Text.Quoted

/-!
# Strings of JSON

A string in double quotes. Quotes, backslashes and control characters are escaped; every other
character stands for itself.
-/
namespace Reattempt.Text

def jsonEscape (c : Char) : List Char :=
  match c with
  | '"' => ['\\', '"']
  | '\\' => ['\\', '\\']
  | '\n' => ['\\', 'n']
  | '\r' => ['\\', 'r']
  | '\t' => ['\\', 't']
  | '\x08' => ['\\', 'b']
  | '\x0c' => ['\\', 'f']
  | c => if c.toNat < 0x20 then '\\' :: 'u' :: hexDigits 4 c.toNat else [c]

def jsonString (s : String) : String :=
  String.ofList ('"' :: s.toList.flatMap jsonEscape ++ ['"'])

@[simp] theorem jsonString_empty : jsonString "" = "\"\"" := by decide

end Reattempt.Text
