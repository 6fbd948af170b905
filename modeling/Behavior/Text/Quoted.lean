import Behavior.Text.Shown

namespace Behavior.Text

def escape (c : Char) : List Char :=
  match c with
  | '"' => ['\\', '"']
  | '\\' => ['\\', '\\']
  | '\n' => ['\\', 'n']
  | '\r' => ['\\', 'r']
  | '\t' => ['\\', 't']
  | '\x00' => ['\\', '0']
  | c => if isShown c then [c] else ['\\', 'u', '\x7b'] ++ Nat.toDigits 16 c.toNat ++ ['\x7d']

def quoted (text : String) : String :=
  String.ofList ('"' :: text.toList.flatMap escape ++ ['"'])

example : quoted "a\"b\\c\n" = "\"a\\\"b\\\\c\\n\"" := by decide

example : quoted "\x1b" = "\"\\u\x7b1b\x7d\"" := by decide

end Behavior.Text
