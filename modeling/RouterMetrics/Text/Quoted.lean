import RouterMetrics.Text.Blank
import RouterMetrics.Text.Hidden

/-!
Quoted texts: between quotes, with quotes, backslashes, line ends and tabs after a backslash, and
every character that has no shape of its own by its number.
-/

namespace RouterMetrics.Text

/-- A character that has no shape of its own. -/
def isHidden (c : Char) : Bool :=
  [hiddenFirst, hiddenSecond, hiddenThird, hiddenFourth].any fun table => inRanges table c

/-- A character by its number, in base sixteen. -/
def numbered (c : Char) : List Char :=
  ['\\', 'u', '\x7b'] ++ Nat.toDigits 16 c.toNat ++ ['\x7d']

/-- A character of a quoted text. -/
def quotedChar (c : Char) : List Char :=
  match c with
  | '"' => ['\\', '"']
  | '\\' => ['\\', '\\']
  | '\n' => ['\\', 'n']
  | '\r' => ['\\', 'r']
  | '\t' => ['\\', 't']
  | '\x00' => ['\\', '0']
  | c => if isHidden c then numbered c else [c]

/-- A text between quotes. -/
def quoted (s : String) : String := String.ofList ('"' :: s.toList.flatMap quotedChar ++ ['"'])

end RouterMetrics.Text
