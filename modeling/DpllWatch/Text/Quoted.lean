import DpllWatch.Text.Combining
import DpllWatch.Text.Decimal
import DpllWatch.Text.Ignorable
import DpllWatch.Text.Unprintable

/-! Texts quoted for a message: on one line, with every character that does not show written out. -/

namespace DpllWatch.Text.Quoted

def escape (c : Char) : List Char :=
  match c with
  | '\x00' => ['\\', '0']
  | '\t' => ['\\', 't']
  | '\n' => ['\\', 'n']
  | '\r' => ['\\', 'r']
  | '"' => ['\\', '"']
  | '\\' => ['\\', '\\']
  | c =>
    if c.toNat < 0x7F && 0x20 ≤ c.toNat then [c]
    else if isCombining c || isIgnorable c || isUnprintable c then
      ['\\', 'u', '\x7b'] ++ hex c.toNat ++ ['\x7d']
    else [c]

def quote (s : List Char) : List Char := '"' :: s.flatMap escape ++ ['"']

end DpllWatch.Text.Quoted
