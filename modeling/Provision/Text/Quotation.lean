import Provision.Decimal.Numeral
import Provision.Text.Table.Unseen

/-!
# Quotations

A text is quoted for a reader: between quotation marks, with an escape for every character that
would not be seen as itself.
-/

namespace Provision
namespace Text

def hexDigitsOnto : (fuel : Nat) → Nat → List Char → List Char
  | 0, _, acc => acc
  | fuel + 1, n, acc =>
      let acc := Decimal.digitChar (n % 16) :: acc
      if n < 16 then acc else hexDigitsOnto fuel (n / 16) acc

/-- How a character is written between quotation marks; a code point has six digits at most. -/
def quotationChar (c : Char) : List Char :=
  match c with
  | '"' => ['\\', '"']
  | '\\' => ['\\', '\\']
  | '\t' => ['\\', 't']
  | '\n' => ['\\', 'n']
  | '\r' => ['\\', 'r']
  | '\x00' => ['\\', '0']
  | c =>
      if Span.anyContains Table.unseen c.toNat then
        '\\' :: 'u' :: '\x7b' :: hexDigitsOnto 6 c.toNat ['\x7d']
      else [c]

def quotation (text : String) : String :=
  String.ofList ('"' :: text.toList.flatMap quotationChar ++ ['"'])

end Text
end Provision
