import SyntaxQuery.Unicode.Lookup

/-! Text in quotes for a reader of messages: whatever cannot be seen is shown by its number. -/
namespace SyntaxQuery.Text

/-- Controls, formats, private characters, and all blanks but the space. -/
def invisible : Unicode.Ranges :=
  Unicode.NameTable.unionOf Unicode.GeneralCategory.table ["cc", "cf", "co", "zl", "zp", "zs"]

/-- A character that has a shape of its own, which is not the case for one that only extends the
character before it. -/
def isVisible (c : Char) : Bool :=
  if c.toNat < 0x7F then ' ' ≤ c
  else !invisible.contains c.toNat && Unicode.GeneralCategory.assigned.contains c.toNat &&
    !(Unicode.property "graphemeextend").contains c.toNat

def escapeChar : Char → List Char
  | '"' => ['\\', '"']
  | '\\' => ['\\', '\\']
  | '\n' => ['\\', 'n']
  | '\r' => ['\\', 'r']
  | '\t' => ['\\', 't']
  | '\x00' => ['\\', '0']
  | c =>
    if isVisible c then [c]
    else "\\u\x7b".toList ++ Nat.toDigits 16 c.toNat ++ ['\x7d']

def quoted (text : String) : String :=
  String.ofList ('"' :: text.toList.flatMap escapeChar ++ ['"'])

end SyntaxQuery.Text
