import SyntaxQuery.Toml.Scalar

/-! The contents of strings, from behind the opening quotes up to and with the closing ones. Each
reader gives the value and what follows the string. -/
namespace SyntaxQuery.Toml.Quoted

/-- Tab is the only control character that may stand in a document as it is. -/
def isPlain (c : Char) : Bool := c == '\t' || (' ' ≤ c && c ≠ '\x7f')

def isBlank (c : Char) : Bool := c == ' ' || c == '\t'

def prepend (c : Char) (found : List Char × List Char) : List Char × List Char :=
  (c :: found.1, found.2)

def coded? (code : List Char) : Option Char :=
  if code.all (Scalar.isDigitIn 16) then
    let value := Scalar.ofDigits 16 (code.map Scalar.digitValue)
    if h : value.isValidChar then some (.ofNatAux value h) else none
  else none

def escaped? : Char → Option Char
  | 'b' => some '\x08'
  | 't' => some '\t'
  | 'n' => some '\n'
  | 'f' => some '\x0c'
  | 'r' => some '\r'
  | 'e' => some '\x1b'
  | '"' => some '"'
  | '\\' => some '\\'
  | _ => none

def basic? : List Char → Option (List Char × List Char)
  | [] => none
  | '"' :: rest => some ([], rest)
  | '\\' :: 'x' :: a :: b :: rest => do return prepend (← coded? [a, b]) (← basic? rest)
  | '\\' :: 'u' :: a :: b :: c :: d :: rest => do
    return prepend (← coded? [a, b, c, d]) (← basic? rest)
  | '\\' :: 'U' :: a :: b :: c :: d :: e :: f :: g :: h :: rest => do
    return prepend (← coded? [a, b, c, d, e, f, g, h]) (← basic? rest)
  | '\\' :: c :: rest => do return prepend (← escaped? c) (← basic? rest)
  | c :: rest => if isPlain c ∧ c ≠ '\\' then (basic? rest).map (prepend c) else none

def literal? : List Char → Option (List Char × List Char)
  | [] => none
  | '\'' :: rest => some ([], rest)
  | c :: rest => if isPlain c then (literal? rest).map (prepend c) else none

/-- Whether a line ends here, blanks apart. -/
def endsLine (text : List Char) : Bool :=
  match text.dropWhile isBlank with
  | '\n' :: _ => true
  | '\r' :: '\n' :: _ => true
  | _ => false

/-- Between triple double quotes. A backslash at the end of a line drops the newline and all blanks
and newlines after it, which `joining` is for. Up to two quotes may stand before the closing ones. -/
def longBasic? (joining : Bool) : List Char → Option (List Char × List Char)
  | [] => none
  | '"' :: '"' :: '"' :: '"' :: '"' :: rest => some (['"', '"'], rest)
  | '"' :: '"' :: '"' :: '"' :: rest => some (['"'], rest)
  | '"' :: '"' :: '"' :: rest => some ([], rest)
  | '\r' :: '\n' :: rest =>
    if joining then longBasic? true rest else (longBasic? false rest).map (prepend '\n')
  | '\\' :: 'x' :: a :: b :: rest => do return prepend (← coded? [a, b]) (← longBasic? false rest)
  | '\\' :: 'u' :: a :: b :: c :: d :: rest => do
    return prepend (← coded? [a, b, c, d]) (← longBasic? false rest)
  | '\\' :: 'U' :: a :: b :: c :: d :: e :: f :: g :: h :: rest => do
    return prepend (← coded? [a, b, c, d, e, f, g, h]) (← longBasic? false rest)
  | '\\' :: c :: rest =>
    if endsLine (c :: rest) then longBasic? true (c :: rest)
    else do return prepend (← escaped? c) (← longBasic? false rest)
  | c :: rest =>
    if joining && (isBlank c || c == '\n') then longBasic? true rest
    else if (isPlain c ∨ c = '\n') ∧ c ≠ '\\' then (longBasic? false rest).map (prepend c)
    else none

def longLiteral? : List Char → Option (List Char × List Char)
  | [] => none
  | '\'' :: '\'' :: '\'' :: '\'' :: '\'' :: rest => some (['\'', '\''], rest)
  | '\'' :: '\'' :: '\'' :: '\'' :: rest => some (['\''], rest)
  | '\'' :: '\'' :: '\'' :: rest => some ([], rest)
  | '\r' :: '\n' :: rest => (longLiteral? rest).map (prepend '\n')
  | c :: rest => if isPlain c ∨ c = '\n' then (longLiteral? rest).map (prepend c) else none

/-- A newline right behind the opening quotes is not part of the string. -/
def dropNewline : List Char → List Char
  | '\n' :: rest => rest
  | '\r' :: '\n' :: rest => rest
  | text => text

def short? : List Char → Option (List Char × List Char)
  | '"' :: rest => basic? rest
  | '\'' :: rest => literal? rest
  | _ => none

def string? : List Char → Option (List Char × List Char)
  | '"' :: '"' :: '"' :: rest => longBasic? false (dropNewline rest)
  | '\'' :: '\'' :: '\'' :: rest => longLiteral? (dropNewline rest)
  | text => short? text

end SyntaxQuery.Toml.Quoted
