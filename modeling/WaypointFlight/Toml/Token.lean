namespace WaypointFlight.Toml

inductive Token where
  | blank (s : String)
  | newline
  | comment
  | equals
  | period
  | comma
  | colon
  | plus
  | leftBrace
  | rightBrace
  | leftBracket
  | rightBracket
  | word (s : String)
  | text (s : String) (multiline : Bool)
  deriving DecidableEq, Repr

/-- Basic strings, in double quotes, have escapes; literal strings, in single quotes, have none. -/
inductive Quote where
  | basic
  | literal
  deriving DecidableEq, Repr

def Quote.mark : Quote → Char
  | .basic => '"'
  | .literal => '\''

structure TextKind where
  quote : Quote
  multiline : Bool
  deriving DecidableEq, Repr

namespace Lexer

/-- What the lexer is in the middle of. Characters read so far are in reverse order. -/
inductive State where
  | start
  | blank (s : List Char)
  | comment
  | word (s : List Char)
  | opened (q : Quote)
  | openedTwice (q : Quote)
  /-- After the third opening quote: a newline that follows at once is no part of the text. -/
  | firstOfLines (q : Quote)
  | body (k : TextKind) (s : List Char)
  | closing (q : Quote) (s : List Char) (quotes : Nat)
  | escape (multiline : Bool) (s : List Char)
  | codePoint (multiline : Bool) (s : List Char) (left value : Nat)
  /-- After a backslash and blanks: the line has to end. -/
  | lineEnd (s : List Char)
  /-- After a backslash at the end of a line: blanks and newlines are skipped. -/
  | indent (s : List Char)

def isWordChar (c : Char) : Bool := c.isAlphanum || c = '-' || c = '_'

def isPrintable (c : Char) : Bool := c = '\t' || ' ' ≤ c

def isTextChar (c : Char) : Bool := isPrintable c && c ≠ '\x7f'

def sign? : Char → Option Token
  | '\n' => some .newline
  | '=' => some .equals
  | '.' => some .period
  | ',' => some .comma
  | ':' => some .colon
  | '+' => some .plus
  | '{' => some .leftBrace
  | '}' => some .rightBrace
  | '[' => some .leftBracket
  | ']' => some .rightBracket
  | _ => none

def ofReverse (s : List Char) : String := String.ofList s.reverse

def begin (c : Char) : Option (List Token × State) :=
  match sign? c with
  | some t => some ([t], .start)
  | none =>
    if c = ' ' ∨ c = '\t' then some ([], .blank [c])
    else if c = '#' then some ([], .comment)
    else if c = '"' then some ([], .opened .basic)
    else if c = '\'' then some ([], .opened .literal)
    else if isWordChar c then some ([], .word [c])
    else none

def emit (t : Token) (c : Char) : Option (List Token × State) :=
  (begin c).map fun (ts, s) => (t :: ts, s)

def quotes (q : Quote) (n : Nat) : List Char := List.replicate n q.mark

def inBody (k : TextKind) (s : List Char) (c : Char) : Option (List Token × State) :=
  if c = '\n' then
    if k.multiline then some ([], .body k (c :: s)) else none
  else if c = k.quote.mark then
    if k.multiline then some ([], .closing k.quote s 1)
    else some ([.text (ofReverse s) false], .start)
  else if c = '\\' ∧ k.quote = .basic then some ([], .escape k.multiline s)
  else if isTextChar c then some ([], .body k (c :: s))
  else none

def escaped? : Char → Option Char
  | '"' => some '"'
  | '\\' => some '\\'
  | 'b' => some '\x08'
  | 'f' => some '\x0c'
  | 'n' => some '\n'
  | 'r' => some '\r'
  | 't' => some '\t'
  | _ => none

def basicBody (multiline : Bool) (s : List Char) : State := .body ⟨.basic, multiline⟩ s

def afterBackslash (multiline : Bool) (s : List Char) (c : Char) : Option (List Token × State) :=
  match escaped? c with
  | some e => some ([], basicBody multiline (e :: s))
  | none =>
    if c = 'u' then some ([], .codePoint multiline s 4 0)
    else if c = 'U' then some ([], .codePoint multiline s 8 0)
    else if multiline ∧ c = '\n' then some ([], .indent s)
    else if multiline ∧ (c = ' ' ∨ c = '\t') then some ([], .lineEnd s)
    else none

def hexDigit? (c : Char) : Option Nat :=
  if '0' ≤ c ∧ c ≤ '9' then some (c.toNat - '0'.toNat)
  else if 'a' ≤ c ∧ c ≤ 'f' then some (c.toNat - 'a'.toNat + 10)
  else if 'A' ≤ c ∧ c ≤ 'F' then some (c.toNat - 'A'.toNat + 10)
  else none

def inCodePoint (multiline : Bool) (s : List Char) (left value : Nat) (c : Char) :
    Option (List Token × State) := do
  let value := 16 * value + (← hexDigit? c)
  if 1 < left then return ([], .codePoint multiline s (left - 1) value)
  else if value.isValidChar then return ([], basicBody multiline (Char.ofNat value :: s))
  else none

/-- After `n` quotes inside a text of many lines. Three close it, and up to two before them belong
to it. -/
def inClosing (q : Quote) (s : List Char) (n : Nat) (c : Char) : Option (List Token × State) :=
  if c = q.mark then
    if n = 4 then some ([.text (ofReverse (quotes q 2 ++ s)) true], .start)
    else some ([], .closing q s (n + 1))
  else if n < 3 then inBody ⟨q, true⟩ (quotes q n ++ s) c
  else emit (.text (ofReverse (quotes q (n - 3) ++ s)) true) c

def step : State → Char → Option (List Token × State)
  | .start, c => begin c
  | .blank s, c =>
    if c = ' ' ∨ c = '\t' then some ([], .blank (c :: s)) else emit (.blank (ofReverse s)) c
  | .comment, c => if isPrintable c then some ([], .comment) else emit .comment c
  | .word s, c => if isWordChar c then some ([], .word (c :: s)) else emit (.word (ofReverse s)) c
  | .opened q, c => if c = q.mark then some ([], .openedTwice q) else inBody ⟨q, false⟩ [] c
  | .openedTwice q, c => if c = q.mark then some ([], .firstOfLines q) else emit (.text "" false) c
  | .firstOfLines q, c =>
    if c = '\n' then some ([], .body ⟨q, true⟩ []) else inBody ⟨q, true⟩ [] c
  | .body k s, c => inBody k s c
  | .closing q s n, c => inClosing q s n c
  | .escape multiline s, c => afterBackslash multiline s c
  | .codePoint multiline s left value, c => inCodePoint multiline s left value c
  | .lineEnd s, c =>
    if c = ' ' ∨ c = '\t' then some ([], .lineEnd s)
    else if c = '\n' then some ([], .indent s)
    else none
  | .indent s, c =>
    if c = ' ' ∨ c = '\t' ∨ c = '\n' then some ([], .indent s) else inBody ⟨.basic, true⟩ s c

def finish : State → Option (List Token)
  | .start => some []
  | .blank s => some [.blank (ofReverse s)]
  | .comment => some [.comment]
  | .word s => some [.word (ofReverse s)]
  | .openedTwice _ => some [.text "" false]
  | .closing q s n =>
    if n < 3 then none else some [.text (ofReverse (quotes q (n - 3) ++ s)) true]
  | _ => none

def run (found : List Token × State) (c : Char) : Option (List Token × State) :=
  (step found.2 c).map fun (ts, s) => (ts.reverse ++ found.1, s)

end Lexer

/-- A carriage return before a newline is no part of the text. -/
def foldLines : List Char → List Char
  | '\r' :: '\n' :: rest => '\n' :: foldLines rest
  | c :: rest => c :: foldLines rest
  | [] => []

def byteOrderMark : Char := '\ufeff'

def tokens? (text : String) : Option (List Token) := do
  let chars := text.toList
  let chars := if chars.head? = some byteOrderMark then chars.tail else chars
  let (found, state) ← (foldLines chars).foldlM Lexer.run ([], .start)
  return found.reverse ++ (← Lexer.finish state)

end WaypointFlight.Toml
