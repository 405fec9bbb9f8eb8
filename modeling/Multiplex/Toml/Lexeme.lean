/-!
# The small parts of a TOML document

Blanks, line ends, comments, strings and keys.  A reader takes a list of
characters and gives what it read together with the rest, or nothing where the
text is not as it should be.

Every reader is a recursion on its text.  Where an escape is followed by blanks
that are skipped, the recursion carries a mode, so that it still takes one
character at a time.
-/

namespace Multiplex.Toml

/-- Reads a thing off the front of a text. -/
abbrev Reader (α : Type) := List Char → Option (α × List Char)

/-! ## Blanks, line ends and comments -/

/-- Spaces and tabs. -/
def isBlank (c : Char) : Bool := c == ' ' || c == '\t'

/-- Skips spaces and tabs. -/
def skipBlanks (cs : List Char) : List Char := cs.dropWhile isBlank

/-- The characters of comments and literal strings: no controls, the tab apart. -/
def isVisible (c : Char) : Bool := c == '\t' || (' ' ≤ c && c != '\x7f')

/-- The rest behind a line end, if there is one: a line feed, also behind a
carriage return. -/
def newline? : List Char → Option (List Char)
  | '\n' :: cs => some cs
  | '\r' :: '\n' :: cs => some cs
  | _ => none

/-- Skips a comment. -/
def skipComment : List Char → List Char
  | '#' :: cs => cs.dropWhile isVisible
  | cs => cs

/-- The rest behind a line on which nothing but a comment is left. -/
def lineEnd? (cs : List Char) : Option (List Char) :=
  match skipComment (skipBlanks cs) with
  | [] => some []
  | cs => newline? cs

/-- Skips blanks, line ends and comments between the items of an array. -/
def skipFiller (inComment : Bool) : List Char → List Char
  | '\n' :: cs => skipFiller false cs
  | '\r' :: '\n' :: cs => skipFiller false cs
  | c :: cs =>
    if inComment then if isVisible c then skipFiller true cs else c :: cs
    else if isBlank c then skipFiller false cs
    else if c == '#' then skipFiller true cs
    else c :: cs
  | [] => []

/-! ## Strings -/

/-- The value of a hexadecimal digit. -/
def hexValue? (c : Char) : Option Nat :=
  if c.isDigit then some (c.toNat - '0'.toNat)
  else if 'a' ≤ c && c ≤ 'f' then some (c.toNat - 'a'.toNat + 10)
  else if 'A' ≤ c && c ≤ 'F' then some (c.toNat - 'A'.toNat + 10)
  else none

/-- The character that a code written in hexadecimal digits stands for.  Codes of
no character are refused. -/
def ofCode? (digits : List Char) : Option Char := do
  let values ← digits.mapM hexValue?
  let code := values.foldl (fun code value => code * 16 + value) 0
  if code.isValidChar then some (Char.ofNat code) else none

/-- What a single character behind a backslash stands for. -/
def ofEscape? : Char → Option Char
  | 'b' => some '\x08'
  | 't' => some '\t'
  | 'n' => some '\n'
  | 'f' => some '\x0c'
  | 'r' => some '\r'
  | '"' => some '"'
  | '\\' => some '\\'
  | _ => none

/-- Puts a character in front of what was read. -/
def consChar (c : Char) (read : Option (List Char × List Char)) :
    Option (List Char × List Char) :=
  read.map fun (text, rest) => (c :: text, rest)

/-- Reads a basic string behind its opening quote. -/
def basicString : List Char → Option (List Char × List Char)
  | '"' :: cs => some ([], cs)
  | '\\' :: 'u' :: a :: b :: c :: d :: cs =>
    (ofCode? [a, b, c, d]).bind fun char => consChar char (basicString cs)
  | '\\' :: 'U' :: a :: b :: c :: d :: e :: f :: g :: h :: cs =>
    (ofCode? [a, b, c, d, e, f, g, h]).bind fun char => consChar char (basicString cs)
  | '\\' :: c :: cs => (ofEscape? c).bind fun char => consChar char (basicString cs)
  | c :: cs => if isVisible c && c != '\\' then consChar c (basicString cs) else none
  | [] => none

/-- Reads a literal string behind its opening quote. -/
def literalString : List Char → Option (List Char × List Char)
  | '\'' :: cs => some ([], cs)
  | c :: cs => if isVisible c then consChar c (literalString cs) else none
  | [] => none

/-- Where the reading of a long string stands: in its text, behind a backslash
that must be followed by a line end, or in the blanks behind such a line end. -/
inductive LongMode
  | text
  | untilLineEnd
  | afterLineEnd
  deriving DecidableEq, Repr, Inhabited

/-- Reads a long basic string behind its opening quotes.  Up to two quotes may
stand directly before the three that close it. -/
def longBasicString (mode : LongMode) : List Char → Option (List Char × List Char)
  | '\n' :: cs =>
    match mode with
    | .text => consChar '\n' (longBasicString .text cs)
    | _ => longBasicString .afterLineEnd cs
  | '\r' :: '\n' :: cs =>
    match mode with
    | .text => consChar '\n' (longBasicString .text cs)
    | _ => longBasicString .afterLineEnd cs
  | c :: cs =>
    if mode != .text && isBlank c then longBasicString mode cs
    else if mode == .untilLineEnd then none
    else
      match c, cs with
      | '"', '"' :: '"' :: '"' :: '"' :: '"' :: _ => none
      | '"', '"' :: '"' :: '"' :: '"' :: rest => some (['"', '"'], rest)
      | '"', '"' :: '"' :: '"' :: rest => some (['"'], rest)
      | '"', '"' :: '"' :: rest => some ([], rest)
      | '\\', 'u' :: a :: b :: c :: d :: cs =>
        (ofCode? [a, b, c, d]).bind fun char => consChar char (longBasicString .text cs)
      | '\\', 'U' :: a :: b :: c :: d :: e :: f :: g :: h :: cs =>
        (ofCode? [a, b, c, d, e, f, g, h]).bind fun char =>
          consChar char (longBasicString .text cs)
      | '\\', next :: rest =>
        match ofEscape? next with
        | some char => consChar char (longBasicString .text rest)
        | none => longBasicString .untilLineEnd (next :: rest)
      | c, cs => if isVisible c && c != '\\' then consChar c (longBasicString .text cs) else none
  | [] => none

/-- Reads a long literal string behind its opening quotes. -/
def longLiteralString : List Char → Option (List Char × List Char)
  | '\'' :: '\'' :: '\'' :: '\'' :: '\'' :: '\'' :: _ => none
  | '\'' :: '\'' :: '\'' :: '\'' :: '\'' :: cs => some (['\'', '\''], cs)
  | '\'' :: '\'' :: '\'' :: '\'' :: cs => some (['\''], cs)
  | '\'' :: '\'' :: '\'' :: cs => some ([], cs)
  | '\n' :: cs => consChar '\n' (longLiteralString cs)
  | '\r' :: '\n' :: cs => consChar '\n' (longLiteralString cs)
  | c :: cs => if isVisible c then consChar c (longLiteralString cs) else none
  | [] => none

/-- A line end directly behind the opening quotes of a long string does not count. -/
def dropNewline (cs : List Char) : List Char := (newline? cs).getD cs

/-- Reads a string of any of the four kinds. -/
def string? : Reader String := fun cs =>
  let ofChars := fun (read : Option (List Char × List Char)) =>
    read.map fun (text, rest) => (String.ofList text, rest)
  match cs with
  | '"' :: '"' :: '"' :: cs => ofChars (longBasicString .text (dropNewline cs))
  | '"' :: cs => ofChars (basicString cs)
  | '\'' :: '\'' :: '\'' :: cs => ofChars (longLiteralString (dropNewline cs))
  | '\'' :: cs => ofChars (literalString cs)
  | _ => none

/-! ## Keys -/

/-- The characters of a key without quotes. -/
def isKeyChar (c : Char) : Bool := c.isAlphanum || c == '_' || c == '-'

/-- Reads one part of a key: bare, or as a string on one line. -/
def keyPart? : Reader String := fun cs =>
  match cs with
  | '"' :: cs => (basicString cs).map fun (text, rest) => (String.ofList text, rest)
  | '\'' :: cs => (literalString cs).map fun (text, rest) => (String.ofList text, rest)
  | cs =>
    match cs.takeWhile isKeyChar with
    | [] => none
    | part => some (String.ofList part, cs.dropWhile isKeyChar)

/-- Reads a key of at most so many parts, with blanks around each. -/
def keyPath? : Nat → Reader (List String)
  | 0, _ => none
  | limit + 1, cs =>
    match keyPart? (skipBlanks cs) with
    | none => none
    | some (part, cs) =>
      match skipBlanks cs with
      | '.' :: cs => (keyPath? limit cs).map fun (path, rest) => (part :: path, rest)
      | cs => some ([part], cs)

end Multiplex.Toml
