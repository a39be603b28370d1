import DesignRules.Toml.Entries
import DesignRules.Toml.Scalar

/-!
# Reading TOML

The table that a TOML document stands for. A document is a list of lines, each of which is a
header, a key with its value, or nothing; comments may end any line.

## Implementation notes

Values can hold other values, but only to a certain depth, and dotted keys can only have a
certain number of parts; deeper documents are refused. The argument `fuel` bounds the number of
steps. A step into a value and a step into its items together read a character, so twice the
number of characters left is enough.

## Main definitions

* `Toml.key?` — a key with its dots
* `Toml.value?`, `Toml.items?`, `Toml.pairs?` — a value, the items of a list, and the pairs of a
  table between braces
* `Toml.line?` — one line of a document
* `Toml.read?` — the entries of a document
-/

namespace DesignRules.Toml

/-- The number of lists and tables that may lie around a value, and one more than the number of
dots that a key may have. -/
def depthLimit : Nat := 79

/-! ### Blanks, comments and ends of lines -/

/-- What is left after a comment, if there is one at the front. -/
def skipComment : List Char → List Char
  | '#' :: rest => rest.dropWhile isPlain
  | rest => rest

/-- What is left after the rest of a line that holds nothing more than a comment. -/
def lineEnd? (chars : List Char) : Option (List Char) :=
  match skipComment (skipBlanks chars) with
  | [] => some []
  | rest => newline? rest

/-- What is left after blanks, comments and ends of lines, as they may stand between the items of
a list. -/
def skipLines : (inComment : Bool) → List Char → List Char
  | _, [] => []
  | true, '\r' :: '\n' :: rest => skipLines false rest
  | true, '\n' :: rest => skipLines false rest
  | true, c :: rest => if isPlain c then skipLines true rest else c :: rest
  | false, '\r' :: '\n' :: rest => skipLines false rest
  | false, c :: rest =>
    if isBlank c || c == '\n' then skipLines false rest
    else if c == '#' then skipLines true rest
    else c :: rest

/-! ### Keys -/

/-- Whether a character may stand in a key without quotes. -/
def isBareKeyChar (c : Char) : Bool := c.isAlphanum || c == '-' || c == '_'

/-- A key without dots. -/
def simpleKey? : List Char → Option (String × List Char)
  | '\"' :: rest => (lineText? rest).map fun (chars, left) => (String.ofList chars, left)
  | '\x27' :: rest => (lineLiteral? rest).map fun (chars, left) => (String.ofList chars, left)
  | chars =>
    let found := chars.takeWhile isBareKeyChar
    if found.isEmpty then none else some (String.ofList found, chars.dropWhile isBareKeyChar)

/-- A key with its dots: its parts in order, and what is left after the blanks behind it. -/
def key? : (fuel : Nat) → List Char → Option (List String × List Char)
  | 0, _ => none
  | fuel + 1, chars => do
    let (part, rest) ← simpleKey? (skipBlanks chars)
    match skipBlanks rest with
    | '.' :: more => do
      let (parts, left) ← key? fuel more
      pure (part :: parts, left)
    | left => pure ([part], left)

/-- The parts of a key before the last, and the last. -/
def splitKey : List String → Option (List String × String)
  | [] => none
  | [key] => some ([], key)
  | first :: next :: rest => (splitKey (next :: rest)).map fun (path, key) => (first :: path, key)

/-! ### Values -/

/-- A text, whichever way it is written. -/
def text? : List Char → Option (String × List Char)
  | '\"' :: '\"' :: '\"' :: rest =>
    (longText? false (dropNewline rest)).map fun (chars, left) => (String.ofList chars, left)
  | '\"' :: rest => (lineText? rest).map fun (chars, left) => (String.ofList chars, left)
  | '\x27' :: '\x27' :: '\x27' :: rest =>
    (longLiteral? (dropNewline rest)).map fun (chars, left) => (String.ofList chars, left)
  | '\x27' :: rest => (lineLiteral? rest).map fun (chars, left) => (String.ofList chars, left)
  | _ => none

/-- A value that holds no other value. -/
def scalar? : List Char → Option (Toml × List Char)
  | 't' :: 'r' :: 'u' :: 'e' :: rest => some (.bool true, rest)
  | 'f' :: 'a' :: 'l' :: 's' :: 'e' :: rest => some (.bool false, rest)
  | 'i' :: 'n' :: 'f' :: rest => some (.float, rest)
  | 'n' :: 'a' :: 'n' :: rest => some (.float, rest)
  | c :: rest =>
    if c == '\"' || c == '\x27' then
      (text? (c :: rest)).map fun (value, left) => (.text value, left)
    else if c == '+' || c == '-' || c.isDigit then number? (c :: rest)
    else none
  | [] => none

mutual

/-- A value, with at most `depth` lists and tables around what it holds. -/
def value? : (fuel depth : Nat) → List Char → Option (Toml × List Char)
  | 0, _, _ => none
  | fuel + 1, depth, chars =>
    match chars, depth with
    | '[' :: rest, depth + 1 => do
      let (items, left) ← items? fuel depth rest
      pure (.list items, left)
    | '\x7b' :: rest, depth + 1 => do
      let (entries, left) ← pairs? fuel depth [] rest
      pure (.table (closeEntries entries), left)
    | '[' :: _, 0 => none
    | '\x7b' :: _, 0 => none
    | chars, _ => scalar? chars

/-- The items of a list and its end; a comma may stand after the last item. -/
def items? : (fuel depth : Nat) → List Char → Option (List Toml × List Char)
  | 0, _, _ => none
  | fuel + 1, depth, chars =>
    match skipLines false chars with
    | ']' :: left => some ([], left)
    | start => do
      let (item, rest) ← value? fuel depth start
      match skipLines false rest with
      | ']' :: left => pure ([item], left)
      | ',' :: rest => do
        let (items, left) ← items? fuel depth rest
        pure (item :: items, left)
      | _ => none

/-- The pairs of a table between braces and its end, added to the entries so far. It must stand
on one line, apart from what its values do, and no comma may stand after the last pair. -/
def pairs? : (fuel depth : Nat) → Entries → List Char → Option (Entries × List Char)
  | 0, _, _, _ => none
  | fuel + 1, depth, entries, chars =>
    match skipBlanks chars, entries with
    | '\x7d' :: left, [] => some ([], left)
    | start, entries => do
      let (parts, rest) ← key? depthLimit start
      let (path, key) ← splitKey parts
      let rest ← expect? '=' rest
      let (value, rest) ← value? fuel depth (skipBlanks rest)
      let entries ← insertDotted key value path entries
      match skipBlanks rest with
      | '\x7d' :: left => pure (entries, left)
      | ',' :: rest => pairs? fuel depth entries rest
      | _ => none

end

/-! ### Documents -/

/-- A document that has been read to the end of a line. -/
structure Progress where
  /-- The entries of the whole document. -/
  entries : Entries
  /-- The keys of the header of the table at hand. -/
  path : List String

/-- Reads one line: a header, a key with its value, or neither. -/
def line? (fuel : Nat) (p : Progress) (chars : List Char) : Option (Progress × List Char) :=
  match chars with
  | '#' :: _ => (lineEnd? chars).map (p, ·)
  | '\n' :: rest => some (p, rest)
  | '\r' :: '\n' :: rest => some (p, rest)
  | '[' :: '[' :: rest => do
    let (parts, rest) ← key? depthLimit rest
    let rest ← expect? ']' (← expect? ']' rest)
    let left ← lineEnd? rest
    let (path, key) ← splitKey parts
    let entries ← under (appendTable key) path p.entries
    pure (⟨entries, parts⟩, left)
  | '[' :: rest => do
    let (parts, rest) ← key? depthLimit rest
    let left ← lineEnd? (← expect? ']' rest)
    let (path, key) ← splitKey parts
    let entries ← under (openTable key) path p.entries
    pure (⟨entries, parts⟩, left)
  | chars => do
    let (parts, rest) ← key? depthLimit chars
    let (path, key) ← splitKey parts
    let rest ← expect? '=' rest
    let (value, rest) ← value? fuel depthLimit (skipBlanks rest)
    let left ← lineEnd? rest
    let entries ← under (insertDotted key value path) p.path p.entries
    pure (⟨entries, p.path⟩, left)

/-- Reads the lines that are left. -/
def lines? : (fuel : Nat) → Progress → List Char → Option Progress
  | 0, _, _ => none
  | fuel + 1, p, chars =>
    match skipBlanks chars with
    | [] => some p
    | start => do
      let (p, left) ← line? (2 * start.length.succ) p start
      lines? fuel p left

/-- The entries of a document. A byte order mark at its front does not count. -/
def read? (source : String) : Option (List (String × Toml)) :=
  let chars :=
    match source.toList with
    | '\ufeff' :: rest => rest
    | chars => chars
  (lines? chars.length.succ ⟨[], []⟩ chars).map fun p => closeEntries p.entries

end DesignRules.Toml
