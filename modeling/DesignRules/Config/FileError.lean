import DesignRules.Text.Basic

/-!
# Files that cannot be read

A path is a sequence of names with slashes between them. It is followed name by name from a
directory; the empty name and the names `.` and `..` lead from a directory to a directory, so what
ends a walk on which there is no file is the first name of another form. A name that is too long is
refused before it is looked up, and so is a path as a whole.

## Main definitions

* `FileError`, `FileError.message` — why a file cannot be read, and the sentence for it
* `FileError.ofPath` — why there is nothing to read at a path that leads to no file

## Main results

* `FileError.ofNames_append` — names that lead to a directory do not change the reason
-/

namespace DesignRules

/-- Why a file cannot be read. -/
inductive FileError where
  /-- There is nothing of that name. -/
  | missing
  /-- The path leads to a directory. -/
  | directory
  /-- The path, or a name in it, has more bytes than it may have. -/
  | nameTooLong
  /-- The path holds the character that marks the end of a path. -/
  | endMarkInPath
  /-- The bytes of the file are no UTF-8. -/
  | notText
  deriving DecidableEq, Repr

namespace FileError

/-- The sentence shown for the error, with its number if it has one. -/
def message : FileError → String
  | missing => "No such file or directory (os error 2)"
  | directory => "Is a directory (os error 21)"
  | nameTooLong => "File name too long (os error 36)"
  | endMarkInPath => "file name contained an unexpected NUL byte"
  | notText => "stream did not contain valid UTF-8"

/-- The most bytes that a name may have. -/
def nameLimit : Nat := 255

/-- The most bytes that a path may have. -/
def pathLimit : Nat := 4095

/-- The number of bytes of a text in UTF-8. -/
def byteCount (text : List Char) : Nat := text.foldr (fun c rest => c.utf8Size + rest) 0

/-- Whether a name leads from a directory to a directory wherever it is looked up. -/
def isDirectoryName (name : List Char) : Bool :=
  name == [] || name == ['.'] || name == ['.', '.']

/-- What ends a walk along the names if none of them is the name of a file. -/
def ofNames : List (List Char) → FileError
  | [] => directory
  | name :: names =>
    if isDirectoryName name then ofNames names
    else if nameLimit < byteCount name then nameTooLong
    else missing

theorem ofNames_append {front : List (List Char)} (h : ∀ name ∈ front, isDirectoryName name = true)
    (names : List (List Char)) : ofNames (front ++ names) = ofNames names := by
  induction front with
  | nil => rfl
  | cons name front ih =>
    have hname : isDirectoryName name = true := h name (List.mem_cons_self ..)
    rw [List.cons_append, ofNames, if_pos hname]
    exact ih fun other hother => h other (List.mem_cons_of_mem name hother)

/-- Why there is nothing to read at a path that leads to no file. The empty path leads nowhere. -/
def ofPath (path : String) : FileError :=
  if path.toList.contains '\x00' then endMarkInPath
  else if path.toList = [] then missing
  else if pathLimit < byteCount path.toList then nameTooLong
  else ofNames (path.toList.splitOn '/')

end FileError

end DesignRules
