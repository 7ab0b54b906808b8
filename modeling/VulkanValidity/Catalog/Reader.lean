/-
  VulkanValidity.Catalog.Reader

  Readers take pieces from the start of a text. A reader fails where the text does not go on as it
  expects, and then nothing is read. White space and comments are read as one blank; block comments
  nest. `items` reads what stands between brackets: pieces with commas between them, and perhaps a
  comma after the last one.
-/

namespace VulkanValidity.Catalog

/-- A reader gives a piece from the start of a text and the rest of the text, or fails. -/
abbrev Reader (α : Type) := StateT (List Char) Option α

namespace Reader

variable {α : Type}

/-! ## Pieces -/

/-- The next character, which is not taken. -/
def peek? : Reader (Option Char) := fun cs => some (cs.head?, cs)

/-- Takes the characters up to the first one that does not satisfy `p`. -/
def takeWhile (p : Char → Bool) : Reader (List Char) := fun cs =>
  some (cs.takeWhile p, cs.dropWhile p)

/-- Takes a word if the text starts with it, and tells whether it did. -/
def accept (word : String) : Reader Bool := fun cs =>
  if word.toList.isPrefixOf cs then some (true, cs.drop word.length) else some (false, cs)

/-- Takes a word, with which the text has to start. -/
def expect (word : String) : Reader Unit := do
  guard (← accept word)

/-- Reads a piece if there is one. -/
def optionally (reader : Reader α) : Reader (Option α) := fun cs =>
  match reader cs with
  | some (piece, rest) => some (some piece, rest)
  | none => some (none, cs)

/-- Whether a reader would succeed. Nothing is taken. -/
def ahead (reader : Reader α) : Reader Bool := fun cs =>
  some ((reader cs).isSome, cs)

/-- Reads the whole of a text. -/
def whole? (reader : Reader α) (source : String) : Option α :=
  match reader source.toList with
  | some (piece, []) => some piece
  | _ => none

/-! ## Blanks -/

/-- Whether the character is white space. -/
def isBlank (c : Char) : Bool := c == ' ' || c == '\t' || c == '\n' || c == '\r'

mutual

/-- The text after white space and comments. A slash that starts no comment is an error. -/
def afterBlank? : List Char → Option (List Char)
  | [] => some []
  | '/' :: '/' :: rest => afterLine? rest
  | '/' :: '*' :: rest => afterBlock? 0 rest
  | '/' :: _ => none
  | c :: rest => if isBlank c then afterBlank? rest else some (c :: rest)

/-- The text after the rest of a line comment and the blank that follows it. -/
def afterLine? : List Char → Option (List Char)
  | [] => some []
  | '\n' :: rest => afterBlank? rest
  | _ :: rest => afterLine? rest

/-- The text after the rest of a block comment, of which `level + 1` openings are still to be closed,
and the blank that follows it. -/
def afterBlock? : Nat → List Char → Option (List Char)
  | _, [] => none
  | level, '/' :: '*' :: rest => afterBlock? (level + 1) rest
  | 0, '*' :: '/' :: rest => afterBlank? rest
  | level + 1, '*' :: '/' :: rest => afterBlock? level rest
  | level, _ :: rest => afterBlock? level rest

end

/-- Skips white space and comments. -/
def blank : Reader Unit := fun cs => (afterBlank? cs).map fun rest => ((), rest)

/-- Takes a word and the blank after it. -/
def symbol (word : String) : Reader Unit := do
  expect word
  blank

/-- Takes a comma with the blanks around it, and tells whether there was one. -/
def comma : Reader Bool := do
  blank
  let found ← accept ","
  if found then blank
  pure found

/-! ## Items between brackets -/

/-- Reads at most `fuel` items up to a closing bracket. -/
def itemsUpTo (closing : String) (item : Reader α) : Nat → Reader (List α)
  | 0 => failure
  | fuel + 1 => do
    blank
    if ← accept closing then pure []
    else
      let first ← item
      if ← comma then
        let others ← itemsUpTo closing item fuel
        pure (first :: others)
      else
        expect closing
        pure [first]

/-- Reads items up to a closing bracket. Each of them takes at least one character. -/
def items (closing : String) (item : Reader α) : Reader (List α) := fun cs =>
  itemsUpTo closing item (cs.length + 1) cs

end Reader

end VulkanValidity.Catalog
