/-
  VulkanValidity.Catalog.Lexeme

  The smallest pieces of the notation that rule catalogs are written in: identifiers, strings with
  escapes or in raw form, characters and numbers. An identifier in raw form follows the sign `r#`,
  may contain dots and signs, and is never a keyword.
-/

import VulkanValidity.Catalog.Reader

namespace VulkanValidity.Catalog.Reader

/-! ## Identifiers -/

/-- Whether a name can begin with the character. -/
def isNameStart (c : Char) : Bool := c.isAlpha || c == '_'

/-- Whether a name can go on with the character. -/
def isNamePart (c : Char) : Bool := c.isAlphanum || c == '_'

/-- Whether a raw name, written after `r#`, can go on with the character. -/
def isRawNamePart (c : Char) : Bool := isNamePart c || c == '.' || c == '+' || c == '-'

/-- Whether a text starts with a character that satisfies `p`. -/
def startsWith (p : Char → Bool) (cs : List Char) : Bool := cs.head?.any p

/-- Whether a text starts with a string in raw form, or with what could only be one. -/
def startsRawText : List Char → Bool
  | 'r' :: '"' :: _ => true
  | 'r' :: '#' :: rest => !startsWith isRawNamePart rest
  | _ => false

/-- Reads an identifier. A plain one does not go on with a character that only raw ones contain. -/
def identifier : Reader String := do
  let cs ← get
  guard (!startsRawText cs)
  if ← accept "r#" then
    String.ofList <$> takeWhile isRawNamePart
  else
    guard (startsWith isNameStart cs)
    let name ← takeWhile isNamePart
    guard (!startsWith isRawNamePart (← get))
    pure (String.ofList name)

/-- Whether the text starts with a name and goes on with no other part of an identifier. -/
def namedAhead (name : String) : Reader Bool := ahead do
  expect name
  guard (!startsWith isNamePart (← get))

/-- Takes the given name, and tells whether it was there. -/
def acceptName (name : String) : Reader Bool := do
  let found ← namedAhead name
  if found then expect name
  pure found

/-! ## Escapes -/

/-- The value of a digit, of either case, in any base up to sixteen. -/
def digitValue? (c : Char) : Option Nat :=
  if c.isDigit then some (c.toNat - '0'.toNat)
  else if 'a' ≤ c ∧ c ≤ 'f' then some (c.toNat - 'a'.toNat + 10)
  else if 'A' ≤ c ∧ c ≤ 'F' then some (c.toNat - 'A'.toNat + 10)
  else none

/-- The number that digits of a base stand for. -/
def valueIn? (base : Nat) (digits : List Char) : Option Nat :=
  digits.foldlM (fun value c => do
    let digit ← digitValue? c
    if digit < base then some (base * value + digit) else none) 0

/-- The character with a number, if there is one. -/
def charOf? (n : Nat) : Option Char :=
  if n.isValidChar then some (Char.ofNat n) else none

/-- Reads what follows the backslash of an escape. -/
def escape : Reader Char := fun
  | '\'' :: rest => some ('\'', rest)
  | '"' :: rest => some ('"', rest)
  | '\\' :: rest => some ('\\', rest)
  | 'n' :: rest => some ('\n', rest)
  | 'r' :: rest => some ('\r', rest)
  | 't' :: rest => some ('\t', rest)
  | '0' :: rest => some ('\x00', rest)
  | 'x' :: a :: b :: rest => do
    let value ← valueIn? 16 [a, b]
    pure (Char.ofNat value, rest)
  | 'u' :: '\x7b' :: rest =>
    let digits := rest.takeWhile (· != '\x7d')
    if digits.isEmpty || 6 < digits.length then none
    else
      match rest.drop digits.length with
      | '\x7d' :: after => do
        let value ← valueIn? 16 digits
        let c ← charOf? value
        pure (c, after)
      | _ => none
  | _ => none

/-! ## Strings and characters -/

/-- Reads a string up to the quote that ends it; `fuel` bounds the number of its characters. -/
def quotedUpTo : Nat → Reader (List Char)
  | 0 => failure
  | fuel + 1 => do
    match ← get with
    | '"' :: rest =>
      set rest
      pure []
    | '\\' :: rest =>
      set rest
      let c ← escape
      let others ← quotedUpTo fuel
      pure (c :: others)
    | c :: rest =>
      set rest
      let others ← quotedUpTo fuel
      pure (c :: others)
    | [] => failure

/-- Takes the rest of a string after its opening quote. -/
def quoted : Reader String := fun cs =>
  (quotedUpTo (cs.length + 1) cs).map fun (value, rest) => (String.ofList value, rest)

/-- The characters up to a quote that `hashes` hash signs follow, and the text after these. -/
def splitRaw? (hashes : Nat) : List Char → Option (List Char × List Char)
  | [] => none
  | c :: rest =>
    if c = '"' ∧ rest.take hashes = List.replicate hashes '#' then some ([], rest.drop hashes)
    else (splitRaw? hashes rest).map fun (value, after) => (c :: value, after)

/-- Reads a string in raw form after the letter that announces it. -/
def rawQuoted : Reader String := do
  let hashes ← takeWhile (· == '#')
  expect "\""
  String.ofList <$> splitRaw? hashes.length

/-- Takes a string, plain or raw. -/
def text : Reader String := do
  if ← accept "\"" then quoted
  else
    expect "r"
    rawQuoted

/-- Takes a character between single quotes. -/
def character : Reader Char := do
  expect "'"
  match ← get with
  | '\\' :: rest =>
    set rest
    let c ← escape
    expect "'"
    pure c
  | c :: rest =>
    guard (c ≠ '\'')
    set rest
    expect "'"
    pure c
  | [] => failure

/-! ## Numbers -/

/-- Whether a floating point number can contain a character. -/
def isFloatPart (c : Char) : Bool :=
  c.isDigit || c == 'e' || c == 'E' || c == '.' || c == '+' || c == '-'

/-- Whether the digits of an integer can contain a character. -/
def isIntegerPart (c : Char) : Bool := (digitValue? c).isSome || c == '_'

/-- A number without its sign, and whether the sign is a minus. -/
def splitSign : List Char → Bool × List Char
  | '-' :: rest => (true, rest)
  | '+' :: rest => (false, rest)
  | cs => (false, cs)

/-- Whether the characters are decimal digits, and at least one. -/
def isDigits (cs : List Char) : Bool := !cs.isEmpty && cs.all Char.isDigit

/-- Whether characters form the exponent of a floating point number, or there is none. -/
def isExponent : List Char → Bool
  | [] => true
  | c :: rest => (c == 'e' || c == 'E') && isDigits (splitSign rest).2

/-- Whether characters form a floating point number: digits, perhaps with a point before, within or
after them, and perhaps an exponent. -/
def isFloat (cs : List Char) : Bool :=
  let body := (splitSign cs).2
  let whole := body.takeWhile Char.isDigit
  match body.drop whole.length with
  | '.' :: rest =>
    let fraction := rest.takeWhile Char.isDigit
    !(whole.isEmpty && fraction.isEmpty) && isExponent (rest.drop fraction.length)
  | rest => !whole.isEmpty && isExponent rest

/-- The base of an integer, and the text after the sign for it. -/
def splitBase : List Char → Nat × List Char
  | '0' :: 'x' :: rest => (16, rest)
  | '0' :: 'b' :: rest => (2, rest)
  | '0' :: 'o' :: rest => (8, rest)
  | cs => (10, cs)

/-- The number that the digits of an integer stand for. Underscores count for nothing, but none of
them comes first. -/
def integerValue? (base : Nat) (digits : List Char) : Option Nat :=
  match digits with
  | [] | '_' :: _ => none
  | digits => valueIn? base (digits.filter (· != '_'))

/-- The text after an integer of 64 bits. -/
def afterInteger? (cs : List Char) : Option (List Char) :=
  let (isNegative, body) := splitSign cs
  let isSigned := body.length < cs.length
  let (base, tail) := splitBase body
  let digits := tail.takeWhile isIntegerPart
  let limit := if isNegative then 1 <<< 63 else if isSigned then 1 <<< 63 - 1 else 1 <<< 64 - 1
  match integerValue? base digits with
  | some value => if limit < value then none else some (tail.drop digits.length)
  | none => none

/-- The text after a name for an infinite number or for none. -/
def afterFloatName? (cs : List Char) : Option (List Char) :=
  let body := (splitSign cs).2
  let name := body.takeWhile isNamePart
  if name = ['i', 'n', 'f'] || name = ['N', 'a', 'N'] then some (body.drop name.length) else none

/-- The text after a floating point number. -/
def afterFloat? (cs : List Char) : Option (List Char) :=
  let digits := cs.takeWhile isFloatPart
  if isFloat digits then some (cs.drop digits.length) else afterFloatName? cs

/-- The text after a number. What goes on like a floating point number for longer than like an
integer is one; an integer that cannot be read as such is read as one, too. -/
def afterNumber? (cs : List Char) : Option (List Char) :=
  let body := (splitSign cs).2
  if (body.takeWhile isIntegerPart).length < (body.takeWhile isFloatPart).length then afterFloat? cs
  else (afterInteger? cs).or (afterFloat? cs)

/-- Skips a number. -/
def number : Reader Unit := fun cs => (afterNumber? cs).map fun rest => ((), rest)

end VulkanValidity.Catalog.Reader
