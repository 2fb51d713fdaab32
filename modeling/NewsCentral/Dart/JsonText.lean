import Mathlib
import NewsCentral.Dart.Json

/-
  The texts of JSON values: `jsonEncode` and `jsonDecode` of
  the library `dart:convert`.

  Encoding writes no spaces, escapes the control characters,
  quotes and backslashes of texts, and throws at a number
  that is infinite.  Decoding accepts the grammar of JSON;
  of a repeated key the last value counts.

  Numbers with a fraction or an exponent, and those beyond
  64 bits, are floating point numbers.  What they print as
  is a parameter.  Texts are made of characters here, so an
  escaped half of a surrogate pair on its own is read as the
  replacement character.

  Key definitions include:
    * `Dart.Json.write` and `Dart.jsonEncode`
    * `Dart.Numeral` and `Dart.Doubles`
    * `Dart.readValue` and `Dart.jsonDecode`
    * `Dart.Json.isDecoded` and `Dart.Json.isFinite`
-/

------------------------------------------------------------
-- Encoding
------------------------------------------------------------

namespace Dart

/- A hexadecimal digit, in lower case. -/
def hexDigit (n : Nat) : Char :=
  if n < 10 then Char.ofNat (48 + n) else Char.ofNat (87 + n)

/- What is written for a character of a text. -/
def escaped (c : Char) : List Char :=
  if c.toNat < 32 then
    if c.toNat = 8 then
      ['\\', 'b']
    else if c.toNat = 9 then
      ['\\', 't']
    else if c.toNat = 10 then
      ['\\', 'n']
    else if c.toNat = 12 then
      ['\\', 'f']
    else if c.toNat = 13 then
      ['\\', 'r']
    else
      ['\\', 'u', '0', '0', hexDigit (c.toNat / 16),
        hexDigit (c.toNat % 16)]
  else if c = '"' ∨ c = '\\' then
    ['\\', c]
  else
    [c]

/- A text between quotes. -/
def quoted (s : String) : List Char :=
  '"' :: (s.toList.flatMap escaped ++ ['"'])

namespace Json

mutual

/- The text of a value, without spaces. -/
def write : Json → List Char
  | .null => ['n', 'u', 'l', 'l']
  | .bool true => ['t', 'r', 'u', 'e']
  | .bool false => ['f', 'a', 'l', 's', 'e']
  | .int n => (toString n).toList
  | .double text => text.toList
  | .str s => quoted s
  | .arr [] => ['[', ']']
  | .arr (j :: js) => '[' :: (write j ++ writeItems js)
  | .obj [] => ['\x7b', '\x7d']
  | .obj ((key, j) :: rest) =>
      '\x7b' ::
        (quoted key ++ ':' :: (write j ++ writeFields rest))

/- The items behind the first one, with the bracket. -/
def writeItems : List Json → List Char
  | [] => [']']
  | j :: js => ',' :: (write j ++ writeItems js)

/- The entries behind the first one, with the brace. -/
def writeFields : List (String × Json) → List Char
  | [] => ['\x7d']
  | (key, j) :: rest =>
      ',' ::
        (quoted key ++ ':' :: (write j ++ writeFields rest))

end

/- The texts of the infinite numbers. -/
def infinite : List String :=
  ["Infinity", "-Infinity"]

mutual

/- No number in the value is infinite. -/
def isFinite : Json → Bool
  | .null => true
  | .bool _ => true
  | .int _ => true
  | .double text => text ∉ infinite
  | .str _ => true
  | .arr items => isFiniteItems items
  | .obj fields => isFiniteFields fields

def isFiniteItems : List Json → Bool
  | [] => true
  | j :: js => isFinite j && isFiniteItems js

def isFiniteFields : List (String × Json) → Bool
  | [] => true
  | (_, j) :: rest => isFinite j && isFiniteFields rest

end

end Json

/- `jsonEncode` -/
def jsonEncode (j : Json) : Except Thrown String :=
  if j.isFinite then
    .ok (String.ofList j.write)
  else
    .error (.error "JsonUnsupportedObjectError" j.toText)

end Dart

------------------------------------------------------------
-- Numerals
------------------------------------------------------------

namespace Dart

/- The parts of a number in a text. -/
structure Numeral where
  sign : List Char
  whole : List Char
  fraction : List Char
  exponent : List Char
deriving DecidableEq

namespace Numeral

/- The text of the number. -/
def text (n : Numeral) : List Char :=
  n.sign ++ (n.whole ++ (n.fraction ++ n.exponent))

/- The number has neither fraction nor exponent. -/
def isInteger (n : Numeral) : Bool :=
  n.fraction.isEmpty && n.exponent.isEmpty

/- The value of such a number. -/
def toInt (n : Numeral) : Int :=
  let absN := Nat.ofDigitChars 10 n.whole 0
  if n.sign.isEmpty then (absN : Int) else -(absN : Int)

end Numeral

/- Digits, as many as there are, at least one. -/
def readDigits
    (cs : List Char) : Option (List Char × List Char) :=
  if (cs.takeWhile Char.isDigit).isEmpty then
    none
  else
    some (cs.takeWhile Char.isDigit,
      cs.dropWhile Char.isDigit)

/- One of some characters, if it is there. -/
def readOneOf
    (allowed : List Char)
    (cs : List Char) : List Char × List Char :=
  match cs with
  | [] => ([], [])
  | c :: cs => if c ∈ allowed then ([c], cs) else ([], c :: cs)

/- No digit follows a zero at the start. -/
def readWhole
    (cs : List Char) : Option (List Char × List Char) := do
  let digits ← readDigits cs
  if digits.1.head? = some '0' ∧ digits.1 ≠ ['0'] then
    none
  else
    some digits

/- A point and digits, if there is a point. -/
def readFraction
    (cs : List Char) : Option (List Char × List Char) :=
  let point := readOneOf ['.'] cs
  if point.1.isEmpty then
    some ([], cs)
  else do
    let digits ← readDigits point.2
    some (point.1 ++ digits.1, digits.2)

/- The letter, a sign and digits, if there is the letter. -/
def readExponent
    (cs : List Char) : Option (List Char × List Char) :=
  let letter := readOneOf ['e', 'E'] cs
  if letter.1.isEmpty then
    some ([], cs)
  else do
    let sign := readOneOf ['+', '-'] letter.2
    let digits ← readDigits sign.2
    some (letter.1 ++ (sign.1 ++ digits.1), digits.2)

/- A number at the start of a text. -/
def readNumeral
    (cs : List Char) : Option (Numeral × List Char) := do
  let sign := readOneOf ['-'] cs
  let whole ← readWhole sign.2
  let fraction ← readFraction whole.2
  let exponent ← readExponent fraction.2
  some
    (⟨sign.1, whole.1, fraction.1, exponent.1⟩, exponent.2)

/- The whole text is a number, not written as integer. -/
def isDouble (s : String) : Bool :=
  match readNumeral s.toList with
  | some (n, []) => !n.isInteger
  | _ => false

/-
  `double.parse(literal).toString()` of a number.  The text
  of a finite number reads back as that number and shows
  that it is no integer; a number beyond all finite ones is
  infinite.
-/
structure Doubles where
  printed : String → String
  printed_numeral :
    ∀ cs n rest,
      readNumeral cs = some (n, rest) →
      printed (String.ofList n.text) ∈ Json.infinite ∨
        isDouble (printed (String.ofList n.text)) = true ∧
          printed (printed (String.ofList n.text)) =
            printed (String.ofList n.text)

/-
  A choice that serves where numbers are written the way
  they print; integers beyond 64 bits are off its range.
-/
def Doubles.asWritten : Doubles where
  printed literal :=
    if isDouble literal then literal else "Infinity"
  printed_numeral := by
    intro cs n rest _
    by_cases hDouble : isDouble (String.ofList n.text) = true
    · right
      simp [hDouble]
    · left
      simp [hDouble, Json.infinite]

/- The number fits into 64 bits. -/
def isInt64 (n : Int) : Bool :=
  -2 ^ 63 ≤ n ∧ n < 2 ^ 63

/- The value of a number in a text. -/
def Numeral.value
    (doubles : Doubles)
    (n : Numeral) : Json :=
  if n.isInteger && isInt64 n.toInt then
    .int n.toInt
  else
    .double (doubles.printed (String.ofList n.text))

end Dart

------------------------------------------------------------
-- Texts
------------------------------------------------------------

namespace Dart

/- A character, or half of a surrogate pair. -/
inductive Piece where
  | char (c : Char)
  | half (unit : Nat)

/- What a code unit of 16 bits is. -/
def Piece.ofUnit (unit : Nat) : Piece :=
  if 0xD800 ≤ unit ∧ unit < 0xE000 then
    .half unit
  else
    .char (Char.ofNat unit)

def hexValue (c : Char) : Option Nat :=
  if '0' ≤ c ∧ c ≤ '9' then
    some (c.toNat - 48)
  else if 'a' ≤ c ∧ c ≤ 'f' then
    some (c.toNat - 87)
  else if 'A' ≤ c ∧ c ≤ 'F' then
    some (c.toNat - 55)
  else
    none

/- The code unit behind `\u`. -/
def hexUnit (a b c d : Char) : Option Nat := do
  let a ← hexValue a
  let b ← hexValue b
  let c ← hexValue c
  let d ← hexValue d
  some (((a * 16 + b) * 16 + c) * 16 + d)

/- The character behind a backslash. -/
def unescapedChar : Char → Option Char
  | 'b' => some (Char.ofNat 8)
  | 't' => some (Char.ofNat 9)
  | 'n' => some (Char.ofNat 10)
  | 'f' => some (Char.ofNat 12)
  | 'r' => some (Char.ofNat 13)
  | '"' => some '"'
  | '\\' => some '\\'
  | '/' => some '/'
  | _ => none

/- The text behind an opening quote, up to the closing one. -/
def readPieces :
    List Char → Option (List Piece × List Char)
  | [] => none
  | c :: cs =>
      if c = '"' then
        some ([], cs)
      else if c = '\\' then
        match cs with
        | 'u' :: h₁ :: h₂ :: h₃ :: h₄ :: cs => do
            let unit ← hexUnit h₁ h₂ h₃ h₄
            let more ← readPieces cs
            some (.ofUnit unit :: more.1, more.2)
        | c :: cs => do
            let c ← unescapedChar c
            let more ← readPieces cs
            some (.char c :: more.1, more.2)
        | [] => none
      else if c.toNat < 32 then
        none
      else do
        let more ← readPieces cs
        some (.char c :: more.1, more.2)

/- Two halves in order make a character. -/
def joined : List Piece → List Char
  | [] => []
  | .char c :: ps => c :: joined ps
  | .half high :: .half low :: ps =>
      if high < 0xDC00 ∧ 0xDC00 ≤ low then
        Char.ofNat
          (0x10000 + (high - 0xD800) * 0x400 +
            (low - 0xDC00)) :: joined ps
      else
        Char.ofNat 0xFFFD :: joined (.half low :: ps)
  | .half _ :: ps => Char.ofNat 0xFFFD :: joined ps

def readString
    (cs : List Char) : Option (String × List Char) := do
  let pieces ← readPieces cs
  some (String.ofList (joined pieces.1), pieces.2)

end Dart

------------------------------------------------------------
-- Decoding
------------------------------------------------------------

namespace Dart

def isSpace (c : Char) : Bool :=
  c ∈ [' ', '\t', '\n', '\r']

/- A given character, behind spaces. -/
def expect
    (c : Char)
    (cs : List Char) : Option (List Char) :=
  match cs.dropWhile isSpace with
  | [] => none
  | d :: rest => if d = c then some rest else none

/- The three words that are values. -/
def readWord : List Char → Option (Json × List Char)
  | 'n' :: 'u' :: 'l' :: 'l' :: rest => some (.null, rest)
  | 't' :: 'r' :: 'u' :: 'e' :: rest =>
      some (.bool true, rest)
  | 'f' :: 'a' :: 'l' :: 's' :: 'e' :: rest =>
      some (.bool false, rest)
  | _ => none

/- An entry is put into the place of its key, if it has one. -/
def putEntry
    (fields : List (String × Json))
    (entry : String × Json) : List (String × Json) :=
  if entry.1 ∈ fields.map Prod.fst then
    fields.map fun old =>
      if old.1 = entry.1 then entry else old
  else
    fields ++ [entry]

/- A map with the entries of a text. -/
def ofEntries
    (entries : List (String × Json)) :
    List (String × Json) :=
  entries.foldl putEntry []

variable (doubles : Doubles)

mutual

/-
  A value behind spaces.  The first argument bounds the
  depth, of which each level takes a character at least.
-/
def readValue :
    Nat → List Char → Option (Json × List Char)
  | 0, _ => none
  | depth + 1, cs =>
      match cs.dropWhile isSpace with
      | [] => none
      | c :: cs =>
          if c = '"' then do
            let text ← readString cs
            some (.str text.1, text.2)
          else if c = '[' then
            match expect ']' cs with
            | some rest => some (.arr [], rest)
            | none => do
                let items ← readItems depth cs
                some (.arr items.1, items.2)
          else if c = '\x7b' then
            match expect '\x7d' cs with
            | some rest => some (.obj [], rest)
            | none => do
                let entries ← readEntries depth cs
                some (.obj (ofEntries entries.1), entries.2)
          else if c.isDigit ∨ c = '-' then do
            let n ← readNumeral (c :: cs)
            some (n.1.value doubles, n.2)
          else
            readWord (c :: cs)

/- The items of a list, up to the closing bracket. -/
def readItems :
    Nat → List Char → Option (List Json × List Char)
  | 0, _ => none
  | depth + 1, cs => do
      let item ← readValue depth cs
      match expect ',' item.2 with
      | some rest => do
          let items ← readItems depth rest
          some (item.1 :: items.1, items.2)
      | none => do
          let rest ← expect ']' item.2
          some ([item.1], rest)

/- The entries of a map, up to the closing brace. -/
def readEntries :
    Nat → List Char →
      Option (List (String × Json) × List Char)
  | 0, _ => none
  | depth + 1, cs => do
      let key ← readString (← expect '"' cs)
      let value ← readValue depth (← expect ':' key.2)
      match expect ',' value.2 with
      | some rest => do
          let entries ← readEntries depth rest
          some ((key.1, value.1) :: entries.1, entries.2)
      | none => do
          let rest ← expect '\x7d' value.2
          some ([(key.1, value.1)], rest)

end

/- `jsonDecode` -/
def jsonDecode (text : String) : Except Thrown Json :=
  match readValue doubles (text.length + 1) text.toList with
  | none => .error (.error "FormatException" text)
  | some (j, rest) =>
      if (rest.dropWhile isSpace).isEmpty then
        .ok j
      else
        .error (.error "FormatException" text)

end Dart

------------------------------------------------------------
-- Decoded Values
------------------------------------------------------------

namespace Dart

namespace Json

variable (doubles : Doubles)

mutual

/-
  The value is one that decoding builds: its integers fit
  into 64 bits, its other numbers are as they print, and no
  key of a map is repeated.
-/
def isDecoded : Json → Bool
  | .null => true
  | .bool _ => true
  | .int n => isInt64 n
  | .double text =>
      text ∈ infinite ∨
        isDouble text ∧ doubles.printed text = text
  | .str _ => true
  | .arr items => isDecodedItems items
  | .obj fields =>
      decide (fields.map Prod.fst).Nodup &&
        isDecodedFields fields

def isDecodedItems : List Json → Bool
  | [] => true
  | j :: js => isDecoded j && isDecodedItems js

def isDecodedFields : List (String × Json) → Bool
  | [] => true
  | (_, j) :: rest => isDecoded j && isDecodedFields rest

end

end Json

end Dart
