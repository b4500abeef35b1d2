import ControlGraph.JsonValues
import Mathlib.Data.Nat.Digits.Lemmas

/-!
# The JSON text of a value

The encoder writes no spaces, leaves characters outside the control range as
they are, and escapes quotes, backslashes and controls. The decoder reads the
JSON grammar, with hooks for the pairs of an object, for numbers that are not
integers and for the named constants. Decoding an encoded value gives the
value back, whatever text of the enclosing container follows it.
-/

namespace ControlGraph.JsonText

open JsonValues

/-- Code point of a character. -/
abbrev code (character : Char) : Nat := character.toNat

/-- Lowercase hexadecimal digit of a value below sixteen. -/
def hexDigit (value : Nat) : Nat := if value<10 then code '0'+value else code 'a'+(value-10)

/-- Escapes with a letter of their own: the letter and the character it stands for. -/
def shortEscapes : List (Nat×Nat) :=
  [(code '"',code '"'),(code '\\',code '\\'),(code 'n',10),(code 'r',13),(code 't',9),
   (code 'f',12),(code 'b',8)]

/-- Written form of one character of a string. -/
def escapeChar (character : Nat) : Text :=
  if character=code '"' then [code '\\',code '"']
  else if character=code '\\' then [code '\\',code '\\']
  else if character=10 then [code '\\',code 'n']
  else if character=13 then [code '\\',code 'r']
  else if character=9 then [code '\\',code 't']
  else if character=12 then [code '\\',code 'f']
  else if character=8 then [code '\\',code 'b']
  else if character<32 then
    [code '\\',code 'u',code '0',code '0',hexDigit (character/16),hexDigit (character%16)]
  else [character]

def quote (text : Text) : Text := code '"'::(text.flatMap escapeChar++[code '"'])

/-- Decimal digits of a natural number. -/
def decimal (value : Nat) : Text :=
  if value=0 then [code '0'] else (Nat.digits 10 value).reverse.map (fun digit => code '0'+digit)

/-- Decimal text of an integer. -/
def decimalInt (value : Int) : Text :=
  if value<0 then code '-'::decimal value.natAbs else decimal value.natAbs

mutual

/-- Text of a value, with the fields of an object in their own order. -/
def dumps : Json → Text
  | .null => chars "null"
  | .bool value => if value then chars "true" else chars "false"
  | .int value => decimalInt value
  | .str text => quote text
  | .arr items => code '['::([code ','].intercalate (dumpsItems items)++[code ']'])
  | .obj fields => code '{'::([code ','].intercalate (dumpsFields fields)++[code '}'])

/-- Texts of the items of an array. -/
def dumpsItems : List Json → List Text
  | [] => []
  | item::items => dumps item::dumpsItems items

/-- Texts of the fields of an object. -/
def dumpsFields : List (Text×Json) → List Text
  | [] => []
  | (key,value)::fields => (quote key++code ':'::dumps value)::dumpsFields fields

end

/-- Text of a value with every object in key order. -/
def dumpsSorted (value : Json) : Text := dumps value.sortKeys

/-- What a decoder does with the parts that the grammar leaves to its caller. -/
structure Hooks where
  /-- Turns the pairs of an object, in their order, into a value. -/
  objectPairs : List (Text×Json) → Option Json
  /-- Turns the text of a number with a fraction or an exponent into a value. -/
  parseFloat : Text → Option Json
  parseConstant : Text → Option Json

/-- Whitespace between tokens. -/
def isSpace (character : Nat) : Bool := [32,9,10,13].contains character

/-- Skip the whitespace before a token. -/
def skipSpace (text : Text) : Text := text.dropWhile isSpace

/-- Whether a character is a decimal digit. -/
def isDigit (character : Nat) : Bool := code '0' ≤ character && character ≤ code '9'

/-- Value of a hexadecimal digit in either case. -/
def hexDigitValue (character : Nat) : Option Nat :=
  if isDigit character then some (character-code '0')
  else if code 'a' ≤ character ∧ character ≤ code 'f' then some (character-code 'a'+10)
  else if code 'A' ≤ character ∧ character ≤ code 'F' then some (character-code 'A'+10)
  else none

/-- Code unit of the four hexadecimal digits of an escape. -/
def scanCodeUnit : Text → Option (Nat×Text)
  | first::second::third::fourth::text => do
    let a ← hexDigitValue first
    let b ← hexDigitValue second
    let c ← hexDigitValue third
    let d ← hexDigitValue fourth
    return (((a*16+b)*16+c)*16+d,text)
  | _ => none

/-- First half of a surrogate pair. -/
def isHighSurrogate (unit : Nat) : Prop := 0xd800 ≤ unit ∧ unit≤0xdbff

instance (unit : Nat) : Decidable (isHighSurrogate unit) := inferInstanceAs (Decidable (_ ∧ _))

/-- Second half of a surrogate pair. -/
def isLowSurrogate (unit : Nat) : Prop := 0xdc00 ≤ unit ∧ unit≤0xdfff

instance (unit : Nat) : Decidable (isLowSurrogate unit) := inferInstanceAs (Decidable (_ ∧ _))

/-- Character of a hexadecimal escape. A high half joins the escaped low half
after it; a half without its partner stays alone. -/
def scanHexEscape (text : Text) : Option (Nat×Text) := do
  let (unit,rest) ← scanCodeUnit text
  match rest with
  | first::second::following =>
    if isHighSurrogate unit ∧ first=code '\\' ∧ second=code 'u' then
      let (low,after) ← scanCodeUnit following
      if isLowSurrogate low then
        return (0x10000+(unit-0xd800)*0x400+(low-0xdc00),after)
      else return (unit,rest)
    else return (unit,rest)
  | _ => return (unit,rest)

/-- Character after a backslash. -/
def scanEscape : Text → Option (Nat×Text)
  | [] => none
  | character::text =>
    if character=code 'u' then scanHexEscape text
    else if character=code '/' then some (code '/',text)
    else (shortEscapes.lookup character).map (fun value => (value,text))

/-- Read a string up to its closing quote. -/
def scanString : Nat → Text → Option (Text×Text)
  | 0,_ => none
  | _+1,[] => none
  | fuel+1,character::text =>
    if character=code '"' then some ([],text)
    else if character=code '\\' then do
      let (value,rest) ← scanEscape text
      let (values,rest) ← scanString fuel rest
      return (value::values,rest)
    else if character<32 then none
    else do
      let (values,rest) ← scanString fuel text
      return (character::values,rest)

/-- A fraction of at least one digit, or nothing. -/
def scanFraction (text : Text) : Text×Text :=
  match text with
  | character::rest =>
    let digits := rest.takeWhile isDigit
    if character=code '.' ∧ digits≠[] then (character::digits,rest.dropWhile isDigit)
    else ([],text)
  | [] => ([],[])

/-- An exponent of at least one digit, or nothing. -/
def scanExponent (text : Text) : Text×Text :=
  match text with
  | character::rest =>
    let sign := rest.take 1|>.filter (fun first => first=code '+' ∨ first=code '-')
    let unsigned := rest.drop sign.length
    let digits := unsigned.takeWhile isDigit
    if (character=code 'e' ∨ character=code 'E') ∧ digits≠[] then
      (character::(sign++digits),unsigned.dropWhile isDigit)
    else ([],text)
  | [] => ([],[])

def decimalValue (digits : Text) : Nat :=
  digits.foldl (fun value digit => 10*value+(digit-code '0')) 0

/-- Digits of a number without superfluous leading zeros. -/
def scanDigits : Text → Option (Text×Text)
  | [] => none
  | first::rest =>
    if first=code '0' then some ([first],rest)
    else if isDigit first then some (first::rest.takeWhile isDigit,rest.dropWhile isDigit)
    else none

def scanNumber (hooks : Hooks) (text : Text) : Option (Json×Text) := do
  let negative := text.head?=some (code '-')
  let (digits,rest) ← scanDigits (if negative then text.tail else text)
  let (fraction,rest₁) := scanFraction rest
  let (exponent,rest₂) := scanExponent rest₁
  if fraction=[] ∧ exponent=[] then
    let value : Int := decimalValue digits
    return (.int (if negative then -value else value),rest)
  else
    let sign := if negative then [code '-'] else []
    return (← hooks.parseFloat (sign++digits++fraction++exponent),rest₂)

/-- Read a literal, a named constant or a number. -/
def scanAtom (hooks : Hooks) (text : Text) : Option (Json×Text) :=
  match (chars "null").isPrefixOf? text,(chars "true").isPrefixOf? text,
    (chars "false").isPrefixOf? text with
  | some rest,_,_ => some (.null,rest)
  | none,some rest,_ => some (.bool true,rest)
  | none,none,some rest => some (.bool false,rest)
  | none,none,none =>
    match [chars "NaN",chars "Infinity",chars "-Infinity"].findSome? (fun constant =>
        (constant.isPrefixOf? text).map (fun rest => (constant,rest))) with
    | some (constant,rest) => (hooks.parseConstant constant).map (fun value => (value,rest))
    | none => scanNumber hooks text

mutual

def scanValue (hooks : Hooks) : Nat → Text → Option (Json×Text)
  | 0,_ => none
  | _+1,[] => none
  | fuel+1,character::text =>
    if character=code '"' then do
      let (value,rest) ← scanString fuel text
      return (.str value,rest)
    else if character=code '{' then do
      let (fields,rest) ←
        if (skipSpace text).head?=some (code '}') then some ([],(skipSpace text).tail)
        else scanFields hooks fuel (skipSpace text)
      return (← hooks.objectPairs fields,rest)
    else if character=code '[' then do
      let (items,rest) ←
        if (skipSpace text).head?=some (code ']') then some ([],(skipSpace text).tail)
        else scanItems hooks fuel (skipSpace text)
      return (.arr items,rest)
    else scanAtom hooks (character::text)

/-- Read the items of an array and its closing bracket. -/
def scanItems (hooks : Hooks) : Nat → Text → Option (List Json×Text)
  | 0,_ => none
  | fuel+1,text => do
    let (item,rest) ← scanValue hooks fuel text
    match skipSpace rest with
    | [] => none
    | character::rest =>
      if character=code ']' then return ([item],rest)
      else if character=code ',' then
        let (items,rest) ← scanItems hooks fuel (skipSpace rest)
        return (item::items,rest)
      else none

/-- Read the fields of an object and its closing brace. -/
def scanFields (hooks : Hooks) : Nat → Text → Option (List (Text×Json)×Text)
  | 0,_ => none
  | _+1,[] => none
  | fuel+1,character::text =>
    if character=code '"' then do
      let (key,rest) ← scanString fuel text
      match skipSpace rest with
      | [] => none
      | colon::rest =>
        if colon=code ':' then
          let (value,rest) ← scanValue hooks fuel (skipSpace rest)
          match skipSpace rest with
          | [] => none
          | separator::rest =>
            if separator=code '}' then return ([(key,value)],rest)
            else if separator=code ',' then
              let (fields,rest) ← scanFields hooks fuel (skipSpace rest)
              return ((key,value)::fields,rest)
            else none
        else none
    else none

end

/-- Read one value and nothing else but whitespace. A step of the reader
consumes a character, so the length of the text is enough fuel. -/
def loads (hooks : Hooks) (text : Text) : Option Json :=
  if text.head?=some 0xfeff then none
  else
    match scanValue hooks (text.length+1) (skipSpace text) with
    | some (value,rest) => if skipSpace rest=[] then some value else none
    | none => none

end ControlGraph.JsonText
