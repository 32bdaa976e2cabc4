import TrueMark.Ecma.Value

namespace Ecma

namespace Json

def quoteMark : CodeUnit := 0x22
def backslash : CodeUnit := 0x5C
def solidus : CodeUnit := 0x2F
def comma : CodeUnit := 0x2C
def colon : CodeUnit := 0x3A
def openBracket : CodeUnit := 0x5B
def closeBracket : CodeUnit := 0x5D
def openBrace : CodeUnit := 0x7B
def closeBrace : CodeUnit := 0x7D
def lowerU : CodeUnit := 0x75

/-- The single-character escapes, as pairs of the character and the letter that names it. -/
def escapes : List (CodeUnit × CodeUnit) :=
  [(0x08, 0x62), (0x09, 0x74), (0x0A, 0x6E), (0x0C, 0x66), (0x0D, 0x72), (quoteMark, quoteMark),
    (backslash, backslash)]

/-- `UnicodeEscape`: a backslash, `u` and four lower-case hexadecimal digits. -/
def unicodeEscape (c : CodeUnit) : JsString :=
  [backslash, lowerU, hexUnit (c.toNat / 4096), hexUnit (c.toNat / 256 % 16), hexUnit (c.toNat / 16 % 16),
    hexUnit (c.toNat % 16)]

/-- One code unit of `QuoteJSONString` that is not half of a surrogate pair. -/
def quoteUnit (c : CodeUnit) : JsString :=
  match escapes.lookup c with
  | some letter => [backslash, letter]
  | none =>
    if c.toNat < 0x20 ∨ leadSurrogate c = true ∨ trailSurrogate c = true then unicodeEscape c else [c]

/-- The body of `QuoteJSONString`: surrogate pairs stay, lone surrogates are escaped. -/
def quoteUnits : JsString → JsString
  | [] => []
  | [c] => quoteUnit c
  | c :: d :: rest =>
    if leadSurrogate c && trailSurrogate d then c :: d :: quoteUnits rest
    else quoteUnit c ++ quoteUnits (d :: rest)

def quote (s : JsString) : JsString := quoteMark :: (quoteUnits s ++ [quoteMark])

def joined : List JsString → JsString
  | [] => []
  | [text] => text
  | text :: next :: rest => text ++ comma :: joined (next :: rest)

def numberText : Number → JsString
  | .finite negative m => Floating.toText (.finite negative m)
  | _ => js "null"

mutual

/-- `JSON.stringify` without replacer and indentation. Values that come from
texts and literals have no `toJSON` method and no cycles. -/
def stringify : JsValue → Option JsString
  | .undefined => none
  | .null => some (js "null")
  | .boolean value => some (if value then js "true" else js "false")
  | .number value => some (numberText value)
  | .string value => some (quote value)
  | .array items => some (openBracket :: (joined (elementTexts items) ++ [closeBracket]))
  | .object properties => some (openBrace :: (joined (memberTexts properties) ++ [closeBrace]))

def elementTexts : List JsValue → List JsString
  | [] => []
  | item :: rest => (stringify item).getD (js "null") :: elementTexts rest

def memberTexts : List (JsString × JsValue) → List JsString
  | [] => []
  | (key, value) :: rest =>
    match stringify value with
    | none => memberTexts rest
    | some text => (quote key ++ colon :: text) :: memberTexts rest

end

/-- The four white space characters of the JSON grammar. -/
def white (c : CodeUnit) : Bool := c.toNat == 0x20 || c.toNat == 0x09 || c.toNat == 0x0A || c.toNat == 0x0D

def skipWhite (text : JsString) : JsString := text.dropWhile white

/-- The rest of the text after one expected character and the white space before it. -/
def expect (c : CodeUnit) (text : JsString) : Option JsString :=
  match skipWhite text with
  | [] => none
  | d :: rest => if d = c then some rest else none

/-- The character named by the letter after a backslash. -/
def unescape (letter : CodeUnit) : Option CodeUnit :=
  if letter = solidus then some solidus else (escapes.map Prod.swap).lookup letter

def hexQuad (a b c d : CodeUnit) : Option CodeUnit := do
  let a ← hexValue a
  let b ← hexValue b
  let c ← hexValue c
  let d ← hexValue d
  some (UInt16.ofNat (a * 4096 + b * 256 + c * 16 + d))

/-- The characters of a string up to its closing quotation mark. -/
def parseChars : JsString → Option (JsString × JsString)
  | [] => none
  | c :: rest =>
    if c = quoteMark then some ([], rest)
    else if c = backslash then
      match rest with
      | [] => none
      | letter :: rest =>
        if letter = lowerU then
          match rest with
          | h₁ :: h₂ :: h₃ :: h₄ :: rest =>
            (hexQuad h₁ h₂ h₃ h₄).bind fun unit => (parseChars rest).map fun (more, rest) => (unit :: more, rest)
          | _ => none
        else (unescape letter).bind fun unit => (parseChars rest).map fun (more, rest) => (unit :: more, rest)
    else if c.toNat < 0x20 then none
    else (parseChars rest).map fun (more, rest) => (c :: more, rest)

def parseSign : JsString → Bool × JsString
  | [] => (false, [])
  | c :: rest => if c = Literal.minus then (true, rest) else (false, c :: rest)

def parseFraction : JsString → Option (JsString × JsString)
  | [] => some ([], [])
  | c :: rest =>
    if c = Literal.point then
      if rest.takeWhile isDigit = [] then none else some (rest.takeWhile isDigit, rest.dropWhile isDigit)
    else some ([], c :: rest)

def parseExponentSign : JsString → Bool × JsString
  | [] => (false, [])
  | c :: rest =>
    if c = Literal.minus then (true, rest) else if c = Literal.plus then (false, rest) else (false, c :: rest)

def parseExponent : JsString → Option (Option (Bool × JsString) × JsString)
  | [] => some (none, [])
  | c :: rest =>
    if c = Literal.lowerE ∨ c = Literal.upperE then
      let (negative, rest) := parseExponentSign rest
      if rest.takeWhile isDigit = [] then none
      else some (some (negative, rest.takeWhile isDigit), rest.dropWhile isDigit)
    else some (none, c :: rest)

/-- A number text. Two digits after a leading zero can only be an error, here or at the next token. -/
def parseNumber (text : JsString) : Option (Number × JsString) :=
  let (negative, text) := parseSign text
  let integer := text.takeWhile isDigit
  if integer = [] ∨ integer.head? = some (digitUnit 0) ∧ integer.length ≠ 1 then none
  else
    (parseFraction (text.dropWhile isDigit)).bind fun (fraction, text) =>
      (parseExponent text).map fun (exponent, text) => (Literal.value ⟨negative, integer, fraction, exponent⟩, text)

def parseWord (text : JsString) : Option (JsValue × JsString) :=
  (((js "null").isPrefixOf? text).map fun rest => (.null, rest)).or <|
    (((js "true").isPrefixOf? text).map fun rest => (.boolean true, rest)).or <|
      ((js "false").isPrefixOf? text).map fun rest => (.boolean false, rest)

mutual

/-- One JSON value at the front of the text, and what follows it. The fuel
bounds the nesting; `parseValue_stable` shows that it never decides. -/
def parseValue : Nat → JsString → Option (JsValue × JsString)
  | 0, _ => none
  | fuel + 1, text =>
    match skipWhite text with
    | [] => none
    | c :: rest =>
      if c = quoteMark then (parseChars rest).map fun (value, rest) => (.string value, rest)
      else if c = openBracket then
        match expect closeBracket rest with
        | some rest => some (.array [], rest)
        | none => (parseElements fuel rest).map fun (items, rest) => (.array items, rest)
      else if c = openBrace then
        match expect closeBrace rest with
        | some rest => some (.object [], rest)
        | none => (parseMembers fuel rest).map fun (members, rest) => (.object (Properties.ofMembers members), rest)
      else (parseWord (c :: rest)).or ((parseNumber (c :: rest)).map fun (value, rest) => (.number value, rest))

def parseElements : Nat → JsString → Option (List JsValue × JsString)
  | 0, _ => none
  | fuel + 1, text =>
    (parseValue fuel text).bind fun (item, rest) =>
      match expect comma rest with
      | some rest => (parseElements fuel rest).map fun (items, rest) => (item :: items, rest)
      | none => (expect closeBracket rest).map fun rest => ([item], rest)

def parseMembers : Nat → JsString → Option (List (JsString × JsValue) × JsString)
  | 0, _ => none
  | fuel + 1, text =>
    (expect quoteMark text).bind fun rest =>
      (parseChars rest).bind fun (key, rest) =>
        (expect colon rest).bind fun rest =>
          (parseValue fuel rest).bind fun (value, rest) =>
            match expect comma rest with
            | some rest => (parseMembers fuel rest).map fun (members, rest) => ((key, value) :: members, rest)
            | none => (expect closeBrace rest).map fun rest => ([(key, value)], rest)

end

/-- `JSON.parse` without reviver; a `SyntaxError` is no value. -/
def parse (text : JsString) : Option JsValue :=
  (parseValue (2 * text.length + 1) text).bind fun (value, rest) => if skipWhite rest = [] then some value else none

end Json

end Ecma
