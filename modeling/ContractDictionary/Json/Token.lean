import ContractDictionary.Json.Value

/-!
# Tokens of a data document

The document's characters are taken one at a time into tokens.  Where the text stops being
well formed the last token is a break, and the rest of the document is not looked at.  A break
states two faults, since a reader that wants the value and one that passes over it stop at
different places of a number or text.
-/

namespace ContractDictionary.Json

/-- Why a document's text cannot be read on. -/
inductive TextFault where
  /-- The document ends early. -/
  | cut
  /-- What stands in the document is not of its grammar. -/
  | malformed
  deriving DecidableEq, Repr

/-- A place where the text stops being readable. -/
structure Break where
  /-- The fault for a reader of the value. -/
  read : TextFault
  /-- The fault for one that passes over the value. -/
  skip : TextFault
  deriving DecidableEq, Repr

def Break.all (fault : TextFault) : Break :=
  ⟨fault, fault⟩

inductive Token where
  | openList
  | closeList
  | openRecord
  | closeRecord
  | comma
  | colon
  | null
  | bool (value : Bool)
  /-- A number, or nothing for one out of range. -/
  | number (value : Option Json)
  /-- A text, or nothing for one with half of a surrogate pair. -/
  | text (value : Option String)
  /-- A token under way that breaks off. -/
  | broken (isText : Bool) (fault : Break)

/-- How much of a number has been read. -/
inductive NumberPhase where
  | sign
  | zero
  | whole
  | point
  | fraction
  | mark
  | markSign
  | exponent
  deriving DecidableEq

/-- How much of an escape has been read. -/
inductive EscapePhase where
  | none
  | backslash
  /-- Within the digits of a code unit: octets read, value so far, digits only so far. -/
  | unit (octets value : Nat) (isHex : Bool)

structure TextScan where
  /-- The characters so far, backwards. -/
  chars : List Char := []
  /-- No half of a surrogate pair has stood alone. -/
  sound : Bool := true
  /-- The first half of a surrogate pair that was just read. -/
  lead : Option Nat := .none
  phase : EscapePhase := .none

/-- The state of the scanner between two characters. -/
inductive Scan where
  | blank
  /-- Within a word, of which `rest` is still to come. -/
  | word (rest : List Char) (token : Token)
  /-- Within a number, its digits backwards. -/
  | number (phase : NumberPhase) (numeral : Numeral)
  | text (scan : TextScan)
  | stopped

/-- The tokens that a character completes, and the state after it. -/
abbrev ScanStep := List Token × Scan

/-- The token under way is malformed for every reader. -/
def stop (isText : Bool) (fault : Break) : ScanStep :=
  ([.broken isText fault], .stopped)

def isSpace (c : Char) : Bool :=
  c = ' ' || c = '\n' || c = '\t' || c = '\r'

def scanBlank (c : Char) : ScanStep :=
  if isSpace c then ([], .blank)
  else match c with
    | '[' => ([.openList], .blank)
    | ']' => ([.closeList], .blank)
    | '{' => ([.openRecord], .blank)
    | '}' => ([.closeRecord], .blank)
    | ',' => ([.comma], .blank)
    | ':' => ([.colon], .blank)
    | '"' => ([], .text {})
    | 'n' => ([], .word ['u', 'l', 'l'] .null)
    | 't' => ([], .word ['r', 'u', 'e'] (.bool true))
    | 'f' => ([], .word ['a', 'l', 's', 'e'] (.bool false))
    | '-' => ([], .number .sign { negative := true })
    | '0' => ([], .number .zero { whole := ['0'] })
    | c =>
        if c.isDigit then ([], .number .whole { whole := [c] })
        else stop false (.all .malformed)

def scanWord (rest : List Char) (token : Token) (c : Char) : ScanStep :=
  match rest with
  | [] => stop false (.all .malformed)
  | expected :: rest =>
      if c = expected then
        if rest.isEmpty then ([token], .blank) else ([], .word rest token)
      else
        stop false (.all .malformed)

/-- The token of a complete number whose digits are given backwards. -/
def numberToken (numeral : Numeral) : Token :=
  .number { numeral with
    whole := numeral.whole.reverse
    fraction := numeral.fraction.reverse
    exponent := numeral.exponent.reverse }.value?

def endNumber (numeral : Numeral) (c : Char) : ScanStep :=
  let (tokens, scan) := scanBlank c
  (numberToken numeral :: tokens, scan)

def scanNumber (phase : NumberPhase) (numeral : Numeral) (c : Char) : ScanStep :=
  let malformed := stop false (.all .malformed)
  let toPoint : ScanStep := ([], .number .point { numeral with isReal := true })
  let toMark : ScanStep := ([], .number .mark { numeral with isReal := true })
  let isMark := c = 'e' || c = 'E'
  match phase with
  | .sign =>
      if c = '0' then ([], .number .zero { numeral with whole := [c] })
      else if c.isDigit then ([], .number .whole { numeral with whole := [c] })
      else malformed
  | .zero =>
      if c = '.' then toPoint
      else if isMark then toMark
      else if c.isDigit then malformed
      else endNumber numeral c
  | .whole =>
      if c.isDigit then ([], .number .whole { numeral with whole := c :: numeral.whole })
      else if c = '.' then toPoint
      else if isMark then toMark
      else endNumber numeral c
  | .point =>
      if c.isDigit then ([], .number .fraction { numeral with fraction := [c] })
      else malformed
  | .fraction =>
      if c.isDigit then ([], .number .fraction { numeral with fraction := c :: numeral.fraction })
      else if isMark then toMark
      else endNumber numeral c
  | .mark =>
      if c = '+' then ([], .number .markSign numeral)
      else if c = '-' then ([], .number .markSign { numeral with exponentNegative := true })
      else if c.isDigit then ([], .number .exponent { numeral with exponent := [c] })
      else malformed
  | .markSign =>
      if c.isDigit then ([], .number .exponent { numeral with exponent := [c] })
      else malformed
  | .exponent =>
      if c.isDigit then ([], .number .exponent { numeral with exponent := c :: numeral.exponent })
      else endNumber numeral c

def TextScan.break (scan : TextScan) (fault : TextFault) : Break :=
  ⟨if scan.sound then fault else .malformed, fault⟩

def TextScan.fail (scan : TextScan) : ScanStep :=
  let isSound := scan.sound && scan.lead.isNone
  stop true ({ scan with sound := isSound }.break .malformed)

/-- Add a character; a first half of a pair before it stands alone. -/
def TextScan.push (scan : TextScan) (c : Char) : TextScan :=
  { chars := c :: scan.chars, sound := scan.sound && scan.lead.isNone }

/-- Add a code unit, alone or as the second half of a pair. -/
def TextScan.pushUnit (scan : TextScan) (unit : Nat) : TextScan :=
  let isLead := 0xD800 ≤ unit && unit ≤ 0xDBFF
  let isTrail := 0xDC00 ≤ unit && unit ≤ 0xDFFF
  match scan.lead with
  | some lead =>
      if isTrail then
        let point := 0x10000 + (lead - 0xD800) * 0x400 + (unit - 0xDC00)
        { chars := Char.ofNat point :: scan.chars, sound := scan.sound }
      else
        { chars := scan.chars, sound := false }
  | none =>
      if isLead then { scan with lead := some unit, phase := .none }
      else if isTrail then { scan with sound := false, phase := .none }
      else { chars := Char.ofNat unit :: scan.chars, sound := scan.sound }

def hexValue? (c : Char) : Option Nat :=
  if '0' ≤ c ∧ c ≤ '9' then some (c.toNat - '0'.toNat)
  else if 'a' ≤ c ∧ c ≤ 'f' then some (c.toNat - 'a'.toNat + 10)
  else if 'A' ≤ c ∧ c ≤ 'F' then some (c.toNat - 'A'.toNat + 10)
  else none

def shortEscape? : Char → Option Char
  | '"' => some '"'
  | '\\' => some '\\'
  | '/' => some '/'
  | 'b' => some '\x08'
  | 'f' => some '\x0c'
  | 'n' => some '\n'
  | 'r' => some '\r'
  | 't' => some '\t'
  | _ => none

def scanText (scan : TextScan) (c : Char) : ScanStep :=
  match scan.phase with
  | .none =>
      if c = '"' then
        let isSound := scan.sound && scan.lead.isNone
        ([.text (if isSound then some (String.ofList scan.chars.reverse) else none)], .blank)
      else if c = '\\' then ([], .text { scan with phase := .backslash })
      else if c.toNat < 0x20 then scan.fail
      else ([], .text (scan.push c))
  | .backslash =>
      if c = 'u' then ([], .text { scan with phase := .unit 0 0 true })
      else match shortEscape? c with
        | some d => ([], .text (scan.push d))
        | none => scan.fail
  | .unit octets value isHex =>
      let octets := octets + c.utf8Size
      let isHex := isHex && (hexValue? c).isSome
      let value := 16 * value + (hexValue? c).getD 0
      if octets < 4 then ([], .text { scan with phase := .unit octets value isHex })
      else if isHex then ([], .text (scan.pushUnit value))
      else stop true (scan.break .malformed)

def Scan.step : Scan → Char → ScanStep
  | .blank, c => scanBlank c
  | .word rest token, c => scanWord rest token c
  | .number phase numeral, c => scanNumber phase numeral c
  | .text scan, c => scanText scan c
  | .stopped, _ => ([], .stopped)

def Scan.finish : Scan → List Token
  | .blank => []
  | .word .. => [.broken false (.all .cut)]
  | .number phase numeral =>
      match phase with
      | .zero | .whole | .fraction | .exponent => [numberToken numeral]
      | _ => [.broken false ⟨.cut, .malformed⟩]
  | .text scan => [.broken true (scan.break .cut)]
  | .stopped => []

/-- The scanner with the tokens completed so far, backwards. -/
structure Scanner where
  done : List Token := []
  scan : Scan := .blank

def Scanner.push (scanner : Scanner) (c : Char) : Scanner :=
  let (tokens, next) := scanner.scan.step c
  ⟨tokens.reverse ++ scanner.done, next⟩

def Scanner.tokens (scanner : Scanner) : List Token :=
  scanner.done.reverse ++ scanner.scan.finish

def tokens (text : String) : List Token :=
  (text.toList.foldl Scanner.push {}).tokens

end ContractDictionary.Json
