import ContractDictionary.Target.Naming

/-!
# Types and literals in target languages

The type expression of a field and the literal of a term's default.
-/

namespace ContractDictionary

/-- Real numbers keep a point or an exponent; below `10 ^ -4` and from `10 ^ 16` on they have
an exponent. -/
def realLayout : NumberLayout where
  tie := .greater
  positionalFrom := -4
  exponentialFrom := 16
  integerEnd := ".0"
  exponentMark := "e"
  exponentSign := ""
  infinity := "inf"
  notANumber := "NaN"

structure Literal where
  text : String
  /-- Why the literal is not that of the declared default. -/
  warning : Option Warning := none
  deriving DecidableEq, Repr

namespace Language

def pathMark : Language → String
  | .python | .typeScript => "."
  | .rust => "::"

def qualified (language : Language) (owner name : String) : String :=
  owner ++ language.pathMark ++ name

def realType : Language → String
  | .python => "float"
  | .rust => "f64"
  | .typeScript => "number"

def timestampType : Language → String
  | .python => "datetime.datetime"
  | .rust => "core::Timestamp"
  | .typeScript => "Date"

def textType : Language → String
  | .python => "str"
  | .rust => "String"
  | .typeScript => "string"

def arrayType (language : Language) (element : String) : String :=
  match language with
  | .python => "typing.List[" ++ element ++ "]"
  | .rust => "Vec<" ++ element ++ ">"
  | .typeScript => "Array<" ++ element ++ ">"

def scalarReference? (language : Language) (identifier : String) : ScalarType → Option String
  | .unknown => none
  | .contractReference => some (language.qualified "core" "ContractReference")
  | .cycle => some (language.qualified "core" "Cycle")
  | .period => some (language.qualified "core" "Period")
  | .enumeration => some (language.qualified "enums" (typeName identifier))
  | .real => some language.realType
  | .timestamp => some language.timestampType
  | .varchar => some language.textType

def typeReference (language : Language) (identifier : String) (type : DeclaredType) :
    Except GenerationError String :=
  match language.scalarReference? identifier type.scalar with
  | none => .error (.unsupportedType language identifier type.scalar)
  | some scalar => .ok (if type.isArray then language.arrayType scalar else scalar)

def absent : Language → String
  | .python | .rust => "None"
  | .typeScript => "null"

def emptyArray : Language → String
  | .python | .typeScript => "[]"
  | .rust => "Vec::new()"

def textLiteral (language : Language) (value : String) : String :=
  match language with
  | .rust => "String::from(" ++ Text.quoted value ++ ")"
  | .python | .typeScript => Text.quoted value

def memberLiteral (language : Language) (identifier acronym : String) : String :=
  language.qualified (language.qualified "enums" (typeName identifier)) (memberName acronym)

end Language

def Literal.isAbsent (literal : Literal) (language : Language) : Bool :=
  literal.text == language.absent

namespace Term

def memberDefault (term : Term) (language : Language) (token : String) :
    Except GenerationError Literal :=
  match term.members with
  | [] => .error (.emptyEnumeration term.identifier)
  | first :: rest =>
      match (first :: rest).find? (·.isMatch token) with
      | some member => .ok { text := language.memberLiteral term.identifier member.acronym }
      | none => .ok {
          text := language.memberLiteral term.identifier first.acronym
          warning := some (.unmatchedDefault term.identifier token first.acronym) }

/-- The literal of a number; one that is missing or not finite gives zero with a warning. -/
def realDefault (term : Term) (value : Option Binary64) (written : String) : Literal :=
  match value.filter Binary64.isFinite with
  | some number => { text := realLayout.text number }
  | none => {
      text := realLayout.text .zero
      warning := some (.unreadableReal term.identifier written) }

def literal (term : Term) (language : Language) : Except GenerationError Literal :=
  if term.isArray then .ok { text := language.emptyArray }
  else
    match term.effectiveDefault? with
    | none => .ok { text := language.absent }
    | some default =>
        match term.scalarType, default with
        | .enumeration, .acronym token | .enumeration, .text token =>
            term.memberDefault language token
        | .real, .real value => .ok (term.realDefault (some value) (realLayout.text value))
        | .real, .text value | .real, .acronym value =>
            .ok (term.realDefault (Binary64.ofText? (Text.trim value)) value)
        | .varchar, .text value | .varchar, .acronym value =>
            .ok { text := language.textLiteral value }
        | scalar, _ => .error (.unsupportedType language term.identifier scalar)

/-- The mark of a field that may be left out, empty for a term with a default. -/
def optionalMark (term : Term) : String :=
  if term.hasDefault then "" else "?"

end Term

end ContractDictionary
