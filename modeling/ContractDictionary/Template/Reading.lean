import ContractDictionary.Template.Tag

/-!
# Reading a template

A written template is cut into texts and tags, and the tags are matched to blocks.  A line that
holds a tag of a block or a comment alone disappears, and a tilde takes away all white space on
its side of a tag.  A backslash before double braces makes them text; of several backslashes
before a tag one disappears.
-/

namespace ContractDictionary.Template

/-- A text or tag of a written template. -/
inductive Segment where
  | text (cs : List Char)
  | tag (tag : WrittenTag)

def inFront (cs : List Char) (read : List Char × List Char) : List Char × List Char :=
  (cs ++ read.1, read.2)

/-- Several backslashes and then double braces are at the front. -/
def beginsEscaped (cs : List Char) : Bool :=
  ['\\', '\\'].isPrefixOf cs && ['{', '{'].isPrefixOf (cs.dropWhile (· = '\\'))

def takeText : List Char → List Char × List Char
  | [] => ([], [])
  | '\\' :: '{' :: '{' :: '{' :: '{' :: rest => inFront ['{', '{', '{', '{'] (takeText rest)
  | '\\' :: '{' :: '{' :: rest => inFront ['{', '{'] (takeText rest)
  | '{' :: '{' :: rest => ([], '{' :: '{' :: rest)
  | c :: rest =>
      if beginsEscaped (c :: rest) then (rest.takeWhile (· = '\\'), rest.dropWhile (· = '\\'))
      else inFront [c] (takeText rest)

/-- The texts and tags of a written template, at most `fuel` of them. -/
def segmentsWithin : Nat → List Char → Option (List Segment)
  | 0, _ => none
  | _ + 1, [] => some []
  | fuel + 1, '{' :: '{' :: rest => do
      let (tag, after) ← takeTag rest
      let segments ← segmentsWithin fuel after
      return .tag tag :: segments
  | fuel + 1, cs => do
      let (text, after) := takeText cs
      let segments ← segmentsWithin fuel after
      return .text text :: segments

/-- The texts and tags of a written template; each takes one character at least. -/
def segments? (cs : List Char) : Option (List Segment) :=
  segmentsWithin (cs.length + 1) cs

def isLineBlank (c : Char) : Bool :=
  c = ' ' || c = '\t'

def isLineEnd (c : Char) : Bool :=
  c = '\n' || c = '\r'

/-- A line is begun, blanks aside, after a segment; `begun` tells whether it was before it. -/
def Segment.beginsLine (begun : Bool) : Segment → Bool
  | .text cs =>
      match cs.reverse.dropWhile isLineBlank with
      | c :: _ => isLineEnd c
      | [] => begun
  | .tag _ => false

def Segment.endsLine : Segment → Bool
  | .text cs => (cs.dropWhile isLineBlank).head?.any isLineEnd
  | .tag _ => false

/--
The tag before some segments stands alone on its line, if a line is begun before it.  The last
line of a template needs no line end.
-/
def standsAlone (begun : Bool) (tag : WrittenTag) (rest : List Segment) : Bool :=
  begun && tag.tag.isStructural && rest.head?.all Segment.endsLine

def dropLineEnd (cs : List Char) : List Char :=
  match cs.dropWhile isLineBlank with
  | '\r' :: '\n' :: rest => rest
  | '\n' :: rest => rest
  | rest => rest

/-- The characters without those at their end that satisfy a test. -/
def dropAtEnd (test : Char → Bool) (cs : List Char) : List Char :=
  (cs.reverse.dropWhile test).reverse

/-- The text without what the tag behind it takes away, if a line is begun before the tag. -/
def trimEnd (begun : Bool) (segments : List Segment) (cs : List Char) : List Char :=
  match segments with
  | .tag tag :: rest =>
      let cs := if tag.trimsBefore then dropAtEnd Text.isBlank cs else cs
      if standsAlone begun tag rest then dropAtEnd isLineBlank cs else cs
  | _ => cs

/-- What the tags before a place take away behind it. -/
structure Trimming where
  /-- The rest of the line, for the last tag stands alone. -/
  line : Bool := false
  /-- All white space, by a tilde. -/
  space : Bool := false

/-- What a tag takes away of the text behind it; a comment leaves this to the tag before. -/
def Trimming.after (trimming : Trimming) (tag : WrittenTag) (alone : Bool) : Trimming :=
  match tag.tag with
  | .comment => { trimming with line := alone }
  | .insertion _ => { trimming with space := tag.trimsAfter }
  | _ => { line := alone, space := tag.trimsAfter }

/-- The text without what the tags before it take away. -/
def Trimming.apply (trimming : Trimming) (cs : List Char) : List Char :=
  if trimming.space then Text.trimLeft cs
  else if trimming.line then dropLineEnd cs
  else cs

/--
Take white space around tags out of the texts.  `begun` tells whether a line is begun, blanks
aside.
-/
def tidyAfter (begun : Bool) (trimming : Trimming) : List Segment → List Segment
  | [] => []
  | .text cs :: rest =>
      let next := (Segment.text cs).beginsLine begun
      if trimming.space && cs.all isTagSpace then tidyAfter next trimming rest
      else
        .text (trimEnd next rest (trimming.apply cs)) ::
          tidyAfter next { trimming with line := false } rest
  | .tag tag :: rest =>
      .tag tag :: tidyAfter false (trimming.after tag (standsAlone begun tag rest)) rest

/-- The segments without the white space that tags take away. -/
def tidy (segments : List Segment) : List Segment :=
  tidyAfter true {} segments

/-- The beginning of a block with the parts that follow it, backwards. -/
structure Branch where
  head : BlockHead
  body : List Node := []

/-- A block whose closing tag has not come yet. -/
structure OpenBlock where
  /-- The name at which the block is closed. -/
  name : String
  /-- The branch that is under way, or was last before the rest of the block. -/
  branch : Branch
  /-- The branches before it, the last one first. -/
  earlier : List Branch := []
  /-- The parts of the rest of the block, backwards, once it has begun. -/
  otherwise : Option (List Node) := none

def OpenBlock.new (head : BlockHead) : OpenBlock :=
  { name := head.name, branch := { head } }

def OpenBlock.push (block : OpenBlock) (node : Node) : OpenBlock :=
  match block.otherwise with
  | none => { block with branch.body := node :: block.branch.body }
  | some nodes => { block with otherwise := some (node :: nodes) }

def OpenBlock.continue? (block : OpenBlock) (head : BlockHead) : Option OpenBlock :=
  match block.otherwise with
  | none => some { block with branch := { head }, earlier := block.branch :: block.earlier }
  | some _ => none

def OpenBlock.otherwise? (block : OpenBlock) : Option OpenBlock :=
  match block.otherwise with
  | none => some { block with otherwise := some [] }
  | some _ => none

def Branch.close (branch : Branch) (otherwise : Option (List Node)) : Node :=
  .block branch.head.name branch.head.arguments branch.head.parameters branch.body.reverse
    otherwise

/-- The block as a part of what is around it: each branch is the rest of the one before it. -/
def OpenBlock.close (block : OpenBlock) : Node :=
  block.earlier.foldl (fun rest branch => branch.close (some [rest]))
    (block.branch.close (block.otherwise.map List.reverse))

/-- Put a part into the innermost open block, or at the top. -/
def place (node : Node) (top : List Node) : List OpenBlock → List Node × List OpenBlock
  | [] => (node :: top, [])
  | block :: rest => (top, block.push node :: rest)

/-- The parts of a template, after the parts `top` and within some open blocks. -/
def build (top : List Node) (blocks : List OpenBlock) : List Segment → Option (List Node)
  | [] => if blocks.isEmpty then some top.reverse else none
  | .text cs :: rest =>
      let (top, blocks) :=
        if cs.isEmpty then (top, blocks) else place (.text (String.ofList cs)) top blocks
      build top blocks rest
  | .tag tag :: rest =>
      match tag.tag, blocks with
      | .comment, _ => build top blocks rest
      | .insertion part, _ =>
          let (top, blocks) := place part top blocks
          build top blocks rest
      | .openBlock head, _ => build top (OpenBlock.new head :: blocks) rest
      | _, [] => none
      | .alternative head, block :: outer =>
          match block.continue? head with
          | some block => build top (block :: outer) rest
          | none => none
      | .otherwise, block :: outer =>
          match block.otherwise? with
          | some block => build top (block :: outer) rest
          | none => none
      | .closeBlock name, block :: outer =>
          if block.name = name then
            let (top, blocks) := place block.close top outer
            build top blocks rest
          else
            none

end ContractDictionary.Template

namespace ContractDictionary

def Template.ofText? (text : String) : Option Template := do
  let segments ← Template.segments? text.toList
  Template.build [] [] (Template.tidy segments)

end ContractDictionary
