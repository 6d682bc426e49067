import StructSchema.Source.Rule

/-!
# The grammar of Go sources

The rules by which a source is read. A file is a sequence of declarations and statements, in any
order. A line break ends what it stands behind wherever a declaration, statement, field or
interface element may end, and counts as a blank everywhere else; the setting of a type or an
expression tells which of the two it is.
-/

namespace StructSchema.Source

/-- Where a type or an expression stands: on a line that a break ends, in the header of a block,
where a brace opens the block, or between brackets. -/
inductive Setting
  | line
  | header
  | nested
  deriving DecidableEq, Repr

/-- The symbols of the grammar. -/
inductive Phrase
  | topLevel
  | packageClause
  | importDeclaration
  | function
  | method
  | constDeclaration
  | varDeclaration
  | closedVarDeclaration
  | typeDeclaration
  | typeParameters
  | parameters
  | parameter
  | result (setting : Setting)
  | type (setting : Setting)
  | simpleType (setting : Setting)
  | typeName (setting : Setting)
  | typeElement (setting : Setting)
  | typeArguments
  | genericType (setting : Setting)
  | arrayType (setting : Setting)
  | mapType (setting : Setting)
  | structType
  | field
  | interfaceType
  | interfaceElement
  | block
  | statements
  | statement
  | plainStatement
  | simpleStatement (setting : Setting)
  | ifStatement
  | forHeader
  | switchStatement
  | selectStatement
  | expressions (setting : Setting)
  | expression (setting : Setting)
  | unary (setting : Setting)
  | operand (setting : Setting)
  | access
  | arguments
  | literalValue
  | literalElement
  deriving DecidableEq, Repr

namespace Phrase

open Rule

/-! ### Shorthands -/

abbrev ref (phrase : Phrase) : Rule Phrase := .symbol phrase

/-- A continuation: on a line that a break ends, it stands before the break. -/
def on (setting : Setting) (rule : Rule Phrase) : Rule Phrase :=
  match setting with
  | .line => all [sameLine, rule]
  | _ => rule

def oneOf (first : String) (others : List String) : Rule Phrase :=
  any (fixed first) (others.map fixed)

/-- What ends a statement, a declaration, a field or an interface element. -/
def terminator : Rule Phrase := any newLine [fixed ";", fixed "\x00"]

/-- Items with a terminator between each two, and perhaps one behind the last. -/
def terminated (item : Rule Phrase) : Rule Phrase :=
  opt (all [item, many (all [terminator, item]), opt terminator])

def commas (setting : Setting) (item : Rule Phrase) : Rule Phrase :=
  all [item, many (all [on setting (fixed ","), item])]

/-- Any number of items between brackets, with commas between and perhaps one behind. -/
def listed (opening closing : String) (item : Rule Phrase) : Rule Phrase :=
  all [fixed opening, opt (commas .nested item), opt (fixed ","), fixed closing]

def group (item : Rule Phrase) : Rule Phrase :=
  alt (all [fixed "(", terminated item, fixed ")"]) item

def identifier : Rule Phrase := token .identifier

def stringLiteral : Rule Phrase := alt (token .rawString) (token .interpretedString)

def assignment : Rule Phrase :=
  oneOf "=" [":=", "+=", "-=", "*=", "/=", "%=", "<<=", ">>=", "&=", "&^=", "|=", "^="]

def binaryOperator : Rule Phrase :=
  oneOf "+" ["-", "*", "/", "%", "<<", ">>", "&", "&^", "|", "^", "==", "!=", "<", "<=", ">", ">=",
    "&&", "||"]

def unaryOperator : Rule Phrase := oneOf "+" ["-", "!", "^", "*", "&", "<-"]

/-! ### Declarations -/

def constSpec : Rule Phrase :=
  all [commas .line identifier,
    opt (on .line (alt (all [fixed "=", ref (expressions .line)])
      (all [ref (type .nested), fixed "=", ref (expressions .line)])))]

def valuedVarSpec : Rule Phrase :=
  all [commas .nested identifier,
    alt (all [fixed "=", ref (expressions .line)])
      (all [ref (type .line), on .line (fixed "="), ref (expressions .line)])]

def varSpec : Rule Phrase :=
  alt valuedVarSpec (all [commas .nested identifier, ref (type .line)])

/-- One type definition or alias. What can be read as an array length is one, and type
parameters otherwise. -/
def typeDefinition : Rule Phrase :=
  let name := labelled .name identifier
  let definition := labelled .type (ref (type .line))
  any (node .typeSpec (all [name, definition]))
    [node .typeSpec (all [name, ref typeParameters, definition]),
      node .typeAlias (all [name, opt (ref typeParameters), fixed "=", definition])]

def importSpec : Rule Phrase := all [opt (alt (fixed ".") identifier), stringLiteral]

def functionRest : Rule Phrase :=
  all [ref parameters, opt (on .line (ref (result .line))), opt (on .line (ref block))]

/-! ### Fields -/

/-- A struct tag on the line of its field. -/
def fieldTag : Rule Phrase := opt (on .line (labelled .tag stringLiteral))

def namedField : Rule Phrase :=
  let name := labelled .name identifier
  let declared := labelled .type (ref (type .line))
  alt (all [name, on .line declared])
    (all [name, on .line (fixed ","), commas .nested name, declared])

/-- An embedded field with type arguments; it ends where a field may end. -/
def embeddedGeneric : Rule Phrase :=
  all [opt (fixed "*"), labelled .type (ref (genericType .line)), fieldTag,
    ahead (alt terminator (fixed "\x7d"))]

def embeddedName : Rule Phrase :=
  all [opt (fixed "*"), labelled .type (ref (typeName .line))]

/-! ### Statements -/

def caseOf (choice : Rule Phrase) : Rule Phrase :=
  all [alt (all [fixed "case", choice]) (fixed "default"), fixed ":", opt (ref statements)]

def cases (choice : Rule Phrase) : Rule Phrase :=
  all [fixed "\x7b", many (caseOf choice), fixed "\x7d"]

def initializer : Rule Phrase := opt (all [ref (simpleStatement .header), fixed ";"])

def typeSwitchHeader : Rule Phrase :=
  all [initializer, opt (all [ref (expressions .header), fixed ":="]), ref (expression .header),
    fixed ".", fixed "(", fixed "type", fixed ")"]

def communication : Rule Phrase :=
  alt (all [ref (expression .nested), fixed "<-", ref (expression .nested)])
    (all [opt (all [ref (expressions .nested), oneOf "=" [":="]]), ref (expression .nested)])

def rangeClause : Rule Phrase :=
  all [opt (all [ref (expressions .header), oneOf "=" [":="]]), fixed "range",
    ref (expression .header)]

def forClause : Rule Phrase :=
  all [opt (ref (simpleStatement .header)), fixed ";", opt (ref (expression .header)), fixed ";",
    opt (ref (simpleStatement .header))]

/-- A label with its statement, or alone at the end of a list of statements. -/
def labelledStatement : Rule Phrase :=
  all [identifier, on .line (fixed ":"),
    alt (ref statement) (ahead (oneOf "\x7d" ["case", "default"]))]

/-- The setting of the operands left of an assignment, behind the first comma: no statement may
end there. -/
def besideComma : Setting → Setting
  | .line => .nested
  | setting => setting

/-! ### Expressions -/

def functionLiteral : Rule Phrase :=
  all [fixed "func", ref parameters, opt (ref (result .nested)), ref block]

/-- A call of `new` or `make`, whose first argument is a type. -/
def typeCall (setting : Setting) : Rule Phrase :=
  all [alt (word "new") (word "make"), on setting (fixed "("), ref (type .nested),
    many (all [fixed ",", ref (expression .nested)]), opt (fixed ","), fixed ")"]

/-- A composite literal of a named type. In a header its brace would open the block. -/
def namedComposite (setting : Setting) : List (Rule Phrase) :=
  if setting = .header then []
  else
    [all [ref (genericType setting), on setting (ref literalValue)],
      all [ref (typeName setting), on setting (ref literalValue)]]

def writtenComposite : Rule Phrase :=
  all [any (ref (mapType .nested)) [ref (arrayType .nested), ref structType,
      all [fixed "[", fixed "...", fixed "]", ref (type .nested)]],
    ref literalValue]

def sliceRest : Rule Phrase :=
  let third := all [fixed ":", ref (expression .nested)]
  all [fixed ":", opt (all [ref (expression .nested), opt third]), fixed "]"]

def rule : Phrase → Rule Phrase
  | topLevel =>
    any (all [any (ref packageClause) [ref importDeclaration, ref function, ref method],
        alt terminator atEnd])
      [all [ref statement, terminator],
        all [any (ref constDeclaration) [ref closedVarDeclaration, ref plainStatement], atEnd]]
  | packageClause => node .otherDeclaration (all [fixed "package", identifier])
  | importDeclaration => node .otherDeclaration (all [fixed "import", group importSpec])
  | function =>
    node .functionDeclaration
      (all [fixed "func", identifier, opt (ref typeParameters), functionRest])
  | method =>
    node .methodDeclaration (all [fixed "func", ref parameters, identifier, functionRest])
  | constDeclaration => node .otherDeclaration (all [fixed "const", group constSpec])
  | varDeclaration => node .otherDeclaration (all [fixed "var", group varSpec])
  | closedVarDeclaration =>
    node .otherDeclaration
      (all [fixed "var", alt (all [fixed "(", terminated varSpec, fixed ")"]) valuedVarSpec])
  | typeDeclaration => node .typeDeclaration (all [fixed "type", group typeDefinition])
  | typeParameters =>
    all [fixed "[", commas .nested (all [commas .nested identifier, ref (typeElement .nested)]),
      opt (fixed ","), fixed "]"]
  | parameters => listed "(" ")" (ref parameter)
  | parameter =>
    any (all [commas .nested identifier, ref (type .nested)])
      [all [opt identifier, fixed "...", ref (type .nested)], ref (type .nested)]
  | result setting => alt (ref parameters) (ref (simpleType setting))
  | type setting =>
    alt (node .otherType (all [fixed "(", ref (type .nested), fixed ")"]))
      (ref (simpleType setting))
  | simpleType setting =>
    any (ref (genericType setting))
      [ref (typeName setting),
        node .otherType (all [fixed "*", ref (type setting)]),
        ref structType,
        ref (arrayType setting),
        ref (mapType setting),
        ref interfaceType,
        node .otherType (all [fixed "chan", opt (fixed "<-"), ref (type setting)]),
        node .otherType (all [fixed "<-", fixed "chan", ref (type setting)]),
        node .otherType
          (all [fixed "func", ref parameters, opt (on setting (ref (result setting)))]),
        node .otherType (all [fixed "~", ref (type setting)])]
  | typeName setting =>
    alt
      (node .qualifiedType
        (all [labelled .package identifier, on setting (fixed "."), labelled .name identifier]))
      identifier
  | typeElement setting =>
    all [ref (type setting), many (all [on setting (fixed "|"), ref (type setting)])]
  | typeArguments =>
    all [fixed "[", commas .nested (ref (typeElement .nested)), opt (fixed ","), fixed "]"]
  | genericType setting =>
    node .otherType (all [ref (typeName setting), on setting (ref typeArguments)])
  | arrayType setting =>
    let element := labelled .element (ref (type setting))
    alt (node .sliceType (all [fixed "[", fixed "]", element]))
      (node .arrayType (all [fixed "[", ref (expression .nested), fixed "]", element]))
  | mapType setting =>
    node .otherType
      (all [fixed "map", fixed "[", ref (type .nested), fixed "]", ref (type setting)])
  | structType =>
    node .structType
      (all [fixed "struct",
        node .fieldList (all [fixed "\x7b", terminated (ref field), fixed "\x7d"])])
  | field =>
    node .fieldDeclaration
      (any embeddedGeneric [all [namedField, fieldTag], all [embeddedName, fieldTag]])
  | interfaceType =>
    node .otherType
      (all [fixed "interface", fixed "\x7b", terminated (ref interfaceElement), fixed "\x7d"])
  | interfaceElement =>
    alt (all [identifier, on .line (ref parameters), opt (on .line (ref (result .line)))])
      (ref (typeElement .line))
  | block => node .block (all [fixed "\x7b", opt (ref statements), fixed "\x7d"])
  | statements =>
    node .statementList
      (all [ref statement, many (all [terminator, ref statement]), opt terminator])
  | statement =>
    any (ref typeDeclaration) [ref varDeclaration, ref constDeclaration, ref plainStatement]
  | plainStatement =>
    any (ref block)
      [node .statement
        (any (all [fixed "return", opt (on .line (ref (expressions .line)))])
          [all [oneOf "go" ["defer"], ref (expression .line)],
            ref ifStatement,
            all [fixed "for", ref forHeader, ref block],
            ref switchStatement,
            ref selectStatement,
            fixed "fallthrough",
            all [oneOf "break" ["continue"], opt (on .line identifier)],
            all [fixed "goto", identifier],
            fixed ";",
            labelledStatement,
            ref (simpleStatement .line)])]
  | simpleStatement setting =>
    let more := on setting
    all [ref (expression setting),
      any (more (oneOf "++" ["--"]))
        [more (all [fixed "<-", ref (expression setting)]),
          more (all [assignment, ref (expressions setting)]),
          more (all [fixed ",", ref (expressions (besideComma setting)), assignment,
            ref (expressions setting)]),
          empty]]
  | ifStatement =>
    all [fixed "if", initializer, ref (expression .header), ref block,
      opt (on .line (all [fixed "else", alt (ref block) (ref ifStatement)]))]
  | forHeader =>
    any rangeClause
      [forClause, all [ref (expression .header), ahead (fixed "\x7b")], empty]
  | switchStatement =>
    all [fixed "switch",
      alt (all [typeSwitchHeader, cases (commas .nested (ref (type .nested)))])
        (all [initializer, opt (ref (expression .header)), cases (ref (expressions .nested))])]
  | selectStatement => all [fixed "select", cases communication]
  | expressions setting => commas setting (ref (expression setting))
  | expression setting =>
    node .expression
      (all [ref (unary setting), many (all [on setting binaryOperator, ref (unary setting)])])
  | unary setting =>
    all [many unaryOperator, ref (operand setting), many (on setting (ref access))]
  | operand setting =>
    any functionLiteral
      (typeCall setting :: namedComposite setting ++
        [writtenComposite,
          all [fixed "(", ref (expression .nested), fixed ")"],
          identifier,
          all [ref (type .nested), fixed "(", ref (expression .nested), opt (fixed ","), fixed ")"],
          token .number,
          token .rune,
          stringLiteral])
  | access =>
    any (all [fixed ".", identifier])
      [all [fixed ".", fixed "(", ref (type .nested), fixed ")"],
        all [fixed "[", ref (expression .nested), alt (fixed "]") sliceRest],
        all [fixed "[", sliceRest],
        ref typeArguments,
        ref arguments]
  | arguments =>
    let argument := all [ref (expression .nested), opt (fixed "...")]
    all [fixed "(", opt (all [commas .nested argument, opt (fixed ",")]), fixed ")"]
  | literalValue =>
    listed "\x7b" "\x7d" (all [ref literalElement, opt (all [fixed ":", ref literalElement])])
  | literalElement => alt (ref literalValue) (ref (expression .nested))

end Phrase

/-! ### Sources -/

/-- A depth of rules that no source of so many tokens exceeds. -/
def depthBound (tokens : List Token) : Nat := 1000 * (tokens.length + 1)

def Tree.ofTokens (tokens : List Token) : Except Nat Tree :=
  match (Rule.many (.symbol .topLevel)).read Phrase.rule (depthBound tokens) tokens with
  | none => .error 1
  | some (trees, rest) =>
    match rest with
    | [] => .error 1
    | t :: _ =>
      if t.kind = .endOfSource then .ok (.branch none .sourceFile 1 trees) else .error t.line

/-- The tree of a source; an error gives the line of the first fault. -/
def Tree.ofSource (source : List Char) : Except Nat Tree :=
  Source.tokens source >>= Tree.ofTokens

end StructSchema.Source
