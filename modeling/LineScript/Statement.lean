import LineScript.Block.Opener
import LineScript.Call

/-!
What a line asks for. A line is tried against the rules in their order, and the first that accepts it
decides: imports and declarations are known by their first word before an equals sign or a parenthesis
is looked for. A line that no rule accepts is an expression.
-/

namespace LineScript

open Unicode

/-- What a line asks for. -/
inductive Statement where
  /-- Braces alone, which belong to a block that is dealt with elsewhere. -/
  | structural
  | importModule (name : Text)
  | declaration (keyword signature : Text)
  | tryOpener
  /-- The opener of a catch or finally region with no try before it. -/
  | orphan (kind : BlockKind)
  | assignment (name expression : Text)
  | call (name args : Text)
  | expression (t : Text)
deriving DecidableEq

namespace Statement

/-- The words that begin an import. -/
def importWords : List Text := ["import".toList, "use".toList, "导入".toList]

/-- The words that begin a declaration. -/
def declarationWords : List Text := [
  "fn".toList, "function".toList, "def".toList, "class".toList, "event".toList, "on".toList,
  "函数".toList, "类".toList, "事件".toList]

/-- The words that may stand before an assignment. -/
def variableWords : List Text := ["var".toList, "let".toList, "变量".toList]

/-- Lines of braces, semicolons and blanks. -/
def structural? (line : Text) : Option Statement :=
  if line.all fun c => c == '\x7b' || c == '\x7d' || c == ';' || isBlank c then some structural
  else none

/-- Lines such as `import game` and `use text as t`; what follows the name is ignored. -/
def importLine? (line : Text) : Option Statement :=
  match importWords.findSome? (Text.stripWord? · line) with
  | none => none
  | some rest =>
    match rest.words with
    | [] => none
    | word :: _ =>
      let name := word.dropEndWhile (· == ';')
      if isIdentifier name then some (importModule name) else none

/-- The declaration that begins with `keyword`. A declared name that is assigned to is none. -/
def declarationBy? (keyword line : Text) : Option Statement :=
  match Text.stripWord? keyword line with
  | none => none
  | some rest =>
    let name := rest.takeWhile isWordChar
    let behind : Text := rest.dropWhile isWordChar
    if isIdentifier name && behind.trimStart.head? != some '=' then
      some (declaration keyword
        (rest.dropEndWhile fun c => c == '\x7b' || c == ':' || c == ' '))
    else none

/-- Lines such as `fn attack(target) {` and `class Hero:`. -/
def declaration? (line : Text) : Option Statement :=
  declarationWords.findSome? (declarationBy? · line)

/-- Lines that open a region. -/
def block? (line : Text) : Option Statement :=
  (Opener.read? line).map fun opener =>
    match opener.kind with
    | .tryBlock => tryOpener
    | kind => orphan kind

/-- Cuts a text at its assignment operator, given the part of the text before it in reverse: the first
top-level equals sign that is no part of `==`, `!=`, `<=` or `>=`. After an equals sign that is rejected
the search goes on behind the operator it belongs to. -/
def cutAssignment? (before t : Text) : Option (Text × Text) :=
  match _h : Text.cutTop? '=' t with
  | none => none
  | some (left, '=' :: right) => cutAssignment? ('=' :: '=' :: (left.reverse ++ before)) right
  | some (left, right) =>
    let before := left.reverse ++ before
    if before.head?.any fun c => c == '!' || c == '<' || c == '>' || c == '=' then
      cutAssignment? ('=' :: before) right
    else some (before.reverse, right)
termination_by t.length
decreasing_by
  all_goals
    have hl := congrArg List.length (Text.cutTop?_append _h)
    simp only [List.length_append, List.length_cons] at hl
    omega

/-- Lines such as `x = 1` and `var x = 1`. -/
def assignment? (line : Text) : Option Statement :=
  let line := (variableWords.findSome? (Text.stripWord? · line)).getD line
  match cutAssignment? [] line with
  | none => none
  | some (left, right) =>
    let name := left.trim
    let expression := right.trim
    if isIdentifier name && !expression.isEmpty then some (assignment name expression) else none

/-- Lines that are calls. -/
def call? (line : Text) : Option Statement :=
  (splitCall? line).map fun (name, args) => call name args

/-- The rules, in the order in which they are tried. -/
inductive Rule where
  | structural
  | imports
  | declaration
  | block
  | assignment
  | call
deriving DecidableEq

namespace Rule

/-- The name of a rule. -/
def name : Rule → Text
  | structural => "structural".toList
  | imports => "import".toList
  | declaration => "declaration".toList
  | block => "block".toList
  | assignment => "assignment".toList
  | call => "call".toList

/-- The statement that a rule makes of a line it accepts. -/
def accept? : Rule → Text → Option Statement
  | structural => structural?
  | imports => importLine?
  | declaration => declaration?
  | block => block?
  | assignment => assignment?
  | call => call?

/-- All rules. -/
def all : List Rule := [structural, imports, declaration, block, assignment, call]

end Rule

/-- What a line asks for. The line has no blanks around it, says something and is no comment. -/
def classify (line : Text) : Statement :=
  (Rule.all.findSome? (·.accept? line)).getD (expression line)

end Statement

end LineScript
