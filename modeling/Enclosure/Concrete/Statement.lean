import Enclosure.Concrete.Pattern

/-!
# Concrete statements

Readers for statements and blocks.  The block of a compound statement is the rest of the line after
the colon, the deeper lines that follow, or nothing at all.

What is here:

* `simpleStatement`: a statement within a line.
* `statement`: any statement, with the line end after it.
* `statements`: the statements of a block or of a whole text.
-/

set_option autoImplicit false

namespace Enclosure.Concrete

/-- What is wanted where a statement may start. -/
def statementStart (inBlock : Bool) : Wanted := { quote := true, dedent := inBlock }

/-- What is wanted after a colon that opens a block. -/
def blockStart : Wanted := { newline := true, indent := true, quote := true }

/-! ## Assignments and expressions as statements -/

mutual

/-- Expressions, or targets with what is assigned to them. -/
def assigned : Nat → Wanted → String → Step Unit
  | 0, w, _ => do stuckAt (← peek w)
  | n + 1, w, kind => do
    let r ← peek w
    if r.isWord "yield" then yield_ n r .statement
    else
      opened
      expression n w .statement
      let first := (← get).heap
      let r ← peek Place.statement.after
      let several := r.isMark ","
      if several then moreExpressions n .statement
      let r ← peek Place.statement.after
      match r.lexeme with
      | .mark m =>
        if m == "=" then
          targetOf several r
          takePlain r
          assigned n operand "expression_list"
          closed "assignment"
        else if isAugmented m then
          targetOf several r
          takePlain r
          assigned n operand "expression_list"
          closed "augmented_assignment"
        else if m == ":" && !first.isEmpty then
          targetOf several r
          takePlain r
          annotation_ n operand .statement
          let r ← peek Place.statement.after
          if r.isMark "=" then
            takePlain r
            assigned n operand "expression_list"
          closed "assignment"
        else finish several kind
      | _ => finish several kind
where
  finish (several : Bool) (kind : String) : Step Unit :=
    if several then closed kind else left
  targetOf (several : Bool) (r : Scanned) : Step Unit := do
    if several then
      let b ← get
      match asPatterns? b.heap.reverse with
      | some ts => set { b with heap := ts.reverse }
      | none => stuckAt r
      gathered "pattern_list"
    else retop asPattern? r

end

/-- Whether a statement may end here. -/
def ended : Step Unit := do
  let r ← peek Place.statement.after
  match r.lexeme with
  | .newline => pure ()
  | .mark m => if m == ";" then pure () else stuckAt r
  | _ => stuckAt r

/-! ## Simple statements -/

/-- Names with commas between them. -/
def names : Nat → Wanted → Step Unit
  | 0, w => do stuckAt (← peek w)
  | n + 1, w => do
    identifier w
    let r ← peek Place.statement.after
    if r.isMark "," then
      takePlain r
      names n {}

/-- A dotted name, and perhaps a name to import it under. -/
def imported (n : Nat) (w : Wanted) (p : Place) : Step Unit := do
  opened
  wrap "dotted_name" (dottedName w p.after n)
  let r ← peek p.after
  if r.isWord "as" then
    takePlain r
    identifier {}
    closed "aliased_import"
  else left

/-- Dotted names to import, with commas between them. -/
def importedNames : Nat → Wanted → Place → Step Unit
  | 0, w, _ => do stuckAt (← peek w)
  | n + 1, w, p => do
    imported n w p
    let r ← peek p.after
    if r.isMark "," then
      takePlain r
      let r ← peek p.after
      match r.lexeme with
      | .word _ => importedNames n p.after p
      | _ => pure ()

/-- The points before a relative module name. -/
def points : Nat → Step Unit
  | 0 => do stuckAt (← peek {})
  | n + 1 => do
    let r ← peek {}
    if r.isMark "." || r.isMark "..." then
      takePlain r
      points n

/-- An import of names from a module. -/
def importFrom (n : Nat) (r : Scanned) : Step Unit := do
  opened
  takePlain r
  let r ← peek {}
  let future := r.isWord "__future__"
  if r.isMark "." || r.isMark "..." then
    wrap "relative_import" do
      wrap "import_prefix" (points n)
      let r ← peek {}
      match r.lexeme with
      | .word t => if isFree t then wrap "dotted_name" (dottedName {} {} n)
      | _ => pure ()
  else if future then takePlain r
  else wrap "dotted_name" (dottedName {} {} n)
  needWord {} "import"
  let r ← peek {}
  if r.isMark "*" && !future then wrap "wildcard_import" (takePlain r)
  else if r.isMark "(" then
    takePlain r
    importedNames n {} .inside
    needMark Place.inside.after ")"
  else importedNames n {} .statement
  closed (if future then "future_import_statement" else "import_from_statement")

/-- Expressions with commas between them and none at the end. -/
def listed : Nat → Wanted → Step Unit
  | 0, w => do stuckAt (← peek w)
  | n + 1, w => do
    expression n w .statement
    let r ← peek Place.statement.after
    if r.isMark "," then
      takePlain r
      listed n operand

/-- A statement that prints. -/
def printStatement (n : Nat) (r : Scanned) : Step Unit :=
  wrap "print_statement" do
    takePlain r
    let r ← peek operand
    if r.isMark ">>" then
      wrap "chevron" do
        takePlain r
        expression n operand .statement
      moreExpressions n .statement
    else
      expression n operand .statement
      moreExpressions n .statement

/-- A statement that runs a text. -/
def execStatement (n : Nat) (r : Scanned) : Step Unit :=
  wrap "exec_statement" do
    takePlain r
    let r ← peek operand
    match r.lexeme with
    | .quoteOpen _ => string n r
    | _ => identifier operand
    let r ← peek Place.statement.after
    if r.isWord "in" then
      takePlain r
      listed n operand

/-- A statement that gives a type a name. -/
def typeStatement (n : Nat) (r : Scanned) : Step Unit :=
  wrap "type_alias_statement" do
    takePlain r
    annotation_ n operand .before
    needMark {} "="
    annotation_ n operand .statement

/-- A statement within a line. -/
def simpleStatement (n : Nat) (w : Wanted) : Step Unit := do
  let r ← peek w
  let plain : Step Unit := assigned n w "tuple_expression"
  match r.lexeme with
  | .word t =>
    if t == "pass" || t == "break" || t == "continue" then wrap s!"{t}_statement" (takePlain r)
    else if t == "import" then
      wrap "import_statement" do
        takePlain r
        importedNames n {} .statement
    else if t == "from" then importFrom n r
    else if t == "return" then
      wrap "return_statement" do
        takePlain r
        optionalExpressions
    else if t == "raise" then
      wrap "raise_statement" do
        takePlain r
        optionalExpressions
        let r ← peek Place.statement.after
        if r.isWord "from" then
          takePlain r
          expression n operand .statement
    else if t == "del" then
      wrap "delete_statement" do
        takePlain r
        expressions n operand .statement "expression_list"
    else if t == "global" || t == "nonlocal" then
      wrap s!"{t}_statement" do
        takePlain r
        names n {}
    else if t == "assert" then
      wrap "assert_statement" do
        takePlain r
        listed n operand
    else if t == "print" then
      if followedBy r Place.statement.open_ ">>" then printStatement n r
      else orElse (do plain; ended) (printStatement n r)
    else if t == "exec" then orElse (do plain; ended) (execStatement n r)
    else if t == "type" then orElse (do typeStatement n r; ended) plain
    else plain
  | _ => plain
where
  optionalExpressions : Step Unit := do
    let r ← peek Place.statement.open_
    if startsExpression r.lexeme then
      expressions n Place.statement.open_ .statement "expression_list"

/-- Statements within a line, and the end of the line. -/
def line : Nat → Wanted → Step Unit
  | 0, w => do stuckAt (← peek w)
  | n + 1, w => do
    simpleStatement n w
    let r ← peek Place.statement.after
    match r.lexeme with
    | .newline => pass r
    | .mark m =>
      if m == ";" then
        takePlain r
        let r ← peek { newline := true, quote := true }
        match r.lexeme with
        | .newline => pass r
        | _ => line n { newline := true, quote := true }
      else stuckAt r
    | _ => stuckAt r

/-! ## Compound statements -/

/-- What a with statement enters, with commas between. -/
def entered : Nat → Place → Step Unit
  | 0, _ => do stuckAt (← peek operand)
  | n + 1, p => do
    wrap "with_item" (expression n operand p)
    let r ← peek p.after
    if r.isMark "," then
      takePlain r
      let r ← peek { p.after with quote := true }
      if startsExpression r.lexeme then entered n p

/-- The head of a with statement. -/
def withClause (n : Nat) : Step Unit := do
  let r ← peek operand
  if r.isMark "(" then
    orElse (do
      wrap "with_clause" do
        takePlain r
        entered n .inside
        let few := (← get).heap.filter (fun t => t.kind == "with_item") |>.length
        let r ← peek Place.inside.after
        if few < 2 then stuckAt r
        needMark Place.inside.after ")"
      let r ← peek {}
      if !(r.isMark ":") then stuckAt r) (wrap "with_clause" (entered n .before))
  else wrap "with_clause" (entered n .before)

/-- What a match statement looks at. -/
def subjects : Nat → Step Unit
  | 0 => do stuckAt (← peek operand)
  | n + 1 => do
    expression n operand .before
    let r ← peek {}
    if r.isMark "," then
      takePlain r
      let r ← peek operand
      if startsExpression r.lexeme then subjects n

/-- The patterns of a case. -/
def casePatterns : Nat → Wanted → Step Unit
  | 0, w => do stuckAt (← peek w)
  | n + 1, w => do
    casePattern n w .before
    let r ← peek {}
    if r.isMark "," then
      takePlain r
      let r ← peek operand
      if !(r.isMark ":" || r.isWord "if") then casePatterns n operand

mutual

/-- Any statement; `inBlock` tells whether the end of a block may come here. -/
def statement : Nat → Bool → Step Unit
  | 0, b => do stuckAt (← peek (statementStart b))
  | n + 1, inBlock => do
    let w := statementStart inBlock
    let r ← peek w
    match r.lexeme with
    | .word t =>
      if t == "if" then
        wrap "if_statement" do
          takePlain r
          expression n operand .before
          needMark {} ":"
          suite n
          branches n w
      else if t == "while" then
        wrap "while_statement" do
          takePlain r
          expression n operand .before
          needMark {} ":"
          suite n
          clause n w "else" "else_clause"
      else if t == "for" then wrap "for_statement" (forLoop n w w)
      else if t == "try" then
        wrap "try_statement" do
          takePlain r
          needMark {} ":"
          suite n
          handlers n w
          clause n w "else" "else_clause"
          clause n w "finally" "finally_clause"
      else if t == "with" then wrap "with_statement" (withStatement n w)
      else if t == "def" then wrap "function_definition" (function n w)
      else if t == "class" then classDefinition n w
      else if t == "async" then
        match (r.after.next {}).lexeme with
        | .word u =>
          if u == "def" then
            wrap "function_definition" do
              takePlain r
              function n {}
          else if u == "for" then
            wrap "for_statement" do
              takePlain r
              forLoop n {} w
          else if u == "with" then
            wrap "with_statement" do
              takePlain r
              withStatement n {}
          else line n w
        | _ => line n w
      else if t == "match" then
        orElse (wrap "match_statement" do
          takePlain r
          subjects n
          needMark {} ":"
          cases n) (line n w)
      else line n w
    | .mark m => if m == "@" then decorated n w else line n w
    | _ => line n w

/-- A loop over what an expression yields; `w` is what is wanted after it. -/
def forLoop : Nat → Wanted → Wanted → Step Unit
  | 0, first, _ => do stuckAt (← peek first)
  | n + 1, first, w => do
    needWord first "for"
    targets n
    needWord {} "in"
    expressions n operand .before "expression_list"
    needMark {} ":"
    suite n
    clause n w "else" "else_clause"

/-- A with statement. -/
def withStatement : Nat → Wanted → Step Unit
  | 0, w => do stuckAt (← peek w)
  | n + 1, w => do
    needWord w "with"
    withClause n
    needMark {} ":"
    suite n

/-- The definition of a function. -/
def function : Nat → Wanted → Step Unit
  | 0, w => do stuckAt (← peek w)
  | n + 1, w => do
    needWord w "def"
    identifier {}
    let r ← peek {}
    if r.isMark "[" then typeParameters n .before
    wrap "parameters" do
      needMark {} "("
      let r ← peek element
      if !(r.isMark ")") then
        parameters n element .inside true
        needMark Place.inside.after ")"
      else takePlain r
    let r ← peek {}
    if r.isMark "->" then
      takePlain r
      annotation_ n operand .before
    needMark {} ":"
    suite n

/-- The definition of a class. -/
def classDefinition : Nat → Wanted → Step Unit
  | 0, w => do stuckAt (← peek w)
  | n + 1, w =>
    wrap "class_definition" do
      needWord w "class"
      identifier {}
      let r ← peek {}
      if r.isMark "[" then typeParameters n .before
      let r ← peek {}
      if r.isMark "(" then arguments n r false
      needMark {} ":"
      suite n

/-- A definition with decorators. -/
def decorated : Nat → Wanted → Step Unit
  | 0, w => do stuckAt (← peek w)
  | n + 1, w =>
    wrap "decorated_definition" do
      decorators n w
      let r ← peek {}
      if r.isWord "class" then classDefinition n {}
      else
        wrap "function_definition" do
          if r.isWord "async" then takePlain r
          function n {}

/-- Decorators, each on a line. -/
def decorators : Nat → Wanted → Step Unit
  | 0, w => do stuckAt (← peek w)
  | n + 1, w => do
    let r ← peek w
    if r.isMark "@" then
      wrap "decorator" do
        takePlain r
        expression n operand .statement
        let r ← peek Place.statement.after
        match r.lexeme with
        | .newline => pass r
        | _ => stuckAt r
      decorators n {}

/-- The alternatives of an if statement. -/
def branches : Nat → Wanted → Step Unit
  | 0, w => do stuckAt (← peek w)
  | n + 1, w => do
    let r ← peek w
    if r.isWord "elif" then
      wrap "elif_clause" do
        takePlain r
        expression n operand .before
        needMark {} ":"
        suite n
      branches n w
    else clause n w "else" "else_clause"

/-- A clause of one word, if it is there. -/
def clause : Nat → Wanted → String → String → Step Unit
  | 0, w, _, _ => do stuckAt (← peek w)
  | n + 1, w, word, kind => do
    let r ← peek w
    if r.isWord word then
      wrap kind do
        takePlain r
        needMark {} ":"
        suite n

/-- The clauses of a try statement that catch something. -/
def handlers : Nat → Wanted → Step Unit
  | 0, w => do stuckAt (← peek w)
  | n + 1, w => do
    let r ← peek w
    if r.isWord "except" then
      wrap "except_clause" do
        takePlain r
        let r ← peek operand
        if r.isMark "*" then takePlain r
        let r ← peek operand
        if startsExpression r.lexeme then caught n
        needMark {} ":"
        suite n
      handlers n w

/-- What a clause catches. -/
def caught : Nat → Step Unit
  | 0 => do stuckAt (← peek operand)
  | n + 1 => do
    expression n operand .before
    let r ← peek {}
    if r.isMark "," then
      takePlain r
      caught n

/-- The cases of a match statement, as a block. -/
def cases : Nat → Step Unit
  | 0 => do stuckAt (← peek blockStart)
  | n + 1 => do
    let r ← peek { newline := true, indent := true }
    match r.lexeme with
    | .newline =>
      pass r
      empty "block" r
    | .indent _ =>
      opened
      pass r
      moreCases n
      gatheredFrom "block" r.span
      left
    | _ => stuckAt r

/-- Cases up to the end of the block. -/
def moreCases : Nat → Step Unit
  | 0 => do stuckAt (← peek { dedent := true })
  | n + 1 => do
    let r ← peek { dedent := true }
    match r.lexeme with
    | .dedent => pass r
    | .word t =>
      if t == "case" then
        wrap "case_clause" do
          takePlain r
          casePatterns n operand
          let r ← peek {}
          if r.isWord "if" then
            wrap "if_clause" do
              takePlain r
              expression n operand .before
          needMark {} ":"
          suite n
        moreCases n
      else stuckAt r
    | _ => stuckAt r

/-- What follows the colon of a compound statement, as a block. -/
def suite : Nat → Step Unit
  | 0 => do stuckAt (← peek blockStart)
  | n + 1 => do
    let r ← peek blockStart
    match r.lexeme with
    | .newline =>
      pass r
      empty "block" r
    | .indent _ =>
      pass r
      wrap "block" (statements n true)
    | _ => wrap "block" (line n blockStart)

/-- Statements up to the end of the block or of the text. -/
def statements : Nat → Bool → Step Unit
  | 0, b => do stuckAt (← peek (statementStart b))
  | n + 1, inBlock => do
    let r ← peek (statementStart inBlock)
    match r.lexeme with
    | .dedent => if inBlock then pass r else stuckAt r
    | .finish => if inBlock then stuckAt r else pass r
    | _ =>
      openedStatement
      statement n inBlock
      left
      statements n inBlock

end
end Enclosure.Concrete
