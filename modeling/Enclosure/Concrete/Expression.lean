import Enclosure.Concrete.Builder
import Enclosure.Token.Basic

/-!
# Concrete expressions

Readers for expressions and for what may stand inside them: collections, comprehensions, calls,
lambda forms, string literals with replacement fields, targets and type annotations.

Each reader gets what is wanted at its first lexeme and, as a `Place`, what may follow when it is
complete.  The fuel bounds how deep and how long the reading goes; `fuelFor` is more than any text
needs.

What is here:

* `Place`: what may follow a complete expression.
* `asPattern?`: an expression as a target.
* `expression` and the readers for its parts.
-/

set_option autoImplicit false

namespace Enclosure.Concrete

/-- What may follow a complete expression. -/
structure Place where
  /-- The end of the statement. -/
  newline : Bool := false
  /-- A closing bracket. -/
  close : Bool := false
  /-- A condition of a comprehension, so that no conditional expression may go on here. -/
  clause : Bool := false

namespace Place

/-- Inside brackets. -/
def inside : Place := { close := true }

/-- Before something that has to come. -/
def before : Place := {}

/-- At the end of a statement. -/
def statement : Place := { newline := true }

/-- What is wanted after a complete expression. -/
def after (p : Place) : Wanted := { newline := p.newline, close := p.close }

/-- What is wanted where either an operand or the end may come. -/
def open_ (p : Place) : Wanted := { newline := p.newline, close := p.close, quote := true }

end Place

/-- What is wanted where an operand has to come. -/
def operand : Wanted := { quote := true }

/-- What is wanted after an opening bracket or after a comma inside brackets. -/
def element : Wanted := { quote := true, close := true }

/-- Whether a word may be used as a name. -/
def isFree (t : String) : Bool := !(Token.reserved.contains t) || t == "async" || t == "await"

/-- Whether a lexeme may start an operand of an operator. -/
def startsOperand : Lexeme → Bool
  | .word t => isFree t || t == "True" || t == "False" || t == "None"
  | .integer | .float | .quoteOpen _ => true
  | .mark m => ["(", "[", "\x7b", "+", "-", "~", "*", "..."].contains m
  | _ => false

/-- Whether a lexeme may start an expression. -/
def startsExpression : Lexeme → Bool
  | .word t => isFree t || ["True", "False", "None", "lambda", "not"].contains t
  | l => startsOperand l

/-- How tight an arithmetic operator binds. -/
def arithmeticLevel (m : String) : Option Nat :=
  if m == "|" then some 14
  else if m == "&" then some 15
  else if m == "^" then some 16
  else if m == "<<" || m == ">>" then some 17
  else if m == "+" || m == "-" then some 18
  else if ["*", "@", "/", "%", "//"].contains m then some 19
  else if m == "**" then some 21
  else none

/-- The marks that compare. -/
def isComparison (m : String) : Bool := ["<", "<=", "==", "!=", ">=", ">", "<>"].contains m

/-- The marks that assign the result of an operator. -/
def isAugmented (m : String) : Bool :=
  ["+=", "-=", "*=", "/=", "@=", "//=", "%=", "**=", ">>=", "<<=", "&=", "^=", "|="].contains m

mutual

/-- An expression as a target. -/
def asPattern? : Tree → Option Tree
  | .node l cs =>
    if l.kind == "identifier" || l.kind == "subscript" || l.kind == "attribute" then
      some (.node l cs)
    else if l.kind == "list_splat" then
      if cs.all (fun t : Tree => !t.label.named || t.isExtra ||
          ["identifier", "subscript", "attribute"].contains t.kind) then
        some (.node { l with kind := "list_splat_pattern" } cs)
      else none
    else if l.kind == "tuple" || l.kind == "parenthesized_expression" then
      (asPatterns? cs).map (.node { l with kind := "tuple_pattern" })
    else if l.kind == "list" then
      (asPatterns? cs).map (.node { l with kind := "list_pattern" })
    else none

/-- Expressions, with the marks between them, as targets. -/
def asPatterns? : List Tree → Option (List Tree)
  | [] => some []
  | .node l cs :: ts =>
    if !l.named || l.kind == "comment" || l.kind == "line_continuation" then
      (asPatterns? ts).map (.node l cs :: ·)
    else
      match asPattern? (.node l cs), asPatterns? ts with
      | some t, some ts => some (t :: ts)
      | _, _ => none

end

/-- A name. -/
def identifier (w : Wanted) : Step Unit := do
  let r ← peek w
  match r.lexeme with
  | .word t => if isFree t then take r "identifier" true else stuckAt r
  | _ => stuckAt r

/-- Names with points between them. -/
def dottedName (w after : Wanted) : Nat → Step Unit
  | 0 => failed
  | fuel + 1 => do
    identifier w
    let r ← peek after
    if r.isMark "." then
      takePlain r
      dottedName {} after fuel
where
  failed : Step Unit := do stuckAt (← peek w)

/-- Whether the lexeme after a name is a certain mark. -/
def followedBy (r : Scanned) (w : Wanted) (m : String) : Bool := (r.after.next w).isMark m

/-- Take the colon a mark starts with. -/
def takeColon (r : Scanned) : Step Unit := do
  if r.isMark ":=" then
    let point : Point := ⟨r.span.start.row, r.span.start.column + 1⟩
    let past : Cursor :=
      { rest := '=' :: r.after.cursor.rest, point := point, byte := r.span.startByte + 1 }
    take
      { r with
        span := { r.span with stop := point, stopByte := past.byte }
        after := { r.after with cursor := past } } ":" false
  else takePlain r

mutual

/-- An expression. -/
def expression : Nat → Wanted → Place → Step Unit
  | 0, w, _ => do stuckAt (← peek w)
  | n + 1, w, p => do
    climb n w p 10
    conditions n p

/-- What may follow the operators of an expression: a name for it, or a condition. -/
def conditions : Nat → Place → Step Unit
  | 0, p => do stuckAt (← peek p.after)
  | n + 1, p => do
    let r ← peek p.after
    if r.isWord "as" then
      grow "as_pattern" do
        takePlain r
        wrap "as_pattern_target" (climb n operand p 10)
      conditions n p
    else if r.isWord "if" && !p.clause then
      grow "conditional_expression" do
        takePlain r
        expression n operand .before
        needWord {} "else"
        expression n operand p

/-- Operands joined by operators that bind at least as tight as a level. -/
def climb : Nat → Wanted → Place → Nat → Step Unit
  | 0, w, _, _ => do stuckAt (← peek w)
  | n + 1, w, p, level => do
    let r ← peek w
    if level ≤ 12 && r.isWord "not" then
      wrap "not_operator" do
        takePlain r
        climb n operand p 12
      operators n p level
    else if level ≤ 12 && r.isWord "lambda" then lambda n w p
    else if level ≤ 12 && isName r && followedBy r p.after ":=" then
      wrap "named_expression" do
        take r "identifier" true
        needMark p.after ":="
        climb n operand p 10
    else
      unary n w p
      operators n p level
where
  isName (r : Scanned) : Bool :=
    match r.lexeme with
    | .word t => isFree t
    | _ => false

/-- Operators with their right operands. -/
def operators : Nat → Place → Nat → Step Unit
  | 0, p, _ => do stuckAt (← peek p.after)
  | n + 1, p, level => do
    let r ← peek p.after
    match r.lexeme with
    | .mark m =>
      match arithmeticLevel m with
      | some l =>
        if level ≤ l then
          grow "binary_operator" do
            takePlain r
            climb n operand p (if m == "**" then l else l + 1)
          operators n p level
      | none =>
        if level ≤ 13 && isComparison m then
          grow "comparison_operator" (comparisons n p)
          operators n p level
    | .word t =>
      if level ≤ 13 && (t == "in" || t == "is" || (t == "not" && (r.after.next {}).isWord "in")) then
        grow "comparison_operator" (comparisons n p)
        operators n p level
      else if (level ≤ 11 && t == "and") || (level ≤ 10 && t == "or") then
        grow "boolean_operator" do
          takePlain r
          climb n operand p (if t == "and" then 12 else 11)
        operators n p level
    | _ => pure ()

/-- Comparisons in a row. -/
def comparisons : Nat → Place → Step Unit
  | 0, p => do stuckAt (← peek p.after)
  | n + 1, p => do
    let r ← peek p.after
    match r.lexeme with
    | .mark m =>
      if isComparison m then
        takePlain r
        climb n operand p 14
        comparisons n p
    | .word t =>
      if t == "in" then
        takePlain r
        climb n operand p 14
        comparisons n p
      else if t == "is" then
        takePlain r
        let r ← peek operand
        if r.isWord "not" then takePlain r
        climb n operand p 14
        comparisons n p
      else if t == "not" && (r.after.next {}).isWord "in" then
        takePlain r
        needWord {} "in"
        climb n operand p 14
        comparisons n p
    | _ => pure ()

/-- An operand with the signs before it. -/
def unary : Nat → Wanted → Place → Step Unit
  | 0, w, _ => do stuckAt (← peek w)
  | n + 1, w, p => do
    let r ← peek w
    match r.lexeme with
    | .mark m =>
      if m == "+" || m == "-" || m == "~" then
        wrap "unary_operator" do
          takePlain r
          climb n operand p 20
      else if m == "*" then
        wrap "list_splat" do
          takePlain r
          atom n operand p
          accessors n p
          let k ← topKind
          if !(["identifier", "attribute", "subscript"].contains k) then stuckAt r
        trailers n p
      else
        atom n w p
        trailers n p
    | .word t =>
      if t == "await" && startsOperand (r.after.next p.open_).lexeme then
        wrap "await" do
          takePlain r
          climb n p.open_ p 20
      else
        atom n w p
        trailers n p
    | _ =>
      atom n w p
      trailers n p

/-- Attributes and subscripts of the operand on the heap. -/
def accessors : Nat → Place → Step Unit
  | 0, p => do stuckAt (← peek p.after)
  | n + 1, p => do
    let r ← peek p.after
    if r.isMark "." then
      grow "attribute" do
        takePlain r
        identifier {}
      accessors n p
    else if r.isMark "[" then
      grow "subscript" (subscripts n r)
      accessors n p

/-- Attributes, subscripts and calls of the operand on the heap. -/
def trailers : Nat → Place → Step Unit
  | 0, p => do stuckAt (← peek p.after)
  | n + 1, p => do
    let r ← peek p.after
    if r.isMark "." then
      grow "attribute" do
        takePlain r
        identifier {}
      trailers n p
    else if r.isMark "[" then
      grow "subscript" (subscripts n r)
      trailers n p
    else if r.isMark "(" then
      grow "call" (arguments n r true)
      trailers n p

/-- A name, a literal or a bracketed form. -/
def atom : Nat → Wanted → Place → Step Unit
  | 0, w, _ => do stuckAt (← peek w)
  | n + 1, w, p => do
    let r ← peek w
    match r.lexeme with
    | .word t =>
      if t == "True" then take r "true" true
      else if t == "False" then take r "false" true
      else if t == "None" then take r "none" true
      else if isFree t then take r "identifier" true
      else stuckAt r
    | .integer => take r "integer" true
    | .float => take r "float" true
    | .mark m =>
      if m == "..." then take r "ellipsis" true
      else if m == "(" then parenthesized n r
      else if m == "[" then brackets n r
      else if m == "\x7b" then braces n r
      else stuckAt r
    | .quoteOpen _ => strings n r p
    | _ => stuckAt r

/-- What parentheses enclose. -/
def parenthesized : Nat → Scanned → Step Unit
  | 0, r => stuckAt r
  | n + 1, r => do
    opened
    takePlain r
    let r ← peek element
    if r.isMark ")" then
      takePlain r
      closed "tuple"
    else
      collected n element
      let r ← peek Place.inside.after
      if r.isMark ")" then
        takePlain r
        closed "parenthesized_expression"
      else if r.isMark "," then
        moreCollected n ")"
        closed "tuple"
      else
        clauses n
        needMark Place.inside.after ")"
        closed "generator_expression"

/-- What square brackets enclose. -/
def brackets : Nat → Scanned → Step Unit
  | 0, r => stuckAt r
  | n + 1, r => do
    opened
    takePlain r
    let r ← peek element
    if r.isMark "]" then
      takePlain r
      closed "list"
    else
      collected n element
      let r ← peek Place.inside.after
      if r.isMark "]" || r.isMark "," then
        moreCollected n "]"
        closed "list"
      else
        clauses n
        needMark Place.inside.after "]"
        closed "list_comprehension"

/-- What braces enclose. -/
def braces : Nat → Scanned → Step Unit
  | 0, r => stuckAt r
  | n + 1, r => do
    opened
    takePlain r
    let r ← peek element
    if r.isMark "\x7d" then
      takePlain r
      closed "dictionary"
    else if r.isMark "," then
      takePlain r
      needMark element "\x7d"
      closed "dictionary"
    else if r.isMark "**" then
      entries n element
      closed "dictionary"
    else
      collected n element
      let r ← peek Place.inside.after
      if r.isMark ":" then
        grow "pair" do
          takePlain r
          expression n operand .inside
        let r ← peek Place.inside.after
        if r.isMark "\x7d" then
          takePlain r
          closed "dictionary"
        else if r.isMark "," then
          takePlain r
          entries n element
          closed "dictionary"
        else
          clauses n
          needMark Place.inside.after "\x7d"
          closed "dictionary_comprehension"
      else if r.isMark "\x7d" || r.isMark "," then
        moreCollected n "\x7d"
        closed "set"
      else
        clauses n
        needMark Place.inside.after "\x7d"
        closed "set_comprehension"

/-- The entries of a dictionary up to its end. -/
def entries : Nat → Wanted → Step Unit
  | 0, w => do stuckAt (← peek w)
  | n + 1, w => do
    let r ← peek w
    if r.isMark "\x7d" then takePlain r
    else
      if r.isMark "**" then
        wrap "dictionary_splat" do
          takePlain r
          expression n operand .inside
      else
        wrap "pair" do
          expression n w .before
          needMark {} ":"
          expression n operand .inside
      let r ← peek Place.inside.after
      if r.isMark "," then
        takePlain r
        entries n element
      else if r.isMark "\x7d" then takePlain r
      else stuckAt r

/-- One element of a collection. -/
def collected : Nat → Wanted → Step Unit
  | 0, w => do stuckAt (← peek w)
  | n + 1, w => do
    let r ← peek w
    if r.isMark "*" then
      wrap "list_splat" do
        takePlain r
        expression n operand .inside
    else if r.isWord "yield" then yield_ n r .inside
    else expression n w .inside

/-- Further elements of a collection up to its end. -/
def moreCollected : Nat → String → Step Unit
  | 0, _ => do stuckAt (← peek element)
  | n + 1, close => do
    let r ← peek Place.inside.after
    if r.isMark close then takePlain r
    else if r.isMark "," then
      takePlain r
      let r ← peek element
      if r.isMark close then takePlain r
      else
        collected n element
        moreCollected n close
    else stuckAt r

/-- The clauses of a comprehension. -/
def clauses : Nat → Step Unit
  | 0 => do stuckAt (← peek {})
  | n + 1 => do
    let r ← peek Place.inside.after
    if r.isWord "for" || r.isWord "async" then
      wrap "for_in_clause" do
        if r.isWord "async" then takePlain r
        needWord Place.inside.after "for"
        targets n
        needWord {} "in"
        sources n operand
      moreClauses n
    else stuckAt r

/-- Further clauses of a comprehension. -/
def moreClauses : Nat → Step Unit
  | 0 => do stuckAt (← peek {})
  | n + 1 => do
    let r ← peek Place.inside.after
    if r.isWord "for" || r.isWord "async" then clauses n
    else if r.isWord "if" then
      wrap "if_clause" do
        takePlain r
        expression n operand { close := true, clause := true }
      moreClauses n

/-- What a comprehension runs over. -/
def sources : Nat → Wanted → Step Unit
  | 0, w => do stuckAt (← peek w)
  | n + 1, w => do
    expression n w { close := true, clause := true }
    let r ← peek Place.inside.after
    if r.isMark "," then
      takePlain r
      let r ← peek element
      if startsExpression r.lexeme then sources n element

/-- The targets of a loop. -/
def targets : Nat → Step Unit
  | 0 => do stuckAt (← peek operand)
  | n + 1 => do
    opened
    target n operand
    let r ← peek {}
    if r.isMark "," then
      moreTargets n
      closed "pattern_list"
    else left

/-- Further targets of a loop. -/
def moreTargets : Nat → Step Unit
  | 0 => do stuckAt (← peek {})
  | n + 1 => do
    let r ← peek {}
    if r.isMark "," then
      takePlain r
      let r ← peek operand
      if startsOperand r.lexeme then
        target n operand
        moreTargets n

/-- One target. -/
def target : Nat → Wanted → Step Unit
  | 0, w => do stuckAt (← peek w)
  | n + 1, w => do
    let r ← peek w
    if r.isMark "+" || r.isMark "-" || r.isMark "~" then stuckAt r
    unary n w .before
    retop asPattern? r

/-- Expressions with commas between them; more than one make up a construct. -/
def expressions : Nat → Wanted → Place → String → Step Unit
  | 0, w, _, _ => do stuckAt (← peek w)
  | n + 1, w, p, kind => do
    opened
    expression n w p
    let r ← peek p.after
    if r.isMark "," then
      moreExpressions n p
      closed kind
    else left

/-- Further expressions, each after a comma; a comma may also stand at the end. -/
def moreExpressions : Nat → Place → Step Unit
  | 0, p => do stuckAt (← peek p.after)
  | n + 1, p => do
    let r ← peek p.after
    if r.isMark "," then
      takePlain r
      let r ← peek p.open_
      if startsExpression r.lexeme then
        expression n p.open_ p
        moreExpressions n p

/-- What a generator hands out. -/
def yield_ : Nat → Scanned → Place → Step Unit
  | 0, r, _ => stuckAt r
  | n + 1, r, p =>
    wrap "yield" do
      takePlain r
      let r ← peek p.open_
      if r.isWord "from" then
        takePlain r
        expression n operand p
      else if startsExpression r.lexeme then expressions n p.open_ p "expression_list"

/-- The arguments of a call or of a class, or a single generator. -/
def arguments : Nat → Scanned → Bool → Step Unit
  | 0, r, _ => stuckAt r
  | n + 1, r, generators => do
    opened
    takePlain r
    let r ← peek element
    if r.isMark ")" then
      takePlain r
      closed "argument_list"
    else if r.isMark "," then
      takePlain r
      needMark element ")"
      closed "argument_list"
    else
      argument n element
      let r ← peek Place.inside.after
      if generators && (r.isWord "for" || r.isWord "async") then
        let k ← topKind
        if k == "keyword_argument" || k == "dictionary_splat" then stuckAt r
        clauses n
        needMark Place.inside.after ")"
        closed "generator_expression"
      else
        moreArguments n
        closed "argument_list"

/-- Further arguments up to the end. -/
def moreArguments : Nat → Step Unit
  | 0 => do stuckAt (← peek element)
  | n + 1 => do
    let r ← peek Place.inside.after
    if r.isMark ")" then takePlain r
    else if r.isMark "," then
      takePlain r
      let r ← peek element
      if r.isMark ")" then takePlain r
      else
        argument n element
        moreArguments n
    else stuckAt r

/-- One argument. -/
def argument : Nat → Wanted → Step Unit
  | 0, w => do stuckAt (← peek w)
  | n + 1, w => do
    let r ← peek w
    match r.lexeme with
    | .mark m =>
      if m == "*" then
        wrap "list_splat" do
          takePlain r
          expression n operand .inside
      else if m == "**" then
        wrap "dictionary_splat" do
          takePlain r
          expression n operand .inside
      else expression n w .inside
    | .word t =>
      if isFree t && followedBy r Place.inside.after "=" then
        wrap "keyword_argument" do
          take r "identifier" true
          needMark Place.inside.after "="
          expression n operand .inside
      else expression n w .inside
    | _ => expression n w .inside

/-- The subscripts of an operand. -/
def subscripts : Nat → Scanned → Step Unit
  | 0, r => stuckAt r
  | n + 1, r => do
    takePlain r
    subscript n operand
    moreSubscripts n

/-- Further subscripts up to the end. -/
def moreSubscripts : Nat → Step Unit
  | 0 => do stuckAt (← peek element)
  | n + 1 => do
    let r ← peek Place.inside.after
    if r.isMark "]" then takePlain r
    else if r.isMark "," then
      takePlain r
      let r ← peek element
      if r.isMark "]" then takePlain r
      else
        subscript n element
        moreSubscripts n
    else stuckAt r

/-- One subscript: an expression, or bounds with colons between them. -/
def subscript : Nat → Wanted → Step Unit
  | 0, w => do stuckAt (← peek w)
  | n + 1, w => do
    opened
    let r ← peek w
    if !(r.isMark ":") then expression n w .inside
    let r ← peek (if r.isMark ":" then w else Place.inside.after)
    if r.isMark ":" then
      takePlain r
      let r ← peek element
      if startsExpression r.lexeme then expression n element .inside
      let r ← peek (if startsExpression r.lexeme then Place.inside.after else element)
      if r.isMark ":" then
        takePlain r
        let r ← peek element
        if startsExpression r.lexeme then expression n element .inside
      closed "slice"
    else left

/-- A lambda form. -/
def lambda : Nat → Wanted → Place → Step Unit
  | 0, w, _ => do stuckAt (← peek w)
  | n + 1, w, p =>
    wrap "lambda" do
      needWord w "lambda"
      let r ← peek {}
      if !(r.isMark ":") then wrap "lambda_parameters" (parameters n {} .before false)
      needMark {} ":"
      expression n operand p

/-- Parameters with commas between them. -/
def parameters : Nat → Wanted → Place → Bool → Step Unit
  | 0, w, _, _ => do stuckAt (← peek w)
  | n + 1, w, p, typed => do
    parameter n w p typed
    let r ← peek p.after
    if r.isMark "," then
      takePlain r
      let r ← peek p.after
      match r.lexeme with
      | .word _ => parameters n p.after p typed
      | .mark m => if ["*", "**", "/", "("].contains m then parameters n p.after p typed
      | _ => pure ()

/-- One parameter. -/
def parameter : Nat → Wanted → Place → Bool → Step Unit
  | 0, w, _, _ => do stuckAt (← peek w)
  | n + 1, w, p, typed => do
    let r ← peek w
    match r.lexeme with
    | .word t =>
      if !(isFree t) then stuckAt r
      opened
      take r "identifier" true
      let r ← peek p.after
      if typed && r.isMark ":" then
        takePlain r
        annotation_ n operand p
        let r ← peek p.after
        if r.isMark "=" then
          takePlain r
          expression n operand p
          closed "typed_default_parameter"
        else closed "typed_parameter"
      else if r.isMark "=" then
        takePlain r
        expression n operand p
        closed "default_parameter"
      else left
    | .mark m =>
      if m == "/" then wrap "positional_separator" (takePlain r)
      else if m == "*" || m == "**" then
        let next := (r.after.next p.after).lexeme
        let isName := match next with
          | .word t => isFree t
          | _ => false
        if m == "*" && !isName then wrap "keyword_separator" (takePlain r)
        else
          opened
          wrap (if m == "*" then "list_splat_pattern" else "dictionary_splat_pattern") do
            takePlain r
            identifier p.after
            accessors n p
          let r ← peek p.after
          if typed && r.isMark ":" then
            takePlain r
            annotation_ n operand p
            closed "typed_parameter"
          else left
      else if m == "(" then
        opened
        atom n w p
        retop asPattern? r
        let r ← peek p.after
        if r.isMark "=" then
          takePlain r
          expression n operand p
          closed "default_parameter"
        else left
      else stuckAt r
    | _ => stuckAt r

/-- A type annotation. -/
def annotation_ : Nat → Wanted → Place → Step Unit
  | 0, w, _ => do stuckAt (← peek w)
  | n + 1, w, p => do
    simpleType n w p
    typeTail n p

/-- A type up to a bar. -/
def simpleType : Nat → Wanted → Place → Step Unit
  | 0, w, _ => do stuckAt (← peek w)
  | n + 1, w, p =>
    wrap "type" do
      let r ← peek w
      match r.lexeme with
      | .mark m =>
        if m == "*" || m == "**" then
          wrap "splat_type" do
            takePlain r
            identifier {}
        else expression n w p
      | .word t =>
        if isFree t && followedBy r p.after "[" then
          orElse (do
            wrap "generic_type" do
              take r "identifier" true
              typeParameters n p
            let r ← peek p.after
            match r.lexeme with
            | .mark m =>
              if m == "(" || m == "[" || isComparison m ||
                  (m != "|" && (arithmeticLevel m).isSome) then stuckAt r
            | .word _ => stuckAt r
            | _ => pure ()) (expression n w p)
        else expression n w p
      | _ => expression n w p

/-- Alternatives to the type on the heap, and its members. -/
def typeTail : Nat → Place → Step Unit
  | 0, p => do stuckAt (← peek p.after)
  | n + 1, p => do
    let r ← peek p.after
    if r.isMark "|" then
      wrapTop "type" (grow "union_type" do
        takePlain r
        simpleType n operand p)
      typeTail n p
    else if r.isMark "." then
      wrapTop "type" (grow "member_type" do
        takePlain r
        identifier {})
      typeTail n p
where
  wrapTop (kind : String) (body : Step Unit) : Step Unit := do
    body
    grow kind (pure ())

/-- Types in square brackets. -/
def typeParameters : Nat → Place → Step Unit
  | 0, p => do stuckAt (← peek p.after)
  | n + 1, p =>
    wrap "type_parameter" do
      needMark p.after "["
      typesInside n operand

/-- Types up to a closing bracket. -/
def typesInside : Nat → Wanted → Step Unit
  | 0, w => do stuckAt (← peek w)
  | n + 1, w => do
    annotation_ n w .inside
    let r ← peek Place.inside.after
    if r.isMark ":" then
      grow "constrained_type" do
        takePlain r
        annotation_ n operand .inside
      grow "type" (pure ())
    let r ← peek Place.inside.after
    if r.isMark "," then
      takePlain r
      let r ← peek element
      if r.isMark "]" then takePlain r else typesInside n element
    else if r.isMark "]" then takePlain r
    else stuckAt r

/-- String literals side by side. -/
def strings : Nat → Scanned → Place → Step Unit
  | 0, r, _ => stuckAt r
  | n + 1, r, p => do
    string n r
    let r ← peek p.open_
    match r.lexeme with
    | .quoteOpen _ => grow "concatenated_string" (moreStrings n p)
    | _ => pure ()

/-- Further string literals. -/
def moreStrings : Nat → Place → Step Unit
  | 0, p => do stuckAt (← peek p.open_)
  | n + 1, p => do
    let r ← peek p.open_
    match r.lexeme with
    | .quoteOpen _ =>
      string n r
      moreStrings n p
    | _ => pure ()

/-- One string literal. -/
def string : Nat → Scanned → Step Unit
  | 0, r => stuckAt r
  | n + 1, r =>
    wrap "string" do
      take r "string_start" true
      inString n

/-- The text of a string literal up to its end. -/
def inString : Nat → Step Unit
  | 0 => do stuckAt (← peek {})
  | n + 1 => do
    let r := (← get).scanner.nextInString
    match r.lexeme with
    | .quoteClose => take r "string_end" true
    | .mark _ =>
      interpolation n r "interpolation"
      inString n
    | .stray => stuckAt r
    | _ =>
      stretch n r.span
      inString n

/-- A stretch of text in a string literal. -/
def stretch : Nat → Span → Step Unit
  | 0, _ => do stuckAt (← peek {})
  | n + 1, start => do
    opened
    pieces n
    gatheredFrom "string_content" start
    left

/-- The pieces of a stretch of text; only those that are no plain text leave a leaf. -/
def pieces : Nat → Step Unit
  | 0 => do stuckAt (← peek {})
  | n + 1 => do
    let r := (← get).scanner.nextInString
    match r.lexeme with
    | .doubledBrace =>
      take r "escape_interpolation" true
      pieces n
    | .escape =>
      take r "escape_sequence" true
      pieces n
    | .content | .loneBackslash =>
      pass r
      modify fun b => { b with last := r.span.stop, lastByte := r.span.stopByte }
      pieces n
    | _ => pure ()

/-- A replacement field. -/
def interpolation : Nat → Scanned → String → Step Unit
  | 0, r, _ => stuckAt r
  | n + 1, r, kind =>
    wrap kind do
      takePlain r
      let r ← peek operand
      if r.isWord "yield" then yield_ n r .inside
      else expressions n operand .inside "expression_list"
      let r ← peek Place.inside.after
      if r.isMark "=" then takePlain r
      let r ← peek Place.inside.after
      if r.lexeme == .conversion then take r "type_conversion" true
      let r ← peek Place.inside.after
      if r.isMark ":" || r.isMark ":=" then
        wrap "format_specifier" do
          takeColon r
          format n
      needMark Place.inside.after "\x7d"

/-- A format up to the end of its replacement field. -/
def format : Nat → Step Unit
  | 0 => do stuckAt (← peek {})
  | n + 1 => do
    let r := (← get).scanner.nextInFormat
    match r.lexeme with
    | .formatText =>
      pass r
      modify fun b => { b with last := r.span.stop, lastByte := r.span.stopByte }
      format n
    | .mark m =>
      if m == "\x7b" then
        interpolation n r "format_expression"
        format n
    | _ => stuckAt r

end

/-- More fuel than a text of some length can use up. -/
def fuelFor (size : Nat) : Nat := 64 * (size + 8)

end Enclosure.Concrete
