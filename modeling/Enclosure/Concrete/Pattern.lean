import Enclosure.Concrete.Expression

/-!
# Concrete patterns

Readers for the patterns that the cases of a match statement compare a value with.

What is here:

* `casePattern`: a pattern as it may stand after `case` or inside another pattern.
* `patternList`: patterns with commas between them, up to a closing bracket.
-/

set_option autoImplicit false

namespace Enclosure.Concrete

/-- A name that a pattern may bind. -/
def boundName (w : Wanted) : Step Unit := do
  let r ← peek w
  if r.isWord "_" then takePlain r else identifier w

/-- A number with the sign and the imaginary part it may have. -/
def numberPattern (w : Wanted) (p : Place) : Step Unit := do
  opened
  let r ← peek w
  if r.isMark "-" then takePlain r
  number (if r.isMark "-" then {} else w)
  let r ← peek p.after
  if r.isMark "+" || r.isMark "-" then
    takePlain r
    number {}
    closed "complex_pattern"
  else left
where
  number (w : Wanted) : Step Unit := do
    let r ← peek w
    match r.lexeme with
    | .integer => take r "integer" true
    | .float => take r "float" true
    | _ => stuckAt r

mutual

/-- A pattern. -/
def casePattern : Nat → Wanted → Place → Step Unit
  | 0, w, _ => do stuckAt (← peek w)
  | n + 1, w, p => do
    wrap "case_pattern" do
      let r ← peek w
      match r.lexeme with
      | .word t =>
        if isFree t && followedBy r p.after "=" then
          wrap "keyword_pattern" do
            take r "identifier" true
            needMark p.after "="
            simplePattern n operand p
        else alternatives n w p
      | _ => alternatives n w p
    named n p

/-- The names given to the pattern on the heap. -/
def named : Nat → Place → Step Unit
  | 0, p => do stuckAt (← peek p.after)
  | n + 1, p => do
    let r ← peek p.after
    if r.isWord "as" then
      grow "as_pattern" do
        takePlain r
        identifier {}
      grow "case_pattern" (pure ())
      named n p

/-- Patterns with bars between them. -/
def alternatives : Nat → Wanted → Place → Step Unit
  | 0, w, _ => do stuckAt (← peek w)
  | n + 1, w, p => do
    simplePattern n w p
    let r ← peek p.after
    if r.isMark "|" then grow "union_pattern" (moreAlternatives n p)

/-- Further alternatives. -/
def moreAlternatives : Nat → Place → Step Unit
  | 0, p => do stuckAt (← peek p.after)
  | n + 1, p => do
    let r ← peek p.after
    if r.isMark "|" then
      takePlain r
      simplePattern n operand p
      moreAlternatives n p

/-- A pattern without alternatives. -/
def simplePattern : Nat → Wanted → Place → Step Unit
  | 0, w, _ => do stuckAt (← peek w)
  | n + 1, w, p => do
    let r ← peek w
    match r.lexeme with
    | .integer | .float => numberPattern w p
    | .quoteOpen _ => strings n r p
    | .word t =>
      if t == "True" then take r "true" true
      else if t == "False" then take r "false" true
      else if t == "None" then take r "none" true
      else if t == "_" && !(followedBy r p.after ".") && !(followedBy r p.after "(") then takePlain r
      else
        opened
        wrap "dotted_name" (dottedName w p.after n)
        let r ← peek p.after
        if r.isMark "(" then
          takePlain r
          patternList n ")" element
          closed "class_pattern"
        else left
    | .mark m =>
      if m == "-" then numberPattern w p
      else if m == "*" || m == "**" then
        wrap "splat_pattern" do
          takePlain r
          boundName {}
      else if m == "[" then
        wrap "list_pattern" do
          takePlain r
          patternList n "]" element
      else if m == "(" then
        wrap "tuple_pattern" do
          takePlain r
          patternList n ")" element
      else if m == "\x7b" then
        wrap "dict_pattern" do
          takePlain r
          entryPatterns n element
      else stuckAt r
    | _ => stuckAt r

/-- Patterns with commas between them up to a closing bracket. -/
def patternList : Nat → String → Wanted → Step Unit
  | 0, _, w => do stuckAt (← peek w)
  | n + 1, close, w => do
    let r ← peek w
    if r.isMark close then takePlain r
    else
      casePattern n w .inside
      let r ← peek Place.inside.after
      if r.isMark "," then
        takePlain r
        patternList n close element
      else if r.isMark close then takePlain r
      else stuckAt r

/-- The entries of a dictionary pattern. -/
def entryPatterns : Nat → Wanted → Step Unit
  | 0, w => do stuckAt (← peek w)
  | n + 1, w => do
    let r ← peek w
    if r.isMark "\x7d" then takePlain r
    else
      if r.isMark "*" || r.isMark "**" then simplePattern n w .inside
      else
        alternatives n w .before
        needMark {} ":"
        casePattern n operand .inside
      let r ← peek Place.inside.after
      if r.isMark "," then
        takePlain r
        entryPatterns n element
      else if r.isMark "\x7d" then takePlain r
      else stuckAt r

end
end Enclosure.Concrete
