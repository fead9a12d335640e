import OrderCustody.Log.Line
import OrderCustody.Decimal
import OrderCustody.Text.Alphanumeric
import OrderCustody.Text.Blank

namespace OrderCustody.Log

/-!
# Log filters

A filter is a list of directives with commas between them.  A directive names a
target, a span, fields and a level, each of which may be missing:

    target[span{field=value}]=level

A line is shown if the most specific directive that concerns it allows its
level.  A directive that asks for a span, or for the value of a field, concerns
no line outside spans.
-/

/-- The highest rank that each level lets through, by its number. -/
def rankOfNumber? (text : String) : Option Nat :=
  let digits := match text.toList with
    | '+' :: rest => String.ofList rest
    | _ => text
  (Decimal.parse? digits).bind fun rank => if rank ≤ 5 then some rank else none

/-- The highest rank that a level lets through, by its name in any case; `off`
lets nothing through, and no name at all only errors. -/
def rankOfName? (text : String) : Option Nat :=
  match String.ofList (text.toList.map Char.toLower) with
  | "off" => some 0
  | "" => some 1
  | "error" => some 1
  | "warn" => some 2
  | "info" => some 3
  | "debug" => some 4
  | "trace" => some 5
  | _ => none

/-- The highest rank that a level lets through, by its number or its name. -/
def rankOf? (text : String) : Option Nat :=
  rankOfNumber? text <|> rankOfName? text

/-- A field that a directive asks for. -/
structure FieldPattern where
  name : String
  /-- Whether the field must have a certain value. -/
  valued : Bool
  deriving DecidableEq, Repr

/-- One directive of a filter. -/
structure Directive where
  target : Option String
  span : Option String
  field : Option FieldPattern
  /-- The highest rank that is let through. -/
  rank : Nat
  deriving DecidableEq, Repr

namespace Directive

/-- The directive that lets every line through. -/
def everything : Directive where
  target := none
  span := none
  field := none
  rank := 5

/-- Whether a directive may start with a character. -/
def isStart (c : Char) : Bool :=
  c == '-' || c == ':' || c == '_' || Text.isAlphanumeric c

/-- The place of the first character of some kind, from a place on. -/
def placeOf? (isWanted : Char → Bool) (characters : List Char) (start : Nat) :
    Option (Nat × Char) :=
  match (characters.drop start).findIdx? isWanted with
  | some offset =>
      (characters[start + offset]?).map fun c => (start + offset, c)
  | none => none

/-- The pattern of a field, with what stands behind an equals sign. -/
def fieldPattern? (text : List Char) : Option FieldPattern :=
  if text.isEmpty then none
  else some {
    name := String.ofList (text.takeWhile (· != '='))
    valued := text.any (· == '=')
  }

/--
A directive from its text.

Places are counted in the text without blanks around it, while the parts are cut
from the text as it stands; so a directive with blanks in front of it is not the
one without them.
-/
def parse? (whole : String) : Option Directive :=
  let written := whole.toList
  let characters := Text.trim written
  let part (first last : Nat) : String :=
    String.ofList ((written.drop first).take (last - first))
  let rest (first : Nat) : String := String.ofList (written.drop first)
  let level (directive : Directive) (start : Nat) : Option Directive :=
    if (rest start).isEmpty then some directive
    else (rankOf? (rest start)).map fun rank => { directive with rank }
  let behindSpan (directive : Directive) (start : Nat) : Option Directive :=
    match characters[start]? with
    | none => some directive
    | some '=' => level directive (start + 1)
    | some _ => none
  let fields (directive : Directive) (start : Nat) : Option Directive := do
    let (close, _) ← placeOf? (· == '}') characters start
    let pattern ← fieldPattern? (part start close).toList
    match characters[close + 1]? with
    | some ']' => behindSpan { directive with field := some pattern } (close + 2)
    | _ => none
  let span (directive : Directive) (start : Nat) : Option Directive :=
    match placeOf? (fun c => c == ']' || c == '{') characters start with
    | some (close, ']') =>
        behindSpan { directive with span := some (part start close) } (close + 1)
    | some (close, _) =>
        let name := part start close
        fields { directive with span := if name.isEmpty then none else some name } (close + 1)
    | none => none
  match characters with
  | [] => none
  | '[' :: _ => span everything 1
  | first :: _ =>
      if isStart first then
        match placeOf? (fun c => c == '=' || c == '[') characters 0 with
        | some (close, '=') => level { everything with target := some (part 0 close) } (close + 1)
        | some (close, _) => span { everything with target := some (part 0 close) } (close + 1)
        | none =>
            match rankOf? whole with
            | some rank => some { everything with rank }
            | none => some { everything with target := some whole }
      else none

/-- Whether a directive can concern a line outside spans. -/
def isStatic (directive : Directive) : Bool :=
  directive.span.isNone && !directive.field.any (·.valued)

/-- Whether a directive concerns a line of a target. -/
def concerns (target : String) (line : Line) (directive : Directive) : Bool :=
  directive.isStatic &&
    directive.target.all (·.isPrefixOf target) &&
    directive.field.all fun pattern => line.fieldNames.contains pattern.name

/-- Whether a directive is more specific than another that concerns the same
line: by the length of its target, then by its field. -/
def isMoreSpecific (left right : Directive) : Bool :=
  let width (directive : Directive) : Nat :=
    match directive.target with
    | some target => target.utf8ByteSize + 1
    | none => 0
  let field (directive : Directive) : String :=
    (directive.field.map (·.name)).getD ""
  if width left ≠ width right then width right < width left
  else if left.field.isSome ≠ right.field.isSome then left.field.isSome
  else field right < field left

end Directive

/-- A filter is its directives. -/
abbrev Filter := List Directive

namespace Filter

/-- The parts of a filter's text, between commas. -/
def parts (text : String) : List String :=
  (text.splitOn ",").filter fun part => !part.isEmpty

/-- A filter of some directives; without any it lets errors through. -/
def ofDirectives (directives : List Directive) : Filter :=
  if directives.isEmpty then [{ Directive.everything with rank := 1 }] else directives

/-- A filter from its text, if every part of it is a directive. -/
def parse? (text : String) : Option Filter :=
  ((parts text).mapM Directive.parse?).map ofDirectives

/-- A filter from the parts of its text that are directives. -/
def parse (text : String) : Filter :=
  ofDirectives ((parts text).filterMap Directive.parse?)

/-- The directive that decides on a line: the most specific that concerns it,
and the last of several alike. -/
def deciding? (filter : Filter) (target : String) (line : Line) : Option Directive :=
  (List.filter (Directive.concerns target line) filter).foldl
    (fun best directive =>
      match best with
      | some other => if other.isMoreSpecific directive then best else some directive
      | none => some directive)
    none

/-- Whether a filter lets a line of a target through. -/
def shows (filter : Filter) (target : String) (line : Line) : Bool :=
  match filter.deciding? target line with
  | some directive => line.level.rank ≤ directive.rank
  | none => false

end Filter

end OrderCustody.Log
