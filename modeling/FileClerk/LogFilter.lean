import FileClerk.Action
import FileClerk.Number.Numeral
import FileClerk.Pattern.Judgement

/-!
# Log filters

A filter is a list of directives. A directive lets lines through up to a level, for all parts of the
program or for those whose name begins with its target; of the directives that speak of a line the
one with the longest target decides. Written, a directive is a level, a target, or both with an
equals sign between; in brackets it may speak of a span and of a field, for which it may ask for a
number or for a pattern. One that cannot be read is passed over with a complaint.

The parts of a directive are found in it without the white space around it, but cut from it with the
white space. So after white space in front of a directive a cut may go through a character, and that
crashes the program.
-/

namespace FileClerk

namespace LogFilter

structure Directive where
  target : Option Text
  /-- The greatest rank of a level that passes. -/
  rank : Nat
  /-- The span it is about, if any. -/
  span : Option Text
  /-- The fields it asks for, as they are written. -/
  fields : List Text
  deriving DecidableEq, Repr

/-- Why a directive could not be read. -/
inductive DirectiveError where
  | malformed
  | unknownLevel
  /-- What a field is asked for is no pattern that can be used. -/
  | field (why : Pattern.Error)
  deriving DecidableEq, Repr

def DirectiveError.message : DirectiveError → Text
  | malformed => "invalid filter directive".toList
  | unknownLevel =>
    "error parsing level filter: expected one of \"off\", \"error\", \"warn\", \"info\", ".toList ++
      "\"debug\", \"trace\", or a number 0-5".toList
  | field why => "invalid field filter: ".toList ++ why.message

def highestRank : Nat := LogLevel.trace.rank

/-- The rank that a name or a number stands for; no name at all stands for errors. -/
def rankOf? (s : Text) : Option Nat :=
  match Numeral.unsigned64? s with
  | some n => if n ≤ highestRank then some n else none
  | none =>
    let name := s.map Char.toLower
    if name = "off".toList then some 0
    else if name = [] ∨ name = "error".toList then some LogLevel.error.rank
    else if name = "warn".toList then some LogLevel.warn.rank
    else if name = "info".toList then some LogLevel.info.rank
    else if name = "debug".toList then some LogLevel.debug.rank
    else if name = "trace".toList then some LogLevel.trace.rank
    else none

/-- Where the reader of a directive is, and after how many octets the part it reads began. -/
inductive Stage where
  | start
  | word (first : Nat)
  | span (first : Nat)
  | field (first : Nat)
  | fieldsDone
  | spanDone
  | level (first : Nat)
  deriving DecidableEq, Repr

/-- Reading a directive gives an error or, unless the program crashes, a result. -/
abbrev DirectiveReader := ExceptT DirectiveError (Except Crash)

/-- What stands in a text between two places, counted in octets. -/
def slice (whole : Text) (first last : Nat) : Except Crash Text :=
  match (whole.splitAtOctet? first).bind fun cut => cut.2.splitAtOctet? (last - first) with
  | some (part, _) => .ok part
  | none => .error .cutCharacter

/-- The characters a directive may begin with. -/
def mayBegin (c : Char) : Bool :=
  c == '-' || c == ':' || c == '_' || isAlphanumeric c

/-- Why a field cannot be asked for. Its value, after an equals sign, is a number or a pattern. -/
def fieldError? (field : Text) : Option DirectiveError :=
  match (Text.pieces '=' field)[1]? with
  | none => none
  | some value =>
    if (Numeral.binary64? value).isSome then none else (Pattern.error? value).map .field

/-- Reads the character at a place of a directive. Parts are cut from `whole`, the directive before
white space was taken off its ends. -/
def readChar (whole : Text) (place : Nat) (c : Char) :
    Stage × Directive → DirectiveReader (Stage × Directive)
  | (.start, d) =>
    if c = '[' then return (.span (place + 1), d)
    else if mayBegin c then return (.word place, d)
    else throw .malformed
  | (.word first, d) => do
    if c = '=' then
      let target ← slice whole first place
      return (.level (place + 1), { d with target := some target })
    else if c = '[' then
      let target ← slice whole first place
      return (.span (place + 1), { d with target := some target })
    else return (.word first, d)
  | (.span first, d) => do
    if c = ']' then
      let span ← slice whole first place
      return (.spanDone, { d with span := some span })
    else if c = '\x7b' then
      let span ← slice whole first place
      return (.field (place + 1), { d with span := if span = [] then none else some span })
    else return (.span first, d)
  | (.field first, d) => do
    if c = '\x7d' then
      let field ← slice whole first place
      if field = [] then throw .malformed
      else
        match fieldError? field with
        | some error => throw error
        | none => return (.fieldsDone, { d with fields := d.fields ++ [field] })
    else return (.field first, d)
  | (.fieldsDone, d) => if c = ']' then return (.spanDone, d) else throw .malformed
  | (.spanDone, d) => if c = '=' then return (.level (place + 1), d) else throw .malformed
  | (.level first, d) => return (.level first, d)

/-- What a directive says once it has been read through. -/
def conclude (whole : Text) : Stage × Directive → DirectiveReader Directive
  | (.word first, d) => do
    let word ← slice whole first whole.octets
    match rankOf? word with
    | some rank => return { d with rank := rank, target := none }
    | none => return { d with target := some word }
  | (.level first, d) => do
    let word ← slice whole first whole.octets
    if word = [] then return d
    else
      match rankOf? word with
      | some rank => return { d with rank := rank }
      | none => throw .unknownLevel
  | (.spanDone, d) => return d
  | _ => throw .malformed

/-- Reads a directive from its written form. -/
def Directive.ofText (whole : Text) : Except Crash (Except DirectiveError Directive) :=
  let read : DirectiveReader Directive := do
    let start : Nat × Stage × Directive := (0, .start, ⟨none, highestRank, none, []⟩)
    let (_, last) ← whole.trim.foldlM (fun (place, state) c => do
      return (place + c.utf8Size, ← readChar whole place c state)) start
    conclude whole last
  read.run

namespace Directive

/-- A directive that no span has to be entered for. -/
def isStatic (d : Directive) : Bool :=
  d.span.isNone && d.fields.all fun field => !field.contains '='

/-- Whether a directive speaks of a part of the program. -/
def concerns (d : Directive) (area : LogArea) : Bool :=
  d.isStatic && d.fields.all area.fields.contains &&
    match d.target with
    | none => true
    | some target => target.isPrefixOf area.name

/-- How narrowly a directive is meant. -/
def weight (d : Directive) : Nat :=
  2 * (d.target.map (·.length + 1)).getD 0 + d.fields.length

/-- Whether a directive counts more than an earlier one. Of two that are meant equally narrowly the
one with the later name of a field does, and of two alike the later one. -/
def outweighs (d earlier : Directive) : Bool :=
  earlier.weight < d.weight || (earlier.weight == d.weight && !decide (d.fields < earlier.fields))

end Directive

end LogFilter

structure LogFilter where
  directives : List LogFilter.Directive
  deriving DecidableEq, Repr

namespace LogFilter

/-- A filter from its written form, and the complaints about what could not be read. Without any
directive only errors pass. -/
def ofText (s : Text) : Except Crash (LogFilter × Text) := do
  let pieces := (Text.pieces ',' s).filter (· ≠ [])
  let read ← pieces.mapM fun piece => do return (piece, ← Directive.ofText piece)
  let directives := read.filterMap fun r => r.2.toOption
  let complaints := read.flatMap fun r =>
    match r.2 with
    | .ok _ => []
    | .error e => "ignoring \x60".toList ++ r.1 ++ "\x60: ".toList ++ e.message ++ ['\n']
  return (⟨if directives = [] then [⟨none, LogLevel.error.rank, none, []⟩] else directives⟩,
    complaints)

/-- The directive that decides about a part of the program. -/
def decisive? (filter : LogFilter) (area : LogArea) : Option Directive :=
  (filter.directives.filter (·.concerns area)).foldl (fun best d =>
    match best with
    | some b => if d.outweighs b then some d else some b
    | none => some d) none

def allows (filter : LogFilter) (line : LogLine) : Bool :=
  match filter.decisive? line.area with
  | some d => line.level.rank ≤ d.rank
  | none => false

end LogFilter

end FileClerk
