import CallScript.Shell.Arithmetic
import CallScript.Shell.Pattern
import CallScript.Shell.State

/-! # Expansion

What words become when a command is executed: parameters, outputs of commands and expressions are
replaced by their values, the values that are not quoted are cut into fields, and patterns become the
names of the files that they match. -/

namespace CallScript.Shell

/-- A piece of a word whose parts have been replaced. -/
inductive Mark where
  /-- A character; it may be cut at if it comes from a value that is not quoted. -/
  | char (c : Char) (isQuoted isValue : Bool)
  /-- The word is cut here. -/
  | cut
  /-- The field exists even if it has no characters. -/
  | solid
  deriving DecidableEq, Repr

namespace Mark

/-- The marks of a text. -/
def ofText (isQuoted isValue : Bool) (text : Octets) : List Mark :=
  if isQuoted && text.isEmpty then [solid] else text.map fun c => char c isQuoted isValue

/-- The text of marks that are not cut. -/
def text (marks : List Mark) : Octets :=
  marks.flatMap fun
    | char c _ _ => [c]
    | cut => [' ']
    | solid => []

/-- The characters of marks that are not cut. -/
def glyphs (marks : List Mark) : List Glyph :=
  marks.flatMap fun
    | char c isQuoted _ => [⟨c, isQuoted⟩]
    | cut => [⟨' ', true⟩]
    | solid => []

/-- White space at which values are cut. -/
def isSoft (c : Char) : Bool := c = ' ' || c = '\t' || c = '\n'

/-- The fields that marks are cut into.  `field` is the one that is being gathered, if there is one, and
`isAfterSoft` says whether white space has just ended one. -/
def fields (separators : Octets) : (field : Option (List Glyph)) → (isAfterSoft : Bool) →
    List Mark → List (List Glyph)
  | field, _, [] => field.toList.map List.reverse
  | field, _, cut :: rest => field.toList.map List.reverse ++ fields separators none false rest
  | field, _, solid :: rest => fields separators (some (field.getD [])) false rest
  | field, isAfterSoft, char c isQuoted isValue :: rest =>
    if isValue && !isQuoted && separators.contains c then
      if isSoft c then
        field.toList.map List.reverse ++ fields separators none (isAfterSoft || field.isSome) rest
      else if isAfterSoft && field.isNone then fields separators none false rest
      else (field.getD []).reverse :: fields separators none false rest
    else fields separators (some (⟨c, isQuoted⟩ :: field.getD [])) false rest

end Mark

/-- How an expansion goes on. -/
structure Expander where
  /-- Gathers the output of a command. -/
  gather : Command → State → (Octets → Next) → Program
  /-- Gives up the whole script. -/
  abort : Next

namespace Expander

variable (e : Expander)

/-- Complains and gives up. -/
def fail (sh : State) (message : String) : Program :=
  sh.complain message fun sh => e.abort { sh with status := 2 }

/-- The marks of all arguments: one field each when quoted with `@`, one text when quoted with `*`. -/
def argumentMarks (sh : State) (isStar isQuoted : Bool) : List Mark :=
  if isQuoted && isStar then
    let separator := match sh.valueOf? "IFS".toList with
      | none => [' ']
      | some [] => []
      | some (c :: _) => [c]
    Mark.ofText true true (separator.intercalate sh.arguments)
  else [Mark.cut].intercalate (sh.arguments.map (Mark.ofText isQuoted true))

/-- Without the line feeds at its end. -/
def withoutFeeds (text : Octets) : Octets := (text.reverse.dropWhile (· = '\n')).reverse

mutual

/-- Replaces a part of a word. -/
def part : (fuel : Nat) → Part → State → (List Mark → Next) → Program
  | 0, _, sh, next => next [] sh
  | _ + 1, .literal text isQuoted, sh, next => next (Mark.ofText isQuoted false text) sh
  | _ + 1, .output command isQuoted, sh, next =>
    e.gather command sh fun text sh =>
      next (Mark.ofText isQuoted true (withoutFeeds (text.filter (· ≠ '\x00')))) sh
  | fuel + 1, .arithmetic expression isQuoted, sh, next =>
    parts fuel expression [] sh fun marks sh =>
      let text := Mark.text marks
      match evaluate sh.bindings text with
      | .error flaw => e.fail sh s!"arithmetic expression: {flaw.message}: \"{text.text}\""
      | .ok (value, set) =>
        next (Mark.ofText isQuoted true (intText value))
          (set.foldl (fun sh (name, value) => sh.assign name value) sh)
  | fuel + 1, .parameter name use isQuoted, sh, next =>
    let isAll := name = ['@'] || name = ['*']
    let value? := if isAll then
        if sh.arguments.isEmpty then none else some ([' '].intercalate sh.arguments)
      else sh.parameter? name
    let marks := fun (value : Octets) =>
      if isAll then argumentMarks sh (name = ['*']) isQuoted else Mark.ofText isQuoted true value
    match use with
    | .plain =>
      match value? with
      | some value => next (marks value) sh
      | none =>
        if sh.stopsOnUnset && !isAll then e.fail sh s!"{name.text}: parameter not set"
        else next (if isQuoted && name ≠ ['@'] then [.solid] else []) sh
    | .length =>
      let n := if isAll then sh.arguments.length else (value?.getD []).length
      next (Mark.ofText isQuoted true (State.natText n)) sh
    | .trim atEnd isLongest pattern =>
      parts fuel pattern [] sh fun pattern sh =>
        let pattern := Pattern.ofWord (Mark.glyphs pattern)
        let value := value?.getD []
        next (Mark.ofText isQuoted true
          (if atEnd then pattern.trimEnd isLongest value else pattern.trimStart isLongest value)) sh
    | .fallback kind countsEmpty word =>
      let isPresent := match value? with
        | none => false
        | some value => !(countsEmpty && value.isEmpty)
      let solid := fun (marks : List Mark) =>
        if isQuoted && marks.isEmpty then [Mark.solid] else marks
      match kind, isPresent with
      | .replace, true => parts fuel word [] sh fun marks sh => next (solid marks) sh
      | .replace, false => next (solid []) sh
      | .value, true | .assign, true | .complain, true => next (marks (value?.getD [])) sh
      | .value, false => parts fuel word [] sh fun marks sh => next (solid marks) sh
      | .assign, false =>
        parts fuel word [] sh fun marks sh =>
          let value := Mark.text marks
          next (Mark.ofText isQuoted true value) (sh.assign name value)
      | .complain, false =>
        parts fuel word [] sh fun marks sh =>
          let message := Mark.text marks
          let message := if message.isEmpty then
              if countsEmpty then "parameter not set or null" else "parameter not set"
            else message.text
          e.fail sh s!"{name.text}: {message}"
termination_by structural fuel => fuel

/-- Replaces the parts of a word; `done` holds the marks of the parts before them, the last one first. -/
def parts : (fuel : Nat) → List Part → (done : List (List Mark)) → State → (List Mark → Next) → Program
  | 0, _, _, sh, next => next [] sh
  | _ + 1, [], done, sh, next => next done.reverse.flatten sh
  | fuel + 1, .literal text isQuoted :: rest, done, sh, next =>
    parts fuel rest (Mark.ofText isQuoted false text :: done) sh next
  | fuel + 1, first :: rest, done, sh, next =>
    part fuel first sh fun marks sh => parts fuel rest (marks :: done) sh next
termination_by structural fuel => fuel

end

/-- A bound on the depth and the length of words. -/
def patience : Nat := 1000000

/-- A word as one text. -/
def text (word : List Part) (sh : State) (next : Octets → Next) : Program :=
  e.parts patience word [] sh fun marks sh => next (Mark.text marks) sh

/-- A word as a pattern. -/
def pattern (word : List Part) (sh : State) (next : Pattern → Next) : Program :=
  e.parts patience word [] sh fun marks sh => next (Pattern.ofWord (Mark.glyphs marks)) sh

/-- The names in a directory, in order. -/
def namesIn (files : Files) (directory : String) : List Octets :=
  let place := Files.names directory.toList
  let start := Place.path place ++ [Path.separator]
  let names := files.entries.filterMap fun (key, _) =>
    let key := key.toList
    if start.isPrefixOf key then
      let name := key.drop start.length
      if name.isEmpty || name.contains Path.separator then none
      else some (Octets.ofText (String.ofList name))
    else none
  names.mergeSort fun a b => !(decide (b < a))

/-- The texts that a field becomes: the names of the files in the directory that it matches as a pattern,
or else itself. -/
def matching (files : Files) (directory : String) (field : List Glyph) : List Octets :=
  let plain := field.map Glyph.char
  if !Pattern.isProper field || plain.contains Path.separator then [plain]
  else
    let pattern := Pattern.ofWord field
    let names := (namesIn files directory).filter fun name =>
      (name.head? ≠ some '.' || plain.head? = some '.') && PatternItem.matchesAll pattern name
    if names.isEmpty then [plain] else names

/-- The fields that words become; `done` holds those of the words before them, the last ones first. -/
def words : List (List Part) → (done : List (List Glyph)) → State → (List Octets → Next) → Program
  | [], done, sh, next =>
    let fields := done.reverse
    if fields.any Pattern.isProper then
      .look fun files => next (fields.flatMap (matching files sh.directory)) sh
    else next (fields.map (·.map Glyph.char)) sh
  | word :: rest, done, sh, next =>
    e.parts patience word [] sh fun marks sh =>
      let separators := (sh.valueOf? "IFS".toList).getD [' ', '\t', '\n']
      words rest ((Mark.fields separators none false marks).reverse ++ done) sh next

end Expander

end CallScript.Shell
