import CallScript.Shell.Command

/-! # Patterns

The patterns by which the shell compares texts: a star stands for any text, a question mark for any
character, and brackets for one of some characters.  A quoted character stands for itself. -/

namespace CallScript.Shell

/-- A character of a word, and whether it is quoted. -/
structure Glyph where
  char : Char
  isQuoted : Bool
  deriving DecidableEq, Repr

/-- One piece of a pattern. -/
inductive PatternItem where
  | char (c : Char)
  | any
  | star
  /-- A character in one of some ranges, or in none of them. -/
  | oneOf (isNegated : Bool) (ranges : List (Char × Char))
  deriving Repr

namespace PatternItem

/-- Whether a piece matches a character. -/
def accepts : PatternItem → Char → Bool
  | char c, d => c = d
  | any, _ => true
  | star, _ => true
  | oneOf isNegated ranges, c => (ranges.any fun (first, last) => first ≤ c && c ≤ last) != isNegated

/-- The named classes of characters. -/
def classes : List (String × List (Char × Char)) := [
  ("digit", [('0', '9')]), ("alpha", [('a', 'z'), ('A', 'Z')]), ("upper", [('A', 'Z')]),
  ("lower", [('a', 'z')]), ("alnum", [('0', '9'), ('a', 'z'), ('A', 'Z')]),
  ("space", [(' ', ' '), ('\t', '\r')]), ("blank", [(' ', ' '), ('\t', '\t')]),
  ("punct", [('!', '/'), (':', '@'), ('[', '\x60'), ('\x7b', '~')]),
  ("xdigit", [('0', '9'), ('a', 'f'), ('A', 'F')])]

/-- The ranges of a bracket up to its end, and the rest. -/
def readRanges : (fuel : Nat) → (isFirst : Bool) → List Glyph →
    Option (List (Char × Char) × List Glyph)
  | 0, _, _ => none
  | _ + 1, _, [] => none
  | fuel + 1, isFirst, g :: rest =>
    if g = ⟨']', false⟩ && !isFirst then some ([], rest)
    else
      let next := fun (found : List (Char × Char)) (rest : List Glyph) =>
        (readRanges fuel false rest).map fun (more, rest) => (found ++ more, rest)
      match g, rest with
      | ⟨'[', false⟩, ⟨':', _⟩ :: inner =>
        let name := (inner.map Glyph.char).takeWhile (· ≠ ':')
        let after := inner.drop (name.length + 2)
        match classes.find? fun entry => entry.1.toList = name with
        | some entry => next entry.2 after
        | none => next [('[', '[')] rest
      | _, ⟨'-', false⟩ :: last :: after =>
        if last = ⟨']', false⟩ then next [(g.char, g.char)] rest else next [(g.char, last.char)] after
      | _, _ => next [(g.char, g.char)] rest

/-- The pieces of a pattern. -/
def ofGlyphs : (fuel : Nat) → List Glyph → List PatternItem
  | 0, _ => []
  | _ + 1, [] => []
  | fuel + 1, g :: rest =>
    if g.isQuoted then char g.char :: ofGlyphs fuel rest
    else match g.char with
      | '*' => star :: ofGlyphs fuel rest
      | '?' => any :: ofGlyphs fuel rest
      | '[' =>
        let (isNegated, inner) := match rest with
          | ⟨'!', false⟩ :: inner | ⟨'^', false⟩ :: inner => (true, inner)
          | inner => (false, inner)
        match readRanges (inner.length + 1) true inner with
        | some (ranges, after) => oneOf isNegated ranges :: ofGlyphs fuel after
        | none => char '[' :: ofGlyphs fuel rest
      | c => char c :: ofGlyphs fuel rest

/-- Whether a pattern matches a whole text. -/
def matchesAll : List PatternItem → Octets → Bool
  | [], s => s.isEmpty
  | star :: items, [] => matchesAll items []
  | star :: items, c :: s => matchesAll items (c :: s) || matchesAll (star :: items) s
  | _ :: _, [] => false
  | item :: items, c :: s => item.accepts c && matchesAll items s
termination_by items s => items.length + s.length

end PatternItem

/-- A pattern. -/
abbrev Pattern := List PatternItem

namespace Pattern

/-- The pattern that a word is. -/
def ofWord (word : List Glyph) : Pattern := PatternItem.ofGlyphs (word.length + 1) word

/-- Whether a word has characters that make it more than a text. -/
def isProper (word : List Glyph) : Bool :=
  word.any fun g => !g.isQuoted && (g.char = '*' || g.char = '?' || g.char = '[')

/-- A text without the piece at its start that a pattern matches. -/
def trimStart (p : Pattern) (isLongest : Bool) (s : Octets) : Octets :=
  let cuts := List.range (s.length + 1)
  let cuts := if isLongest then cuts.reverse else cuts
  match cuts.find? fun n => PatternItem.matchesAll p (s.take n) with
  | some n => s.drop n
  | none => s

/-- A text without the piece at its end that a pattern matches. -/
def trimEnd (p : Pattern) (isLongest : Bool) (s : Octets) : Octets :=
  let cuts := List.range (s.length + 1)
  let cuts := if isLongest then cuts else cuts.reverse
  match cuts.find? fun n => PatternItem.matchesAll p (s.drop n) with
  | some n => s.take n
  | none => s

end Pattern

end CallScript.Shell
