import CallScript.Shell.Command
import CallScript.Text.Word

/-! # Reading shell scripts

`readLine` reads the commands of one line of a script, together with the lines that belong to it, and
gives the rest of the text.  Reserved words are such only where a command may begin. -/

namespace CallScript.Shell

/-- Why a text is no script. -/
inductive ReadFlaw where
  /-- A token that does not fit; an empty one is the end of the text. -/
  | unexpected (token : Octets) (expected : Option String)
  | unterminatedQuote
  | unterminatedBackquote
  | missingBrace
  | missingParentheses
  | badSubstitution
  | badName
  deriving DecidableEq, Repr

/-- The text of a token in a message. -/
def tokenName (token : Octets) (isOperator : Bool) : String :=
  if token.isEmpty then "end of file"
  else if token = ['\n'] then "newline"
  else if isOperator then "\"" ++ token.text ++ "\""
  else "word"

/-- The words that have a meaning of their own where a command may begin. -/
def reservedWords : List String :=
  ["if", "then", "elif", "else", "fi", "while", "until", "for", "do", "done", "case", "esac", "in", "!",
   "\x7b", "\x7d"]

/-- The reserved words that end a list of commands. -/
def closingWords : List String := ["then", "elif", "else", "fi", "do", "done", "esac", "\x7d"]

/-- A blank between words. -/
def isBlankOctet (c : Char) : Bool := c = ' ' || c = '\t'

/-- A character that ends a word. -/
def isMeta (c : Char) : Bool := isBlankOctet c || c = '\n' || ";&|()<>".toList.contains c

/-- A character of a name. -/
def isNameChar (c : Char) : Bool := c.isAlphanum || c = '_'

/-- A character that a name may begin with. -/
def isNameStart (c : Char) : Bool := c.isAlpha || c = '_'

/-- Whether a text is a name. -/
def isName : Octets → Bool
  | [] => false
  | c :: rest => isNameStart c && rest.all isNameChar

/-- The wording of a flaw. -/
def ReadFlaw.message : ReadFlaw → String
  | .unexpected token expected =>
    let isOperator := token.all isMeta || reservedWords.contains token.text
    let first := tokenName token isOperator ++ " unexpected"
    match expected with
    | some "word" => s!"Syntax error: {first} (expecting word)"
    | some word => s!"Syntax error: {first} (expecting \"{word}\")"
    | none => "Syntax error: " ++ first
  | .unterminatedQuote => "Syntax error: Unterminated quoted string"
  | .unterminatedBackquote => "Syntax error: EOF in backquote substitution"
  | .missingBrace => "Syntax error: Missing '\x7d'"
  | .missingParentheses => "Syntax error: Missing '))'"
  | .badSubstitution => "Bad substitution"
  | .badName => "Syntax error: Bad for loop variable"

/-- A text without the blanks, joined lines and comment at its start. -/
def skipBlanks : Octets → Octets
  | '\\' :: '\n' :: rest => skipBlanks rest
  | '#' :: rest => rest.dropWhile (· ≠ '\n')
  | c :: rest => if isBlankOctet c then skipBlanks rest else c :: rest
  | [] => []

/-- A text without the blanks, comments and line feeds at its start. -/
def skipLines : (fuel : Nat) → Octets → Octets
  | 0, s => s
  | fuel + 1, s =>
    match skipBlanks s with
    | '\n' :: rest => skipLines fuel rest
    | rest => rest

/-- The plain word that a text begins with; empty if it begins with anything else. -/
def plainWord (s : Octets) : Octets :=
  let isSpecial : Char → Bool := fun c => "'\"$\\\x60".toList.contains c
  let word := s.takeWhile fun c => !isMeta c && !isSpecial c
  match s.drop word.length with
  | c :: _ => if isMeta c then word else []
  | [] => word

/-- Whether a text begins with a reserved word. -/
def startsWith (word : String) (s : Octets) : Bool := plainWord s = word.toList

/-- Whether a command can follow in a list. -/
def startsCommand (s : Octets) : Bool :=
  match s with
  | [] | ')' :: _ | ';' :: _ => false
  | _ => !closingWords.contains (String.ofList (plainWord s))

/-- The token that a text begins with, for messages. -/
def tokenOf (s : Octets) : Octets :=
  match s with
  | [] => []
  | c :: _ =>
    if isMeta c then
      match s with
      | ';' :: ';' :: _ | '&' :: '&' :: _ | '|' :: '|' :: _ => s.take 2
      | _ => [c]
    else
      let word := plainWord s
      if word.isEmpty then ['w'] else word

/-- The flaw that a text does not go on as it should. -/
def unexpected {α : Type} (s : Octets) (expected : Option String) : Except ReadFlaw α :=
  .error (.unexpected (tokenOf s) expected)

/-- Where the parts of a word stand. -/
inductive Context where
  /-- In a command. -/
  | bare
  /-- Between double quotes. -/
  | quotes
  /-- In the braces of a parameter. -/
  | braces (isQuoted : Bool)
  /-- In a text of its own. -/
  | document
  deriving DecidableEq, Repr

/-- Whether characters stand for themselves there. -/
def Context.isQuoted : Context → Bool
  | .bare => false
  | .quotes | .document => true
  | .braces isQuoted => isQuoted

/-- Whether a character ends the word. -/
def Context.ends : Context → Char → Bool
  | .bare, c => isMeta c
  | .quotes, c => c = '"'
  | .braces _, c => c = '\x7d'
  | .document, _ => false

/-- The characters that a backslash takes the meaning of between double quotes. -/
def isEscapable (context : Context) (c : Char) : Bool :=
  c = '$' || c = '\x60' || c = '\\' || (c = '"' && context ≠ .document) ||
    (c = '\x7d' && context = .braces true)

/-- The text up to the parentheses that end an expression, and the text after them. -/
def cutExpression : (depth : Nat) → Octets → Option (Octets × Octets)
  | _, [] => none
  | 0, ')' :: ')' :: rest => some ([], rest)
  | depth, c :: rest =>
    let depth := if c = '(' then depth + 1 else if c = ')' then depth - 1 else depth
    (cutExpression depth rest).map fun (text, rest) => (c :: text, rest)

/-- The text up to the next backquote, in which a backslash takes the meaning of some characters. -/
def cutBackquote : Octets → Option (Octets × Octets)
  | [] => none
  | '\x60' :: rest => some ([], rest)
  | '\\' :: c :: rest =>
    (cutBackquote rest).map fun (text, rest) =>
      (if c = '\x60' || c = '\\' || c = '$' then (c :: text, rest) else ('\\' :: c :: text, rest))
  | c :: rest => (cutBackquote rest).map fun (text, rest) => (c :: text, rest)

/-- A document up to the line that ends it, and the text after that line. -/
def cutDocument (isIndented : Bool) (last : Octets) : (fuel : Nat) → Octets → Octets × Octets
  | 0, s => ([], s)
  | fuel + 1, s =>
    if s.isEmpty then ([], [])
    else
      let line := s.takeWhile (· ≠ '\n')
      let rest := (s.drop line.length).drop 1
      let line := if isIndented then line.dropWhile (· = '\t') else line
      if line = last then ([], rest)
      else
        let (text, rest) := cutDocument isIndented last fuel rest
        (line ++ '\n' :: text, rest)

/-- The document that follows the line that a text begins with, and the text without it. -/
def takeDocument (isIndented : Bool) (last s : Octets) : Octets × Octets :=
  let line := s.takeWhile (· ≠ '\n')
  match s.drop line.length with
  | [] => ([], s)
  | _ :: below =>
    let (text, rest) := cutDocument isIndented last below.length below
    (text, line ++ '\n' :: rest)

/-- The text of parts without their quotes. -/
def plainText (parts : List Part) : Octets :=
  parts.flatMap fun
    | .literal text _ => text
    | _ => []

/-- Whether a word has a quoted part. -/
def hasQuotes (parts : List Part) : Bool :=
  parts.any fun
    | .literal _ isQuoted => isQuoted
    | _ => false

/-- The characters that are names of parameters by themselves. -/
def isSpecialName (c : Char) : Bool := "@*#?$!-".toList.contains c

/-- The number of line feeds in a text. -/
def countLines (s : Octets) : Nat := s.countP (· = '\n')

/-- The rest after a reserved word that has to come next. -/
def expectWord (word : String) (s : Octets) : Except ReadFlaw Octets :=
  let s := skipLines s.length s
  if startsWith word s then .ok (s.drop word.length) else unexpected s (some word)

mutual

/-- The parts of a word, up to what ends it. -/
def readParts (total : Nat) : (fuel : Nat) → Context → (acc : List Part) → Octets →
    Except ReadFlaw (List Part × Octets)
  | 0, _, acc, s => .ok (acc.reverse, s)
  | _ + 1, context, acc, [] =>
    match context with
    | .quotes => .error .unterminatedQuote
    | .braces _ => .error .missingBrace
    | _ => .ok (acc.reverse, [])
  | fuel + 1, context, acc, c :: rest => do
    if context.ends c then return (acc.reverse, c :: rest)
    if c = '\\' then
      match rest with
      | [] => return ((.literal ['\\'] true :: acc).reverse, [])
      | '\n' :: rest => readParts total fuel context acc rest
      | d :: rest =>
        let text := if context.isQuoted && !isEscapable context d then ['\\', d] else [d]
        readParts total fuel context (.literal text true :: acc) rest
    else if c = '\'' && !context.isQuoted then
      let text := rest.takeWhile (· ≠ '\'')
      match rest.drop text.length with
      | [] => .error .unterminatedQuote
      | _ :: rest => readParts total fuel context (.literal text true :: acc) rest
    else if c = '"' && context ≠ .document then
      let (inner, rest) ← readParts total fuel .quotes [] rest
      let inner := if inner.isEmpty then [.literal [] true] else inner
      readParts total fuel context (inner.reverse ++ acc) (rest.drop 1)
    else if c = '\x60' then
      match cutBackquote rest with
      | none => .error .unterminatedBackquote
      | some (text, rest) =>
        let (command, _) ← readList (countLines text) fuel false text
        readParts total fuel context (.output command context.isQuoted :: acc) rest
    else if c = '$' then
      let (part, rest) ← readDollar total fuel context.isQuoted rest
      readParts total fuel context (part :: acc) rest
    else readParts total fuel context (.literal [c] context.isQuoted :: acc) rest
termination_by structural fuel => fuel

/-- What a dollar sign stands for. -/
def readDollar (total : Nat) : (fuel : Nat) → (isQuoted : Bool) → Octets →
    Except ReadFlaw (Part × Octets)
  | 0, isQuoted, s => .ok (.literal ['$'] isQuoted, s)
  | fuel + 1, isQuoted, s => do
    match s with
    | '(' :: '(' :: rest =>
      match cutExpression 0 rest with
      | none => .error .missingParentheses
      | some (text, rest) =>
        let (parts, _) ← readParts total fuel .document [] text
        return (.arithmetic parts isQuoted, rest)
    | '(' :: rest =>
      let (command, rest) ← readList total fuel false rest
      match skipLines rest.length rest with
      | ')' :: rest => return (.output command isQuoted, rest)
      | rest => unexpected rest (some ")")
    | '\x7b' :: rest => readBraces total fuel isQuoted rest
    | c :: rest =>
      if isNameStart c then
        let name := s.takeWhile isNameChar
        return (.parameter name .plain isQuoted, s.drop name.length)
      else if Text.isDigit c || isSpecialName c then return (.parameter [c] .plain isQuoted, rest)
      else return (.literal ['$'] isQuoted, s)
    | [] => return (.literal ['$'] isQuoted, [])
termination_by structural fuel => fuel

/-- A parameter in braces. -/
def readBraces (total : Nat) : (fuel : Nat) → (isQuoted : Bool) → Octets →
    Except ReadFlaw (Part × Octets)
  | 0, _, _ => .error .badSubstitution
  | fuel + 1, isQuoted, s => do
    let name? : Octets → Octets := fun s =>
      match s with
      | c :: _ =>
        if isNameStart c then s.takeWhile isNameChar
        else if Text.isDigit c then s.takeWhile Text.isDigit
        else if isSpecialName c then [c] else []
      | [] => []
    let close : Use → Octets → Octets → Except ReadFlaw (Part × Octets) := fun use name rest =>
      match rest with
      | '\x7d' :: rest => .ok (.parameter name use isQuoted, rest)
      | [] => .error .missingBrace
      | _ => .error .badSubstitution
    let name := name? s
    let rest := s.drop name.length
    let length? := match name, rest with
      | ['#'], c :: _ => if c = '\x7d' then none else some (name? rest)
      | _, _ => none
    match length? with
    | some measured =>
      if measured.isEmpty then .error .badSubstitution
      else close .length measured (rest.drop measured.length)
    | none =>
      if name.isEmpty then .error (if s.isEmpty then .missingBrace else .badSubstitution)
      else
        let (countsEmpty, operator) := match rest with
          | ':' :: rest => (true, rest)
          | rest => (false, rest)
        let fallback : Fallback → Octets → Except ReadFlaw (Part × Octets) := fun kind rest => do
          let (word, rest) ← readParts total fuel (.braces isQuoted) [] rest
          close (.fallback kind countsEmpty word) name rest
        let trim : Bool → Bool → Octets → Except ReadFlaw (Part × Octets) :=
          fun atEnd isLongest rest => do
            let (pattern, rest) ← readParts total fuel (.braces false) [] rest
            close (.trim atEnd isLongest pattern) name rest
        match operator with
        | '-' :: rest => fallback .value rest
        | '=' :: rest => fallback .assign rest
        | '?' :: rest => fallback .complain rest
        | '+' :: rest => fallback .replace rest
        | '%' :: '%' :: rest => trim true true rest
        | '%' :: rest => trim true false rest
        | '#' :: '#' :: rest => trim false true rest
        | '#' :: rest => trim false false rest
        | rest => close .plain name rest
termination_by structural fuel => fuel

/-- A redirection, if the text begins with one. -/
def readRedirection? (total : Nat) : (fuel : Nat) → Octets →
    Except ReadFlaw (Option (Redirection × Octets))
  | 0, _ => .ok none
  | fuel + 1, s => do
    let digits := s.takeWhile Text.isDigit
    let descriptor : Nat → Nat := fun usual =>
      if digits.isEmpty then usual else Text.digitsToNat digits
    let word : Octets → Except ReadFlaw (List Part × Octets) := fun rest => do
      let (word, after) ← readParts total fuel .bare [] (skipBlanks rest)
      if word.isEmpty then unexpected after none else return (word, after)
    let plain : Nat → RedirectionKind → Octets → Except ReadFlaw (Option (Redirection × Octets)) :=
      fun usual kind rest => do
        let (word, rest) ← word rest
        return some (.mk (descriptor usual) kind word, rest)
    let document : Bool → Octets → Except ReadFlaw (Option (Redirection × Octets)) :=
      fun isIndented rest => do
        let (last, rest) ← word rest
        let (text, rest) := takeDocument isIndented (plainText last) rest
        if hasQuotes last then return some (.mk (descriptor 0) .document [.literal text true], rest)
        else
          let (parts, _) ← readParts total fuel .document [] text
          return some (.mk (descriptor 0) .document parts, rest)
    match s.drop digits.length with
    | '>' :: '>' :: rest => plain 1 .append rest
    | '>' :: '&' :: rest => plain 1 .copy rest
    | '>' :: '|' :: rest => plain 1 .target rest
    | '>' :: rest => plain 1 .target rest
    | '<' :: '<' :: '-' :: rest => document true rest
    | '<' :: '<' :: rest => document false rest
    | '<' :: '&' :: rest => plain 0 .copy rest
    | '<' :: '>' :: rest => plain 0 .source rest
    | '<' :: rest => plain 0 .source rest
    | _ => return none
termination_by structural fuel => fuel

/-- The redirections after a command. -/
def readRedirections (total : Nat) : (fuel : Nat) → Octets →
    Except ReadFlaw (List Redirection × Octets)
  | 0, s => .ok ([], s)
  | fuel + 1, s => do
    match ← readRedirection? total fuel (skipBlanks s) with
    | none => return ([], s)
    | some (redirection, rest) =>
      let (more, rest) ← readRedirections total fuel rest
      return (redirection :: more, rest)
termination_by structural fuel => fuel

/-- The words, assignments and redirections of a simple command. -/
def readSimple (total line : Nat) : (fuel : Nat) → List (Octets × List Part) → List (List Part) →
    List Redirection → Octets → Except ReadFlaw (Command × Octets)
  | 0, assignments, words, redirections, s =>
    .ok (.simple line assignments.reverse words.reverse redirections.reverse, s)
  | fuel + 1, assignments, words, redirections, s => do
    let s := skipBlanks s
    match ← readRedirection? total fuel s with
    | some (redirection, rest) =>
      readSimple total line fuel assignments words (redirection :: redirections) rest
    | none =>
      let name := s.takeWhile isNameChar
      match words.isEmpty && isName name, s.drop name.length with
      | true, '=' :: value =>
        let (value, rest) ← readParts total fuel .bare [] value
        readSimple total line fuel ((name, value) :: assignments) words redirections rest
      | _, _ =>
        let (word, rest) ← readParts total fuel .bare [] s
        if word.isEmpty then
          if assignments.isEmpty && words.isEmpty && redirections.isEmpty then unexpected s none
          else return (.simple line assignments.reverse words.reverse redirections.reverse, s)
        else readSimple total line fuel assignments (word :: words) redirections rest
termination_by structural fuel => fuel

/-- The alternatives of a conditional after its first condition and branch. -/
def readElse (total : Nat) : (fuel : Nat) → Octets → Except ReadFlaw (Command × Octets)
  | 0, s => .ok (.nothing, s)
  | fuel + 1, s => do
    let s := skipLines s.length s
    if startsWith "elif" s then
      let (condition, s) ← readList total fuel false (s.drop 4)
      let s ← expectWord "then" s
      let (yes, s) ← readList total fuel false s
      let (no, s) ← readElse total fuel s
      return (.conditional condition yes no, s)
    else if startsWith "else" s then
      let (no, s) ← readList total fuel false (s.drop 4)
      let s ← expectWord "fi" s
      return (no, s)
    else
      let s ← expectWord "fi" s
      return (.nothing, s)
termination_by structural fuel => fuel

/-- The patterns before the commands of a case. -/
def readPatterns (total : Nat) : (fuel : Nat) → Octets → Except ReadFlaw (List (List Part) × Octets)
  | 0, s => .ok ([], s)
  | fuel + 1, s => do
    let (pattern, rest) ← readParts total fuel .bare [] (skipBlanks s)
    if pattern.isEmpty then unexpected rest none
    else match skipBlanks rest with
      | '|' :: rest =>
        let (more, rest) ← readPatterns total fuel rest
        return (pattern :: more, rest)
      | ')' :: rest => return ([pattern], rest)
      | rest => unexpected rest (some ")")
termination_by structural fuel => fuel

/-- The cases of a selection. -/
def readCases (total : Nat) : (fuel : Nat) → Octets →
    Except ReadFlaw (List (List (List Part) × Command) × Octets)
  | 0, s => .ok ([], s)
  | fuel + 1, s => do
    let s := skipLines s.length s
    if startsWith "esac" s then return ([], s.drop 4)
    let (patterns, s) ← readPatterns total fuel (match s with
      | '(' :: rest => rest
      | s => s)
    let (body, s) ← readList total fuel false s
    match skipLines s.length s with
    | ';' :: ';' :: rest =>
      let (more, rest) ← readCases total fuel rest
      return ((patterns, body) :: more, rest)
    | s =>
      let s ← expectWord "esac" s
      return ([(patterns, body)], s)
termination_by structural fuel => fuel

/-- The words that a loop runs over, if they are given. -/
def readWords (total : Nat) : (fuel : Nat) → Octets → Except ReadFlaw (List (List Part) × Octets)
  | 0, s => .ok ([], s)
  | fuel + 1, s => do
    let (word, rest) ← readParts total fuel .bare [] (skipBlanks s)
    if word.isEmpty then return ([], rest)
    let (more, rest) ← readWords total fuel rest
    return (word :: more, rest)
termination_by structural fuel => fuel

/-- A command that is not simple, if the text begins with one. -/
def readCompound? (total : Nat) : (fuel : Nat) → Octets → Except ReadFlaw (Option (Command × Octets))
  | 0, _ => .ok none
  | fuel + 1, s => do
    let body : Octets → Except ReadFlaw (Command × Octets) := fun s => do
      let s ← expectWord "do" s
      let (body, s) ← readList total fuel false s
      let s ← expectWord "done" s
      return (body, s)
    match s with
    | '(' :: rest =>
      let (command, rest) ← readList total fuel false rest
      match skipLines rest.length rest with
      | ')' :: rest => return some (.subshell command, rest)
      | rest => unexpected rest (some ")")
    | _ =>
      if startsWith "\x7b" s then
        let (command, s) ← readList total fuel false (s.drop 1)
        let s ← expectWord "\x7d" s
        return some (command, s)
      else if startsWith "if" s then
        let (condition, s) ← readList total fuel false (s.drop 2)
        let s ← expectWord "then" s
        let (yes, s) ← readList total fuel false s
        let (no, s) ← readElse total fuel s
        return some (.conditional condition yes no, s)
      else if startsWith "while" s || startsWith "until" s then
        let (condition, rest) ← readList total fuel false (s.drop 5)
        let (body, rest) ← body rest
        return some (.loop (startsWith "until" s) condition body, rest)
      else if startsWith "for" s then
        let s := skipBlanks (s.drop 3)
        let name := plainWord s
        if !isName name then .error .badName
        else
          let rest := skipLines s.length (s.drop name.length)
          if startsWith "in" rest then
            let (words, rest) ← readWords total fuel (rest.drop 2)
            let rest := match rest with
              | ';' :: rest => rest
              | rest => rest
            let (body, rest) ← body rest
            return some (.each name (some words) body, rest)
          else
            let rest := match rest with
              | ';' :: rest => rest
              | rest => rest
            let (body, rest) ← body rest
            return some (.each name none body, rest)
      else if startsWith "case" s then
        let (word, rest) ← readParts total fuel .bare [] (skipBlanks (s.drop 4))
        if word.isEmpty then unexpected rest (some "word")
        let rest ← expectWord "in" rest
        let (cases, rest) ← readCases total fuel rest
        return some (.select word cases, rest)
      else return none
termination_by structural fuel => fuel

/-- A command with its redirections. -/
def readCommand (total : Nat) : (fuel : Nat) → Octets → Except ReadFlaw (Command × Octets)
  | 0, s => .ok (.nothing, s)
  | fuel + 1, s => do
    let s := skipBlanks s
    let line := total + 1 - countLines s
    match ← readCompound? total fuel s with
    | some (command, rest) =>
      let (redirections, rest) ← readRedirections total fuel rest
      return (if redirections.isEmpty then command else .redirected line command redirections, rest)
    | none =>
      let name := s.takeWhile fun c => isNameChar c
      match isName name, skipBlanks (s.drop name.length) with
      | true, '(' :: rest =>
        match skipBlanks rest with
        | ')' :: rest =>
          let (body, rest) ← readCommand total fuel (skipLines rest.length rest)
          return (.define name body, rest)
        | rest => unexpected rest (some ")")
      | _, _ => readSimple total line fuel [] [] [] s
termination_by structural fuel => fuel

/-- Commands with pipes between them. -/
def readPipeline (total : Nat) : (fuel : Nat) → Octets → Except ReadFlaw (Command × Octets)
  | 0, s => .ok (.nothing, s)
  | fuel + 1, s => do
    let s := skipBlanks s
    if startsWith "!" s then
      let (command, rest) ← readPipeline total fuel (s.drop 1)
      return (.negation command, rest)
    let (first, rest) ← readCommand total fuel s
    match skipBlanks rest with
    | '|' :: '|' :: _ => return (first, skipBlanks rest)
    | '|' :: rest =>
      let (second, rest) ← readPipeline total fuel (skipLines rest.length rest)
      return (.pipeline first second, rest)
    | rest => return (first, rest)
termination_by structural fuel => fuel

/-- What follows a pipeline that depends on its status. -/
def readTail (total : Nat) : (fuel : Nat) → Command → Octets → Except ReadFlaw (Command × Octets)
  | 0, first, s => .ok (first, s)
  | fuel + 1, first, s => do
    match skipBlanks s with
    | '&' :: '&' :: rest =>
      let (second, rest) ← readPipeline total fuel (skipLines rest.length rest)
      readTail total fuel (.both first second) rest
    | '|' :: '|' :: rest =>
      let (second, rest) ← readPipeline total fuel (skipLines rest.length rest)
      readTail total fuel (.either first second) rest
    | rest => return (first, rest)
termination_by structural fuel => fuel

/-- Commands one after the other, up to what ends them; with `isLine` the end of the line does. -/
def readList (total : Nat) : (fuel : Nat) → (isLine : Bool) → Octets →
    Except ReadFlaw (Command × Octets)
  | 0, _, s => .ok (.nothing, s)
  | fuel + 1, isLine, s => do
    let s := if isLine then skipBlanks s else skipLines s.length s
    if !startsCommand s || s.head? = some '\n' then return (.nothing, s)
    let (first, rest) ← readPipeline total fuel s
    let (first, rest) ← readTail total fuel first rest
    let after : Command → Octets → Except ReadFlaw (Command × Octets) := fun first rest => do
      match ← readList total fuel isLine rest with
      | (.nothing, rest) => return (first, rest)
      | (second, rest) => return (.sequence first second, rest)
    match skipBlanks rest with
    | ';' :: ';' :: _ => return (first, skipBlanks rest)
    | ';' :: rest => after first rest
    | '&' :: rest => after (.background first) rest
    | '\n' :: rest => if isLine then return (first, '\n' :: rest) else after first rest
    | rest => return (first, rest)
termination_by structural fuel => fuel

end

/-- Reads the commands of the next line of a script, if there is one; `total` is the number of line feeds
of the whole script. -/
def readScriptLine (total : Nat) (s : Octets) : Except ReadFlaw (Option (Command × Octets)) := do
  let s := skipLines s.length s
  if s.isEmpty then return none
  let (command, rest) ← readList total (4 * s.length + 16) true s
  match rest with
  | [] => return some (command, [])
  | '\n' :: rest => return some (command, rest)
  | rest => unexpected rest none

end CallScript.Shell
