import Relink.Shell.Builtin.Name
import Relink.Shell.Lexeme
import Relink.Shell.Token

/-! Reading a script into commands. A cursor is moved on by every reader, and how deep readers call each other
is bounded by the characters left. -/

namespace Relink.Shell

/-- An alias whose text is being read: how many characters follow that text, and whether it ends in a blank,
after which the next word may be an alias as well. -/
structure ActiveAlias where
  name : String
  follow : Nat
  endsInBlank : Bool

/-- The texts that a line announces begin after its end. Where that end is, how many lines they have, and what
follows them. -/
structure Announced where
  ending : Nat
  lines : Nat
  after : Chars

/-- A place in a script: what follows it, the line, and a token that has been looked at but not taken. -/
structure Cursor where
  rest : Chars
  line : Nat
  ahead : Option Token := none
  aliases : List (String × Chars) := []
  active : List ActiveAlias := []
  chained : Bool := false
  announced : Option Announced := none
  nested : Bool := false

namespace Cursor

def start (script : Chars) : Cursor where
  rest := script
  line := 1

/-- How deep reading from a place may go: each level of the grammar is passed at most once for each
character. -/
def fuel (cursor : Cursor) : Nat :=
  16 * (cursor.rest.length + 4) +
    64 * (cursor.aliases.foldl (fun size entry => size + entry.2.length + 1) 0)

end Cursor

/-- Reads something at a place of a script and moves on. -/
abbrev Reader := StateT Cursor (Except Fault)

namespace Reader

def fail {α : Type} (problem : Fault.Problem) : Reader α := do
  throw ⟨(← get).line, problem⟩

def unexpected {α : Type} (found : Token) (expected : Option String) : Reader α :=
  fail (.unexpected found expected)

/-- Moves on to what follows some characters. -/
def advance (passed rest : Chars) : Reader Unit :=
  modify fun cursor => { cursor with rest := rest, line := cursor.line + passed.count '\n' }

/-- Takes the token that has been looked at. -/
def drop : Reader Unit :=
  modify fun cursor => { cursor with ahead := none }

/-- Passes blanks, comments and joined lines; counts the lines. -/
def skipBlanks : Chars → Nat → Chars × Nat
  | '\\' :: '\n' :: rest, line => skipBlanks rest (line + 1)
  | c :: rest, line =>
    if c == ' ' || c == '\t' then skipBlanks rest line
    else if c == '#' then (rest.dropWhile (· ≠ '\n'), line)
    else (c :: rest, line)
  | [], line => ([], line)

/-- Splits a backquoted text from what follows: a backslash there keeps only what has a meaning inside. -/
def backquoted (quoted : Bool) : Chars → Option (Chars × Chars)
  | [] => none
  | '\x60' :: rest => some ([], rest)
  | '\\' :: c :: rest =>
    let kept := if c == '$' || c == '\x60' || c == '\\' || (quoted && c == '"') then [c] else ['\\', c]
    (backquoted quoted rest).map fun (text, after) => (kept ++ text, after)
  | c :: rest => (backquoted quoted rest).map fun (text, after) => (c :: text, after)

/-- How many lines are passed on the way from one place of a script to another. -/
def passedLines (rest after : Chars) : Nat :=
  (rest.take (rest.length - after.length)).count '\n'

/-- What follows the mark of a text given in the script, if the mark stands at the beginning of a line. -/
def afterMark? (mark line : Chars) : Option Chars :=
  if line.takeWhile (· ≠ '\n') = mark then some ((line.drop mark.length).drop 1) else none

/-- The beginning of a line of a text given in the script, where tabs may not count. -/
def lineStart (strip : Bool) (line : Chars) : Chars :=
  if strip then line.dropWhile (· == '\t') else line

/-- Splits a text given in the script from what follows: its lines up to one that is the mark. -/
def documentText (strip : Bool) (mark : Chars) : Nat → Chars → Chars × Chars
  | 0, rest => ([], rest)
  | _ + 1, [] => ([], [])
  | fuel + 1, rest =>
    let rest := lineStart strip rest
    match afterMark? mark rest with
    | some after => ([], after)
    | none =>
      match rest.dropWhile (· ≠ '\n') with
      | [] => (rest, [])
      | _ :: following =>
        let (text, after) := documentText strip mark fuel following
        (rest.takeWhile (· ≠ '\n') ++ '\n' :: text, after)

def failAtEnd {α : Type} (problem : Fault.Problem) : Reader α := do
  let cursor ← get
  throw ⟨cursor.line + cursor.rest.count '\n', problem⟩

/-- The parameters that are named by one character. -/
def isSpecial (c : Char) : Bool :=
  c == '@' || c == '*' || c == '#' || c == '?' || c == '-' || c == '$' || c == '!' || c.isDigit

/-- Looks at the next character; joined lines before it are passed. -/
def nextChar? : Reader (Option Char) := do
  let cursor ← get
  let (lines, rest) := Token.unfold cursor.rest
  set { cursor with rest := rest, line := cursor.line + lines }
  return rest.head?

def passChar : Reader Unit :=
  modify fun cursor =>
    { cursor with
      rest := cursor.rest.drop 1
      line := cursor.line + (if cursor.rest.head? = some '\n' then 1 else 0) }

def passIf (c : Char) : Reader Bool := do
  if (← nextChar?) = some c then
    passChar
    return true
  else return false

/-- Takes admitted characters; joined lines between them are passed. Each step passes at least one character of the
text, so that as many steps as it has are enough. -/
def takeChars (admitted : Char → Bool) : Nat → Reader Chars
  | 0 => return []
  | fuel + 1 => do
    match ← nextChar? with
    | some c =>
      if admitted c then
        passChar
        return c :: (← takeChars admitted fuel)
      else return []
    | none => return []

/-- The longest name that can be read. -/
def longestName : Nat := 1000000

def name : Reader String := do
  return String.ofList (← takeChars Chars.isNameChar longestName)

def number : Reader String := do
  return String.ofList (← takeChars Char.isDigit longestName)

/-- The uses of a parameter by their signs. -/
def uses (evenEmpty : Bool) : List (Char × Use) := [
  ('\x7d', .value), ('-', .fallback evenEmpty), ('=', .assign evenEmpty), ('?', .demand evenEmpty),
  ('+', .replace evenEmpty)]

/-- Reads what is done with a parameter in braces, and whether that is all that stands there. -/
def use : Reader (Use × Bool) := do
  match ← nextChar? with
  | none => return (.malformed, false)
  | some c =>
    passChar
    if c == '\x7d' then return (.value, true)
    else if c == '#' then return (.cutStart (← passIf '#'), false)
    else if c == '%' then return (.cutEnd (← passIf '%'), false)
    else if c == ':' then
      match ← nextChar? with
      | none => return (.malformed, false)
      | some c =>
        passChar
        return (((uses true).lookup c).getD .malformed, false)
    else return (((uses false).lookup c).getD .malformed, false)

/-- Reads what stands at the beginning of braces: a parameter's name, what is done with it, and whether that is all
that stands there. A sign of a number before a name asks for a size. -/
def parameter : Reader (String × Use × Bool) := do
  match ← nextChar? with
  | none => return ("", .malformed, false)
  | some c =>
    if Chars.isNameStart c then
      let name ← name
      return (name, ← use)
    else if c.isDigit then
      let number ← number
      return (number, ← use)
    else if c == '\x7d' then return ("", .malformed, false)
    else
      passChar
      if c ≠ '#' then
        if isSpecial c then return (String.singleton c, ← use) else return ("", .malformed, false)
      else
        match ← nextChar? with
        | none => return ("#", .malformed, false)
        | some d =>
          if Chars.isNameStart d || d.isDigit then
            let name ← if d.isDigit then number else name
            if ← passIf '\x7d' then return (name, .size, true) else return (name, .malformed, false)
          else
            let here ← get
            passChar
            if d ≠ '\x7d' && (← nextChar?) = some '\x7d' then
              if isSpecial d then
                passChar
                return (String.singleton d, .size, true)
              else return ("", .malformed, false)
            else
              set here
              return ("#", ← use)

/-- Whether the word after a parameter is read as if it were quoted. The pattern of a cut never is. -/
def quotesWord (quoted : Bool) : Use → Bool
  | .cutStart _ | .cutEnd _ => false
  | _ => quoted

/-- Splits an assignment into its name and its value. -/
def assignment? : Word → Option (String × Word)
  | .chars cs false :: rest =>
    let name := cs.takeWhile (· ≠ '=')
    match cs.drop name.length with
    | [] => none
    | _ :: value =>
      if Chars.isName name then
        some (String.ofList name, if value.isEmpty then rest else .chars value false :: rest)
      else none
  | _ => none

/-- The text of a word without its quotes, and whether it had some. -/
def unquote : Word → Chars × Bool
  | [] => ([], false)
  | .chars cs quoted :: rest =>
    let (more, further) := unquote rest
    (cs ++ more, quoted || further)
  | .quotes :: rest => ((unquote rest).1, true)
  | _ :: rest => unquote rest

/-- Whether pieces between double quotes are the arguments alone, of which there may be none. -/
def isAllArguments : List Piece → Bool
  | [.parameter "@" .value [] true] => true
  | _ => false

/-- Passes the end of a line and the texts that the line has announced. -/
def endLine (rest after : Chars) : Reader Unit := do
  match (← get).announced with
  | some announced =>
    if announced.ending = rest.length then
      modify fun cursor =>
        { cursor with rest := announced.after, line := cursor.line + 1 + announced.lines, announced := none }
    else advance ['\n'] after
  | none => advance ['\n'] after

mutual

def pieces : Nat → Setting → List Piece → Reader (List Piece)
  | 0, _, _ => fail .tooDeep
  | fuel + 1, setting, found => do
    match Lexeme.next setting (← get).rest with
    | .stop rest =>
      advance [] rest
      return Word.ofReversed found
    | .openQuote => failAtEnd .openQuote
    | .openEnd => failAtEnd (if setting matches .arithmetic _ then .openArithmetic else .openBrace)
    | .skip rest =>
      advance ['\n'] rest
      pieces fuel setting found
    | .chars cs quoted rest =>
      advance cs rest
      pieces fuel setting ((if cs.isEmpty then .quotes else .chars cs quoted) :: found)
    | .deeper c depth rest =>
      advance [] rest
      pieces fuel (.arithmetic depth) (.chars [c] true :: found)
    | .doubleQuote rest =>
      advance [] rest
      let inner ← pieces fuel (.quoted setting.isInBraces) []
      let more := if isAllArguments inner then inner else .quotes :: inner
      pieces fuel setting (more.reverse ++ found)
    | .dollar rest =>
      advance [] rest
      let piece ← expansion fuel setting
      pieces fuel setting (piece :: found)
    | .backquote rest =>
      match backquoted setting.isQuoted rest with
      | none => failAtEnd .openBackquote
      | some (text, after) =>
        let here ← get
        set { Cursor.start text with aliases := here.aliases }
        let command ← script fuel .nothing
        set { here with rest := after, line := here.line + passedLines rest after }
        pieces fuel setting (.output command setting.isQuoted :: found)

/-- Reads what follows a dollar sign. -/
def expansion : Nat → Setting → Reader Piece
  | 0, _ => fail .tooDeep
  | fuel + 1, setting => do
    let quoted := setting.isQuoted
    match ← nextChar? with
    | some '(' =>
      passChar
      if ← passIf '(' then return .arithmetic (← pieces fuel (.arithmetic 0) []) quoted
      else
        let here ← get
        set { here with nested := true }
        let command ← list fuel false true .nothing
        match ← peek fuel with
        | .rightParen =>
          drop
          modify fun cursor => { cursor with nested := here.nested }
          return .output command quoted
        | token => unexpected token (some (Token.displayed ")"))
    | some '\x7b' =>
      passChar
      let (name, use, isClosed) ← parameter
      if isClosed then return .parameter name use [] quoted
      else
        let word ← pieces fuel (.braces (quotesWord quoted use) setting.isOfDocument) []
        return .parameter name use word quoted
    | some c =>
      if Chars.isNameStart c then return .parameter (← name) .value [] quoted
      else if isSpecial c then
        passChar
        return .parameter (String.singleton c) .value [] quoted
      else return .chars ['$'] quoted
    | none => return .chars ['$'] quoted

def token : Nat → Reader Token
  | 0 => fail .tooDeep
  | fuel + 1 => do
    let cursor ← get
    let (rest, line) := skipBlanks cursor.rest cursor.line
    let passes (entry : ActiveAlias) : Bool :=
      entry.endsInBlank && rest.length ≤ entry.follow && entry.follow < cursor.rest.length
    set { cursor with rest := rest, line := line, chained := cursor.active.any passes }
    match Token.operator? rest with
    | some (token, lines, after) =>
      if token matches .newline then endLine rest after
      else modify fun cursor => { cursor with rest := after, line := cursor.line + lines }
      return token
    | none => return .word (← pieces fuel .word [])

def peek : Nat → Reader Token
  | 0 => fail .tooDeep
  | fuel + 1 => do
    match (← get).ahead with
    | some token => return token
    | none =>
      let token ← token fuel
      modify fun cursor => { cursor with ahead := some token }
      return token

/-- Puts the text of an alias in the place of the next token, as long as that is an alias which is not being
read already. -/
def unalias : Nat → Reader Unit
  | 0 => fail .tooDeep
  | fuel + 1 => do
    let token ← peek fuel
    let cursor ← get
    match token, token.keyword? with
    | .word w, none =>
      match w.bare?.map String.ofList with
      | some name =>
        let isActive := cursor.active.any fun entry => entry.name == name && entry.follow ≤ cursor.rest.length
        match if isActive then none else cursor.aliases.lookup name with
        | some text =>
          let endsInBlank := text.getLast?.any fun c => c == ' ' || c == '\t'
          set { cursor with
            rest := text ++ cursor.rest
            ahead := none
            active := ⟨name, cursor.rest.length, endsInBlank⟩ ::
              cursor.active.filter fun entry => entry.follow ≤ cursor.rest.length }
          unalias fuel
        | none => return ()
      | none => return ()
    | _, _ => return ()

/-- What is left of a script at the end of the line, unless a closing parenthesis ends the commands before it.
`depth` counts the open ones. -/
def lineEnd : Nat → Nat → Reader (Option Chars)
  | 0, _ => fail .tooDeep
  | fuel + 1, depth => do
    let cursor ← get
    let (rest, _) := skipBlanks cursor.rest cursor.line
    match rest with
    | [] => return none
    | '\n' :: _ => return some rest
    | _ =>
      match ← token fuel with
      | .leftParen => lineEnd fuel (depth + 1)
      | .rightParen => if cursor.nested && depth = 0 then return none else lineEnd fuel (depth - 1)
      | _ => lineEnd fuel depth

/-- Reads the lines of a text given in the script up to one that is the mark, if there is a mark. Lines are joined at
their beginning too, but not after tabs that do not count. -/
def document : Nat → Bool → Option Chars → List Piece → Reader Word
  | 0, _, _, _ => fail .tooDeep
  | fuel + 1, strip, mark, found => do
    let _ ← nextChar?
    let start := (← get).rest
    let rest := lineStart strip start
    advance [] rest
    match mark.bind fun mark => afterMark? mark rest with
    | some after =>
      modify fun cursor => { cursor with rest := after, line := cursor.line + 1 }
      return Word.ofReversed found
    | none =>
      let stays := rest.length < start.length && ['\\', '\n'].isPrefixOf rest
      if stays then advance ['\n'] (rest.drop 2)
      let found := if stays then .chars ['\\', '\n'] true :: found else found
      let line ← pieces fuel .document []
      let found := line.reverse ++ found
      match (← get).rest with
      | [] => return Word.ofReversed found
      | _ :: rest =>
        advance ['\n'] rest
        document fuel strip mark (.chars ['\n'] true :: found)

def skipNewlines : Nat → Reader Unit
  | 0 => fail .tooDeep
  | fuel + 1 => do
    if (← peek fuel) matches .newline then
      drop
      skipNewlines fuel

/-- Takes a keyword that must stand here. -/
def expect : Nat → String → Reader Unit
  | 0, _ => fail .tooDeep
  | fuel + 1, keyword => do
    let token ← peek fuel
    if token.keyword? = some keyword then drop else unexpected token (some (Token.displayed keyword))

def script : Nat → Command → Reader Command
  | 0, _ => fail .tooDeep
  | fuel + 1, found => do
    let command ← list fuel true false .nothing
    let found := if found matches .nothing then command else .sequence found command
    if (← peek fuel) matches .finish then return found else script fuel found

/-- Reads commands one after the other: those of a line, or those up to a token that ends a list. -/
def list : Nat → Bool → Bool → Command → Reader Command
  | 0, _, _, _ => fail .tooDeep
  | fuel + 1, ofLine, mayEnd, found => do
    if !ofLine then skipNewlines fuel
    unalias fuel
    let token ← peek fuel
    if token matches .newline then
      drop
      return found
    else if token matches .finish then return found
    else if !ofLine && mayEnd && token.endsList then return found
    else
      let command ← andOr fuel
      let token ← peek fuel
      let command := if token matches .ampersand then .background command else command
      let found := if found matches .nothing then command else .sequence found command
      match token with
      | .finish => return found
      | .newline => list fuel ofLine true found
      | .ampersand | .semicolon =>
        drop
        list fuel ofLine true found
      | token => if ofLine then unexpected token none else return found

/-- Reads pipelines joined by their success. -/
def andOr : Nat → Reader Command
  | 0 => fail .tooDeep
  | fuel + 1 => do andOrRest fuel (← pipeline fuel)

/-- Reads what a pipeline is joined to. -/
def andOrRest : Nat → Command → Reader Command
  | 0, _ => fail .tooDeep
  | fuel + 1, left => do
    match ← peek fuel with
    | .doubleAmpersand =>
      drop
      skipNewlines fuel
      unalias fuel
      andOrRest fuel (.both left (← pipeline fuel))
    | .doubleBar =>
      drop
      skipNewlines fuel
      unalias fuel
      andOrRest fuel (.either left (← pipeline fuel))
    | _ => return left

def pipeline : Nat → Reader Command
  | 0 => fail .tooDeep
  | fuel + 1 => do
    let negated := (← peek fuel).keyword? = some "!"
    if negated then
      drop
      unalias fuel
    let first ← command fuel
    let more ← stages fuel
    let whole := if more.isEmpty then first else .pipeline (first :: more)
    return if negated then .negation whole else whole

def stages : Nat → Reader (List Command)
  | 0 => fail .tooDeep
  | fuel + 1 => do
    if (← peek fuel) matches .bar then
      drop
      skipNewlines fuel
      unalias fuel
      let stage ← command fuel
      return stage :: (← stages fuel)
    else return []

def command : Nat → Reader Command
  | 0 => fail .tooDeep
  | fuel + 1 => do
    let token ← peek fuel
    let line := (← get).line
    match token, token.keyword? with
    | .leftParen, _ =>
      drop
      let body ← list fuel false false .nothing
      match ← peek fuel with
      | .rightParen =>
        drop
        return .subshell line body (← redirects fuel)
      | token => unexpected token (some (Token.displayed ")"))
    | .redirect .., _ | .word _, none => simple fuel line [] [] []
    | _, some "\x7b" =>
      drop
      let body ← list fuel false false .nothing
      expect fuel "\x7d"
      withRedirects fuel line body
    | _, some "if" =>
      drop
      let body ← choice fuel
      expect fuel "fi"
      withRedirects fuel line body
    | _, some "while" =>
      drop
      withRedirects fuel line (← loop fuel false)
    | _, some "until" =>
      drop
      withRedirects fuel line (← loop fuel true)
    | _, some "for" =>
      drop
      withRedirects fuel line (← each fuel line)
    | _, some "case" =>
      drop
      withRedirects fuel line (← selection fuel line)
    | token, _ => unexpected token none

def withRedirects : Nat → Nat → Command → Reader Command
  | 0, _, _ => fail .tooDeep
  | fuel + 1, line, body => do
    let redirects ← redirects fuel
    return if redirects.isEmpty then body else .redirected line body redirects

def redirects : Nat → Reader (List Redirect)
  | 0 => fail .tooDeep
  | fuel + 1 => do
    match ← peek fuel with
    | .redirect descriptor mode strip =>
      drop
      let redirect ← redirect fuel descriptor mode strip
      return redirect :: (← redirects fuel)
    | _ => return []

/-- Reads the word of a redirection, and the text that it announces. What cannot be read on the way to the end of the
line is refused when it is reached again. -/
def redirect : Nat → Nat → Redirect.Mode → Bool → Reader Redirect
  | 0, _, _, _ => fail .tooDeep
  | fuel + 1, descriptor, mode, strip => do
    match ← peek fuel with
    | .word w =>
      drop
      if mode = .text then
        let (mark, quoted) := unquote w
        let here ← get
        let ending ← tryCatch (lineEnd fuel 0) fun _ => return none
        let announced ← announcement fuel strip mark quoted here (ending.getD [])
        set { here with announced := if ending.isSome then some announced.2 else here.announced }
        return .mk descriptor .text announced.1
      else return .mk descriptor mode w
    | token => unexpected token none

/-- Reads a text that a line announces, given what is left of the script at the end of that line. -/
def announcement : Nat → Bool → Chars → Bool → Cursor → Chars → Reader (Word × Announced)
  | 0, _, _, _, _, _ => fail .tooDeep
  | fuel + 1, strip, mark, quoted, here, ending => do
    let (start, lines) :=
      match here.announced.filter fun announced => announced.ending = ending.length with
      | some announced => (announced.after, announced.lines)
      | none => (ending.drop 1, 0)
    if quoted then
      let (text, after) := documentText strip mark (start.length + 1) start
      return ([.chars text true], ⟨ending.length, lines + passedLines start after, after⟩)
    else
      let first := here.line + 1 + lines
      set { here with rest := start, line := first, ahead := none, announced := none }
      let text ← document fuel strip (some mark) []
      let cursor ← get
      return (text, ⟨ending.length, lines + (cursor.line - first), cursor.rest⟩)

def choice : Nat → Reader Command
  | 0 => fail .tooDeep
  | fuel + 1 => do
    let condition ← list fuel false false .nothing
    expect fuel "then"
    let success ← list fuel false false .nothing
    match (← peek fuel).keyword? with
    | some "elif" =>
      drop
      return .choice condition success (← choice fuel)
    | some "else" =>
      drop
      return .choice condition success (← list fuel false false .nothing)
    | _ => return .choice condition success .nothing

def loop : Nat → Bool → Reader Command
  | 0, _ => fail .tooDeep
  | fuel + 1, untilSuccess => do
    let condition ← list fuel false false .nothing
    expect fuel "do"
    let body ← list fuel false false .nothing
    expect fuel "done"
    return .loop untilSuccess condition body

/-- Reads the name, the words and the body of a loop over words. -/
def each : Nat → Nat → Reader Command
  | 0, _ => fail .tooDeep
  | fuel + 1, line => do
    let name ←
      match ← peek fuel with
      | .word w =>
        match w.bare?.filter Chars.isName with
        | some name => pure (String.ofList name)
        | none => fail .loopVariable
      | _ => fail .loopVariable
    drop
    skipNewlines fuel
    let token ← peek fuel
    let words ←
      if token.keyword? = some "in" then
        drop
        let words ← wordsOf fuel
        match ← peek fuel with
        | .newline | .semicolon => drop
        | token => unexpected token none
        pure words
      else
        if token matches .semicolon then drop
        pure [Word.allArguments]
    skipNewlines fuel
    expect fuel "do"
    let body ← list fuel false false .nothing
    expect fuel "done"
    return .each line name words body

def wordsOf : Nat → Reader (List Word)
  | 0 => fail .tooDeep
  | fuel + 1 => do
    match ← peek fuel with
    | .word w =>
      drop
      return w :: (← wordsOf fuel)
    | _ => return []

def selection : Nat → Nat → Reader Command
  | 0, _ => fail .tooDeep
  | fuel + 1, line => do
    match ← peek fuel with
    | .word w =>
      drop
      skipNewlines fuel
      expect fuel "in"
      let branches ← branches fuel
      expect fuel "esac"
      return .selection line w branches
    | token => unexpected token (some "word")

def branches : Nat → Reader (List (List Word × Command))
  | 0 => fail .tooDeep
  | fuel + 1 => do
    skipNewlines fuel
    if (← peek fuel).keyword? = some "esac" then return []
    else
      if (← peek fuel) matches .leftParen then drop
      let patterns ← patterns fuel
      match ← peek fuel with
      | .rightParen => drop
      | token => unexpected token (some (Token.displayed ")"))
      let body ← list fuel false true .nothing
      skipNewlines fuel
      let token ← peek fuel
      if token.keyword? = some "esac" then return [(patterns, body)]
      else if token matches .doubleSemicolon then
        drop
        return (patterns, body) :: (← branches fuel)
      else unexpected token (some (Token.displayed ";;"))

def patterns : Nat → Reader (List Word)
  | 0 => fail .tooDeep
  | fuel + 1 => do
    match ← peek fuel with
    | .word w =>
      drop
      if (← peek fuel) matches .bar then
        drop
        return w :: (← patterns fuel)
      else return [w]
    | .finish => unexpected .finish (some (Token.displayed ")"))
    | token => unexpected token none

/-- Reads a simple command or the definition of a function. The words found so far come in reverse. -/
def simple : Nat → Nat → List (String × Word) → List Word → List Redirect → Reader Command
  | 0, _, _, _, _ => fail .tooDeep
  | fuel + 1, line, assignments, words, redirects => do
    let _ ← peek fuel
    if words.isEmpty || (← get).chained then unalias fuel
    match ← peek fuel with
    | .word w =>
      drop
      match (if words.isEmpty then assignment? w else none) with
      | some assignment => simple fuel line (assignments ++ [assignment]) words redirects
      | none => simple fuel line assignments (w :: words) redirects
    | .redirect descriptor mode strip =>
      drop
      let redirect ← redirect fuel descriptor mode strip
      simple fuel line assignments words (redirects ++ [redirect])
    | .leftParen =>
      match assignments, words, redirects with
      | [], [w], [] =>
        drop
        match ← peek fuel with
        | .rightParen => drop
        | .word _ => unexpected (.word []) (some (Token.displayed ")"))
        | token => unexpected token (some (Token.displayed ")"))
        match w.bare?.filter fun name => Chars.isName name && !Builtin.special.contains (String.ofList name) with
        | none => fail .functionName
        | some name =>
          skipNewlines fuel
          unalias fuel
          return .definition (String.ofList name) (← command fuel)
      | _, _, _ => return .simple line assignments words.reverse redirects
    | _ => return .simple line assignments words.reverse redirects

end

end Reader

namespace Command

/-- The word that a text makes in which only expansions have a meaning. -/
def promptWord (text : Chars) : Except Fault Word :=
  let cursor := Cursor.start text
  (Reader.document cursor.fuel false none []).run' cursor

/-- Reads the commands of the next line that has some, if the script goes on. -/
def readLine (cursor : Cursor) : Except Fault (Option Command × Cursor) :=
  let fuel := cursor.fuel
  (do
    let token ← Reader.peek fuel
    if token matches .finish then return none
    return some (← Reader.list fuel true false .nothing) : Reader (Option Command)) cursor

end Command

end Relink.Shell
