import Relink.Shell.Builtin.Basic
import Relink.Shell.Fields
import Relink.Shell.Expansion

namespace Relink.Shell.Builtin

/-- Turns a switch of a letter on or off. Jobs cannot be controlled without a terminal, and of two ways to edit
lines only one is on. -/
def turnLetter (state : Bool) (letter : Char) : Activity Unit :=
  match Switch.ofLetter? letter with
  | none => Activity.fail ("Illegal option -".toList ++ [letter])
  | some .monitor =>
    if state then Activity.complain "can't access tty; job control turned off".toList else return ()
  | some switch =>
    modify fun session =>
      let switches := Switch.turn switch state session.switches
      let other :=
        match switch with
        | .vi => some Switch.emacs
        | .emacs => some Switch.vi
        | _ => none
      { session with
        switches := match other with
          | some other => if state then Switch.turn other false switches else switches
          | none => switches }

/-- Turns a switch of a name on or off, or lists the switches if there is no name. -/
def turnNamed (state : Bool) : Option Chars → Activity Unit
  | none => do
    let on := (← get).switches
    Activity.print (if state then Switch.listing on else Switch.script on)
  | some name =>
    match Switch.ofName? name with
    | some .monitor => turnLetter state 'm'
    | some switch => modify fun session => { session with switches := Switch.turn switch state session.switches }
    | none => Activity.fail ("Illegal option -o ".toList ++ name)

/-- Turns the switches of some letters; gives how many of the texts after them have named switches. -/
def turnLetters (state : Bool) (following : List Chars) : Nat → Chars → Activity Nat
  | taken, [] => return taken
  | taken, 'o' :: rest => do
    turnNamed state following[taken]?
    turnLetters state following (if taken < following.length then taken + 1 else taken) rest
  | taken, c :: rest => do
    turnLetter state c
    turnLetters state following taken rest

/-- Turns switches as arguments say, and gives the arguments left, if they are to be set. -/
def turnAll : Nat → List Chars → Activity (Option (List Chars))
  | 0, arguments => return some arguments
  | fuel + 1, arguments =>
    match arguments with
    | [] => return none
    | ['-', '-'] :: rest => return some rest
    | ['-'] :: rest => do
      modify fun session =>
        { session with switches := session.switches.filter fun switch => switch ≠ .xtrace && switch ≠ .verbose }
      return if rest.isEmpty then none else some rest
    | (sign :: letters) :: rest =>
      if sign == '-' || sign == '+' then do
        let taken ← turnLetters (sign == '-') rest 0 letters
        turnAll fuel (rest.drop taken)
      else return some arguments
    | arguments => return some arguments

/-- Sets the arguments; their options are to be read from the beginning. -/
def setArguments (arguments : List Chars) : Activity Unit :=
  modify fun session => { session with arguments := arguments, optionIndex := 1, optionOffset := none }

/-- Sets switches and arguments, or lists the variables. -/
def set : Builtin := fun arguments => do
  if arguments.isEmpty then
    let bindings := (← get).bindings.entries.filter fun entry => entry.2.value.isSome
    Activity.print (listing "" bindings)
  else
    match ← turnAll (arguments.length + 1) arguments with
    | some arguments => setArguments arguments
    | none => return 0
  return 0

def shift : Builtin := fun arguments => do
  let dropped ←
    match arguments with
    | [] => pure 1
    | text :: _ => Activity.count text
  let session ← get
  if session.arguments.length < dropped then Activity.fail "can't shift that many".toList
  setArguments (session.arguments.drop dropped)
  return 0

def unset : Builtin := fun arguments => do
  let (options, names) ← options [('f', false), ('v', false)] arguments
  if options.getLast?.any (·.1 == 'f') then
    names.forM fun name =>
      modify fun session => { session with functions := session.functions.erase (String.ofList name) }
  else names.forM fun name => do Activity.forget (← variableName name)
  return 0

/-- Marks variables and gives them values, or lists those that are marked. -/
def declare (intro : String) (among : Variable → Bool) (mark : Session → String → Session) : Builtin :=
  fun arguments => do
    let isAsked := arguments.head?.any fun text => ['-', 'p'].isPrefixOf text
    let declarations ← if isAsked then pure [] else operands arguments
    if declarations.isEmpty then
      let marked := (← get).bindings.entries.filter fun entry => among entry.2
      Activity.print (listing (intro ++ " ") marked)
    else
      declarations.forM fun text => do
        let (label, value) := declaration text
        let name ← variableName label
        if let some value := value then Activity.assign name value
        modify (mark · name)
    return 0

/-- Keeps the values of variables until the function is left. -/
def keep : Builtin := fun arguments => do
  if (← get).kept.isEmpty then Activity.fail "not in a function".toList
  arguments.forM fun text => do
    if text = ['-'] then modify fun session => session.keep (.switches session.switches)
    else
      let (label, value) := declaration text
      Activity.assignKept false (← variableName label) value
  return 0

/-- Splits what has been read into plain parts and characters after backslashes. A line's end after a backslash
goes, and so does a character that is none. -/
def unescaped (raw : Bool) : Chars → List Segment
  | [] => []
  | '\\' :: c :: rest =>
    if raw then plain '\\' (unescaped raw (c :: rest))
    else if c == '\n' then ⟨.never, []⟩ :: unescaped raw rest
    else ⟨.never, [.char c true]⟩ :: unescaped raw rest
  | c :: rest =>
    if c == '\x00' || (c == '\\' && !raw) then unescaped raw rest else plain c (unescaped raw rest)
where
  /-- Puts a character before parts. -/
  plain (c : Char) : List Segment → List Segment
    | ⟨.separators, marks⟩ :: rest => ⟨.separators, .char c false :: marks⟩ :: rest
    | segments => ⟨.separators, [.char c false]⟩ :: segments

/-- Reads a line, which goes on after a line's end behind a backslash, and whether it has been ended. -/
def logicalLine (raw : Bool) : Nat → Session → Chars × Bool × Session
  | 0, session => ([], false, session)
  | fuel + 1, session =>
    let (line, ended, session) := session.readLine 0
    let backslashes := (line.reverse.takeWhile (· == '\\')).length
    if ended && !raw && backslashes % 2 = 1 then
      let (more, ended, session) := logicalLine raw fuel session
      (line ++ '\n' :: more, ended, session)
    else (line, ended, session)

def greatestJoin : Nat := 100000

def read : Builtin := fun arguments => do
  let (options, names) ← options [('p', true), ('r', false)] arguments
  if names.isEmpty then Activity.fail "arg count".toList
  let raw := options.any (·.1 == 'r')
  let (line, ended, session) := logicalLine raw greatestJoin (← get)
  MonadState.set session
  let segments := unescaped raw line
  let fields := Fields.ofSegments (Expansion.separators session) (some names.length) segments
  (names.zipIdx).forM fun (name, position) => do
    let value := ((fields[position]?).getD []).map Prod.fst
    Activity.assign (← variableName name) value
  return if ended then 0 else 1

structure OptionFound where
  letter : Char
  text : Option Chars := none
  offset : Option Nat := none
  index : Nat
  isOver : Bool := false
  message : Option Chars := none

/-- Looks for the next option of arguments, given the one and the character in it to begin with. -/
def nextOption (admitted : Chars) (arguments : List Chars) (index : Nat) (offset : Option Nat) : OptionFound :=
  let quiet := admitted.head? = some ':'
  let known := if quiet then admitted.drop 1 else admitted
  let inside : Option Chars := do
    let offset ← offset
    let word ← arguments[index - 2]?
    if index ≤ 1 || word.length ≤ offset then none else some (word.drop offset)
  let start : Option (Chars × Nat) ⊕ Nat :=
    match inside with
    | some rest => .inl (some (rest, index))
    | none =>
      match arguments[index - 1]? with
      | some ['-', '-'] => .inr (index + 1)
      | some ('-' :: c :: rest) => .inl (some (c :: rest, index + 1))
      | _ => .inr index
  match start with
  | .inr index => { letter := '?', index := index, isOver := true }
  | .inl none => { letter := '?', index := index, isOver := true }
  | .inl (some ([], index)) => { letter := '?', index := index, isOver := true }
  | .inl (some (c :: rest, index)) =>
    let after := (arguments[index - 2]?).map fun word => word.length - rest.length
    match describe c known with
    | none =>
      if quiet then { letter := '?', text := some [c], offset := after, index := index }
      else
        { letter := '?', offset := after, index := index,
          message := some ("Illegal option -".toList ++ [c, '\n']) }
    | some false => { letter := c, text := some [], offset := after, index := index }
    | some true =>
      if !rest.isEmpty then { letter := c, text := some rest, index := index }
      else
        match arguments[index - 1]? with
        | some text => { letter := c, text := some text, index := index + 1 }
        | none =>
          if quiet then { letter := ':', text := some [c], offset := after, index := index }
          else
            { letter := '?', offset := after, index := index,
              message := some ("No arg for -".toList ++ c :: " option\n".toList) }
where
  /-- Whether an admitted letter takes a text. -/
  describe (c : Char) : Chars → Option Bool
    | [] => none
    | d :: ':' :: rest => if c == d then some true else describe c rest
    | d :: rest => if c == d then some false else describe c rest

/-- Gives a variable the next option of the arguments. -/
def getopts : Builtin := fun arguments => do
  match arguments with
  | admitted :: name :: given =>
    let session ← get
    let texts := if given.isEmpty then session.arguments else given
    let isPast := texts.length + 1 < session.optionIndex
    let index := if isPast then 1 else session.optionIndex
    let found := nextOption admitted texts index (if isPast then none else session.optionOffset)
    if let some message := found.message then modify (·.write 2 message)
    match found.text with
    | some text => Activity.assign "OPTARG" text
    | none => if found.message.isSome then Activity.forget "OPTARG"
    modify fun session => session.assign Session.optionVariable (Chars.ofNat found.index)
    Activity.assign (← variableName name) [found.letter]
    modify fun session => { session with optionIndex := found.index, optionOffset := found.offset }
    return if found.isOver then 1 else 0
  | _ => Activity.fail "Usage: getopts optstring var [arg...]".toList

/-- An alias as a script could define it. -/
def aliasText (entry : String × Chars) : Chars :=
  Chars.ofString entry.1 ++ '=' :: quoted entry.2 ++ ['\n']

def aliasBuckets : Nat := 39

def defineAlias : Builtin := fun arguments => do
  if arguments.isEmpty then
    Activity.print ((arranged aliasBuckets Prod.fst (← get).aliases).flatMap aliasText)
    return 0
  else
    arguments.foldlM (fun status text => do
      let session ← get
      let first := text.take 1
      match (text.drop 1).dropWhile (· ≠ '=') with
      | [] =>
        match session.aliases.lookup (String.ofList text) with
        | some value =>
          Activity.print (aliasText (String.ofList text, value))
          return status
        | none =>
          modify (·.write 2 ("alias: ".toList ++ text ++ " not found\n".toList))
          return 1
      | _ :: value =>
        let name := String.ofList (first ++ (text.drop 1).takeWhile (· ≠ '='))
        let aliases :=
          if (session.aliases.lookup name).isSome then
            session.aliases.map fun entry => if entry.1 == name then (name, value) else entry
          else session.aliases ++ [(name, value)]
        modify fun session => { session with aliases := aliases }
        return status) 0

def unalias : Builtin := fun arguments => do
  if arguments.head?.any fun text => ['-', 'a'].isPrefixOf text then
    modify fun session => { session with aliases := [] }
    return 0
  else
    (← operands arguments).foldlM (fun status text => do
      let name := String.ofList text
      if ((← get).aliases.lookup name).isSome then
        modify fun session => { session with aliases := session.aliases.filter (·.1 ≠ name) }
        return status
      else
        modify (·.write 2 ("unalias: ".toList ++ text ++ " not found\n".toList))
        return 1) 0

end Relink.Shell.Builtin
