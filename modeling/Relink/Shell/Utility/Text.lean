import Relink.Shell.Format
import Relink.Shell.Utility.Basic

namespace Relink.Shell.Utility

def isOutput (session : Session) (operand : Chars) : Bool :=
  match fileOf? session 1, session.files.find session.here (Chars.toString operand) with
  | some output, .ok (place, _) => output == place
  | _, _ => false

/-- How a character is shown if it has no shape: those of the upper half by those of the lower one. -/
def shape (c : Char) : Chars :=
  let (mark, n) := if 128 ≤ c.toNat then (['M', '-'], c.toNat - 128) else ([], c.toNat)
  if n < 32 then mark ++ ['^', Char.ofNat (n + 64)]
  else if n = 127 then mark ++ ['^', '?']
  else mark ++ [Char.ofNat n]

/-- Lines being numbered: how many have been, whether the next text begins a line, and whether the line before was
empty. -/
structure Numbering where
  count : Nat := 0
  begins : Bool := true
  wasEmpty : Bool := false

/-- A number with blanks before it up to a width. -/
def aligned (width n : Nat) : Chars :=
  let digits := Chars.ofNat n
  List.replicate (width - digits.length) ' ' ++ digits

/-- The options for showing lines that others stand for. -/
def showingOptions (given : Given) : Given :=
  let letters (c : Char) : List Char :=
    match c with
    | 'A' => ['v', 'E', 'T']
    | 'e' => ['v', 'E']
    | 't' => ['v', 'T']
    | c => [c]
  { given with flags := given.flags.flatMap fun flag => (letters flag.1).map fun c => (c, flag.2) }

/-- Shows a line, which may go on one before it or lack its end. -/
def showLine (given : Given) (numbering : Numbering) (line : Chars) : Numbering × Chars :=
  let isEmpty := numbering.begins && line == ['\n']
  if isEmpty && numbering.wasEmpty && given.has 's' then (numbering, [])
  else
    let isNumbered := numbering.begins && if given.has 'b' then !isEmpty else given.has 'n'
    let count := if isNumbered then numbering.count + 1 else numbering.count
    let ended := line.getLast? = some '\n'
    let text := if ended then line.dropLast else line
    let (text, ending) :=
      if !ended then (text, [])
      else if !given.has 'E' then (text, ['\n'])
      else if text.getLast? = some '\x0d' && !given.has 'v' then (text.dropLast, ['^', 'M', '$', '\n'])
      else (text, ['$', '\n'])
    let isShaped (c : Char) : Bool := if c == '\t' then given.has 'T' else given.has 'v'
    let shapes := text.flatMap fun c => if isShaped c then shape c else [c]
    (⟨count, ended, isEmpty⟩, (if isNumbered then aligned 6 count ++ ['\t'] else []) ++ shapes ++ ending)

def showText (given : Given) (numbering : Numbering) (text : Chars) : Numbering × Chars :=
  let (numbering, lines) := (fullLines text).foldl (fun (numbering, lines) line =>
    let (numbering, line) := showLine given numbering line
    (numbering, line :: lines)) (numbering, [])
  (numbering, lines.reverse.flatten)

/-- Prints files, or the input, one after the other. -/
def cat : Utility :=
  let names := [("number-nonblank", 'b'), ("number", 'n'), ("squeeze-blank", 's'), ("show-nonprinting", 'v'),
    ("show-ends", 'E'), ("show-tabs", 'T'), ("show-all", 'A')]
  withOptions ⟨"benstuvAET", "", names, "", true⟩ 1 fun given session =>
    let given := showingOptions given
    let step (state : Numbering × Session) (operand : Chars) : Numbering × Session :=
      let (numbering, session) := state
      match content operand session with
      | (.ok text, after) =>
        if isOutput session operand && !text.isEmpty then
          (numbering, fail (shown operand ++ ": input file is output file") session)
        else if given.flags.isEmpty then (numbering, print text after)
        else
          let (numbering, text) := showText given numbering text
          (numbering, print text after)
      | (.error cause, session) => (numbering, failAt operand cause session)
    if (session.descriptors.lookup 1).isNone then fail "standard output: Bad file descriptor" session
    else ((inputs given.operands).foldl step ({}, session)).2

/-- The words of a text: what stands between blanks and has a shape. -/
def words (text : Chars) : Nat :=
  ((text.splitOnP Char.isWhitespace).filter fun word => word.any isPrintable).length

/-- How many columns the widest line of a text takes. -/
def widest (text : Chars) : Nat :=
  let (greatest, column) := text.foldl (fun (greatest, column) c =>
    if c == '\n' || c == '\x0d' || c == '\x0c' then (max greatest column, 0)
    else if c == '\t' then (greatest, column + (8 - column % 8))
    else (greatest, if isPrintable c then column + 1 else column)) (0, 0)
  max greatest column

/-- The counts that are asked for: lines, words and octets unless some are chosen. -/
def counts (given : Given) (text : Chars) : List Nat :=
  let all := given.flags.isEmpty
  (if all || given.has 'l' then [text.count '\n'] else []) ++ (if all || given.has 'w' then [words text] else []) ++
    (if given.has 'm' then [text.length] else []) ++ (if all || given.has 'c' then [text.length] else []) ++
    if given.has 'L' then [widest text] else []

/-- How many octets the file of an operand has. Only that of a regular file is known. -/
def sizeOf? (session : Session) (operand : Chars) : Except SystemError (Option Nat) :=
  let size (entry : Files.Entry) : Option Nat :=
    match entry with
    | .file content _ => some content.length
    | _ => none
  if operand = ['-'] then .ok ((fileOf? session 0).bind fun place => (session.files.at? place).bind size)
  else (session.files.find session.here (Chars.toString operand)).map fun found => size found.2

/-- How wide counts are: as wide as the octets of all files, which count more than a few if some are not known. -/
def countWidth (session : Session) (operands : List Chars) : Nat :=
  let sizes := operands.map (sizeOf? session)
  match sizes with
  | .error _ :: _ => 1
  | _ =>
    let known := sizes.filterMap Except.toOption
    let width := (Chars.ofNat ((known.filterMap id).foldl (· + ·) 0)).length
    if known.contains none then max 7 width else width

/-- Counts the lines, words and octets of files or of the input. -/
def wc : Utility :=
  let names := [("bytes", 'c'), ("chars", 'm'), ("lines", 'l'), ("words", 'w'), ("max-line-length", 'L')]
  withOptions ⟨"clLmw", "", names, "", true⟩ 1 fun given session =>
    let operands := inputs given.operands
    let isSingle := (counts given []).length = 1 && operands.length = 1
    let width := if isSingle then 1 else countWidth session operands
    let line (numbers : List Nat) (name : Chars) : Chars :=
      [' '].intercalate (numbers.map (aligned width)) ++ (if name.isEmpty then [] else ' ' :: name) ++ ['\n']
    let none := (counts given []).map fun _ => 0
    let step (state : List Nat × Session) (operand : Chars) : List Nat × Session :=
      let (total, session) := state
      let name := if given.operands.isEmpty then [] else operand
      if operand.isEmpty then (total, fail "invalid zero-length file name" session)
      else
        match content operand session with
        | (.ok text, session) =>
          let numbers := counts given text
          (total.zipWith (· + ·) numbers, print (line numbers name) session)
        | (.error cause, session) =>
          let session := failAt operand cause session
          (total, if cause = Files.Tree.isDirectory then print (line none name) session else session)
    let (total, session) := operands.foldl step (none, session)
    if operands.length ≤ 1 then session else print (line total "total".toList) session

/-- The number that a line begins with, as hundredths of hundredths, cut off there. -/
def leadingNumber (line : Chars) : Int :=
  let text := line.dropWhile fun c => c == ' ' || c == '\t'
  let (negative, text) := if text.head? = some '-' then (true, text.drop 1) else (false, text)
  let whole := text.takeWhile Char.isDigit
  let rest := text.drop whole.length
  let fraction := if rest.head? = some '.' then ((rest.drop 1).takeWhile Char.isDigit).take 4 else []
  let digits := whole ++ fraction ++ List.replicate (4 - fraction.length) '0'
  let n : Int := ((Chars.toNat? digits).getD 0 : Nat)
  if negative then -n else n

/-- Whether a line stands before or with another, in the order that is asked for. -/
def precedes (given : Given) (a b : Chars) : Bool :=
  let texts := if given.has 'f' then (a.map Char.toUpper, b.map Char.toUpper) else (a, b)
  let order :=
    if given.has 'n' then compare (leadingNumber a) (leadingNumber b)
    else compare (String.ofList texts.1) (String.ofList texts.2)
  let order := if order = .eq && !given.has 'u' then compare (String.ofList a) (String.ofList b) else order
  if given.has 'r' then order ≠ .lt else order ≠ .gt

/-- Leaves the first of lines in a row that stand with each other. -/
def distinct (given : Given) : List Chars → List Chars
  | a :: b :: rest =>
    if precedes given a b && precedes given b a then distinct given (a :: rest) else a :: distinct given (b :: rest)
  | lines => lines
  termination_by lines => lines.length

def sort : Utility :=
  let names := [("numeric-sort", 'n'), ("reverse", 'r'), ("unique", 'u'), ("ignore-case", 'f'), ("output", 'o'),
    ("key", 'k'), ("field-separator", 't'), ("stable", 's'), ("check", 'c'), ("merge", 'm')]
  withOptions ⟨"bcCdfghiMmnrRsuVz", "kotST", names, "", true⟩ 2 fun given session =>
    let gather (state : List Chars × Session) (operand : Chars) : List Chars × Session :=
      let (lines, session) := state
      match content operand session with
      | (.ok text, session) => (lines ++ Chars.lines text, session)
      | (.error cause, session) =>
        let action := if cause = Files.Tree.isDirectory then "read failed: " else "cannot read: "
        (lines, (complain (action ++ shown operand ++ ": " ++ cause.cause) session).withStatus 2)
    let (lines, session) := (inputs given.operands).foldl gather ([], session)
    if session.status ≠ 0 then session
    else
      let sorted := lines.mergeSort (precedes given)
      let sorted := if given.has 'u' then distinct given sorted else sorted
      match session.write? 1 (sorted.flatMap (· ++ ['\n'])) with
      | some session => session
      | none =>
        if lines.isEmpty then session
        else
          let session := complain "fflush failed: 'standard output': Bad file descriptor" session
          (complain "write error" session).withStatus 2

def tee : Utility :=
  withOptions ⟨"aip", "", [("append", 'a'), ("ignore-interrupts", 'i'), ("output-error", 'p')], "p", true⟩ 1
    fun given session =>
    let (text, session) := session.readAll 0
    let write (path : Chars) (session : Session) : Session :=
      match session.files.resolve true session.here (Chars.toString path) with
      | .ok (.free place) =>
        session.withFiles (session.files.put place (.file (Chars.toOctets text) false))
      | .ok (.found place (.file old executable)) =>
        let content := (if given.has 'a' then old else []) ++ Chars.toOctets text
        session.withFiles (session.files.put place (.file content executable))
      | .ok (.found _ .directory) => failAt path Files.Tree.isDirectory session
      | .ok _ => session
      | .error cause => failAt path cause session
    let session :=
      match session.write? 1 text with
      | some session => session
      | none => if text.isEmpty then session else fail "'standard output': Bad file descriptor" session
    each write given.operands session

/-- A decimal number: its digits as an integer, and how many of them are behind the point. -/
structure Decimal where
  digits : Int
  places : Nat

namespace Decimal

def read? (text : Chars) : Option Decimal :=
  let (negative, rest) :=
    match text with
    | '-' :: rest => (true, rest)
    | '+' :: rest => (false, rest)
    | rest => (false, rest)
  let whole := rest.takeWhile Char.isDigit
  let fraction := (rest.drop (whole.length + 1)).takeWhile Char.isDigit
  let point := if rest.length = whole.length then [] else ['.']
  if rest ≠ whole ++ point ++ fraction then none
  else
    (Chars.toNat? (whole ++ fraction)).map fun n => ⟨if negative then -(n : Int) else n, fraction.length⟩

/-- The digits of a number with so many places behind the point. -/
def scaled (number : Decimal) (places : Nat) : Int :=
  number.digits * (Nat.pow 10 (places - number.places) : Nat)

/-- A number in so many places behind the point, filled up to a width with zeros. -/
def shown (places width : Nat) (n : Int) : Chars :=
  let digits := Chars.ofNat n.natAbs
  let digits := List.replicate (places + 1 - digits.length) '0' ++ digits
  let whole := digits.take (digits.length - places)
  let text := if places = 0 then whole else whole ++ '.' :: digits.drop (digits.length - places)
  let sign := if n < 0 then ['-'] else []
  sign ++ List.replicate (width - sign.length - text.length) '0' ++ text

end Decimal

/-- Whether an argument is a number with a minus, not an option. -/
def isNegative (text : Chars) : Bool :=
  text.head? = some '-' && (text.drop 1).head?.any fun c => c.isDigit || c == '.'

/-- Arguments in which a number with a minus ends the options before it; `isValue` tells whether the first one is the
value of an option. -/
def withNegatives : Bool → List Chars → List Chars
  | _, [] => []
  | true, value :: rest => value :: withNegatives false rest
  | false, text :: rest =>
    if isNegative text then ['-', '-'] :: text :: rest
    else if text.head? ≠ some '-' then text :: rest
    else text :: withNegatives (text = ['-', 's'] || text = ['-', 'f']) rest

/-- The numbers from a first one to a last one in equal steps, each with the places behind the point that the first one
or the step has. -/
def progression (first step last : Decimal) : Nat × List Int :=
  let places := max first.places step.places
  let exact := max places last.places
  let (low, distance, high) := (first.scaled exact, step.scaled exact, last.scaled exact)
  let count := if distance = 0 then 0 else ((high - low) / distance + 1).toNat
  (places, (List.range count).map fun (n : Nat) => (low + distance * n) / (Nat.pow 10 (exact - places) : Nat))

def seq : Utility := fun arguments session =>
  let names := [("separator", 's'), ("equal-width", 'w'), ("format", 'f')]
  withOptions ⟨"w", "fs", names, "", false⟩ 1 (fun given session =>
    let operands := given.operands
    let show_ (first step last : Decimal) : Session :=
      let (places, numbers) := progression first step last
      let widths := numbers.map fun n => (Decimal.shown places 0 n).length
      let width := if given.has 'w' then max (widths.headD 0) (widths.getLastD 0) else 0
      let separator := (given.value? 's').getD ['\n']
      if numbers.isEmpty then session
      else print (separator.intercalate (numbers.map (Decimal.shown places width)) ++ ['\n']) session
    match operands.find? fun text => (Decimal.read? text).isNone with
    | some text => misuse ("invalid floating point argument: " ++ cited text) session
    | none =>
      match operands.filterMap Decimal.read? with
      | [] => misuse "missing operand" session
      | [last] => show_ ⟨1, 0⟩ ⟨1, 0⟩ last
      | [first, last] => show_ first ⟨1, 0⟩ last
      | [first, step, last] =>
        if step.digits = 0 then
          misuse ("invalid Zero increment value: " ++ cited ((operands.drop 1).headD [])) session
        else show_ first step last
      | _ => misuse ("extra operand " ++ cited ((operands.drop 3).headD [])) session)
    (withNegatives false arguments) session

def lastStep (path : Chars) : Chars :=
  let trimmed := (path.reverse.dropWhile (· == '/')).reverse
  if trimmed.isEmpty then path.take 1 else (trimmed.reverse.takeWhile (· ≠ '/')).reverse

def withoutLastStep (path : Chars) : Chars :=
  let trimmed := (path.reverse.dropWhile (· == '/')).reverse
  let parent := trimmed.reverse.dropWhile (· ≠ '/')
  if parent.isEmpty then (if path.head? = some '/' then ['/'] else ['.'])
  else
    let parent := (parent.dropWhile (· == '/')).reverse
    if parent.isEmpty then ['/'] else parent

/-- A name without an ending, unless that is all of it. -/
def withoutEnding (ending name : Chars) : Chars :=
  if ending.isSuffixOf name && ending ≠ name then name.take (name.length - ending.length) else name

/-- Prints the last step of a path, without an ending if one is given. -/
def basename : Utility :=
  withOptions ⟨"az", "s", [("multiple", 'a'), ("suffix", 's'), ("zero", 'z')], "", false⟩ 1 fun given session =>
    let ending := if given.has 'z' then ['\x00'] else ['\n']
    let line (suffix path : Chars) : Chars := withoutEnding suffix (lastStep path) ++ ending
    if given.operands.isEmpty then misuse "missing operand" session
    else if given.has 'a' || given.has 's' then
      print (given.operands.flatMap (line ((given.value? 's').getD []))) session
    else
      match given.operands with
      | [path] => print (line [] path) session
      | [path, suffix] => print (line suffix path) session
      | operands => misuse ("extra operand " ++ cited ((operands.drop 2).headD [])) session

def dirname : Utility :=
  withOptions ⟨"z", "", [("zero", 'z')], "", true⟩ 1 fun given session =>
    let ending := if given.has 'z' then ['\x00'] else ['\n']
    if given.operands.isEmpty then misuse "missing operand" session
    else print (given.operands.flatMap fun path => withoutLastStep path ++ ending) session

/-- How many millionths of a second a unit of time has, by its letter. -/
def units : List (Char × Nat) :=
  [('s', 1000000), ('m', 60000000), ('h', 3600000000), ('d', 86400000000)]

/-- The millionths of a second that a text writes, a decimal number with a unit or in seconds. -/
def duration? (text : Chars) : Option Nat :=
  let whole := text.takeWhile Char.isDigit
  let rest := text.drop whole.length
  let fraction := if rest.head? = some '.' then (rest.drop 1).takeWhile Char.isDigit else []
  let rest := if rest.head? = some '.' then rest.drop (fraction.length + 1) else rest
  let unit :=
    match rest with
    | [] => some 1000000
    | [letter] => units.lookup letter
    | _ => none
  if whole.isEmpty && fraction.isEmpty then none
  else
    unit.map fun unit =>
      ((Chars.toNat? (whole ++ fraction)).getD 0) * unit / Nat.pow 10 fraction.length

def sleep : Utility :=
  withOptions {} 1 fun given session =>
    let wrong := given.operands.filter fun text => (duration? text).isNone
    if given.operands.isEmpty then misuse "missing operand" session
    else if !wrong.isEmpty then
      pointToHelp 1 (each (fun text => complain ("invalid time interval " ++ cited text)) wrong session)
    else
      let time := (given.operands.filterMap duration?).foldl (· + ·) session.world.clock
      { session with world := session.world.wait time }

/-- Whether an argument gives options for printing arguments. -/
def isEchoOption (text : Chars) : Bool :=
  text.head? = some '-' && 1 < text.length && (text.drop 1).all fun c => c == 'n' || c == 'e' || c == 'E'

/-- Prints its arguments. Escapes have a meaning only if asked for. -/
def echo : Utility := fun arguments session =>
  let letters := (arguments.takeWhile isEchoOption).flatten
  let words := arguments.dropWhile isEchoOption
  let line := [' '].intercalate words
  let escapes := (letters.reverse.find? fun c => c == 'e' || c == 'E') = some 'e'
  let (text, ended) := if escapes then Format.unescape line else (line, false)
  let ending := if ended || letters.contains 'n' then [] else ['\n']
  withOptions {} 1 (fun _ => print (text ++ ending)) [] session

end Relink.Shell.Utility
