import Relink.Shell.Format.Real
import Relink.Word

namespace Relink.Shell.Format

def octal? (c : Char) : Option Nat :=
  Text.digit? 8 c

/-- The number of at most some octal digits, and what follows. -/
def octals (count : Nat) (cs : Chars) : Nat × Chars :=
  let run := (cs.take count).takeWhile fun c => (octal? c).isSome
  (run.foldl (fun n c => n * 8 + (octal? c).getD 0) 0, cs.drop run.length)

/-- The character of an octet, which larger numbers run over. -/
def octet (n : Nat) : Char :=
  Char.ofNat (n % 256)

/-- What follows a backslash stands for a character; one that stands for none keeps its backslash. -/
def escape : Chars → Char × Chars
  | [] => ('\\', [])
  | c :: rest =>
    if (octal? c).isSome then
      let (n, after) := octals 3 (c :: rest)
      (octet n, after)
    else
      match c with
      | '\\' => ('\\', rest)
      | 'a' => ('\x07', rest)
      | 'b' => ('\x08', rest)
      | 'e' => ('\x1b', rest)
      | 'f' => ('\x0c', rest)
      | 'n' => ('\n', rest)
      | 'r' => ('\x0d', rest)
      | 't' => ('\t', rest)
      | 'v' => ('\x0b', rest)
      | c => ('\\', c :: rest)

/-- Replaces the escapes of a text; one of them ends all output. Octal digits may follow a zero. -/
def escapes : Nat → Chars → Chars × Bool
  | 0, _ => ([], false)
  | _ + 1, [] => ([], false)
  | fuel + 1, cs =>
    let before := cs.takeWhile (· ≠ '\\')
    match cs.drop before.length with
    | [] => (before, false)
    | _ :: 'c' :: _ => (before, true)
    | _ :: '0' :: digits =>
      let (n, after) := octals 3 digits
      let (text, ended) := escapes fuel after
      (before ++ octet n :: text, ended)
    | _ :: rest =>
      let (c, after) := escape rest
      let (text, ended) := escapes fuel after
      (before ++ c :: text, ended)

def unescape (cs : Chars) : Chars × Bool :=
  escapes (cs.length + 1) cs

/-- The words of an echo, with escapes replaced, and whether a line's end follows them. -/
def echo (arguments : List Chars) : Chars :=
  let (newline, words) :=
    match arguments with
    | ['-', 'n'] :: rest => (false, rest)
    | words => (true, words)
  let (text, ended) := unescape ([' '].intercalate words)
  if newline && !ended then text ++ ['\n'] else text

/-- How a value is set into a format. -/
structure Directive where
  leftAligned : Bool := false
  signed : Bool := false
  spaced : Bool := false
  marked : Bool := false
  zeroFilled : Bool := false
  width : Nat := 0
  precision : Option Nat := none

/-- Whether more characters are asked for than can be printed. -/
def Directive.isTooLarge (directive : Directive) : Bool :=
  Word.greatest 32 < directive.width || directive.precision.any fun size => Word.greatest 32 < size

/-- Fills a text up to the width with blanks. -/
def Directive.fill (directive : Directive) (text : Chars) : Chars :=
  let blanks := List.replicate (directive.width - text.length) ' '
  if directive.leftAligned then text ++ blanks else blanks ++ text

/-- Sets a text, of which the precision limits the size. -/
def Directive.text (directive : Directive) (value : Chars) : Chars :=
  directive.fill (match directive.precision with
    | some size => value.take size
    | none => value)

/-- Sets the digits of a number after its sign or mark. -/
def Directive.digits (directive : Directive) (mark digits : Chars) : Chars :=
  let size := directive.precision.getD 1
  let digits := if directive.precision = some 0 && digits = ['0'] then [] else digits
  let digits := List.replicate (size - digits.length) '0' ++ digits
  if directive.zeroFilled && !directive.leftAligned && directive.precision.isNone then
    mark ++ List.replicate (directive.width - mark.length - digits.length) '0' ++ digits
  else directive.fill (mark ++ digits)

/-- Sets an integer with its sign. -/
def Directive.integer (directive : Directive) (value : Int) : Chars :=
  let mark := if value < 0 then ['-'] else if directive.signed then ['+'] else if directive.spaced then [' '] else []
  directive.digits mark (Chars.ofNat value.natAbs)

/-- Sets an integer as a natural number of 64 bits. An octal number is marked by a zero among its digits, others by
what stands before their digits. -/
def Directive.natural (directive : Directive) (radix : Nat) (capital : Bool) (value : Int) : Chars :=
  let n := (value % (Word.size 64 : Int)).toNat
  let digits := Nat.toDigits radix n
  let digits := if capital then digits.map Char.toUpper else digits
  if directive.marked && radix = 8 then
    let digits := if n = 0 then digits else '0' :: digits
    { directive with precision := directive.precision.map (max 1) }.digits [] digits
  else
    let mark := if !directive.marked || radix ≠ 16 || n = 0 then [] else if capital then ['0', 'X'] else ['0', 'x']
    directive.digits mark digits

/-- Sets a number with a fraction in the notation of a letter. -/
def Directive.real (directive : Directive) (letter : Char) (negative : Bool) (value : Binary64) : Chars :=
  let mark := if negative then ['-'] else if directive.signed then ['+'] else if directive.spaced then [' '] else []
  let capital (cs : Chars) : Chars := if letter.isUpper then cs.map Char.toUpper else cs
  let places := directive.precision.getD 6
  match value with
  | .nan => directive.fill (capital (mark ++ "nan".toList))
  | .infinite _ => directive.fill (capital (mark ++ "inf".toList))
  | .finite _ significand exponent =>
    let text :=
      match letter.toLower with
      | 'e' => Binary64.scientificNotation significand exponent places directive.marked
      | 'g' => Binary64.generalNotation significand exponent places directive.marked
      | 'a' => Binary64.hexadecimalNotation significand exponent directive.precision directive.marked
      | _ => Binary64.fixedNotation significand exponent places directive.marked
    let (mark, text) := if letter.toLower = 'a' then (mark ++ text.take 2, text.drop 2) else (mark, text)
    if directive.zeroFilled && !directive.leftAligned then
      capital (mark ++ List.replicate (directive.width - mark.length - text.length) '0' ++ text)
    else directive.fill (capital (mark ++ text))

/-- What is wrong with a format or a value. -/
inductive Problem where
  | notNumeric (value : Chars)
  | notComplete (value : Chars)
  | outOfRange (value : Chars)
  | directive (text : Chars)
  | noCharacter
  | tooLarge
  | usage
  deriving DecidableEq

def Problem.message : Problem → Chars
  | notNumeric value => value ++ ": expected numeric value".toList
  | notComplete value => value ++ ": not completely converted".toList
  | outOfRange value => value ++ ": Numerical result out of range".toList
  | directive text => text ++ ": invalid directive".toList
  | noCharacter => "missing format character".toList
  | tooLarge => "xvsnprintf failed".toList
  | usage => "usage: printf format [arg ...]".toList

/-- Whether nothing more is printed after a problem. -/
def Problem.isFinal : Problem → Bool
  | directive _ | noCharacter | tooLarge | usage => true
  | notNumeric _ | notComplete _ | outOfRange _ => false

/-- The digits of a number in its notation: hexadecimal, octal or decimal. -/
def magnitude (cs : Chars) : Option (Nat × Chars) :=
  let run (radix : Nat) (cs : Chars) : Nat × Chars :=
    ((cs.takeWhile fun c => (Text.digit? radix c).isSome).foldl
        (fun n c => n * radix + (Text.digit? radix c).getD 0) 0,
      cs.dropWhile fun c => (Text.digit? radix c).isSome)
  match cs with
  | '0' :: x :: d :: rest =>
    if (x == 'x' || x == 'X') && (Text.digit? 16 d).isSome then some (run 16 (d :: rest)) else some (run 8 cs)
  | '0' :: _ => some (run 8 cs)
  | c :: _ => if c.isDigit then some (run 10 cs) else none
  | [] => none

/-- What is wrong with a text that a number has been read from, given what follows the number. -/
def complaint (value rest : Chars) (outOfRange : Bool) : Option Problem :=
  if !rest.isEmpty then some (.notComplete value)
  else if outOfRange then some (.outOfRange value)
  else none

def quotedCharacter (rest : Chars) : Nat :=
  (rest.head?.map Char.toNat).getD 0

/-- The integer that a text begins with, the nearest that 64 bits hold with a sign or without, and what is wrong
with the text. A quote stands before a character whose number is meant. -/
def integer (signed : Bool) (value : Chars) : Int × Option Problem :=
  match value with
  | [] => (0, none)
  | '\'' :: rest | '"' :: rest => (quotedCharacter rest, none)
  | _ =>
    let cs := value.dropWhile Char.isWhitespace
    let (negative, cs) :=
      match cs with
      | '-' :: rest => (true, rest)
      | '+' :: rest => (false, rest)
      | cs => (false, cs)
    match magnitude cs with
    | none => (0, some (.notNumeric value))
    | some (n, after) =>
      let exact : Int := if negative then -n else n
      if signed then
        let nearest := Word.clamp (Word.least 64) (Word.greatest 64) exact
        (nearest, complaint value after (nearest ≠ exact))
      else if n < Word.size 64 then (exact, complaint value after false)
      else ((Word.size 64 : Int) - 1, complaint value after true)

/-- The number with a fraction that a text begins with, whether a minus stands before it, and what is wrong with
the text. -/
def real (value : Chars) : Bool × Binary64 × Option Problem :=
  let zero := Binary64.finite false 0 Binary64.leastExponent
  match value with
  | [] => (false, zero, none)
  | '\'' :: rest | '"' :: rest => (false, .ofDecimal false (quotedCharacter rest) 0, none)
  | _ =>
    match Real.read? value with
    | none => (false, zero, some (.notNumeric value))
    | some (negative, real) => (negative, real.value, complaint value real.rest real.outOfRange)

/-- Output under way: the arguments left, what has been printed, latest first, and the problems met. -/
structure Progress where
  arguments : List Chars
  printed : List Chars := []
  problems : List Problem := []
  taken : Bool := false
  ended : Bool := false

namespace Progress

def print (progress : Progress) (text : Chars) : Progress :=
  { progress with printed := text :: progress.printed }

def note (progress : Progress) (problem : Option Problem) : Progress :=
  { progress with problems := progress.problems ++ problem.toList }

def abandon (progress : Progress) (problem : Problem) : Progress :=
  { progress.note (some problem) with ended := true }

/-- Takes the next argument; nothing stands for one that lacks. -/
def next (progress : Progress) : Chars × Progress :=
  match progress.arguments with
  | [] => ([], { progress with taken := true })
  | value :: rest => (value, { progress with arguments := rest, taken := true })

/-- Takes the next argument as an integer, with a sign or without. -/
def nextInteger (signed : Bool) (progress : Progress) : Int × Progress :=
  let (value, progress) := progress.next
  let (n, problem) := integer signed value
  (n, progress.note problem)

end Progress

def flags (directive : Directive) : Chars → Directive × Chars
  | '-' :: rest => flags { directive with leftAligned := true } rest
  | '+' :: rest => flags { directive with signed := true } rest
  | ' ' :: rest => flags { directive with spaced := true } rest
  | '#' :: rest => flags { directive with marked := true } rest
  | '0' :: rest => flags { directive with zeroFilled := true } rest
  | rest => (directive, rest)

/-- Reads a size, which an argument may give as an integer of 32 bits. -/
def size (progress : Progress) : Chars → Int × Chars × Progress
  | '*' :: rest =>
    let (n, progress) := progress.nextInteger true
    (Word.wrap 32 n, rest, progress)
  | cs =>
    let run := cs.takeWhile Char.isDigit
    (((Chars.toNat? run).getD 0 : Nat), cs.dropWhile Char.isDigit, progress)

/-- Reads the width and the precision of a directive. -/
def sizes (directive : Directive) (progress : Progress) (cs : Chars) : Directive × Chars × Progress :=
  let (width, rest, progress) := size progress cs
  let directive :=
    { directive with width := width.natAbs, leftAligned := directive.leftAligned || width < 0 }
  match rest with
  | '.' :: rest =>
    let (precision, rest, progress) := size progress rest
    ({ directive with precision := if precision < 0 then none else some precision.toNat }, rest, progress)
  | rest => (directive, rest, progress)

/-- Prints a text by a directive, unless its sizes are too large. -/
def Progress.set (progress : Progress) (directive : Directive) (text : Directive → Chars) : Progress :=
  if directive.isTooLarge then progress.abandon .tooLarge else progress.print (text directive)

/-- Sets the next argument by a directive. -/
def directive (format : Chars) (progress : Progress) : Chars × Progress :=
  let (directive, rest) := flags {} format
  let (directive, rest, progress) := sizes directive progress rest
  let set (signed : Bool) (text : Directive → Int → Chars) (after : Chars) : Chars × Progress :=
    let (n, progress) := progress.nextInteger signed
    (after, progress.set directive fun directive => text directive n)
  match rest with
  | [] => ([], progress.abandon .noCharacter)
  | c :: after =>
    match c with
    | 's' =>
      let (value, progress) := progress.next
      (after, progress.set directive fun directive => directive.text value)
    | 'b' =>
      let (value, progress) := progress.next
      let (text, ended) := unescape value
      let progress := progress.set directive fun directive => directive.text text
      (after, { progress with ended := progress.ended || ended })
    | 'c' =>
      let (value, progress) := progress.next
      let text := if value.isEmpty then ['\x00'] else value.take 1
      (after, progress.set directive fun directive => { directive with precision := none }.text text)
    | 'd' | 'i' => set true Directive.integer after
    | 'u' => set false (fun directive => directive.natural 10 false) after
    | 'o' => set false (fun directive => directive.natural 8 false) after
    | 'x' => set false (fun directive => directive.natural 16 false) after
    | 'X' => set false (fun directive => directive.natural 16 true) after
    | 'a' | 'A' | 'e' | 'E' | 'f' | 'F' | 'g' | 'G' =>
      let (value, progress) := progress.next
      let (negative, value, problem) := real value
      (after, (progress.note problem).set directive fun directive => directive.real c negative value)
    | _ => (after, progress.abandon (.directive ('%' :: format.take (format.length - after.length))))

def once : Nat → Chars → Progress → Progress
  | 0, _, progress => progress
  | _ + 1, [], progress => progress
  | fuel + 1, c :: rest, progress =>
    if progress.ended then progress
    else if c == '\\' then
      let (d, after) := escape rest
      once fuel after (progress.print [d])
    else if c == '%' then
      match rest with
      | '%' :: after => once fuel after (progress.print ['%'])
      | rest =>
        let (after, progress) := directive rest progress
        once fuel after progress
    else
      let run := rest.takeWhile fun c => c ≠ '\\' && c ≠ '%'
      once fuel (rest.drop run.length) (progress.print (c :: run))

/-- Prints a format again and again until no arguments are left. -/
def repeated (format : Chars) : Nat → Progress → Progress
  | 0, progress => progress
  | fuel + 1, progress =>
    let progress := once (format.length + 1) format { progress with taken := false }
    if progress.ended || progress.arguments.isEmpty || !progress.taken then progress
    else repeated format fuel progress

/-- What a format and its arguments print, and the problems met. -/
def printed (format : Chars) (arguments : List Chars) : Chars × List Problem :=
  let progress := repeated format (arguments.length + 1) ⟨arguments, [], [], false, false⟩
  (progress.printed.reverse.flatten, progress.problems)

end Relink.Shell.Format
