import Relink.Shell.Utility.Basic

namespace Relink.Shell.Utility

def range (low high : Char) : Chars :=
  (List.range (high.toNat + 1 - low.toNat)).map fun n => Char.ofNat (low.toNat + n)

def allCharacters : Chars :=
  range '\x00' '\xff'

def class? (name : Chars) : Option Chars :=
  match String.ofList name with
  | "digit" => some (range '0' '9')
  | "lower" => some (range 'a' 'z')
  | "upper" => some (range 'A' 'Z')
  | "alpha" => some (range 'A' 'Z' ++ range 'a' 'z')
  | "alnum" => some (range '0' '9' ++ range 'A' 'Z' ++ range 'a' 'z')
  | "xdigit" => some (range '0' '9' ++ range 'A' 'F' ++ range 'a' 'f')
  | "space" => some (range '\t' '\x0d' ++ [' '])
  | "blank" => some ['\t', ' ']
  | "punct" => some (range '!' '/' ++ range ':' '@' ++ range '[' '\x60' ++ range '\x7b' '~')
  | "cntrl" => some (range '\x00' '\x1f' ++ ['\x7f'])
  | "graph" => some (range '!' '~')
  | "print" => some (range ' ' '~')
  | _ => none

/-- A part of a set of characters: some of them, a class, or one as often as it takes to have as many as another set
has. -/
inductive SetPart where
  | run (cs : Chars)
  | class_ (name cs : Chars)
  | filling (c : Char)

/-- The characters of a set as they are written, each with whether a backslash takes its meaning. At the end a backslash
stands for itself. -/
def unescaped : Nat → Chars → List (Char × Bool)
  | 0, _ => []
  | _ + 1, [] => []
  | _ + 1, ['\\'] => [('\\', false)]
  | fuel + 1, '\\' :: c :: rest =>
    let isOctal (c : Char) : Bool := '0' ≤ c && c ≤ '7'
    let digits := ((c :: rest).take 3).takeWhile isOctal
    let number (digits : Chars) : Nat := digits.foldl (fun n c => n * 8 + (c.toNat - '0'.toNat)) 0
    let digits := if number digits < 256 then digits else digits.dropLast
    if !digits.isEmpty then
      (Char.ofNat (number digits), true) :: unescaped fuel ((c :: rest).drop digits.length)
    else
      let meant := (escapeLetters.find? fun entry => entry.2 == c).map Prod.fst
      (meant.getD c, true) :: unescaped fuel rest
  | fuel + 1, c :: rest => (c, false) :: unescaped fuel rest

/-- Splits the name between two marks from what follows a closing bracket after the second one. -/
def delimited? (mark : Char) (text : List (Char × Bool)) : Option (Chars × List (Char × Bool)) :=
  let ends (n : Nat) : Bool := (text.drop n).take 2 = [(mark, false), (']', false)]
  ((List.range text.length).find? ends).map fun n => ((text.take n).map Prod.fst, text.drop (n + 2))

/-- Reads how often a character is repeated, up to a closing bracket. -/
def repetition? (text : List (Char × Bool)) : Option (Chars × List (Char × Bool)) :=
  let digits := text.takeWhile fun entry => entry.1.isDigit && !entry.2
  match text.drop digits.length with
  | (']', false) :: after => some (digits.map Prod.fst, after)
  | _ => none

/-- The number that some digits write, octal ones after a zero. -/
def repetitions (digits : Chars) : Nat :=
  let radix := if digits.head? = some '0' then 8 else 10
  digits.foldl (fun n c => n * radix + (c.toNat - '0'.toNat)) 0

def setParts : Nat → List (Char × Bool) → Except String (List SetPart)
  | 0, _ => .ok []
  | _ + 1, [] => .ok []
  | fuel + 1, (c, escaped) :: rest =>
    let plain : Except String (List SetPart) :=
      match rest with
      | ('-', false) :: (last, _) :: after =>
        if last < c then
          .error ("range-endpoints of '" ++ Chars.toString [c, '-', last] ++
            "' are in reverse collating sequence order")
        else (setParts fuel after).map (.run (range c last) :: ·)
      | _ => (setParts fuel rest).map (.run [c] :: ·)
    if c ≠ '[' || escaped then plain
    else
      match rest with
      | (':', false) :: after =>
        match delimited? ':' after with
        | some (name, after) =>
          match class? name with
          | some cs => (setParts fuel after).map (.class_ name cs :: ·)
          | none => .error ("invalid character class " ++ cited name)
        | none => plain
      | ('=', false) :: after =>
        match delimited? '=' after with
        | some ([c], after) => (setParts fuel after).map (.run [c] :: ·)
        | some (name, _) =>
          .error (Chars.toString name ++ ": equivalence class operand must be a single character")
        | none => plain
      | (repeated, _) :: ('*', false) :: after =>
        match repetition? after with
        | some (digits, after) =>
          let count := repetitions digits
          let part : SetPart := if count = 0 then .filling repeated else .run (List.replicate count repeated)
          (setParts fuel after).map (part :: ·)
        | none => plain
      | _ => plain

def readSet (text : Chars) : Except String (List SetPart) :=
  setParts (text.length + 1) (unescaped (text.length + 1) text)

/-- The characters of a set that should have so many. -/
def members (size : Nat) (parts : List SetPart) : Chars :=
  let fixed := parts.foldl (fun count part =>
    match part with
    | .run cs | .class_ _ cs => count + cs.length
    | .filling _ => count) 0
  parts.flatMap fun part =>
    match part with
    | .run cs | .class_ _ cs => cs
    | .filling c => List.replicate (size - fixed) c

/-- The classes of letters by their case in a set, each with how many characters come before. -/
def caseClasses (size : Nat) : List SetPart → List Nat
  | [] => []
  | .class_ name cs :: rest =>
    let isCase := name = "lower".toList || name = "upper".toList
    (if isCase then [size] else []) ++ caseClasses (size + cs.length) rest
  | .run cs :: rest => caseClasses (size + cs.length) rest
  | .filling _ :: rest => caseClasses size rest

/-- Whether a set has a class that is not one of letters by their case. -/
def hasOtherClass (parts : List SetPart) : Bool :=
  parts.any fun part =>
    match part with
    | .class_ name _ => name ≠ "lower".toList && name ≠ "upper".toList
    | _ => false

/-- Leaves one of each run of equal characters of a set. -/
def squeezed (set : Chars) : Chars → Chars
  | a :: b :: rest =>
    if a == b && set.contains a then squeezed set (b :: rest) else a :: squeezed set (b :: rest)
  | cs => cs

/-- The character that stands at the place of another in a list of pairs; the last one of them counts. -/
def exchanged (pairs : List (Char × Char)) (c : Char) : Char :=
  (pairs.reverse.lookup c).getD c

/-- The pairs of characters in which the first is replaced by the second, given how both sets are written. -/
def exchanges (given : Given) (complement : Bool) (first : Chars) (firstParts secondParts : List SetPart) :
    Except String (List (Char × Char)) := do
  let second := members first.length secondParts
  if hasOtherClass secondParts then
    throw "when translating, the only character classes that may appear in\nstring2 are 'upper' and 'lower'"
  let aligned := if complement then [] else caseClasses 0 firstParts
  if (caseClasses 0 secondParts).any fun place => !aligned.contains place then
    throw "misaligned [:upper:] and/or [:lower:] construct"
  if given.has 't' then return first.zip second
  match second.getLast? with
  | none => throw "when not truncating set1, string2 must be non-empty"
  | some last => return first.zip (second ++ List.replicate (first.length - second.length) last)

/-- What is to be done with the characters of the input. -/
def change (given : Given) (first : Chars) (second? : Option Chars) : Except String (Chars → Chars) := do
  let complement := given.has 'c'
  let parts ← readSet first
  let set := members 0 parts
  let set := if complement then allCharacters.filter fun c => !set.contains c else set
  let removed (text : Chars) : Chars := text.filter fun c => !set.contains c
  match second? with
  | none => return if given.has 'd' then removed else squeezed set
  | some second =>
    let secondParts ← readSet second
    if given.has 'd' then return fun text => squeezed (members 0 secondParts) (removed text)
    else
      let pairs ← exchanges given complement set parts secondParts
      let replaced (text : Chars) : Chars := text.map (exchanged pairs)
      if given.has 's' then
        return fun text => squeezed (members set.length secondParts) (replaced text)
      else return replaced

/-- Replaces, removes or squeezes characters of the input. -/
def tr : Utility :=
  let names := [("complement", 'c'), ("delete", 'd'), ("squeeze-repeats", 's'), ("truncate-set1", 't')]
  withOptions ⟨"cCdst", "", names, "", false⟩ 1 fun given session =>
    let given := if given.has 'C' then given.withFlag 'c' [] else given
    let least := if given.has 'd' == given.has 's' then 2 else 1
    let greatest := if given.has 'd' && !given.has 's' then 1 else 2
    let reason :=
      if given.has 'd' then "Two strings must be given when both deleting and squeezing repeats."
      else "Two strings must be given when translating."
    let excess := "Only one string may be given when deleting without squeezing repeats."
    match given.operands with
    | [] => misuse "missing operand" session
    | first :: more =>
      match more.drop (greatest - 1) with
      | extra :: _ =>
        let problem := "extra operand " ++ cited extra
        misuse (if greatest = 1 && more.length = 1 then problem ++ "\n" ++ excess else problem) session
      | [] =>
        if more.length + 1 < least then misuse ("missing operand after " ++ cited first ++ "\n" ++ reason) session
        else
          let warned := given.operands.filter fun (text : Chars) =>
            (text.reverse.takeWhile (· == '\\')).length % 2 = 1
          let session := each (fun _ session =>
            complain "warning: an unescaped backslash at end of string is not portable" session) warned session
          match change given first more.head? with
          | .error problem => fail problem session
          | .ok change =>
            let (text, session) := session.readAll 0
            print (change text) session

end Relink.Shell.Utility
