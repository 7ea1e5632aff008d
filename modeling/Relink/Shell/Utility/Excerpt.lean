import Relink.Shell.Utility.Basic

namespace Relink.Shell.Utility

/-- A part of a text: how many lines or octets, and whether they are counted the other way round. At the beginning this
means all but so many at the end, at the end all from that one on. -/
structure Amount where
  count : Nat := 10
  ofOctets : Bool := false
  inverse : Bool := false

namespace Amount

/-- What the letters after a number multiply it by. -/
def factor? (suffix : Chars) : Option Nat :=
  let power? (c : Char) : Option Nat :=
    match c with
    | 'k' | 'K' => some 1
    | 'm' | 'M' => some 2
    | 'G' => some 3
    | 'T' => some 4
    | _ => none
  match suffix with
  | [] => some 1
  | ['b'] => some 512
  | [c] | [c, 'i', 'B'] => (power? c).map (Nat.pow 1024)
  | [c, 'B'] => (power? c).map (Nat.pow 1000)
  | _ => none

/-- Reads a number, which letters may multiply. -/
def number? (text : Chars) : Option Nat :=
  let digits := text.takeWhile Char.isDigit
  match Chars.toNat? digits, factor? (text.drop digits.length) with
  | some n, some factor => some (n * factor)
  | _, _ => none

/-- Reads the value of an option; the sign before it tells whether the amount counts the other way round. -/
def read (ofOctets : Bool) (inverseSign : Char) (text : Chars) : Except String Amount :=
  let sign := text.head?.filter fun c => c == '-' || c == '+'
  match number? (if sign.isSome then text.drop 1 else text) with
  | some n => .ok ⟨n, ofOctets, sign = some inverseSign⟩
  | none =>
    .error ("invalid number of " ++ (if ofOctets then "bytes" else "lines") ++ ": " ++
      cited (if sign = some '-' then text.drop 1 else text))

def beginning (amount : Amount) (text : Chars) : Chars :=
  let take {α : Type} (list : List α) : List α :=
    list.take (if amount.inverse then list.length - amount.count else amount.count)
  if amount.ofOctets then take text else (take (fullLines text)).flatten

def ending (amount : Amount) (text : Chars) : Chars :=
  let drop {α : Type} (list : List α) : List α :=
    list.drop (if amount.inverse then amount.count - 1 else list.length - amount.count)
  if amount.ofOctets then drop text else (drop (fullLines text)).flatten

end Amount

def excerptOptions (more : String) : Options where
  letters := "qvz" ++ more
  valued := "cn"
  names := [("bytes", 'c'), ("lines", 'n'), ("quiet", 'q'), ("silent", 'q'), ("verbose", 'v'),
    ("zero-terminated", 'z')]

/-- The amount that options ask for, given the sign of the other way round. -/
def amountOf (inverseSign : Char) (given : Given) : Except String Amount :=
  given.flags.foldlM (fun amount (letter, value) =>
    if letter == 'n' || letter == 'c' then Amount.read (letter == 'c') inverseSign value else .ok amount) {}

/-- How much of the input is taken if its beginning is printed: of a pipe whole blocks of lines, unless octets are
counted. -/
def takenOf (session : Session) (amount : Amount) (printed whole : Nat) : Nat :=
  let block := 8192
  if amount.inverse then whole
  else if amount.ofOctets || (fileOf? session 0).isSome then printed
  else min whole ((printed + block - 1) / block * block)

/-- Prints parts of files or of the input, each below its name if there are several. -/
def excerpt (given : Given) (amount : Amount) (part : Chars → Chars) (takesAll : Bool) (session : Session) :
    Session :=
  let operands := inputs given.operands
  let titled := match given.last? ['q', 'v'] with
    | some letter => letter == 'v'
    | none => 1 < operands.length
  let title (isFirst : Bool) (operand : Chars) : Chars :=
    let name := if operand = ['-'] then "standard input".toList else operand
    if titled then (if isFirst then [] else ['\n']) ++ "==> ".toList ++ name ++ " <==\n".toList else []
  let step (state : Bool × Session) (operand : Chars) : Bool × Session :=
    let (isFirst, session) := state
    match content operand session with
    | (.ok text, after) =>
      let chosen := part text
      let count := takenOf session amount chosen.length text.length
      let after := if operand = ['-'] && !takesAll then session.pass 0 count (text.drop count) else after
      (false, print (title isFirst operand ++ chosen) after)
    | (.error cause, session) =>
      if cause = Files.Tree.isDirectory then
        (false, failOn "error reading" operand cause (print (title isFirst operand) session))
      else (isFirst, fail ("cannot open " ++ quoted operand ++ " for reading: " ++ cause.cause) session)
  (operands.foldl step (true, session)).2

/-- The arguments that the short form of the first one stands for: a number, letters for the unit, and options. -/
def headArguments (arguments : List Chars) : Except String (List Chars) :=
  match arguments with
  | ('-' :: c :: text) :: rest =>
    if !c.isDigit then .ok arguments
    else
      let digits := (c :: text).takeWhile Char.isDigit
      let letters := (c :: text).drop digits.length
      match letters.find? fun c => !"bkmclqvz".toList.contains c with
      | some c => .error ("invalid trailing option -- " ++ Chars.toString [c])
      | none =>
        let unit := letters.reverse.find? fun c => "bkmcl".toList.contains c
        let factor := letters.filter fun c => "bkm".toList.contains c
        let option := if unit.isNone || unit = some 'l' then 'n' else 'c'
        let others := letters.filter fun c => "qvz".toList.contains c
        .ok (['-', option] :: (digits ++ factor) :: (others.map fun c => ['-', c]) ++ rest)
  | arguments => .ok arguments

def head : Utility := fun arguments session =>
  match headArguments arguments with
  | .error problem => misuse problem session
  | .ok arguments =>
    withOptions (excerptOptions "0123456789") 1 (fun given session =>
      match given.flags.find? fun flag => flag.1.isDigit with
      | some (digit, _) => misuse ("invalid trailing option -- " ++ Chars.toString [digit]) session
      | none =>
        match amountOf '-' given with
        | .error problem => fail problem session
        | .ok amount => excerpt given amount amount.beginning false session) arguments session

/-- The arguments that the short form of the first one stands for: a sign, a number and a letter for the unit, with at
most one operand. -/
def tailArguments (arguments : List Chars) : List Chars :=
  let isAlone (rest : List Chars) : Bool :=
    match rest with
    | [] => true
    | [operand] => operand = ['-'] || operand.head? ≠ some '-' || operand = ['-', '-']
    | ['-', '-'] :: [_] => true
    | _ => false
  match arguments with
  | (sign :: text) :: rest =>
    let digits := text.takeWhile Char.isDigit
    let unit := text.drop digits.length
    let isUnit := unit.isEmpty || unit = ['c'] || unit = ['l'] || unit = ['b']
    if !isAlone rest || !isUnit || text.isEmpty || text = ['c'] || !(sign == '-' || sign == '+') then arguments
    else
      let count := (if digits.isEmpty then "10".toList else digits) ++ if unit = ['b'] then unit else []
      let option := if unit = ['c'] || unit = ['b'] then 'c' else 'n'
      ['-', option] :: (sign :: count) :: rest
  | arguments => arguments

def tail : Utility := fun arguments session =>
  withOptions (excerptOptions "fF0123456789") 1 (fun given session =>
    match given.flags.find? fun flag => flag.1.isDigit with
    | some (digit, _) => fail ("option used in invalid context -- " ++ Chars.toString [digit]) session
    | none =>
      match amountOf '+' given with
      | .error problem => fail problem session
      | .ok amount => excerpt given amount amount.ending true session) (tailArguments arguments) session

end Relink.Shell.Utility
