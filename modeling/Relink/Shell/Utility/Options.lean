import Relink.Shell.Chars

namespace Relink.Shell.Utility

/-- The options of a program: the letters of those without and of those with a value, and the long names, each with
the letter that it stands for. A value may lack after the long names of some. Operands may stand among the options
unless the first of them ends those. -/
structure Options where
  letters : String := ""
  valued : String := ""
  names : List (String × Char) := []
  optional : String := ""
  mixed : Bool := true

/-- What arguments say: the options given, each with its value, and the operands. -/
structure Given where
  flags : List (Char × Chars) := []
  operands : List Chars := []

namespace Given

def has (given : Given) (letter : Char) : Bool :=
  given.flags.any (·.1 == letter)

def value? (given : Given) (letter : Char) : Option Chars :=
  given.flags.reverse.lookup letter

def last? (given : Given) (letters : List Char) : Option Char :=
  (given.flags.reverse.find? fun flag => letters.contains flag.1).map Prod.fst

def withFlag (given : Given) (letter : Char) (value : Chars) : Given :=
  { given with flags := given.flags ++ [(letter, value)] }

def withOperands (given : Given) (operands : List Chars) : Given :=
  { given with operands := given.operands ++ operands }

end Given

namespace Options

/-- Reads the letters of an argument, given the arguments after it. A value is what follows its letter, or else the
next argument. -/
def readLetters (options : Options) : Chars → List Chars → Given → Except String (Given × List Chars)
  | [], rest, given => .ok (given, rest)
  | c :: cs, rest, given =>
    let name := "-- '" ++ Chars.toString [c] ++ "'"
    if options.valued.toList.contains c then
      if !cs.isEmpty then .ok (given.withFlag c cs, rest)
      else
        match rest with
        | value :: rest => .ok (given.withFlag c value, rest)
        | [] => .error ("option requires an argument " ++ name)
    else if options.letters.toList.contains c then readLetters options cs rest (given.withFlag c [])
    else .error ("invalid option " ++ name)

/-- A long name as messages show it. -/
def displayed (name : String) : String :=
  "'--" ++ name ++ "'"

/-- The long name that a text stands for: itself, or the only one that begins so. -/
def named (options : Options) (text : Chars) (whole : Chars) : Except String (String × Char) :=
  let found := options.names.filter fun entry => text.isPrefixOf entry.1.toList
  match options.names.find? fun entry => entry.1.toList = text with
  | some entry => .ok entry
  | none =>
    match found with
    | [] => .error ("unrecognized option " ++ displayed (Chars.toString whole))
    | entry :: others =>
      if others.all (·.2 == entry.2) then .ok entry
      else
        .error ("option " ++ displayed (Chars.toString whole) ++ " is ambiguous; possibilities: " ++
          " ".intercalate (found.map fun entry => displayed entry.1))

/-- Reads a long name, given the arguments after it. A value follows an equals sign, or is the next argument. -/
def readName (options : Options) (whole : Chars) (rest : List Chars) (given : Given) :
    Except String (Given × List Chars) := do
  let text := whole.takeWhile (· ≠ '=')
  let (name, letter) ← options.named text whole
  let isOptional := options.optional.toList.contains letter
  match whole.drop text.length with
  | _ :: value =>
    if options.valued.toList.contains letter || isOptional then return (given.withFlag letter value, rest)
    else throw ("option " ++ displayed name ++ " doesn't allow an argument")
  | [] =>
    if !options.valued.toList.contains letter || isOptional then return (given.withFlag letter [], rest)
    else
      match rest with
      | value :: rest => return (given.withFlag letter value, rest)
      | [] => throw ("option " ++ displayed name ++ " requires an argument")

def readFrom (options : Options) : Nat → List Chars → Given → Except String Given
  | 0, arguments, given => .ok (given.withOperands arguments)
  | fuel + 1, arguments, given =>
    match arguments with
    | [] => .ok given
    | ['-', '-'] :: rest => .ok (given.withOperands rest)
    | ('-' :: '-' :: name) :: rest => do
      let (given, rest) ← options.readName name rest given
      options.readFrom fuel rest given
    | ('-' :: c :: letters) :: rest => do
      let (given, rest) ← options.readLetters (c :: letters) rest given
      options.readFrom fuel rest given
    | operand :: rest =>
      if options.mixed then options.readFrom fuel rest (given.withOperands [operand])
      else .ok (given.withOperands (operand :: rest))

def read (options : Options) (arguments : List Chars) : Except String Given :=
  options.readFrom (arguments.length + 1) arguments {}

end Options

end Relink.Shell.Utility
