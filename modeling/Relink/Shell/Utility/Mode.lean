import Relink.Shell.Chars

namespace Relink.Shell.Utility.Mode

def all : Nat := 0o7777

/-- The marks of three classes of users that allow to run a file. -/
def running : Nat := 0o111

def without (mode marks : Nat) : Nat :=
  mode &&& (all ^^^ marks)

def users? : Char → Option Nat
  | 'u' => some 0o4700
  | 'g' => some 0o2070
  | 'o' => some 0o1007
  | 'a' => some all
  | _ => none

/-- The marks that a letter names. One of them counts for directories and for what somebody may run already. -/
def marks? (isDirectory : Bool) (mode : Nat) : Char → Option Nat
  | 'r' => some 0o444
  | 'w' => some 0o222
  | 'x' => some running
  | 'X' => some (if isDirectory || mode &&& running ≠ 0 then running else 0)
  | 's' => some 0o6000
  | 't' => some 0o1000
  | _ => none

/-- The marks that a class of users has, for all classes. -/
def copied? (mode : Nat) : Char → Option Nat
  | 'u' => some (mode / 64 % 8 * running)
  | 'g' => some (mode / 8 % 8 * running)
  | 'o' => some (mode % 8 * running)
  | _ => none

/-- A mode after the changes that a text writes for some users, or for all but what the mask takes away. -/
def changed (mask : Nat) (isDirectory : Bool) (users : Option Nat) : Nat → Nat → Chars → Option Nat
  | 0, _, _ => none
  | _ + 1, mode, [] => some mode
  | fuel + 1, mode, sign :: rest =>
    if !(sign == '+' || sign == '-' || sign == '=') then none
    else
      let letters := rest.takeWhile fun c => (marks? isDirectory mode c).isSome
      let (value, rest) :=
        match rest.head?.bind (copied? mode) with
        | some value => (value, rest.drop 1)
        | none =>
          (letters.foldl (fun n c => n ||| (marks? isDirectory mode c).getD 0) 0, rest.drop letters.length)
      let value := value &&& users.getD (all ^^^ mask)
      let mode :=
        if sign == '+' then mode ||| value
        else if sign == '-' then without mode value
        else without mode (users.getD all) ||| value
      changed mask isDirectory users fuel mode rest

/-- A mode after the change that a text writes: users, signs and marks. -/
def clause (mask : Nat) (isDirectory : Bool) (mode : Nat) (text : Chars) : Option Nat :=
  let letters := text.takeWhile fun c => (users? c).isSome
  let users := letters.filterMap users?
  let changes := text.drop letters.length
  if changes.isEmpty then none
  else
    changed mask isDirectory (if users.isEmpty then none else some (users.foldl (· ||| ·) 0)) (changes.length + 1)
      mode changes

/-- A mode after the changes that a text writes, or the mode that it writes in octal digits. -/
def read? (mask : Nat) (isDirectory : Bool) (mode : Nat) (text : Chars) : Option Nat :=
  if !text.isEmpty && text.all fun c => '0' ≤ c && c ≤ '7' then
    let n := text.foldl (fun n c => n * 8 + (c.toNat - '0'.toNat)) 0
    if n ≤ all then some n else none
  else (text.splitOn ',').foldlM (clause mask isDirectory) mode

def letters (mode : Nat) : String :=
  let mark (bit : Nat) (c : Char) : Char := if mode &&& bit ≠ 0 then c else '-'
  let run (bit special : Nat) (c : Char) : Char :=
    if mode &&& special = 0 then mark bit 'x'
    else if mode &&& bit ≠ 0 then c else c.toUpper
  String.ofList [mark 0o400 'r', mark 0o200 'w', run 0o100 0o4000 's', mark 0o40 'r', mark 0o20 'w',
    run 0o10 0o2000 's', mark 0o4 'r', mark 0o2 'w', run 0o1 0o1000 't']

/-- A mode in four octal digits and in letters. -/
def description (mode : Nat) : String :=
  let digits := Nat.toDigits 8 mode
  String.ofList (List.replicate (4 - digits.length) '0' ++ digits) ++ " (" ++ letters mode ++ ")"

end Relink.Shell.Utility.Mode
