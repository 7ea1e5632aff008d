import Relink.Shell.Activity
import Relink.Shell.Builtin.Name

namespace Relink.Shell

/-- A command that the shell carries out itself: what it does with its arguments, and its exit status. -/
abbrev Builtin := List Chars → Activity Nat

namespace Builtin

/-- Reads the letters of an option. The last one may want a text that has to follow. -/
def letters (admitted : List (Char × Bool)) : Chars → Activity (List (Char × Chars) × Option Char)
  | [] => return ([], none)
  | c :: rest =>
    match admitted.lookup c with
    | none => Activity.fail ("Illegal option -".toList ++ [c])
    | some true => return if rest.isEmpty then ([], some c) else ([(c, rest)], none)
    | some false => do
      let (found, open_) ← letters admitted rest
      return ((c, []) :: found, open_)

/-- Splits arguments into options with their texts and operands. Each admitted letter tells whether it takes a
text. -/
def options (admitted : List (Char × Bool)) : List Chars → Activity (List (Char × Chars) × List Chars)
  | [] => return ([], [])
  | ['-', '-'] :: rest => return ([], rest)
  | ('-' :: c :: more) :: rest => do
    match ← letters admitted (c :: more) with
    | (found, none) =>
      let (further, operands) ← options admitted rest
      return (found ++ further, operands)
    | (found, some letter) =>
      match rest with
      | [] => Activity.fail ("No arg for -".toList ++ letter :: " option".toList)
      | text :: rest =>
        let (further, operands) ← options admitted rest
        return (found ++ (letter, text) :: further, operands)
  | operands => return ([], operands)

/-- The operands of a command without options. -/
def operands (arguments : List Chars) : Activity (List Chars) := do
  return (← options [] arguments).2

/-- A value in quotes: single ones, and double ones around those in it. -/
def quoted (value : Chars) : Chars :=
  go (value.length + 1) value
where
  /-- Quotes a text up to its end, run by run. -/
  go : Nat → Chars → Chars
    | 0, _ => []
    | fuel + 1, cs =>
      let plain := cs.takeWhile (· ≠ '\'')
      let rest := cs.drop plain.length
      let quotes := rest.takeWhile (· == '\'')
      let after := rest.drop quotes.length
      '\'' :: plain ++ ['\''] ++
        (if quotes.isEmpty then [] else '"' :: quotes ++ ['"']) ++ if after.isEmpty then [] else go fuel after

/-- Lists variables as a script could set them. -/
def listing (intro : String) (bindings : List (String × Variable)) : Chars :=
  bindings.flatMap fun (name, entry) =>
    Chars.ofString (intro ++ name) ++
      (match entry.value with
      | some value => '=' :: quoted value
      | none => []) ++ ['\n']

/-- Splits a declaration into the name and the value, if there is one. -/
def declaration (text : Chars) : Chars × Option Chars :=
  match text.dropWhile (· ≠ '=') with
  | [] => (text, none)
  | _ :: value => (text.takeWhile (· ≠ '='), some value)

/-- The name of a variable that a text begins with; an equals sign may follow. -/
def variableName (text : Chars) : Activity String :=
  let name := (declaration text).1
  if Chars.isName name then return String.ofList name
  else Activity.fail (name ++ ": bad variable name".toList)

/-- The sum of characters by which tables of names are arranged. -/
def arrangement (buckets : Nat) (name : String) : Nat :=
  let cs := Chars.ofString name
  (16 * (cs.head?.map Char.toNat).getD 0 + cs.foldl (fun sum c => sum + c.toNat) 0) % buckets

/-- Entries as a table with so many buckets lists them: by bucket, and in a bucket as they have come. -/
def arranged {α : Type} (buckets : Nat) (name : α → String) (entries : List α) : List α :=
  entries.mergeSort fun a b => arrangement buckets (name a) ≤ arrangement buckets (name b)

end Builtin

end Relink.Shell
