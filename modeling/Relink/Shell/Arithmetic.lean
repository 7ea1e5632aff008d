import Relink.Shell.Chars
import Relink.Text.Radix
import Relink.Word

/-! Arithmetic expressions of the shell. Values are integers of 64 bits, and an assignment in a part that does
not count has no effect. -/

namespace Relink.Shell.Arithmetic

inductive Token where
  | number (value : Int)
  | name (text : String)
  | sign (text : String)
  deriving DecidableEq

/-- Why an arithmetic expression has no value. -/
inductive Problem where
  | primary
  | ending
  | closing
  | colon
  | zeroDivisor
  | number (text : Chars)
  deriving DecidableEq

/-- The value that an integer has in 64 bits. -/
def wrap (n : Int) : Int :=
  Word.wrap 64 n

/-- The integer nearest to another that 64 bits hold. -/
def clamp (n : Int) : Int :=
  Word.clamp (Word.least 64) (Word.greatest 64) n

/-- The signs, longer ones before those that they begin with. -/
def signs : List String :=
  ["<<=", ">>=", "||", "&&", "==", "!=", "<=", ">=", "<<", ">>", "+=", "-=", "*=", "/=", "%=", "&=", "|=",
    "^=", "=", "+", "-", "*", "/", "%", "!", "~", "<", ">", "&", "|", "^", "?", ":", "(", ")"]

/-- The number of a run of digits, and what follows. -/
def digits (radix : Nat) (cs : Chars) : Nat × Chars :=
  ((cs.takeWhile fun c => (Text.digit? radix c).isSome).foldl
      (fun n c => n * radix + (Text.digit? radix c).getD 0) 0,
    cs.dropWhile fun c => (Text.digit? radix c).isSome)

/-- Reads a natural number: hexadecimal after `0x`, octal after `0`, else decimal. -/
def natural (cs : Chars) : Nat × Chars :=
  match cs with
  | '0' :: x :: d :: rest =>
    if (x == 'x' || x == 'X') && (Text.digit? 16 d).isSome then digits 16 (d :: rest) else digits 8 cs
  | '0' :: _ => digits 8 cs
  | _ => digits 10 cs

/-- Reads a number of an expression, the greatest one for all beyond it. -/
def number (cs : Chars) : Int × Chars :=
  let (n, after) := natural cs
  (clamp n, after)

/-- Splits an expression into its tokens; a character that is none counts as a sign. -/
def tokens : Nat → Chars → Except Problem (List Token)
  | 0, _ => .error .primary
  | fuel + 1, cs =>
    match cs.dropWhile Char.isWhitespace with
    | [] => .ok []
    | c :: rest =>
      if c.isDigit then
        let (n, after) := number (c :: rest)
        (tokens fuel after).map (.number n :: ·)
      else if Chars.isNameStart c then
        let name := String.ofList (c :: rest.takeWhile Chars.isNameChar)
        (tokens fuel (rest.dropWhile Chars.isNameChar)).map (.name name :: ·)
      else
        match signs.find? fun sign => sign.toList.isPrefixOf (c :: rest) with
        | some sign => (tokens fuel ((c :: rest).drop sign.length)).map (.sign sign :: ·)
        | none => (tokens fuel rest).map (.sign (String.ofList [c]) :: ·)

/-- The number that the value of a variable writes; nothing counts as zero. -/
def ofValue (value : Chars) : Except Problem Int :=
  let cs := value.dropWhile Char.isWhitespace
  let (negative, magnitude) :=
    match cs with
    | '-' :: rest => (true, rest)
    | '+' :: rest => (false, rest)
    | _ => (false, cs)
  if cs.isEmpty then .ok 0
  else
    let (n, after) := natural magnitude
    let n : Int := if negative then -n else n
    if (magnitude.head?.any Char.isDigit) && after.all Char.isWhitespace && clamp n = n then .ok n
    else .error (.number value)

/-- The binary signs, from the loosest to the tightest. -/
def levels : List (List String) :=
  [["||"], ["&&"], ["|"], ["^"], ["&"], ["==", "!="], ["<", ">", "<=", ">="], ["<<", ">>"], ["+", "-"],
    ["*", "/", "%"]]

/-- The signs that assign the result of an operation with the earlier value. -/
def assigning : List String :=
  ["<<=", ">>=", "+=", "-=", "*=", "/=", "%=", "&=", "|=", "^="]

/-- One for true, zero for false. -/
def truth (b : Bool) : Int :=
  if b then 1 else 0

/-- The bits of two integers, joined by an operation on words. -/
def bitwise (operate : UInt64 → UInt64 → UInt64) (a b : Int) : Int :=
  (operate (UInt64.ofInt a) (UInt64.ofInt b)).toNat

/-- The result of a binary sign; nothing has a quotient by zero. -/
def operate (sign : String) (a b : Int) : Option Int :=
  match sign with
  | "||" => some (truth (a ≠ 0 || b ≠ 0))
  | "&&" => some (truth (a ≠ 0 && b ≠ 0))
  | "|" => some (bitwise (· ||| ·) a b)
  | "^" => some (bitwise (· ^^^ ·) a b)
  | "&" => some (bitwise (· &&& ·) a b)
  | "==" => some (truth (a = b))
  | "!=" => some (truth (a ≠ b))
  | "<" => some (truth (a < b))
  | ">" => some (truth (a > b))
  | "<=" => some (truth (a ≤ b))
  | ">=" => some (truth (a ≥ b))
  | "<<" => some (a * Word.size (b % 64).toNat)
  | ">>" => some (a >>> (b % 64).toNat)
  | "+" => some (a + b)
  | "-" => some (a - b)
  | "*" => some (a * b)
  | "/" => if b = 0 then none else some (a.tdiv b)
  | "%" => if b = 0 then none else some (a.tmod b)
  | _ => none

/-- An evaluation under way: the tokens left and the variables assigned, the latest first. -/
structure Progress where
  rest : List Token
  assigned : List (String × Int)

abbrev Evaluation := StateT Progress (Except Problem)

/-- Takes a sign if it is the next token. -/
def accept (sign : String) : Evaluation Bool := do
  match (← get).rest with
  | .sign s :: rest =>
    if s = sign then
      modify ({ · with rest := rest })
      return true
    else return false
  | _ => return false

/-- The value of a variable, given how the others are looked up. -/
def valueOf (lookup : String → Chars) (name : String) : Evaluation Int := do
  match (← get).assigned.lookup name with
  | some value => return value
  | none =>
    match ofValue (lookup name) with
    | .ok value => return value
    | .error problem => throw problem

/-- Assigns a value, if the part of the expression counts. -/
def assign (live : Bool) (name : String) (value : Int) : Evaluation Int := do
  if live then modify fun progress => { progress with assigned := (name, value) :: progress.assigned }
  return value

mutual

def expression (lookup : String → Chars) : Nat → Bool → Evaluation Int
  | 0, _ => throw .primary
  | fuel + 1, live => do
    match (← get).rest with
    | .name name :: .sign sign :: rest =>
      if sign = "=" then
        modify ({ · with rest := rest })
        assign live name (← expression lookup fuel live)
      else if assigning.contains sign then
        modify ({ · with rest := rest })
        let operand ← expression lookup fuel live
        if !live then return 0
        else
          match operate (String.ofList sign.toList.dropLast) (← valueOf lookup name) operand with
          | some value => assign live name (wrap value)
          | none => throw .zeroDivisor
      else conditional lookup fuel live
    | _ => conditional lookup fuel live

def conditional (lookup : String → Chars) : Nat → Bool → Evaluation Int
  | 0, _ => throw .primary
  | fuel + 1, live => do
    let condition ← binary lookup fuel live levels
    if ← accept "?" then
      let success ← expression lookup fuel (live && condition ≠ 0)
      if !(← accept ":") then throw .colon
      let failure ← conditional lookup fuel (live && condition = 0)
      return if condition ≠ 0 then success else failure
    else return condition

def binary (lookup : String → Chars) : Nat → Bool → List (List String) → Evaluation Int
  | 0, _, _ => throw .primary
  | fuel + 1, live, [] => unary lookup fuel live
  | fuel + 1, live, level :: tighter => do
    let left ← binary lookup fuel live tighter
    joined lookup fuel live level tighter left

/-- Evaluates what is joined to an operand by signs of one level. -/
def joined (lookup : String → Chars) :
    Nat → Bool → List String → List (List String) → Int → Evaluation Int
  | 0, _, _, _, _ => throw .primary
  | fuel + 1, live, level, tighter, left => do
    match (← get).rest with
    | .sign sign :: rest =>
      if level.contains sign then
        modify ({ · with rest := rest })
        let counts := if sign = "&&" then left ≠ 0 else if sign = "||" then left = 0 else true
        let right ← binary lookup fuel (live && counts) tighter
        match operate sign left right with
        | some value => joined lookup fuel live level tighter (wrap value)
        | none => if live then throw .zeroDivisor else joined lookup fuel live level tighter 0
      else return left
    | _ => return left

def unary (lookup : String → Chars) : Nat → Bool → Evaluation Int
  | 0, _ => throw .primary
  | fuel + 1, live => do
    match (← get).rest with
    | .number value :: rest =>
      modify ({ · with rest := rest })
      return value
    | .name name :: rest =>
      modify ({ · with rest := rest })
      if live then valueOf lookup name else return 0
    | .sign "(" :: rest =>
      modify ({ · with rest := rest })
      let value ← expression lookup fuel live
      if ← accept ")" then return value else throw .closing
    | .sign "+" :: rest =>
      modify ({ · with rest := rest })
      unary lookup fuel live
    | .sign "-" :: rest =>
      modify ({ · with rest := rest })
      return wrap (-(← unary lookup fuel live))
    | .sign "!" :: rest =>
      modify ({ · with rest := rest })
      return truth ((← unary lookup fuel live) = 0)
    | .sign "~" :: rest =>
      modify ({ · with rest := rest })
      return -(← unary lookup fuel live) - 1
    | _ => throw .primary

end

/-- The value of an expression, and the variables that it assigns in their order. -/
def evaluate (lookup : String → Chars) (text : Chars) :
    Except Problem (Int × List (String × Int)) := do
  let all ← tokens (text.length + 1) text
  let fuel := 16 * (all.length + 2)
  let (value, progress) ← expression lookup fuel true ⟨all, []⟩
  if progress.rest.isEmpty then return (value, progress.assigned.reverse) else throw .ending

def Problem.message (text : Chars) : Problem → Chars
  | .primary => described "expecting primary"
  | .ending => described "expecting EOF"
  | .closing => described "expecting ')'"
  | .colon => described "expecting ':'"
  | .zeroDivisor => described "division by zero"
  | .number value => "Illegal number: ".toList ++ value
where
  /-- A problem with the expression that has it. -/
  described (problem : String) : Chars :=
    ("arithmetic expression: " ++ problem ++ ": \"").toList ++ text ++ ['"']

end Relink.Shell.Arithmetic
