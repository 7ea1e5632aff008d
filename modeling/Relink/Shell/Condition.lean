import Relink.Shell.Activity

/-! Conditions on texts, numbers and files. Whether a text is a sign depends on what follows it, and a few texts
are read by their number. -/

namespace Relink.Shell.Condition

/-- Why a condition cannot be decided. -/
inductive Problem where
  | unexpected (text : Chars)
  | missing (text : Chars)
  | bracket
  | number (text : Chars)
  | parenthesis
  deriving DecidableEq

/-- What is wrong with a text. An empty one is not named. -/
def about (text : Chars) (complaint : String) : Chars :=
  if text.isEmpty then complaint.toList else text ++ ": ".toList ++ complaint.toList

def Problem.message : Problem → Chars
  | unexpected text => about text "unexpected operator"
  | missing text => about text "argument expected"
  | bracket => "missing ]".toList
  | number text => "Illegal number: ".toList ++ text
  | parenthesis => "closing paren expected".toList

def integer (text : Chars) : Except Problem Int :=
  match Activity.integer? text with
  | some n => .ok n
  | none => .error (.number text)

def textComparison? (sign : String) : Option (Chars → Chars → Bool) :=
  match sign with
  | "=" => some fun a b => a == b
  | "!=" => some fun a b => a != b
  | "<" => some fun a b => String.ofList a < String.ofList b
  | ">" => some fun a b => String.ofList b < String.ofList a
  | _ => none

def numberComparison? (sign : String) : Option (Int → Int → Bool) :=
  match sign with
  | "-eq" => some fun a b => a = b
  | "-ne" => some fun a b => a ≠ b
  | "-lt" => some fun a b => a < b
  | "-le" => some fun a b => a ≤ b
  | "-gt" => some fun a b => b < a
  | "-ge" => some fun a b => b ≤ a
  | _ => none

def fileComparisons : List String :=
  ["-nt", "-ot", "-ef"]

def isBinary (text : Chars) : Bool :=
  let sign := String.ofList text
  (textComparison? sign).isSome || (numberComparison? sign).isSome || fileComparisons.contains sign

def unarySigns : List String :=
  ["-n", "-z", "-e", "-r", "-w", "-x", "-d", "-f", "-s", "-c", "-h", "-L", "-b", "-p", "-S", "-u", "-g", "-k", "-t",
    "-O", "-G"]

/-- What a text is, given those after it. -/
inductive Sign where
  | ending
  | operand
  | unary
  | negation
  | conjunction
  | disjunction
  | opening
  | closing
  deriving DecidableEq

/-- Whether the sign of a condition on one text stands for itself, given the texts after it. -/
def standsForItself : List Chars → Bool
  | [] => true
  | [_] => false
  | next :: _ => isBinary next

/-- What the first of some texts is. A comparison counts as an operand where it comes first. -/
def sign : List Chars → Sign
  | [] => .ending
  | text :: rest =>
    match String.ofList text with
    | "!" => .negation
    | "-a" => .conjunction
    | "-o" => .disjunction
    | "(" => if rest.isEmpty then .operand else .opening
    | ")" => .closing
    | text => if unarySigns.contains text && !standsForItself rest then .unary else .operand

variable (files : Files.Tree) (here : Files.Place)

/-- The place of an entry among those that a path leads to, by the time of their making. -/
def age? (path : Chars) : Option (Files.Place × Nat) :=
  match files.find here (Chars.toString path) with
  | .ok (place, _) => some (place, files.entries.findIdx fun entry => entry.1 == place)
  | .error _ => none

/-- Compares two files by a sign; none is newer or older than one that is not there. -/
def compareFiles (left : Chars) (sign : String) (right : Chars) : Bool :=
  match age? files here left, age? files here right with
  | some (a, m), some (b, n) => if sign = "-ef" then a == b else if sign = "-nt" then n < m else m < n
  | _, _ => false

def compare (left sign right : Chars) : Except Problem Bool :=
  match textComparison? (String.ofList sign), numberComparison? (String.ofList sign) with
  | some holds, _ => .ok (holds left right)
  | none, some holds => do return holds (← integer left) (← integer right)
  | none, none => .ok (compareFiles files here left (String.ofList sign) right)

/-- What is at a path, if a link is followed. -/
def reached? (path : Chars) : Option Files.Entry :=
  match files.find here (Chars.toString path) with
  | .ok (_, entry) => some entry
  | .error _ => none

def hasContent : Files.Entry → Bool
  | .file content _ => !content.isEmpty
  | .sink => false
  | _ => true

def unary (sign text : Chars) : Except Problem Bool :=
  let entry := reached? files here text
  match String.ofList sign with
  | "-n" => .ok !text.isEmpty
  | "-z" => .ok text.isEmpty
  | "-x" => .ok (entry.any fun e => e.isExecutable || e.isDirectory)
  | "-d" => .ok (entry.any (·.isDirectory))
  | "-f" => .ok (entry.any fun e => (e matches .file .. | .program _))
  | "-s" => .ok (entry.any hasContent)
  | "-c" => .ok (entry.any fun e => (e matches .sink))
  | "-h" | "-L" =>
    match files.resolve false here (Chars.toString text) with
    | .ok (.found _ (.link _)) => .ok true
    | _ => .ok false
  | "-b" | "-p" | "-S" | "-u" | "-g" | "-k" => .ok false
  | "-t" => (integer text).map fun _ => false
  | _ => .ok entry.isSome

/-- A part of the texts decided: whether it holds, its last text if it has one, and the texts after it. -/
structure Decided where
  holds : Bool
  last : Option Chars
  rest : List Chars

/-- Decides a condition of one, two or three texts. -/
def primary (first : Sign) (texts : List Chars) : Except Problem Decided :=
  match texts with
  | [] => .ok ⟨false, none, []⟩
  | text :: rest =>
    match if first = .unary then some rest else none with
    | some (operand :: rest) => do return ⟨← unary files here text operand, some operand, rest⟩
    | some [] => .error (.missing text)
    | none =>
      match rest with
      | sign :: rest =>
        if isBinary sign then
          match rest with
          | right :: rest => do return ⟨← compare files here text sign right, some right, rest⟩
          | [] => .error (.missing sign)
        else .ok ⟨!text.isEmpty, some text, sign :: rest⟩
      | [] => .ok ⟨!text.isEmpty, some text, []⟩

mutual

def anyOf : Nat → Sign → List Chars → Except Problem Decided
  | 0, _, _ => .error .parenthesis
  | fuel + 1, first, texts => do
    let left ← allOf fuel first texts
    if sign left.rest = .disjunction then
      let right ← anyOf fuel (sign (left.rest.drop 1)) (left.rest.drop 1)
      return { right with holds := left.holds || right.holds }
    else return left

def allOf : Nat → Sign → List Chars → Except Problem Decided
  | 0, _, _ => .error .parenthesis
  | fuel + 1, first, texts => do
    let left ← negated fuel first texts
    if sign left.rest = .conjunction then
      let right ← allOf fuel (sign (left.rest.drop 1)) (left.rest.drop 1)
      return { right with holds := left.holds && right.holds }
    else return left

/-- Decides a condition that may be negated or stand in parentheses. -/
def negated : Nat → Sign → List Chars → Except Problem Decided
  | 0, _, _ => .error .parenthesis
  | fuel + 1, first, texts => do
    if first = .negation then
      let rest := texts.drop 1
      if rest.isEmpty then return ⟨true, texts.head?, []⟩
      else
        let decided ← negated fuel (sign rest) rest
        return { decided with holds := !decided.holds }
    else if first = .opening then
      let rest := texts.drop 1
      if sign rest = .closing then return ⟨false, rest.head?, rest.drop 1⟩
      else
        let decided ← anyOf fuel (sign rest) rest
        if sign decided.rest = .closing then
          return ⟨decided.holds, decided.rest.head?, decided.rest.drop 1⟩
        else throw .parenthesis
    else primary files here first texts

end

def all (first : Sign) (texts : List Chars) : Except Problem Bool := do
  let decided ← anyOf files here (4 * (texts.length + 2)) first texts
  match decided.last, decided.rest with
  | some last, _ :: _ => throw (.unexpected last)
  | _, _ => return decided.holds

/-- Decides the condition that texts make. Three texts with a comparison in the middle are one; else three or
four may stand in parentheses or after a negation. -/
def holds : List Chars → Except Problem Bool
  | [] => .ok false
  | [a, b, c] =>
    if isBinary b then all files here .operand [a, b, c]
    else if a = ['('] && c = [')'] then all files here (sign [b]) [b]
    else if a = ['!'] then (all files here (sign [b, c]) [b, c]).map (!·)
    else all files here (sign [a, b, c]) [a, b, c]
  | [a, b, c, d] =>
    if a = ['('] && d = [')'] then all files here (sign [b, c]) [b, c]
    else if a = ['!'] then (three [b, c, d]).map (!·)
    else all files here (sign [a, b, c, d]) [a, b, c, d]
  | texts => all files here (sign texts) texts
where
  /-- Decides the condition of the three texts after a negation; a second one does not negate again. -/
  three (texts : List Chars) : Except Problem Bool :=
    if texts[1]?.any isBinary then all files here .operand texts
    else if texts.head? = some ['('] && texts[2]? = some [')'] then
      all files here (sign (texts.drop 1).dropLast) (texts.drop 1).dropLast
    else if texts.head? = some ['!'] then all files here (sign (texts.drop 1)) (texts.drop 1)
    else all files here (sign texts) texts

end Relink.Shell.Condition
