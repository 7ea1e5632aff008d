import Relink.Text.Radix

namespace Relink.Toml

def isGap (c : Char) : Bool :=
  c == ' ' || c == '\t'

/-- A character that texts and comments may hold as it is: no control but the tab. -/
def isVisible (c : Char) : Bool :=
  c == '\t' || (0x20 ≤ c.toNat && c.toNat != 0x7F)

def isBareKeyChar (c : Char) : Bool :=
  c.isAlphanum || c == '-' || c == '_'

/-- What follows a line end, if there is one. -/
def newline? : List Char → Option (List Char)
  | '\n' :: rest => some rest
  | '\r' :: '\n' :: rest => some rest
  | _ => none

def skipGap (cs : List Char) : List Char :=
  cs.dropWhile isGap

/-- What follows a comment, if there is one. -/
def skipComment (cs : List Char) : List Char :=
  match cs with
  | '#' :: rest => rest.dropWhile isVisible
  | cs => cs

/-- What follows the rest of a line on which nothing more may stand. -/
def lineEnd? (cs : List Char) : Option (List Char) :=
  match skipComment (skipGap cs) with
  | [] => some []
  | rest => newline? rest

/-- What follows blanks, comments and line ends. -/
def skipLines : List Char → List Char
  | [] => []
  | '\r' :: '\n' :: rest => skipLines rest
  | c :: rest =>
    if isGap c || c == '\n' then skipLines rest
    else if c == '#' then skipCommentLine rest
    else c :: rest
where
  /-- Skips a comment and what comes after it. A comment that a control breaks off is left. -/
  skipCommentLine : List Char → List Char
    | [] => []
    | '\r' :: '\n' :: rest => skipLines rest
    | c :: rest =>
      if c == '\n' then skipLines rest
      else if isVisible c then skipCommentLine rest
      else c :: rest

namespace Quoted

/-- What a backslash and a letter stand for. -/
inductive Escape where
  | char (c : Char)
  | digits (count : Nat)

def escape? : Char → Option Escape
  | 'b' => some (.char '\x08')
  | 't' => some (.char '\t')
  | 'n' => some (.char '\n')
  | 'f' => some (.char '\x0C')
  | 'r' => some (.char '\r')
  | 'e' => some (.char '\x1B')
  | '"' => some (.char '"')
  | '\\' => some (.char '\\')
  | 'x' => some (.digits 2)
  | 'u' => some (.digits 4)
  | 'U' => some (.digits 8)
  | _ => none

/-- What is being read in a quoted text: a character, digits of a numbered one that are still owed after
those of a value, or blanks after a backslash, before or after the line ended. -/
inductive Mode where
  | plain
  | digits (owed value : Nat)
  | gap (lineEnded : Bool)

def charOfNumber? (n : Nat) : Option Char :=
  if (0xD800 ≤ n ∧ n ≤ 0xDFFF) ∨ 0x10FFFF < n then none else some (Char.ofNat n)

/-- A text that was kept latest character first. -/
def textOf (reversed : List Char) : String :=
  String.ofList reversed.reverse

/-- The end of a text of several lines at its closing quotes: up to two more of them are part of it. -/
def closeLines (quote : Char) (text rest : List Char) : String × List Char :=
  match rest with
  | a :: b :: rest' =>
    if a = quote then
      if b = quote then (textOf (quote :: quote :: text), rest') else (textOf (quote :: text), b :: rest')
    else (textOf text, rest)
  | [a] => if a = quote then (textOf (quote :: text), []) else (textOf text, rest)
  | [] => (textOf text, [])

/-- Whether a character belongs to the blanks after a backslash. -/
def Mode.spans (mode : Mode) (c : Char) : Bool :=
  match mode with
  | .gap _ => isGap c || c == '\n' || c == '\r'
  | _ => false

/-- Reads on in a text between double quotes, of one line or of several. -/
def doubleFrom (lines : Bool) (mode : Mode) (text : List Char) : List Char → Option (String × List Char)
  | [] => none
  | c :: rest =>
    if mode.spans c then
      match mode, c, rest with
      | _, '\n', rest => doubleFrom lines (.gap true) text rest
      | _, '\r', '\n' :: rest => doubleFrom lines (.gap true) text rest
      | _, '\r', _ => none
      | mode, _, rest => doubleFrom lines mode text rest
    else
      match mode with
      | .gap false => none
      | .digits owed value =>
        match Text.digit? 16 c with
        | none => none
        | some digit =>
          let value := value * 16 + digit
          if owed ≤ 1 then
            match charOfNumber? value with
            | some c => doubleFrom lines .plain (c :: text) rest
            | none => none
          else doubleFrom lines (.digits (owed - 1) value) text rest
      | _ =>
        if c = '"' then
          if lines then
            match rest with
            | '"' :: '"' :: rest => some (closeLines '"' text rest)
            | rest => doubleFrom lines .plain ('"' :: text) rest
          else some (textOf text, rest)
        else if c = '\\' then
          match rest with
          | [] => none
          | e :: further =>
            match escape? e with
            | some (.char c) => doubleFrom lines .plain (c :: text) further
            | some (.digits count) => doubleFrom lines (.digits count 0) text further
            | none => if lines then doubleFrom lines (.gap false) text (e :: further) else none
        else if lines && c == '\n' then doubleFrom lines .plain (c :: text) rest
        else if lines && c == '\r' then
          match rest with
          | '\n' :: rest => doubleFrom lines .plain ('\n' :: '\r' :: text) rest
          | _ => none
        else if isVisible c then doubleFrom lines .plain (c :: text) rest
        else none

/-- Reads on in a text between single quotes, of one line or of several. -/
def singleFrom (lines : Bool) (text : List Char) : List Char → Option (String × List Char)
  | [] => none
  | '\r' :: '\n' :: rest => if lines then singleFrom lines ('\n' :: '\r' :: text) rest else none
  | '\'' :: rest =>
    if lines then
      match rest with
      | '\'' :: '\'' :: rest => some (closeLines '\'' text rest)
      | rest => singleFrom lines ('\'' :: text) rest
    else some (textOf text, rest)
  | c :: rest =>
    if isVisible c || (lines && c == '\n') then singleFrom lines (c :: text) rest else none

/-- A text without a line end at its beginning. -/
def afterNewline (cs : List Char) : List Char :=
  (newline? cs).getD cs

/-- Reads a quoted text: three quotes begin one of several lines, a line end after which does not count. -/
def read? : List Char → Option (String × List Char)
  | '"' :: '"' :: '"' :: rest => doubleFrom true .plain [] (afterNewline rest)
  | '\'' :: '\'' :: '\'' :: rest => singleFrom true [] (afterNewline rest)
  | '"' :: rest => doubleFrom false .plain [] rest
  | '\'' :: rest => singleFrom false [] rest
  | _ => none

end Quoted

/-- Reads one part of a key: a bare word, or a quoted text of one line. -/
def keyPart? (cs : List Char) : Option (String × List Char) :=
  match cs with
  | '"' :: rest => Quoted.doubleFrom false .plain [] rest
  | '\'' :: rest => Quoted.singleFrom false [] rest
  | cs =>
    let word := cs.takeWhile isBareKeyChar
    if word.isEmpty then none else some (String.ofList word, cs.dropWhile isBareKeyChar)

/-- Reads the parts of a key, at most so many, with dots between them. -/
def keyParts? : Nat → List Char → Option (List String × List Char)
  | 0, _ => none
  | count + 1, cs => do
    let (part, rest) ← keyPart? (skipGap cs)
    match skipGap rest with
    | '.' :: rest =>
      let (parts, rest) ← keyParts? count rest
      return (part :: parts, rest)
    | rest => return ([part], rest)

def greatestPartCount : Nat := 80

/-- Reads a key: its parts, and what follows it and the blanks after it. -/
def key? (cs : List Char) : Option (List String × List Char) :=
  keyParts? greatestPartCount cs

end Relink.Toml
