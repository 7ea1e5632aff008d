import Relink.Text.Radix
import Relink.Yaml.Scalar.Fold

namespace Relink.Yaml.Scalar

/-- Reads on in a single-quoted scalar, up to the quote that is not doubled. -/
def singleFrom (text : List Char) (gap : Gap) (position : Position) : List Char → Option Reading
  | [] => none
  | c :: rest =>
    if isBreak c then singleFrom text (gap.read c) position.nextLine rest
    else if isGap c then singleFrom text (gap.read c) (position.forward 1) rest
    else if atDocumentMark position (c :: rest) then none
    else if c = '\'' then
      match rest with
      | '\'' :: rest => singleFrom ('\'' :: gap.flush text) .empty (position.forward 2) rest
      | rest => some ⟨textOf (gap.flush text), position.forward 1, rest, false⟩
    else singleFrom (c :: gap.flush text) .empty (position.forward 1) rest

/-- What a backslash and a letter stand for. -/
inductive Escape where
  | char (c : Char)
  | digits (count : Nat)

def escape? : Char → Option Escape
  | '0' => some (.char '\x00')
  | 'a' => some (.char '\x07')
  | 'b' => some (.char '\x08')
  | 't' => some (.char '\t')
  | '\t' => some (.char '\t')
  | 'n' => some (.char '\n')
  | 'v' => some (.char '\x0B')
  | 'f' => some (.char '\x0C')
  | 'r' => some (.char '\r')
  | 'e' => some (.char '\x1B')
  | ' ' => some (.char ' ')
  | '"' => some (.char '"')
  | '/' => some (.char '/')
  | '\\' => some (.char '\\')
  | 'N' => some (.char '\x85')
  | '_' => some (.char '\xA0')
  | 'L' => some (.char '\u2028')
  | 'P' => some (.char '\u2029')
  | 'x' => some (.digits 2)
  | 'u' => some (.digits 4)
  | 'U' => some (.digits 8)
  | _ => none

def charOfNumber? (n : Nat) : Option Char :=
  if (0xD800 ≤ n ∧ n ≤ 0xDFFF) ∨ 0x10FFFF < n then none else some (Char.ofNat n)

/-- Digits of a numbered character that are still to come, and their value so far. -/
structure PendingNumber where
  owed : Nat
  value : Nat

/-- Reads on in a double-quoted scalar, up to its quote. -/
def doubleFrom (pending : Option PendingNumber) (text : List Char) (gap : Gap) (position : Position) :
    List Char → Option Reading
  | [] => none
  | c :: rest =>
    match pending with
    | some number =>
      match Text.digit? 16 c with
      | none => none
      | some digit =>
        let value := number.value * 16 + digit
        if number.owed ≤ 1 then
          match charOfNumber? value with
          | some c => doubleFrom none (c :: text) gap (position.forward 1) rest
          | none => none
        else doubleFrom (some ⟨number.owed - 1, value⟩) text gap (position.forward 1) rest
    | none =>
      if isBreak c then doubleFrom none text (gap.read c) position.nextLine rest
      else if isGap c then doubleFrom none text (gap.read c) (position.forward 1) rest
      else if atDocumentMark position (c :: rest) then none
      else if c = '"' then some ⟨textOf (gap.flush text), position.forward 1, rest, false⟩
      else if c = '\\' then
        match rest with
        | [] => none
        | e :: rest =>
          if isBreak e then doubleFrom none (gap.flush text) (.breaks none []) position.nextLine rest
          else
            match escape? e with
            | some (.char c) => doubleFrom none (c :: gap.flush text) .empty (position.forward 2) rest
            | some (.digits count) =>
              doubleFrom (some ⟨count, 0⟩) (gap.flush text) .empty (position.forward 2) rest
            | none => none
      else doubleFrom none (c :: gap.flush text) .empty (position.forward 1) rest

/-- Reads a scalar from after its opening quote. -/
def quoted? (quote : Char) (position : Position) (cs : List Char) : Option Reading :=
  if quote = '\'' then singleFrom [] .empty position cs else doubleFrom none [] .empty position cs

end Relink.Yaml.Scalar
