import Relink.Shell.Chars

namespace Relink.Shell

inductive Switch where
  | errexit
  | noglob
  | ignoreeof
  | interactive
  | monitor
  | noexec
  | stdin
  | xtrace
  | verbose
  | vi
  | emacs
  | noclobber
  | allexport
  | notify
  | nounset
  | privileged
  | nolog
  | debug
  deriving DecidableEq

namespace Switch

/-- The switches in the order in which they are listed, with their names and letters. -/
def table : List (Switch × String × Option Char) := [
  (errexit, "errexit", some 'e'), (noglob, "noglob", some 'f'), (ignoreeof, "ignoreeof", some 'I'),
  (interactive, "interactive", some 'i'), (monitor, "monitor", some 'm'), (noexec, "noexec", some 'n'),
  (stdin, "stdin", some 's'), (xtrace, "xtrace", some 'x'), (verbose, "verbose", some 'v'), (vi, "vi", some 'V'),
  (emacs, "emacs", some 'E'), (noclobber, "noclobber", some 'C'), (allexport, "allexport", some 'a'),
  (notify, "notify", some 'b'), (nounset, "nounset", some 'u'), (privileged, "privileged", some 'p'),
  (nolog, "nolog", none), (debug, "debug", none)]

def ofLetter? (letter : Char) : Option Switch :=
  (table.find? fun entry => entry.2.2 == some letter).map Prod.fst

def ofName? (name : Chars) : Option Switch :=
  (table.find? fun entry => entry.2.1.toList == name).map Prod.fst

/-- The letters of the switches that are on, the last ones first. -/
def letters (on : List Switch) : Chars :=
  table.reverse.filterMap fun (switch, _, letter) => if on.contains switch then letter else none

def turn (switch : Switch) (state : Bool) (on : List Switch) : List Switch :=
  if state then (if on.contains switch then on else switch :: on) else on.filter (· ≠ switch)

def listing (on : List Switch) : Chars :=
  "Current option settings\n".toList ++ table.flatMap fun (switch, name, _) =>
    name.toList ++ List.replicate (16 - name.length) ' ' ++
      (if on.contains switch then "on\n" else "off\n").toList

/-- The commands that turn all switches to where they are. -/
def script (on : List Switch) : Chars :=
  table.flatMap fun (switch, name, _) =>
    (if on.contains switch then "set -o " else "set +o ").toList ++ name.toList ++ ['\n']

end Switch

end Relink.Shell
