import Relink.Shell.Chars

namespace Relink.Shell.Signal

/-- How many signals there are, zero included. -/
def count : Nat := 65

/-- The signals with fixed meanings, by their numbers. -/
def fixed : List (Nat × String) := [
  (0, "EXIT"), (1, "HUP"), (2, "INT"), (3, "QUIT"), (4, "ILL"), (5, "TRAP"), (6, "ABRT"), (7, "BUS"), (8, "FPE"),
  (9, "KILL"), (10, "USR1"), (11, "SEGV"), (12, "USR2"), (13, "PIPE"), (14, "ALRM"), (15, "TERM"), (16, "16"),
  (17, "CHLD"), (18, "CONT"), (19, "STOP"), (20, "TSTP"), (21, "TTIN"), (22, "TTOU"), (23, "URG"), (24, "XCPU"),
  (25, "XFSZ"), (26, "VTALRM"), (27, "PROF"), (28, "WINCH"), (29, "IO"), (30, "PWR"), (31, "SYS"), (32, "32"),
  (33, "33")]

/-- The first of the signals without meanings of their own. -/
def firstFree : Nat := 34

def last : Nat := 64

/-- The name of a signal without a meaning of its own, counted from the nearer end. -/
def freeName (number : Nat) : String :=
  if number = firstFree then "RTMIN"
  else if number = last then "RTMAX"
  else if number < firstFree + 16 then "RTMIN+" ++ toString (number - firstFree)
  else "RTMAX-" ++ toString (last - number)

def names : List (Nat × String) :=
  fixed ++ (List.range (last + 1 - firstFree)).map fun n => (firstFree + n, freeName (firstFree + n))

/-- What is said of a process that a signal has ended. -/
def notices : List (Nat × String) := [
  (1, "Hangup"), (2, "Interrupt"), (3, "Quit"), (4, "Illegal instruction"), (5, "Trace/breakpoint trap"),
  (6, "Aborted"), (7, "Bus error"), (8, "Floating point exception"), (9, "Killed"), (10, "User defined signal 1"),
  (11, "Segmentation fault"), (12, "User defined signal 2"), (13, "Broken pipe"), (14, "Alarm clock"),
  (15, "Terminated"), (16, "Stack fault"), (17, "Child exited"), (18, "Continued"), (19, "Stopped (signal)"),
  (20, "Stopped"), (21, "Stopped (tty input)"), (22, "Stopped (tty output)"), (23, "Urgent I/O condition"),
  (24, "CPU time limit exceeded"), (25, "File size limit exceeded"), (26, "Virtual timer expired"),
  (27, "Profiling timer expired"), (28, "Window changed"), (29, "I/O possible"), (30, "Power failure"),
  (31, "Bad system call")]

/-- What is said of a process that a signal has ended. -/
def notice (number : Nat) : String :=
  match notices.lookup number with
  | some text => text
  | none =>
    if firstFree ≤ number then "Real-time signal " ++ toString (number - firstFree)
    else "Unknown signal " ++ toString number

/-- The signals of which nothing is said when they end a command that is waited for. -/
def quiet : List Nat :=
  [2, 13]

/-- The signals that do not end a process. -/
def harmless : List Nat :=
  [0, 17, 18, 19, 20, 21, 22, 23, 28]

/-- The signals that a process cannot ward off. -/
def inescapable : List Nat :=
  [9, 19]

def nameOf? (number : Nat) : Option String :=
  names.lookup number

def written? (text : Chars) : Option Nat :=
  (Chars.toNat? text).filter (· < count)

/-- The number of the signal, not below a least one, that a text writes or names. -/
def number? (least : Nat) (text : Chars) : Option Nat :=
  match written? text with
  | some n => some n
  | none =>
    let name := String.ofList (text.map Char.toUpper)
    (names.find? fun entry => least ≤ entry.1 && entry.2 == name).map Prod.fst

/-- The exit status that stands for a signal. -/
def status (signal : Nat) : Nat :=
  128 + signal

end Relink.Shell.Signal
