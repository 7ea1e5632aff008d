namespace Relink.Files.Path

def isAbsolute (path : String) : Bool :=
  path.toList.head? == some '/'

/-- The path of an entry below a directory; an absolute one stands for itself. -/
def join (base entry : String) : String :=
  if isAbsolute entry || base.isEmpty then entry
  else if base.toList.getLast? == some '/' then base ++ entry
  else base ++ "/" ++ entry

/-- The steps of a path: the texts between its slashes. -/
def steps (path : String) : List String :=
  ((path.toList.splitOn '/').map String.ofList).filter (!·.isEmpty)

/-- The name of the entry that a path leads to, if its last step is a name; steps that stay in place do
not count. -/
def fileName? (path : String) : Option String :=
  match ((steps path).filter (· ≠ ".")).getLast? with
  | some ".." => none
  | last => last

end Relink.Files.Path
