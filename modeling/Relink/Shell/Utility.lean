import Relink.Shell.Utility.Exchange
import Relink.Shell.Utility.Excerpt
import Relink.Shell.Utility.Files

namespace Relink.Shell.Utility

/-- The programs that start no others, by their names. -/
def table : List (String × Utility) := [
  ("cat", cat), ("wc", wc), ("tr", tr), ("head", head), ("tail", tail), ("sort", sort), ("tee", tee), ("seq", seq),
  ("basename", basename), ("dirname", dirname), ("sleep", sleep), ("echo", echo), ("mkdir", mkdir),
  ("rmdir", rmdir), ("rm", rm), ("mv", mv), ("cp", cp), ("touch", touch), ("ln", ln), ("chmod", chmod), ("ls", ls)]

def named? (name : String) : Option Utility :=
  table.lookup name

def names : List String :=
  table.map Prod.fst

end Relink.Shell.Utility
