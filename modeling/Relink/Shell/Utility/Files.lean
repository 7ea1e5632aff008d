import Relink.Shell.Utility.Mode
import Relink.Shell.Utility.Text

namespace Relink.Shell.Utility

/-- What a path leads to, if a link at its end is not followed. -/
def target (session : Session) (path : Chars) : Except SystemError Files.Tree.Target :=
  session.files.resolve false session.here (Chars.toString path)

/-- What a path leads to, if a link at its end is followed. -/
def destination (session : Session) (path : Chars) : Except SystemError Files.Tree.Target :=
  session.files.resolve true session.here (Chars.toString path)

def leadsToDirectory (session : Session) (path : Chars) : Bool :=
  session.files.isDirectoryAt session.here (Chars.toString path)

def entryPath (directory name : Chars) : Chars :=
  if directory.getLast? = some '/' then directory ++ name else directory ++ '/' :: name

def withoutSlashes (path : Chars) : Chars :=
  let trimmed := (path.reverse.dropWhile (· == '/')).reverse
  if trimmed.isEmpty then path.take 1 else trimmed

/-- The paths on the way to a path, each a step longer than the one before. -/
def ways (path : Chars) : List Chars :=
  let ends (n : Nat) : Bool := path[n]? = some '/' && 0 < n && path[n - 1]? ≠ some '/'
  ((List.range path.length).filter ends).map fun n => path.take n

/-- Prints what has been done, if that is asked for. -/
def report (given : Given) (text : String) (session : Session) : Session :=
  if given.has 'v' then printLine text session else session

def makeDirectory (given : Given) (path : Chars) (session : Session) : Except SystemError Session :=
  match target session (withoutSlashes path) with
  | .ok (.free place) =>
    let name := Chars.toString session.name
    let made := session.withFiles (session.files.put place .directory)
    .ok (report given (name ++ ": created directory " ++ quoted path) made)
  | .ok (.found ..) => .error (.numbered 17)
  | .error cause => .error cause

/-- Makes directories, with those on the way if asked to. -/
def mkdir : Utility :=
  withOptions ⟨"pvZ", "m", [("parents", 'p'), ("verbose", 'v'), ("mode", 'm')], "", true⟩ 1 fun given session =>
    let refuse (path : Chars) (cause : SystemError) (session : Session) : Session :=
      failOn "cannot create directory" path cause session
    let make (path : Chars) (session : Session) : Session :=
      match makeDirectory given path session with
      | .ok session => session
      | .error cause => refuse path cause session
    let makeWay (state : Bool × Session) (way : Chars) : Bool × Session :=
      let (goesOn, session) := state
      if !goesOn || leadsToDirectory session way then (goesOn, session)
      else
        match makeDirectory given way session with
        | .ok session => (true, session)
        | .error cause =>
          (false, refuse way (if cause = .numbered 17 then Files.Tree.notDirectory else cause) session)
    let step (path : Chars) (session : Session) : Session :=
      if !given.has 'p' then make path session
      else
        let (goesOn, session) := (ways (withoutSlashes path)).foldl makeWay (true, session)
        if !goesOn || leadsToDirectory session path then session else make path session
    match (given.value? 'm').filter fun mode => (Mode.read? session.mask true 0o777 mode).isNone with
    | some mode => fail ("invalid mode " ++ cited mode) session
    | none => if given.operands.isEmpty then misuse "missing operand" session else each step given.operands session

/-- Removes an empty directory. -/
def removeDirectory (path : Chars) (session : Session) : Except SystemError Session :=
  if lastStep path = ['.'] then .error (.numbered 22)
  else if lastStep path = ['.', '.'] then .error (.numbered 39)
  else
    match target session path with
    | .ok (.found [] _) => .error (.numbered 16)
    | .ok (.found place .directory) =>
      if (session.files.names place).isEmpty then .ok (session.withFiles (session.files.remove place))
      else .error (.numbered 39)
    | .ok (.found ..) => .error Files.Tree.notDirectory
    | .ok (.free _) => .error .notFound
    | .error cause => .error cause

/-- Removes empty directories, with those on the way if asked to. -/
def rmdir : Utility :=
  let names := [("parents", 'p'), ("verbose", 'v'), ("ignore-fail-on-non-empty", '!')]
  withOptions ⟨"pv", "", names, "", true⟩ 1 fun given session =>
    let remove (state : Bool × Session) (path : Chars) (action : String) : Bool × Session :=
      let (goesOn, session) := state
      if !goesOn then state
      else
        let session := report given (Chars.toString session.name ++ ": removing directory, " ++ quoted path) session
        match removeDirectory path session with
        | .ok session => (true, session)
        | .error cause =>
          if cause = .numbered 39 && given.has '!' then (false, session)
          else (false, failOn action path cause session)
    let step (path : Chars) (session : Session) : Session :=
      let first := remove (true, session) path "failed to remove"
      let parents := if given.has 'p' then (ways (withoutSlashes path)).reverse else []
      (parents.foldl (fun state way => remove state way "failed to remove directory") first).2
    if given.operands.isEmpty then misuse "missing operand" session else each step given.operands session

/-- The entries at a place and below it with their paths, those of a directory before itself. -/
def below (files : Files.Tree) (place : Files.Place) (path : Chars) : List (Chars × Files.Entry) :=
  (files.entries.filterMap fun entry =>
    if place.isPrefixOf entry.1 then
      let steps := (entry.1.drop place.length).map Chars.ofString
      some (steps.foldl entryPath path, entry.2)
    else none).reverse

/-- Asks whether to go on, and reads the answer from the input. -/
def confirms (question : String) (session : Session) : Bool × Session :=
  let session := session.write 2 (session.name ++ Chars.ofString (": " ++ question ++ "? "))
  let (line, _, session) := session.readLine 0
  (line.head? = some 'y' || line.head? = some 'Y', session)

/-- What an entry is called in a question. -/
def kindOf : Files.Entry → String
  | .file content _ => if content.isEmpty then "regular empty file" else "regular file"
  | .directory => "directory"
  | .link _ => "symbolic link"
  | .sink => "character special file"
  | .program _ => "regular file"

/-- Removes files, and directories with all in them if asked to. -/
def rm : Utility :=
  let names := [("force", 'f'), ("interactive", 'i'), ("recursive", 'r'), ("dir", 'd'), ("verbose", 'v'),
    ("one-file-system", '1'), ("no-preserve-root", '2'), ("preserve-root", '3')]
  withOptions ⟨"dfirvIR", "", names, "i3", true⟩ 1 fun given session =>
    let force := given.last? ['f', 'i'] = some 'f'
    let asks := given.last? ['f', 'i'] = some 'i'
    let recursive := given.has 'r' || given.has 'R'
    let refuse (path : Chars) (cause : SystemError) (session : Session) : Session :=
      if force && (cause = .notFound || cause = Files.Tree.notDirectory) then session
      else failOn "cannot remove" path cause session
    let removed (path : Chars) (entry : Files.Entry) : String :=
      (if entry.isDirectory then "removed directory " else "removed ") ++ quoted path
    let remove (path : Chars) (place : Files.Place) (entry : Files.Entry) (session : Session) : Session :=
      let (agreed, session) :=
        if asks then confirms ("remove " ++ kindOf entry ++ " " ++ quoted path) session else (true, session)
      if !agreed then session
      else
        let gone := below session.files place path
        let session := session.withFiles (session.files.remove place)
        each (fun line => printLine (Chars.toString line))
          (if given.has 'v' then gone.map fun entry => Chars.ofString (removed entry.1 entry.2) else []) session
    let step (path : Chars) (session : Session) : Session :=
      match target session path with
      | .ok (.found place entry) =>
        let isEmpty := given.has 'd' && (session.files.names place).isEmpty
        let isLink := (target session (withoutSlashes path)) matches .ok (.found _ (.link _))
        if entry.isDirectory && isLink && (recursive || given.has 'd') then
          failOn "cannot remove" path Files.Tree.notDirectory session
        else if entry.isDirectory && !recursive && !isEmpty then
          refuse path (if given.has 'd' then .numbered 39 else Files.Tree.isDirectory) session
        else if entry.isDirectory && recursive && (lastStep path = ['.'] || lastStep path = ['.', '.']) then
          fail ("refusing to remove '.' or '..' directory: skipping " ++ quoted path) session
        else if place.isEmpty then
          fail "use --no-preserve-root to override this failsafe"
            (complain ("it is dangerous to operate recursively on " ++ quoted path) session)
        else remove path place entry session
      | .ok (.free _) => refuse path .notFound session
      | .error cause => refuse path cause session
    if !given.operands.isEmpty then each step given.operands session
    else if force then session
    else misuse "missing operand" session

/-- Carries out a step for each source and a destination: a path in a directory that is given, or that is the last
operand; or else the last operand itself. -/
def transfer (given : Given) (step : Chars → Chars → Session → Session) (session : Session) : Session :=
  let into (directory : Chars) (sources : List Chars) : Session :=
    each (fun source => step source (entryPath directory (lastStep source))) sources session
  let refuse (directory : Chars) (title : String) : Session :=
    let exists_ := session.files.exists_ session.here (Chars.toString directory)
    failOn title directory (if exists_ then Files.Tree.notDirectory else .notFound) session
  match given.value? 't', given.operands with
  | _, [] => misuse "missing file operand" session
  | some directory, sources =>
    if leadsToDirectory session directory then into directory sources else refuse directory "target directory"
  | none, [only] => misuse ("missing destination file operand after " ++ quoted only) session
  | none, first :: second :: more =>
    let last := (first :: second :: more).getLastD []
    let sources := (first :: second :: more).dropLast
    if given.has 'T' then
      match more with
      | [] => step first second session
      | extra :: _ => misuse ("extra operand " ++ cited extra) session
    else if leadsToDirectory session last then into last sources
    else if more.isEmpty then step first second session
    else refuse last "target"

/-- Moves what is at a path to another path, at which nothing or something of the same kind may be. -/
def moveTo (given : Given) (source path : Chars) (session : Session) : Session :=
  let between := quoted source ++ " to " ++ quoted path
  let intoItself := "cannot move " ++ quoted source ++ " to a subdirectory of itself, " ++ quoted path
  let move (old new : Files.Place) : Session :=
    report given ("renamed " ++ quoted source ++ " -> " ++ quoted path)
      (session.withFiles (session.files.move old new))
  match target session source with
  | .error cause => failOn "cannot stat" source cause session
  | .ok (.free _) => failOn "cannot stat" source .notFound session
  | .ok (.found old entry) =>
    match target session (if entry.isDirectory then withoutSlashes path else path) with
    | .error cause =>
      let isFree := (target session (withoutSlashes path)) matches .ok (.free _)
      let cause := if isFree then Files.Tree.notDirectory else cause
      fail ("cannot move " ++ between ++ ": " ++ cause.cause) session
    | .ok (.free new) => if old.isPrefixOf new then fail intoItself session else move old new
    | .ok (.found new other) =>
      if old = new then fail (quoted source ++ " and " ++ quoted path ++ " are the same file") session
      else if given.has 'n' then session
      else if old.isPrefixOf new then fail intoItself session
      else if entry.isDirectory && !other.isDirectory then
        fail ("cannot overwrite non-directory " ++ quoted path ++ " with directory " ++ quoted source) session
      else if !entry.isDirectory && other.isDirectory then
        fail ("cannot overwrite directory " ++ quoted path ++ " with non-directory") session
      else if other.isDirectory && !(session.files.names new).isEmpty then
        failOn "cannot overwrite" path (.numbered 39) session
      else move old new

/-- The long names of what programs that transfer files have in common. -/
def transferNames : List (String × Char) := [
  ("force", 'f'), ("interactive", 'i'), ("no-clobber", 'n'), ("no-target-directory", 'T'),
  ("target-directory", 't'), ("verbose", 'v'), ("backup", '1'), ("suffix", 'S'), ("update", 'u')]

def mv : Utility :=
  let names := transferNames ++ [("strip-trailing-slashes", '2'), ("context", 'Z'), ("debug", '3')]
  withOptions ⟨"bfinuvTZ", "tS", names, "1u", true⟩ 1 fun given => transfer given (moveTo given)

/-- Puts a copy of what is at a place, with all below it, at another place. -/
def copyAll (files : Files.Tree) (old new : Files.Place) : Files.Tree :=
  let copied := files.entries.filterMap fun entry =>
    if old.isPrefixOf entry.1 then some (new ++ entry.1.drop old.length, entry.2) else none
  copied.foldl (fun files entry => files.put entry.1 entry.2) files

/-- The entry that a copy of a file makes in the place of another. The marks of that one stay. -/
def overwriting (keepsMode : Bool) (entry old : Files.Entry) : Files.Entry :=
  match entry, old with
  | .file content executable, .file _ kept => .file content (if keepsMode then executable else kept)
  | entry, _ => entry

def copyTo (given : Given) (source path : Chars) (session : Session) : Session :=
  let recursive := given.has 'r' || given.has 'R' || given.has 'a'
  let follows := given.has 'L' || !(recursive || given.has 'd' || given.has 'P')
  let copied (session : Session) : Session := report given (quoted source ++ " -> " ++ quoted path) session
  let copy (entry : Files.Entry) (old new : Files.Place) : Session :=
    if entry.isDirectory then
      let lines := ((below session.files old source).reverse.zip (below session.files old path).reverse).map
        fun (a, b) => Chars.ofString (quoted a.1 ++ " -> " ++ quoted b.1)
      each (fun line => printLine (Chars.toString line)) (if given.has 'v' then lines else [])
        (session.withFiles (copyAll session.files old new))
    else copied (session.withFiles (session.files.put new entry))
  match session.files.resolve follows session.here (Chars.toString source) with
  | .error cause => failOn "cannot stat" source cause session
  | .ok (.free _) => failOn "cannot stat" source .notFound session
  | .ok (.found old entry) =>
    let isLink := entry matches .link _
    let goal := if entry.isDirectory then withoutSlashes path else path
    if entry.isDirectory && !recursive then
      fail ("-r not specified; omitting directory " ++ quoted source) session
    else
      match if isLink then target session goal else destination session goal with
      | .error cause =>
        let isFree := (target session (withoutSlashes path)) matches .ok (.free _)
        let kind :=
          if entry.isDirectory then "directory" else if isLink then "symbolic link" else "regular file"
        failOn ("cannot create " ++ kind) path (if isFree then Files.Tree.notDirectory else cause) session
      | .ok (.free new) =>
        if old.isPrefixOf new then
          fail ("cannot copy a directory, " ++ quoted source ++ ", into itself, " ++ quoted path) session
        else if (target session goal) matches .ok (.found _ (.link _)) then
          fail ("not writing through dangling symlink " ++ quoted path) session
        else copy entry old new
      | .ok (.found new other) =>
        if old = new then fail (quoted source ++ " and " ++ quoted path ++ " are the same file") session
        else if given.has 'n' then session
        else if entry.isDirectory && !other.isDirectory then
          fail ("cannot overwrite non-directory " ++ quoted path ++ " with directory " ++ quoted source) session
        else if !entry.isDirectory && other.isDirectory then
          fail ("cannot overwrite directory " ++ quoted path ++ " with non-directory") session
        else if entry.isDirectory && old.isPrefixOf new then
          fail ("cannot copy a directory, " ++ quoted source ++ ", into itself, " ++ quoted path) session
        else if other matches .sink then copied session
        else copy (overwriting (given.has 'p' || given.has 'a') entry other) old new

/-- Copies files, and directories with all in them if asked to. -/
def cp : Utility :=
  let names := transferNames ++ [("recursive", 'r'), ("archive", 'a'), ("no-dereference", 'P'),
    ("dereference", 'L'), ("preserve", 'p'), ("link", 'l'), ("symbolic-link", 's'), ("parents", '2'),
    ("remove-destination", '3'), ("reflink", '4'), ("attributes-only", '5'), ("copy-contents", '6'),
    ("no-preserve", '7'), ("one-file-system", 'x'), ("sparse", '8'), ("strip-trailing-slashes", '9')]
  withOptions ⟨"abdfHilLnprsuvxPRTZ", "tS78", names, "1up4", true⟩ 1 fun given session =>
    let warning := "warning: behavior of -n is non-portable and may change in future; use --update=none instead"
    transfer given (copyTo given) (if given.has 'n' then complain warning session else session)

/-- Makes files that lack. -/
def touch : Utility :=
  let names := [("no-create", 'c'), ("date", 'd'), ("no-dereference", 'h'), ("reference", 'r'), ("time", '1')]
  withOptions ⟨"acfhm", "drt1", names, "", true⟩ 1 fun given session =>
    let step (path : Chars) (session : Session) : Session :=
      match destination session path with
      | .ok (.free place) =>
        if given.has 'c' then session else session.withFiles (session.files.put place (.file [] false))
      | .ok _ => session
      | .error cause =>
        if given.has 'c' && cause = .notFound then session else failOn "cannot touch" path cause session
    if given.operands.isEmpty then misuse "missing file operand" session else each step given.operands session

/-- Links a path to what a source says or to what is there. -/
def linkTo (given : Given) (source path : Chars) (session : Session) : Session :=
  let symbolic := given.has 's'
  let action := "failed to create " ++ if symbolic then "symbolic link" else "hard link"
  let found := target session source
  let link (place : Files.Place) (entry : Files.Entry) : Session :=
    report given (quoted path ++ (if symbolic then " -> " else " => ") ++ quoted source)
      (session.withFiles (session.files.put place entry))
  let entry : Except SystemError Files.Entry :=
    if symbolic then .ok (.link (Chars.toString source))
    else
      match found with
      | .ok (.found _ entry) => .ok entry
      | .ok (.free _) => .error .notFound
      | .error cause => .error cause
  match entry, target session path with
  | .error cause, _ => failOn "failed to access" source cause session
  | .ok .directory, _ => fail (shown source ++ ": hard link not allowed for directory") session
  | .ok _, .error cause => failOn action path cause session
  | .ok entry, .ok (.free place) =>
    if symbolic && source.isEmpty then
      fail (action ++ " " ++ quoted path ++ " -> " ++ quoted source ++ ": " ++ SystemError.notFound.cause) session
    else link place entry
  | .ok entry, .ok (.found place old) =>
    let isSame :=
      match found with
      | .ok (.found other _) => !symbolic && other == place
      | _ => false
    if !given.has 'f' || old.isDirectory then failOn action path (.numbered 17) session
    else if isSame then fail (quoted source ++ " and " ++ quoted path ++ " are the same file") session
    else link place entry

/-- Makes links. A single operand is linked to from here. -/
def ln : Utility :=
  let names := transferNames.filter (·.1 ≠ "no-clobber") ++ [("symbolic", 's'), ("no-dereference", 'n'),
    ("logical", 'L'), ("physical", 'P'), ("relative", 'r'), ("directory", 'd')]
  withOptions ⟨"bdfinrsvFLPT", "tS", names, "1", true⟩ 1 fun given session =>
    match given.value? 't', given.operands with
    | none, [only] => linkTo given only (lastStep only) session
    | none, [_, path] =>
      let isLink := (target session path) matches .ok (.found _ (.link _))
      let given := if given.has 'n' && isLink then given.withFlag 'T' [] else given
      transfer given (linkTo given) session
    | _, _ => transfer given (linkTo given) session

/-- The first argument that changes modes though it looks like options, and the others. -/
def modeAmong : List Chars → Option Chars × List Chars
  | [] => (none, [])
  | ['-', '-'] :: rest => (none, ['-', '-'] :: rest)
  | ('-' :: c :: text) :: rest =>
    if "rwxXstugoa,+=01234567".toList.contains c then (some ('-' :: c :: text), rest)
    else
      let (mode, others) := modeAmong rest
      (mode, ('-' :: c :: text) :: others)
  | operand :: rest =>
    let (mode, others) := modeAmong rest
    (mode, operand :: others)

/-- The mode of an entry: of files it is known only whether they may be run. -/
def modeOf (entry : Files.Entry) : Nat :=
  if entry.isDirectory || entry.isExecutable then 0o755 else 0o644

/-- Changes whether files may be run. -/
def chmod : Utility := fun arguments session =>
  let names := [("changes", 'c'), ("silent", 'f'), ("quiet", 'f'), ("verbose", 'v'), ("recursive", 'R'),
    ("reference", '1'), ("no-preserve-root", '2'), ("preserve-root", '3')]
  let (mode?, arguments) := modeAmong arguments
  withOptions ⟨"Rcfv", "1", names, "", true⟩ 1 (fun given session =>
    let change (mode path : Chars) (place : Files.Place) (entry : Files.Entry) (session : Session) : Session :=
      let before := modeOf entry
      let after := (Mode.read? session.mask entry.isDirectory before mode).getD before
      let session :=
        match entry with
        | .file text _ =>
          session.withFiles (session.files.put place (.file text (after &&& Mode.running ≠ 0)))
        | _ => session
      if after ≠ before && (given.has 'v' || given.has 'c') then
        printLine ("mode of " ++ quoted path ++ " changed from " ++ Mode.description before ++ " to " ++
          Mode.description after) session
      else report given ("mode of " ++ quoted path ++ " retained as " ++ Mode.description before) session
    let step (mode path : Chars) (session : Session) : Session :=
      match session.files.find session.here (Chars.toString path) with
      | .ok (place, entry) =>
        let session := change mode path place entry session
        if !given.has 'R' || !entry.isDirectory then session
        else
          each (fun name session =>
            match target session name with
            | .ok (.found place entry) => change mode name place entry session
            | _ => session) ((below session.files place path).reverse.map Prod.fst) session
      | .error cause =>
        if (target session path) matches .ok (.found ..) then
          fail ("cannot operate on dangling symlink " ++ quoted path) session
        else if given.has 'f' then session.withStatus 1
        else failOn "cannot access" path cause session
    let apply (mode : Chars) (operands : List Chars) : Session :=
      if operands.isEmpty then misuse ("missing operand after " ++ cited mode) session
      else if (Mode.read? 0 false 0 mode).isNone then misuse ("invalid mode: " ++ cited mode) session
      else each (step mode) operands session
    match mode?, given.operands with
    | some mode, operands => apply mode operands
    | none, mode :: operands => apply mode operands
    | none, [] => misuse "missing operand" session) arguments session

/-- The sign after a name that tells what the entry is. -/
def indicator (given : Given) : Files.Entry → Chars
  | .directory => if given.has 'F' || given.has 'p' then ['/'] else []
  | .link _ => if given.has 'F' then ['@'] else []
  | entry => if given.has 'F' && entry.isExecutable then ['*'] else []

/-- The names that are listed of a directory, each with what is there. -/
def listed (given : Given) (files : Files.Tree) (place : Files.Place) : List (Chars × Files.Entry) :=
  let names := files.names place
  let names := if given.has 'a' || given.has 'A' then names else names.filter fun name => name.toList.head? ≠ some '.'
  let entries := names.filterMap fun name =>
    (files.at? (place ++ [name])).map fun entry => (Chars.ofString name, entry)
  let own := if given.last? ['a', 'A'] = some 'a' then [(['.'], .directory), (['.', '.'], .directory)] else []
  let all := own ++ entries
  if given.has 'r' then all.reverse else all

def listing (given : Given) (entries : List (Chars × Files.Entry)) : Chars :=
  let names := entries.map fun (name, entry) => name ++ indicator given entry
  if given.has 'm' then
    if names.isEmpty then [] else [',', ' '].intercalate names ++ ['\n']
  else names.flatMap (· ++ ['\n'])

/-- The directories that are listed for one, each with its path: itself, and those below it if asked for. -/
def directoriesFrom (given : Given) (files : Files.Tree) : Nat → Chars → Files.Place → List (Chars × Files.Place)
  | 0, _, _ => []
  | fuel + 1, path, place =>
    let isOwn (name : Chars) : Bool := name = ['.'] || name = ['.', '.']
    let inner := (listed given files place).filter fun (name, entry) => entry.isDirectory && !isOwn name
    (path, place) ::
      if given.has 'R' then
        inner.flatMap fun (name, _) =>
          directoriesFrom given files fuel (entryPath path name) (place ++ [Chars.toString name])
      else []

def ls : Utility :=
  let names := [("all", 'a'), ("almost-all", 'A'), ("directory", 'd'), ("classify", 'F'), ("recursive", 'R'),
    ("reverse", 'r'), ("color", '1'), ("dereference", 'L'), ("sort", '2'), ("width", 'w'), ("hide", '3'),
    ("ignore", 'I'), ("format", '4')]
  withOptions ⟨"abcdfghiklmnopqrstuvxABCDFGHLNQRSUXZ1", "wIT234", names, "1F", true⟩ 2 fun given session =>
    let follows := !(given.has 'd' || given.has 'F' || given.has 'l') || given.has 'H' || given.has 'L'
    let find (path : Chars) : Except SystemError (Files.Place × Files.Entry) :=
      let resolve (follows : Bool) := session.files.resolve follows session.here (Chars.toString path)
      match resolve follows, resolve false with
      | .ok (.found place entry), _ | _, .ok (.found place entry) => .ok (place, entry)
      | .error cause, _ => .error cause
      | _, _ => .error .notFound
    let operands := if given.operands.isEmpty then [['.']] else given.operands
    let sorted := operands.mergeSort fun a b => String.ofList a ≤ String.ofList b
    let session := each (fun path session =>
      match find path with
      | .error cause => (failOn "cannot access" path cause session).withStatus 2
      | .ok _ => session) operands session
    let sorted := if given.has 'r' then sorted.reverse else sorted
    let found := sorted.filterMap fun path => (find path).toOption.map fun found => (path, found)
    let isListed (entry : Files.Entry) : Bool := entry.isDirectory && !given.has 'd'
    let single := (found.filter fun entry => !isListed entry.2.2).map fun entry => (entry.1, entry.2.2)
    let directories := (found.filter fun entry => isListed entry.2.2).flatMap fun entry =>
      directoriesFrom given session.files (session.files.entries.length + 1) entry.1 entry.2.1
    let titled := 1 < operands.length || given.has 'R'
    let blocks := directories.map fun (path, place) =>
      (if titled then path ++ [':', '\n'] else []) ++ listing given (listed given session.files place)
    let all := (if single.isEmpty then [] else [listing given single]) ++ blocks
    print (['\n'].intercalate all) session

end Relink.Shell.Utility
