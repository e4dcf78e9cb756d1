import TinyShell.Userland.Mode
import TinyShell.Userland.Tool.Basic

/-!
# Tools for the file tree

`touch`, `rm`, `rmdir`, `mkdir` and `ln`.
-/

namespace TinyShell.Userland.Tool

/-- A path without the slashes at its end. -/
def withoutSlashes (path : Bytes) : Bytes :=
  let body := (path.reverse.dropWhile (· == slash)).reverse
  if body.isEmpty then path.take 1 else body

/-! ## Making files -/

def touchOptions : Known where
  letters := "acfhm"
  taking := "drt"
  words := [("no-create", 'c'), ("date", 'd'), ("reference", 'r'), ("no-dereference", 'h')]

/-- Whether a text gives a time in digits only. -/
def isStamp (text : Bytes) : Bool :=
  let digits := text.takeWhile (· != 0x2E)
  [8, 10, 12].contains digits.length && digits.all fun b => 0x30 ≤ b && b ≤ 0x39

def touch : Program := fun process =>
  withRequest touchOptions process fun r =>
    let p := Progress.start process
    let touchOne (p : Progress) (name : Bytes) : Progress :=
      let found := if r.has 'h' then p.files.findEntry process.cwd name
        else p.files.find process.cwd name
      match found with
      | .ok _ => p
      | .error e =>
        if name = [0x2D] || (r.has 'c' && e = .noEntry) then p
        else match e with
          | .noEntry =>
            match p.files.openFile process.cwd name (unmasked process fileMode) with
            | .ok (_, files) => { p with files }
            | .error .isDirectory => p.refuse "setting times of" (Quoted.always name) .noEntry
            | .error e => p.refuse "cannot touch" (Quoted.always name) e
          | e => p.refuse "cannot touch" (Quoted.always name) e
    match r.value? 't', (r.value? 'r').map fun name => (name, p.files.find process.cwd name) with
    | some stamp, _ =>
      if !isStamp stamp then abandon p (utf8 "invalid date format " ++ Quoted.always stamp) process
      else if r.operands.isEmpty then usage (utf8 "missing file operand") process
      else (r.operands.foldl touchOne p).finish process
    | none, some (name, .error e) =>
      abandon p (utf8 "failed to get attributes of " ++ Quoted.always name ++ utf8 (": " ++ e.text))
        process
    | none, _ =>
      if r.operands.isEmpty then usage (utf8 "missing file operand") process
      else (r.operands.foldl touchOne p).finish process

/-! ## Removing -/

/-- Why a name cannot be removed, or the tree without it. What is below a directory goes
first; what stays is given with the reason. -/
def removeTree (files : Files) (cwd : Inode) : (fuel : Nat) → (path : Bytes) →
    Files × List (Bytes × Option Errno)
  | 0, path => (files, [(path, some .linkLoop)])
  | fuel + 1, path =>
    let removeDirectory (files : Files) : Files × List (Bytes × Option Errno) :=
      match files.removeDirectory cwd path with
      | .ok files => (files, [(path, none)])
      | .error e => (files, [(path, some e)])
    match files.findEntry cwd path with
    | .error e => (files, [(path, some e)])
    | .ok i =>
      match files.directory? i with
      | none =>
        match files.unlink cwd path with
        | .ok files => (files, [(path, none)])
        | .error e => (files, [(path, some e)])
      | some d =>
        if d.entries.isEmpty then removeDirectory files
        else if !(d.permits .read && d.permits .execute) then
          if d.permits .read then
            let failures := d.entries.reverse.map fun (name, _) =>
              (Path.join path name, some Errno.access)
            (files, failures)
          else (files, [(path, some .access)])
        else
          let (files, said) := d.entries.reverse.foldl (fun (files, said) (name, _) =>
            let (files, more) := removeTree files cwd fuel (Path.join path name)
            (files, said ++ more)) (files, ([] : List (Bytes × Option Errno)))
          if said.any (·.2.isSome) then (files, said)
          else
            let (files, last) := removeDirectory files
            (files, said ++ last)

def rmOptions : Known where
  letters := "dfiIrRv"
  words := [("force", 'f'), ("interactive", 'i'), ("recursive", 'r'), ("dir", 'd'),
    ("verbose", 'v')]

/-- A path that ends in one slash instead of several. -/
def tidy (path : Bytes) : Bytes :=
  let body := (path.reverse.dropWhile (· == slash)).reverse
  if body.length + 1 < path.length && !body.isEmpty then body ++ [slash] else path

/-- Whether the last name on a path is `.` or `..`. -/
def isDots (path : Bytes) : Bool :=
  let last := (Path.names path).getLast?
  last == some Path.dot || last == some Path.dotDot

/-- What `rm` asks about. -/
def kindOf (files : Files) (i : Inode) : String :=
  match files.node? i with
  | some (.directory _) => "directory"
  | some (.file _ content) => if content.isEmpty then "regular empty file" else "regular file"
  | some (.link _) => "symbolic link"
  | _ => "character special file"

/-- Asks on the error output and reads a line: whether the answer is yes. -/
def ask (process : Process) (p : Progress) (question : Bytes) : Progress × Bool :=
  let rest := process.input.rest.drop p.consumed
  let answer := rest.takeWhile (· != newline)
  let count := min (answer.length + 1) rest.length
  let p := p.putErrors (p.tool ++ utf8 ": " ++ question ++ utf8 "? ")
  ({ p with consumed := p.consumed + count },
    answer.head? = some 0x79 || answer.head? = some 0x59)

def rmOne (process : Process) (r : Request) (p : Progress) (name : Bytes) : Progress :=
  let isDeep := r.has 'r' || r.has 'R'
  let shown := Quoted.always (tidy name)
  let note (p : Progress) (isDirectory : Bool) (path : Bytes) : Progress :=
    if r.has 'v' then
      p.put (utf8 (if isDirectory then "removed directory " else "removed ") ++
        Quoted.always path ++ [newline])
    else p
  match p.files.findEntry process.cwd name with
  | .error e =>
    if r.has 'f' && (e = .noEntry || e = .notDirectory) then p else p.refuse "cannot remove" shown e
  | .ok i =>
    let isDirectory := (p.files.directory? i).isSome
    if isDirectory && !isDeep && !r.has 'd' then p.refuse "cannot remove" shown .isDirectory
    else if isDirectory && isDots name then
      p.complain (utf8 "refusing to remove '.' or '..' directory: skipping " ++ shown)
    else if isDirectory && (Path.names name).isEmpty then
      (p.complain (utf8 "it is dangerous to operate recursively on " ++ shown)).complain
        (utf8 "use --no-preserve-root to override this failsafe")
    else
      let (p, agreed) :=
        if r.has 'i' && !r.has 'f' then
          ask process p (utf8 ("remove " ++ kindOf p.files i ++ " ") ++ shown)
        else (p, true)
      if !agreed then p
      else if isDeep then
        let before := p.files
        let (files, said) := removeTree p.files process.cwd (p.files.nodes.size + 1) name
        said.foldl (fun (p : Progress) (path, failure) =>
          match failure with
          | some e => p.refuse "cannot remove" (Quoted.always (tidy path)) e
          | none =>
            let isDirectory :=
              ((before.findEntry process.cwd path).toOption.bind before.directory?).isSome
            note p isDirectory path) { p with files }
      else
        match if isDirectory then p.files.removeDirectory process.cwd name
          else p.files.unlink process.cwd name with
        | .ok files => note { p with files } isDirectory name
        | .error e => p.refuse "cannot remove" shown e

def rm : Program := fun process =>
  withRequest rmOptions process fun r =>
    if r.operands.isEmpty && !r.has 'f' then usage (utf8 "missing operand") process
    else (r.operands.foldl (rmOne process r) (Progress.start process)).finish process

def rmdirOptions : Known where
  letters := "pv"
  words := [("parents", 'p'), ("verbose", 'v'), ("ignore-fail-on-non-empty", 'i')]

/-- The directories that a path goes through, the last one first. -/
def parentsOf (path : Bytes) : List Bytes :=
  let lead : Bytes := if Path.isAbsolute path then [slash] else []
  let names := Path.names path
  (List.range names.length).reverse.tail.map fun n =>
    lead ++ [slash].intercalate (names.take (n + 1))

def rmdir : Program := fun process =>
  overOperands rmdirOptions "missing operand" process fun r p name =>
    let remove := fun ((p, goesOn) : Progress × Bool) ((path, what) : Bytes × String) =>
      if !goesOn then (p, false)
      else
        let p := if r.has 'v' then
          p.put (utf8 "rmdir: removing directory, " ++ Quoted.always path ++ [newline]) else p
        match p.files.removeDirectory process.cwd path with
        | .ok files => ({ p with files }, true)
        | .error e =>
          if r.has 'i' && e = .notEmpty then (p, false)
          else (p.refuse what (Quoted.always path) e, false)
    let parents := if r.has 'p' then parentsOf name else []
    (((name, "failed to remove") :: parents.map fun path =>
      (path, "failed to remove directory")).foldl remove (p, true)).1

/-! ## Making directories -/

def mkdirOptions : Known where
  letters := "pv"
  taking := "m"
  words := [("mode", 'm'), ("parents", 'p'), ("verbose", 'v')]

/-- Makes the directories on a path that are missing, the last with its own mode. What goes
wrong is given with the path for which it does. -/
def makePath (process : Process) (last : Nat) (files : Files) (path : Bytes) :
    Except (Bytes × Errno) (Files × List Bytes) :=
  let lead : Bytes := if Path.isAbsolute path then [slash] else []
  let names := Path.names path
  let usual := unmasked process directoryMode ||| 0o300
  if names.isEmpty && path.isEmpty then .error (path, .noEntry)
  else (List.range names.length).foldlM (fun (files, made) n =>
    let isLast := n + 1 = names.length
    let path := if isLast then path else lead ++ [slash].intercalate (names.take (n + 1))
    match files.find process.cwd path with
    | .ok i =>
      match files.directory? i with
      | some d =>
        if isLast || d.permits .execute then .ok (files, made) else .error (path, .access)
      | none => .error (path, if isLast then .present else .notDirectory)
    | .error .noEntry =>
      match files.makeDirectory process.cwd path (if isLast then last else usual) with
      | .ok files => .ok (files, made ++ [path])
      | .error e => .error (path, e)
    | .error e => .error (path, e)) (files, ([] : List Bytes))

def mkdir : Program := fun process =>
  withRequest mkdirOptions process fun r =>
    let p := Progress.start process
    let asked := match r.value? 'm' with
      | some text => Mode.apply process.mask text directoryMode
      | none => some (unmasked process directoryMode)
    match asked, r.operands with
    | _, [] => usage (utf8 "missing operand") process
    | none, _ =>
      abandon p (utf8 "invalid mode " ++ Quoted.always ((r.value? 'm').getD [])) process
    | some mode, operands =>
      let make (p : Progress) (path : Bytes) : Progress :=
        let result := if r.has 'p' then makePath process mode p.files path
          else match p.files.makeDirectory process.cwd path mode with
            | .ok files => .ok (files, [path])
            | .error e => .error (path, e)
        match result with
        | .error (path, e) => p.refuse "cannot create directory" (Quoted.always path) e
        | .ok (files, made) =>
          let said := made.flatMap fun path =>
            p.tool ++ utf8 ": created directory " ++ Quoted.always path ++ [newline]
          (if r.has 'v' then p.put said else p) |> fun p => { p with files }
      (operands.foldl make p).finish process

/-! ## Making links -/

def lnOptions : Known where
  letters := "dfFiLnPsTv"
  taking := "t"
  words := [("symbolic", 's'), ("force", 'f'), ("no-dereference", 'n'),
    ("no-target-directory", 'T'), ("target-directory", 't'), ("verbose", 'v'), ("logical", 'L'),
    ("physical", 'P')]

/-- Makes one link. -/
def linkOne (process : Process) (r : Request) (p : Progress) (source path : Bytes) : Progress :=
  let isSymbolic := r.has 's'
  let cwd := process.cwd
  let entry := p.files.findEntry cwd path
  let origin := if isSymbolic || r.has 'L' then p.files.find cwd source
    else p.files.findEntry cwd source
  let isDirectory (i : Inode) : Bool := (p.files.directory? i).isSome
  let make (files : Files) : Except Errno Files :=
    if isSymbolic then files.makeLink cwd path source else do files.makeName cwd path (← origin)
  let refuse (e : Errno) : Progress :=
    let names : Bytes :=
      if isSymbolic then
        if source.isEmpty || e = .nameTooLong then
          Quoted.always path ++ utf8 " -> " ++ Quoted.always source
        else Quoted.always path
      else if e = .present || e = .noSpace then Quoted.always path
      else Quoted.always path ++ utf8 " => " ++ Quoted.always source
    p.refuse (if isSymbolic then "failed to create symbolic link" else "failed to create hard link")
      names e
  let finish (files : Files) : Progress :=
    let said := Quoted.always path ++ utf8 (if isSymbolic then " -> " else " => ") ++
      Quoted.always source ++ [newline]
    { (if r.has 'v' then p.put said else p) with files }
  match isSymbolic, origin with
  | false, .error e => p.refuse "failed to access" (Quoted.always source) e
  | _, _ =>
    if !isSymbolic && origin.toOption.any isDirectory then
      p.complain (Quoted.name source ++ utf8 ": hard link not allowed for directory")
    else
      match r.has 'f', entry with
      | true, .ok old =>
        if isDirectory old then
          p.complain (Quoted.name path ++ utf8 ": cannot overwrite directory")
        else if origin.toOption = some old && withoutSlashes source = withoutSlashes path then
          p.complain (Quoted.always source ++ utf8 " and " ++ Quoted.always path ++
            utf8 " are the same file")
        else
          match do make (← p.files.unlink cwd path) with
          | .ok files => finish files
          | .error e => refuse e
      | _, _ =>
        match make p.files with
        | .ok files => finish files
        | .error e => refuse e

/-- Makes links of the same names in a directory. -/
def linkInto (process : Process) (r : Request) (p : Progress) (directory : Bytes)
    (sources : List Bytes) : Progress :=
  sources.foldl (fun p source =>
    linkOne process r p source (Path.join directory ((Path.names source).getLastD []))) p

def ln : Program := fun process =>
  withRequest lnOptions process fun r =>
    let p := Progress.start process
    let isDirectory (path : Bytes) : Bool :=
      let found := if r.has 'n' then p.files.findEntry process.cwd path
        else p.files.find process.cwd path
      (found.toOption.bind p.files.directory?).isSome
    match r.value? 't', r.operands with
    | _, [] => usage (utf8 "missing file operand") process
    | some directory, sources =>
      match p.files.find process.cwd directory with
      | .error e =>
        let shown := Quoted.always directory
        abandon p (utf8 "failed to access " ++ shown ++ utf8 (": " ++ e.text)) process
      | .ok _ =>
        if isDirectory directory then (linkInto process r p directory sources).finish process
        else abandon p (utf8 "target " ++ Quoted.always directory ++
          utf8 (": " ++ Errno.notDirectory.text)) process
    | none, [source] =>
      if r.has 'T' then
        usage (utf8 "missing destination file operand after " ++ Quoted.always source) process
      else (linkInto process r p Path.dot [source]).finish process
    | none, [source, path] =>
      if !r.has 'T' && isDirectory path then (linkInto process r p path [source]).finish process
      else (linkOne process r p source path).finish process
    | none, operands =>
      if r.has 'T' then
        usage (utf8 "extra operand " ++ Quoted.always ((operands.drop 2).headD [])) process
      else
        let target := operands.getLastD []
        match p.files.find process.cwd target with
        | .error e =>
          abandon p (utf8 "target " ++ Quoted.always target ++ utf8 (": " ++ e.text)) process
        | .ok _ =>
          if isDirectory target then (linkInto process r p target operands.dropLast).finish process
          else abandon p (utf8 "target " ++ Quoted.always target ++
            utf8 (": " ++ Errno.notDirectory.text)) process

end TinyShell.Userland.Tool
