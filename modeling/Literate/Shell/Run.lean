import Literate.Shell.Arithmetic
import Literate.Shell.Builtin
import Literate.Shell.Pattern
import Literate.Shell.Reader
import Literate.Shell.Tool.Arrange
import Literate.Shell.Tool.Count
import Literate.Shell.Tool.Replace

/-!
# Running scripts

A script runs on a disk with a text as its input. It writes to two outputs, may change the disk, and ends with a status or
by a signal: `Shell.run`. Commands are carried out one after another, also those of a pipeline, each of which reads what
the one before it has written.

Running a command expands its words, and expanding a word can run commands. Both go down a bound on the number of steps
within each other. A script that reaches it is taken not to end.

These are the programs with which the main program runs, a small part of what a machine may have. No other module knows of
them: whatever is proved holds for all `Programs`.
-/

namespace Literate.Shell

open Text Act

/-! ## Programs -/

/-- Writes its arguments with spaces between them as the program and not the command of the shell does. -/
def plainEcho (args : List Text) : Report :=
  let isOption := fun (a : Text) => startsWith a "-" && 1 < a.length &&
    (a.drop 1).all fun b => b = byte 'n' || b = byte 'e' || b = byte 'E'
  let options := (args.takeWhile isOption).flatMap (·.drop 1)
  let t := join " " (args.dropWhile isOption)
  let evaluates := (options.filter (· ≠ byte 'n')).getLast? = some (byte 'e')
  let (t, ended) := if evaluates then Escape.evaluate t else (t, false)
  { writes := [(1, if ended ∨ options.contains (byte 'n') then t else t ++ "\n")] }

/-- What a program does; none if there is no program of that name. -/
def tool? (name : Text) : Option (Call → Report) :=
  if name = ("cat" : Text) then some Copy.run
  else if name = ("sort" : Text) then some Arrange.run
  else if name = ("wc" : Text) then some Count.run
  else if name = ("tr" : Text) then some Replace.run
  else if name = ("echo" : Text) then some fun c => plainEcho c.args
  else if name = ("printf" : Text) then some fun c => printf c.message c.args
  else if name = ("true" : Text) then some fun _ => {}
  else if name = ("false" : Text) then some fun _ => { status := 1 }
  else none

/-- What a program that has written something leaves behind if its output takes nothing. -/
def hindered (c : Call) (program obstacle : Text) (r : Report) : Report :=
  let messages := r.writes.filter (·.1 = 2)
  let isLate := program = ("sort" : Text) || program = ("wc" : Text)
  let reason := onlyIf (!isLate ∨ obstacle ≠ troubleText .noSpace) (": " ++ obstacle)
  let last := (2, c.message ("write error" ++ reason))
  if !r.writes.any (fun (d, t) => d = 1 && !t.isEmpty) then r
  else if program = ("sort" : Text) then
    let first := (2, c.message ("fflush failed: 'standard output': " ++ obstacle))
    { r with writes := messages ++ [first, last], status := 2 }
  else { r with writes := messages ++ [last], status := 1 }

/-- Whether a program is a shell. -/
def isShellName (name : Text) : Bool := name = ("sh" : Text) || name = ("dash" : Text) || name = ("bash" : Text)

/-- The name of the program that a word starts: a name alone is looked up in the folders of programs. -/
def programName? (word : Text) : Option Text :=
  let name := if word.contains Path.separator then (dropStart? word "/bin/").or (dropStart? word "/usr/bin/") else some word
  name.filter fun n => isShellName n || (tool? n).isSome

/-! ## Shells within shells -/

/-- What the arguments of a shell ask for. -/
structure Invocation where
  /-- The script, if the arguments give it. -/
  script : Option Text := none
  /-- The file that holds the script. -/
  file : Option Text := none
  name : Text
  arguments : List Text := []
  letters : Text := []

/-- Reads the arguments of a shell, or says what is wrong with them. -/
def Invocation.read? (name : Text) : (letters : Text) → List Text → Except Text Invocation
  | letters, [] =>
    if letters.contains (byte 'c') then .error "-c requires an argument" else .ok { name, letters }
  | letters, a :: rest =>
    if (startsWith a "-" ∨ startsWith a "+") ∧ 1 < a.length ∧ a ≠ "--" then
      match (a.drop 1).find? fun b => b ≠ byte 'c' && !Builtin.switches.contains b with
      | some b => .error ("Illegal option -" ++ [b])
      | none => read? name (letters ++ a.drop 1) rest
    else
      let operands := if a = ("--" : Text) ∨ a = ("-" : Text) then rest else a :: rest
      if letters.contains (byte 'c') then
        match operands with
        | [] => .error "-c requires an argument"
        | script :: more => .ok { script := some script, name := more.headD name, arguments := more.drop 1, letters }
      else if letters.contains (byte 's') ∨ operands.isEmpty then .ok { name, arguments := operands, letters }
      else .ok { file := operands.head?, name := operands.headD [], arguments := operands.drop 1, letters }

/-! ## Values -/

/-- The values of a parameter: none if it has no value, and each argument for all of them. -/
def valuesOf (p : Process) (name : Text) : Option (List Text) :=
  if name = ("?" : Text) then some [ofNat p.status]
  else if name = ("$" : Text) then some [ofNat p.number]
  else if name = ("#" : Text) then some [ofNat p.arguments.length]
  else if name = ("-" : Text) then some [onlyIf p.stopsOnFailure "e" ++ onlyIf p.needsValues "u"]
  else if name = ("!" : Text) then none
  else if name = ("@" : Text) ∨ name = ("*" : Text) then if p.arguments.isEmpty then none else some p.arguments
  else
    match digits? 10 name with
    | some 0 => some [p.name]
    | some (n + 1) => (p.arguments[n]?).map fun a => [a]
    | none => (p.value? name).map fun v => [v]

/-- The text between the arguments when they are joined. -/
def joint (p : Process) : Text :=
  match p.value? "IFS" with
  | none => " "
  | some t => t.take 1

/-- Adds the values of a parameter to fields. -/
def addValues (p : Process) (isQuoted splits : Bool) (name : Text) (vs : List Text) (fs : Fields) : Fields :=
  if !splits then fs.add isQuoted (join (if name = ("*" : Text) then joint p else " ") vs)
  else if isQuoted then
    if name = ("@" : Text) then
      (vs.drop 1).foldl (fun fs v => fs.close.add true v) (fs.add true (vs.headD []))
    else fs.add true (join (joint p) vs)
  else
    (vs.drop 1).foldl (fun fs v => fs.close.addSplit p.separators v) (fs.addSplit p.separators (vs.headD []))

/-! ## Running -/

mutual

/-- Adds what a part of a word stands for to fields. -/
def expandPart : (n : Nat) → (splits : Bool) → Fields → Part → Act Fields
  | 0, _, _, _ => throw .endless
  | n + 1, splits, fs, part => do
    let p ← process
    match part with
    | .bare t => return fs.add false t
    | .loose t => return if splits then fs.addSplit p.separators t else fs.add false t
    | .quoted t => return fs.add true t
    | .senseless => fail "Bad substitution"
    | .number q w =>
      let t ← textOf n w
      match Arithmetic.read? t with
      | .error m => fail ("arithmetic expression: " ++ m ++ ": \"" ++ t ++ "\"")
      | .ok e =>
        match e.evaluate (fun name => (p.value? name).getD []) [] with
        | .error m =>
          fail (if startsWith m "Illegal" then m else "arithmetic expression: " ++ m ++ ": \"" ++ t ++ "\"")
        | .ok (k, values) =>
          for (name, v) in values.reverse do assign name v
          return addValues p q splits [] [ofInt k] fs
    | .output q c =>
      let (stream, m) := (← get).machine.add (.output [])
      changeMachine fun _ => m
      let status ← inCopy (·.withDescriptor 1 (some stream)) (evaluate n false c)
      change ({ · with substituted := some status })
      let t := trimEnd (· = byte '\n') (((← get).machine.written stream).filter (· ≠ 0))
      return addValues p q splits [] [t] fs
    | .parameter q name form =>
      let vs := valuesOf p name
      let isAbsent := fun (colon : Bool) => vs.isNone || (colon && vs.all (·.all (·.isEmpty)))
      let value : Act Fields := do
        match vs with
        | some vs => return addValues p q splits name vs fs
        | none =>
          if p.needsValues ∧ name ≠ "@" ∧ name ≠ "*" ∧ name ≠ "!" then fail (name ++ ": parameter not set")
          return if q ∧ name ≠ "@" then fs.add true [] else fs
      match form with
      | .value => value
      | .length =>
        match vs with
        | some vs => return fs.add q (ofNat (join " " vs).length)
        | none => return fs.add q "0"
      | .fallback colon w => if isAbsent colon then expandParts n splits fs w else value
      | .replaced colon w => if isAbsent colon then return fs else expandParts n splits fs w
      | .assigned colon w =>
        if isAbsent colon then
          let t ← textOf n w
          if !isName name then fail (name ++ ": bad variable name")
          assign name t
          return addValues p q splits name [t] fs
        else value
      | .demanded colon w =>
        if isAbsent colon then
          let t ← textOf n w
          fail (name ++ ": " ++ (if t ≠ [] then t else if colon then ofString "parameter not set or null"
            else "parameter not set"))
        else value
      | .trimmed atEnd longest w =>
        let pattern := Pattern.ofField (← fieldOf n w)
        return addValues p q splits name ((vs.getD []).map (pattern.trim atEnd longest)) fs

/-- Adds what the parts of a word stand for to fields. Quotes around all arguments leave nothing if there are none. -/
def expandParts : (n : Nat) → (splits : Bool) → Fields → Word → Act Fields
  | 0, _, _, _ => throw .endless
  | _, _, fs, [] => return fs
  | n + 1, splits, fs, part :: rest => do
    match part, rest with
    | .quoted [], .parameter true name .value :: after =>
      if splits ∧ name = ("@" : Text) ∧ (← process).arguments.isEmpty then expandParts n splits fs after
      else expandParts n splits (← expandPart n splits fs part) rest
    | _, _ => expandParts n splits (← expandPart n splits fs part) rest

/-- What a word stands for as one field. -/
def fieldOf : (n : Nat) → Word → Act Field
  | 0, _ => throw .endless
  | n + 1, w => do return (← expandParts n false {} w).all.flatten

/-- What a word stands for as one text. -/
def textOf : (n : Nat) → Word → Act Text
  | 0, _ => throw .endless
  | n + 1, w => do return (← fieldOf n w).text

/-- The arguments that words stand for. -/
def argumentsOf : (n : Nat) → List Word → Act (List Text)
  | 0, _ => throw .endless
  | _, [] => return []
  | n + 1, w :: rest => do
    let fields := (← expandParts n true {} w).all
    let disk := (← get).machine.disk
    return fields.flatMap (Pattern.paths disk) ++ (← argumentsOf n rest)

/-- Follows redirections in turn, and says whether all of them could be followed. -/
def redirect : (n : Nat) → List Redirect → Act Bool
  | 0, _ => throw .endless
  | _, [] => return true
  | n + 1, .mk d arrow target :: rest => do
    let t ← textOf n target
    let opened : Except Text (Option Nat) ← match arrow with
      | .copy =>
        if t = ("-" : Text) then pure (.ok none)
        else
          match t with
          | [b] =>
            if !isDigit b then fail "Syntax error: Bad fd number"
            match ← stream? (b - byte '0').toNat with
            | some s => pure (.ok (some s))
            | none => pure (.error (t ++ ": Bad file descriptor"))
          | _ => fail "Syntax error: Bad fd number"
      | .document k =>
        let body ← textOf n ((← process).documents.getD k [])
        let (s, m) := (← get).machine.add (.input body)
        changeMachine fun _ => m
        pure (.ok (some s))
      | arrow => do pure ((← openFile t arrow).map some)
    match opened with
    | .error m =>
      complain m
      return false
    | .ok s =>
      change (·.withDescriptor d s)
      redirect n rest

/-- Does something with redirections that hold only for it; a redirection that cannot be followed leads elsewhere. -/
def redirected : (n : Nat) → List Redirect → (otherwise : Act Unit) → Act Unit → Act Unit
  | 0, _, _, _ => throw .endless
  | n + 1, rs, otherwise, a => do
    let saved := (← process).descriptors
    let r ← caught (do if ← redirect n rs then a else otherwise)
    change ({ · with descriptors := saved })
    rethrow r

/-- Gives parameters values. -/
def assignAll : (n : Nat) → (exports : Bool) → List (Text × Word) → Act Unit
  | 0, _, _ => throw .endless
  | _, _, [] => return
  | n + 1, exports, (name, w) :: rest => do
    assign name (← textOf n w)
    if exports then change fun p => { p with exported := name :: p.exported.filter (· ≠ name) }
    assignAll n exports rest

/-- Runs the lines of a script. -/
def runLines : (n : Nat) → Source → Act Unit
  | 0, _ => throw .endless
  | n + 1, source => do
    match nextLine? source with
    | .error c =>
      change ({ · with line := c.line })
      fail ("Syntax error: " ++ c.message)
    | .ok none => return
    | .ok (some (c, source)) =>
      change ({ · with documents := source.documents })
      evaluate n false c
      runLines n { source with documents := (← process).documents }

/-- Runs a script that is given as a text. -/
def runText : (n : Nat) → Text → Act Unit
  | 0, _ => throw .endless
  | n + 1, t => do runLines n { rest := t, documents := (← process).documents }

/-- Runs a script in the name of a command. -/
def runAs : (n : Nat) → (lead t : Text) → Act Unit
  | 0, _, _ => throw .endless
  | n + 1, lead, t => do
    let outer := (← process).lead
    setStatus 0
    change ({ · with lead })
    let r ← caught (runText n t)
    change ({ · with lead := outer })
    rethrow r

/-- Runs a shell with arguments, and gives its ending. -/
def runShell : (n : Nat) → (name : Text) → List Text → Act Ending
  | 0, _, _ => throw .endless
  | n + 1, name, args => do
    let refuse := fun (t : Text) => do
      emit 2 (name ++ ": 0: " ++ t ++ "\n")
      return Ending.exited 2
    match Invocation.read? name [] args with
    | .error m => refuse m
    | .ok i =>
      let script : Except Text Text ← match i.script, i.file with
        | some t, _ => pure (.ok t)
        | none, some path =>
          match fileText (← get).machine.disk path with
          | .ok t => pure (.ok t)
          | .error .missing | .error .notFolder => pure (.error ("cannot open " ++ path ++ ": No such file"))
          | .error t => pure (.error ("cannot open " ++ path ++ ": " ++ troubleText t))
        | none, none => do
          let t ← ahead 0
          consume 0 t.length
          pure (.ok t)
      match script with
      | .error m => refuse m
      | .ok t =>
        let number := (← get).lastNumber + 1
        modify ({ · with lastNumber := number })
        let start := fun (p : Process) => Builtin.switch true i.letters
          { name := i.name, number, arguments := i.arguments
            values := p.values.filter fun (k, _) => p.exported.contains k
            exported := p.exported, descriptors := p.descriptors, documents := p.documents
            parents := p.number :: p.parents }
        inProcess start (runText n t)

/-- Runs a program that is no command of the shell itself. -/
def runProgram : (n : Nat) → (name : Text) → List Text → Act Unit
  | 0, _, _ => throw .endless
  | n + 1, name, args => do
    match programName? name with
    | some k =>
      if isShellName k then
        match ← runShell n name args with
        | .exited status => setStatus status
        | .killed signal =>
          emit 2 (Signal.notice signal)
          setStatus (128 + signal)
      else
        let s ← get
        let input ← stream? 0
        let output ← stream? 1
        let c : Call := {
          name, args
          disk := s.machine.disk
          input := ← ahead 0
          inputFile := input.bind s.machine.file?
          outputFile := (output.bind s.machine.file?).map (·.1) }
        let r := ((tool? k).getD fun _ => { status := 127 }) c
        report (match ← obstacle? 1 with
          | some o => hindered c k o r
          | none => r)
    | none =>
      let isPath := name.contains Path.separator
      if name = [] then
        complain ": Permission denied"
        setStatus 127
      else if isPath ∧ (← get).machine.disk.has name then
        complain (name ++ ": Permission denied")
        setStatus 126
      else
        complain (name ++ ": not found")
        setStatus 127

/-- Calls a function. -/
def call : (n : Nat) → (body : Command) → List Text → Act Unit
  | 0, _, _ => throw .endless
  | n + 1, body, args => do
    let p ← process
    change ({ · with arguments := args, loops := 0 })
    let r ← caught (evaluate n false body)
    change ({ · with arguments := p.arguments, loops := p.loops })
    match r with
    | .error (.returned status) => setStatus status
    | r => rethrow r

/-- Runs a command with arguments that is special, a function, or another command of the shell itself. -/
def runBuiltin : (n : Nat) → (name : Text) → List Text → Act Unit
  | 0, _, _ => throw .endless
  | n + 1, name, args => do
    if name = ("eval" : Text) then
      runAs n "eval: " (join " " args)
    else if name = ("." : Text) then
      match args with
      | [] => setStatus 0
      | path :: _ =>
        if !path.contains Path.separator then failAs "." (path ++ ": not found")
        match fileText (← get).machine.disk path with
        | .error .missing | .error .notFolder => failAs "." ("cannot open " ++ path ++ ": No such file")
        | .error t => failAs "." ("cannot open " ++ path ++ ": " ++ troubleText t)
        | .ok t =>
          match ← caught (runAs n (path ++ ": ") t) with
          | .error (.returned status) => setStatus status
          | r => rethrow r
    else if name = ("command" : Text) then
      let args := args.dropWhile fun a => a = ("-p" : Text)
      match args with
      | [] => setStatus 0
      | a :: rest =>
        if a = ("-v" : Text) then
          let found := (rest.head?.bind fun k =>
            if Builtin.special.contains k ∨ Builtin.ordinary.contains k then some k
            else (programName? k).map fun m => if k = m then ("/usr/bin/" : Text) ++ m else k)
          match found with
          | some t =>
            emit 1 (t ++ "\n")
            setStatus 0
          | none => setStatus 127
        else if Builtin.special.contains a ∨ Builtin.ordinary.contains a then runBuiltin n a rest
        else runProgram n a rest
    else Builtin.run name args

/-- Runs a simple command. -/
def runSimple : (n : Nat) → List (Text × Word) → List Word → List Redirect → Act Unit
  | 0, _, _, _ => throw .endless
  | n + 1, assignments, words, rs => do
    change ({ · with substituted := none })
    match ← argumentsOf n words with
    | [] =>
      redirected n rs (setStatus 2) (do
        assignAll n false assignments
        setStatus ((← process).substituted.getD 0))
    | name :: args =>
      let function := (← process).functions.lookup name
      if name = ("exec" : Text) then
        if args.isEmpty then
          if ← redirect n rs then
            assignAll n false assignments
            setStatus 0
          else throw (.exited 2)
        else
          redirected n rs (throw (.exited 2)) (do
            assignAll n true assignments
            let program := args.headD []
            if (programName? program).any isShellName then
              match ← runShell n program (args.drop 1) with
              | .exited status => throw (.exited status)
              | .killed k =>
                let p ← process
                if p.isCopy then throw (.exited (128 + k)) else throw (.killed p.number k)
            else if (programName? program).isNone ∧ !((← get).machine.disk.has program) then
              complainAs "exec" (program ++ ": not found")
              throw (.exited 127)
            else
              runProgram n program (args.drop 1)
              throw (.exited (← process).status))
      else if Builtin.special.contains name then
        redirected n rs (throw (.exited 2)) (do
          assignAll n false assignments
          runBuiltin n name args)
      else
        let p ← process
        let restored := fun (a : Act Unit) => do
          if assignments.isEmpty then a
          else
            let r ← caught (do
              assignAll n true assignments
              a)
            change fun q => assignments.foldl (fun q (k, _) =>
              { q with
                values := (q.values.filter (·.1 ≠ k)) ++ p.values.filter (·.1 = k)
                exported := q.exported.filter (· ≠ k) ++ p.exported.filter (· = k) }) q
            rethrow r
        match function with
        | some body => redirected n rs (setStatus 2) (restored (call n body args))
        | none =>
          if Builtin.ordinary.contains name then redirected n rs (setStatus 2) (restored (runBuiltin n name args))
          else redirected n rs (setStatus 2) (restored (runProgram n name args))

/-- Ends the shell after a failure if it is to stop on failures. -/
def checked : (n : Nat) → (tested : Bool) → Act Unit → Act Unit
  | 0, _, _ => throw .endless
  | _ + 1, tested, a => do
    a
    let p ← process
    if p.stopsOnFailure ∧ !tested ∧ p.status ≠ 0 then throw (.exited p.status)

/-- Repeats a command as long as a test does not say otherwise. -/
def repeated : (n : Nat) → (tested whileFailing : Bool) → (test body : Command) → (status : Nat) → Act Unit
  | 0, _, _, _, _, _ => throw .endless
  | n + 1, tested, whileFailing, test, body, status => do
    match ← caught (do
      evaluate n true test
      if ((← process).status = 0) = !whileFailing then
        evaluate n tested body
        return some (← process).status
      else return none) with
    | .ok (some k) => repeated n tested whileFailing test body k
    | .ok none => setStatus status
    | .error (.left 1) => setStatus 0
    | .error (.again 1) => repeated n tested whileFailing test body 0
    | .error (.left (k + 2)) => throw (.left (k + 1))
    | .error (.again (k + 2)) => throw (.again (k + 1))
    | .error e => throw e

/-- Runs a command once for each value of a parameter. -/
def forEach : (n : Nat) → (tested : Bool) → (name : Text) → List Text → (body : Command) → Act Unit
  | 0, _, _, _, _ => throw .endless
  | _, _, _, [], _ => return
  | n + 1, tested, name, v :: rest, body => do
    assign name v
    match ← caught (evaluate n tested body) with
    | .ok _ => forEach n tested name rest body
    | .error (.left 1) => setStatus 0
    | .error (.again 1) =>
      setStatus 0
      forEach n tested name rest body
    | .error (.left (k + 2)) => throw (.left (k + 1))
    | .error (.again (k + 2)) => throw (.again (k + 1))
    | .error e => throw e

/-- Runs the command of the first pattern that stands for a text. -/
def selectArm : (n : Nat) → (tested : Bool) → Text → List (List Word × Command) → Act Unit
  | 0, _, _, _ => throw .endless
  | _, _, _, [] => setStatus 0
  | n + 1, tested, t, (ws, body) :: rest => do
    if ← anyMatches n t ws then
      match body with
      | .nothing => setStatus 0
      | body => evaluate n tested body
    else selectArm n tested t rest

/-- Whether one of some patterns stands for a text. -/
def anyMatches : (n : Nat) → Text → List Word → Act Bool
  | 0, _, _ => throw .endless
  | _, _, [] => return false
  | n + 1, t, w :: rest => do
    if (Pattern.ofField (← fieldOf n w)).admits t then return true else anyMatches n t rest

/-- Runs the commands of a pipeline, of which the first one reads from a stream. -/
def runPipeline : (n : Nat) → (input : Option Nat) → List Command → Act Unit
  | 0, _, _ => throw .endless
  | _, _, [] => return
  | n + 1, input, c :: rest => do
    let reading := fun (p : Process) => p.withDescriptor 0 input
    if rest.isEmpty then setStatus (← inCopy reading (evaluate n false c))
    else
      let (stream, m) := (← get).machine.add (.output [])
      changeMachine fun _ => m
      let _ ← inCopy (fun p => (reading p).withDescriptor 1 (some stream)) (evaluate n false c)
      changeMachine fun m => m.set stream (.input (m.written stream))
      runPipeline n (some stream) rest

/-- Runs a command; a failure of one that is tested does not end the shell. -/
def evaluate : (n : Nat) → (tested : Bool) → Command → Act Unit
  | 0, _, _ => throw .endless
  | n + 1, tested, c => do
    let inLoop := fun (a : Act Unit) => do
      let loops := (← process).loops
      change ({ · with loops := loops + 1 })
      let r ← caught a
      change ({ · with loops := loops })
      rethrow r
    match c with
    | .nothing => return
    | .simple line assignments words rs =>
      change ({ · with line })
      checked n tested (runSimple n assignments words rs)
    | .redirected line c rs =>
      change ({ · with line })
      redirected n rs (setStatus 2) (evaluate n tested c)
    | .pipeline cs => checked n tested (do runPipeline n (← stream? 0) cs)
    | .negated c =>
      evaluate n true c
      setStatus (if (← process).status = 0 then 1 else 0)
    | .andThen a b =>
      evaluate n true a
      if (← process).status = 0 then evaluate n tested b
    | .orElse a b =>
      evaluate n true a
      if (← process).status ≠ 0 then evaluate n tested b
    | .sequence a b =>
      evaluate n tested a
      evaluate n tested b
    | .background c =>
      let (stream, m) := (← get).machine.add (.input [])
      changeMachine fun _ => m
      let _ ← inCopy (·.withDescriptor 0 (some stream)) (evaluate n false c)
      setStatus 0
    | .subshell c => checked n tested (do setStatus (← inCopy id (evaluate n tested c)))
    | .choice test yes no =>
      evaluate n true test
      if (← process).status = 0 then evaluate n tested yes
      else
        match no with
        | .nothing => setStatus 0
        | no => evaluate n tested no
    | .loop whileFailing test body => inLoop (repeated n tested whileFailing test body 0)
    | .each line name words body =>
      change ({ · with line })
      let vs ← argumentsOf n words
      if vs.isEmpty then setStatus 0 else inLoop (forEach n tested name vs body)
    | .select line w arms =>
      change ({ · with line })
      selectArm n tested (← textOf n w) arms
    | .define name body =>
      change fun p => { p with functions := (name, body) :: p.functions.filter (·.1 ≠ name) }
      setStatus 0

end

/-! ## Programs that are started with a text -/

/-- How many steps running a script can go down. -/
def depth : Nat := 1000000

/-- Runs a program on a disk. -/
def execute (disk : Disk) (i : Literate.Invocation) : Execution :=
  let start : Session := {
    machine := ⟨disk, [.input i.input, .output [], .output []]⟩
    process := { name := i.program, number := 0, values := i.environment, exported := i.environment.map (·.1) }
    lastNumber := 4194304 }
  let action : Act Ending := do
    if (programName? i.program).any isShellName then runShell depth i.program i.args
    else
      runProgram depth i.program i.args
      return .exited (← process).status
  let (r, s) := action.run start
  let ended := fun (ending : Ending) =>
    Execution.ended { s.machine.disk with here := disk.here } (s.machine.written 1) (s.machine.written 2) ending
  match r with
  | .ok ending => ended ending
  | .error (.exited n) => ended (.exited n)
  | .error (.killed _ n) => ended (.killed n)
  | .error .endless => .endless
  | .error _ => ended (.exited 0)

/-- The shell and its tools as the programs of a machine. -/
def programs : Programs where
  has name := (programName? name).isSome
  run disk i := if (programName? i.program).isSome then execute disk i else Programs.none.run disk i

end Literate.Shell
