import Literate.Shell.Condition
import Literate.Shell.Field
import Literate.Shell.Print
import Literate.Shell.Session
import Literate.Shell.Signal

/-!
# Commands of the shell itself

Some commands are carried out by the shell. A mistake in a special one of them ends the shell, a mistake in another one only
sets the status.
-/

namespace Literate.Shell

open Text

namespace Act

/-- Gives a parameter a value, if that is allowed. -/
def assign (name value : Text) : Act Unit := do
  if (← process).fixed.contains name then fail (name ++ ": is read only")
  change (·.withValue name value)

/-- Carries out what a tool reports. -/
def report (r : Report) : Act Unit := do
  if r.reads then
    let n := (← ahead 0).length
    consume 0 n
  for (d, t) in r.writes do emit d t
  match r.file with
  | some (l, t) => changeMachine fun m => { m with disk := m.disk.fill l t }
  | none => pure ()
  setStatus r.status

end Act

namespace Builtin

open Act

/-- The commands of the shell itself in which a mistake ends the shell. -/
def special : List Text :=
  [":", ".", "break", "continue", "eval", "exec", "exit", "export", "readonly", "return", "set", "shift", "times", "trap",
    "unset"]

/-- The other commands of the shell itself. -/
def ordinary : List Text :=
  ["echo", "printf", "test", "[", "true", "false", "kill", "read", "cd", "pwd", "wait", "umask", "command"]

/-- A number that is an operand. -/
def number? (t : Text) : Option Nat := (digits? 10 t).filter (· < 2147483648)

/-- Ends what is being run with a status: the operand, or that of the last command. -/
def leave (name : Text) (args : List Text) (stop : Nat → Stop) : Act Unit := do
  match args with
  | [] => throw (stop (← process).status)
  | a :: _ =>
    match number? a with
    | some n => throw (stop n)
    | none => failAs name ("Illegal number: " ++ a)

/-- Leaves loops, or goes on with them. -/
def breakLoops (name : Text) (args : List Text) (stop : Nat → Stop) : Act Unit := do
  let loops := (← process).loops
  match args with
  | [] => if loops = 0 then setStatus 0 else throw (stop 1)
  | a :: _ =>
    match number? a with
    | some (n + 1) => if loops = 0 then setStatus 0 else throw (stop (Nat.min (n + 1) loops))
    | _ => failAs name ("Illegal number: " ++ a)

/-- Writes arguments to the output, if there is one. -/
def printing (name : Text) (r : Report) : Act Unit := do
  report r
  if (← obstacle? 1).isSome ∧ r.writes.any fun (d, t) => d = 1 && !t.isEmpty then
    complainAs name (name ++ ": I/O error")
    setStatus 1

/-! ## kill -/

/-- How `kill` is used. -/
def killUsage : Text :=
  "Usage: kill [-s sigspec | -signum | -sigspec] [pid | job]... or\nkill -l [exitstatus]"

/-- Sends a signal to a process; says whether there is such a process. -/
def signal (n : Nat) (isGroup : Bool) (target : Nat) : Act Bool := do
  let p ← process
  if isGroup ∨ !(p.number :: p.parents).contains target then return false
  else if Signal.isHarmless n then return true
  else if p.isCopy ∨ target ≠ p.number then
    modify fun s => { s with doomed := s.doomed ++ [(target, n)] }
    return true
  else throw (.killed target n)

/-- Sends a signal to processes. -/
def signalAll (n : Nat) : List Text → Act Unit
  | [] => return
  | t :: rest => do
    let isGroup := startsWith t "-"
    let digits := if isGroup then t.drop 1 else t
    if startsWith t "%" then
      complainAs "kill" ("No such job: " ++ t)
      setStatus 2
    else
      match number? digits with
      | none =>
        complainAs "kill" ("Illegal number: " ++ digits)
        setStatus 2
      | some target =>
        if !(← signal n isGroup target) then
          complainAs "kill" "No such process\n"
          setStatus 1
        signalAll n rest

/-- Lists the names of signals, or the name of the one that a status stands for. -/
def listSignals : List Text → Act Unit
  | [] => do
    emit 1 ((List.range Signal.count).flatMap fun n => Signal.name n ++ "\n")
    setStatus 0
  | t :: _ => do
    match number? t with
    | none =>
      complainAs "kill" ("Illegal number: " ++ t)
      setStatus 2
    | some status =>
      let n := if 128 < status then status - 128 else status
      if 0 < n ∧ n < Signal.count then
        emit 1 (Signal.name n ++ "\n")
        setStatus 0
      else
        complainAs "kill" ("invalid signal number or exit status: " ++ t)
        setStatus 2

/-- Sends signals to processes. -/
def kill (args : List Text) : Act Unit := do
  let refuse := fun (t : Text) => do
    complainAs "kill" t
    setStatus 2
  let send := fun (n : Nat) (targets : List Text) =>
    if targets.isEmpty then refuse killUsage
    else do
      setStatus 0
      signalAll n targets
  match args with
  | [] => refuse killUsage
  | a :: rest =>
    if !startsWith a "-" ∨ a.length = 1 then send 15 args
    else if a = ("--" : Text) then send 15 rest
    else
      match Signal.ofText? (a.drop 1) with
      | some n => send n rest
      | none =>
        if startsWith a "-l" then
          match (a.drop 2).head? with
          | none =>
            match rest.head?.bind (·.head?), rest with
            | some b, r :: _ =>
              if b = byte '-' ∧ 1 < r.length then refuse ("Illegal option -" ++ (r.drop 1).take 1) else listSignals rest
            | _, _ => listSignals rest
          | some b => refuse ("Illegal option -" ++ [b])
        else if startsWith a "-s" then
          let (value, rest) := if a.length = 2 then (rest.head?, rest.drop 1) else (some (a.drop 2), rest)
          match value with
          | none => refuse "No arg for -s option"
          | some v =>
            match Signal.ofText? v with
            | some n => send n (if rest.head? = some "--" then rest.drop 1 else rest)
            | none => refuse ("invalid signal number or name: " ++ v)
        else refuse ("Illegal option -" ++ (a.drop 1).take 1)

/-! ## Parameters -/

/-- Marks parameters and gives them values. -/
def mark (name : Text) (f : Text → Process → Process) : List Text → Act Unit
  | [] => setStatus 0
  | a :: rest => do
    let (n, v) := match cut (byte '=') a with
      | some (n, v) => (n, some v)
      | none => (a, none)
    if !isName n then failAs name (n ++ ": bad variable name")
    match v with
    | some v =>
      if (← process).fixed.contains n then failAs name (n ++ ": is read only")
      change (·.withValue n v)
    | none => pure ()
    change (f n)
    mark name f rest

/-- The letters of the options before the operands, and the operands; or a letter that no option has. -/
def options (known : Text) : List Text → Except UInt8 (Text × List Text)
  | [] => .ok ([], [])
  | a :: rest =>
    if a = ("--" : Text) then .ok ([], rest)
    else if startsWith a "-" ∧ 1 < a.length then
      match (a.drop 1).find? fun b => !known.contains b with
      | some b => .error b
      | none => (options known rest).map fun (letters, operands) => (a.drop 1 ++ letters, operands)
    else .ok ([], a :: rest)

/-- The name of a parameter that an operand gives, which can have a value after it. -/
def operandName (operand : Text) : Text := operand.takeWhile (· ≠ byte '=')

/-- Takes parameters away. -/
def unsetAll : List Text → Act Unit
  | [] => setStatus 0
  | a :: rest => do
    let name := operandName a
    if !isName name then failAs "unset" (name ++ ": bad variable name")
    if (← process).fixed.contains name then failAs "unset" (name ++ ": is read only")
    change (·.without name)
    unsetAll rest

/-- Takes parameters away, or functions. -/
def unset (args : List Text) : Act Unit := do
  match options "vf" args with
  | .error b => failAs "unset" ("Illegal option -" ++ [b])
  | .ok (letters, operands) =>
    if letters.getLast? = some (byte 'f') then
      change fun p => { p with functions := p.functions.filter fun (k, _) => !operands.contains k }
      setStatus 0
    else unsetAll operands

/-- Takes the first arguments away. -/
def shift (args : List Text) : Act Unit := do
  let p ← process
  match args.head?.map number? with
  | some none => failAs "shift" ("Illegal number: " ++ args.headD [])
  | n =>
    let n := (n.getD (some 1)).getD 1
    if p.arguments.length < n then failAs "shift" "can't shift that many"
    change fun p => { p with arguments := p.arguments.drop n }
    setStatus 0

/-- Switches on or off what letters stand for. -/
def switch (isOn : Bool) (letters : Text) (p : Process) : Process :=
  { p with
    stopsOnFailure := if letters.contains (byte 'e') then isOn else p.stopsOnFailure
    needsValues := if letters.contains (byte 'u') then isOn else p.needsValues }

/-- The letters that can be switched on and off. -/
def switches : Text := "abCefhImnqsuvVx"

/-- Switches settings on and off, and gives the shell arguments. -/
def set : List Text → Act Unit
  | [] => setStatus 0
  | a :: rest => do
    if a = ("--" : Text) then
      change fun p => { p with arguments := rest }
      setStatus 0
    else if (startsWith a "-" ∨ startsWith a "+") ∧ 1 < a.length then
      match (a.drop 1).find? fun b => !switches.contains b with
      | some b => failAs "set" ("Illegal option " ++ a.take 1 ++ [b])
      | none =>
        change (switch (startsWith a "-") (a.drop 1))
        if rest.isEmpty then setStatus 0 else set rest
    else
      change fun p => { p with arguments := a :: rest }
      setStatus 0

/-! ## read -/

/-- The first line of a text with the bytes that a backslash hides, how long it is, and whether its end is there. -/
def readLine (isRaw : Bool) : Text → Field × Nat × Bool
  | [] => ([], 0, false)
  | [b] => if b = byte '\n' then ([], 1, true) else ([⟨b, false⟩], 1, false)
  | b :: c :: rest =>
    if b = byte '\n' then ([], 1, true)
    else if b = byte '\\' ∧ !isRaw then
      let (f, n, complete) := readLine isRaw rest
      (if c = byte '\n' then f else ⟨c, true⟩ :: f, n + 2, complete)
    else
      let (f, n, complete) := readLine isRaw (c :: rest)
      (⟨b, false⟩ :: f, n + 1, complete)

/-- Whether a glyph is white space that separates. -/
def isSpace (separators : Text) (g : Glyph) : Bool :=
  !g.isQuoted && separators.contains g.byte && [byte ' ', byte '\t', byte '\n'].contains g.byte

/-- The values of as many parameters as there are: each gets a field, and the last one all that is left. -/
def distribute (separators : Text) : (n : Nat) → Field → List Text
  | 0, _ => []
  | n + 1, f =>
    let f := f.dropWhile (isSpace separators)
    let isEnd := fun (g : Glyph) => !g.isQuoted && separators.contains g.byte
    let rest := f.dropWhile fun g => !isEnd g
    let after := rest.dropWhile (isSpace separators)
    let after := match after with
      | g :: gs => if isEnd g ∧ !isSpace separators g then gs.dropWhile (isSpace separators) else after
      | [] => []
    if n = 0 then
      if after.isEmpty then [Field.text (f.takeWhile fun g => !isEnd g)]
      else [Field.text ((f.reverse.dropWhile (isSpace separators)).reverse)]
    else Field.text (f.takeWhile fun g => !isEnd g) :: distribute separators n after

/-- Reads a line of the input into parameters. -/
def read (args : List Text) : Act Unit := do
  let (isRaw, names) := match args with
    | a :: rest => if a = ("-r" : Text) then (true, rest) else (false, args)
    | [] => (false, [])
  let refuse := fun (t : Text) => do
    complainAs "read" t
    setStatus 2
  if startsWith (names.headD []) "-" ∧ 1 < (names.headD []).length then
    refuse ("Illegal option " ++ (names.headD []).take 2)
  else if names.isEmpty then refuse "arg count"
  else
    let (line, n, complete) := readLine isRaw (← ahead 0)
    consume 0 n
    let p ← process
    let names := names.map operandName
    let pairs := names.zip (distribute p.separators names.length line)
    let isGood := fun (name : Text) => isName name && !p.fixed.contains name
    for (name, value) in pairs.takeWhile (isGood ·.1) do change (·.withValue name value)
    match names.find? (!isGood ·) with
    | some name => refuse (name ++ if isName name then ofString ": is read only" else ": bad variable name")
    | none => setStatus (if complete then 0 else 1)

/-! ## The folder of relative paths -/

/-- Changes the folder in which relative paths begin. -/
def changeFolder (args : List Text) : Act Unit := do
  let path := args.headD []
  let m := (← get).machine
  match if path = [] then .ok m.disk.here else m.disk.locate path with
  | .error _ =>
    complainAs "cd" ("can't cd to " ++ path)
    setStatus 2
  | .ok l =>
    if m.disk.isFolder l then
      changeMachine fun m => { m with disk := { m.disk with here := l } }
      setStatus 0
    else
      complainAs "cd" ("can't cd to " ++ path)
      setStatus 2

/-- Writes the folder in which relative paths begin. -/
def showFolder : Act Unit := do
  emit 1 ((← get).machine.disk.absolute "." ++ "\n")
  setStatus 0

/-! ## Conditions -/

/-- Sets the status to the value of a condition. -/
def test (name : Text) (args : List Text) : Act Unit := do
  let refuse := fun (t : Text) => do
    complainAs name t
    setStatus 2
  if name = ("[" : Text) ∧ args.getLast? ≠ some "]" then refuse "missing ]"
  else
    match Condition.evaluate (← get).machine.disk (if name = ("[" : Text) then args.dropLast else args) with
    | .ok b => setStatus (if b then 0 else 1)
    | .error m => refuse m

/-- Waits for processes, of which none is running. -/
def wait : List Text → Act Unit
  | [] => setStatus 0
  | a :: _ =>
    match number? a with
    | some _ => setStatus 127
    | none => do
      complainAs "wait" ("Illegal number: " ++ a)
      setStatus 2

/-- Carries out a command of the shell itself, unless that runs other commands. -/
def run (name : Text) (args : List Text) : Act Unit := do
  let p ← process
  let as := fun (t : Text) => p.name ++ ": " ++ ofNat p.line ++ ": " ++ name ++ ": " ++ t ++ "\n"
  if name = ("echo" : Text) then printing name { writes := [(1, echo args)] }
  else if name = ("printf" : Text) then printing name (printf as args)
  else if name = ("test" : Text) ∨ name = ("[" : Text) then test name args
  else if name = ("false" : Text) then setStatus 1
  else if name = ("kill" : Text) then kill args
  else if name = ("read" : Text) then read args
  else if name = ("cd" : Text) then changeFolder args
  else if name = ("pwd" : Text) then showFolder
  else if name = ("wait" : Text) then wait args
  else if name = ("umask" : Text) then report { writes := [(1, "0022\n")] }
  else if name = ("break" : Text) then breakLoops name args .left
  else if name = ("continue" : Text) then breakLoops name args .again
  else if name = ("exit" : Text) then leave name args fun n => .exited (n % 256)
  else if name = ("return" : Text) then leave name args .returned
  else if name = ("export" : Text) then
    mark name (fun n p => { p with exported := n :: p.exported.filter (· ≠ n) }) (args.filter (· ≠ "-p"))
  else if name = ("readonly" : Text) then
    mark name (fun n p => { p with fixed := n :: p.fixed.filter (· ≠ n) }) (args.filter (· ≠ "-p"))
  else if name = ("unset" : Text) then unset args
  else if name = ("shift" : Text) then shift args
  else if name = ("set" : Text) then set args
  else setStatus 0

end Builtin

end Literate.Shell
