import FormatChain.Shell.Expansion

/-!
# Commands for names

The commands of a shell read their options in their own way. Those for names declare, export and
unset them.

* `usageOf` : how a command is used.
* `misuse` : complaining about options.
* `flagsOf` : the options at the start of arguments.
* `NameText`, `giveValue` : an argument that gives a name a value, and giving it.
* `exportNames`, `makeConstant`, `makeLocal`, `declareNames` : names with values and attributes.
* `unsetNames` : taking values and functions away.
-/

/-!
## Options of the commands of a shell

The commands of the rich language take options as letters after a dash.  A letter may have a value, which
follows it or is the next argument.
-/

namespace FormatChain.Shell

open FormatChain.Process

/-- How a command of the rich language is used. -/
def usageOf (command : String) : String :=
  match command with
  | "declare" => "[-aAfFgiIlnrtux] [name[=value] ...] or declare -p [-aAfFilnrtux] [name ...]"
  | "typeset" => "[-aAfFgiIlnrtux] name[=value] ... or typeset -p [-aAfFilnrtux] [name ...]"
  | "local" => "[option] name[=value] ..."
  | "export" => "[-fn] [name[=value] ...] or export -p"
  | "readonly" => "[-aAf] [name[=value] ...] or readonly -p"
  | "unset" => "[-f] [-v] [-n] [name ...]"
  | "shopt" => "[-pqsu] [-o] [optname ...]"
  | "read" => "[-ers] [-a array] [-d delim] [-i text] [-n nchars] [-N nchars] [-p prompt] [-t timeout]"
      ++ " [-u fd] [name ...]"
  | "mapfile" => "[-d delim] [-n count] [-O origin] [-s count] [-t] [-u fd] [-C callback] [-c quantum] [array]"
  | "readarray" =>
    "[-d delim] [-n count] [-O origin] [-s count] [-t] [-u fd] [-C callback] [-c quantum] [array]"
  | "getopts" => "optstring name [arg ...]"
  | "set" => "[-abefhkmnptuvxBCEHPT] [-o option-name] [--] [-] [arg ...]"
  | "printf" => "[-v var] format [arguments]"
  | "trap" => "[-lp] [[arg] signal_spec ...]"
  | "wait" => "[-fn] [-p var] [id ...]"
  | "type" => "[-afptP] name [name ...]"
  | "command" => "[-pVv] command [arg ...]"
  | "cd" => "[-L|[-P [-e]] [-@]] [dir]"
  | "pwd" => "[-LP]"
  | "pushd" => "[-n] [+N | -N | dir]"
  | "popd" => "[-n] [+N | -N]"
  | "dirs" => "[-clpv] [+N] [-N]"
  | "umask" => "[-p] [-S] [mode]"
  | "ulimit" => "[-SHabcdefiklmnpqrstuvxPRT] [limit]"
  | "hash" => "[-lr] [-p pathname] [-dt] [name ...]"
  | "alias" => "[-p] [name[=value] ... ]"
  | "unalias" => "[-a] name [name ...]"
  | "eval" => "[arg ...]"
  | "exec" => "[-cl] [-a name] [command [argument ...]] [redirection ...]"
  | "enable" => "[-a] [-dnps] [-f filename] [name ...]"
  | "builtin" => "[shell-builtin [arg ...]]"
  | "times" => ""
  | "jobs" => "[-lnprs] [jobspec ...] or jobs -x command [args]"
  | "disown" => "[-h] [-ar] [jobspec ... | pid ...]"
  | "suspend" => "[-f]"
  | "history" => "[-c] [-d offset] [n] or history -anrw [filename] or history -ps arg [arg...]"
  | "fc" => "[-e ename] [-lnr] [first] [last] or fc -s [pat=rep] [command]"
  | "source" => "filename [arguments]"
  | "." => "filename [arguments]"
  | "help" => "[-dms] [pattern ...]"
  | "let" => "arg [arg ...]"
  | "caller" => "[expr]"
  | "kill" => "[-s sigspec | -n signum | -sigspec] pid | jobspec ... or kill -l [sigspec]"
  | _ => ""

/-- Tells how the command at work is used, which ends it. -/
def tellUsage {α : Type} : Acting α := do
  let command := textOf ((← shell).command.getD [])
  let usage := usageOf command
  let _ ← put 2 (bytesOf (command ++ ": usage: " ++ (if usage.isEmpty then command else command ++ " " ++ usage)
    ++ "\n"))
  setStatus 2
  throw .fault

/-- Complains about arguments, and tells how the command at work is used. -/
def misuse {α : Type} (words : Bytes) : Acting α := do
  complain words
  tellUsage

/-- The options of letters in one argument, and the arguments after it: those that have values are
followed by a colon. -/
def flagsIn (letters : Bytes) : Bytes → List Bytes → Acting (List (Char × Bytes) × List Bytes)
  | [], rest => return ([], rest)
  | c :: more, rest => do
    match letters.dropWhile (· ≠ c) with
    | [] => misuse ('-' :: c :: bytesOf ": invalid option")
    | _ :: ':' :: _ =>
      if !more.isEmpty then return ([(c, more)], rest)
      else
        match rest with
        | value :: others => return ([(c, value)], others)
        | [] => misuse ('-' :: c :: bytesOf ": option requires an argument")
    | _ =>
      let (others, rest) ← flagsIn letters more rest
      return ((c, []) :: others, rest)

/-- The options at the start of arguments, in at most so many steps, and the arguments after them. -/
def flagsUpTo (letters : Bytes) : Nat → List Bytes → Acting (List (Char × Bytes) × List Bytes)
  | 0, args => return ([], args)
  | _, [] => return ([], [])
  | steps + 1, arg :: rest => do
    match arg with
    | ['-', '-'] => return ([], rest)
    | '-' :: c :: more =>
      let (found, rest) ← flagsIn letters (c :: more) rest
      let (others, rest) ← flagsUpTo letters steps rest
      return (found ++ others, rest)
    | _ => return ([], arg :: rest)

/-- The options at the start of arguments, and the arguments after them. -/
def flagsOf (letters : String) (args : List Bytes) : Acting (List (Char × Bytes) × List Bytes) :=
  flagsUpTo letters.toList (args.length + 1) args

/-- Whether an option is among those that were given. -/
def hasFlag (flags : List (Char × Bytes)) (c : Char) : Bool := flags.any (·.1 = c)

/-- The last value of an option. -/
def flagValue? (flags : List (Char × Bytes)) (c : Char) : Option Bytes :=
  (flags.reverse.find? (·.1 = c)).map (·.2)

end FormatChain.Shell

/-!
## Commands for names

The commands of a shell that give names values and attributes, and take them away.
-/

namespace FormatChain.Shell

open FormatChain.Process

/-- A text in single quotes. -/
def inSingleQuotes (bytes : Bytes) : Bytes :=
  let pieces := splitAtByte '\'' bytes
  joinWith "\"'\"".toList (pieces.map fun piece => '\'' :: piece ++ ['\''])

/-! ### Arguments that give values -/

/-- An argument that gives a name a value. -/
structure NameText where
  /-- The name. -/
  name : Bytes
  /-- The text in brackets after the name. -/
  index : Option Bytes := none
  /-- Whether the value is added to the one before. -/
  added : Bool := false
  /-- The value. -/
  value : Option Bytes := none

/-- An argument as a name with a value. -/
def NameText.read (dialect : Dialect) (arg : Bytes) : NameText :=
  let before := arg.takeWhile (· ≠ '=')
  let value := if before.length < arg.length then some (arg.drop (before.length + 1)) else none
  match dialect with
  | .common => { name := before, value }
  | .rich =>
    let added := value.isSome && before.getLast? = some '+'
    let before := if added then before.dropLast else before
    let name := before.takeWhile (· ≠ '[')
    if name.length < before.length && before.getLast? = some ']' then
      { name, index := some ((before.drop (name.length + 1)).dropLast), added, value }
    else { name := before, added, value }

/-- Gives a name, or an element of an array, a value as its attributes want it. -/
def giveValue (name : Bytes) (index : Option Bytes) (added : Bool) (bytes : Bytes) : Acting Unit := do
  let v ← variableOf name
  let key ← match index with
    | some index => do pure (some (← keyOfIndex name index))
    | none => pure none
  match key, index with
  | some key, some index =>
    if key.isEmpty || (key.head? = some '-' && !v.keyed) then
      failWith 1 (name ++ '[' :: index ++ bytesOf "]: bad array subscript")
  | _, _ => pure ()
  let before := match key with
    | some key => (entryOf? key v.listed).getD []
    | none => v.text?.getD []
  let bytes ← if v.numeric then do
      let text := if added && !before.isEmpty then before ++ '+' :: bytes else bytes
      pure (integerText (← sumValue sumDepth text))
    else pure (if added then before ++ bytes else bytes)
  match key with
  | some key => setElement name key bytes
  | none => setValue name bytes

/-- Refuses what is no name. Tells whether it is one. -/
def checkName (name written : Bytes) : Acting Bool := do
  if isName name then return true
  match (← shell).dialect with
  | .common => failWith 2 (name ++ bytesOf ": bad variable name")
  | .rich =>
    complain ('\x60' :: written ++ bytesOf "': not a valid identifier")
    return false

/-! ### The common language -/

/-- Writes the names of a kind with their values. -/
def listNames (word : Bytes) (isOfKind : Variable → Bool) : Acting Nat := do
  let vars := ((← shell).vars.filter fun entry => isOfKind entry.2).mergeSort
    fun a b => bytesBefore a.1 b.1
  vars.forM fun (name, v) => do
    let value := match v.text? with
      | some bytes => '=' :: inSingleQuotes bytes
      | none => []
    let _ ← put 1 (word ++ name ++ value ++ ['\n'])
  return 0

/-- Marks names, after they got the values that they are given. -/
def markNames (command : String) (isOfKind : Variable → Bool) (mark : Variable → Variable)
    (args : List Bytes) : Acting Nat := do
  match args with
  | [] => listNames (bytesOf (command ++ " ")) isOfKind
  | [['-', 'p']] => listNames (bytesOf (command ++ " ")) isOfKind
  | _ =>
    let args := if args.head? = some ['-', '-'] then args.drop 1 else args
    args.forM fun arg => do
      let n := NameText.read .common arg
      let _ ← checkName n.name arg
      match n.value with
      | some bytes => setValue n.name bytes
      | none => pure ()
      storeVariable n.name (mark (← storedVariable n.name))
    return 0

/-! ### Attributes -/

/-- The attributes that a declaration gives and takes away, as letters. -/
structure Declaration where
  /-- The letters of attributes and of what else is wanted. -/
  on : Bytes := []
  /-- The letters of attributes that are taken away. -/
  off : Bytes := []
  deriving Inhabited

namespace Declaration

/-- Whether a letter was given. -/
def has (d : Declaration) (letter : Char) : Bool := d.on.contains letter

/-- A variable with the attributes. -/
def mark (d : Declaration) (v : Variable) : Variable :=
  let gets (letter : Char) (before : Bool) : Bool := (before || d.has letter) && !d.off.contains letter
  let casing := if d.has 'u' && d.has 'l' then none
    else if d.has 'u' then some Casing.capital
    else if d.has 'l' then some .small
    else if d.has 'c' then some .turned
    else if (d.off.any ['u', 'l', 'c'].contains) then none
    else v.casing
  let arrayed := (d.has 'a' || d.has 'A') && v.elements.isNone
  { v with
    exported := gets 'x' v.exported
    numeric := gets 'i' v.numeric
    reference := gets 'n' v.reference
    traced := gets 't' v.traced
    keyed := v.keyed || d.has 'A'
    given := v.given || (arrayed && v.value.isSome)
    elements := if arrayed then some (v.value.toList.map fun bytes => (firstKey, bytes)) else v.elements
    value := if arrayed then none else v.value
    casing }

/-- Whether a variable has all attributes that are asked for. -/
def selects (d : Declaration) (v : Variable) : Bool :=
  let asked := d.on.filter "aAilnrtux".toList.contains
  asked.all v.letters.contains

end Declaration

/-- Keeps the value that a name has before the function that is at work changes it. Tells whether it is
the first time. -/
def saveName (name : Bytes) : Acting Bool := do
  let s ← shell
  let before := entryOf? name s.vars
  let inner := s.calls.takeWhile (!·.isFunction)
  match s.calls.drop inner.length with
  | call :: rest =>
    if call.saved.any fun entry => entry.1 = name then return false
    let call := { call with saved := (name, before) :: call.saved }
    changeShell fun s => { s with calls := inner ++ call :: rest }
    return true
  | [] => return false

/-- Refuses a declaration for a variable. Tells whether it is all right. -/
def checkDeclaration (d : Declaration) (n : NameText) (v : Variable) : Acting Bool := do
  if v.constant && (n.value.isSome || d.off.contains 'r') then
    complain (n.name ++ bytesOf ": readonly variable")
    return false
  if d.has 'A' && v.elements.isSome && !v.keyed then
    complain (n.name ++ bytesOf ": cannot convert indexed to associative array")
    return false
  if d.has 'a' && v.keyed then
    complain (n.name ++ bytesOf ": cannot convert associative to indexed array")
    return false
  match n.value with
  | some bytes =>
    let target := bytes.takeWhile (· ≠ '[')
    if d.has 'n' && !isName target then
      complain ('\x60' :: bytes ++ bytesOf "': invalid variable name for name reference")
      return false
    return true
  | none => return true

/-- Declares a name. Tells whether that is all right. -/
def declareName (d : Declaration) (inFunction : Bool) (arg : Bytes) : Acting Bool := do
  let n := NameText.read .rich arg
  if !(← checkName n.name arg) then return false
  let before ← storedVariable n.name
  if !(← checkDeclaration d n before) then return false
  if inFunction && (← saveName n.name) then storeVariable n.name { exported := before.exported }
  let name ← if d.has 'n' || d.off.contains 'n' then pure n.name else meantName referenceDepth n.name
  let v := d.mark (← storedVariable name)
  storeVariable name v
  match n.value with
  | some bytes =>
    if d.has 'n' then storeVariable name { v with value := some bytes }
    else giveValue name n.index n.added bytes
  | none => pure ()
  if d.has 'r' then storeVariable name { (← storedVariable name) with constant := true }
  return true

/-- The options of a declaration at the start of arguments, in at most so many steps, and the arguments
after them. -/
def declarationOf (d : Declaration) : Nat → List Bytes → Acting (Declaration × List Bytes)
  | 0, args => return (d, args)
  | _, [] => return (d, [])
  | steps + 1, arg :: rest => do
    let check (letters : Bytes) : Acting Unit := letters.forM fun c => do
      if !("aAcfFgiIlnprtux".toList.contains c) then misuse (arg.take 1 ++ c :: bytesOf ": invalid option")
    match arg with
    | ['-', '-'] => return (d, rest)
    | '-' :: c :: more =>
      check (c :: more)
      declarationOf { d with on := d.on ++ c :: more } steps rest
    | '+' :: c :: more =>
      check (c :: more)
      declarationOf { d with off := d.off ++ c :: more } steps rest
    | _ => return (d, arg :: rest)

/-- Writes the variables that have all attributes that are asked for, as they are declared. -/
def listDeclared (d : Declaration) (only : List Bytes) : Acting Nat := do
  let s ← shell
  let stored := s.vars.filter fun entry => d.selects entry.2 && (only.isEmpty || only.contains entry.1)
  (stored.mergeSort fun a b => bytesBefore a.1 b.1).forM fun (name, v) => do
    let _ ← put 1 (v.declared name ++ ['\n'])
  return 0

/-- Writes how names are declared. -/
def showDeclared (names : List Bytes) : Acting Nat := do
  let found ← names.mapM fun name => do
    let computed := (← get).shell.computed? (← get).world name
    match entryOf? name (← shell).vars, computed with
    | some v, none =>
      let _ ← put 1 (v.declared name ++ ['\n'])
      return true
    | _, some v =>
      let _ ← put 1 (v.declared name ++ ['\n'])
      return true
    | none, none =>
      complain (name ++ bytesOf ": not found")
      return false
  return if found.all id then 0 else 1

/-- Writes the names of functions. -/
def showFunctions (names : List Bytes) : Acting Nat := do
  let known := (← shell).functions
  if names.isEmpty then
    (known.mergeSort fun a b => bytesBefore a.1 b.1).forM fun (name, _) => do
      let _ ← put 1 (bytesOf "declare -f " ++ name ++ ['\n'])
    return 0
  else
    let found ← names.mapM fun name => do
      if (entryOf? name known).isSome then
        let _ ← put 1 (name ++ ['\n'])
        return true
      else return false
    return if found.all id then 0 else 1

/-- A variable as a list of values shows it. -/
def Variable.valued (v : Variable) (name : Bytes) : Bytes :=
  match v.elements, v.value with
  | some _, _ => name ++ '=' :: v.elementsShown ++ ['\n']
  | none, some bytes => name ++ '=' :: valueShown bytes ++ ['\n']
  | none, none => []

/-- Writes all variables with their values. -/
def listValues : Acting Nat := do
  let s ← shell
  (s.vars.mergeSort fun a b => bytesBefore a.1 b.1).forM fun (name, v) => do
    let _ ← put 1 (v.valued name)
  return 0

/-- Gives names values and attributes. -/
def declareNames (args : List Bytes) : Acting Nat := do
  let (d, names) ← declarationOf {} (args.length + 1) args
  let s ← shell
  if d.has 'f' || d.has 'F' then showFunctions names
  else if names.isEmpty then
    if d.on.isEmpty && d.off.isEmpty then listValues else listDeclared d []
  else if d.has 'p' then showDeclared names
  else
    let results ← names.mapM (declareName d (s.inFunction && !d.has 'g'))
    return if results.all id then 0 else 1

/-- Gives names values until the function ends. -/
def makeLocal (args : List Bytes) : Acting Nat := do
  let s ← shell
  match s.dialect with
  | .common =>
    if s.calls.isEmpty then failWith 2 (bytesOf "not in a function")
    args.forM fun arg => do
      let n := NameText.read .common arg
      let _ ← checkName n.name arg
      let _ ← saveName n.name
      match n.value with
      | some bytes => setValue n.name bytes
      | none => pure ()
    return 0
  | .rich =>
    if !s.inFunction then failWith 1 (bytesOf "can only be used in a function")
    let (d, names) ← declarationOf {} (args.length + 1) args
    if names.isEmpty then
      let saved := ((s.calls.find? (·.isFunction)).map fun call => call.saved.map (·.1)).getD []
      if saved.isEmpty then return 0 else listDeclared d saved
    else
      let results ← names.mapM (declareName d true)
      return if results.all id then 0 else 1

/-- Gives names an attribute of the rich language. -/
def giveAttribute (letters : String) (letter : Char) (args : List Bytes) : Acting Nat := do
  let (flags, names) ← flagsOf letters args
  if names.isEmpty || hasFlag flags 'p' then
    if hasFlag flags 'f' then return 0 else listDeclared { on := [letter] } []
  else if hasFlag flags 'f' then
    let known := (← shell).functions
    let results ← names.mapM fun name => do
      if (entryOf? name known).isSome then return true
      else
        complain (name ++ bytesOf ": not a function")
        return false
    return if results.all id then 0 else 1
  else
    let kinds := (flags.map (·.1)).filter fun c => c = 'a' || c = 'A'
    let d : Declaration := if hasFlag flags 'n' then { off := [letter] } else { on := letter :: kinds }
    let results ← names.mapM fun arg => do
      let n := NameText.read .rich arg
      if (← storedVariable n.name).constant && n.value.isSome then
        let command := (← shell).command
        changeShell fun s => { s with command := none }
        complain (n.name ++ bytesOf ": readonly variable")
        changeShell fun s => { s with command }
        return false
      else declareName d false arg
    return if results.all id then 0 else 1

/-- Gives commands the values of names. -/
def exportNames (args : List Bytes) : Acting Nat := do
  match (← shell).dialect with
  | .common => markNames "export" (·.exported) (fun v => { v with exported := true }) args
  | .rich => giveAttribute "fnp" 'x' args

/-- Lets names keep their values. -/
def makeConstant (args : List Bytes) : Acting Nat := do
  match (← shell).dialect with
  | .common => markNames "readonly" (·.constant) (fun v => { v with constant := true }) args
  | .rich => giveAttribute "aAfp" 'r' args

/-! ### Taking values away -/

/-- Takes a function away. -/
def unsetFunction (name : Bytes) : Acting Unit := changeShell fun s => { s with
  functions := s.functions.filter fun entry => entry.1 ≠ name }

/-- Takes a value or a function away in the rich language. Tells whether that is all right. -/
def unsetRich (flags : List (Char × Bytes)) (arg : Bytes) : Acting Bool := do
  let n := NameText.read .rich arg
  let name ← if hasFlag flags 'n' then pure n.name else meantName referenceDepth n.name
  let v ← storedVariable name
  if v.constant then
    complain (name ++ bytesOf ": cannot unset: readonly variable")
    return false
  match n.index with
  | some index =>
    if (index = ['@'] || index = ['*']) && !v.keyed then
      storeVariable name { v with elements := v.elements.map fun _ => [] }
    else
      let key ← keyOfIndex name index
      if key.head? = some '-' && !v.keyed then
        complain ('[' :: index ++ bytesOf "]: bad array subscript")
        return false
      storeVariable name { v with
        elements := v.elements.map fun all => all.filter fun entry => entry.1 ≠ key }
    return true
  | none =>
    if (entryOf? name (← shell).vars).isSome then
      changeShell fun s => { s with vars := s.vars.filter fun entry => entry.1 ≠ name }
    else if !hasFlag flags 'v' then unsetFunction arg
    return true

/-- Takes values or functions away. -/
def unsetNames (args : List Bytes) : Acting Nat := do
  match (← shell).dialect with
  | .common =>
    let (functions, names) := match args with
      | ['-', 'f'] :: names => (true, names)
      | ['-', 'v'] :: names => (false, names)
      | ['-', '-'] :: names => (false, names)
      | names => (false, names)
    names.forM fun arg => do
      if functions then unsetFunction arg
      else
        let name := (NameText.read .common arg).name
        let _ ← checkName name arg
        if (entryOf? name (← shell).vars).isSome then unsetValue name
    return 0
  | .rich =>
    let (flags, names) ← flagsOf "fnv" args
    if hasFlag flags 'f' then
      names.forM unsetFunction
      return 0
    else
      let results ← names.mapM (unsetRich flags)
      return if results.all id then 0 else 1

end FormatChain.Shell
