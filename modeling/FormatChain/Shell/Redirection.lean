import FormatChain.Shell.Expansion

/-!
# Leading streams

A redirection leads a stream of a command to a file, to where another stream leads, or to a text in
the script.

* `Lead`, `leadOf` : a redirection whose words are replaced.
* `apply` : leading a stream.
* `withStreams` : doing something with streams that lead elsewhere.
-/

namespace FormatChain.Shell

open FormatChain.Process

/-- A redirection whose words are replaced. -/
inductive Lead where
  /-- To a file. -/
  | file (stream : Nat) (kind : RedirectKind) (name : Bytes)
  /-- To where another stream leads. -/
  | same (stream other : Nat)
  /-- To nothing at all. -/
  | closed (stream : Nat)
  /-- To a text. -/
  | text (stream : Nat) (bytes : Bytes)

/-- The stream that a redirection is for if it names none. -/
def defaultStream : RedirectKind → Nat
  | .read => 0
  | .both => 0
  | .sameInput => 0
  | .word => 0
  | _ => 1

/-- A redirection whose words are replaced. -/
def leadOf (writer : Writer) (redirect : Redirect) : Acting Lead := do
  match redirect with
  | .document stream number =>
    let documents := (← shell).documents
    let word := ((documents.find? fun entry => entry.1 = number).map (·.2)).getD []
    let chunks ← chunksOf writer wordDepth .plain word
    return .text (stream.getD 0) (bytesOfChunks chunks)
  | .named stream kind target =>
    let text ← textOfWord writer target
    let stream' := stream.getD (defaultStream kind)
    match kind with
    | .word => return .text stream' (text ++ ['\n'])
    | .sameInput | .sameOutput =>
      match natOf? text with
      | some n => return .same stream' n
      | none =>
        if text = ['-'] then return .closed stream'
        match (← shell).dialect with
        | .common => fail "Syntax error: Bad fd number"
        | .rich =>
          if kind = .sameOutput && stream.isNone then return .file 1 .everything text
          else failWith 1 (text ++ bytesOf ": ambiguous redirect")
    | _ => return .file stream' kind text

/-- Complains that a file cannot be opened. -/
def refuseOpen (creating : Bool) (name : Bytes) (e : SystemError) : Acting Unit := do
  match (← shell).dialect with
  | .rich => failWith 1 (name ++ bytesOf s!": {e.words}")
  | .common =>
    let words := match e with
      | .notFound => if creating then "Directory nonexistent" else "No such file"
      | .notADirectory => if creating then "Directory nonexistent" else "No such file"
      | e => e.words
    failWith 2 (bytesOf (if creating then "cannot create " else "cannot open ") ++ name
      ++ bytesOf s!": {words}")

/-- The names of the streams as files. -/
def streamNames : List (String × Nat) :=
  [("/dev/stdin", 0), ("/dev/stdout", 1), ("/dev/stderr", 2), ("/dev/fd/0", 0), ("/dev/fd/1", 1),
    ("/dev/fd/2", 2)]

/-- Opens a file for reading, or finds out why that is refused. -/
def openForReading (place : Place) (disk : Disk) : Except SystemError Opened :=
  match place with
  | .directory _ => .ok { target := .directory, writes := false }
  | .vacant _ => .error .notFound
  | .file path =>
    if path.same ⟨"/dev/null"⟩ then .ok { target := .nowhere }
    else if path.same ⟨"/dev/tty"⟩ then .error .noDevice
    else if path.same ⟨"/dev/zero"⟩ || path.same ⟨"/dev/full"⟩ then
      .ok { target := .nowhere, unread := List.replicate Running.endlessSupply '\x00' }
    else .ok { target := .file path, unread := fileBytes disk path, writes := false }

/-- Opens a file for writing. -/
def openForWriting (name : Bytes) (emptied appending reads : Bool) : Acting Opened := do
  let scene ← get
  let disk := scene.world.disk
  match disk.locateTarget scene.shell.cwd (pathOf name) with
  | .error e =>
    refuseOpen true name e
    return { target := .nowhere }
  | .ok path =>
    if path.same ⟨"/dev/null"⟩ || path.same ⟨"/dev/zero"⟩ then return { target := .nowhere }
    if path.same ⟨"/dev/tty"⟩ then refuseOpen true name .noDevice
    if emptied && disk.hasFile path && (← isOn 'C') then
      match (← shell).dialect with
      | .common => refuseOpen true name .alreadyThere
      | .rich => failWith 1 (name ++ bytesOf ": cannot overwrite existing file")
    let before := fileBytes disk path
    let bytes := if emptied then [] else before
    modify fun scene => { scene with
      world := { scene.world with disk := scene.world.disk.putBytes path (toNumbers bytes) } }
    return { target := .file path, appending, reads, unread := if reads then bytes else [] }

/-- Leads a stream. -/
def apply (l : Lead) : Acting Unit := do
  match l with
  | .closed stream => close stream
  | .text stream bytes => lead stream (← addOpened { target := .store, unread := bytes, writes := false })
  | .same stream other =>
    match ← streamAt? other with
    | some (n, _) => lead stream n
    | none =>
      failWith (if (← shell).dialect = .rich then 1 else 2)
        (digitsOf other ++ bytesOf ": Bad file descriptor")
  | .file stream kind name =>
    match streamNames.find? fun entry => entry.1.toList = name with
    | some (_, other) =>
      match ← streamAt? other with
      | some (n, _) => lead stream n
      | none => refuseOpen (kind ≠ .read) name .notFound
    | none =>
      match kind with
      | .read =>
        let scene ← get
        let found := do
          openForReading (← scene.world.disk.find scene.shell.cwd (pathOf name)) scene.world.disk
        match found with
        | .ok opened => lead stream (← addOpened opened)
        | .error e => refuseOpen false name e
      | .append => lead stream (← addOpened (← openForWriting name false true false))
      | .both => lead stream (← addOpened (← openForWriting name false false true))
      | .clobber =>
        let settings := (← shell).settings
        changeShell fun s => { s with settings := s.settings.filter (· ≠ 'C') }
        let opened ← openForWriting name true false false
        changeShell fun s => { s with settings }
        lead stream (← addOpened opened)
      | .everything =>
        let n ← addOpened (← openForWriting name true false false)
        lead 1 n
        lead 2 n
      | .everythingAppended =>
        let n ← addOpened (← openForWriting name false true false)
        lead 1 n
        lead 2 n
      | _ => lead stream (← addOpened (← openForWriting name true false false))

/-- Does something, after which the streams lead where they led before. -/
def keepingStreams {α : Type} (act : Acting α) : Acting α := do
  let before := (← shell).streams
  let result ← attempt act
  changeShell fun s => { s with streams := before }
  liftExcept result
where
  /-- Goes on, or does not. -/
  liftExcept (result : Except Flow α) : Acting α :=
    match result with
    | .ok value => return value
    | .error flow => throw flow

end FormatChain.Shell
