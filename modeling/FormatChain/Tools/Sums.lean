import FormatChain.Process.Numeral
import FormatChain.Process.Options
import FormatChain.Tools.Digest

/-!
# Sums of files

The sums of files are written, or compared with those that a list gives.

* `SumKind` : a sum and its name.
* `sumOf` : the commands that write one kind of sum.
* `cksum`, `sum` : the commands that write short sums.
-/

namespace FormatChain.Tools

open FormatChain.Process

/-- A sum and its name. -/
structure SumKind where
  /-- The name. -/
  name : String
  /-- The sum. -/
  sum : List UInt8 → Bytes
  /-- How many digits it has. -/
  digits : Nat

/-- The sum of 128 binary digits. -/
def md5Kind : SumKind := ⟨"MD5", md5, 32⟩

/-- The sum of 160 binary digits. -/
def sha1Kind : SumKind := ⟨"SHA1", sha1, 40⟩

/-- The sum of 224 binary digits. -/
def sha224Kind : SumKind := ⟨"SHA224", sha224, 56⟩

/-- The sum of 256 binary digits. -/
def sha256Kind : SumKind := ⟨"SHA256", sha256, 64⟩

/-- The sum of 384 binary digits. -/
def sha384Kind : SumKind := ⟨"SHA384", sha384, 96⟩

/-- The sum of 512 binary digits. -/
def sha512Kind : SumKind := ⟨"SHA512", sha512, 128⟩

/-- The sum of so many bytes. -/
def blakeKind (length : Nat) : SumKind :=
  ⟨if length = 64 then "BLAKE2b" else s!"BLAKE2b-{8 * length}", blake2b length, 2 * length⟩

/-! ## Writing -/

/-- How sums are written. -/
structure SumForm where
  /-- Whether the name of the sum is written. -/
  named : Bool := false
  /-- Whether an asterisk stands before names of files. -/
  starred : Bool := false
  /-- Whether a byte of zeros ends lines. -/
  zeroEnds : Bool := false

/-- A name of a file with escapes for backslashes and line ends. -/
def escapedName (name : Bytes) : Bytes :=
  name.flatMap fun c =>
    if c = '\\' then ['\\', '\\'] else if c = '\n' then ['\\', 'n'] else if c = '\r' then ['\\', 'r'] else [c]

/-- The line of a file. -/
def SumForm.line (f : SumForm) (kind : SumKind) (digest file : Bytes) : Bytes :=
  let escape := !f.zeroEnds && file.any fun c => c = '\\' || c = '\n' || c = '\r'
  let name := if escape then escapedName file else file
  (if escape then ['\\'] else [])
    ++ (if f.named then bytesOf s!"{kind.name} (" ++ name ++ ") = ".toList ++ digest
      else digest ++ ' ' :: (if f.starred then '*' else ' ') :: name)
    ++ [if f.zeroEnds then '\x00' else '\n']

/-! ## Comparing -/

/-- A line of a list: the digits and the name of a file. -/
structure SumEntry where
  /-- The digits. -/
  digest : Bytes
  /-- The name. -/
  file : Bytes

/-- A name of a file without its escapes; none if it is not written well. -/
def unescapedName? : Bytes → Option Bytes
  | '\\' :: '\\' :: rest => (unescapedName? rest).map ('\\' :: ·)
  | '\\' :: 'n' :: rest => (unescapedName? rest).map ('\n' :: ·)
  | '\\' :: 'r' :: rest => (unescapedName? rest).map ('\r' :: ·)
  | '\\' :: _ => none
  | c :: rest => (unescapedName? rest).map (c :: ·)
  | [] => some []

/-- Whether bytes are so many digits of base sixteen. -/
def isDigest (digits : Nat) (bytes : Bytes) : Bool :=
  bytes.length = digits && bytes.all fun c => (hexDigit? c).isSome

/-- The entry of a line of a list, if it is one. -/
def SumEntry.ofLine? (kind : SumKind) (line : Bytes) : Option SumEntry :=
  let trimmed := line.dropWhile isBlankByte
  let (escaped, body) := match trimmed with
    | '\\' :: rest => (true, rest)
    | rest => (false, rest)
  let named (file : Bytes) : Option Bytes := if escaped then unescapedName? file else some file
  let tag := bytesOf s!"{kind.name} ("
  if tag.isPrefixOf body then
    let inner := body.drop tag.length
    let file := ((inner.reverse.dropWhile (· != ')')).drop 1).reverse
    let after := inner.drop (file.length + 1)
    let digest := (after.dropWhile fun c => c = ' ' || c = '=').dropWhile isBlankByte
    if isDigest kind.digits digest then (named file).map fun file => ⟨digest, file⟩ else none
  else
    let digest := body.take kind.digits
    match body.drop kind.digits with
    | ' ' :: mark :: file =>
      let file := if mark = ' ' || mark = '*' then file else mark :: file
      if isDigest kind.digits digest && !file.isEmpty then (named file).map fun file => ⟨digest, file⟩
      else none
    | _ => none

/-- What is told when sums are compared. -/
structure SumCheck where
  /-- Whether files that agree are not told. -/
  quiet : Bool := false
  /-- Whether nothing is told. -/
  silent : Bool := false
  /-- Whether lines that are no entries are told one by one. -/
  warns : Bool := false
  /-- Whether lines that are no entries are an error. -/
  strict : Bool := false
  /-- Whether files that are not there are passed over. -/
  forgiving : Bool := false

/-- How many entries of a list turned out how. -/
structure SumTally where
  /-- The entries. -/
  proper : Nat := 0
  /-- The lines that are none. -/
  improper : Nat := 0
  /-- The files that could not be read. -/
  unread : Nat := 0
  /-- The files whose sum is another one. -/
  wrong : Nat := 0
  /-- The files whose sum is the one given. -/
  right : Nat := 0

/-- Compares the sum of the file of an entry. -/
def SumCheck.entry (c : SumCheck) (j : Job) (kind : SumKind) (t : SumTally) (e : SumEntry) :
    Running SumTally := do
  let t := { t with proper := t.proper + 1 }
  let shown := textOf (if e.file.contains '\n' then '\\' :: escapedName e.file else e.file)
  let tell (what : String) : Running Unit :=
    unless c.silent do Running.writeLine (bytesOf s!"{shown}: {what}")
  let found ← if e.file = ['-'] then do pure (Except.ok (← Running.takeInput))
    else Running.readFile j.cwd e.file
  match found with
  | .error fault =>
    if c.forgiving && fault == .notFound then return t
    j.complain s!"{nameShown e.file}: {fault.words}"
    tell "FAILED open or read"
    return { t with unread := t.unread + 1 }
  | .ok bytes =>
    if (kind.sum (toNumbers bytes)) = e.digest.map Char.toLower then
      unless c.quiet do tell "OK"
      return { t with right := t.right + 1 }
    else
      tell "FAILED"
      return { t with wrong := t.wrong + 1 }

/-- A warning about a number of things. -/
def warnOf (j : Job) (n : Nat) (one many : String) : Running Unit := do
  if 0 < n then j.complain s!"WARNING: {n} {if n = 1 then one else many}"

/-- Compares the sums that a list gives; whether all agree. -/
def SumCheck.list (c : SumCheck) (j : Job) (kind : SumKind) (list : Bytes) : Running Bool := do
  match ← j.readOperand list with
  | none => return false
  | some bytes =>
    let shown := if list = ['-'] then "'standard input'" else nameShown list
    let mut t : SumTally := {}
    let mut number := 0
    for line in linesOf bytes do
      number := number + 1
      let body := if line.body.getLast? = some '\r' then line.body.dropLast else line.body
      if body.head? = some '#' || body.isEmpty then pure ()
      else
        match SumEntry.ofLine? kind body with
        | some entry => t ← c.entry j kind t entry
        | none =>
          t := { t with improper := t.improper + 1 }
          if c.warns then
            j.complain s!"{shown}: {number}: improperly formatted {kind.name} checksum line"
    if t.proper = 0 then
      j.complain s!"{shown}: no properly formatted checksum lines found"
      return false
    else
      unless c.silent do
        warnOf j t.improper "line is improperly formatted" "lines are improperly formatted"
        warnOf j t.unread "listed file could not be read" "listed files could not be read"
        warnOf j t.wrong "computed checksum did NOT match" "computed checksums did NOT match"
        if c.forgiving && t.right = 0 then j.complain s!"{shown}: no file was verified"
      return t.wrong = 0 && t.unread = 0 && t.right > 0 && (!c.strict || t.improper = 0)

/-! ## The commands -/

/-- The words of options of the commands that write sums. -/
def sumWords : List (String × Char) :=
  [("binary", 'b'), ("check", 'c'), ("ignore-missing", '\x01'), ("quiet", '\x02'), ("status", '\x03'),
    ("text", 't'), ("warn", 'w'), ("strict", '\x04'), ("zero", 'z'), ("tag", '\x05')]

/-- What is wrong with options that do not go together. -/
def sumFault? (given : List Given) : Option String :=
  let onlyChecking (letter : Char) (word : String) : Option String :=
    if has given letter && !has given 'c' then
      some s!"the --{word} option is meaningful only when verifying checksums"
    else none
  if has given '\x05' && has given 'c' then
    some "the --tag option is meaningless when verifying checksums"
  else if has given 'z' && has given 'c' then
    some "the --zero option is not supported when verifying checksums"
  else if (has given 'b' || has given 't') && has given 'c' then
    some "the --binary and --text options are meaningless when verifying checksums"
  else if has given '\x05' && has given 't' then some "--tag does not support --text mode"
  else
    [onlyChecking '\x01' "ignore-missing", onlyChecking '\x03' "status", onlyChecking 'w' "warn",
      onlyChecking '\x02' "quiet", onlyChecking '\x04' "strict"].findSome? id

/-- Writes or compares sums of a kind. -/
def writeSums (j : Job) (kind : SumKind) (named : Bool) (given : List Given) (files : List Bytes) :
    Running ExitStatus := do
  let check : SumCheck := {
    quiet := has given '\x02', silent := has given '\x03', warns := has given 'w'
    strict := has given '\x04', forgiving := has given '\x01' }
  let form : SumForm := { named, starred := has given 'b', zeroEnds := has given 'z' }
  let mut well := true
  for file in if files.isEmpty then [['-']] else files do
    if has given 'c' then
      let agrees ← check.list j kind file
      well := well && agrees
    else
      match ← j.readOperand file with
      | some bytes => Running.write (form.line kind (kind.sum (toNumbers bytes)) file)
      | none => well := false
  return statusOf well

/-- Writes the sums of files, or of what comes in. -/
def sumOf (kind : SumKind) : Program := fun j =>
  j.withOptions 1 { letters := "bctwz\x01\x02\x03\x04\x05", words := sumWords } fun given files =>
    match sumFault? given with
    | some fault => j.misused 1 fault
    | none => writeSums j kind (has given '\x05') given files

/-- Writes sums of a length that may be chosen. -/
def b2sum : Program := fun j =>
  let words := ("length", 'l') :: sumWords
  j.withOptions 1 { letters := "bctwzl:\x01\x02\x03\x04\x05", words } fun given files => do
    let value := (valueOf? given 'l').getD ['0']
    match ({ refusal := "invalid length" } : AmountRules).readNat value with
    | .error fault => j.fail 1 fault
    | .ok bits =>
      if 512 < bits then
        j.complain s!"invalid length: {quoted value}"
        j.fail 1 "maximum digest length for 'BLAKE2b' is 512 bits"
      else if bits % 8 != 0 then
        j.complain s!"invalid length: {quoted value}"
        j.fail 1 "length is not a multiple of 8"
      else
        match sumFault? given with
        | some fault => j.misused 1 fault
        | none => writeSums j (blakeKind (if bits = 0 then 64 else bits / 8)) (has given '\x05') given files

/-! ## Short sums -/

/-- The sums that one command writes. -/
inductive AnySum where
  /-- The remainder. -/
  | remainder
  /-- The turned sum. -/
  | turned
  /-- The plain sum. -/
  | plain
  /-- A long sum. -/
  | long (kind : SumKind)

/-- The names of the sums. -/
def anySums : Choices AnySum :=
  [(["bsd"], .turned), (["sysv"], .plain), (["crc"], .remainder), (["md5"], .long md5Kind),
    (["sha1"], .long sha1Kind), (["sha224"], .long sha224Kind), (["sha256"], .long sha256Kind),
    (["sha384"], .long sha384Kind), (["sha512"], .long sha512Kind), (["blake2b"], .long (blakeKind 64)),
    (["sm3"], .remainder)]

/-- How many units of a size bytes take. -/
def unitsOf (size n : Nat) : Nat := (n + size - 1) / size

/-- Writes the short sums of files, each on a line. -/
def writeShortSums (j : Job) (line : Bytes → Bytes) (files : List Bytes) : Running ExitStatus := do
  let mut well := true
  for file in if files.isEmpty then [['-']] else files do
    match ← j.readOperand file with
    | some bytes => Running.writeLine (line bytes ++ (if files.isEmpty then [] else ' ' :: file))
    | none => well := false
  return statusOf well

/-- The turned sum of bytes with their number. -/
def turnedLine (bytes : Bytes) : Bytes :=
  padZeros 5 (digitsOf (turnedSum (toNumbers bytes))) ++ ' ' ::
    padStart 5 (digitsOf (unitsOf 1024 bytes.length))

/-- The plain sum of bytes with their number. -/
def plainLine (bytes : Bytes) : Bytes :=
  digitsOf (plainSum (toNumbers bytes)) ++ ' ' :: digitsOf (unitsOf 512 bytes.length)

/-- The remainder of bytes with their number. -/
def remainderLine (bytes : Bytes) : Bytes :=
  digitsOf (cyclicSum (toNumbers bytes)).toNat ++ ' ' :: digitsOf bytes.length

/-- Writes remainders, or other sums. -/
def cksum : Program := fun j =>
  let words := [("algorithm", 'a'), ("length", 'l'), ("untagged", '\x06'), ("debug", '\x07')] ++ sumWords
  j.withOptions 1 { letters := "a:bctwzl:\x01\x02\x03\x04\x05\x06\x07", words } fun given files =>
    match (valueOf? given 'a').mapM (choose anySums "--algorithm") with
    | .error fault => j.misused 1 fault
    | .ok kind =>
      match kind.getD .remainder with
      | .remainder => writeShortSums j remainderLine files
      | .turned => writeShortSums j turnedLine files
      | .plain => writeShortSums j plainLine files
      | .long kind =>
        match sumFault? given with
        | some fault => j.misused 1 fault
        | none => writeSums j kind (!has given '\x06') given files

/-- Writes turned or plain sums. -/
def sum : Program := fun j =>
  j.withOptions 1 { letters := "rs", words := [("sysv", 's')] } fun given files =>
    let last := (given.getLast?).map (·.letter)
    writeShortSums j (if last = some 's' then plainLine else turnedLine) files

end FormatChain.Tools
