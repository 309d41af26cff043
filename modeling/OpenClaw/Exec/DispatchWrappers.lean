/-
This file is the unwrapping of dispatch wrappers (`dispatch-wrapper-resolution.ts`): commands
such as `env` or `timeout` that run the command their arguments name.

The scan of a wrapper's words goes from a word to the next one and keeps an index only to slice
the words from it on; so it stands here as a recursion on the words that are left. The only scan
that remembers something between words is the one of `arch`, so the memory is one flag.
-/

import OpenClaw.Shared.Text

namespace OpenClaw.Exec

open Text

/-! ### Executables -/

/-- `process.platform`, as far as the wrappers differ. -/
inductive Platform
  | darwin | freebsd | other
  deriving DecidableEq

def utf16Length (characters : List Char) : ℕ :=
  (characters.map fun character => if character.toNat < 0x10000 then 1 else 2).sum

/-- `path.posix.basename`. -/
def posixBasename (token : List Char) : List Char :=
  (token.rdropWhile (· = '/')).rtakeWhile (· ≠ '/')

def isWindowsSeparator (character : Char) : Bool := character = '/' || character = '\\'

/-- A path without the letter of its drive. -/
def withoutDrive : List Char → List Char
  | drive :: ':' :: rest => if drive.isAlpha then rest else drive :: ':' :: rest
  | path => path

/-- `path.win32.basename`. -/
def windowsBasename (token : List Char) : List Char :=
  ((withoutDrive token).rdropWhile isWindowsSeparator).rtakeWhile (!isWindowsSeparator ·)

def basenameLower (token : String) : String :=
  let win := windowsBasename token.toList
  let posix := posixBasename token.toList
  normalizeLowercaseStringOrEmpty
    (some (String.ofList (if utf16Length win < utf16Length posix then win else posix)))

def windowsExecutableSuffixes : List String := [".exe", ".cmd", ".bat", ".com"]

def stripWindowsExecutableSuffix (value : String) : String :=
  match windowsExecutableSuffixes.find? fun ending => ending.toList.isSuffixOf value.toList with
  | some ending => String.ofList (value.toList.take (value.toList.length - ending.toList.length))
  | none => value

def normalizeExecutableToken (token : String) : String :=
  stripWindowsExecutableSuffix (basenameLower token)

/-! ### The scan -/

inductive WrapperScanDirective
  | proceed | consumeNext | stop | invalid
  deriving DecidableEq

/-- The parameters of `scanWrapperInvocation`. -/
structure WrapperScan where
  separators : List String := []
  /-- What a token is, and its lower case, given and giving what the scan remembers. -/
  onToken : Bool → String → String → Bool × WrapperScanDirective
  /-- From the words left when the options end to the words of the command. -/
  adjustCommandIndex : List String → Option (List String) := some

/-- A scan that remembers nothing. -/
def onEach (directive : String → String → WrapperScanDirective) (memory : Bool)
    (token lower : String) : Bool × WrapperScanDirective :=
  (memory, directive token lower)

def scanLoop (scan : WrapperScan) (memory expectsOptionValue : Bool) :
    List String → Option (List String)
  | [] => if expectsOptionValue then none else some []
  | word :: rest =>
    let token := trim word
    if token = "" then scanLoop scan memory expectsOptionValue rest
    else if expectsOptionValue then scanLoop scan memory false rest
    else if token ∈ scan.separators then some rest
    else
      match scan.onToken memory token (normalizeLowercaseStringOrEmpty (some token)) with
      | (_, .stop) => some (word :: rest)
      | (_, .invalid) => none
      | (memory, .consumeNext) => scanLoop scan memory true rest
      | (memory, .proceed) => scanLoop scan memory false rest

def scanWrapperInvocation (argv : List String) (scan : WrapperScan) : Option (List String) :=
  match (scanLoop scan false false argv.tail).bind scan.adjustCommandIndex with
  | some (command :: rest) => some (command :: rest)
  | _ => none

def isOption (token : String) : Bool := "-".toList.isPrefixOf token.toList && token ≠ "-"

def flagOf (lower : String) : String := String.ofList (lower.toList.takeWhile (· ≠ '='))

def hasInlineValue (lower : String) : Bool := '=' ∈ lower.toList

/-! ### The environment -/

def envOptionsWithValue : List String :=
  ["-u", "--unset", "-c", "--chdir", "-s", "--split-string", "--default-signal",
    "--ignore-signal", "--block-signal"]

def envInlineValuePrefixes : List String :=
  ["-u", "-c", "-s", "--unset=", "--chdir=", "--split-string=", "--default-signal=",
    "--ignore-signal=", "--block-signal="]

def envFlagOptions : List String := ["-i", "--ignore-environment", "-0", "--null"]

/-- `/^[A-Za-z_][A-Za-z0-9_]*=.*/`. -/
def isEnvAssignment (token : String) : Bool :=
  match token.toList with
  | [] => false
  | first :: rest => (first.isAlpha || first = '_') &&
      (rest.dropWhile fun character => character.isAlphanum || character = '_').head? = some '='

def hasEnvInlineValuePrefix (lower : String) : Bool :=
  envInlineValuePrefixes.any fun start => start.toList.isPrefixOf lower.toList

def envScan : WrapperScan where
  separators := ["--", "-"]
  onToken := onEach fun token lower =>
    if isEnvAssignment token then .proceed
    else if !isOption token then .stop
    else if flagOf lower ∈ envFlagOptions then .proceed
    else if flagOf lower ∈ envOptionsWithValue then
      if hasInlineValue lower then .proceed else .consumeNext
    else if hasEnvInlineValuePrefix lower then .proceed
    else .invalid

def unwrapEnvInvocation (argv : List String) : Option (List String) :=
  scanWrapperInvocation argv envScan

def usesModifiersLoop (expectsOptionValue : Bool) : List String → Bool
  | [] => false
  | word :: rest =>
    let token := trim word
    if token = "" then usesModifiersLoop expectsOptionValue rest
    else if expectsOptionValue then true
    else if token = "--" || token = "-" then false
    else if isEnvAssignment token then true
    else if !isOption token then false
    else
      let lower := normalizeLowercaseStringOrEmpty (some token)
      if flagOf lower ∈ envFlagOptions then true
      else if flagOf lower ∈ envOptionsWithValue then
        if hasInlineValue lower then true else usesModifiersLoop true rest
      else true

def envInvocationUsesModifiers (argv : List String) : Bool := usesModifiersLoop false argv.tail

/-! ### Wrappers with dash options -/

/-- `unwrapDashOptionInvocation`. -/
def dashOptionScan (onFlag : String → String → WrapperScanDirective)
    (adjustCommandIndex : List String → Option (List String)) : WrapperScan where
  separators := ["--"]
  onToken := onEach fun token lower =>
    if !isOption token then .stop else onFlag (flagOf lower) lower
  adjustCommandIndex := adjustCommandIndex

def niceOptionsWithValue : List String := ["-n", "--adjustment", "--priority"]

/-- `/^-\d+$/`. -/
def isNegativeNumber (lower : String) : Bool :=
  match lower.toList with
  | '-' :: digits => !digits.isEmpty && digits.all Char.isDigit
  | _ => false

def niceScan : WrapperScan :=
  dashOptionScan (fun flag lower =>
    if isNegativeNumber lower then .proceed
    else if flag ∈ niceOptionsWithValue then
      if hasInlineValue lower || lower ≠ flag then .proceed else .consumeNext
    else if "-n".toList.isPrefixOf lower.toList && 2 < lower.toList.length then .proceed
    else .invalid) some

def unwrapNiceInvocation (argv : List String) : Option (List String) :=
  scanWrapperInvocation argv niceScan

def caffeinateOptionsWithValue : List String := ["-t", "-w"]

def caffeinateScan : WrapperScan :=
  dashOptionScan (fun flag lower =>
    if flag ∈ ["-d", "-i", "-m", "-s", "-u"] then .proceed
    else if flag ∈ caffeinateOptionsWithValue then
      if lower ≠ flag || hasInlineValue lower then .proceed else .consumeNext
    else .invalid) some

def unwrapCaffeinateInvocation (argv : List String) : Option (List String) :=
  scanWrapperInvocation argv caffeinateScan

def nohupScan : WrapperScan where
  separators := ["--"]
  onToken := onEach fun token lower =>
    if !isOption token then .stop
    else if lower = "--help" || lower = "--version" then .proceed else .invalid

def unwrapNohupInvocation (argv : List String) : Option (List String) :=
  scanWrapperInvocation argv nohupScan

def sandboxExecOptionsWithValue : List String := ["-f", "-p", "-d"]

def sandboxExecScan : WrapperScan :=
  dashOptionScan (fun flag lower =>
    if flag ∈ sandboxExecOptionsWithValue then
      if lower ≠ flag || hasInlineValue lower then .proceed else .consumeNext
    else .invalid) some

def unwrapSandboxExecInvocation (argv : List String) : Option (List String) :=
  scanWrapperInvocation argv sandboxExecScan

def stdbufOptionsWithValue : List String := ["-i", "--input", "-o", "--output", "-e", "--error"]

def stdbufScan : WrapperScan :=
  dashOptionScan (fun flag lower =>
    if flag ∉ stdbufOptionsWithValue then .invalid
    else if hasInlineValue lower then .proceed else .consumeNext) some

def unwrapStdbufInvocation (argv : List String) : Option (List String) :=
  scanWrapperInvocation argv stdbufScan

def timeFlagOptions : List String :=
  ["-a", "--append", "-h", "--help", "-l", "-p", "-q", "--quiet", "-v", "--verbose", "-V",
    "--version"]

def timeOptionsWithValue : List String := ["-f", "--format", "-o", "--output"]

/-- The flags of `time` and of `timeout`, which are in one set or take a value. -/
def flagOrValue (flagOptions optionsWithValue : List String) (flag lower : String) :
    WrapperScanDirective :=
  if flag ∈ flagOptions then .proceed
  else if flag ∈ optionsWithValue then
    if hasInlineValue lower then .proceed else .consumeNext
  else .invalid

def timeScan : WrapperScan :=
  dashOptionScan (flagOrValue timeFlagOptions timeOptionsWithValue) some

def unwrapTimeInvocation (argv : List String) : Option (List String) :=
  scanWrapperInvocation argv timeScan

def timeoutFlagOptions : List String := ["--foreground", "--preserve-status", "-v", "--verbose"]

def timeoutOptionsWithValue : List String := ["-k", "--kill-after", "-s", "--signal"]

/-- One more word is the duration. -/
def afterDuration : List String → Option (List String)
  | _ :: command :: rest => some (command :: rest)
  | _ => none

def timeoutScan : WrapperScan :=
  dashOptionScan (flagOrValue timeoutFlagOptions timeoutOptionsWithValue) afterDuration

def unwrapTimeoutInvocation (argv : List String) : Option (List String) :=
  scanWrapperInvocation argv timeoutScan

/-! ### Wrappers of some platforms -/

def bsdScriptFlagOptions : List String := ["-a", "-d", "-k", "-p", "-q", "-r"]

def bsdScriptOptionsWithValue : List String := ["-F", "-t"]

def supportsScriptPositionalCommand (platform : Platform) : Bool :=
  platform = .darwin || platform = .freebsd

/-- The words from the second one that is not blank. -/
def afterTranscript (sawTranscript : Bool) : List String → Option (List String)
  | [] => none
  | word :: rest =>
    if trim word = "" then afterTranscript sawTranscript rest
    else if !sawTranscript then afterTranscript true rest
    else some (word :: rest)

def scriptScan : WrapperScan where
  separators := ["--"]
  onToken := onEach fun token lower =>
    if !isOption lower then .stop
    else if flagOf token ∈ bsdScriptOptionsWithValue then
      if hasInlineValue token then .proceed else .consumeNext
    else if flagOf token ∈ bsdScriptFlagOptions then .proceed
    else .invalid
  adjustCommandIndex := afterTranscript false

def unwrapScriptInvocation (platform : Platform) (argv : List String) : Option (List String) :=
  if !supportsScriptPositionalCommand platform then none else scanWrapperInvocation argv scriptScan

/-- `/^-[A-Za-z0-9_]+$/`. -/
def isArchSelectorToken (token : String) : Bool :=
  match token.toList with
  | '-' :: name =>
    !name.isEmpty && name.all fun character => character.isAlphanum || character = '_'
  | _ => false

def isKnownArchSelectorToken (token : String) : Bool :=
  token ∈ ["-arm64", "-arm64e", "-i386", "-x86_64", "-x86_64h"]

def isKnownArchNameToken (token : String) : Bool := isKnownArchSelectorToken ("-" ++ token)

/-- The memory is `expectsArchName`. -/
def archScan : WrapperScan where
  onToken expectsArchName token lower :=
    if expectsArchName then
      (false, if isKnownArchNameToken lower then .proceed else .invalid)
    else if !isOption token then (false, .stop)
    else if lower = "-32" || lower = "-64" then (false, .proceed)
    else if lower = "-arch" then (true, .proceed)
    -- these change the environment of the command
    else if lower ∈ ["-c", "-d", "-e", "-h"] then (false, .invalid)
    else (false,
      if isArchSelectorToken token && isKnownArchSelectorToken lower then .proceed else .invalid)

def unwrapArchInvocation (argv : List String) : Option (List String) :=
  scanWrapperInvocation argv archScan

def supportsArchDispatchWrapper (platform : Platform) : Bool := platform = .darwin

def xcrunFlagOptions : List String :=
  ["-k", "--kill-cache", "-l", "--log", "-n", "--no-cache", "-r", "--run", "-v", "--verbose"]

def xcrunScan : WrapperScan where
  onToken := onEach fun token lower =>
    if !isOption token then .stop
    else if lower ∈ xcrunFlagOptions then .proceed else .invalid

def unwrapXcrunInvocation (argv : List String) : Option (List String) :=
  scanWrapperInvocation argv xcrunScan

def supportsXcrunDispatchWrapper (platform : Platform) : Bool := platform = .darwin

/-! ### The table -/

structure DispatchWrapperSpec where
  name : String
  unwrap : Option (Platform → List String → Option (List String)) := none
  transparentUsage : Platform → List String → Bool := fun _ _ => false

def dispatchWrapperSpecs : List DispatchWrapperSpec :=
  [{ name := "arch"
     unwrap := some fun platform argv =>
      if supportsArchDispatchWrapper platform then unwrapArchInvocation argv else none
     transparentUsage := fun platform _ => supportsArchDispatchWrapper platform },
    { name := "caffeinate", unwrap := some fun _ => unwrapCaffeinateInvocation
      transparentUsage := fun _ _ => true },
    { name := "chrt" },
    { name := "doas" },
    { name := "env", unwrap := some fun _ => unwrapEnvInvocation
      transparentUsage := fun _ argv => !envInvocationUsesModifiers argv },
    { name := "ionice" },
    { name := "nice", unwrap := some fun _ => unwrapNiceInvocation
      transparentUsage := fun _ _ => true },
    { name := "nohup", unwrap := some fun _ => unwrapNohupInvocation
      transparentUsage := fun _ _ => true },
    { name := "sandbox-exec", unwrap := some fun _ => unwrapSandboxExecInvocation
      transparentUsage := fun _ _ => true },
    { name := "script", unwrap := some unwrapScriptInvocation
      transparentUsage := fun _ _ => true },
    { name := "setsid" },
    { name := "stdbuf", unwrap := some fun _ => unwrapStdbufInvocation
      transparentUsage := fun _ _ => true },
    { name := "sudo" },
    { name := "taskset" },
    { name := "time", unwrap := some fun _ => unwrapTimeInvocation
      transparentUsage := fun _ _ => true },
    { name := "timeout", unwrap := some fun _ => unwrapTimeoutInvocation
      transparentUsage := fun _ _ => true },
    { name := "xcrun"
      unwrap := some fun platform argv =>
        if supportsXcrunDispatchWrapper platform then unwrapXcrunInvocation argv else none
      transparentUsage := fun platform _ => supportsXcrunDispatchWrapper platform }]

/-- `DISPATCH_WRAPPER_SPEC_BY_NAME.get`. -/
def dispatchWrapperSpec (wrapper : String) : Option DispatchWrapperSpec :=
  dispatchWrapperSpecs.find? (·.name = wrapper)

inductive WrapperUnwrapResult
  | notWrapper
  | blocked (wrapper : String)
  | unwrapped (wrapper : String) (argv : List String)
  deriving DecidableEq

def unwrapDispatchWrapper (wrapper : String) (unwrapped : Option (List String)) :
    WrapperUnwrapResult :=
  match unwrapped with
  | some argv => .unwrapped wrapper argv
  | none => .blocked wrapper

def isDispatchWrapperExecutable (token : String) : Bool :=
  (dispatchWrapperSpec (normalizeExecutableToken token)).isSome

/-- `argv[0]?.trim()`, when it is not empty. -/
def firstToken (argv : List String) : Option String := nonEmpty (argv.head?.map trim)

def unwrapKnownDispatchWrapperInvocation (platform : Platform) (argv : List String) :
    WrapperUnwrapResult :=
  match firstToken argv with
  | none => .notWrapper
  | some token0 =>
    let wrapper := normalizeExecutableToken token0
    match dispatchWrapperSpec wrapper with
    | none => .notWrapper
    | some spec =>
      match spec.unwrap with
      | some unwrap => unwrapDispatchWrapper wrapper (unwrap platform argv)
      | none => .blocked wrapper

def isSemanticDispatchWrapperUsage (platform : Platform) (wrapper : String) (argv : List String) :
    Bool :=
  match dispatchWrapperSpec wrapper with
  | none => true
  | some spec => if spec.unwrap.isNone then true else !spec.transparentUsage platform argv

/-! ### The plan -/

def maxDispatchWrapperDepth : ℕ := 4

structure DispatchWrapperTrustPlan where
  argv : List String
  wrappers : List String
  policyBlocked : Bool
  blockedWrapper : Option String := none
  deriving DecidableEq

def blockedDispatchWrapperPlan (argv wrappers : List String) (blockedWrapper : String) :
    DispatchWrapperTrustPlan :=
  { argv, wrappers, policyBlocked := true, blockedWrapper := some blockedWrapper }

/-- The loop of `resolveDispatchWrapperTrustPlan`, with the turns it has left: a plan it returns,
or the words and the wrappers it goes on with. -/
def dispatchLoop (platform : Platform) : ℕ → List String → List String →
    Except DispatchWrapperTrustPlan (List String × List String)
  | 0, current, wrappers => .ok (current, wrappers)
  | turns + 1, current, wrappers =>
    match unwrapKnownDispatchWrapperInvocation platform current with
    | .blocked wrapper => .error (blockedDispatchWrapperPlan current wrappers wrapper)
    | .notWrapper => .ok (current, wrappers)
    | .unwrapped wrapper argv =>
      if argv.length = 0 then .ok (current, wrappers)
      else if isSemanticDispatchWrapperUsage platform wrapper current then
        .error (blockedDispatchWrapperPlan current (wrappers ++ [wrapper]) wrapper)
      else dispatchLoop platform turns argv (wrappers ++ [wrapper])

def resolveDispatchWrapperTrustPlan (platform : Platform) (argv : List String) (maxDepth : ℕ) :
    DispatchWrapperTrustPlan :=
  match dispatchLoop platform maxDepth argv [] with
  | .error plan => plan
  | .ok (current, wrappers) =>
    let plan : DispatchWrapperTrustPlan := { argv := current, wrappers, policyBlocked := false }
    if wrappers.length ≥ maxDepth then
      match unwrapKnownDispatchWrapperInvocation platform current with
      | .blocked wrapper => blockedDispatchWrapperPlan current wrappers wrapper
      | .unwrapped wrapper _ => blockedDispatchWrapperPlan current wrappers wrapper
      | .notWrapper => plan
    else plan

end OpenClaw.Exec
