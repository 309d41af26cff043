/-
This file is the trust plan of a command (`exec-wrapper-trust-plan.ts`) with the shells and the
shell multiplexers it unwraps to (`shell-wrapper-resolution.ts`, `shell-inline-command.ts`).
-/

import OpenClaw.Exec.DispatchWrappers

namespace OpenClaw.Exec

open Text

/-! ### Shells -/

def posixShellWrapperNames : List String := ["ash", "bash", "dash", "fish", "ksh", "sh", "zsh"]

def windowsCmdWrapperNames : List String := ["cmd"]

def powershellWrapperNames : List String := ["powershell", "pwsh"]

def shellMultiplexerWrapperNames : List String := ["busybox", "toybox"]

inductive ShellWrapperKind
  | posix | cmd | powershell
  deriving DecidableEq

def findShellWrapperSpec (baseExecutable : String) : Option ShellWrapperKind :=
  if baseExecutable ∈ posixShellWrapperNames then some .posix
  else if baseExecutable ∈ windowsCmdWrapperNames then some .cmd
  else if baseExecutable ∈ powershellWrapperNames then some .powershell
  else none

def isShellWrapperExecutable (token : String) : Bool :=
  normalizeExecutableToken token ∈
    posixShellWrapperNames ++ windowsCmdWrapperNames ++ powershellWrapperNames

def isShellMultiplexerExecutable (token : String) : Bool :=
  normalizeExecutableToken token ∈ shellMultiplexerWrapperNames

def unwrapKnownShellMultiplexerInvocation (argv : List String) : WrapperUnwrapResult :=
  match firstToken argv with
  | none => .notWrapper
  | some token0 =>
    let wrapper := normalizeExecutableToken token0
    if !isShellMultiplexerExecutable token0 then .notWrapper
    else
      let unwrapped :=
        if (argv.tail.head?.map trim) = some "--" then argv.tail.tail else argv.tail
      match firstToken unwrapped with
      | none => .blocked wrapper
      | some applet =>
        if !isShellWrapperExecutable applet then .blocked wrapper else .unwrapped wrapper unwrapped

/-! ### Inline commands -/

def posixInlineCommandFlags : List String := ["-lc", "-c", "--command"]

def powershellInlineCommandFlags : List String :=
  ["-c", "-command", "--command", "-f", "-file", "-encodedcommand", "-enc", "-e"]

/-- `/^-[^-]*c[^-]*$/i`. -/
def isCombinedC (token : String) : Bool :=
  match token.toList with
  | '-' :: flags => '-' ∉ flags && flags.any fun flag => flag = 'c' || flag = 'C'
  | _ => false

/-- The command of `resolveInlineCommandMatch`, over the words behind the shell's name. -/
def resolveInlineCommand (flags : List String) (allowCombinedC : Bool) :
    List String → Option String
  | [] => none
  | word :: rest =>
    let token := trim word
    if token = "" then resolveInlineCommand flags allowCombinedC rest
    else
      let lower := normalizeLowercaseStringOrEmpty (some token)
      if lower = "--" then none
      else if lower ∈ flags then firstToken rest
      else if allowCombinedC && isCombinedC token then
        match nonEmpty (some (trim (String.ofList
          (token.toList.drop ((lower.toList.takeWhile (· ≠ 'c')).length + 1))))) with
        | some inlineCommand => some inlineCommand
        | none => firstToken rest
      else resolveInlineCommand flags allowCombinedC rest

def extractCmdInlineCommand (argv : List String) : Option String :=
  match argv.dropWhile fun item =>
    normalizeLowercaseStringOrEmpty (some item) ∉ ["/c", "/k"] with
  | _ :: command :: rest => nonEmpty (some (trim (String.intercalate " " (command :: rest))))
  | _ => none

def extractShellWrapperPayload (argv : List String) : ShellWrapperKind → Option String
  | .posix => resolveInlineCommand posixInlineCommandFlags true argv.tail
  | .cmd => extractCmdInlineCommand argv
  | .powershell => resolveInlineCommand powershellInlineCommandFlags false argv.tail

/-- `extractShellWrapperInlineCommand`, with the levels it may still go down. -/
def shellWrapperInlineCommand (platform : Platform) : ℕ → List String → Option String
  | 0, _ => none
  | levels + 1, argv =>
    match firstToken argv with
    | none => none
    | some token0 =>
      match unwrapKnownDispatchWrapperInvocation platform argv with
      | .blocked _ => none
      | .unwrapped _ unwrapped => shellWrapperInlineCommand platform levels unwrapped
      | .notWrapper =>
        match unwrapKnownShellMultiplexerInvocation argv with
        | .blocked _ => none
        | .unwrapped _ unwrapped => shellWrapperInlineCommand platform levels unwrapped
        | .notWrapper =>
          (findShellWrapperSpec (normalizeExecutableToken token0)).bind
            (extractShellWrapperPayload argv)

def extractShellWrapperInlineCommand (platform : Platform) (argv : List String) : Option String :=
  shellWrapperInlineCommand platform (maxDispatchWrapperDepth + 1) argv

/-! ### The plan -/

structure ExecWrapperTrustPlan where
  argv : List String
  policyArgv : List String
  wrapperChain : List String
  policyBlocked : Bool
  blockedWrapper : Option String := none
  shellWrapperExecutable : Bool := false
  shellInlineCommand : Option String := none
  deriving DecidableEq

def blockedExecWrapperTrustPlan (argv policyArgv wrapperChain : List String)
    (blockedWrapper : String) : ExecWrapperTrustPlan :=
  { argv, policyArgv, wrapperChain, policyBlocked := true, blockedWrapper := some blockedWrapper }

def finalizeExecWrapperTrustPlan (platform : Platform)
    (argv policyArgv wrapperChain : List String) (policyBlocked : Bool) : ExecWrapperTrustPlan :=
  let shellWrapperExecutable := !policyBlocked && (firstToken argv).any isShellWrapperExecutable
  { argv, policyArgv, wrapperChain, policyBlocked, shellWrapperExecutable
    shellInlineCommand :=
      if shellWrapperExecutable then extractShellWrapperInlineCommand platform argv else none }

/-- What the loop carries. -/
structure TrustState where
  current : List String
  policyArgv : List String
  sawShellMultiplexer : Bool
  wrapperChain : List String

/-- The loop of `resolveExecWrapperTrustPlan`, with the turns it has left: a plan it returns, or
the state it goes on with. -/
def trustLoop (platform : Platform) (maxDepth : ℕ) : ℕ → TrustState →
    Except ExecWrapperTrustPlan TrustState
  | 0, state => .ok state
  | turns + 1, state =>
    let dispatchPlan := resolveDispatchWrapperTrustPlan platform state.current
      (maxDepth - state.wrapperChain.length)
    if dispatchPlan.policyBlocked then
      .error (blockedExecWrapperTrustPlan dispatchPlan.argv dispatchPlan.argv state.wrapperChain
        ((dispatchPlan.blockedWrapper.or state.current.head?).getD "unknown"))
    else if dispatchPlan.wrappers.length > 0 then
      let state : TrustState :=
        { state with
          wrapperChain := state.wrapperChain ++ dispatchPlan.wrappers
          current := dispatchPlan.argv
          policyArgv := if !state.sawShellMultiplexer then dispatchPlan.argv else state.policyArgv }
      if state.wrapperChain.length ≥ maxDepth then .ok state
      else trustLoop platform maxDepth turns state
    else
      match unwrapKnownShellMultiplexerInvocation state.current with
      | .blocked wrapper =>
        .error (blockedExecWrapperTrustPlan state.current state.policyArgv state.wrapperChain
          wrapper)
      | .unwrapped wrapper argv =>
        let state : TrustState :=
          { wrapperChain := state.wrapperChain ++ [wrapper]
            policyArgv := if !state.sawShellMultiplexer then state.current else state.policyArgv
            sawShellMultiplexer := true
            current := argv }
        if state.wrapperChain.length ≥ maxDepth then .ok state
        else trustLoop platform maxDepth turns state
      | .notWrapper => .ok state

def resolveExecWrapperTrustPlan (platform : Platform) (argv : List String)
    (maxDepth : ℕ := maxDispatchWrapperDepth) : ExecWrapperTrustPlan :=
  match trustLoop platform maxDepth maxDepth ⟨argv, argv, false, []⟩ with
  | .error plan => plan
  | .ok state =>
    let plan := finalizeExecWrapperTrustPlan platform state.current state.policyArgv
      state.wrapperChain false
    let overflow := blockedExecWrapperTrustPlan state.current state.policyArgv state.wrapperChain
    if state.wrapperChain.length ≥ maxDepth then
      match unwrapKnownDispatchWrapperInvocation platform state.current with
      | .blocked wrapper => overflow wrapper
      | .unwrapped wrapper _ => overflow wrapper
      | .notWrapper =>
        match unwrapKnownShellMultiplexerInvocation state.current with
        | .blocked wrapper => overflow wrapper
        | .unwrapped wrapper _ => overflow wrapper
        | .notWrapper => plan
    else plan

end OpenClaw.Exec
