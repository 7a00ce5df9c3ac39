/-
# The configuration of a session

A session is configured once.  `create` checks every value that it is given and keeps
nothing it has not checked; `replace`, which the runtime uses after a cancellation, copies
a configuration with another conversation to resume and checks nothing.  So whatever is
put in by `replace` must have been checked elsewhere.

The overrides of the environment are planned from a mapping that is not kept; the plan is
an argument here.
-/

import HermesClaude.Python.Value
import Mathlib.Data.List.Lex
import Mathlib.Order.Fin.Basic

namespace HermesClaude.Session

open HermesClaude.Python

/-- What `create` raises. -/
inductive ConfigurationError
  | typeError (message : String)
  | valueError (message : String)
  | assertionError

/-- `SDKSessionConfiguration`. -/
structure SDKSessionConfiguration where
  cwd : PyStr
  model : Option PyStr
  permissionMode : PyStr
  promptSnapshot : PyStr
  resumeExternalSessionId : Option PyStr
  envOverrides : List (PyStr × PyStr)
  mcpServers : List (PyValue × PyValue)
  allowedTools : List PyStr
  turnTimeoutSeconds : Rat
  connectTimeoutSeconds : Rat
  closeTimeoutSeconds : Rat

/-- An id that names a conversation: neither empty nor long, and free of ASCII controls. -/
def IsSessionId (id : PyStr) : Prop :=
  id ≠ [] ∧ id.length ≤ 512 ∧ ∀ c ∈ id, c.isAsciiControl = false

instance (id : PyStr) : Decidable (IsSessionId id) := by
  unfold IsSessionId
  infer_instance

namespace SDKSessionConfiguration

/-- `_MAX_TEXT`. -/
def maxText : Nat := 4096

/-- `_MAX_PROMPT_SNAPSHOT_UTF8_BYTES`. -/
def maxPromptSnapshotUtf8Bytes : Nat := 1048576

/-- `_PERMISSION_MODES`. -/
def permissionModes : List PyStr :=
  [lit "default", lit "acceptEdits", lit "plan", lit "bypassPermissions", lit "dontAsk",
    lit "auto"]

/-- What `create` is called with. -/
structure CreateArguments where
  cwd : PyValue
  model : PyValue := .none
  permissionMode : PyValue := .str (lit "dontAsk")
  promptSnapshot : PyValue := .str []
  resumeExternalSessionId : PyValue := .none
  /-- The items of `plan_sdk_env_overrides(parent_env or {}, configured_env)`. -/
  planned : List (PyStr × PyStr) := []
  settingSources : PyValue := .tuple []
  mcpServers : PyValue := .none
  allowedTools : PyValue := .tuple []
  turnTimeoutSeconds : PyFloat := .finite 600
  connectTimeoutSeconds : PyFloat := .finite 60
  closeTimeoutSeconds : PyFloat := .finite 15

/-! ## The checks -/

/-- `_optional_text`. -/
def optionalText (value : PyValue) (field : String) : Except ConfigurationError (Option PyStr) :=
  match value with
  | .none => .ok none
  | .str s =>
    if s.isEmpty || s.length > maxText || s.any (·.val == 0) then
      .error (.valueError s!"{field} is invalid")
    else .ok (some s)
  | _ => .error (.typeError s!"{field} must be text")

/-- The working directory. -/
def checkCwd (value : PyValue) : Except ConfigurationError PyStr :=
  match optionalText value "cwd" with
  | .error e => .error e
  | .ok none => .error .assertionError
  | .ok (some cwd) => .ok cwd

/-- The prompt snapshot. -/
def checkPromptSnapshot : PyValue → Except ConfigurationError PyStr
  | .str s =>
    if (utf8Size s).all (· > maxPromptSnapshotUtf8Bytes) || s.any (·.val == 0) then
      .error (.valueError "prompt_snapshot is invalid")
    else .ok s
  | _ => .error (.typeError "prompt_snapshot must be text")

/-- The conversation to resume. -/
def checkResume (value : PyValue) : Except ConfigurationError (Option PyStr) :=
  match optionalText value "resume_external_session_id" with
  | .error e => .error e
  | .ok safeResume =>
    if safeResume.any fun id => id.length > 512 || id.any CodePoint.isAsciiControl then
      .error (.valueError "resume_external_session_id is invalid")
    else .ok safeResume

/-- The permission mode. -/
def checkPermissionMode (value : PyValue) : Except ConfigurationError PyStr :=
  match value, value.memTexts permissionModes with
  | .str mode, some true => .ok mode
  | _, none => .error (.typeError "unhashable type")
  | _, _ => .error (.valueError "permission_mode is invalid")

/-- The setting sources, of which there may be none. -/
def checkSettingSources : PyValue → Except ConfigurationError Unit
  | .tuple [] => .ok ()
  | _ => .error (.valueError "setting_sources must be empty")

/-- The text of a tool name. -/
def toolText : PyValue → Option PyStr
  | .str name => if name.isEmpty || name.length > maxText then none else some name
  | _ => none

/-- The tools that need no permission. -/
def checkAllowedTools (value : PyValue) : Except ConfigurationError (List PyStr) :=
  let texts := match value with
    | .tuple items => items.mapM toolText
    | _ => none
  match texts with
  | none => .error (.valueError "allowed_tools is invalid")
  | some names =>
    if names.any fun name =>
        !(lit "mcp__hermes-tools__").isPrefixOf name || name == lit "mcp__hermes-tools__" then
      .error (.valueError "allowed_tools must contain Hermes MCP names")
    else if !decide names.Nodup then .error (.valueError "allowed_tools contains duplicates")
    else .ok names

/-- The MCP servers. -/
def checkMcpServers (value : PyValue) : Except ConfigurationError (List (PyValue × PyValue)) :=
  if !value.truthy then .ok []
  else
    match value.mapping? with
    | none => .error (.typeError "mcp_servers is not a mapping")
    | some items =>
      if items.any fun item => match item.1 with
          | .str name => name.isEmpty || name.length > 256
          | _ => true then
        .error (.valueError "mcp_servers is invalid")
      else if items.any fun item => !item.1.isText (lit "hermes-tools") then
        .error (.valueError "mcp_servers must contain only Hermes MCP")
      else .ok items

/-- One of the three timeouts. -/
def checkTimeout : PyFloat → Except ConfigurationError Rat
  | .finite seconds =>
    if seconds ≤ 0 ∨ seconds > 86400 then .error (.valueError "timeouts must be in (0, 86400]")
    else .ok seconds
  | .nan | .infinite _ => .error (.valueError "timeouts must be in (0, 86400]")

/-- `SDKSessionConfiguration.create`. -/
def create (a : CreateArguments) : Except ConfigurationError SDKSessionConfiguration := do
  let cwd ← checkCwd a.cwd
  let model ← optionalText a.model "model"
  let promptSnapshot ← checkPromptSnapshot a.promptSnapshot
  let resume ← checkResume a.resumeExternalSessionId
  let permissionMode ← checkPermissionMode a.permissionMode
  checkSettingSources a.settingSources
  let allowedTools ← checkAllowedTools a.allowedTools
  let mcpServers ← checkMcpServers a.mcpServers
  let turnTimeoutSeconds ← checkTimeout a.turnTimeoutSeconds
  let connectTimeoutSeconds ← checkTimeout a.connectTimeoutSeconds
  let closeTimeoutSeconds ← checkTimeout a.closeTimeoutSeconds
  return {
    cwd, model, permissionMode, promptSnapshot, mcpServers, allowedTools, turnTimeoutSeconds,
    connectTimeoutSeconds, closeTimeoutSeconds
    resumeExternalSessionId := resume
    envOverrides := a.planned.mergeSort fun first second =>
      decide (first.1 < second.1 ∨ first.1 = second.1 ∧ first.2 ≤ second.2) }

/-- `dataclasses.replace(configuration, resume_external_session_id=…)`. -/
def replace (configuration : SDKSessionConfiguration) (resume : Option PyStr) :
    SDKSessionConfiguration :=
  { configuration with resumeExternalSessionId := resume }

/-- `option_fields`. -/
def optionFields (configuration : SDKSessionConfiguration) : List (String × PyValue) :=
  [("cwd", .str configuration.cwd),
    ("model", configuration.model.elim .none .str),
    ("permission_mode", .str configuration.permissionMode),
    ("system_prompt", .str configuration.promptSnapshot),
    ("env", .dict (configuration.envOverrides.map fun item => (.str item.1, .str item.2))),
    ("setting_sources", .list []),
    ("tools", .list []),
    ("mcp_servers", .dict configuration.mcpServers),
    ("strict_mcp_config", .bool (!configuration.mcpServers.isEmpty)),
    ("allowed_tools", .list (configuration.allowedTools.map .str))] ++
  match configuration.resumeExternalSessionId with
  | some id => [("resume", .str id)]
  | none => []

/-! ## The conversation to resume -/

variable {id : PyStr}

theorem checkResume_of_isSessionId (h : IsSessionId id) : checkResume (.str id) = .ok (some id) := by
  obtain ⟨hne, hlength, hcontrol⟩ := h
  have hnul : id.any (·.val == 0) = false := by
    rw [List.any_eq_false]
    intro c hc hzero
    have hclear := hcontrol c hc
    rw [beq_iff_eq] at hzero
    rw [CodePoint.isAsciiControl, hzero] at hclear
    cases hclear
  have htext : optionalText (.str id) "resume_external_session_id" = .ok (some id) := by
    have hempty : id.isEmpty = false := by simpa using hne
    have hlong : ¬ id.length > maxText := by
      unfold maxText
      omega
    simp [optionalText, hempty, hnul, hlong]
  have hany : id.any CodePoint.isAsciiControl = false := by
    rw [List.any_eq_false]
    intro c hc
    simp [hcontrol c hc]
  have hlong : ¬ id.length > 512 := by omega
  simp [checkResume, htext, hany, hlong]

/-- **What `create` makes of a conversation to resume.** With an id that names one
it succeeds or fails as it does without one, and what it returns differs in the id only. -/
theorem create_resuming (h : IsSessionId id) (a : CreateArguments) :
    create { a with resumeExternalSessionId := .str id } =
      (·.replace (some id)) <$> create { a with resumeExternalSessionId := .none } := by
  have hnone : checkResume .none = .ok none := rfl
  simp only [create, checkResume_of_isSessionId h, hnone, map_bind, map_pure]
  rfl

/-- What a session is told to resume is what its configuration says. -/
theorem lookup_resume (configuration : SDKSessionConfiguration) :
    configuration.optionFields.lookup "resume" =
      configuration.resumeExternalSessionId.map .str := by
  unfold optionFields
  cases configuration.resumeExternalSessionId <;> rfl

end SDKSessionConfiguration

end HermesClaude.Session
