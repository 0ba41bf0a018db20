import Confine.Config.Read
import Confine.Settings.Layered

/-!
# Engine settings from layered configuration

The engine's settings are the table `exec` of the layered configuration. A missing
table, or a missing entry, keeps the default; entries the engine does not know are
passed over. A list instead of the table gives the fields in declaration order, and
fields past its end keep their defaults.

A count is read by the count rules of layered settings, and text by its text rules. A
terminal mode is named by a string, or by the single key of a table, in any case. A
problem with an entry names the path of keys and indices that leads to it.
-/

namespace Confine

open Confine.Settings

/-- The name of the terminal mode type, as its messages say it. -/
def TerminalMode.typeName : String := "TerminalMode"

/-- The terminal mode a name stands for, in any case. -/
def TerminalMode.ofVariant (name : String) : Except Problem TerminalMode :=
  let lower := name.toLower
  if lower == "pipes" then .ok .pipes
  else if lower == "pty" then .ok .pty
  else .error (.message ("enum " ++ TerminalMode.typeName ++
    " does not have variant constructor " ++ name))

/-- A terminal mode: a string naming it, or a table whose one key names it. -/
def TerminalMode.ofSetting : Setting → Except Problem TerminalMode
  | .scalar _ (.str s) => TerminalMode.ofVariant s
  | .table _ [(k, _)] => TerminalMode.ofVariant k
  | _ => .error (.message ("value of enum " ++ TerminalMode.typeName ++
    " should be represented by either string or table with exactly one key"))

namespace ExecConfig

/-- Sets one field from a layered setting; unknown names leave the settings as they are. -/
def setLayered (c : ExecConfig) (name : String) (v : Setting) : Except Problem ExecConfig :=
  match name with
  | "default_timeout_secs" => return { c with defaultTimeoutSecs := ← v.optional Setting.count }
  | "max_timeout_secs" => return { c with maxTimeoutSecs := ← v.count }
  | "max_output_bytes" => return { c with maxOutputBytes := ← v.count }
  | "env_allowlist" => return { c with envAllowlist := ← v.optional (Setting.items Setting.text) }
  | "terminal_mode" => return { c with terminalMode := ← TerminalMode.ofSetting v }
  | "shell" => return { c with shell := ← v.text }
  | "workspace_root" => return { c with workspaceRoot := ← v.optional Setting.text }
  | "session_idle_timeout_secs" => return { c with sessionIdleTimeoutSecs := ← v.count }
  | "session_reaper_interval_secs" => return { c with sessionReaperIntervalSecs := ← v.count }
  | "max_sessions" => return { c with maxSessions := ← v.count }
  | "kill_grace_ms" => return { c with killGraceMs := ← v.count }
  | "poll_interval_ms" => return { c with pollIntervalMs := ← v.count }
  | _ => return c

/-- The settings from a layered table, or from a list of the fields in order. -/
def ofSetting (s : Setting) : Except Problem ExecConfig :=
  match s with
  | .table _ entries =>
    entries.foldlM (fun c (k, v) => (c.setLayered k v).mapError (Problem.underKey k)) {}
  | .list _ items =>
    ((fieldNames.zip items).zip (List.range items.length)).foldlM
      (fun c ((k, v), i) => (c.setLayered k v).mapError (Problem.underIndex i)) {}
  | _ => .error (s.mismatch "struct ExecConfig")

/-- The engine's settings from the whole configuration: its table `exec`. -/
def ofConfiguration (root : Setting) : Except Problem ExecConfig :=
  match root.entry? "exec" with
  | none => .ok {}
  | some s => (ofSetting s).mapError (Problem.underKey "exec")

end ExecConfig

end Confine
