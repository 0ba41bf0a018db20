import Confine.Config
import Confine.Settings.Value
import Confine.Double.Shortest
import Confine.Text.Quote

/-!
# Reading engine settings from a request

A request carries settings as a tree. Reading visits the entries of a table in key
order, ignores keys it does not know, keeps the default for keys that are absent,
and stops at the first entry whose value has the wrong shape. A list is read as the
fields in declaration order. Each failure says what was found and what was expected.
-/

namespace Confine

open Confine.Settings

/-- What a reader found where it expected something else. -/
inductive Found where
  | null
  | bool (b : Bool)
  | integer (i : Int)
  | float (d : Double)
  | string (s : String)
  | sequence
  | map
  deriving Repr

/-- The words for what was found. -/
def Found.describe : Found → String
  | .null => "null"
  | .bool true => "boolean \x60true\x60"
  | .bool false => "boolean \x60false\x60"
  | .integer i => s!"integer \x60{intText i}\x60"
  | .float d => "floating point \x60" ++ Double.Layout.compact.text d ++ "\x60"
  | .string s => "string " ++ Text.quote s
  | .sequence => "sequence"
  | .map => "map"

/-- What a settings value is, as a message names it. -/
def Settings.Value.found : Value → Found
  | .null => .null
  | .bool b => .bool b
  | .int i => .integer i
  | .float d => .float d
  | .str s => .string s
  | .list _ => .sequence
  | .table _ => .map

/-- Why a settings tree could not be read. -/
inductive ReadError where
  | invalidType (found : Found) (expected : String)
  | invalidValue (found : Found) (expected : String)
  | unknownVariant (name : String) (expected : List String)
  | invalidLength (len : Nat) (expected : String)
  deriving Repr

/-- Backquoted names joined as a message lists alternatives. -/
def alternatives : List String → String
  | [] => "no variants"
  | [a] => s!"\x60{a}\x60"
  | [a, b] => s!"\x60{a}\x60 or \x60{b}\x60"
  | a :: rest => s!"\x60{a}\x60, " ++ alternatives rest

/-- The message of a read failure. -/
def ReadError.message : ReadError → String
  | .invalidType f e => s!"invalid type: {f.describe}, expected {e}"
  | .invalidValue f e => s!"invalid value: {f.describe}, expected {e}"
  | .unknownVariant n e => s!"unknown variant \x60{n}\x60, expected " ++ alternatives e
  | .invalidLength n e => s!"invalid length {natDigits n}, expected {e}"

/-- The largest unsigned 64-bit value. -/
def u64Max : Nat := Nat.pow 2 64 - 1

/-- Reads an unsigned 64-bit count; `kind` names it in messages. -/
def readUnsigned (kind : String) : Value → Except ReadError Nat
  | .int i =>
    if i < 0 then .error (.invalidValue (.integer i) kind)
    else if i.toNat ≤ u64Max then .ok i.toNat
    else .error (.invalidType (.float (Double.ofNat i.toNat)) kind)
  | v => .error (.invalidType v.found kind)

/-- Reads a string. -/
def readString (expected : String) : Value → Except ReadError String
  | .str s => .ok s
  | v => .error (.invalidType v.found expected)

/-- The terminal mode of a name. -/
def TerminalMode.ofName (s : String) : Except ReadError TerminalMode :=
  if s = "pipes" then .ok .pipes
  else if s = "pty" then .ok .pty
  else .error (.unknownVariant s ["pipes", "pty"])

/-- Reads a terminal mode: its name, or a one-entry table naming it with no content. -/
def TerminalMode.read : Value → Except ReadError TerminalMode
  | .str s => TerminalMode.ofName s
  | .table [(k, v)] => do
    let m ← TerminalMode.ofName k
    match v with
    | .null => pure m
    | other => throw (.invalidType other.found "unit")
  | .table _ => .error (.invalidValue .map "map with a single key")
  | v => .error (.invalidType v.found "string or map")

/-- Reads a list of strings. -/
def readStrings : Value → Except ReadError (List String)
  | .list items => items.mapM (readString "a string")
  | v => .error (.invalidType v.found "a sequence")

/-- Reads a value that may be null. -/
def readOptional (read : Value → Except ReadError α) : Value → Except ReadError (Option α)
  | .null => .ok none
  | v => some <$> read v

namespace ExecConfig

/-- The field names, in declaration order. -/
def fieldNames : List String :=
  ["default_timeout_secs", "max_timeout_secs", "max_output_bytes", "env_allowlist",
   "terminal_mode", "shell", "workspace_root", "session_idle_timeout_secs",
   "session_reaper_interval_secs", "max_sessions", "kill_grace_ms", "poll_interval_ms"]

/-- Sets one field from its value; unknown names leave the settings as they are. -/
def setField (c : ExecConfig) (name : String) (v : Value) : Except ReadError ExecConfig :=
  match name with
  | "default_timeout_secs" => return { c with defaultTimeoutSecs := ← readOptional (readUnsigned "u64") v }
  | "max_timeout_secs" => return { c with maxTimeoutSecs := ← readUnsigned "u64" v }
  | "max_output_bytes" => return { c with maxOutputBytes := ← readUnsigned "usize" v }
  | "env_allowlist" => return { c with envAllowlist := ← readOptional readStrings v }
  | "terminal_mode" => return { c with terminalMode := ← TerminalMode.read v }
  | "shell" => return { c with shell := ← readString "a string" v }
  | "workspace_root" => return { c with workspaceRoot := ← readOptional (readString "path string") v }
  | "session_idle_timeout_secs" => return { c with sessionIdleTimeoutSecs := ← readUnsigned "u64" v }
  | "session_reaper_interval_secs" =>
    return { c with sessionReaperIntervalSecs := ← readUnsigned "u64" v }
  | "max_sessions" => return { c with maxSessions := ← readUnsigned "usize" v }
  | "kill_grace_ms" => return { c with killGraceMs := ← readUnsigned "u64" v }
  | "poll_interval_ms" => return { c with pollIntervalMs := ← readUnsigned "u64" v }
  | _ => return c

/-- Reads settings from a tree. A table is visited in key order; a list gives the
fields in declaration order, each read before the list is found to be too long. -/
def read : Value → Except ReadError ExecConfig
  | .table entries =>
    let sorted := entries.mergeSort (fun a b => decide (a.1 ≤ b.1))
    sorted.foldlM (fun c (k, v) => c.setField k v) {}
  | .list items => do
    let c ← (fieldNames.zip items).foldlM (fun c (k, v) => c.setField k v) {}
    if items.length > fieldNames.length then
      throw (.invalidLength items.length "fewer elements in array")
    pure c
  | v => .error (.invalidType v.found "struct ExecConfig")

/-- The settings as a tree, every field present, in key order. -/
def toValue (c : ExecConfig) : Value :=
  let count (n : Nat) : Value := .int n
  .table [
    ("default_timeout_secs", match c.defaultTimeoutSecs with | some s => count s | none => .null),
    ("env_allowlist", match c.envAllowlist with
      | some xs => .list (xs.map .str) | none => .null),
    ("kill_grace_ms", count c.killGraceMs),
    ("max_output_bytes", count c.maxOutputBytes),
    ("max_sessions", count c.maxSessions),
    ("max_timeout_secs", count c.maxTimeoutSecs),
    ("poll_interval_ms", count c.pollIntervalMs),
    ("session_idle_timeout_secs", count c.sessionIdleTimeoutSecs),
    ("session_reaper_interval_secs", count c.sessionReaperIntervalSecs),
    ("shell", .str c.shell),
    ("terminal_mode", .str c.terminalMode.name),
    ("workspace_root", match c.workspaceRoot with | some r => .str r | none => .null)]

end ExecConfig

end Confine
