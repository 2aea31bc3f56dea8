import ApiBinding.CommandLine.Report
import ApiBinding.CommandLine.Usage
import ApiBinding.Configuration.Loader
import ApiBinding.Document.Reader
import ApiBinding.Error
import ApiBinding.Registry.Basic

/-!
# Carrying out commands

A command loads the configuration, reads the description, binds it and reports.  The
first of these that fails ends it.

Main results:

- Theorem `status_eq_zero_iff`: only a command that comes to its report ends well.
-/

namespace ApiBinding.CommandLine

/-- How a command ends. -/
inductive Ending where
  /-- With a report. -/
  | report (text : String)
  /-- Without the operation that was asked for. -/
  | notFound (operation : String)
  /-- With a failure, in words. -/
  | failure (message : String)
  /-- At a fault that is not provided for, in words. -/
  | aborted (message : String)
deriving DecidableEq, Repr

namespace Ending

/-- The status that a command ends with. -/
def status : Ending → Nat
  | report _ => 0
  | notFound _ | failure _ => 1
  | aborted _ => 101

/-- What a command reports. -/
def output : Ending → String
  | report text => text
  | notFound _ | failure _ | aborted _ => ""

/-- What is said where there is nothing to report. -/
def complaint? : Ending → Option String
  | report _ => none
  | notFound operation => some ("Operation " ++ operation ++ " not found")
  | failure message => some ("Error: " ++ message)
  | aborted message => some message

/-- A command ends well exactly if there is nothing to complain about. -/
theorem status_eq_zero_iff (ending : Ending) :
    ending.status = 0 ↔ ending.complaint? = none := by
  cases ending <;> simp [status, complaint?]

end Ending

/-- The namespace where none is asked for: the name of the description's file. -/
def defaultNamespace (path : String) : String :=
  (File.stem? path).getD "Connector"

/-- The functions that a description gives under a configuration. -/
def bindFunctions (configuration : Configuration) (namespaceName : String) (document : Document)
    (connection : Option String) : Except CallFault (List ConnectorFunction) :=
  let globals := match connection with
    | some connection => [(Registry.connectionName, Value.str connection)]
    | none => []
  (Registry.bind {} (configuration.bindingSettings namespaceName) (some document) globals).map Prod.snd

namespace Command

/-- The path of the description. -/
def document : Command → String
  | functions document _ _ | operation document _ _ => document

/-- The namespace that is asked for, or the default one. -/
def namespaceName : Command → String
  | functions document name _ | operation document _ name => name.getD (defaultNamespace document)

/-- The connection that is asked for. -/
def connection? : Command → Option String
  | functions _ _ connection => connection
  | operation _ _ _ => none

/-- The ending of a command for the functions of its description. -/
def conclude (command : Command) (found : List ConnectorFunction) : Ending :=
  match command with
  | functions _ _ _ => .report (functionsReport found)
  | operation _ name _ =>
    match found.find? fun function => function.name == name with
    | none => .notFound name
    | some function => .report (operationReport function)

/-- Carry a command out under a configuration. -/
def run {m : Type → Type} [Monad m] (files : FileAccess m) (configuration : Configuration)
    (command : Command) : m Ending := do
  match ← files.readText command.document with
  | .error fault =>
    return .failure ("Failed to read " ++ command.document ++ ": " ++ fault.message)
  | .ok text =>
    match Document.ofText (String.ofList text) with
    | .error fault =>
      return .failure ("Failed to parse " ++ command.document ++ ": " ++
        (ConnectorError.document fault).message)
    | .ok document =>
      match bindFunctions configuration command.namespaceName document command.connection? with
      | .error fault => return .failure (ConnectorError.call fault).message
      | .ok found => return command.conclude found

end Command

/-- Carry an invocation out. -/
def Invocation.run {m : Type → Type} [Monad m] (files : FileAccess m) (environment : Environment)
    (invocation : Invocation) : m Ending := do
  match ← Configuration.load files environment { path := invocation.configuration } with
  | .error fault =>
    return if fault.isFatal then .aborted fault.message else .failure fault.message
  | .ok configuration => invocation.command.run files configuration

end ApiBinding.CommandLine
