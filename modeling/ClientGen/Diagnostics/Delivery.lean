/-
  ClientGen/Diagnostics/Delivery.lean
  ===================================
  **What a listener receives.**

  The check level decides how errors are delivered: as they are, as warnings, or not
  at all.  Every other record is delivered unchanged.
-/
import ClientGen.Diagnostics.Log
import ClientGen.Options

namespace ClientGen

open ClientGen.Text

/-- The record as it is delivered at a level. -/
def Diagnostic.delivered (level : CheckLevel) (d : Diagnostic) : Option Diagnostic :=
  match d.severity, level with
  | .error, .off => none
  | .error, .warnings => some { d with severity := .warning }
  | _, _ => some d

def Log.delivered (log : Log) (level : CheckLevel) : List Diagnostic :=
  log.records.filterMap (Diagnostic.delivered level)

/-- What a listener has received: records in order, and announcements of failures. -/
structure Inbox where
  records : List Diagnostic
  failures : List String
deriving DecidableEq, Repr, Inhabited

namespace Inbox

def empty : Inbox := ⟨[], []⟩

def ofSeverity (b : Inbox) (severity : Severity) : List Diagnostic :=
  b.records.filter fun d => d.severity == severity

/-- Some received record of a weight has a message with `needle` in it. -/
def mentions (b : Inbox) (severity : Severity) (needle : String) : Bool :=
  (b.ofSeverity severity).any fun d => contains d.message needle

def receive (b : Inbox) (ds : List Diagnostic) : Inbox :=
  { b with records := b.records ++ ds }

def announce (b : Inbox) (text : String) : Inbox :=
  { b with failures := b.failures ++ [text] }

end Inbox

/-! ### Events -/

/-- A line for an event log. -/
structure Event where
  level : String
  symbol : String
  message : String
deriving DecidableEq, Repr

def eventMark : String := "[KtorGen]: "

def Diagnostic.event (d : Diagnostic) : Event :=
  let level := match d.severity with
    | .error => "ERROR"
    | .warning => "WARN"
    | .step => "DEBUG"
  ⟨level, d.symbol.getD "", eventMark ++ d.message⟩

def Fatal.event (f : Fatal) (withCauses : Bool) : Event :=
  ⟨"ERROR", f.symbol?.getD "", eventMark ++ f.announcement withCauses⟩

end ClientGen
