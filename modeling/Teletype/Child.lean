import Teletype.Action
import Teletype.Environment
import Teletype.Log
import Teletype.Text.Utf8
import Teletype.Value

/-!
# Child processes

What a session needs of the process behind it: to read what it wrote, to send to it, to ask whether
it lives and how it ended, and to stop it. A `Child` is that as actions on a state, so that the same
session runs on a terminal, on pipes, or on a script. A `Launch` says how a process is started.
-/

namespace Teletype

/-- The kinds of faults of a child. -/
inductive ChildFaultKind where
  /-- The system refused. -/
  | system
  /-- A value was refused. -/
  | value
  /-- Something else went wrong. -/
  | runtime
  /-- The child has ended. -/
  | ended
  /-- The child was silent for too long. -/
  | silent
deriving DecidableEq, Repr

/-- A fault of a child. -/
structure ChildFault where
  kind : ChildFaultKind
  message : Text
deriving DecidableEq, Repr

/-- A piece of output as it arrives. -/
inductive Chunk where
  | text (t : Text)
  | bytes (b : List UInt8)
deriving DecidableEq, Repr

/-- The text of a piece of output. -/
def Chunk.decoded : Chunk → Text
  | text t => t
  | bytes b => Utf8.decodeLossy b

/-- Whether there is nothing in a piece of output. -/
def Chunk.isEmpty : Chunk → Bool
  | text t => t.isEmpty
  | bytes b => b.isEmpty

/-- A child as actions on a state, with times on a scale. -/
structure Child (κ τ : Type) where
  /-- The clock. -/
  now : κ → τ
  /-- Waits for output, for so long. -/
  read : τ → Action κ ChildFault Chunk
  /-- Sends a value, which is a text but for a key that settings give as something else. -/
  send : Value → Action κ ChildFault Unit
  isAlive : Action κ ChildFault Bool
  /-- Tells the child that nothing more will be sent. -/
  sendEnd : Action κ ChildFault Unit
  /-- Asks the child to end, or forces it to. -/
  terminate : (force : Bool) → Action κ ChildFault Unit
  /-- Waits for the end of the child, for so many seconds. -/
  wait : (seconds : Nat) → Action κ ChildFault Unit
  /-- The status with which the child ended, if it ended by itself. -/
  exitStatus : κ → Option Int
  /-- The signal that ended the child. -/
  signalStatus : κ → Option Int
  /-- A number of reads that no capture of output exceeds, when so many characters are its limit
  and the child does not write for ever. -/
  readLimit : (characters : Nat) → κ → Nat

/-- What a child is run on. -/
inductive Backend where
  | terminal
  | pipes
deriving DecidableEq, Repr

/-- The name of a backend. -/
def Backend.name : Backend → String
  | terminal => "pexpect"
  | pipes => "popen_spawn"

/-- How a process is started. -/
structure Launch where
  command : String
  encoding : String
  /-- What is done about bytes that are no text, if that can be chosen. -/
  onUndecodable : Option String
  /-- The longest wait for output. -/
  timeout : Number
  /-- Rows and columns of the terminal, if there is one. -/
  dimensions : Option (Option Int × Option Int)
  environment : Environment
  directory : Option String

end Teletype
