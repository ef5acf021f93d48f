import Switchboard.Frame
import Switchboard.Server

/-!
# The command line

The program prints its version or a help text, or serves one client over its
standard streams.  Its exit code tells whether the client asked for the shutdown
and the stream ended well.
-/

namespace Switchboard

namespace CommandLine

/-- What the program is asked to do. -/
inductive Request where
  | version
  | help
  | serve
  deriving DecidableEq, Repr

/-- What the arguments ask for; the version goes before the help. -/
def Request.ofArguments (arguments : List String) : Request :=
  if arguments.any fun a => a == "--version" || a == "-V" then .version
  else if arguments.any fun a => a == "--help" || a == "-h" then .help
  else .serve

/-- The version text. -/
def versionText : String := "capstan-lsp " ++ serverVersion ++ "\n"

/-- The help text. -/
def helpText : String := "\n".intercalate [
  "Capstan Language Server",
  "",
  "Usage: capstan-lsp [OPTIONS]",
  "",
  "Options:",
  "  -h, --help     Print help",
  "  -V, --version  Print version",
  "",
  "The server communicates via stdio using the Language Server Protocol.",
  "Settings are read from the initializationOptions of the initialize request.",
  "",
  "Environment variables:",
  "  RUST_LOG       Set log level (e.g., RUST_LOG=capstan_lsp=debug)",
  ""]

/-- The application of the bare program, which has no handlers of its own. -/
def noApplication : Application Unit := fun _ _ _ host => (.ok .null, host.desk, ())

/-- A server over a byte stream: the bytes not yet read, and whether the stream
has turned out unreadable or read its last message. -/
structure Session where
  connection : Connection Unit := .greeting { app := () }
  pending : List UInt8 := []
  /-- Whether no more messages are read. -/
  closed : Bool := false
  /-- Whether a frame was malformed. -/
  broken : Bool := false
  /-- Whether a frame was too large to read. -/
  overflown : Bool := false

namespace Session

/-- Reads the frames at hand, at most `fuel` of them; returns what is sent. -/
def readFrames (session : Session) : Nat → Session × List Message
  | 0 => (session, [])
  | fuel + 1 =>
      if session.closed then (session, [])
      else
        match Frame.take session.pending with
        | .incomplete _ _ => (session, [])
        | .malformed => ({ session with closed := true, broken := true }, [])
        | .oversized => ({ session with closed := true, overflown := true }, [])
        | .message content rest =>
            let (connection, sent) := session.connection.receive noApplication content
            let session := { session with
              connection := connection
              pending := rest
              closed := content.isExit || connection.isEnded }
            let (session, more) := session.readFrames fuel
            (session, sent ++ more)

/-- Takes more bytes from the stream; returns what is sent. -/
def feed (session : Session) (bytes : List UInt8) : Session × List Message :=
  let session := { session with pending := session.pending ++ bytes }
  session.readFrames (session.pending.length + 1)

/-- How many bytes to wait for: no more than the message at hand still needs. -/
def wanted (session : Session) : Nat :=
  match Frame.take session.pending with
  | .incomplete _ missing => missing
  | _ => 1

/-- Whether the stream ends well where it ends: after the last message, or
between header lines. -/
def endsWell (session : Session) : Bool :=
  !session.broken &&
    (session.closed ||
      match Frame.take session.pending with
      | .incomplete mayEnd _ => mayEnd
      | _ => false)

/-- The exit code when the stream has ended.  A message loop that was left for a
frame too large to read has a code of its own. -/
def exitCode (session : Session) : Nat :=
  match session.connection.result with
  | .ok asked =>
      if session.overflown then 101
      else if asked && session.endsWell then 0
      else 1
  | .error _ => 1

end Session

/-- A finished run of the program. -/
structure Outcome where
  exitCode : Nat
  output : String
  sent : List Message := []
  deriving DecidableEq, Repr

/-- Runs the program on a complete input. -/
def run (arguments : List String) (input : List UInt8) : Outcome :=
  match Request.ofArguments arguments with
  | .version => ⟨0, versionText, []⟩
  | .help => ⟨0, helpText, []⟩
  | .serve =>
      let (session, sent) := ({} : Session).feed input
      ⟨session.exitCode, String.join (sent.map Frame.write), sent⟩

end CommandLine

end Switchboard
