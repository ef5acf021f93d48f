import Switchboard.CommandLine

/-!
# The program

Reads bytes from standard input, never more than the next message needs, so that
every message is answered before the client has to send another; and writes what
the server sends.
-/

open Switchboard

/-- Serves a client over the standard streams until the session is over. -/
partial def serve (session : CommandLine.Session) : IO UInt32 := do
  let chunk ← (← IO.getStdin).read (min session.wanted 65536).toUSize
  if chunk.isEmpty then
    return session.exitCode.toUInt32
  else
    let (session, sent) := session.feed chunk.toList
    let output ← IO.getStdout
    for message in sent do
      output.putStr (Frame.write message)
    output.flush
    if session.closed then
      return session.exitCode.toUInt32
    else
      serve session

/-- The entry point. -/
def main (arguments : List String) : IO UInt32 := do
  match CommandLine.Request.ofArguments arguments with
  | .version => IO.print CommandLine.versionText; return 0
  | .help => IO.print CommandLine.helpText; return 0
  | .serve => serve {}
