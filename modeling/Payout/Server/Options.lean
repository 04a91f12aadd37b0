import Payout.Cli.Parse

/-!
# The server's command line

The server takes the database file to use (an in-memory database when none is given), the
port to listen on (an integer from 0 to 65535, 3000 by default) and the address to bind to
(`127.0.0.1` by default).
-/

namespace Payout.Server

/-- The flags of the server. -/
def serverFlags : List Cli.Flag :=
  [⟨"database", some 'd', some "database",
    "Path to the `SQLite` database file. If not provided, uses in-memory database",
    .set "DATABASE" .text none, false, []⟩,
   ⟨"port", some 'p', some "port", "Port to bind the server to",
    .set "PORT" (.integer 0 65535) (some "3000"), false, []⟩,
   ⟨"bind", some 'b', some "bind", "Address to bind the server to",
    .set "BIND" .text (some "127.0.0.1"), false, []⟩]

/-- The command line of the server. -/
def serverProgram : Cli.Program where
  name := "profit-share-server"
  about := some "HTTP server for the profit distribution engine"
  version := some "0.1.0"
  flags := serverFlags
  commands := []
  commandRequired := false
  helpWhenEmpty := false

/-- The server's settings. -/
structure ServerOptions where
  database : Option String
  port : Nat
  bind : String
deriving Inhabited

/-- Parses the server's command line. -/
def parseServerOptions (args : List String) : Except Cli.Failure ServerOptions := do
  let m ← serverProgram.parse args
  let text := fun id => match serverProgram.value? m id with
    | some (.text s) => some s
    | _ => none
  let port := match serverProgram.value? m "port" with
    | some (.number n) => n.toNat
    | _ => 0
  pure ⟨text "database", port, (text "bind").getD ""⟩

end Payout.Server
