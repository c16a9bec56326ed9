import Laurels.Number.Numeral
import Laurels.Text.LetterCase

/-!
# Settings

The service is set up by variables of its environment. Each setting has a default, except the address of the
database; a setting that is an integer must be given as an integer numeral.
-/

namespace Laurels

/-- How the service is set up. -/
structure Settings where
  databaseUrl : Option String
  poolMin : Int
  poolMax : Int
  host : String
  port : Int
  logLevel : String
  /-- Where requests may come from. -/
  origins : List String
  viewerHeader : String
deriving DecidableEq, Repr

namespace Settings

open Laurels.Text

/-- The parts of a list between commas, trimmed, without the blank ones. -/
def commaList (s : String) : List String :=
  ((piecesOf (· = ',') s).map trimmed).filter fun part => !part.isEmpty

/-- The settings that an environment gives. -/
def ofEnvironment (given : String → Option String) : Except NumberFault Settings := do
  let poolMin ← Numeral.readInt ((given "DB_POOL_MIN_SIZE").getD "1")
  let poolMax ← Numeral.readInt ((given "DB_POOL_MAX_SIZE").getD "10")
  let port ← Numeral.readInt ((given "API_PORT").getD "8000")
  pure
    { databaseUrl := given "DATABASE_URL"
      poolMin
      poolMax
      host := (given "API_HOST").getD "0.0.0.0"
      port
      logLevel := String.ofList (upper ((given "LOG_LEVEL").getD "INFO").toList)
      origins := commaList ((given "CORS_ORIGINS").getD "*")
      viewerHeader := (given "VIEWER_ID_HEADER").getD "X-Viewer-User-Id" }

end Settings

end Laurels
